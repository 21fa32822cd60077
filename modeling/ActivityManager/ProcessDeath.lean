import ActivityManager.CrashCleanup
import ActivityManager.ServiceNumbers

/-!
# What the death of a process leaves

The handler of a child's exit goes through the activities and the services
that the record of the application lists.  A record that was taken off these
lists before, by a timeout or a stop, is not found there, and stays for good.
-/

namespace ActivityManager

open StepSystem (Reachable run?)

/-! ## Numbers of activities -/

namespace TaskStackManager

variable {manager next : TaskStackManager}

/-- Every activity is in the map once, and new ones get new numbers. -/
structure ActivitiesNumbered (manager : TaskStackManager) : Prop where
  distinct : manager.mActivityMap.Nodup
  used : ∀ token ∈ manager.mActivityMap, token < manager.nextActivity

/-- Activities are forgotten, and none begins. -/
theorem ActivitiesNumbered.fewer
    (before : ActivitiesNumbered manager)
    (fewer : next.mActivityMap.Sublist manager.mActivityMap)
    (sameNumber : next.nextActivity = manager.nextActivity) :
    ActivitiesNumbered next where
  distinct := before.distinct.sublist fewer
  used token member := by
    rw [sameNumber]
    exact before.used token (fewer.subset member)

theorem ActivitiesNumbered.sameHosts
    (before : ActivitiesNumbered manager)
    (same : SameHosts manager next) :
    ActivitiesNumbered next :=
  before.fewer same.mActivityMap same.nextActivity

/-- A new activity has the next number. -/
theorem ActivitiesNumbered.insert
    (before : ActivitiesNumbered manager)
    (isInserted :
      next.mActivityMap = manager.nextActivity :: manager.mActivityMap)
    (sameNumber : next.nextActivity = manager.nextActivity + 1) :
    ActivitiesNumbered next where
  distinct := by
    rw [isInserted, List.nodup_cons]
    exact ⟨fun known => Nat.lt_irrefl _ (before.used _ known),
      before.distinct⟩
  used token member := by
    rw [isInserted] at member
    rw [sameNumber]
    rcases List.mem_cons.mp member with isNew | isOld
    · rw [isNew]
      exact Nat.lt_succ_self _
    · exact Nat.lt_succ_of_lt (before.used token isOld)

/-! ## The two loops over the activities -/

/-- The first loop forgets nothing. -/
theorem abnormalExitAll_mActivityMap
    {activities : List Nat}
    (exited : abnormalExitAll activities manager = some next) :
    next.mActivityMap = manager.mActivityMap := by
  induction activities generalizing manager with
  | nil =>
      rw [← Option.some.inj exited]
  | cons activity rest inductionHypothesis =>
      obtain ⟨middle, isMiddle, later⟩ := Option.bind_eq_some_iff.mp exited
      have stepped :
          manager.recordStep? (.abnormalExit activity) = some middle :=
        isMiddle
      rw [inductionHypothesis later, recordStep?_mActivityMap stepped rfl]

/-- A deletion from the stacks does not, either. -/
theorem deleteActivity_mActivityMap
    {activity : Nat}
    (isNext : manager.deleteActivity activity = some next) :
    next.mActivityMap = manager.mActivityMap := by
  have start :
      Moved ownParts manager manager.lists manager :=
    .refl manager
  obtain ⟨_, _, moved⟩ :=
    (start.deleted.deleteActivity activity).of_result isNext
  refine Reachable.invariant ?_ ?_ moved.moves
  · rfl
  · intro state primitive later same isOwn stepped
    exact (recordStep?_mActivityMap stepped isOwn.keepsMap).trans same

/-- The second loop forgets the activities that it goes through. -/
theorem deleteAll_mActivityMap
    {activities : List Nat}
    (deleted : deleteAll activities manager = some next) :
    next.mActivityMap =
      activities.foldl List.erase manager.mActivityMap := by
  induction activities generalizing manager with
  | nil =>
      rw [← Option.some.inj deleted]
      rfl
  | cons activity rest inductionHypothesis =>
      obtain ⟨middle, isMiddle, later⟩ :=
        Option.bind_eq_some_iff.mp deleted
      rw [inductionHypothesis later, List.foldl_cons,
        deleteActivity_mActivityMap isMiddle]

/-- A crash forgets the activities that the application lists. -/
theorem procAppTerminated_mActivityMap
    {app : Nat}
    {record : AppRecord}
    (isRecord : manager.apps app = some record)
    (isNext : manager.procAppTerminated app = some next) :
    next.mActivityMap =
      record.mExistActivity.foldl List.erase manager.mActivityMap := by
  obtain ⟨listing, isListing, isNext⟩ := Option.bind_eq_some_iff.mp isNext
  obtain ⟨exited, isExited, isDeleted⟩ :=
    Option.bind_eq_some_iff.mp isNext
  rw [isRecord, Option.some.injEq] at isListing
  subst isListing
  rw [deleteAll_mActivityMap isDeleted,
    abnormalExitAll_mActivityMap isExited]
  rfl

/-- What several erasures leave of distinct numbers. -/
theorem mem_foldl_erase
    {tokens erased : List Nat}
    (distinct : tokens.Nodup)
    (token : Nat) :
    token ∈ erased.foldl List.erase tokens ↔
      token ∈ tokens ∧ token ∉ erased := by
  induction erased generalizing tokens with
  | nil =>
      simp
  | cons first rest inductionHypothesis =>
      rw [List.foldl_cons, inductionHypothesis (distinct.erase first),
        distinct.mem_erase_iff, List.mem_cons, not_or]
      exact
        ⟨fun ⟨⟨isOther, isToken⟩, notRest⟩ =>
          ⟨isToken, isOther, notRest⟩,
        fun ⟨isToken, isOther, notRest⟩ =>
          ⟨⟨isOther, isToken⟩, notRest⟩⟩

end TaskStackManager

namespace ActivityManagerInner

variable {inner next : ActivityManagerInner}

/-- A callback gives an activity its application, if anything. -/
theorem CallbackOutcome.activitiesNumbered
    {e : AppAttachEvent}
    {callback : AttachCallback}
    (outcome : inner.CallbackOutcome e callback next)
    (before : inner.manager.ActivitiesNumbered) :
    next.manager.ActivitiesNumbered := by
  cases outcome with
  | startActivity _ isSet isAttached quiet =>
      obtain ⟨_, _, isManager⟩ := TaskStackManager.setAppThread_cases isSet
      refine TaskStackManager.ActivitiesNumbered.sameHosts ?_
        (quiet.sameHosts ownParts_areRoutine)
      rw [isAttached.manager, isManager]
      exact before.fewer (.refl _) rfl
  | startService _ =>
      rw [(createService_serviced _ _ _ _ _).manager]
      exact before.fewer (.refl _) rfl

theorem eventTrigger_activitiesNumbered
    {e : AppAttachEvent}
    {packageName : String}
    {handlers : List (TaskTimeoutHandler AppAttachTask)}
    (isNext :
      eventTrigger e packageName handlers inner = some next)
    (before : inner.manager.ActivitiesNumbered) :
    next.manager.ActivitiesNumbered := by
  refine
    eventTrigger_invariant
      (motive := fun after => after.manager.ActivitiesNumbered) ?_
      (fun _ => id) before isNext
  intro middle handler after numbered _ _ outcome
  exact outcome.activitiesNumbered numbered

theorem ReportOutcome.sameHosts
    {token : Nat}
    {status : ServiceStatus}
    (outcome : inner.ReportOutcome token status next) :
    inner.manager.SameHosts next.manager := by
  cases outcome with
  | ignored =>
      exact .refl _
  | stored _ =>
      exact .refl _
  | @unbinded service isFound _ =>
      have stopped :=
        onService_serviced ServiceRecord.keepsKey_stop
          (mem_of_getService isFound).1
      change inner.manager.SameHosts
        (inner.onService ServiceRecord.stop service).manager
      rw [stopped.manager]
      exact .of_eq rfl (.refl _) rfl
  | @destroyed service _ _ =>
      have idle :=
        stopIfIdle_quiet
          { inner with mServices := deleteService inner.mServices token }
          service.mApp
      exact idle.sameHosts stoppingParts_areRoutine

theorem ExitOutcome.sameHosts
    {pid : Nat}
    (outcome : inner.ExitOutcome pid next) :
    inner.manager.SameHosts next.manager := by
  cases outcome with
  | hosted _ _ quiet _ terminated isDeleted _ =>
      have exited :=
        quiet.sameHosts partsOf_procAppTerminated_areRoutine
      rw [deleteAppInfo_cases isDeleted]
      dsimp only
      rw [terminated.manager]
      exact exited.trans (.of_eq rfl (.refl _) rfl)
  | waiting _ _ =>
      exact .refl _
  | unknown _ _ =>
      exact .refl _

/-- Every step keeps the activities numbered. -/
theorem activitiesNumbered_step
    {action : InnerAction}
    (before : inner.manager.ActivitiesNumbered)
    (isNext : inner.step? action = some next) :
    next.manager.ActivitiesNumbered := by
  cases step?_outcome isNext with
  | activity outcome =>
      cases outcome with
      | rejected quiet =>
          exact before.sameHosts (quiet.sameHosts ownParts_areRoutine)
      | turned quiet =>
          exact before.sameHosts (quiet.sameHosts ownParts_areRoutine)
      | hosted _ isCreated quiet =>
          refine TaskStackManager.ActivitiesNumbered.sameHosts ?_
            (quiet.sameHosts ownParts_areRoutine)
          rw [isCreated.manager]
          exact before.insert rfl rfl
      | queued _ _ isCreated submitted quiet =>
          refine TaskStackManager.ActivitiesNumbered.sameHosts ?_
            (quiet.sameHosts ownParts_areRoutine)
          rw [submitted.manager_eq, isCreated.manager]
          exact before.insert rfl rfl
  | service _ outcome =>
      cases outcome with
      | rejected =>
          exact before
      | found isFound =>
          rw [(requestService_serviced (mem_of_findService isFound).1 _
            _).manager]
          exact before.fewer (.refl _) rfl
      | created _ _ _ _ =>
          rw [(createService_serviced _ _ _ _ _).manager]
          exact before.fewer (.refl _) rfl
      | queued _ _ _ submitted =>
          rw [submitted.manager_eq]
          exact before
  | serviced serviced =>
      rw [serviced.manager]
      exact before.fewer (.refl _) rfl
  | reported outcome =>
      exact before.sameHosts outcome.sameHosts
  | attached outcome =>
      cases outcome with
      | known _ =>
          exact before
      | attached _ _ isServed =>
          exact eventTrigger_activitiesNumbered isServed
            (before.fewer (.refl _) rfl)
      | illegal _ =>
          exact before
  | exited outcome =>
      exact before.sameHosts outcome.sameHosts
  | quiet areRoutine quiet =>
      exact before.sameHosts (quiet.sameHosts areRoutine)

/-! ## What is left of a process -/

/-- Nothing that belonged to an application of a pid is left. -/
structure NothingLeft
    (inner : ActivityManagerInner)
    (app pid : Nat) : Prop where
  activities :
    ∀ token ∈ inner.manager.mActivityMap,
      inner.manager.isHostedBy app token = false
  services : ∀ service ∈ inner.mServices, service.mApp ≠ app
  listed :
    ∃ parts,
      ProcessPriorityPolicy.Represents inner.mPriorityPolicy parts ∧
        ∀ entry ∈ parts.all,
          ProcessPriorityPolicy.hasPid pid entry = false
  score : inner.mPriorityPolicy.mLmk.score? pid = none

/-- The record of an application lists all that is kept of it. -/
structure ListsAll
    (inner : ActivityManagerInner)
    (app : Nat)
    (record : AppRecord) : Prop where
  activities :
    ∀ token ∈ inner.manager.mActivityMap,
      inner.manager.isHostedBy app token = true →
      token ∈ record.mExistActivity
  services :
    ∀ service ∈ inner.mServices,
      service.mApp = app →
      service.mToken ∈ record.mExistService

/-- The activities of an application stay its own. -/
theorem isHostedBy_eq
    {manager moved : TaskStackManager}
    (same : manager.SameHosts moved)
    (app token : Nat) :
    moved.isHostedBy app token = manager.isHostedBy app token := by
  have sameApp := same.mApp token
  unfold TaskStackManager.isHostedBy
  cases isOld : manager.activities token with
  | none =>
      rw [isOld, Option.map_none, Option.map_eq_none_iff] at sameApp
      rw [sameApp]
  | some old =>
      rw [isOld] at sameApp
      obtain ⟨new, isNew, isSame⟩ := Option.map_eq_some_iff.mp sameApp
      rw [isNew, Option.any_some, Option.any_some, isSame]

/-- The activities that are left belong to others, or were not listed. -/
theorem activities_left
    {app : Nat}
    {record : AppRecord}
    {exited : ActivityManagerInner}
    (numbered : inner.manager.ActivitiesNumbered)
    (isRecord : inner.manager.apps app = some record)
    (isExited :
      inner.manager.procAppTerminated app = some exited.manager)
    (same : inner.manager.SameHosts next.manager)
    (sameMap :
      next.manager.mActivityMap = exited.manager.mActivityMap) :
    (∀ token ∈ next.manager.mActivityMap,
      next.manager.isHostedBy app token = false) ↔
      ∀ token ∈ inner.manager.mActivityMap,
        inner.manager.isHostedBy app token = true →
        token ∈ record.mExistActivity := by
  have left :
      ∀ token,
        token ∈ next.manager.mActivityMap ↔
          token ∈ inner.manager.mActivityMap ∧
            token ∉ record.mExistActivity := by
    intro token
    rw [sameMap,
      TaskStackManager.procAppTerminated_mActivityMap isRecord isExited]
    exact TaskStackManager.mem_foldl_erase numbered.distinct token
  constructor
  · intro noneLeft token isKnown isHosted
    by_contra notListed
    have isOther := noneLeft token ((left token).mpr ⟨isKnown, notListed⟩)
    rw [isHostedBy_eq same, isHosted] at isOther
    cases isOther
  · intro listsAll token isLeft
    obtain ⟨isKnown, notListed⟩ := (left token).mp isLeft
    rw [isHostedBy_eq same, Bool.eq_false_iff]
    exact fun isHosted => notListed (listsAll token isKnown isHosted)

/-- So it is with the services. -/
theorem services_left
    {app : Nat}
    {tokens : List Nat}
    (keys :
      (next.mServices.map ServiceRecord.key).Perm
        ((inner.mServices.map ServiceRecord.key).filter
          (·.1 ∉ tokens))) :
    (∀ service ∈ next.mServices, service.mApp ≠ app) ↔
      ∀ service ∈ inner.mServices,
        service.mApp = app →
        service.mToken ∈ tokens := by
  have left :
      ∀ key,
        key ∈ next.mServices.map ServiceRecord.key ↔
          key ∈ inner.mServices.map ServiceRecord.key ∧
            key.1 ∉ tokens := by
    intro key
    rw [keys.mem_iff, List.mem_filter, decide_eq_true_eq]
  constructor
  · intro noneLeft service isListed isHosted
    by_contra notListed
    have isLeft :=
      (left service.key).mpr ⟨List.mem_map_of_mem isListed, notListed⟩
    obtain ⟨other, otherLeft, sameKey⟩ := List.mem_map.mp isLeft
    have sameApp : other.mApp = service.mApp :=
      congrArg (fun key => key.2.2) sameKey
    exact noneLeft other otherLeft (sameApp.trans isHosted)
  · intro listsAll service isLeft isHosted
    obtain ⟨wasKey, notListed⟩ :=
      (left service.key).mp (List.mem_map_of_mem isLeft)
    obtain ⟨old, wasListed, sameKey⟩ := List.mem_map.mp wasKey
    have sameApp : old.mApp = service.mApp :=
      congrArg (fun key => key.2.2) sameKey
    have sameToken : old.mToken = service.mToken :=
      congrArg Prod.fst sameKey
    have isIn := listsAll old wasListed (sameApp.trans isHosted)
    rw [sameToken] at isIn
    exact notListed isIn

/-- What an exit leaves, if services and activities have their numbers. -/
theorem ExitOutcome.nothingLeft_iff
    {pid app : Nat}
    {record : AppRecord}
    (outcome : inner.ExitOutcome pid next)
    (numbered : ServicesNumbered inner)
    (activities : inner.manager.ActivitiesNumbered)
    (isList : inner.mPriorityPolicy.IsList)
    (isFound : inner.findAppInfo pid = some app)
    (isRecord : inner.manager.apps app = some record) :
    NothingLeft next app pid ↔ ListsAll inner app record := by
  have sameHosts := outcome.sameHosts
  cases outcome with
  | @hosted other terminating exited ended deleted policy isOther isExited
      quiet isTerminating terminated isDeleted isRemoved =>
      rw [isFound, Option.some.injEq] at isOther
      subst isOther
      have areRoutine :
          (TaskStackManager.partsOf inner.manager
            (.procAppTerminated app)).AreRoutine :=
        partsOf_procAppTerminated_areRoutine
      have sameServices :
          terminating.mExistService = record.mExistService :=
        ((quiet.sameApps areRoutine).apps.isRelated app record terminating
          isRecord isTerminating).mExistService
      have isGone := deleteAppInfo_cases isDeleted
      have swappedNumbered :
          ServicesNumbered (exited.swapServices app terminating) :=
        FewerServices.numbered
          ((quiet.fewerServices areRoutine).trans
            (.of_same rfl rfl (Nat.le_refl _)))
          numbered
      have keys := terminated.keys swappedNumbered.distinct
      have swappedServices :
          (exited.swapServices app terminating).mServices =
            inner.mServices :=
        quiet.mServices
      rw [swappedServices, sameServices] at keys
      have deletedServices : deleted.mServices = ended.mServices := by
        rw [isGone]
      rw [← deletedServices] at keys
      have sameMap :
          deleted.manager.mActivityMap = exited.manager.mActivityMap := by
        rw [isGone]
        dsimp only
        rw [terminated.manager]
        rfl
      have endedList : deleted.mPriorityPolicy.IsList := by
        rw [isGone]
        dsimp only
        rw [terminated.mPriorityPolicy]
        exact quiet.mPriorityPolicy.keepsList isList
      obtain ⟨parts, represents⟩ := endedList
      obtain ⟨left, isLeft, leftListed, leftScores⟩ :=
        represents.remove pid
      rw [isRemoved, Option.some.injEq] at isLeft
      subst isLeft
      constructor
      · intro nothing
        exact
          { activities :=
              (activities_left activities isRecord isExited sameHosts
                sameMap).mp nothing.activities
            services := (services_left keys).mp nothing.services }
      · intro listsAll
        exact
          { activities :=
              (activities_left activities isRecord isExited sameHosts
                sameMap).mpr listsAll.activities
            services := (services_left keys).mpr listsAll.services
            listed := ⟨_, leftListed, represents.remove_pids pid⟩
            score := by
              dsimp only
              rw [leftScores, LowMemoryManager.score?_cancelMonitorPid]
              simp }
  | waiting notFound _ =>
      rw [isFound] at notFound
      cases notFound
  | unknown notFound _ =>
      rw [isFound] at notFound
      cases notFound

/--
In every state that the service reaches, the death of a process leaves nothing
of it if and only if its record lists all that is kept of it.
-/
theorem nothingLeft_iff_listsAll
    (lines : List LmkRow)
    (arena : Int)
    (now : Nat)
    (inner : ActivityManagerInner)
    (reachable :
      Reachable step? Permitted (start lines arena now) inner)
    (pid app : Nat)
    (record : AppRecord)
    (isFound : inner.findAppInfo pid = some app)
    (isRecord : inner.manager.apps app = some record)
    (next : ActivityManagerInner)
    (isNext : inner.childExit pid = some next) :
    NothingLeft next app pid ↔ ListsAll inner app record := by
  have invariant :
      (DistinctProcesses inner ∧ ServicesNumbered inner) ∧
        inner.manager.ActivitiesNumbered ∧
          inner.mPriorityPolicy.IsList := by
    refine
      reachable.invariant
        ⟨⟨.start lines arena now, .start lines arena now⟩,
          ⟨List.nodup_nil, fun _ member => absurd member List.not_mem_nil⟩,
          _, ProcessPriorityPolicy.Represents.empty _⟩ ?_
    rintro middle action after ⟨⟨distinct, numbered⟩, activities, isList⟩
      isPermitted stepped
    exact
      ⟨⟨distinct.step isPermitted stepped,
          numbered.step distinct.bounded stepped⟩,
        activitiesNumbered_step activities stepped,
        step?_keepsList stepped isList⟩
  obtain ⟨⟨_, numbered⟩, activities, isList⟩ := invariant
  exact
    (childExit_outcome isNext).nothingLeft_iff numbered activities isList
      isFound isRecord

/-- A process attaches for its service. -/
def playing : Option ActivityManagerInner :=
  run? step? (start [] 0 0)
    [.startService "player" musicPackage plainIntent (some 11),
      .attachApplication 11 false]

/-- Its exit leaves nothing, since its record lists the service. -/
theorem playing_nothingLeft_iff :
    NothingLeft (((playing.get rfl).childExit 11).get rfl) 0 11 ↔
      ListsAll (playing.get rfl) 0
        (((playing.get rfl).manager.apps 0).get rfl) := by
  have accepted : playing = some (playing.get rfl) :=
    (Option.some_get _).symm
  exact
    nothingLeft_iff_listsAll [] 0 0 _
      (Reachable.of_run? (by decide) accepted) 11 0 _ rfl
      (Option.some_get _).symm _ (Option.some_get _).symm

/-- A service is stopped, and has not reported that it is destroyed. -/
def stopped : Option ActivityManagerInner :=
  run? step? (start [] 0 0)
    [.startService "player" musicPackage plainIntent (some 11),
      .attachApplication 11 false,
      .stopServiceByToken 0]

/-- An activity is given up, and has not reported that it is destroyed. -/
def givenUp : Option ActivityManagerInner :=
  run? step? (start [] 0 0)
    [.startActivity "main" musicPackage plainIntent none true (some 11),
      .attachApplication 11 false,
      .manager (.clockAdvances 10000),
      .manager (.timeout 0)]

/-- If the process exits then, the service or the activity is kept. -/
theorem stopped_somethingLeft :
    (Reachable step? Permitted (start [] 0 0) (stopped.get rfl) ∧
      ¬ NothingLeft (((stopped.get rfl).childExit 11).get rfl) 0 11) ∧
      Reachable step? Permitted (start [] 0 0) (givenUp.get rfl) ∧
        ¬ NothingLeft (((givenUp.get rfl).childExit 11).get rfl) 0 11 := by
  have isStopped : stopped = some (stopped.get rfl) :=
    (Option.some_get _).symm
  have isGivenUp : givenUp = some (givenUp.get rfl) :=
    (Option.some_get _).symm
  refine
    ⟨⟨Reachable.of_run? (by decide) isStopped, ?_⟩,
      Reachable.of_run? (by decide) isGivenUp, ?_⟩
  · intro nothing
    have serviceLeft :
        ∃ service ∈
            (((stopped.get rfl).childExit 11).get rfl).mServices,
          service.mApp = 0 := by
      decide
    obtain ⟨service, isListed, isHosted⟩ := serviceLeft
    exact nothing.services service isListed isHosted
  · intro nothing
    have activityLeft :
        ∃ token ∈
            (((givenUp.get rfl).childExit 11).get rfl).manager.mActivityMap,
          (((givenUp.get rfl).childExit 11).get rfl).manager.isHostedBy 0
            token = true := by
      decide
    obtain ⟨token, isKnown, isHosted⟩ := activityLeft
    have isOther := nothing.activities token isKnown
    rw [isHosted] at isOther
    cases isOther

end ActivityManagerInner

end ActivityManager
