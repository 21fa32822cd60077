import ActivityManager.ActivityListingSteps

/-!
# Activities that are live

An activity is live from its launch on, until it is reported to be destroyed,
cannot be created, or is given up.  The reports, the timeouts and the exits of
processes keep the lists of the applications exact, unless a report takes an
activity back to INIT that is listed already.
-/

namespace ActivityManager

namespace TaskStackManager

variable
  {live spared : List Nat}
  {manager middle next : TaskStackManager}
  {lists : TaskLists}
  {token activity : Nat}
  {status : Status}

/-- The application of an activity lists it. -/
def isListed
    (manager : TaskStackManager)
    (activity : Nat) : Bool :=
  (manager.getAppRecord activity).any fun found =>
    activity ∈ found.2.mExistActivity

/-- A report takes an activity back to INIT that is listed. -/
def renews
    (manager : TaskStackManager)
    (token : Nat)
    (status : Status) : Bool :=
  token ∈ manager.mActivityMap ∧
    manager.isAwaited token status ∧
    manager.isListed token ∧
    (manager.activities token).any fun record =>
      (storeReport record status).mStatus = Status.init

/-- The activity that a report or a timeout ends. -/
def endedActivity
    (manager : TaskStackManager) :
    ManagerAction → Option Nat
  | .reportActivityStatus token status =>
      if token ∈ manager.mActivityMap ∧
          (status = Status.destroyed ∨
            status = Status.error ∧
              manager.isAwaited token status ∧
              (manager.activities token).any
                (·.mStatus = Status.creating)) then
        some token
      else
        none
  | .timeout serial =>
      match manager.dueTask serial with
      | some (.lifeCycle activity) =>
          if (manager.activities activity).any fun record =>
              record.mStatus ≠ record.mTargetStatus then
            some activity
          else
            none
      | _ => none
  | _ => none

/-- What is left of some live activities after that. -/
def survivors
    (manager : TaskStackManager)
    (action : ManagerAction)
    (live : List Nat) : List Nat :=
  live.filter (some · ≠ manager.endedActivity action)

/-- Where no activity ends, all survive. -/
theorem survivors_of_none
    {action : ManagerAction}
    (noneEnds : manager.endedActivity action = none) :
    manager.survivors action live = live := by
  rw [survivors, noneEnds, List.filter_eq_self]
  intro activity _
  exact decide_eq_true nofun

/-- Where one does, the others survive. -/
theorem survivors_of_some
    {action : ManagerAction}
    (isEnded : manager.endedActivity action = some activity) :
    manager.survivors action live = live.filter (· ≠ activity) := by
  rw [survivors, isEnded]
  apply List.filter_congr
  intro other _
  rw [decide_eq_decide]
  exact not_congr Option.some_inj

namespace ListedSince

/-- The operations go on. -/
theorem deleted
    (since : ListedSince spared live manager middle)
    (deleted : Deleted ownParts middle lists next) :
    ListedSince spared live manager next := by
  obtain ⟨_, _, moved⟩ := deleted
  exact since.moves (fun _ _ => IsOwn.isPlain) moved.moves

/-- The same, where no list of tasks is lost. -/
theorem moved
    (since : ListedSince spared live manager middle)
    (moved : Moved ownParts middle lists next) :
    ListedSince spared live manager next :=
  since.deleted moved.deleted

end ListedSince

namespace ActivitiesListed

/-- An activity of a running application is listed if it is live. -/
theorem not_mem_of_not_isListed
    (listed : ActivitiesListed live manager)
    (notListed : manager.isListed activity = false) :
    ∀ app record,
      manager.apps app = some record →
      record.mStatus ≠ .appStopped →
      activity ∉ record.mExistActivity := by
  intro app record isRecord notStopped isMember
  obtain ⟨_, isHosted⟩ :=
    (listed.listed app record isRecord notStopped activity).mp isMember
  obtain ⟨found, isFound, isHost⟩ :=
    (Option.any_eq_true _ _).mp isHosted
  have isHost : found.mApp = some app := of_decide_eq_true isHost
  simp [isListed, getAppRecord, isFound, isHost, isRecord,
    isMember] at notListed

/-- Whether an activity that is not listed is live does not matter. -/
theorem dropUnlisted
    (listed : ActivitiesListed live manager)
    (notListed : manager.isListed activity = false) :
    ActivitiesListed (live.filter (· ≠ activity)) manager := by
  refine listed.relive ?_ ?_
  · intro other isLive
    exact listed.launched other (List.mem_filter.mp isLive).1
  · intro app record isRecord notStopped other isHosted
    rw [List.mem_filter, decide_eq_true_eq]
    refine ⟨And.left, fun isLive => ⟨isLive, ?_⟩⟩
    intro isThis
    refine
      listed.not_mem_of_not_isListed notListed app record isRecord
        notStopped ?_
    rw [← isThis]
    exact
      (listed.listed app record isRecord notStopped other).mpr
        ⟨isLive, isHosted⟩

/-- A record that is not listed may be new again. -/
theorem renew
    {record changed : ActivityRecord}
    (listed : ActivitiesListed live manager)
    (isRecord : manager.activities activity = some record)
    (sameToken : changed.mToken = record.mToken)
    (sameApp : changed.mApp = record.mApp)
    (known : activity ∈ manager.mActivityMap)
    (notListed : manager.isListed activity = false) :
    ActivitiesListed live (manager.setRecord activity changed) := by
  have sameHosts :
      ∀ app other,
        (manager.setRecord activity changed).isHostedBy app other =
          manager.isHostedBy app other := by
    intro app other
    unfold isHostedBy setRecord
    dsimp only
    by_cases isThis : other = activity
    · rw [isThis, Function.update_self, isRecord, Option.any_some,
        Option.any_some, sameApp]
    · rw [Function.update_of_ne isThis]
  constructor
  · refine listed.numbered.setRecord isRecord sameToken ?_
    intro app isApp
    exact
      listed.numbered.hosts activity record app isRecord
        (sameApp ▸ isApp)
  · intro other found isFound isInit
    rcases update_some_cases isFound with ⟨isThis, _⟩ | ⟨_, isOld⟩
    · rw [isThis]
      exact known
    · exact listed.fresh other found isOld isInit
  · intro other isLive
    obtain ⟨found, host, isFound, isHost⟩ := listed.launched other isLive
    by_cases isThis : other = activity
    · rw [isThis, isRecord, Option.some.injEq] at isFound
      subst isFound
      rw [isThis]
      exact
        ⟨changed, host, Function.update_self _ _ _,
          sameApp.trans isHost⟩
    · exact
        ⟨found, host, (Function.update_of_ne isThis _ _).trans isFound,
          isHost⟩
  · exact listed.distinct
  · intro app appRecord isApp notStopped other
    rw [sameHosts]
    exact listed.listed app appRecord isApp notStopped other
  · intro app appRecord isApp notStopped other isMember
    obtain ⟨isKnown, notInit⟩ :=
      listed.begun app appRecord isApp notStopped other isMember
    refine ⟨isKnown, ?_⟩
    intro found isFound
    rcases update_some_cases isFound with ⟨isThis, _⟩ | ⟨_, isOld⟩
    · rw [isThis] at isMember
      exact
        absurd isMember
          (listed.not_mem_of_not_isListed notListed app appRecord isApp
            notStopped)
    · exact notInit found isOld

/-! ## Reports -/

/-- The event of a report. -/
theorem statusReport
    (listed : ActivitiesListed live manager)
    (known : token ∈ manager.mActivityMap)
    (notRenewed : manager.renews token status = false)
    (isNext :
      manager.eventTrigger (.activityStatusReport status token) =
        some next) :
    next = manager ∨
      ∃ record,
        manager.activities token = some record ∧
          manager.isAwaited token status = true ∧
          ∀ spared,
            (∀ activity ∈ spared,
              activity = token ∧
                (storeReport record status).mStatus ≠ Status.init) →
            ListedSince spared live manager next := by
  cases isFirst :
      manager.mPendTask.firstPending
        (PendEvent.activityStatusReport status token) with
  | none =>
      rw [eventTrigger, isFirst] at isNext
      exact Or.inl (Option.some.inj isNext).symm
  | some handler =>
      refine Or.inr ?_
      cases isRecord : manager.activities token with
      | none =>
          rw [eventTrigger, isFirst] at isNext
          dsimp only at isNext
          rw [isLifeCycle_of_firstPending isFirst, execute] at isNext
          obtain ⟨record, isFound, _⟩ := Option.bind_eq_some_iff.mp isNext
          exact absurd (isRecord.symm.trans isFound) nofun
      | some record =>
          have isAwaited : manager.isAwaited token status = true := by
            rw [TaskStackManager.isAwaited, isFirst]
            rfl
          refine ⟨record, rfl, isAwaited, ?_⟩
          intro spared areSpared
          have done :
              ActivitiesListed live (manager.done handler.serial) :=
            listed.kept (.of_eq rfl rfl rfl rfl rfl)
          have isStored :
              (storeReport record status).mToken = record.mToken ∧
                (storeReport record status).mApp = record.mApp := by
            unfold storeReport
            split <;> exact ⟨rfl, rfl⟩
          have stored :
              ActivitiesListed live
                ((manager.done handler.serial).setRecord token
                  (storeReport record status)) := by
            by_cases isNew :
                (storeReport record status).mStatus = Status.init
            · refine
                done.renew isRecord isStored.1 isStored.2 known ?_
              by_contra isListed
              have isListed : manager.isListed token = true :=
                Bool.not_eq_false _ ▸ isListed
              have isRenewed : manager.renews token status = true := by
                unfold renews
                rw [isRecord, Option.any_some]
                exact
                  decide_eq_true
                    ⟨known, isAwaited, isListed, decide_eq_true isNew⟩
              exact absurd (isRenewed.symm.trans notRenewed) nofun
            · exact
                done.kept
                  (.setRecord isRecord
                    ⟨isStored.1, isStored.2, fun isInit =>
                      absurd isInit isNew⟩)
          have since :
              ListedSince spared live manager
                ((manager.done handler.serial).setRecord token
                  (storeReport record status)) := by
            refine .start stored (List.append_nil _).symm rfl ?_
            intro activity isSpared found isFound
            obtain ⟨isToken, notInit⟩ := areSpared activity isSpared
            rcases update_some_cases isFound with
              ⟨_, isSet⟩ | ⟨notToken, _⟩
            · rw [isSet]
              exact notInit
            · exact absurd isToken notToken
          have unmoved :
              Moved ownParts _ _
                ((manager.done handler.serial).setRecord token
                  (storeReport record status)) :=
            .refl _
          have follows := Moved.storeReport isFirst isRecord unmoved
          exact since.deleted (follows.of_result isNext)

end ActivitiesListed

/-- What is left to do for a destroyed activity, step by step. -/
theorem reportDestroyed_steps
    (known : token ∈ manager.mActivityMap)
    (isNext : manager.reportDestroyed token = some next) :
    ∃ started left,
      manager.startDestroyed token = some started ∧
        (left = started ∨
          started.deleteActivity token = some left) ∧
        next = left.activityGone token := by
  obtain ⟨destroyed, isDestroyed, ends⟩ :=
    Option.bind_eq_some_iff.mp isNext
  dsimp only at ends
  cases isApp : destroyed.getAppRecord token with
  | none =>
      rw [isApp, Option.bind_eq_bind, Option.bind_some] at ends
      have isStarted : manager.startDestroyed token = some destroyed := by
        simp only [startDestroyed, known, if_true, isDestroyed,
          Option.bind_eq_bind, Option.bind_some, isApp]
      refine ⟨destroyed, destroyed, isStarted, Or.inl rfl, ?_⟩
      rw [activityGone, leaveApp, isApp]
      exact (Option.some.inj ends).symm
  | some found =>
      obtain ⟨app, appRecord⟩ := found
      rw [isApp] at ends
      obtain ⟨left, isLeft, ends⟩ := Option.bind_eq_some_iff.mp ends
      refine ⟨_, left, ?_, Or.inr isLeft, ?_⟩
      · simp only [startDestroyed, known, if_true, isDestroyed,
          Option.bind_eq_bind, Option.bind_some, isApp]
        split <;> rfl
      · rw [← Option.some.inj ends]
        rfl

namespace ActivitiesListed

/-- The activity that is destroyed was not launched meanwhile. -/
theorem activityGone_since
    (since : ListedSince [token] live manager middle) :
    ListedSince [] (live.filter (· ≠ token)) manager
      (middle.activityGone token) := by
  obtain ⟨calls, isMiddle, areSpared, listed⟩ := since
  obtain ⟨notLaunched, hasBegun⟩ :=
    areSpared token (List.mem_singleton_self token)
  have gone := listed.activityGone hasBegun
  have sameLaunches :
      (launches calls).filter (· ≠ token) = launches calls := by
    rw [List.filter_eq_self]
    intro activity member
    refine decide_eq_true ?_
    intro isToken
    exact notLaunched (isToken ▸ member)
  rw [List.filter_append, sameLaunches] at gone
  have leaves :
      ∃ more,
        (middle.activityGone token).calls = middle.calls ++ more ∧
          launches more = [] := by
    change
      ∃ more,
        (middle.leaveApp token).calls = middle.calls ++ more ∧
          launches more = []
    rcases leaveApp_cases middle token with
      ⟨_, left⟩ | ⟨app, old, _, ⟨_, left⟩ | ⟨_, left⟩⟩
    · rw [left]
      exact ⟨[], (List.append_nil _).symm, rfl⟩
    · rw [left]
      exact ⟨[], (List.append_nil _).symm, rfl⟩
    · rw [left]
      exact
        ⟨_, rfl,
          launches_eq_nil
            (stopApplication_noCommand (old.deleteActivity token))⟩
  obtain ⟨more, isGone, noLaunch⟩ := leaves
  have together : launches (calls ++ more) = launches calls := by
    rw [launches, List.filterMap_append, ← launches, ← launches,
      noLaunch, List.append_nil]
  refine ⟨calls ++ more, ?_, by simp, ?_⟩
  · rw [isGone, isMiddle, List.append_assoc]
  · rw [together]
    exact gone

/-- A report that an activity is destroyed. -/
theorem reportDestroyed
    (listed : ActivitiesListed live manager)
    (known : token ∈ manager.mActivityMap)
    (notRenewed : manager.renews token Status.destroyed = false)
    (isReported :
      manager.eventTrigger
        (.activityStatusReport Status.destroyed token) = some middle)
    (isNext : middle.reportDestroyed token = some next) :
    ListedSince [] (live.filter (· ≠ token)) manager next := by
  have stillKnown : token ∈ middle.mActivityMap := by
    rw [eventTrigger_mActivityMap known isReported]
    exact known
  obtain ⟨started, left, isStarted, isLeft, isGone⟩ :=
    reportDestroyed_steps stillKnown isNext
  obtain ⟨_, record, board, isRecord, _, isSet⟩ :=
    startDestroyed_cases isStarted
  have same :=
    record.setStatus_same (by decide : Status.destroyed ≠ 0)
  have kept : ListingsKept middle started := by
    rw [isSet]
    exact
      (ListingsKept.setRecord isRecord same).andThen rfl rfl rfl rfl rfl
  have sameCalls : started.calls = middle.calls := by
    rw [isSet]
    rfl
  have hasBegun : started.HasBegun token := by
    intro found isFound
    rw [isSet] at isFound
    rcases update_some_cases isFound with ⟨_, isDestroyed⟩ | ⟨isOther, _⟩
    · rw [isDestroyed]
      exact (by decide : Status.destroyed ≠ 0)
    · exact absurd rfl isOther
  have startedSince : ListedSince [token] live manager started := by
    rcases listed.statusReport known notRenewed isReported with
      isSame | ⟨old, _, _, reports⟩
    · rw [isSame] at kept sameCalls
      have noCalls : started.calls = manager.calls ++ [] := by
        rw [sameCalls, List.append_nil]
      refine .start (listed.kept kept) noCalls rfl ?_
      intro activity member
      rw [List.mem_singleton.mp member]
      exact hasBegun
    · refine (reports [token] ?_).advance (.of_same kept sameCalls)
      intro activity member
      refine ⟨List.mem_singleton.mp member, ?_⟩
      exact (by decide : Status.destroyed ≠ 0)
  rw [isGone]
  apply activityGone_since
  rcases isLeft with isSame | isDeleted
  · rw [isSame]
    exact startedSince
  · have unmoved : Moved ownParts started started.lists started :=
      .refl started
    exact
      startedSince.deleted
        ((unmoved.deleted.deleteActivity token).of_result isDeleted)

/-- A report of any status. -/
theorem reportActivityStatus
    (listed : ActivitiesListed live manager)
    (notRenewed : manager.renews token status = false)
    (isNext :
      manager.reportActivityStatus token status = some next) :
    ListedSince []
      (manager.survivors (.reportActivityStatus token status) live)
      manager next := by
  unfold TaskStackManager.reportActivityStatus at isNext
  split at isNext
  · rename_i known
    obtain ⟨reported, isReported, isNext⟩ :=
      Option.bind_eq_some_iff.mp isNext
    by_cases isDestroyed : status = Status.destroyed
    · subst isDestroyed
      rw [if_neg (by decide), if_pos rfl] at isNext
      have isEnded :
          manager.endedActivity
              (.reportActivityStatus token Status.destroyed) =
            some token :=
        if_pos ⟨known, Or.inl rfl⟩
      rw [survivors_of_some isEnded]
      exact listed.reportDestroyed known notRenewed isReported isNext
    · have survive :
          ActivitiesListed
            (manager.survivors (.reportActivityStatus token status) live)
            manager := by
        by_cases fails :
            status = Status.error ∧
              manager.isAwaited token status ∧
              (manager.activities token).any
                (·.mStatus = Status.creating)
        · have isEnded :
              manager.endedActivity
                  (.reportActivityStatus token status) =
                some token :=
            if_pos ⟨known, Or.inr fails⟩
          rw [survivors_of_some isEnded]
          apply listed.dropUnlisted
          obtain ⟨isError, isAwaited, isCreating⟩ := fails
          obtain ⟨record, isRecord, isCreating⟩ :=
            (Option.any_eq_true _ _).mp isCreating
          by_contra isListed
          have isListed : manager.isListed token = true :=
            Bool.not_eq_false _ ▸ isListed
          have isRenewed : manager.renews token status = true := by
            unfold renews
            rw [isRecord, Option.any_some]
            refine
              decide_eq_true
                ⟨known, isAwaited, isListed, decide_eq_true ?_⟩
            rw [storeReport, if_pos isError, ActivityRecord.reportError]
            dsimp only
            rw [of_decide_eq_true isCreating]
            decide
          cases isRenewed.symm.trans notRenewed
        · have noneEnds :
              manager.endedActivity
                  (.reportActivityStatus token status) = none := by
            refine if_neg ?_
            rintro ⟨_, isDestroyedNow | failsNow⟩
            · exact isDestroyed isDestroyedNow
            · exact fails failsNow
          rw [survivors_of_none noneEnds]
          exact listed
      have since :
          ListedSince []
            (manager.survivors (.reportActivityStatus token status) live)
            manager reported := by
        rcases survive.statusReport known notRenewed isReported with
          isSame | ⟨_, _, _, reports⟩
        · rw [isSame]
          exact .start survive (List.append_nil _).symm rfl (by simp)
        · exact reports [] (by simp)
      split at isNext
      · have unmoved : Moved ownParts reported reported.lists reported :=
          .refl reported
        exact
          since.moved ((unmoved.reportResumed token).of_result isNext)
      · rw [← Option.some.inj isNext]
        exact since
  · rename_i unknown
    have noneEnds :
        manager.endedActivity (.reportActivityStatus token status) =
          none :=
      if_neg fun ends => unknown ends.1
    rw [survivors_of_none noneEnds, ← Option.some.inj isNext]
    exact .start listed (List.append_nil _).symm rfl (by simp)

/-! ## Timeouts -/

/-- A task times out. -/
theorem timeout
    {serial : Nat}
    (listed : ActivitiesListed live manager)
    (isNext : manager.timeout serial = some next) :
    ListedSince [] (manager.survivors (.timeout serial) live) manager
      next := by
  obtain ⟨task, isDue, isNext⟩ := Option.bind_eq_some_iff.mp isNext
  have done : ActivitiesListed live (manager.done serial) :=
    listed.kept (.of_eq rfl rfl rfl rfl rfl)
  have unmoved :
      Moved ownParts (manager.done serial) (manager.done serial).lists
        (manager.done serial) :=
    .refl _
  cases task with
  | lifeCycle activity =>
      obtain ⟨record, isRecord, isNext⟩ :=
        Option.bind_eq_some_iff.mp isNext
      have isRecord : manager.activities activity = some record := isRecord
      split at isNext
      · rename_i isThere
        have noneEnds : manager.endedActivity (.timeout serial) = none := by
          simp [endedActivity, isDue, isRecord, isThere]
        rw [survivors_of_none noneEnds, ← Option.some.inj isNext]
        exact .start done (List.append_nil _).symm rfl nofun
      · rename_i notThere
        have isEnded :
            manager.endedActivity (.timeout serial) = some activity := by
          simp [endedActivity, isDue, isRecord, notThere]
        rw [survivors_of_some isEnded]
        obtain ⟨exited, isExited, isDeleted⟩ :=
          Option.bind_eq_some_iff.mp isNext
        have ends := Ends.abnormalExit isExited
        obtain ⟨calls, isCalls, noLaunch⟩ := ends.calls
        have since :
            ListedSince [] (live.filter (· ≠ activity)) manager exited :=
          .start (ends.listed live done) isCalls noLaunch nofun
        have unmoved : Moved ownParts exited exited.lists exited :=
          .refl exited
        exact
          since.deleted
            ((unmoved.deleted.deleteActivity activity).of_result
              isDeleted)
  | waitResume resumeActivity willStopActivity =>
      have noneEnds : manager.endedActivity (.timeout serial) = none := by
        simp [endedActivity, isDue]
      have since : ListedSince [] live manager (manager.done serial) :=
        .start done (List.append_nil _).symm rfl nofun
      rw [survivors_of_none noneEnds]
      exact
        since.moved ((unmoved.resume willStopActivity).of_result isNext)
  | delayDestroy willDestroyActivity waitResumeActivity =>
      have noneEnds : manager.endedActivity (.timeout serial) = none := by
        simp [endedActivity, isDue]
      have since : ListedSince [] live manager (manager.done serial) :=
        .start done (List.append_nil _).symm rfl nofun
      rw [survivors_of_none noneEnds]
      exact
        since.moved
          ((unmoved.destroy willDestroyActivity).of_result isNext)

end ActivitiesListed

end TaskStackManager

end ActivityManager
