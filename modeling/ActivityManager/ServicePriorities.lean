import ActivityManager.ServiceInvariants

/-!
# The priorities of services and of their processes

A process that runs is raised to the priority of each service that is created
in it.  The services that wait for a process are created when it attaches, by
callbacks that call `add` one after the other: the first of them adds the node
with its own priority, and for the others `add` only returns it.
-/

namespace ActivityManager

open StepSystem (run? Reachable)
open ProcessPriorityPolicy

/-- The priority that the closure has captured, for `add`. -/
def AttachCallback.priority : AttachCallback → ProcessPriority
  | .startActivity _ _ _ _ priority => priority
  | .startService _ _ priority _ => priority

/-- The priority of the service that the closure creates, if it does. -/
def AttachCallback.servicePriority? :
    AttachCallback → Option ProcessPriority
  | .startActivity _ _ _ _ _ => none
  | .startService _ _ priority _ => some priority

/-- The level that a process has after the first of the callbacks. -/
def attachLevel?
    (policy : ProcessPriorityPolicy)
    (pid : Nat)
    (tasks : List (TaskTimeoutHandler AppAttachTask)) :
    Option ProcessPriority :=
  (policy.priorityLevel? pid).or
    (tasks.head?.map (·.mTask.mCallback.priority))

/-- No callback creates a service with a higher priority than that level. -/
def firstIsHighest
    (policy : ProcessPriorityPolicy)
    (pid : Nat)
    (tasks : List (TaskTimeoutHandler AppAttachTask)) : Bool :=
  (attachLevel? policy pid tasks).all fun level =>
    tasks.all fun handler =>
      handler.mTask.mCallback.servicePriority?.all fun priority =>
        priority.rank ≤ level.rank

/-- With the level known, that is a bound for all services. -/
theorem firstIsHighest_iff
    {policy : ProcessPriorityPolicy}
    {pid : Nat}
    {tasks : List (TaskTimeoutHandler AppAttachTask)}
    {level : ProcessPriority}
    (isLevel : attachLevel? policy pid tasks = some level) :
    firstIsHighest policy pid tasks = true ↔
      ∀ handler ∈ tasks,
        ∀ priority ∈ handler.mTask.mCallback.servicePriority?,
          priority.rank ≤ level.rank := by
  rw [firstIsHighest, isLevel]
  simp [Option.all_eq_true]

/-- The first callback leaves the level it has found, or its priority. -/
theorem attachLevel?_cons
    (policy : ProcessPriorityPolicy)
    (pid : Nat)
    (handler : TaskTimeoutHandler AppAttachTask)
    (tasks : List (TaskTimeoutHandler AppAttachTask)) :
    attachLevel? policy pid (handler :: tasks) =
      some
        ((policy.priorityLevel? pid).getD
          handler.mTask.mCallback.priority) := by
  unfold attachLevel?
  cases policy.priorityLevel? pid <;> rfl

/-- Services keep their tokens, applications and priorities. -/
theorem ServiceRecord.lasts_of_traits
    (property : Nat → Nat → ProcessPriority → Prop) :
    Lasts fun service =>
      property service.mToken service.mApp service.mPriority where
  start intent service app holds := by
    unfold ServiceRecord.start
    split <;> exact holds
  stop service app holds := by
    unfold ServiceRecord.stop
    split <;> exact holds
  bind conn intent service app holds := by
    unfold ServiceRecord.bind
    split <;> exact holds
  unbind conn service app holds := by
    unfold ServiceRecord.unbind
    split
    · dsimp only
      split <;> exact holds
    · exact holds
  abnormalExit _ _ holds := holds
  publish _ _ holds := holds
  report _ _ _ holds := holds

namespace ActivityManagerInner

variable {inner next : ActivityManagerInner}

/-- `mPid` of an application that is there. -/
def pidOf
    (inner : ActivityManagerInner)
    (app : Nat) : Option Nat :=
  (inner.manager.apps app).map AppRecord.mPid

/--
The level of every process in the priority list is at least the priority of
each service that lives in the process.
-/
def IsAsImportant (inner : ActivityManagerInner) : Prop :=
  ∀ service ∈ inner.mServices,
    ∀ pid ∈ inner.pidOf service.mApp,
      ∀ level ∈ inner.mPriorityPolicy.priorityLevel? pid,
        service.mPriority.rank ≤ level.rank

/-! ## Steps that create no service -/

/-- No process has a new pid or a new level. -/
structure KeepsRanks (before after : ActivityManagerInner) : Prop where
  pids : ∀ app, ∀ pid ∈ after.pidOf app, pid ∈ before.pidOf app
  levels :
    ∀ pid,
      ∀ level ∈ after.mPriorityPolicy.priorityLevel? pid,
        level ∈ before.mPriorityPolicy.priorityLevel? pid

namespace KeepsRanks

theorem trans
    {middle : ActivityManagerInner}
    (former : KeepsRanks inner middle)
    (latter : KeepsRanks middle next) :
    KeepsRanks inner next where
  pids app pid isPid := former.pids app pid (latter.pids app pid isPid)
  levels pid level isLevel :=
    former.levels pid level (latter.levels pid level isLevel)

/-- The same processes with the same list. -/
theorem of_same
    (samePids : ∀ app, next.pidOf app = inner.pidOf app)
    (samePolicy : next.mPriorityPolicy = inner.mPriorityPolicy) :
    KeepsRanks inner next where
  pids app pid isPid := by
    rwa [samePids app] at isPid
  levels pid level isLevel := by
    rwa [samePolicy] at isLevel

theorem of_quiet
    {parts : TaskStackManager.Parts}
    (isList : inner.mPriorityPolicy.IsList)
    (areRoutine : parts.AreRoutine)
    (quiet : Quiet parts inner next) :
    KeepsRanks inner next where
  pids app pid isPid := by
    unfold pidOf at isPid ⊢
    rwa [(quiet.sameProcesses areRoutine).mPid_eq app] at isPid
  levels pid level isLevel := by
    rwa [(quiet.mPriorityPolicy isList).2 pid] at isLevel

theorem of_serviced (serviced : Serviced inner next) :
    KeepsRanks inner next :=
  .of_same serviced.sameProcesses.mPid_eq serviced.mPriorityPolicy

theorem of_submitted
    {processName : String}
    {callback : AttachCallback}
    {spawned : Option Nat}
    {pid : Nat}
    (submitted :
      inner.Submitted processName callback spawned next pid) :
    KeepsRanks inner next :=
  .of_same (fun app => by rw [pidOf, submitted.manager_eq, pidOf])
    submitted.mPriorityPolicy

theorem of_activity
    {packageInfo : PackageInfo}
    {intent : Intent}
    {spawned : Option Nat}
    {route : Route}
    (isList : inner.mPriorityPolicy.IsList)
    (outcome :
      inner.ActivityOutcome packageInfo intent spawned next route) :
    KeepsRanks inner next := by
  cases outcome with
  | rejected quiet =>
      exact .of_quiet isList ownParts_areRoutine quiet
  | turned quiet =>
      exact .of_quiet isList ownParts_areRoutine quiet
  | hosted _ isCreated quiet =>
      have created : KeepsRanks inner _ :=
        .of_same (isCreated.sameProcesses rfl rfl).mPid_eq
          isCreated.mPriorityPolicy
      refine created.trans (.of_quiet ?_ ownParts_areRoutine quiet)
      rw [isCreated.mPriorityPolicy]
      exact isList
  | queued _ _ isCreated submitted quiet =>
      have created : KeepsRanks inner _ :=
        .of_same (isCreated.sameProcesses rfl rfl).mPid_eq
          isCreated.mPriorityPolicy
      refine
        (created.trans (of_submitted submitted)).trans
          (.of_quiet ?_ ownParts_areRoutine quiet)
      rw [submitted.mPriorityPolicy, isCreated.mPriorityPolicy]
      exact isList

theorem of_report
    {token : Nat}
    {status : ServiceStatus}
    (isList : inner.mPriorityPolicy.IsList)
    (outcome : inner.ReportOutcome token status next) :
    KeepsRanks inner next := by
  cases outcome with
  | ignored =>
      exact .of_same (fun _ => rfl) rfl
  | stored _ =>
      exact .of_serviced (setServiceStatus_serviced inner token status)
  | unbinded isFound _ =>
      have stopped :=
        onService_serviced ServiceRecord.keepsKey_stop
          (mem_of_getService isFound).1
      exact
        .of_serviced
          (stopped.trans (setServiceStatus_serviced _ token status))
  | @destroyed service _ _ =>
      have idle :=
        stopIfIdle_quiet
          { inner with mServices := deleteService inner.mServices token }
          service.mApp
      have deleted :
          KeepsRanks inner
            { inner with
              mServices := deleteService inner.mServices token } :=
        .of_same (fun _ => rfl) rfl
      refine
        (deleted.trans
          (.of_quiet isList stoppingParts_areRoutine idle)).trans ?_
      exact .of_serviced (setServiceStatus_serviced _ token status)

/-- A process that exits leaves the list, and the others stay. -/
theorem of_exit
    {pid : Nat}
    (isList : inner.mPriorityPolicy.IsList)
    (outcome : inner.ExitOutcome pid next) :
    KeepsRanks inner next := by
  cases outcome with
  | @hosted app record exited ended deleted policy _ _ quiet isRecord
      terminated isDeleted isRemoved =>
      have afterExit : KeepsRanks inner exited :=
        .of_quiet isList partsOf_procAppTerminated_areRoutine quiet
      have swapped : KeepsRanks exited (exited.swapServices app record) :=
        .of_same (swapServices_sameProcesses isRecord).mPid_eq rfl
      have ended : KeepsRanks (exited.swapServices app record) ended :=
        .of_same terminated.sameProcesses.mPid_eq
          terminated.mPriorityPolicy
      have endedList : deleted.mPriorityPolicy.IsList := by
        rw [deleteAppInfo_cases isDeleted]
        dsimp only
        rw [terminated.mPriorityPolicy]
        exact (quiet.mPriorityPolicy isList).1
      refine (afterExit.trans swapped).trans (ended.trans ?_)
      constructor
      · intro other otherPid isPid
        rw [deleteAppInfo_cases isDeleted] at isPid
        unfold pidOf at isPid ⊢
        dsimp only at isPid
        by_cases isApp : other = app
        · rw [isApp, Function.update_self] at isPid
          cases isPid
        · rwa [Function.update_of_ne isApp] at isPid
      · intro other level isLevel
        have kept :=
          (remove_levels isRemoved endedList).2 other level isLevel
        rwa [deleteAppInfo_cases isDeleted] at kept
  | waiting _ _ =>
      exact .of_same (fun _ => rfl) rfl
  | unknown _ _ =>
      exact .of_same (fun _ => rfl) rfl

/-- Where no service is created, services stay as important. -/
theorem isAsImportant
    (keeps : KeepsRanks inner next)
    (descend :
      ∀ service ∈ next.mServices,
        ∃ old ∈ inner.mServices,
          old.mApp = service.mApp ∧ old.mPriority = service.mPriority)
    (before : inner.IsAsImportant) :
    next.IsAsImportant := by
  intro service isListed pid isPid level isLevel
  obtain ⟨old, wasListed, sameApp, samePriority⟩ :=
    descend service isListed
  rw [← samePriority]
  refine before old wasListed pid ?_ level (keeps.levels pid level isLevel)
  rw [sameApp]
  exact keeps.pids _ pid isPid

end KeepsRanks

/-! ## Services -/

/-- A service that is not new was there, with its application and priority. -/
theorem exists_before
    {action : InnerAction}
    (numbered : ServicesNumbered inner)
    (fewer : FewerServices inner next)
    (isNext : inner.step? action = some next) :
    ∀ service ∈ next.mServices,
      ∃ old ∈ inner.mServices,
        old.mApp = service.mApp ∧ old.mPriority = service.mPriority := by
  have traits :=
    ServiceRecord.lasts_of_traits fun token app priority =>
      (∃ old ∈ inner.mServices,
        old.mApp = app ∧ old.mPriority = priority) ∨
        inner.nextToken ≤ token
  have descend :=
    EachService.step traits numbered
      (fun service isListed => .inl ⟨service, isListed, rfl, rfl⟩)
      (fun _ _ _ _ isLater => .inr isLater) isNext
  intro service isListed
  refine (descend service isListed).resolve_right ?_
  have isUsed := (fewer.numbered numbered).used service isListed
  rw [fewer.nextToken] at isUsed
  exact Nat.not_le_of_lt isUsed

namespace IsAsImportant

/-- `add` for a process that has a level, or no service yet. -/
theorem add
    {pid : Nat}
    {isForeground : Bool}
    {priority : ProcessPriority}
    {policy : ProcessPriorityPolicy}
    (before : inner.IsAsImportant)
    (isList : inner.mPriorityPolicy.IsList)
    (isAdded :
      inner.mPriorityPolicy.add pid isForeground priority = some policy)
    (noneLives :
      inner.mPriorityPolicy.priorityLevel? pid = none →
      ∀ service ∈ inner.mServices, pid ∉ inner.pidOf service.mApp) :
    { inner with mPriorityPolicy := policy }.IsAsImportant := by
  obtain ⟨_, isLevel, others⟩ := add_levels isAdded isList
  intro service isListed other isPid level hasLevel
  by_cases isOther : other = pid
  · subst isOther
    cases had : inner.mPriorityPolicy.priorityLevel? other with
    | none =>
        exact absurd isPid (noneLives had service isListed)
    | some old =>
        refine before service isListed other isPid level ?_
        rw [had] at isLevel ⊢
        rw [Option.mem_def, isLevel] at hasLevel
        exact hasLevel
  · refine before service isListed other isPid level ?_
    rw [← others other isOther]
    exact hasLevel

/-- Raising a process is to the good of all services. -/
theorem raise
    {pid : Nat}
    {priority : ProcessPriority}
    {policy : ProcessPriorityPolicy}
    (before : inner.IsAsImportant)
    (isList : inner.mPriorityPolicy.IsList)
    (isRaised :
      inner.mPriorityPolicy.raisePriorityLevel pid priority =
        some policy) :
    { inner with mPriorityPolicy := policy }.IsAsImportant := by
  intro service isListed other isPid level hasLevel
  obtain ⟨_, old, hadLevel, notLower⟩ :=
    (raisePriorityLevel_levels isRaised isList).2 other level hasLevel
  exact
    Nat.le_trans (before service isListed other isPid old hadLevel)
      notLower

/-- A new service of a process that is important enough for it. -/
theorem createService
    {policy : ProcessPriorityPolicy}
    {service : ServiceRecord}
    (before : { inner with mPriorityPolicy := policy }.IsAsImportant)
    (isNew :
      ∀ pid ∈ inner.pidOf service.mApp,
        ∀ level ∈ policy.priorityLevel? pid,
          service.mPriority.rank ≤ level.rank)
    (intent : Intent)
    (request : ServiceRequest) :
    (inner.createService policy service intent request).IsAsImportant := by
  let added := { inner with mPriorityPolicy := policy }.addService service
  have addedBefore : added.IsAsImportant := by
    intro other isListed
    rcases List.mem_append.mp isListed with isOld | isLast
    · exact before other isOld
    · rw [List.mem_singleton.mp isLast]
      exact isNew
  have traits :=
    ServiceRecord.lasts_of_traits fun _ app priority =>
      ∃ old ∈ added.mServices, old.mApp = app ∧ old.mPriority = priority
  have kept : KeepsRanks added (inner.createService policy service intent
      request) :=
    .of_serviced (createService_serviced inner policy service intent request)
  refine kept.isAsImportant ?_ addedBefore
  exact
    EachService.requestService traits
      (fun other isListed => ⟨other, isListed, rfl, rfl⟩)
      (List.mem_append_right _ (List.mem_singleton_self service)) intent
      request

end IsAsImportant

/-! ## Processes that attach -/

/-- The level stays what the first callback has made it. -/
theorem runCallback_level
    {e : AppAttachEvent}
    {callback : AttachCallback}
    (isList : inner.mPriorityPolicy.IsList)
    (outcome : inner.CallbackOutcome e callback next) :
    next.mPriorityPolicy.IsList ∧
      next.mPriorityPolicy.priorityLevel? e.mPid =
        some
          ((inner.mPriorityPolicy.priorityLevel? e.mPid).getD
            callback.priority) := by
  cases outcome with
  | startActivity isAdded _ isAttached quiet =>
      obtain ⟨addedList, isLevel, _⟩ := add_levels isAdded isList
      have sameList := isAttached.mPriorityPolicy
      have kept := quiet.mPriorityPolicy
      rw [sameList] at kept
      obtain ⟨nextList, sameLevels⟩ := kept addedList
      exact ⟨nextList, (sameLevels e.mPid).trans isLevel⟩
  | startService isAdded =>
      obtain ⟨addedList, isLevel, _⟩ := add_levels isAdded isList
      rw [(createService_serviced _ _ _ _ _).mPriorityPolicy]
      exact ⟨addedList, isLevel⟩

/-- A callback whose service is not above the level. -/
theorem IsAsImportant.runCallback
    {e : AppAttachEvent}
    {callback : AttachCallback}
    (before : inner.IsAsImportant)
    (isList : inner.mPriorityPolicy.IsList)
    (isHosted : inner.pidOf e.mAppRecord = some e.mPid)
    (noneLives :
      inner.mPriorityPolicy.priorityLevel? e.mPid = none →
      ∀ service ∈ inner.mServices, e.mPid ∉ inner.pidOf service.mApp)
    (notHigher :
      ∀ priority ∈ callback.servicePriority?,
        priority.rank ≤
          ((inner.mPriorityPolicy.priorityLevel? e.mPid).getD
            callback.priority).rank)
    (outcome : inner.CallbackOutcome e callback next) :
    next.IsAsImportant := by
  cases outcome with
  | @startActivity _ _ _ _ _ policy manager attached _ isAdded isSet
      isAttached quiet =>
      obtain ⟨addedList, _, _⟩ := add_levels isAdded isList
      have added := before.add isList isAdded noneLives
      obtain ⟨_, _, isManager⟩ := TaskStackManager.setAppThread_cases isSet
      have samePids :
          ∀ app,
            attached.pidOf app =
              { inner with mPriorityPolicy := policy }.pidOf app := by
        intro app
        rw [pidOf, isAttached.manager, isManager]
        rfl
      have attachedKeeps :
          KeepsRanks { inner with mPriorityPolicy := policy } attached :=
        .of_same samePids isAttached.mPriorityPolicy
      have quietKeeps : KeepsRanks attached next := by
        refine .of_quiet ?_ ownParts_areRoutine quiet
        rw [isAttached.mPriorityPolicy]
        exact addedList
      refine (attachedKeeps.trans quietKeeps).isAsImportant ?_ added
      intro service isListed
      rw [quiet.mServices, isAttached.mServices] at isListed
      exact ⟨service, isListed, rfl, rfl⟩
  | @startService serviceName intent priority request policy isAdded =>
      obtain ⟨_, isLevel, _⟩ := add_levels isAdded isList
      refine
        IsAsImportant.createService (before.add isList isAdded noneLives)
          ?_ intent request
      intro pid isPid level hasLevel
      have samePid : e.mPid = pid :=
        Option.some.inj (isHosted.symm.trans isPid)
      rw [← samePid, Option.mem_def, isLevel, Option.some.injEq]
        at hasLevel
      rw [← hasLevel]
      exact notHigher priority rfl

/-- All callbacks of a process, if none is above the level of the first. -/
theorem IsAsImportant.eventTrigger
    {e : AppAttachEvent}
    {packageName : String}
    {handlers : List (TaskTimeoutHandler AppAttachTask)}
    (before : inner.IsAsImportant)
    (isList : inner.mPriorityPolicy.IsList)
    (isHosted : inner.pidOf e.mAppRecord = some e.mPid)
    (noneLives :
      inner.mPriorityPolicy.priorityLevel? e.mPid = none →
      ∀ service ∈ inner.mServices, e.mPid ∉ inner.pidOf service.mApp)
    (highest :
      firstIsHighest inner.mPriorityPolicy e.mPid
        (handlers.filter (·.pendingFor e)) = true)
    (isNext :
      eventTrigger e packageName handlers inner = some next) :
    next.IsAsImportant := by
  induction handlers generalizing inner with
  | nil =>
      rw [← Option.some.inj isNext]
      exact before
  | cons handler rest inductionHypothesis =>
      rw [ActivityManagerInner.eventTrigger] at isNext
      split at isNext
      · rename_i isPending
        rw [List.filter_cons_of_pos isPending] at highest
        obtain ⟨after, isAfter, isNext⟩ :=
          Option.bind_eq_some_iff.mp isNext
        have outcome := runCallback_outcome isAfter
        let served := inner.serve e packageName handler
        obtain ⟨afterList, isLevel⟩ :=
          @runCallback_level served after e handler.mTask.mCallback isList
            outcome
        rw [firstIsHighest_iff (attachLevel?_cons _ _ _ _)] at highest
        have afterImportant : after.IsAsImportant :=
          @IsAsImportant.runCallback served after e _ before isList
            isHosted noneLives (highest handler List.mem_cons_self) outcome
        have stillHosted : after.pidOf e.mAppRecord = some e.mPid :=
          (outcome.sameProcesses.mPid_eq e.mAppRecord).trans isHosted
        refine
          inductionHypothesis afterImportant afterList stillHosted ?_ ?_
            isNext
        · intro noLevel
          rw [isLevel] at noLevel
          cases noLevel
        · have afterLevel :
              attachLevel? after.mPriorityPolicy e.mPid
                  (rest.filter (·.pendingFor e)) =
                some
                  ((inner.mPriorityPolicy.priorityLevel? e.mPid).getD
                    handler.mTask.mCallback.priority) := by
            rw [attachLevel?, isLevel]
            rfl
          rw [firstIsHighest_iff afterLevel]
          exact fun other member =>
            highest other (List.mem_cons_of_mem _ member)
      · rename_i notPending
        rw [List.filter_cons_of_neg notPending] at highest
        exact
          inductionHypothesis before isList isHosted noneLives highest
            isNext

/-- The services that wait for a process have it to themselves. -/
theorem attachApplication_isAsImportant
    {callerPid : Nat}
    {isSystemUI : Bool}
    (distinct : inner.DistinctProcesses)
    (numbered : inner.ServicesNumbered)
    (isList : inner.mPriorityPolicy.IsList)
    (before : inner.IsAsImportant)
    (highest :
      firstIsHighest inner.mPriorityPolicy callerPid
        (inner.pendingTasks callerPid) = true)
    (outcome : inner.AttachOutcome callerPid isSystemUI next) :
    next.IsAsImportant := by
  cases outcome with
  | known _ =>
      exact before
  | illegal _ =>
      exact before
  | @attached packageName _ notFound _ isServed =>
      generalize isAttached :
        (inner.deleteAppWaitingAttach callerPid).addAppInfo packageName
          isSystemUI callerPid = attached at isServed
      have newRecord :
          ∀ app,
            attached.pidOf app =
              if app = inner.manager.nextApp then some callerPid
              else inner.pidOf app := by
        intro app
        rw [← isAttached]
        change
          (Function.update inner.manager.apps inner.manager.nextApp
            (some (.attached packageName isSystemUI callerPid)) app).map
              AppRecord.mPid = _
        rw [Function.update_apply]
        split <;> rfl
      have sameServices : attached.mServices = inner.mServices := by
        rw [← isAttached]
        rfl
      have samePolicy :
          attached.mPriorityPolicy = inner.mPriorityPolicy := by
        rw [← isAttached]
        rfl
      have oldPid :
          ∀ service ∈ inner.mServices,
            attached.pidOf service.mApp = inner.pidOf service.mApp := by
        intro service isListed
        rw [newRecord, if_neg]
        exact Nat.ne_of_lt (numbered.hosted service isListed)
      have noneHasPid : ∀ app, callerPid ∉ inner.pidOf app := by
        intro app isPid
        obtain ⟨record, isRecord, samePid⟩ :=
          Option.map_eq_some_iff.mp isPid
        have isListed : app ∈ inner.mAppList := by
          rw [distinct.listed, isRecord]
          rfl
        have notPid := List.find?_eq_none.mp notFound app isListed
        rw [isRecord] at notPid
        exact notPid (decide_eq_true samePid)
      refine
        IsAsImportant.eventTrigger ?_ ?_ ?_ ?_ ?_ isServed
      · intro service isListed pid isPid level isLevel
        rw [sameServices] at isListed
        rw [oldPid service isListed] at isPid
        rw [samePolicy] at isLevel
        exact before service isListed pid isPid level isLevel
      · rw [samePolicy]
        exact isList
      · exact (newRecord _).trans (if_pos rfl)
      · intro _ service isListed
        rw [sameServices] at isListed
        rw [oldPid service isListed]
        exact noneHasPid service.mApp
      · rw [samePolicy]
        exact highest

/-! ## Every run -/

/--
When a process attaches, the first callback that waits for it leaves it with a
level that no service among the callbacks exceeds.
-/
def attachesHighest
    (inner : ActivityManagerInner) : InnerAction → Bool
  | .attachApplication callerPid _ =>
      firstIsHighest inner.mPriorityPolicy callerPid
        (inner.pendingTasks callerPid)
  | _ => true

/-- That, and what the operating system promises about pids. -/
def PermittedHighest
    (inner : ActivityManagerInner)
    (action : InnerAction) : Prop :=
  Permitted inner action ∧ inner.attachesHighest action = true

instance decidablePermittedHighest
    (inner : ActivityManagerInner)
    (action : InnerAction) :
    Decidable (PermittedHighest inner action) :=
  inferInstanceAs (Decidable (_ ∧ _))

/-- What holds in every run whose attaches are like that. -/
structure Prioritized (inner : ActivityManagerInner) : Prop where
  distinct : inner.DistinctProcesses
  numbered : inner.ServicesNumbered
  isList : inner.mPriorityPolicy.IsList
  isAsImportant : inner.IsAsImportant

theorem Prioritized.start
    (lines : List LmkRow)
    (arena : Int)
    (now : Nat) :
    Prioritized (start lines arena now) where
  distinct := .start lines arena now
  numbered := .start lines arena now
  isList := ⟨.empty, .empty _⟩
  isAsImportant _ isListed := absurd isListed List.not_mem_nil

/-- Every step keeps the processes as important as their services. -/
theorem Prioritized.step
    {action : InnerAction}
    (before : inner.Prioritized)
    (isPermitted : PermittedHighest inner action)
    (isNext : inner.step? action = some next) :
    next.Prioritized := by
  obtain ⟨distinct, numbered, isList, isAsImportant⟩ := before
  refine
    ⟨distinct.step isPermitted.1 isNext,
      numbered.step distinct.bounded isNext, step?_keepsList isNext isList,
      ?_⟩
  have fewer :
      FewerServices inner next →
      KeepsRanks inner next →
      next.IsAsImportant :=
    fun fewer keeps =>
      keeps.isAsImportant (exists_before numbered fewer isNext)
        isAsImportant
  have same :
      next.mServices = inner.mServices →
      KeepsRanks inner next →
      next.IsAsImportant := by
    intro sameServices keeps
    refine keeps.isAsImportant (fun service isListed => ?_) isAsImportant
    rw [sameServices] at isListed
    exact ⟨service, isListed, rfl, rfl⟩
  cases step?_outcome isNext with
  | activity outcome =>
      exact same outcome.sparesServices.1 (.of_activity isList outcome)
  | @service _ _ _ intent request _ _ _ outcome =>
      cases outcome with
      | rejected =>
          exact isAsImportant
      | found isFound =>
          have serviced :=
            requestService_serviced (mem_of_findService isFound).1 intent
              request
          exact
            fewer (serviced.fewerServices numbered) (.of_serviced serviced)
      | created _ _ isRecord isRaised =>
          refine
            IsAsImportant.createService
              (isAsImportant.raise isList isRaised) ?_ _ _
          intro pid isPid level isLevel
          have samePid := Option.map_eq_some_iff.mp isPid
          obtain ⟨record, isApp, samePid⟩ := samePid
          rw [ServiceRecord.fresh, isRecord, Option.some.injEq] at isApp
          rw [← isApp] at samePid
          exact
            ((raisePriorityLevel_levels isRaised isList).2 pid level
              isLevel).1 samePid.symm
      | queued _ _ _ submitted =>
          exact
            same submitted.mServices_eq (.of_submitted submitted)
  | serviced serviced =>
      exact fewer (serviced.fewerServices numbered) (.of_serviced serviced)
  | reported outcome =>
      exact
        fewer (outcome.fewerServices numbered) (.of_report isList outcome)
  | attached outcome =>
      exact
        attachApplication_isAsImportant distinct numbered isList
          isAsImportant isPermitted.2 outcome
  | exited outcome =>
      exact
        fewer (outcome.fewerServices numbered) (.of_exit isList outcome)
  | quiet areRoutine quiet =>
      exact same quiet.mServices (.of_quiet isList areRoutine quiet)

/--
If no process attaches with a service waiting that is more important than the
first of what waits, every process is as important as its services.
-/
theorem isAsImportant_of_reachable
    (lines : List LmkRow)
    (arena : Int)
    (now : Nat)
    (inner : ActivityManagerInner)
    (reachable :
      Reachable step? PermittedHighest (start lines arena now) inner) :
    inner.IsAsImportant := by
  have prioritized : inner.Prioritized := by
    refine reachable.invariant (.start lines arena now) ?_
    intro middle action after before isPermitted isNext
    exact before.step isPermitted isNext
  exact prioritized.isAsImportant

/-- Of two services that wait for a process, the more important comes first. -/
def playerFirst : Option ActivityManagerInner :=
  run? step? (start [] 0 0)
    [.startService "player" musicPackage plainIntent (some 11),
      .startService "sync" musicPackage plainIntent none,
      .attachApplication 11 false]

/-- The process is as important as both. -/
theorem playerFirst_isAsImportant :
    (playerFirst.get rfl).IsAsImportant := by
  have accepted : playerFirst = some (playerFirst.get rfl) :=
    (Option.some_get _).symm
  exact
    isAsImportant_of_reachable [] 0 0 _
      (Reachable.of_run? (by decide) accepted)

/-- The other order of the same requests. -/
def syncFirst : Option ActivityManagerInner :=
  run? step? (start [] 0 0)
    [.startService "sync" musicPackage plainIntent (some 11),
      .startService "player" musicPackage plainIntent none,
      .attachApplication 11 false]

/-- The process has a low level, and a service with a high priority. -/
theorem syncFirst_not_isAsImportant :
    ¬ (syncFirst.get rfl).IsAsImportant := by
  intro important
  have tooLow :
      ∃ service ∈ (syncFirst.get rfl).mServices,
        (syncFirst.get rfl).pidOf service.mApp = some 11 ∧
          service.mPriority = .high := by
    decide
  obtain ⟨service, isListed, isPid, isHigh⟩ := tooLow
  have isLow :
      (syncFirst.get rfl).mPriorityPolicy.priorityLevel? 11 =
        some .low := by
    decide
  have notHigher := important service isListed 11 isPid .low isLow
  rw [isHigh] at notHigher
  exact absurd notHigher (by decide)

end ActivityManagerInner

end ActivityManager
