import ActivityManager.QueuedRequests

/-!
# Where requests go

A request for a service or an activity reaches a record that exists, a new one
of a running process, or a process that is waiting to attach.  New records are
those of running processes.  Of the lookups for the others only `findTask`
asks for a running process, and only for the one of the root of a task.
-/

namespace ActivityManager

open StepSystem (Reachable run?)

/-! ## Applications that run -/

/-- The application is there, and runs. -/
def isRunning (app : Option AppRecord) : Bool :=
  app.any fun record => record.mStatus = .appRunning

/-- The statuses of the applications are as they were. -/
abbrev SameStatuses : (before after : Nat → Option AppRecord) → Prop :=
  AppsKept fun old new => new.mStatus = old.mStatus

namespace SameStatuses

variable {before after : Nat → Option AppRecord}

theorem refl (apps : Nat → Option AppRecord) :
    SameStatuses apps apps := by
  apply AppsKept.refl
  intro record
  rfl

theorem of_eq (same : after = before) :
    SameStatuses before after := by
  rw [same]
  exact .refl before

theorem trans
    {middle : Nat → Option AppRecord}
    (former : SameStatuses before middle)
    (latter : SameStatuses middle after) :
    SameStatuses before after :=
  AppsKept.trans (fun _ _ _ first second => second.trans first) former
    latter

/-- One record changes, and keeps its status. -/
theorem change
    {app : Nat}
    {old new : AppRecord}
    (isOld : before app = some old)
    (isChanged : after = Function.update before app (some new))
    (sameStatus : new.mStatus = old.mStatus) :
    SameStatuses before after := by
  rw [isChanged]
  exact AppsKept.update (fun _ => rfl) isOld sameStatus

/-- The same applications run. -/
theorem isRunning_eq
    (same : SameStatuses before after)
    (app : Nat) :
    isRunning (after app) = isRunning (before app) := by
  have sameStatus :
      (after app).map AppRecord.mStatus =
        (before app).map AppRecord.mStatus :=
    same.map_eq (fun _ _ isSame => isSame) app
  have byStatus :
      ∀ record : Option AppRecord,
        isRunning record =
          (record.map AppRecord.mStatus).any (· = .appRunning) := by
    intro record
    rw [isRunning, Option.any_map]
  rw [byStatus, byStatus, sameStatus]

end SameStatuses

/-- Listing services is no change of status. -/
theorem WithServices.sameStatus
    {old new : AppRecord}
    (same : WithServices old new) :
    new.mStatus = old.mStatus := by
  rw [same]

namespace TaskStackManager

variable {manager next : TaskStackManager}

/-- The primitive steps of the operations neither stop nor start any. -/
theorem IsOwn.sameStatuses
    {action : RecordAction}
    (isOwn : manager.IsOwn action)
    (isNext : manager.recordStep? action = some next) :
    SameStatuses manager.apps next.apps := by
  cases action with
  | turn activity toStatus =>
      rcases turn_apps isNext with
        isSame | ⟨app, old, listed, isOld, changed⟩
      · exact .of_eq isSame
      · exact .change isOld changed rfl
  | setIntent activity intent =>
      obtain ⟨_, _, isSet⟩ := setIntent_cases isNext
      subst isSet
      exact .refl _
  | restart activity =>
      obtain ⟨_, _, isSet⟩ := setStatus_cases isNext
      subst isSet
      exact .refl _
  | commit task =>
      obtain ⟨_, isCommitted⟩ := commit_cases isNext
      rw [isCommitted]
      exact .refl _
  | complete serial task =>
      obtain ⟨_, _, isDone⟩ := complete_cases isNext
      subst isDone
      exact .refl _
  | setForeground app isForeground =>
      obtain ⟨old, isOld, isSet⟩ := Option.map_eq_some_iff.mp isNext
      subst isSet
      exact .change isOld rfl (old.setForeground_mStatus isForeground)
  | relist lists =>
      rw [← Option.some.inj isNext]
      exact .refl _
  | _ =>
      exact isOwn.elim

/-- Nor do the operations. -/
theorem sameStatuses_of_own
    (moves : Reachable recordStep? IsOwn manager next) :
    SameStatuses manager.apps next.apps := by
  refine moves.invariant (.refl _) ?_
  intro middle action after same isOwn isNext
  exact same.trans (isOwn.sameStatuses isNext)

/-- The application of the activity runs. -/
def runsActivity
    (manager : TaskStackManager)
    (activity : Nat) : Bool :=
  manager.isAliveTask (some activity)

/-- That depends on whose the activity is, and on the statuses. -/
theorem runsActivity_eq
    (manager : TaskStackManager)
    (activity : Nat) :
    manager.runsActivity activity =
      ((manager.activities activity).map ActivityRecord.mApp).any
        fun app => app.any fun app => isRunning (manager.apps app) := by
  unfold runsActivity isAliveTask getAppRecord
  cases isRecord : manager.activities activity with
  | none =>
      simp [isRecord]
  | some record =>
      cases inApp : record.mApp with
      | none =>
          simp [isRecord, inApp]
      | some app =>
          cases isApp : manager.apps app with
          | none =>
              simp [isRecord, inApp, isApp, isRunning]
          | some appRecord =>
              simp [isRecord, inApp, isApp, isRunning]

theorem SameHosts.runsActivity_eq
    (sameHosts : manager.SameHosts next)
    (sameStatuses : SameStatuses manager.apps next.apps)
    (activity : Nat) :
    next.runsActivity activity = manager.runsActivity activity := by
  have sameRunning :
      (fun app => isRunning (next.apps app)) =
        fun app => isRunning (manager.apps app) :=
    funext sameStatuses.isRunning_eq
  rw [TaskStackManager.runsActivity_eq,
    TaskStackManager.runsActivity_eq, sameHosts.mApp, sameRunning]

end TaskStackManager

/-- The activities that exist, if a request has gone to such. -/
def Route.existing : Route → List Nat
  | .activities tokens => tokens
  | _ => []

namespace ActivityManagerInner

variable
  {inner next : ActivityManagerInner}
  {packageInfo : PackageInfo}
  {intent : Intent}
  {spawned : Option Nat}
  {route : Route}

theorem Quiet.sameStatuses
    (quiet : Quiet ownParts inner next) :
    SameStatuses inner.manager.apps next.manager.apps :=
  TaskStackManager.sameStatuses_of_own quiet.moves

/-- The operations of the task managers leave running what runs. -/
theorem Quiet.runsActivity_eq
    (quiet : Quiet ownParts inner next)
    (activity : Nat) :
    next.manager.runsActivity activity =
      inner.manager.runsActivity activity :=
  (quiet.sameHosts ownParts_areRoutine).runsActivity_eq
    quiet.sameStatuses activity

/-- An application that is found to be alive runs. -/
theorem isRunning_of_findAppInfoWithAlive
    {packageName : String}
    {app : Nat}
    (isAlive : inner.findAppInfoWithAlive packageName = some app) :
    isRunning (inner.manager.apps app) := by
  unfold findAppInfoWithAlive at isAlive
  have isMeant := List.find?_some isAlive
  obtain ⟨record, isRecord, _, isRunningRecord⟩ :
      ∃ record,
        inner.manager.apps app = some record ∧
          record.mPackageName = packageName ∧
          record.mStatus = .appRunning := by
    simpa [Option.any_eq_true] using isMeant
  rw [isRecord]
  exact decide_eq_true isRunningRecord

/-! ## Live routes -/

/-- The application of the service runs. -/
def runsService
    (inner : ActivityManagerInner)
    (token : Nat) : Bool :=
  (getService inner.mServices token).any fun service =>
    isRunning (inner.manager.apps service.mApp)

/-- What a request has reached is running, or waits to attach with a task. -/
def IsLive (inner : ActivityManagerInner) : Route → Prop
  | .rejected =>
      False
  | .activities tokens =>
      ∀ token ∈ tokens, inner.manager.runsActivity token
  | .newActivity token =>
      inner.manager.runsActivity token
  | .service token =>
      inner.runsService token
  | .attaching pid =>
      ∃ handler ∈ inner.pendingTasks pid,
        (handler.mTask.processName, pid) ∈ inner.mAppWaitingAttach

/-- The requests, with where they go. -/
def request?
    (inner : ActivityManagerInner) :
    InnerAction → Option (ActivityManagerInner × Route)
  | .startActivity activityName packageInfo intent caller isOkToLaunch
      spawned =>
      inner.startActivity activityName packageInfo intent caller
        isOkToLaunch spawned
  | .startActivityReal activityName packageInfo intent caller isOkToLaunch
      spawned =>
      inner.startActivityReal activityName packageInfo intent caller
        isOkToLaunch spawned
  | .startService serviceName packageInfo intent spawned =>
      inner.startServiceReal serviceName packageInfo intent .start spawned
  | .bindService serviceName packageInfo intent conn spawned =>
      inner.startServiceReal serviceName packageInfo intent (.bind conn)
        spawned
  | _ =>
      none

/-! ## Services -/

/-- The list has a pointer to the record that changes. -/
theorem getService_setService
    {services : List ServiceRecord}
    {changed : ServiceRecord}
    (isListed : changed.mToken ∈ services.map ServiceRecord.mToken) :
    getService (setService services changed) changed.mToken =
      some changed := by
  induction services with
  | nil =>
      exact absurd isListed List.not_mem_nil
  | cons first rest inductionHypothesis =>
      unfold getService setService at inductionHypothesis ⊢
      by_cases isFirst : first.mToken = changed.mToken
      · simp [isFirst]
      · have inRest :
            changed.mToken ∈ rest.map ServiceRecord.mToken := by
          rw [List.map_cons, List.mem_cons] at isListed
          exact isListed.resolve_left fun same => isFirst same.symm
        simpa [isFirst] using inductionHypothesis inRest

/-- The record that receives a request stays with its application. -/
theorem onService_runsService
    {operate : ServiceRecord → Option AppRecord → ServiceEffect}
    {service : ServiceRecord}
    (keeps : ServiceRecord.KeepsKey operate)
    (isListed : service ∈ inner.mServices) :
    (inner.onService operate service).runsService service.mToken =
      isRunning (inner.manager.apps service.mApp) := by
  have sameStatuses :
      SameStatuses inner.manager.apps
        (inner.onService operate service).manager.apps :=
    (onService_serviced keeps isListed).apps.mono
      fun _ _ same => same.sameStatus
  obtain ⟨sameKey, _⟩ := keeps service (inner.manager.apps service.mApp)
  have isRecords :
      (inner.onService operate service).mServices =
        setService inner.mServices
          (operate service (inner.manager.apps service.mApp)).service :=
    rfl
  generalize
    (operate service (inner.manager.apps service.mApp)).service =
      changed at sameKey isRecords
  have sameToken : changed.mToken = service.mToken :=
    congrArg Prod.fst sameKey
  have sameApp : changed.mApp = service.mApp :=
    congrArg (fun key => key.2.2) sameKey
  have stillListed :
      changed.mToken ∈ inner.mServices.map ServiceRecord.mToken := by
    rw [sameToken]
    exact List.mem_map_of_mem isListed
  rw [runsService, isRecords, ← sameToken,
    getService_setService stillListed, Option.any_some, sameApp,
    sameStatuses.isRunning_eq]

theorem requestService_runsService
    {service : ServiceRecord}
    (isListed : service ∈ inner.mServices)
    (intent : Intent)
    (request : ServiceRequest) :
    (inner.requestService service intent request).runsService
        service.mToken =
      isRunning (inner.manager.apps service.mApp) := by
  cases request with
  | start =>
      exact onService_runsService (ServiceRecord.keepsKey_start intent)
        isListed
  | bind conn =>
      exact onService_runsService
        (ServiceRecord.keepsKey_bind conn intent) isListed

/-- The record that `findService` finds is one of a running application. -/
def FindsRunningService
    (inner : ActivityManagerInner)
    (serviceName : String)
    (packageInfo : PackageInfo) : Prop :=
  ∀ service,
    findService inner.manager.apps inner.mServices
        packageInfo.servicePackageName serviceName =
      some service →
    isRunning (inner.manager.apps service.mApp)

/-- A task is queued for a process that waits to attach. -/
theorem enqueue_isLive
    {task : AppAttachTask}
    (waits : (task.processName, task.mPid) ∈ inner.mAppWaitingAttach) :
    (inner.enqueue task).IsLive (.attaching task.mPid) := by
  refine
    ⟨inner.mPendTask.newHandler task uintMax,
      List.mem_filter.mpr ⟨?_, ?_⟩, ?_⟩
  · rw [enqueue_mTasklist]
    exact List.mem_append_right _ (List.mem_singleton_self _)
  · simp [TaskBoard.newHandler]
  · rw [enqueue_mAppWaitingAttach]
    exact waits

theorem Submitted.isLive
    {processName : String}
    {callback : AttachCallback}
    {pid : Nat}
    (submitted :
      inner.Submitted processName callback spawned next pid) :
    next.IsLive (.attaching pid) := by
  cases submitted with
  | behind isWaiting =>
      apply enqueue_isLive
      obtain ⟨entry, isFound, isPid⟩ :=
        Option.map_eq_some_iff.mp isWaiting
      have isNamed := List.find?_some isFound
      have isEntry : entry = (processName, pid) :=
        Prod.ext (beq_iff_eq.mp isNamed) isPid
      rw [← isEntry]
      exact List.mem_of_find?_eq_some isFound
  | first noneWaits isSpawned =>
      apply enqueue_isLive
      exact List.mem_append_right _ (List.mem_singleton_self _)

/-- A request for a service goes where it should if the record found runs. -/
theorem ServiceOutcome.isLive_iff
    {serviceName : String}
    {request : ServiceRequest}
    (outcome :
      inner.ServiceOutcome serviceName packageInfo intent request spawned
        next route)
    (isOk : route.isOk = true) :
    next.IsLive route ↔
      inner.FindsRunningService serviceName packageInfo := by
  cases outcome with
  | rejected =>
      cases isOk
  | found isFound =>
      have isListed := (mem_of_findService isFound).1
      rw [IsLive, requestService_runsService isListed]
      constructor
      · intro runs other otherFound
        rw [isFound, Option.some.injEq] at otherFound
        rwa [← otherFound]
      · intro finds
        exact finds _ isFound
  | created notFound isAlive isApp isRaised =>
      refine iff_of_true ?_ ?_
      · rw [IsLive, createService]
        refine (requestService_runsService ?_ intent request).trans ?_
        · exact List.mem_append_right _ (List.mem_singleton_self _)
        · exact isRunning_of_findAppInfoWithAlive isAlive
      · intro service isFound
        rw [notFound] at isFound
        cases isFound
  | queued isDeclared notFound noneAlive submitted =>
      refine iff_of_true submitted.isLive ?_
      intro service isFound
      rw [notFound] at isFound
      cases isFound

/-! ## Activities -/

/-- The task that exists, in which a request looks for its activity. -/
def existingTask
    (inner : ActivityManagerInner)
    (isSystemUI : Bool)
    (plan : StartPlan) : Option Nat :=
  if plan.startFlag &&& flagActivityNewTask ≠ 0 then
    inner.findTask isSystemUI plan.taskAffinity
  else
    inner.getActiveTask isSystemUI

/--
An activity of the task answers the request: its top, or the first of the
name, as the launch mode has it.
-/
def Answers
    (inner : ActivityManagerInner)
    (isSystemUI : Bool)
    (plan : StartPlan)
    (activityUniqueName : String)
    (activity : Nat) : Prop :=
  ∃ task,
    inner.existingTask isSystemUI plan = some task ∧
      match plan.launchMode with
      | .standard => False
      | .singleTop =>
          (inner.activityArray isSystemUI task).getLast? =
              some activity ∧
            inner.activityName activity = some activityUniqueName
      | _ =>
          ((inner.activityArray isSystemUI task).find? fun activity =>
              inner.activityName activity = some activityUniqueName) =
            some activity

/-- What `targetActivity` finds in a task that is there. -/
theorem targetActivity_eq_some_iff
    {isSystemUI : Bool}
    {plan : StartPlan}
    {activityUniqueName : String}
    {target : Option Nat}
    {startFlag : Nat}
    (isTarget :
      inner.targetActivity isSystemUI plan
          (inner.existingTask isSystemUI plan) false activityUniqueName =
        some (target, startFlag))
    (activity : Nat) :
    target = some activity ↔
      inner.Answers isSystemUI plan activityUniqueName activity := by
  unfold Answers
  rw [targetActivity, if_neg Bool.false_ne_true] at isTarget
  have byName
      (found :
        (do
          let task ← inner.existingTask isSystemUI plan
          some
            ((inner.activityArray isSystemUI task).find? fun activity =>
                inner.activityName activity = some activityUniqueName,
              plan.startFlag ||| flagActivityClearTop)) =
          some (target, startFlag)) :
      target = some activity ↔
        ∃ task,
          inner.existingTask isSystemUI plan = some task ∧
            ((inner.activityArray isSystemUI task).find? fun activity =>
                inner.activityName activity = some activityUniqueName) =
              some activity := by
    obtain ⟨task, isTask, found⟩ := Option.bind_eq_some_iff.mp found
    rw [Option.some.injEq, Prod.mk.injEq] at found
    simp only [isTask, ← found.1, Option.some.injEq, exists_eq_left']
  cases hasMode : plan.launchMode with
  | standard =>
      rw [hasMode, Option.some.injEq, Prod.mk.injEq] at isTarget
      simp [← isTarget.1]
  | singleTop =>
      rw [hasMode] at isTarget
      obtain ⟨task, isTask, isTarget⟩ := Option.bind_eq_some_iff.mp isTarget
      obtain ⟨top, isTop, isTarget⟩ := Option.bind_eq_some_iff.mp isTarget
      rw [Option.some.injEq, Prod.mk.injEq] at isTarget
      simp only [isTask, ← isTarget.1, Option.some.injEq, exists_eq_left',
        isTop]
      split
      · rename_i isNamed
        rw [Option.some.injEq]
        refine ⟨fun isActivity => ⟨isActivity, ?_⟩, And.left⟩
        rwa [← isActivity]
      · rename_i notNamed
        refine ⟨nofun, fun ⟨isActivity, isNamed⟩ => ?_⟩
        rw [isActivity] at notNamed
        exact absurd isNamed notNamed
  | singleTask =>
      rw [hasMode] at isTarget
      exact byName isTarget
  | singleInstance =>
      rw [hasMode] at isTarget
      exact byName isTarget

/-- `targetActivity`, in the task that exists or in a new one. -/
theorem target_eq_some_iff
    {isSystemUI : Bool}
    {plan : StartPlan}
    {activityUniqueName : String}
    {target : Option Nat}
    {startFlag : Nat}
    (isTarget :
      (inner.targetTask isSystemUI plan).1.targetActivity isSystemUI plan
          (inner.targetTask isSystemUI plan).2.1
          (inner.targetTask isSystemUI plan).2.2 activityUniqueName =
        some (target, startFlag))
    (activity : Nat) :
    target = some activity ↔
      inner.Answers isSystemUI plan activityUniqueName activity := by
  unfold targetTask at isTarget
  split at isTarget
  · rename_i needsTask
    have isExisting :
        inner.existingTask isSystemUI plan =
          inner.findTask isSystemUI plan.taskAffinity :=
      if_pos needsTask
    split at isTarget
    · rename_i task isFound
      rw [isFound] at isExisting
      dsimp only at isTarget
      rw [← isExisting] at isTarget
      exact targetActivity_eq_some_iff isTarget activity
    · rename_i notFound
      rw [targetActivity, if_pos rfl, Option.some.injEq,
        Prod.mk.injEq] at isTarget
      rw [← isTarget.1]
      refine ⟨nofun, ?_⟩
      rintro ⟨task, isTask, _⟩
      rw [isExisting, notFound] at isTask
      cases isTask
  · rename_i needsNone
    have isExisting :
        inner.existingTask isSystemUI plan =
          inner.getActiveTask isSystemUI :=
      if_neg needsNone
    dsimp only at isTarget
    rw [← isExisting] at isTarget
    exact targetActivity_eq_some_iff isTarget activity

/-- A request that creates an activity goes to none that exists. -/
theorem startNewActivity_existing
    {activityUniqueName : String}
    {plan : StartPlan}
    {task : Option Nat}
    {startFlag : Nat}
    {isOkToLaunch : Bool}
    (isResult :
      inner.startNewActivity packageInfo activityUniqueName plan task
        startFlag intent isOkToLaunch spawned = some (next, route)) :
    route.existing = [] := by
  unfold startNewActivity at isResult
  dsimp only at isResult
  split at isResult
  · obtain ⟨pushed, _, isResult⟩ := Option.bind_eq_some_iff.mp isResult
    rw [Option.some.injEq, Prod.mk.injEq] at isResult
    rw [← isResult.2]
    rfl
  · split at isResult
    · split at isResult
      all_goals
        rw [Option.some.injEq, Prod.mk.injEq] at isResult
        rw [← isResult.2]
        rfl
    · rw [Option.some.injEq, Prod.mk.injEq] at isResult
      rw [← isResult.2]
      rfl

/-- The activities that answer a request for an activity of a package. -/
def AnswersRequest
    (inner : ActivityManagerInner)
    (activityName : String)
    (packageInfo : PackageInfo)
    (intent : Intent)
    (caller : Option Nat)
    (activity : Nat) : Prop :=
  ∃ info,
    packageInfo.activitiesInfo.find? (·.name == activityName) =
        some info ∧
      inner.Answers packageInfo.isSystemUI
        (inner.startPlan packageInfo info intent caller)
        (packageInfo.packageName ++ "/" ++ activityName) activity

/-- A request goes to the activity that answers it, if there is one. -/
theorem startActivityReal_existing
    {activityName : String}
    {caller : Option Nat}
    {isOkToLaunch : Bool}
    (isResult :
      inner.startActivityReal activityName packageInfo intent caller
        isOkToLaunch spawned = some (next, route))
    (activity : Nat) :
    activity ∈ route.existing ↔
      inner.AnswersRequest activityName packageInfo intent caller
        activity := by
  unfold startActivityReal at isResult
  dsimp only at isResult
  unfold AnswersRequest
  split at isResult
  · rename_i notDeclared
    rw [Option.some.injEq, Prod.mk.injEq] at isResult
    rw [← isResult.2, notDeclared]
    simp [Route.existing]
  · rename_i info isDeclared
    obtain ⟨⟨target, startFlag⟩, isTarget, isResult⟩ :=
      Option.bind_eq_some_iff.mp isResult
    have answers := target_eq_some_iff isTarget activity
    simp only [isDeclared, Option.some.injEq, exists_eq_left',
      ← answers]
    dsimp only at isResult
    split at isResult
    · obtain ⟨task, _, isResult⟩ := Option.bind_eq_some_iff.mp isResult
      obtain ⟨turned, isTurned, isResult⟩ :=
        Option.bind_eq_some_iff.mp isResult
      rw [Option.some.injEq, Prod.mk.injEq] at isResult
      rw [← isResult.2, Option.some.injEq]
      exact List.mem_singleton.trans eq_comm
    · rw [startNewActivity_existing isResult]
      exact iff_of_false List.not_mem_nil nofun

/--
The same for `startActivity`, which switches to the task of a package if there
is one and the intent names no activity.
-/
def AnswersStart
    (inner : ActivityManagerInner)
    (activityName : String)
    (packageInfo : PackageInfo)
    (intent : Intent)
    (caller : Option Nat)
    (activity : Nat) : Prop :=
  let isSystemUI := packageInfo.isSystemUI
  let apptask :=
    if activityName.isEmpty then
      inner.findTask isSystemUI packageInfo.packageName
    else
      none
  match apptask with
  | some task =>
      activity ∈ inner.switchedActivities isSystemUI task
  | none =>
      inner.AnswersRequest
        (if activityName.isEmpty then packageInfo.entry else activityName)
        packageInfo intent caller activity

theorem startActivity_existing
    {activityName : String}
    {caller : Option Nat}
    {isOkToLaunch : Bool}
    (isResult :
      inner.startActivity activityName packageInfo intent caller
        isOkToLaunch spawned = some (next, route))
    (activity : Nat) :
    activity ∈ route.existing ↔
      inner.AnswersStart activityName packageInfo intent caller
        activity := by
  obtain ⟨⟨middle, target⟩, isTarget, isResult⟩ :=
    Option.bind_eq_some_iff.mp isResult
  have sameRoute : target = route := by
    dsimp only at isResult
    split at isResult
    · rw [Option.some.injEq, Prod.mk.injEq] at isResult
      exact isResult.2
    · obtain ⟨left, _, isResult⟩ := Option.bind_eq_some_iff.mp isResult
      obtain ⟨after, _, isResult⟩ := Option.bind_eq_some_iff.mp isResult
      rw [Option.some.injEq, Prod.mk.injEq] at isResult
      exact isResult.2
  subst sameRoute
  unfold startTarget at isTarget
  unfold AnswersStart
  dsimp only at isTarget ⊢
  generalize
    (if activityName.isEmpty = true then
      inner.findTask packageInfo.isSystemUI packageInfo.packageName
    else
      none) = apptask at isTarget ⊢
  cases apptask with
  | some task =>
      obtain ⟨switched, _, isTarget⟩ :=
        Option.bind_eq_some_iff.mp isTarget
      rw [Option.some.injEq, Prod.mk.injEq] at isTarget
      rw [← isTarget.2]
      rfl
  | none =>
      exact startActivityReal_existing isTarget activity

/-- New activities are those of running applications. -/
theorem newActivity_runsActivity
    (manager : TaskStackManager)
    (name : String)
    (app task : Nat)
    (intent : Intent) :
    (manager.newActivity name app task intent).runsActivity
        manager.nextActivity =
      isRunning (manager.apps app) := by
  rw [TaskStackManager.runsActivity_eq]
  simp [TaskStackManager.newActivity, TaskStackManager.setRecord,
    ActivityRecord.fresh]

/-- A request for an activity is fine if those that exist are. -/
theorem ActivityOutcome.isLive_iff
    (outcome :
      inner.ActivityOutcome packageInfo intent spawned next route)
    (isOk : route.isOk = true) :
    next.IsLive route ↔
      ∀ activity ∈ route.existing,
        inner.manager.runsActivity activity := by
  cases outcome with
  | rejected quiet =>
      cases isOk
  | turned quiet =>
      exact forall₂_congr fun activity _ => by
        rw [quiet.runsActivity_eq]
  | hosted isAlive isCreated quiet =>
      refine iff_of_true ?_ nofun
      rw [IsLive, quiet.runsActivity_eq, isCreated.manager,
        newActivity_runsActivity]
      exact isRunning_of_findAppInfoWithAlive isAlive
  | queued noneAlive noneWaits isCreated submitted quiet =>
      refine iff_of_true ?_ nofun
      have isLive := submitted.isLive
      rw [IsLive, pendingTasks] at isLive ⊢
      rw [quiet.mPendTask, quiet.mAppWaitingAttach]
      exact isLive

/-! ## Every request -/

/-- What answers a request among the records that exist is running. -/
def FindsRunning (inner : ActivityManagerInner) : InnerAction → Prop
  | .startActivity activityName packageInfo intent caller _ _ =>
      ∀ activity,
        inner.AnswersStart activityName packageInfo intent caller
          activity →
        inner.manager.runsActivity activity
  | .startActivityReal activityName packageInfo intent caller _ _ =>
      ∀ activity,
        inner.AnswersRequest activityName packageInfo intent caller
          activity →
        inner.manager.runsActivity activity
  | .startService serviceName packageInfo _ _ =>
      inner.FindsRunningService serviceName packageInfo
  | .bindService serviceName packageInfo _ _ _ =>
      inner.FindsRunningService serviceName packageInfo
  | _ => True

/-- One request, in any state of the service. -/
theorem isLive_iff_of_request?
    {action : InnerAction}
    (isResult : inner.request? action = some (next, route))
    (isOk : route.isOk = true) :
    next.IsLive route ↔ inner.FindsRunning action := by
  cases action with
  | startActivity activityName packageInfo intent caller isOkToLaunch
      spawned =>
      rw [(startActivity_outcome isResult).isLive_iff isOk]
      exact forall_congr' fun activity =>
        imp_congr_left (startActivity_existing isResult activity)
  | startActivityReal activityName packageInfo intent caller isOkToLaunch
      spawned =>
      rw [(startActivityReal_outcome isResult).isLive_iff isOk]
      exact forall_congr' fun activity =>
        imp_congr_left (startActivityReal_existing isResult activity)
  | startService serviceName packageInfo intent spawned =>
      exact (startServiceReal_outcome isResult).isLive_iff isOk
  | bindService serviceName packageInfo intent conn spawned =>
      exact (startServiceReal_outcome isResult).isLive_iff isOk
  | _ =>
      cases isResult

/-- Every request of a run that is accepted has the property. -/
def EveryRequest
    (property :
      ActivityManagerInner → InnerAction → ActivityManagerInner →
        Route → Prop) :
    ActivityManagerInner → List InnerAction → Prop
  | _, [] =>
      True
  | inner, action :: rest =>
      (∀ next route,
        inner.request? action = some (next, route) →
        route.isOk = true →
        property inner action next route) ∧
        ∀ next,
          inner.step? action = some next →
          EveryRequest property next rest

/-- Properties that are the same of each request are so of every run. -/
theorem EveryRequest.congr
    {first second :
      ActivityManagerInner → InnerAction → ActivityManagerInner →
        Route → Prop}
    (same :
      ∀ inner action next route,
        inner.request? action = some (next, route) →
        route.isOk = true →
        (first inner action next route ↔
          second inner action next route))
    (inner : ActivityManagerInner)
    (actions : List InnerAction) :
    EveryRequest first inner actions ↔
      EveryRequest second inner actions := by
  induction actions generalizing inner with
  | nil =>
      exact Iff.rfl
  | cons action rest inductionHypothesis =>
      refine and_congr ?_ ?_
      · exact forall₂_congr fun next route =>
          forall₂_congr fun isResult isOk =>
            same inner action next route isResult isOk
      · exact forall₂_congr fun next _ => inductionHypothesis next

/-- The request that comes after some steps of a run is one of the run. -/
theorem EveryRequest.last
    {property :
      ActivityManagerInner → InnerAction → ActivityManagerInner →
        Route → Prop}
    {actions : List InnerAction}
    {action : InnerAction}
    {middle : ActivityManagerInner}
    (every : EveryRequest property inner (actions ++ [action]))
    (arrives : run? step? inner actions = some middle)
    (isResult : middle.request? action = some (next, route))
    (isOk : route.isOk = true) :
    property middle action next route := by
  induction actions generalizing inner with
  | nil =>
      rw [run?, Option.some.injEq] at arrives
      subst arrives
      exact every.1 next route isResult isOk
  | cons first rest inductionHypothesis =>
      rw [run?] at arrives
      split at arrives
      · cases arrives
      · rename_i after isAfter
        exact inductionHypothesis (every.2 after isAfter) arrives

/--
In every run, from whatever state, the accepted requests all go to running
applications, or to processes that wait to attach, if and only if the records
that the lookups find for them are those of running applications.
-/
theorem everyRequest_isLive_iff
    (inner : ActivityManagerInner)
    (actions : List InnerAction) :
    EveryRequest (fun _ _ next route => next.IsLive route) inner actions ↔
      EveryRequest (fun inner action _ _ => inner.FindsRunning action)
        inner actions :=
  EveryRequest.congr
    (fun _ _ _ _ isResult isOk => isLive_iff_of_request? isResult isOk)
    inner actions

/-- What brings a service to a process that stops, beside its successor. -/
def succession : List InnerAction :=
  [.startService "player" musicPackage plainIntent (some 11),
    .attachApplication 11 false,
    .stopApplication 0,
    .startService "sync" musicPackage plainIntent (some 12),
    .attachApplication 12 false]

/-- The service is started again after that. -/
def lateRequest : InnerAction :=
  .startService "player" musicPackage plainIntent none

/-- It is the process that stops which is asked then, and not the other. -/
theorem lateRequest_not_isLive :
    ¬ EveryRequest (fun _ _ next route => next.IsLive route)
        (start [] 0 0) (succession ++ [lateRequest]) := by
  intro every
  have isStopping :
      ((run? step? (start [] 0 0) succession).bind
        fun middle =>
          (middle.request? lateRequest).map fun result =>
            (result.2, result.1.runsService 0)) =
        some (.service 0, false) := by
    decide
  obtain ⟨middle, arrives, isStopping⟩ :=
    Option.bind_eq_some_iff.mp isStopping
  obtain ⟨⟨next, route⟩, isResult, isStopping⟩ :=
    Option.map_eq_some_iff.mp isStopping
  rw [Prod.mk.injEq] at isStopping
  obtain ⟨isRoute, isStopping⟩ := isStopping
  dsimp only at isRoute
  subst isRoute
  have isLive : next.runsService 0 := every.last arrives isResult rfl
  rw [isStopping] at isLive
  exact Bool.false_ne_true isLive

end ActivityManagerInner

end ActivityManager
