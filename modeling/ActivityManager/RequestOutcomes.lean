import ActivityManager.QuietSteps

/-!
# How requests end

A request for a service reaches a record that exists, creates one in a running
process, is queued for a process that attaches, or is rejected.  A request for
an activity reaches activities that exist, or creates one.
-/

namespace ActivityManager

namespace ActivityManagerInner

/-- The entry of `mAppWaitingAttach` for a process that was spawned. -/
def spawn
    (inner : ActivityManagerInner)
    (processName : String)
    (pid : Nat) : ActivityManagerInner :=
  { inner with
    mAppWaitingAttach := inner.mAppWaitingAttach ++ [(processName, pid)] }

/-- The task on the board that waits for a process. -/
def enqueue
    (inner : ActivityManagerInner)
    (task : AppAttachTask) : ActivityManagerInner :=
  { inner with mPendTask := inner.mPendTask.commitTask task uintMax }

/-! The board is all that is different then. -/

section Enqueue

variable
  (inner : ActivityManagerInner)
  (task : AppAttachTask)

@[simp] theorem enqueue_manager :
    (inner.enqueue task).manager = inner.manager := by
  rw [enqueue]

@[simp] theorem enqueue_mPriorityPolicy :
    (inner.enqueue task).mPriorityPolicy = inner.mPriorityPolicy := by
  rw [enqueue]

@[simp] theorem enqueue_mServices :
    (inner.enqueue task).mServices = inner.mServices := by
  rw [enqueue]

@[simp] theorem enqueue_mAppList :
    (inner.enqueue task).mAppList = inner.mAppList := by
  rw [enqueue]

@[simp] theorem enqueue_mAppWaitingAttach :
    (inner.enqueue task).mAppWaitingAttach =
      inner.mAppWaitingAttach := by
  rw [enqueue]

@[simp] theorem enqueue_nextToken :
    (inner.enqueue task).nextToken = inner.nextToken := by
  rw [enqueue]

@[simp] theorem enqueue_calls :
    (inner.enqueue task).calls = inner.calls := by
  rw [enqueue]

@[simp] theorem enqueue_served :
    (inner.enqueue task).served = inner.served := by
  rw [enqueue]

/-- The board has one more handler. -/
@[simp] theorem enqueue_mTasklist :
    (inner.enqueue task).mPendTask.mTasklist =
      inner.mPendTask.mTasklist ++
        [inner.mPendTask.newHandler task uintMax] := by
  rw [enqueue]
  exact TaskBoard.commitTask_mTasklist _ _ _

end Enqueue

/-- A new service is listed, and receives its first request. -/
def createService
    (inner : ActivityManagerInner)
    (policy : ProcessPriorityPolicy)
    (service : ServiceRecord)
    (intent : Intent)
    (request : ServiceRequest) : ActivityManagerInner :=
  ({ inner with mPriorityPolicy := policy }.addService
    service).requestService service intent request

/-- A task is queued for a process that waits, or for a new one. -/
inductive Submitted
    (inner : ActivityManagerInner)
    (processName : String)
    (callback : AttachCallback)
    (spawned : Option Nat) :
    ActivityManagerInner → Nat → Prop where
  | behind
      {pid : Nat} :
      inner.getAttachingAppPid processName = some pid →
      Submitted inner processName callback spawned
        (inner.enqueue
          { mPid := pid
            mCallback := callback
            processName := processName })
        pid
  | first
      {pid : Nat} :
      inner.getAttachingAppPid processName = none →
      spawned = some pid →
      Submitted inner processName callback spawned
        ((inner.spawn processName pid).enqueue
          { mPid := pid
            mCallback := callback
            processName := processName })
        pid

variable
  {inner next : ActivityManagerInner}
  {packageInfo : PackageInfo}
  {intent : Intent}
  {spawned : Option Nat}
  {route : Route}

/-- What `submitAppStartupTask` does when it does not fail. -/
theorem submitAppStartupTask_cases
    {processName : String}
    {callback : AttachCallback}
    {isSupportMultiTask : Bool}
    {pid : Nat}
    (isResult :
      inner.submitAppStartupTask processName callback isSupportMultiTask
        spawned = some (next, pid)) :
    inner.Submitted processName callback spawned next pid ∧
      (isSupportMultiTask = false →
        inner.getAttachingAppPid processName = none) := by
  unfold submitAppStartupTask at isResult
  dsimp only at isResult
  split at isResult
  · rename_i waiting isWaiting
    split at isResult
    · rename_i isMulti
      rw [Option.some.injEq, Prod.mk.injEq] at isResult
      rw [← isResult.1, ← isResult.2, isMulti]
      exact ⟨.behind isWaiting, nofun⟩
    · cases isResult
  · rename_i noneWaits
    split at isResult
    · rename_i waiting
      rw [Option.some.injEq, Prod.mk.injEq] at isResult
      rw [← isResult.1, ← isResult.2]
      exact ⟨.first noneWaits rfl, fun _ => noneWaits⟩
    · cases isResult

/-- A task that is queued is nothing to the task managers. -/
theorem Submitted.manager_eq
    {processName : String}
    {callback : AttachCallback}
    {pid : Nat}
    (submitted :
      inner.Submitted processName callback spawned next pid) :
    next.manager = inner.manager := by
  cases submitted with
  | behind _ =>
      exact enqueue_manager _ _
  | first _ _ =>
      exact enqueue_manager _ _

/-- Nor is it one to the services. -/
theorem Submitted.mServices_eq
    {processName : String}
    {callback : AttachCallback}
    {pid : Nat}
    (submitted :
      inner.Submitted processName callback spawned next pid) :
    next.mServices = inner.mServices := by
  cases submitted with
  | behind _ =>
      exact enqueue_mServices _ _
  | first _ _ =>
      exact enqueue_mServices _ _

/-- One more task waits then, at the end of the board. -/
theorem Submitted.pending_eq
    {Feature : Type}
    {processName : String}
    {callback : AttachCallback}
    {pid : Nat}
    (submitted : inner.Submitted processName callback spawned next pid)
    (feature : AppAttachTask → Option Feature) :
    ∃ task : AppAttachTask,
      task.processName = processName ∧
        task.mCallback = callback ∧
        (next.mPendTask.mTasklist.filter fun handler =>
            !handler.mIsDone).filterMap (fun handler =>
              feature handler.mTask) =
          (inner.mPendTask.mTasklist.filter fun handler =>
              !handler.mIsDone).filterMap (fun handler =>
                feature handler.mTask) ++
            (feature task).toList := by
  have appended :
      ∀ (queue : ActivityManagerInner) (task : AppAttachTask),
        ((queue.enqueue task).mPendTask.mTasklist.filter fun handler =>
            !handler.mIsDone).filterMap (fun handler =>
              feature handler.mTask) =
          (queue.mPendTask.mTasklist.filter fun handler =>
              !handler.mIsDone).filterMap (fun handler =>
                feature handler.mTask) ++
            (feature task).toList := by
    intro queue task
    rw [enqueue_mTasklist, List.filter_append, List.filterMap_append]
    refine congrArg (_ ++ ·) ?_
    cases isFeature : feature task with
    | none =>
        simp [TaskBoard.newHandler, isFeature]
    | some value =>
        simp [TaskBoard.newHandler, isFeature]
  cases submitted with
  | behind _ =>
      exact ⟨_, rfl, rfl, appended _ _⟩
  | first _ _ =>
      exact ⟨_, rfl, rfl, appended _ _⟩

/-! ## Services -/

/-- How a request for a service ends. -/
inductive ServiceOutcome
    (inner : ActivityManagerInner)
    (serviceName : String)
    (packageInfo : PackageInfo)
    (intent : Intent)
    (request : ServiceRequest)
    (spawned : Option Nat) :
    ActivityManagerInner → Route → Prop where
  | rejected :
      ServiceOutcome inner serviceName packageInfo intent request spawned
        inner .rejected
  | found
      {service : ServiceRecord} :
      findService inner.manager.apps inner.mServices
          packageInfo.servicePackageName serviceName =
        some service →
      ServiceOutcome inner serviceName packageInfo intent request spawned
        (inner.requestService service intent request)
        (.service service.mToken)
  | created
      {info : ServiceInfo}
      {app : Nat}
      {appRecord : AppRecord}
      {policy : ProcessPriorityPolicy} :
      findService inner.manager.apps inner.mServices
          packageInfo.servicePackageName serviceName =
        none →
      inner.findAppInfoWithAlive packageInfo.servicePackageName =
        some app →
      inner.manager.apps app = some appRecord →
      inner.mPriorityPolicy.raisePriorityLevel appRecord.mPid
          info.priority =
        some policy →
      ServiceOutcome inner serviceName packageInfo intent request spawned
        (inner.createService policy
          (.fresh serviceName inner.nextToken info.priority app) intent
          request)
        (.service inner.nextToken)
  | queued
      {info : ServiceInfo}
      {submitted : ActivityManagerInner}
      {pid : Nat} :
      packageInfo.servicesInfo.find? (·.name == serviceName) =
        some info →
      findService inner.manager.apps inner.mServices
          packageInfo.servicePackageName serviceName =
        none →
      inner.findAppInfoWithAlive packageInfo.servicePackageName = none →
      inner.Submitted packageInfo.servicePackageName
        (.startService serviceName intent info.priority request) spawned
        submitted pid →
      ServiceOutcome inner serviceName packageInfo intent request spawned
        submitted (.attaching pid)

/-- Every request for a service ends in one of these ways. -/
theorem startServiceReal_outcome
    {serviceName : String}
    {request : ServiceRequest}
    (isResult :
      inner.startServiceReal serviceName packageInfo intent request
        spawned = some (next, route)) :
    ServiceOutcome inner serviceName packageInfo intent request spawned
      next route := by
  unfold startServiceReal at isResult
  dsimp only at isResult
  split at isResult
  · rw [Option.some.injEq, Prod.mk.injEq] at isResult
    rw [← isResult.1, ← isResult.2]
    exact .rejected
  · rename_i info isDeclared
    split at isResult
    · rename_i service isFound
      rw [Option.some.injEq, Prod.mk.injEq] at isResult
      rw [← isResult.1, ← isResult.2]
      exact .found isFound
    · rename_i notFound
      split at isResult
      · rename_i app isAlive
        obtain ⟨appRecord, isApp, isResult⟩ :=
          Option.bind_eq_some_iff.mp isResult
        obtain ⟨policy, isRaised, isResult⟩ :=
          Option.bind_eq_some_iff.mp isResult
        rw [Option.some.injEq, Prod.mk.injEq] at isResult
        rw [← isResult.1, ← isResult.2]
        exact .created notFound isAlive isApp isRaised
      · rename_i noneAlive
        split at isResult
        · rename_i submitted pid isSubmitted
          rw [Option.some.injEq, Prod.mk.injEq] at isResult
          rw [← isResult.1, ← isResult.2]
          exact .queued isDeclared notFound noneAlive
            (submitAppStartupTask_cases isSubmitted).1
        · rw [Option.some.injEq, Prod.mk.injEq] at isResult
          rw [← isResult.1, ← isResult.2]
          exact .rejected

/-! ## Activities -/

/-- Nothing but the task manager and the order of tasks is different. -/
structure Rearranged
    (inner next : ActivityManagerInner)
    (manager : TaskStackManager) : Prop where
  manager : next.manager = manager
  mPriorityPolicy : next.mPriorityPolicy = inner.mPriorityPolicy
  mServices : next.mServices = inner.mServices
  mAppList : next.mAppList = inner.mAppList
  mAppWaitingAttach : next.mAppWaitingAttach = inner.mAppWaitingAttach
  mPendTask : next.mPendTask = inner.mPendTask
  nextToken : next.nextToken = inner.nextToken
  calls : next.calls = inner.calls
  served : next.served = inner.served

namespace Rearranged

theorem refl (inner : ActivityManagerInner) :
    inner.Rearranged inner inner.manager where
  manager := rfl
  mPriorityPolicy := rfl
  mServices := rfl
  mAppList := rfl
  mAppWaitingAttach := rfl
  mPendTask := rfl
  nextToken := rfl
  calls := rfl
  served := rfl

theorem trans
    {middle : ActivityManagerInner}
    {first second : TaskStackManager}
    (former : inner.Rearranged middle first)
    (latter : middle.Rearranged next second) :
    inner.Rearranged next second where
  manager := latter.manager
  mPriorityPolicy := latter.mPriorityPolicy.trans former.mPriorityPolicy
  mServices := latter.mServices.trans former.mServices
  mAppList := latter.mAppList.trans former.mAppList
  mAppWaitingAttach :=
    latter.mAppWaitingAttach.trans former.mAppWaitingAttach
  mPendTask := latter.mPendTask.trans former.mPendTask
  nextToken := latter.nextToken.trans former.nextToken
  calls := latter.calls.trans former.calls
  served := latter.served.trans former.served

/-- A new order is quiet. -/
theorem quiet
    {parts : TaskStackManager.Parts}
    (rearranged : inner.Rearranged next inner.manager) :
    Quiet parts inner next where
  moves := by
    rw [rearranged.manager]
    exact .initial
  mPriorityPolicy := by
    rw [rearranged.mPriorityPolicy]
    exact .refl _
  mServices := rearranged.mServices
  mAppList := rearranged.mAppList
  mAppWaitingAttach := rearranged.mAppWaitingAttach
  mPendTask := rearranged.mPendTask
  nextToken := rearranged.nextToken
  calls := rearranged.calls
  served := rearranged.served

end Rearranged

/-- How a request for an activity ends. -/
inductive ActivityOutcome
    (inner : ActivityManagerInner)
    (packageInfo : PackageInfo)
    (intent : Intent)
    (spawned : Option Nat) :
    ActivityManagerInner → Route → Prop where
  | rejected
      {next : ActivityManagerInner} :
      Quiet ownParts inner next →
      ActivityOutcome inner packageInfo intent spawned next .rejected
  | turned
      {next : ActivityManagerInner}
      {activities : List Nat} :
      Quiet ownParts inner next →
      ActivityOutcome inner packageInfo intent spawned next
        (.activities activities)
  | hosted
      {created next : ActivityManagerInner}
      {name : String}
      {app task : Nat} :
      inner.findAppInfoWithAlive packageInfo.packageName = some app →
      inner.Rearranged created
        (inner.manager.newActivity name app task intent) →
      Quiet ownParts created next →
      ActivityOutcome inner packageInfo intent spawned next
        (.newActivity inner.manager.nextActivity)
  | queued
      {created submitted next : ActivityManagerInner}
      {name : String}
      {task : Nat}
      {targetTask : Option Nat}
      {startFlag pid : Nat} :
      inner.findAppInfoWithAlive packageInfo.packageName = none →
      inner.getAttachingAppPid packageInfo.packageName = none →
      inner.Rearranged created
        (inner.manager.createActivity name task intent) →
      created.Submitted packageInfo.packageName
        (.startActivity packageInfo.isSystemUI targetTask
          inner.manager.nextActivity startFlag packageInfo.priority)
        spawned submitted pid →
      Quiet ownParts submitted next →
      ActivityOutcome inner packageInfo intent spawned next
        (.attaching pid)

/-- Something quiet comes after the request. -/
theorem ActivityOutcome.andThen
    {after : ActivityManagerInner}
    (outcome :
      inner.ActivityOutcome packageInfo intent spawned next route)
    (quiet : Quiet ownParts next after) :
    inner.ActivityOutcome packageInfo intent spawned after route := by
  cases outcome with
  | rejected before =>
      exact .rejected (before.trans quiet)
  | turned before =>
      exact .turned (before.trans quiet)
  | hosted isAlive isCreated before =>
      exact .hosted isAlive isCreated (before.trans quiet)
  | queued noneAlive noneWaits isCreated isSubmitted before =>
      exact .queued noneAlive noneWaits isCreated isSubmitted
        (before.trans quiet)

/-- A new activity that is given its application. -/
theorem createActivity_setAppThread
    (manager : TaskStackManager)
    (name : String)
    (app task : Nat)
    (intent : Intent) :
    (manager.createActivity name task intent).setAppThread
        manager.nextActivity app =
      some (manager.newActivity name app task intent) := by
  simp [TaskStackManager.setAppThread, TaskStackManager.createActivity,
    TaskStackManager.setRecord, TaskStackManager.newActivity,
    ActivityRecord.fresh]

/-- An activity is given its application and pushed. -/
theorem attachActivity_cases
    {isSystemUI : Bool}
    {targetTask : Option Nat}
    {newActivity startFlag app : Nat}
    (isResult :
      inner.attachActivity isSystemUI targetTask newActivity startFlag
        app = some next) :
    ∃ manager attached,
      inner.manager.setAppThread newActivity app = some manager ∧
        inner.Rearranged attached manager ∧
        Quiet ownParts attached next := by
  obtain ⟨task, _, isResult⟩ := Option.bind_eq_some_iff.mp isResult
  obtain ⟨manager, isSet, isPushed⟩ := Option.bind_eq_some_iff.mp isResult
  refine ⟨manager, { inner with manager := manager }, isSet, ?_,
    (pushNewActivity_quiet _ _ _ _ _).of_result isPushed⟩
  exact { Rearranged.refl inner with manager := rfl }

/-- The end of a request for a new activity. -/
theorem startNewActivity_outcome
    {activityUniqueName : String}
    {plan : StartPlan}
    {task : Option Nat}
    {startFlag : Nat}
    {isOkToLaunch : Bool}
    (isResult :
      inner.startNewActivity packageInfo activityUniqueName plan task
        startFlag intent isOkToLaunch spawned = some (next, route)) :
    inner.ActivityOutcome packageInfo intent spawned next route := by
  unfold startNewActivity at isResult
  dsimp only at isResult
  generalize isCreated :
    { inner with
      nextTask := inner.nextTask + 1 }.createActivity activityUniqueName
        plan.launchMode (task.getD inner.nextTask) intent =
      created at isResult
  have creates :
      inner.Rearranged created
        (inner.manager.createActivity activityUniqueName
          (task.getD inner.nextTask) intent) := by
    rw [← isCreated]
    exact { Rearranged.refl inner with manager := rfl }
  split at isResult
  · rename_i app isAlive
    obtain ⟨pushed, isPushed, isResult⟩ :=
      Option.bind_eq_some_iff.mp isResult
    rw [Option.some.injEq, Prod.mk.injEq] at isResult
    rw [← isResult.1, ← isResult.2]
    obtain ⟨manager, attached, isSet, isAttached, quiet⟩ :=
      attachActivity_cases isPushed
    rw [creates.manager, createActivity_setAppThread,
      Option.some.injEq] at isSet
    rw [← isSet] at isAttached
    exact .hosted isAlive (creates.trans isAttached) quiet
  · rename_i noneAlive
    split at isResult
    · split at isResult
      · rename_i submitted pid isSubmitted
        rw [Option.some.injEq, Prod.mk.injEq] at isResult
        rw [← isResult.1, ← isResult.2]
        obtain ⟨isQueued, noneWaits⟩ :=
          submitAppStartupTask_cases isSubmitted
        have noneWaited := noneWaits rfl
        rw [getAttachingAppPid, creates.mAppWaitingAttach] at noneWaited
        exact .queued noneAlive noneWaited creates isQueued (.refl _)
      · rw [Option.some.injEq, Prod.mk.injEq] at isResult
        rw [← isResult.1, ← isResult.2]
        exact .rejected (.refl inner)
    · rw [Option.some.injEq, Prod.mk.injEq] at isResult
      rw [← isResult.1, ← isResult.2]
      exact .rejected (.refl inner)

/-- A new order before the request does not matter. -/
theorem ActivityOutcome.after
    {middle : ActivityManagerInner}
    (outcome :
      middle.ActivityOutcome packageInfo intent spawned next route)
    (rearranged : inner.Rearranged middle inner.manager) :
    inner.ActivityOutcome packageInfo intent spawned next route := by
  have sameAlive :
      middle.findAppInfoWithAlive packageInfo.packageName =
        inner.findAppInfoWithAlive packageInfo.packageName := by
    rw [findAppInfoWithAlive, rearranged.mAppList, rearranged.manager]
    rfl
  have sameWaiting :
      middle.getAttachingAppPid packageInfo.packageName =
        inner.getAttachingAppPid packageInfo.packageName := by
    rw [getAttachingAppPid, rearranged.mAppWaitingAttach]
    rfl
  cases outcome with
  | rejected after =>
      exact .rejected (rearranged.quiet.trans after)
  | turned after =>
      exact .turned (rearranged.quiet.trans after)
  | hosted isAlive isCreated after =>
      rw [sameAlive] at isAlive
      rw [rearranged.manager] at isCreated ⊢
      exact .hosted isAlive (rearranged.trans isCreated) after
  | queued noneAlive noneWaits isCreated isSubmitted after =>
      rw [sameAlive] at noneAlive
      rw [sameWaiting] at noneWaits
      rw [rearranged.manager] at isCreated isSubmitted
      exact .queued noneAlive noneWaits (rearranged.trans isCreated)
        isSubmitted after

/-- Finding a task, or making up a new one. -/
theorem targetTask_rearranged
    (inner : ActivityManagerInner)
    (isSystemUI : Bool)
    (plan : StartPlan) :
    inner.Rearranged (inner.targetTask isSystemUI plan).1
      inner.manager := by
  unfold targetTask
  split
  · split
    · exact .refl inner
    · exact { Rearranged.refl inner with manager := rfl }
  · exact .refl inner

/-- Every request for an activity ends in one of these ways. -/
theorem startActivityReal_outcome
    {activityName : String}
    {caller : Option Nat}
    {isOkToLaunch : Bool}
    (isResult :
      inner.startActivityReal activityName packageInfo intent caller
        isOkToLaunch spawned = some (next, route)) :
    inner.ActivityOutcome packageInfo intent spawned next route := by
  unfold startActivityReal at isResult
  dsimp only at isResult
  split at isResult
  · rw [Option.some.injEq, Prod.mk.injEq] at isResult
    rw [← isResult.1, ← isResult.2]
    exact .rejected (.refl inner)
  · rename_i info _
    have found :=
      targetTask_rearranged inner packageInfo.isSystemUI
        (inner.startPlan packageInfo info intent caller)
    obtain ⟨⟨target, startFlag⟩, _, isResult⟩ :=
      Option.bind_eq_some_iff.mp isResult
    dsimp only at isResult
    split at isResult
    · obtain ⟨task, _, isResult⟩ := Option.bind_eq_some_iff.mp isResult
      obtain ⟨turned, isTurned, isResult⟩ :=
        Option.bind_eq_some_iff.mp isResult
      rw [Option.some.injEq, Prod.mk.injEq] at isResult
      rw [← isResult.1, ← isResult.2]
      have quiet : Quiet ownParts _ turned :=
        (turnToActivity_quiet _ _ _ _ _ _ fun _ => trivial).of_result
          isTurned
      exact .turned (found.quiet.trans quiet)
    · exact (startNewActivity_outcome isResult).after found

theorem startTarget_outcome
    {activityName : String}
    {caller : Option Nat}
    {isOkToLaunch : Bool}
    (isResult :
      inner.startTarget activityName packageInfo intent caller
        isOkToLaunch spawned = some (next, route)) :
    inner.ActivityOutcome packageInfo intent spawned next route := by
  unfold startTarget at isResult
  dsimp only at isResult
  split at isResult
  · obtain ⟨switched, isSwitched, isResult⟩ :=
      Option.bind_eq_some_iff.mp isResult
    rw [Option.some.injEq, Prod.mk.injEq] at isResult
    rw [← isResult.1, ← isResult.2]
    exact .turned
      ((switchTaskToActive_quiet _ _ _ _).of_result isSwitched)
  · exact startActivityReal_outcome isResult

/-- The same, with the event for the SystemUI. -/
theorem startActivity_outcome
    {activityName : String}
    {caller : Option Nat}
    {isOkToLaunch : Bool}
    (isResult :
      inner.startActivity activityName packageInfo intent caller
        isOkToLaunch spawned = some (next, route)) :
    inner.ActivityOutcome packageInfo intent spawned next route := by
  obtain ⟨⟨middle, target⟩, isTarget, isResult⟩ :=
    Option.bind_eq_some_iff.mp isResult
  have outcome := startTarget_outcome isTarget
  dsimp only at isResult
  split at isResult
  · rw [Option.some.injEq, Prod.mk.injEq] at isResult
    rw [← isResult.1, ← isResult.2]
    exact outcome
  · obtain ⟨left, isLeft, isResult⟩ := Option.bind_eq_some_iff.mp isResult
    obtain ⟨after, isAfter, isResult⟩ :=
      Option.bind_eq_some_iff.mp isResult
    rw [Option.some.injEq, Prod.mk.injEq] at isResult
    rw [← isResult.1, ← isResult.2]
    refine outcome.andThen ((onStartActivity_quiet middle).of_result ?_)
    exact Option.bind_eq_some_iff.mpr ⟨left, isLeft, isAfter⟩

end ActivityManagerInner

end ActivityManager
