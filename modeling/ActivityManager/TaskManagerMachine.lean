import ActivityManager.Library.StepSystem
import ActivityManager.TaskStackManager

/-!
# The task manager and its surroundings

What the service does to the task manager besides calling its operations:
clients report statuses, tasks on the board time out, processes attach and
die.  `step?` performs one of these, or one operation; it has no result when
the code would go wrong.

A pass of `checkTimeout` is split into the tasks that it times out.  Tasks are
done at most once and completed ones are ignored, so they stay on the board.
-/

namespace ActivityManager

namespace TaskStackManager

/-! ## Events and timeouts -/

/-- `AppRecord::stopApplication` on a record. -/
def stopApp
    (manager : TaskStackManager)
    (app : Nat)
    (record : AppRecord) : TaskStackManager :=
  let (stopping, calls) := record.stopApplication
  { manager.setApp app stopping with calls := manager.calls ++ calls }

/-- `ActivityRecord::abnormalExit`. -/
def abnormalExit
    (manager : TaskStackManager)
    (activity : Nat) : Option TaskStackManager := do
  let manager ← manager.setStatus activity Status.destroyed
  let record ← manager.activities activity
  match record.mApp with
  | some app =>
      match manager.apps app with
      | some appRecord =>
          some
            ({ manager with
                calls :=
                  manager.calls ++
                    [Call.removeWindowToken record.mToken] }.stopApp app
              (appRecord.deleteActivity activity))
      | none =>
          some manager
  | none =>
      some manager

/-- `ActivityLifeCycleTask::execute`. -/
def executeLifeCycle
    (manager : TaskStackManager)
    (activity : Nat)
    (status : Status) : Option TaskStackManager := do
  let record ← manager.activities activity
  if status = Status.error then
    (manager.setRecord activity record.reportError).deleteActivity activity
  else
    (manager.setRecord activity
      (record.setStatus status)).lifecycleTransition activity
        record.mTargetStatus

/-- `execute` of a task on the board. -/
def execute
    (manager : TaskStackManager)
    (event : PendEvent) :
    PendTask → Option TaskStackManager
  | .lifeCycle activity =>
      match event with
      | .activityStatusReport status _ =>
          manager.executeLifeCycle activity status
      | _ =>
          some manager
  | .waitResume _ willStopActivity =>
      executeWaitResume lifecycleTransition manager willStopActivity
  | .delayDestroy willDestroyActivity _ =>
      manager.lifecycleTransition willDestroyActivity Status.destroyed

/-- `TaskBoard::eventTrigger`; the events of activities trigger one task. -/
def eventTrigger
    (manager : TaskStackManager)
    (event : PendEvent) : Option TaskStackManager :=
  match manager.mPendTask.firstPending event with
  | some handler =>
      { manager with
        mPendTask :=
          manager.mPendTask.markDone handler.serial }.execute event
        handler.mTask
  | none =>
      some manager

/-- `timeout` of a task on the board. -/
def timeoutTask
    (manager : TaskStackManager) :
    PendTask → Option TaskStackManager
  | .lifeCycle activity => do
      let record ← manager.activities activity
      if record.mStatus = record.mTargetStatus then
        some manager
      else
        let manager ← manager.abnormalExit activity
        manager.deleteActivity activity
  | .waitResume _ willStopActivity =>
      manager.lifecycleTransition willStopActivity Status.resumed
  | .delayDestroy willDestroyActivity _ =>
      manager.lifecycleTransition willDestroyActivity Status.destroyed

/-- The task of a serial number, if it is due and not done. -/
def dueTask
    (manager : TaskStackManager)
    (serial : Nat) : Option PendTask :=
  (manager.mPendTask.mTasklist.find? fun handler =>
    handler.serial = serial ∧
      handler.mIsDone = false ∧
      handler.mExpectTime ≤ manager.mPendTask.clock).map
    TaskTimeoutHandler.mTask

/-- `checkTimeout` for one task. -/
def timeout
    (manager : TaskStackManager)
    (serial : Nat) : Option TaskStackManager := do
  let task ← manager.dueTask serial
  { manager with
    mPendTask := manager.mPendTask.markDone serial }.timeoutTask task

/-! ## The service -/

/-- The application that an activity's weak reference leads to. -/
def getAppRecord
    (manager : TaskStackManager)
    (activity : Nat) : Option (Nat × AppRecord) := do
  let record ← manager.activities activity
  let app ← record.mApp
  let appRecord ← manager.apps app
  some (app, appRecord)

/-- What `reportActivityStatus` does when an activity is resumed. -/
def reportResumed
    (manager : TaskStackManager)
    (token : Nat) : Option TaskStackManager :=
  match manager.getAppRecord token with
  | some (_, appRecord) =>
      if appRecord.mIsSystemUI then
        some manager
      else do
        let manager ← manager.eventTrigger (.activityWaitResume token)
        manager.eventTrigger (.activityDelayDestroy token)
  | none =>
      some manager

/-- The end of an application's activity, in `reportActivityStatus`. -/
def leaveApp
    (manager : TaskStackManager)
    (token : Nat) : TaskStackManager :=
  match manager.getAppRecord token with
  | some (app, appRecord) =>
      let left := appRecord.deleteActivity token
      if left.checkActiveStatus then
        manager.setApp app left
      else
        manager.stopApp app left
  | none =>
      manager

/-- What `reportActivityStatus` does when an activity is destroyed. -/
def reportDestroyed
    (manager : TaskStackManager)
    (token : Nat) : Option TaskStackManager := do
  let manager ← manager.setStatus token Status.destroyed
  let manager ←
    match manager.getAppRecord token with
    | some (_, appRecord) => do
        let manager :=
          if appRecord.mIsSystemUI then
            manager
          else
            { manager with
              mPendTask :=
                manager.mPendTask.removeTask
                  (PendEvent.activityWaitResume token) }
        let manager ← manager.deleteActivity token
        some (manager.leaveApp token)
    | none =>
        some manager
  some { manager with mActivityMap := manager.mActivityMap.erase token }

/-- `ActivityManagerInner::reportActivityStatus`. -/
def reportActivityStatus
    (manager : TaskStackManager)
    (token : Nat)
    (status : Status) : Option TaskStackManager :=
  if token ∈ manager.mActivityMap then do
    let manager ←
      manager.eventTrigger (.activityStatusReport status token)
    if status = Status.resumed then
      manager.reportResumed token
    else if status = Status.destroyed then
      manager.reportDestroyed token
    else
      some manager
  else
    some manager

/-- The first loop of `procAppTerminated`. -/
def abnormalExitAll :
    List Nat → TaskStackManager → Option TaskStackManager
  | [], manager =>
      some manager
  | activity :: rest, manager => do
      let manager ← manager.abnormalExit activity
      abnormalExitAll rest manager

/-- The second loop of `procAppTerminated`. -/
def deleteAll :
    List Nat → TaskStackManager → Option TaskStackManager
  | [], manager =>
      some manager
  | activity :: rest, manager => do
      let manager ← manager.deleteActivity activity
      deleteAll rest
        { manager with
          mActivityMap := manager.mActivityMap.erase activity }

/-- The start of `procAppTerminated`. -/
def markStopped
    (manager : TaskStackManager)
    (app : Nat)
    (record : AppRecord) : TaskStackManager :=
  manager.setApp app
    { record with mStatus := .appStopped, mExistActivity := [] }

/-- `ActivityManagerInner::procAppTerminated`, for the activities. -/
def procAppTerminated
    (manager : TaskStackManager)
    (app : Nat) : Option TaskStackManager := do
  let record ← manager.apps app
  let needDeleteActivity := record.mExistActivity
  let manager ←
    abnormalExitAll needDeleteActivity (manager.markStopped app record)
  deleteAll needDeleteActivity manager

/--
`std::make_shared<ActivityRecord>` and `setAppThread`, with the entry in
`mActivityMap`.
-/
def newActivity
    (manager : TaskStackManager)
    (name : String)
    (app targetTask : Nat)
    (intent : Intent) : TaskStackManager :=
  let record :=
    ActivityRecord.fresh name manager.nextActivity (some app) targetTask
      intent
  { manager.setRecord manager.nextActivity record with
    mActivityMap := manager.nextActivity :: manager.mActivityMap
    nextActivity := manager.nextActivity + 1 }

/-- The record that `attachApplication` creates. -/
def attachApplication
    (manager : TaskStackManager)
    (packageName : String)
    (systemui : Bool)
    (pid : Nat) : TaskStackManager :=
  { manager.setApp manager.nextApp
      (AppRecord.attached packageName systemui pid) with
    nextApp := manager.nextApp + 1 }

/-- A record is destroyed once its process is gone. -/
def deleteAppInfo
    (manager : TaskStackManager)
    (app : Nat) : Option TaskStackManager := do
  let record ← manager.apps app
  if record.mStatus = .appStopped then
    some { manager with apps := Function.update manager.apps app none }
  else
    none

/--
An application that `startActivityReal` starts a new activity of: it has a
record and is not the SystemUI, which has another task manager.
-/
def canStart
    (manager : TaskStackManager)
    (app : Nat) : Bool :=
  (manager.apps app).any fun record => !record.mIsSystemUI

/-! ## Steps -/

end TaskStackManager

/-- The operations of the task manager and the steps of its surroundings. -/
inductive ManagerAction where
  /-- A new activity of a running application, then `pushNewActivity`. -/
  | pushNewActivity
      (name : String)
      (app targetStack : Nat)
      (intent : Intent)
      (startFlag : Nat)
  | turnToActivity
      (targetStack activity : Nat)
      (intent : Intent)
      (startFlag : Nat)
  | switchTaskToActive (targetStack : Nat) (intent : Intent)
  | moveTaskToBackground (targetStack : Nat)
  | finishActivity (activity : Nat)
  | deleteActivity (activity : Nat)
  | reportActivityStatus (token : Nat) (status : Status)
  | timeout (serial : Nat)
  | clockAdvances (ms : Nat)
  | attachApplication (packageName : String) (systemui : Bool) (pid : Nat)
  | procAppTerminated (app : Nat)
  | deleteAppInfo (app : Nat)
  /-- Startups begin and end, and keep other tasks alive. -/
  | holdTasks (tasks : List Nat)
  deriving Repr, DecidableEq

/-- The operations of the task manager itself. -/
def ManagerAction.isOperation : ManagerAction → Bool
  | .pushNewActivity _ _ _ _ _ => true
  | .turnToActivity _ _ _ _ => true
  | .switchTaskToActive _ _ => true
  | .moveTaskToBackground _ => true
  | .finishActivity _ => true
  | .deleteActivity _ => true
  | _ => false

namespace TaskStackManager

/-- Perform one step. -/
def step?
    (manager : TaskStackManager) :
    ManagerAction → Option TaskStackManager
  | .pushNewActivity name app targetStack intent startFlag =>
      if manager.canStart app then
        (manager.newActivity name app targetStack intent).pushNewActivity
          targetStack manager.nextActivity startFlag
      else
        none
  | .turnToActivity targetStack activity intent startFlag =>
      manager.turnToActivity targetStack activity intent startFlag
  | .switchTaskToActive targetStack intent =>
      manager.switchTaskToActive targetStack intent
  | .moveTaskToBackground targetStack =>
      (manager.moveTaskToBackground targetStack).map Prod.fst
  | .finishActivity activity =>
      manager.finishActivity activity
  | .deleteActivity activity =>
      manager.deleteActivity activity
  | .reportActivityStatus token status =>
      manager.reportActivityStatus token status
  | .timeout serial =>
      manager.timeout serial
  | .clockAdvances ms =>
      some
        { manager with
          mPendTask :=
            { manager.mPendTask with
              clock := manager.mPendTask.clock + ms } }
  | .attachApplication packageName systemui pid =>
      some (manager.attachApplication packageName systemui pid)
  | .procAppTerminated app =>
      manager.procAppTerminated app
  | .deleteAppInfo app =>
      manager.deleteAppInfo app
  | .holdTasks tasks =>
      some { manager with heldTasks := tasks }

end TaskStackManager

end ActivityManager
