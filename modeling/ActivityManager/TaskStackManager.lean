import ActivityManager.PendTask
import ActivityManager.TaskLists

/-!
# The task manager

`TaskStackManager` for standard applications, with the objects its handles
refer to: the activity and application records, the task board and the
activities that the service knows by their tokens.  Every operation is written
in the order of the source.  An operation that goes through a null pointer,
pops from an empty container or leaves the lifecycle table has no result.

Broadcasts are left out; nothing here reads them.
-/

namespace ActivityManager

/-- `Intent::FLAG_ACTIVITY_CLEAR_TOP`. -/
def flagActivityClearTop : Nat := 4

/-- `Intent::FLAG_ACTIVITY_CLEAR_TASK`. -/
def flagActivityClearTask : Nat := 8

/-- `Intent::FLAG_APP_SWITCH_TASK`. -/
def flagAppSwitchTask : Nat := 1024

/--
`TaskStackManager` and the rest of the service that its operations touch.
Activities, tasks and applications are named by numbers.  An application
without a record has been destroyed.
-/
structure TaskStackManager where
  lists : TaskLists
  activities : Nat → Option ActivityRecord
  apps : Nat → Option AppRecord
  mPendTask : TaskBoard PendTask
  /-- The tokens in `mActivityMap`. -/
  mActivityMap : List Nat
  /-- Tasks that a startup in progress keeps alive. -/
  heldTasks : List Nat
  calls : List Call
  /-- Ghost: the calls with which `setForeground` last reported a change. -/
  told : Nat → List Call
  nextActivity : Nat
  nextApp : Nat

namespace TaskStackManager

/-- The manager of a new service. -/
def start (now : Nat) : TaskStackManager where
  lists := .empty
  activities := fun _ => none
  apps := fun _ => none
  mPendTask := .startWork false now
  mActivityMap := []
  heldTasks := []
  calls := []
  told := fun _ => []
  nextActivity := 0
  nextApp := 0

/-- The commands for an activity, in the order in which they were sent. -/
def commandsFor
    (manager : TaskStackManager)
    (token : Nat) : List Call :=
  manager.calls.filter (·.commandToken = some token)

/-! ## Records -/

/-- Change an activity record. -/
def setRecord
    (manager : TaskStackManager)
    (activity : Nat)
    (record : ActivityRecord) : TaskStackManager :=
  { manager with
    activities :=
      Function.update manager.activities activity (some record) }

/-- Change an application record. -/
def setApp
    (manager : TaskStackManager)
    (app : Nat)
    (record : AppRecord) : TaskStackManager :=
  { manager with
    apps := Function.update manager.apps app (some record) }

/-- `ActivityRecord::setIntent` on a record. -/
def setIntent
    (manager : TaskStackManager)
    (activity : Nat)
    (intent : Intent) : Option TaskStackManager := do
  let record ← manager.activities activity
  some (manager.setRecord activity (record.setIntent intent))

/-- `ActivityRecord::setStatus` on a record. -/
def setStatus
    (manager : TaskStackManager)
    (activity : Nat)
    (status : Status) : Option TaskStackManager := do
  let record ← manager.activities activity
  some (manager.setRecord activity (record.setStatus status))

/-- `mPendTask.commitTask(task, REQUEST_TIMEOUT_MS)`. -/
def commit
    (manager : TaskStackManager)
    (task : PendTask) : TaskStackManager :=
  { manager with
    mPendTask := manager.mPendTask.commitTask task requestTimeoutMs }

/--
`ActivityRecord::getTask`: the weak reference to a task that is listed, the
home task or kept by a startup.
-/
def getTask
    (manager : TaskStackManager)
    (record : ActivityRecord) : Option Nat :=
  if record.mInTask ∈ manager.lists.mAllTasks ∨
      manager.lists.mHomeTask = some record.mInTask ∨
      record.mInTask ∈ manager.heldTasks then
    some record.mInTask
  else
    none

/-! ## Foreground -/

/-- `AppRecord::setForeground` on a record. -/
def setAppForeground
    (manager : TaskStackManager)
    (app : Nat)
    (record : AppRecord)
    (isForeground : Bool) : TaskStackManager :=
  let (counted, calls) := record.setForeground isForeground
  { manager.setApp app counted with
    calls := manager.calls ++ calls
    told :=
      if calls.isEmpty then manager.told
      else Function.update manager.told app calls }

/-- `activity->getAppRecord()->setForeground(isForeground)`. -/
def setActivityForeground
    (manager : TaskStackManager)
    (activity : Nat)
    (isForeground : Bool) : Option TaskStackManager := do
  let record ← manager.activities activity
  let app ← record.mApp
  let appRecord ← manager.apps app
  some (manager.setAppForeground app appRecord isForeground)

/-- The loop of `ActivityStack::setForeground`, which skips lost applications. -/
def setForegroundAll
    (isForeground : Bool) :
    List Nat → TaskStackManager → TaskStackManager
  | [], manager =>
      manager
  | activity :: rest, manager =>
      setForegroundAll isForeground rest
        ((manager.setActivityForeground activity isForeground).getD
          manager)

/-- `ActivityStack::setForeground`, from the bottom to the top. -/
def setStackForeground
    (manager : TaskStackManager)
    (task : Nat)
    (isForeground : Bool) : TaskStackManager :=
  setForegroundAll isForeground (manager.lists.stackOf task).reverse
    manager

/-! ## Lifecycle -/

/-- `lifecycleTransition` after its event. -/
def turn
    (manager : TaskStackManager)
    (activity : Nat)
    (toStatus : Status) : Option TaskStackManager := do
  let record ← manager.activities activity
  let transition ←
    record.lifecycleTransition? (record.mApp.bind manager.apps) toStatus
  let turned := manager.setRecord activity transition.activity
  let turned :=
    match record.mApp, transition.app with
    | some app, some appRecord => turned.setApp app appRecord
    | _, _ => turned
  let turned := { turned with calls := turned.calls ++ transition.calls }
  some
    (if transition.commits then turned.commit (.lifeCycle activity)
      else turned)

/-- `ActivityWaitResume::execute`. -/
def executeWaitResume
    (lifecycleTransition :
      TaskStackManager → Nat → Status → Option TaskStackManager)
    (manager : TaskStackManager)
    (willStopActivity : Nat) : Option TaskStackManager := do
  let record ← manager.activities willStopActivity
  if record.mTargetStatus = Status.paused then
    lifecycleTransition manager willStopActivity Status.stopped
  else
    some manager

/-- The event for those who wait until an activity is resumed. -/
def triggerWaitResume
    (lifecycleTransition :
      TaskStackManager → Nat → Status → Option TaskStackManager)
    (manager : TaskStackManager)
    (activity : Nat) : Option TaskStackManager :=
  match manager.mPendTask.firstPending
      (PendEvent.activityWaitResume activity) with
  | some handler =>
      let done :=
        { manager with
          mPendTask := manager.mPendTask.markDone handler.serial }
      match handler.mTask with
      | .waitResume _ willStopActivity =>
          executeWaitResume lifecycleTransition done willStopActivity
      | _ =>
          some done
  | none =>
      some manager

/--
`ActivityRecord::lifecycleTransition`.  The fuel bounds how deep its event
may call it again.
-/
def lifecycleTransitionFrom :
    Nat → TaskStackManager → Nat → Status → Option TaskStackManager
  | 0, _, _, _ =>
      none
  | fuel + 1, manager, activity, toStatus => do
      let record ← manager.activities activity
      let manager ←
        if record.mTargetStatus = Status.resumed ∧
            toStatus > Status.resumed ∧
            record.mStatus < Status.resuming then
          triggerWaitResume (lifecycleTransitionFrom fuel) manager activity
        else
          some manager
      manager.turn activity toStatus

/--
`ActivityRecord::lifecycleTransition`.  An activity that is stopped by the
event wants to be paused and so triggers no event of its own: two levels are
enough.
-/
def lifecycleTransition
    (manager : TaskStackManager)
    (activity : Nat)
    (toStatus : Status) : Option TaskStackManager :=
  lifecycleTransitionFrom 2 manager activity toStatus

/-! ## The list of tasks -/

/-- Replace the lists. -/
def setLists
    (manager : TaskStackManager)
    (lists : TaskLists) : TaskStackManager :=
  { manager with lists := lists }

/-- `TaskStackManager::pushTaskToFront`. -/
def pushTaskToFront
    (manager : TaskStackManager)
    (activityStack : Nat) : TaskStackManager :=
  let activeTask := manager.lists.getActiveTask
  if some activityStack ≠ activeTask then
    let manager :=
      match activeTask with
      | some task => manager.setStackForeground task false
      | none => manager
    (manager.setLists
      (manager.lists.moveToFront activityStack)).setStackForeground
        activityStack true
  else
    manager

/--
The loops that destroy the activities above one, or all of them.  Popped
activities of the active task leave the foreground.
-/
def clearAbove
    (targetStack : Nat)
    (activity : Option Nat)
    (isActive : Bool) :
    Nat → TaskStackManager → Option TaskStackManager
  | 0, _ =>
      none
  | fuel + 1, manager =>
      match manager.lists.getTopActivity targetStack with
      | none =>
          some manager
      | some tmpActivity =>
          if some tmpActivity = activity then
            some manager
          else do
            let manager ←
              manager.lifecycleTransition tmpActivity Status.destroyed
            let lists ← manager.lists.popActivity? targetStack
            let manager := manager.setLists lists
            let manager ←
              if isActive then
                manager.setActivityForeground tmpActivity false
              else
                some manager
            clearAbove targetStack activity isActive fuel manager

/-- Fuel for a loop over a stack. -/
def loopFuel
    (manager : TaskStackManager)
    (task : Nat) : Nat :=
  (manager.lists.stackOf task).length + 1

/-- `TaskStackManager::switchTaskToActive`. -/
def switchTaskToActive
    (manager : TaskStackManager)
    (targetStack : Nat)
    (intent : Intent) : Option TaskStackManager :=
  if some targetStack ≠ manager.lists.getActiveTask then do
    let activeTask ← manager.lists.getActiveTask
    let currentTopActivity ← manager.lists.getTopActivity activeTask
    let manager ←
      manager.lifecycleTransition currentTopActivity Status.paused
    match manager.lists.getTopActivity targetStack with
    | some activity =>
        let manager ←
          if intent.mFlag &&& flagAppSwitchTask ≠ flagAppSwitchTask then
            manager.setIntent activity intent
          else
            some manager
        let manager ← manager.lifecycleTransition activity Status.resumed
        let manager :=
          manager.commit (.waitResume activity currentTopActivity)
        some (manager.pushTaskToFront targetStack)
    | none =>
        some (manager.setLists (manager.lists.deleteTask targetStack))
  else
    some manager

/-- The branch of `moveTaskToBackground` for the active task. -/
def leaveActive
    (manager : TaskStackManager)
    (targetStack : Nat) : Option TaskStackManager := do
  let topActivity ← manager.lists.getTopActivity targetStack
  let manager ← manager.lifecycleTransition topActivity Status.paused
  let manager := manager.setStackForeground targetStack false
  let lists ← manager.lists.popFront?
  let manager := manager.setLists lists
  match manager.lists.getActiveTask with
  | some activeTask =>
      let manager ←
        match manager.lists.getTopActivity activeTask with
        | some nextActivity => do
            let manager ←
              manager.lifecycleTransition nextActivity Status.resumed
            some (manager.commit (.waitResume nextActivity topActivity))
        | none =>
            some manager
      some (manager.setStackForeground activeTask true)
  | none =>
      some manager

/-- `TaskStackManager::moveTaskToBackground`. -/
def moveTaskToBackground
    (manager : TaskStackManager)
    (targetStack : Nat) : Option (TaskStackManager × Bool) :=
  if some targetStack = manager.lists.mHomeTask then
    some (manager, false)
  else do
    let isActive : Bool := some targetStack = manager.lists.getActiveTask
    let manager ←
      if isActive then manager.leaveActive targetStack else some manager
    let (mAllTasks, result) :=
      TaskLists.behindHome manager.lists.mHomeTask targetStack isActive
        manager.lists.mAllTasks
    some
      (manager.setLists { manager.lists with mAllTasks := mAllTasks },
        result)

/-- The start of `pushNewActivity`: pause the top, or found a home task. -/
def pauseActive
    (manager : TaskStackManager)
    (targetStack : Nat) : Option (TaskStackManager × Option Nat) :=
  match manager.lists.getActiveTask with
  | some activeTask => do
      let lastTopActivity ← manager.lists.getTopActivity activeTask
      let manager ←
        manager.lifecycleTransition lastTopActivity Status.paused
      some (manager, some lastTopActivity)
  | none =>
      some
        (manager.setLists
          { manager.lists with mHomeTask := some targetStack },
        none)

/-- `TaskStackManager::pushNewActivity`. -/
def pushNewActivity
    (manager : TaskStackManager)
    (targetStack activity startFlag : Nat) : Option TaskStackManager := do
  let activeTask := manager.lists.getActiveTask
  let isActive : Bool := some targetStack = activeTask
  let (manager, lastTopActivity) ← manager.pauseActive targetStack
  let manager ←
    if startFlag &&& flagActivityClearTask ≠ 0 then
      clearAbove targetStack none isActive (manager.loopFuel targetStack)
        manager
    else
      some manager
  let manager :=
    manager.setLists (manager.lists.pushActivity targetStack activity)
  let manager ←
    if isActive then manager.setActivityForeground activity true
    else some manager
  let manager ← manager.lifecycleTransition activity Status.resumed
  let manager :=
    match lastTopActivity with
    | some lastTop => manager.commit (.waitResume activity lastTop)
    | none => manager
  some (manager.pushTaskToFront targetStack)

/-- `TaskStackManager::turnToActivity`. -/
def turnToActivity
    (manager : TaskStackManager)
    (targetStack activity : Nat)
    (intent : Intent)
    (startFlag : Nat) : Option TaskStackManager := do
  let activeTask := manager.lists.getActiveTask
  let lastTopActivity := activeTask.bind manager.lists.getTopActivity
  if lastTopActivity = some activity then
    let manager ← manager.setIntent activity intent
    let manager ← manager.setStatus activity Status.paused
    manager.lifecycleTransition activity Status.resumed
  else
    let manager ←
      match lastTopActivity with
      | some lastTop => manager.lifecycleTransition lastTop Status.paused
      | none => some manager
    let manager ←
      if startFlag &&& flagActivityClearTop ≠ 0 then
        clearAbove targetStack (some activity)
          (some targetStack = activeTask) (manager.loopFuel targetStack)
          manager
      else
        some manager
    let manager ← manager.setIntent activity intent
    let manager ← manager.lifecycleTransition activity Status.resumed
    let manager :=
      match lastTopActivity with
      | some lastTop =>
          if some targetStack ≠ activeTask then
            manager.commit (.waitResume activity lastTop)
          else
            manager
      | none =>
          manager
    some (manager.pushTaskToFront targetStack)

/-- `finishActivity` once its activity is popped from the active task. -/
def finishActive
    (manager : TaskStackManager)
    (activityTask activity : Nat) : Option TaskStackManager := do
  let manager ← manager.setActivityForeground activity false
  let (manager, nextActivity) ←
    match manager.lists.getTopActivity activityTask with
    | some nextActivity =>
        some (manager, some nextActivity)
    | none => do
        let lists ← manager.lists.popFront?
        let activeTask := lists.getActiveTask
        let lists :=
          if some activityTask = lists.mHomeTask then
            { lists with mHomeTask := activeTask }
          else
            lists
        let manager := manager.setLists lists
        match activeTask with
        | some activeTask =>
            some
              (manager.setStackForeground activeTask true,
                manager.lists.getTopActivity activeTask)
        | none =>
            some (manager, none)
  match nextActivity with
  | some nextActivity =>
      let manager ← manager.lifecycleTransition activity Status.paused
      let manager ←
        manager.lifecycleTransition nextActivity Status.resumed
      some (manager.commit (.delayDestroy activity nextActivity))
  | none =>
      manager.lifecycleTransition activity Status.destroyed

/-- `TaskStackManager::finishActivity`. -/
def finishActivity
    (manager : TaskStackManager)
    (activity : Nat) : Option TaskStackManager := do
  let record ← manager.activities activity
  match manager.getTask record with
  | none =>
      some manager
  | some activityTask =>
      let isActive : Bool :=
        some activityTask = manager.lists.getActiveTask
      let manager ←
        clearAbove activityTask (some activity) isActive
          (manager.loopFuel activityTask) manager
      let lists ← manager.lists.popActivity? activityTask
      let manager := manager.setLists lists
      if isActive then
        manager.finishActive activityTask activity
      else
        let manager ←
          manager.lifecycleTransition activity Status.destroyed
        if (manager.lists.getTopActivity activityTask).isNone then
          some (manager.setLists (manager.lists.deleteTask activityTask))
        else
          some manager

/-- The loop of `deleteActivity`, down to the activity itself. -/
def deleteDownTo
    (task activity : Nat) :
    Nat → TaskStackManager → Option TaskStackManager
  | 0, _ =>
      none
  | fuel + 1, manager =>
      match manager.lists.getTopActivity task with
      | none =>
          some manager
      | some tmpActivity => do
          let manager ←
            manager.lifecycleTransition tmpActivity Status.destroyed
          let lists ← manager.lists.popActivity? task
          let manager := manager.setLists lists
          if tmpActivity = activity then
            some manager
          else
            deleteDownTo task activity fuel manager

/-- `deleteActivity` after its loop, for the active task. -/
def resumeNext
    (manager : TaskStackManager)
    (task : Nat) : Option TaskStackManager := do
  let (manager, nextActivity) ←
    match manager.lists.getTopActivity task with
    | some nextActivity =>
        some (manager, some nextActivity)
    | none => do
        let lists ← manager.lists.popFront?
        some
          (manager.setLists lists,
            lists.getActiveTask.bind lists.getTopActivity)
  match nextActivity with
  | some nextActivity =>
      manager.lifecycleTransition nextActivity Status.resumed
  | none =>
      some manager

/-- `TaskStackManager::deleteActivity`. -/
def deleteActivity
    (manager : TaskStackManager)
    (activity : Nat) : Option TaskStackManager := do
  let record ← manager.activities activity
  match manager.getTask record with
  | none =>
      some manager
  | some task =>
      let manager ←
        if activity ∈ manager.lists.stackOf task then
          deleteDownTo task activity (manager.loopFuel task) manager
        else
          some manager
      let manager ←
        if some task = manager.lists.getActiveTask then
          manager.resumeNext task
        else if (manager.lists.stackOf task).isEmpty then
          some (manager.setLists (manager.lists.deleteTask task))
        else
          some manager
      if some task = manager.lists.mHomeTask ∧
          (manager.lists.stackOf task).isEmpty then
        some
          (manager.setLists
            { manager.lists with
              mHomeTask := manager.lists.getActiveTask })
      else
        some manager

end TaskStackManager

end ActivityManager
