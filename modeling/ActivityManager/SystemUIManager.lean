import ActivityManager.TaskManagerMachine

/-!
# The task manager of the SystemUI

`SystemUIManager` keeps the tasks of the SystemUI apart from those of standard
applications.  Its operations go through whole tasks and make requests of
every activity; the records are those of `TaskStackManager`.  An activity
without an application is a null pointer here.
-/

namespace ActivityManager

/-- `SystemUIManager`; the stacks are listed as the source has them. -/
structure SystemUIManager where
  mSystemUITasks : List Nat
  mStack : Nat → List Nat

namespace TaskStackManager

/-- The check of `findTask` that a task is alive. -/
def isAliveTask
    (manager : TaskStackManager)
    (rootActivity : Option Nat) : Bool :=
  (rootActivity.bind manager.getAppRecord).any fun app =>
    app.2.mStatus = .appRunning

/-- `TaskStackManager::findTask`. -/
def findTask
    (manager : TaskStackManager)
    (mTag : Nat → String)
    (tag : String) : Option Nat :=
  manager.lists.mAllTasks.find? fun task =>
    mTag task = tag ∧
      manager.isAliveTask (manager.lists.stackOf task).getLast?

/-- A loop over the activities of a task. -/
def forEach
    (operate : Nat → TaskStackManager → Option TaskStackManager) :
    List Nat → TaskStackManager → Option TaskStackManager
  | [], manager =>
      some manager
  | activity :: rest, manager => do
      let manager ← operate activity manager
      forEach operate rest manager

end TaskStackManager

namespace SystemUIManager

/-- No task. -/
def empty : SystemUIManager where
  mSystemUITasks := []
  mStack := fun _ => []

/-- An activity is resumed and enters the foreground. -/
def showActivity
    (activity : Nat)
    (manager : TaskStackManager) : Option TaskStackManager := do
  let manager ← manager.lifecycleTransition activity Status.resumed
  manager.setActivityForeground activity true

/-- An activity is stopped and leaves the foreground. -/
def hideActivity
    (activity : Nat)
    (manager : TaskStackManager) : Option TaskStackManager := do
  let manager ← manager.lifecycleTransition activity Status.stopped
  manager.setActivityForeground activity false

/-- `SystemUIManager::findTask`. -/
def findTask
    (systemUI : SystemUIManager)
    (manager : TaskStackManager)
    (mTag : Nat → String)
    (tag : String) : Option Nat :=
  systemUI.mSystemUITasks.find? fun task =>
    mTag task = tag ∧ manager.isAliveTask (systemUI.mStack task).head?

/-- `SystemUIManager::getActiveTask`. -/
def getActiveTask
    (systemUI : SystemUIManager)
    (manager : TaskStackManager) : Option Nat :=
  systemUI.mSystemUITasks.find? fun task =>
    (systemUI.mStack task).any fun activity =>
      (manager.activities activity).any (·.mStatus = Status.resumed)

/-- `SystemUIManager::switchTaskToActive`. -/
def switchTaskToActive
    (systemUI : SystemUIManager)
    (task : Nat)
    (intent : Intent)
    (manager : TaskStackManager) : Option TaskStackManager :=
  TaskStackManager.forEach
    (fun activity manager => do
      let manager ←
        if intent.mFlag &&& flagAppSwitchTask ≠ flagAppSwitchTask then
          manager.setIntent activity intent
        else
          some manager
      showActivity activity manager)
    (systemUI.mStack task) manager

/-- `SystemUIManager::moveTaskToBackground`. -/
def moveTaskToBackground
    (systemUI : SystemUIManager)
    (task : Nat)
    (manager : TaskStackManager) : Option TaskStackManager :=
  TaskStackManager.forEach hideActivity (systemUI.mStack task) manager

/-- `SystemUIManager::pushNewActivity`, on the tasks. -/
def pushActivity
    (systemUI : SystemUIManager)
    (manager : TaskStackManager)
    (mTag : Nat → String)
    (task activity : Nat) : SystemUIManager :=
  let pushed :=
    { systemUI with
      mStack :=
        Function.update systemUI.mStack task
          (systemUI.mStack task ++ [activity]) }
  if (pushed.findTask manager mTag (mTag task)).isNone then
    { pushed with mSystemUITasks := task :: pushed.mSystemUITasks }
  else
    pushed

/-- `SystemUIManager::finishActivity`. -/
def finishActivity
    (activity : Nat)
    (manager : TaskStackManager) : Option TaskStackManager := do
  let manager ← manager.lifecycleTransition activity Status.destroyed
  manager.setActivityForeground activity false

/-- `SystemUIManager::deleteActivity`; a task is gone once it is not listed. -/
def deleteActivity
    (systemUI : SystemUIManager)
    (manager : TaskStackManager)
    (activity : Nat) : SystemUIManager :=
  match manager.activities activity with
  | some record =>
      let task := record.mInTask
      if task ∈ systemUI.mSystemUITasks then
        let left := swapRemove (· == activity) (systemUI.mStack task)
        { mSystemUITasks :=
            if left.isEmpty then
              systemUI.mSystemUITasks.filter (· != task)
            else
              systemUI.mSystemUITasks
          mStack := Function.update systemUI.mStack task left }
      else
        systemUI
  | none =>
      systemUI

/-- `SystemUIManager::onStartActivity`. -/
def onStartActivity
    (systemUI : SystemUIManager)
    (manager : TaskStackManager) : Option TaskStackManager :=
  TaskStackManager.forEach
    (fun task manager =>
      TaskStackManager.forEach hideActivity (systemUI.mStack task) manager)
    systemUI.mSystemUITasks manager

end SystemUIManager

end ActivityManager
