import ActivityManager.TaskStackManager
import Mathlib.Logic.Relation

/-!
# What the operations do to the lists of tasks

The lists after an operation of the task manager, as functions of the lists
before it.  They do not depend on the activities: whatever these do in the
meantime, an operation that ends has moved, cleared and deleted the same tasks.
-/

namespace ActivityManager

namespace TaskLists

/-- `pushTaskToFront`. -/
def pushTaskToFront
    (lists : TaskLists)
    (activityStack : Nat) : TaskLists :=
  if some activityStack ≠ lists.getActiveTask then
    lists.moveToFront activityStack
  else
    lists

/-- The loops that clear a task down to one activity, or altogether. -/
def clearAbove
    (lists : TaskLists)
    (targetStack : Nat)
    (activity : Option Nat) : TaskLists :=
  lists.setStack targetStack
    ((lists.stackOf targetStack).dropWhile (some · ≠ activity))

/-- `switchTaskToActive`. -/
def switchTaskToActive
    (lists : TaskLists)
    (targetStack : Nat) : TaskLists :=
  if some targetStack ≠ lists.getActiveTask then
    if (lists.getTopActivity targetStack).isSome then
      lists.moveToFront targetStack
    else
      lists.deleteTask targetStack
  else
    lists

/-- `moveTaskToBackground`: an active task is popped first. -/
def moveTaskToBackground
    (lists : TaskLists)
    (targetStack : Nat) : TaskLists :=
  if some targetStack = lists.mHomeTask then
    lists
  else
    let isActive : Bool := some targetStack = lists.getActiveTask
    { lists with
      mAllTasks :=
        (behindHome lists.mHomeTask targetStack isActive
          (if isActive then lists.mAllTasks.tail
            else lists.mAllTasks)).1 }

/-- The first task becomes the home task. -/
def foundHome
    (lists : TaskLists)
    (targetStack : Nat) : TaskLists :=
  match lists.getActiveTask with
  | some _ => lists
  | none => { lists with mHomeTask := some targetStack }

/-- `foundHome` is about the home task only. -/
theorem foundHome_mAllTasks
    (lists : TaskLists)
    (targetStack : Nat) :
    (lists.foundHome targetStack).mAllTasks = lists.mAllTasks := by
  unfold foundHome
  split <;> rfl

theorem foundHome_stackOf
    (lists : TaskLists)
    (targetStack : Nat) :
    (lists.foundHome targetStack).stackOf = lists.stackOf := by
  unfold foundHome
  split <;> rfl

/-- `pushNewActivity`. -/
def pushNewActivity
    (lists : TaskLists)
    (targetStack activity startFlag : Nat) : TaskLists :=
  let founded := lists.foundHome targetStack
  let cleared :=
    if startFlag &&& flagActivityClearTask ≠ 0 then
      founded.clearAbove targetStack none
    else
      founded
  (cleared.pushActivity targetStack activity).pushTaskToFront targetStack

/-- `turnToActivity`. -/
def turnToActivity
    (lists : TaskLists)
    (targetStack activity startFlag : Nat) : TaskLists :=
  if lists.getActiveTask.bind lists.getTopActivity = some activity then
    lists
  else
    let cleared :=
      if startFlag &&& flagActivityClearTop ≠ 0 then
        lists.clearAbove targetStack (some activity)
      else
        lists
    cleared.pushTaskToFront targetStack

/-- The active task is dropped, and hands over if it was the home task. -/
def dropActive
    (lists : TaskLists)
    (activityTask : Nat) : TaskLists :=
  let popped := { lists with mAllTasks := lists.mAllTasks.tail }
  if some activityTask = popped.mHomeTask then
    { popped with mHomeTask := popped.getActiveTask }
  else
    popped

/--
`finishActivity`: an emptied task is deleted, and only an active home task
hands over to the next task.
-/
def finishActivity
    (lists : TaskLists)
    (activityTask activity : Nat) : TaskLists :=
  let popped :=
    lists.setStack activityTask
      (below (lists.stackOf activityTask) activity)
  if (popped.getTopActivity activityTask).isSome then
    popped
  else if some activityTask = lists.getActiveTask then
    popped.dropActive activityTask
  else
    popped.deleteTask activityTask

/-- Any number of activities are deleted, from whatever tasks they are in. -/
def Deletes : TaskLists → TaskLists → Prop :=
  Relation.ReflTransGen fun lists next =>
    ∃ task activity, next = lists.deleteActivity task activity

/-- A task with nothing above the activity is left alone. -/
theorem clearAbove_of_stop
    {lists : TaskLists}
    {targetStack : Nat}
    {activity : Option Nat}
    {stack : List Nat}
    (isStack : lists.stackOf targetStack = stack)
    (stops : stack.dropWhile (some · ≠ activity) = stack) :
    lists.clearAbove targetStack activity = lists := by
  rw [clearAbove, isStack, stops, ← isStack, setStack_self]

/-- `pop_front` drops the active task. -/
theorem popFront?_eq
    {lists popped : TaskLists}
    (isPopped : lists.popFront? = some popped) :
    popped = { lists with mAllTasks := lists.mAllTasks.tail } := by
  unfold popFront? at isPopped
  split at isPopped
  · cases isPopped
  · rename_i first rest allTasks
    rw [allTasks]
    exact (Option.some.inj isPopped).symm

/-- A cleared task loses the activity itself. -/
theorem popActivity?_clearAbove
    {lists popped : TaskLists}
    {task activity : Nat}
    (isPopped :
      (lists.clearAbove task (some activity)).popActivity? task =
        some popped) :
    popped =
      lists.setStack task (below (lists.stackOf task) activity) := by
  have sameWhile :
      (lists.stackOf task).dropWhile (some · ≠ some activity) =
        (lists.stackOf task).dropWhile (· != activity) := by
    congr 1
    funext other
    by_cases isActivity : other = activity
    · simp [isActivity]
    · simp [isActivity]
  unfold popActivity? clearAbove at isPopped
  rw [setStack_stacks, sameWhile] at isPopped
  split at isPopped
  · cases isPopped
  · rename_i top rest isStack
    rw [below, isStack, ← Option.some.inj isPopped, setStack_setStack]
    rfl

/-- A finished activity leaves its stack to what was below it. -/
theorem finishActivity_stackOf
    (lists : TaskLists)
    (activityTask activity : Nat) :
    (lists.finishActivity activityTask activity).stackOf =
      Function.update lists.stackOf activityTask
        (below (lists.stackOf activityTask) activity) := by
  unfold finishActivity
  dsimp only
  split
  · rfl
  · split
    · unfold dropActive
      dsimp only
      split <;> rfl
    · rfl

/-- The active task shrinks: if nothing remains, it is popped. -/
theorem shrinkTo_active
    {lists : TaskLists}
    {task : Nat}
    (isActive : some task = lists.getActiveTask)
    (stack : List Nat) :
    (if ((lists.setStack task stack).getTopActivity task).isSome then
        lists.setStack task stack
      else
        { lists.setStack task stack with
          mAllTasks := (lists.setStack task stack).mAllTasks.tail }) =
      lists.shrinkTo task stack := by
  obtain ⟨others, allTasks⟩ := List.head?_eq_some_iff.mp isActive.symm
  cases stack with
  | nil =>
      simp [getTopActivity, shrinkTo, setStack, allTasks]
  | cons top rest =>
      simp [getTopActivity, shrinkTo, setStack]

/-- Another task shrinks: if nothing remains, it is deleted. -/
theorem shrinkTo_other
    (lists : TaskLists)
    (task : Nat)
    (stack : List Nat) :
    (if ((lists.setStack task stack).stackOf task).isEmpty then
        (lists.setStack task stack).deleteTask task
      else
        lists.setStack task stack) =
      lists.shrinkTo task stack := by
  cases stack with
  | nil =>
      simp [shrinkTo, setStack, deleteTask]
  | cons top rest =>
      simp [shrinkTo, setStack]

end TaskLists

end ActivityManager
