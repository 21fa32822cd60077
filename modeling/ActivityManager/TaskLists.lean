import Mathlib.Data.List.Nodup
import Mathlib.Data.List.TakeWhile
import Mathlib.Logic.Function.Basic

/-!
# Tasks and their stacks

The lists of `TaskStackManager` and `ActivityStack`, without what the
activities in them are.  Tasks and activities are numbers; a stack is listed
from its top, which is the end of the vector in the source.
-/

namespace ActivityManager

/-- `mAllTasks`, `mHomeTask` and the stacks of all tasks. -/
structure TaskLists where
  mAllTasks : List Nat
  mHomeTask : Option Nat
  stackOf : Nat → List Nat

namespace TaskLists

/-- No task. -/
def empty : TaskLists where
  mAllTasks := []
  mHomeTask := none
  stackOf := fun _ => []

/-- `TaskStackManager::getActiveTask`. -/
def getActiveTask (lists : TaskLists) : Option Nat :=
  lists.mAllTasks.head?

/-- `ActivityStack::getTopActivity`. -/
def getTopActivity
    (lists : TaskLists)
    (task : Nat) : Option Nat :=
  (lists.stackOf task).head?

/-- The stack of the active task. -/
def foreground (lists : TaskLists) : List Nat :=
  match lists.getActiveTask with
  | some task => lists.stackOf task
  | none => []

/-- Give a task another stack. -/
def setStack
    (lists : TaskLists)
    (task : Nat)
    (stack : List Nat) : TaskLists :=
  { lists with stackOf := Function.update lists.stackOf task stack }

/-- `ActivityStack::pushActivity`. -/
def pushActivity
    (lists : TaskLists)
    (task activity : Nat) : TaskLists :=
  lists.setStack task (activity :: lists.stackOf task)

/-- `ActivityStack::popActivity`; popping an empty vector is undefined. -/
def popActivity?
    (lists : TaskLists)
    (task : Nat) : Option TaskLists :=
  match lists.stackOf task with
  | [] => none
  | _ :: rest => some (lists.setStack task rest)

/-- `mAllTasks.pop_front()`; popping an empty list is undefined. -/
def popFront? (lists : TaskLists) : Option TaskLists :=
  match lists.mAllTasks with
  | [] => none
  | _ :: rest => some { lists with mAllTasks := rest }

/-- `TaskStackManager::deleteTask`. -/
def deleteTask
    (lists : TaskLists)
    (task : Nat) : TaskLists :=
  { lists with mAllTasks := lists.mAllTasks.erase task }

/-- `mAllTasks.remove(task)` and `mAllTasks.push_front(task)`. -/
def moveToFront
    (lists : TaskLists)
    (task : Nat) : TaskLists :=
  { lists with
    mAllTasks := task :: lists.mAllTasks.filter (· != task) }

/-- What is below an activity of a stack. -/
def below (stack : List Nat) (activity : Nat) : List Nat :=
  (stack.dropWhile (· != activity)).tail

/-- The activities of a stack from its top down to one of them. -/
def downTo (stack : List Nat) (activity : Nat) : List Nat :=
  stack.takeWhile (· != activity) ++ [activity]

/-- What `deleteActivity` leaves of a stack. -/
def remaining
    (lists : TaskLists)
    (task activity : Nat) : List Nat :=
  if activity ∈ lists.stackOf task then
    below (lists.stackOf task) activity
  else
    lists.stackOf task

/-- A task gets another stack, and is deleted if that is empty. -/
def shrinkTo
    (lists : TaskLists)
    (task : Nat)
    (stack : List Nat) : TaskLists where
  mAllTasks :=
    if stack = [] then lists.mAllTasks.erase task else lists.mAllTasks
  mHomeTask := lists.mHomeTask
  stackOf := Function.update lists.stackOf task stack

/-- An emptied home task is replaced by the active task. -/
def updateHome
    (lists : TaskLists)
    (task : Nat) : TaskLists :=
  if some task = lists.mHomeTask ∧ (lists.stackOf task).isEmpty then
    { lists with mHomeTask := lists.getActiveTask }
  else
    lists

/-- What `TaskStackManager::deleteActivity` does to the lists. -/
def deleteActivity
    (lists : TaskLists)
    (task activity : Nat) : TaskLists :=
  (lists.shrinkTo task (lists.remaining task activity)).updateHome task

/--
The loop of `moveTaskToBackground` from some position of `mAllTasks` on, with
the value it returns.
-/
def behindHome
    (mHomeTask : Option Nat)
    (targetStack : Nat) :
    Bool → List Nat → List Nat × Bool
  | _, [] =>
      ([], false)
  | isBeforeHomeTask, task :: rest =>
      if task = targetStack then
        behindHome mHomeTask targetStack true rest
      else if some task = mHomeTask then
        (if isBeforeHomeTask then task :: targetStack :: rest
          else task :: rest,
          true)
      else
        let later := behindHome mHomeTask targetStack isBeforeHomeTask rest
        (task :: later.1, later.2)

/-! ## Small facts -/

@[simp] theorem setStack_self
    (lists : TaskLists)
    (task : Nat) :
    lists.setStack task (lists.stackOf task) = lists := by
  simp [setStack]

@[simp] theorem setStack_setStack
    (lists : TaskLists)
    (task : Nat)
    (first second : List Nat) :
    (lists.setStack task first).setStack task second =
      lists.setStack task second := by
  simp [setStack]

@[simp] theorem setStack_stacks
    (lists : TaskLists)
    (task : Nat)
    (stack : List Nat) :
    (lists.setStack task stack).stackOf task = stack := by
  simp [setStack]

theorem setStack_stacks_of_ne
    {task other : Nat}
    (lists : TaskLists)
    (stack : List Nat)
    (isOther : other ≠ task) :
    (lists.setStack task stack).stackOf other = lists.stackOf other := by
  simp [setStack, isOther]

@[simp] theorem moveToFront_foreground
    (lists : TaskLists)
    (task : Nat) :
    (lists.moveToFront task).foreground = lists.stackOf task := by
  rfl

/-- The foreground of a list that is not empty. -/
theorem foreground_of_cons
    {lists : TaskLists}
    {active : Nat}
    {others : List Nat}
    (allTasks : lists.mAllTasks = active :: others) :
    lists.foreground = lists.stackOf active := by
  simp [foreground, getActiveTask, allTasks]

theorem foreground_of_nil
    {lists : TaskLists}
    (allTasks : lists.mAllTasks = []) :
    lists.foreground = [] := by
  simp [foreground, getActiveTask, allTasks]

theorem foreground_of_active
    {lists : TaskLists}
    {task : Nat}
    (isActive : some task = lists.getActiveTask) :
    lists.foreground = lists.stackOf task := by
  simp [foreground, ← isActive]

/-- The foreground is the stack of an active task. -/
theorem exists_active_of_mem
    {lists : TaskLists}
    {activity : Nat}
    (inForeground : activity ∈ lists.foreground) :
    ∃ active,
      lists.getActiveTask = some active ∧
        activity ∈ lists.stackOf active := by
  unfold foreground at inForeground
  cases isActive : lists.getActiveTask with
  | none =>
      rw [isActive] at inForeground
      exact absurd inForeground List.not_mem_nil
  | some active =>
      rw [isActive] at inForeground
      exact ⟨active, rfl, inForeground⟩

/-- The foreground is that of the first task. -/
theorem foreground_congr
    {lists others : TaskLists}
    (sameActive : others.getActiveTask = lists.getActiveTask)
    (sameStack :
      ∀ active,
        lists.getActiveTask = some active →
        others.stackOf active = lists.stackOf active) :
    others.foreground = lists.foreground := by
  unfold foreground
  rw [sameActive]
  cases isActive : lists.getActiveTask with
  | none =>
      rfl
  | some active =>
      exact sameStack active isActive

/-- The stack of the active task changes. -/
theorem foreground_setStack_active
    {lists : TaskLists}
    {task : Nat}
    (isActive : some task = lists.getActiveTask)
    (stack : List Nat) :
    (lists.setStack task stack).foreground = stack := by
  have sameActive :
      (lists.setStack task stack).getActiveTask = some task := by
    rw [isActive]
    rfl
  simp [foreground, sameActive]

/-- The stack of another task changes. -/
theorem foreground_setStack_other
    {lists : TaskLists}
    {task : Nat}
    (notActive : some task ≠ lists.getActiveTask)
    (stack : List Nat) :
    (lists.setStack task stack).foreground = lists.foreground := by
  apply foreground_congr
  · rfl
  · intro active isActive
    apply setStack_stacks_of_ne
    intro same
    rw [isActive, same] at notActive
    exact notActive rfl

/-- Another task than the active one is deleted. -/
theorem head?_erase_of_ne
    {tasks : List Nat}
    {task : Nat}
    (notFirst : some task ≠ tasks.head?) :
    (tasks.erase task).head? = tasks.head? := by
  cases tasks with
  | nil =>
      rfl
  | cons first rest =>
      have isOther : ¬ (first == task) = true := by
        intro same
        exact notFirst (by rw [beq_iff_eq.mp same]; rfl)
      rw [List.erase_cons_tail isOther]
      rfl

@[simp] theorem updateHome_foreground
    (lists : TaskLists)
    (task : Nat) :
    (lists.updateHome task).foreground = lists.foreground := by
  unfold updateHome
  split <;> rfl

/-- A task in the background shrinks. -/
theorem foreground_shrinkTo_other
    {lists : TaskLists}
    {task : Nat}
    (notActive : some task ≠ lists.getActiveTask)
    (stack : List Nat) :
    (lists.shrinkTo task stack).foreground = lists.foreground := by
  rw [← foreground_setStack_other notActive stack]
  apply foreground_congr
  · unfold shrinkTo getActiveTask
    dsimp only
    split
    · exact head?_erase_of_ne notActive
    · rfl
  · exact fun _ _ => rfl

/-- The active task shrinks, and stays. -/
theorem foreground_shrinkTo_active
    {lists : TaskLists}
    {task : Nat}
    {stack : List Nat}
    (isActive : some task = lists.getActiveTask)
    (notEmpty : stack ≠ []) :
    (lists.shrinkTo task stack).foreground = stack := by
  have isSet : lists.shrinkTo task stack = lists.setStack task stack := by
    simp [shrinkTo, setStack, notEmpty]
  rw [isSet]
  exact foreground_setStack_active isActive stack

/-- The active task is emptied. -/
theorem foreground_shrinkTo_nil
    {lists : TaskLists}
    {task : Nat}
    {others : List Nat}
    (allTasks : lists.mAllTasks = task :: others)
    (notListed : task ∉ others) :
    (lists.shrinkTo task []).foreground =
      { lists with mAllTasks := others }.foreground := by
  have sameTasks : (lists.shrinkTo task []).mAllTasks = others := by
    simp [shrinkTo, allTasks]
  apply foreground_congr
  · rw [getActiveTask, sameTasks]
    rfl
  · intro active isActive
    have listed : active ∈ others := List.mem_of_head? isActive
    have isOther : active ≠ task :=
      fun isTask => notListed (isTask ▸ listed)
    exact setStack_stacks_of_ne lists [] isOther

/-- An activity on a stack splits it. -/
theorem downTo_append_below
    {stack : List Nat}
    {activity : Nat}
    (onStack : activity ∈ stack) :
    downTo stack activity ++ below stack activity = stack := by
  induction stack with
  | nil =>
      exact absurd onStack List.not_mem_nil
  | cons top rest inductionHypothesis =>
      by_cases isTop : top = activity
      · simp [downTo, below, isTop]
      · have inRest : activity ∈ rest := by
          rcases List.mem_cons.mp onStack with isActivity | inRest
          · exact absurd isActivity.symm isTop
          · exact inRest
        have splits := inductionHypothesis inRest
        unfold downTo below at splits ⊢
        simpa [isTop] using splits

/-- What `deleteActivity` leaves is the lower end of a stack. -/
theorem remaining_splits
    (lists : TaskLists)
    (task activity : Nat) :
    ∃ above,
      lists.stackOf task = above ++ lists.remaining task activity := by
  unfold remaining
  split
  · rename_i onStack
    exact
      ⟨downTo (lists.stackOf task) activity,
        (downTo_append_below onStack).symm⟩
  · exact ⟨[], rfl⟩

/-- An activity splits a stack. -/
theorem exists_above
    {stack : List Nat}
    {activity : Nat}
    (onStack : activity ∈ stack) :
    ∃ above,
      stack = above ++ activity :: below stack activity ∧
        activity ∉ above := by
  refine ⟨stack.takeWhile (· != activity), ?_, ?_⟩
  · rw [List.append_cons]
    exact (downTo_append_below onStack).symm
  · intro isAbove
    simpa using List.mem_takeWhile_imp isAbove

/-! ## Well-formed lists -/

/--
No task is listed twice or with an empty stack, no activity is twice on a
stack, and activities are on the stack of their own task.
-/
structure WellStacked
    (inTask : Nat → Option Nat)
    (lists : TaskLists) : Prop where
  distinctTasks : lists.mAllTasks.Nodup
  notEmpty : ∀ task ∈ lists.mAllTasks, lists.stackOf task ≠ []
  distinct : ∀ task, (lists.stackOf task).Nodup
  owned :
    ∀ task,
      ∀ activity ∈ lists.stackOf task,
        inTask activity = some task

namespace WellStacked

variable {inTask : Nat → Option Nat} {lists : TaskLists}

/-- A listed task has a top. -/
theorem exists_top
    (wellStacked : WellStacked inTask lists)
    {task : Nat}
    (listed : task ∈ lists.mAllTasks) :
    ∃ top rest, lists.stackOf task = top :: rest := by
  cases stack : lists.stackOf task with
  | nil =>
      exact absurd stack (wellStacked.notEmpty task listed)
  | cons top rest =>
      exact ⟨top, rest, rfl⟩

/-- The top of a listed task is an activity. -/
theorem exists_topActivity
    (wellStacked : WellStacked inTask lists)
    {task : Nat}
    (listed : task ∈ lists.mAllTasks) :
    ∃ top, lists.getTopActivity task = some top := by
  obtain ⟨top, rest, isStack⟩ := wellStacked.exists_top listed
  refine ⟨top, ?_⟩
  rw [getTopActivity, isStack]
  rfl

/-- No activity is twice on the stacks of the listed tasks. -/
theorem distinctActivities
    (wellStacked : WellStacked inTask lists) :
    (lists.mAllTasks.flatMap lists.stackOf).Nodup := by
  rw [List.nodup_flatMap]
  refine ⟨fun task _ => wellStacked.distinct task, ?_⟩
  refine wellStacked.distinctTasks.imp ?_
  intro task other different activity onTask onOther
  have samePlace :=
    (wellStacked.owned task activity onTask).symm.trans
      (wellStacked.owned other activity onOther)
  exact different (Option.some.inj samePlace)

/-- One stack changes, and the list of tasks. -/
theorem change
    {allTasks stack : List Nat}
    {task : Nat}
    (wellStacked : WellStacked inTask lists)
    (home : Option Nat)
    (distinctTasks : allTasks.Nodup)
    (listed :
      ∀ other ∈ allTasks,
        other ≠ task →
        other ∈ lists.mAllTasks)
    (notEmpty : task ∈ allTasks → stack ≠ [])
    (distinct : stack.Nodup)
    (owned : ∀ activity ∈ stack, inTask activity = some task) :
    WellStacked inTask
      { mAllTasks := allTasks
        mHomeTask := home
        stackOf := Function.update lists.stackOf task stack } where
  distinctTasks := distinctTasks
  notEmpty other member := by
    by_cases isTask : other = task
    · subst isTask
      simpa using notEmpty member
    · simpa [isTask] using
        wellStacked.notEmpty other (listed other member isTask)
  distinct other := by
    by_cases isTask : other = task
    · subst isTask
      simpa using distinct
    · simpa [isTask] using wellStacked.distinct other
  owned other activity member := by
    by_cases isTask : other = task
    · subst isTask
      exact owned activity (by simpa using member)
    · exact wellStacked.owned other activity (by simpa [isTask] using member)

/-- The task that comes to the front is active already. -/
theorem moveToFront_of_active
    {active : Nat}
    {others : List Nat}
    (wellStacked : WellStacked inTask lists)
    (allTasks : lists.mAllTasks = active :: others) :
    lists.moveToFront active = lists := by
  have distinct := wellStacked.distinctTasks
  rw [allTasks, List.nodup_cons] at distinct
  have sameOthers : others.filter (· != active) = others := by
    rw [List.filter_eq_self]
    intro other member
    have isOther : other ≠ active := by
      intro same
      exact distinct.1 (same ▸ member)
    simpa using isOther
  have sameTasks :
      active :: (active :: others).filter (· != active) =
        active :: others := by
    simp [sameOthers]
  unfold moveToFront
  rw [allTasks, sameTasks, ← allTasks]

/-- A task with activities comes to the front. -/
theorem moveToFront
    {task : Nat}
    (wellStacked : WellStacked inTask lists)
    (notEmpty : lists.stackOf task ≠ []) :
    WellStacked inTask (lists.moveToFront task) where
  distinctTasks := by
    rw [TaskLists.moveToFront, List.nodup_cons]
    refine ⟨?_, wellStacked.distinctTasks.filter _⟩
    simp
  notEmpty other member := by
    rcases List.mem_cons.mp member with isTask | isListed
    · rw [isTask]
      exact notEmpty
    · exact wellStacked.notEmpty other (List.mem_of_mem_filter isListed)
  distinct := wellStacked.distinct
  owned := wellStacked.owned

/-- One stack changes to another of its activities. -/
theorem setStack
    {task : Nat}
    {stack : List Nat}
    (wellStacked : WellStacked inTask lists)
    (notEmpty : stack ≠ [])
    (distinct : stack.Nodup)
    (owned : ∀ activity ∈ stack, inTask activity = some task) :
    WellStacked inTask (lists.setStack task stack) := by
  apply wellStacked.change lists.mHomeTask wellStacked.distinctTasks
  · intro other member _
    exact member
  · exact fun _ => notEmpty
  · exact distinct
  · exact owned

/-- A stack shrinks; its task is deleted if nothing is left. -/
theorem shrinkTo
    {task : Nat}
    {above stack : List Nat}
    (wellStacked : WellStacked inTask lists)
    (splits : lists.stackOf task = above ++ stack) :
    WellStacked inTask (lists.shrinkTo task stack) := by
  have distinct := wellStacked.distinct task
  rw [splits] at distinct
  apply wellStacked.change lists.mHomeTask
  · split
    · exact wellStacked.distinctTasks.erase task
    · exact wellStacked.distinctTasks
  · intro other member _
    split at member
    · exact List.mem_of_mem_erase member
    · exact member
  · intro listed isNil
    rw [if_pos isNil] at listed
    exact wellStacked.distinctTasks.not_mem_erase listed
  · exact (List.nodup_append.mp distinct).2.1
  · intro activity member
    apply wellStacked.owned task
    rw [splits]
    exact List.mem_append_right above member

/-- Only the list of tasks changes. -/
theorem relist
    {allTasks : List Nat}
    (wellStacked : WellStacked inTask lists)
    (home : Option Nat)
    (distinctTasks : allTasks.Nodup)
    (listed : ∀ task ∈ allTasks, task ∈ lists.mAllTasks) :
    WellStacked inTask
      { mAllTasks := allTasks
        mHomeTask := home
        stackOf := lists.stackOf } where
  distinctTasks := distinctTasks
  notEmpty task member := wellStacked.notEmpty task (listed task member)
  distinct := wellStacked.distinct
  owned := wellStacked.owned

/-- Only the home task changes. -/
theorem updateHome
    (wellStacked : WellStacked inTask lists)
    (task : Nat) :
    WellStacked inTask (lists.updateHome task) := by
  unfold TaskLists.updateHome
  split
  · exact wellStacked.relist lists.getActiveTask
      wellStacked.distinctTasks fun _ member => member
  · exact wellStacked

/-- An activity is deleted, with all that is above it. -/
theorem deleteActivity
    (wellStacked : WellStacked inTask lists)
    (task activity : Nat) :
    WellStacked inTask (lists.deleteActivity task activity) := by
  obtain ⟨above, splits⟩ := remaining_splits lists task activity
  exact (wellStacked.shrinkTo splits).updateHome task

end WellStacked

/-- The loop of `moveTaskToBackground` only moves the task. -/
theorem behindHome_mem
    {home : Option Nat}
    {target task : Nat}
    {isBefore : Bool}
    {tasks : List Nat}
    (member : task ∈ (behindHome home target isBefore tasks).1) :
    task ∈ tasks ∨ (task = target ∧ (isBefore = true ∨ target ∈ tasks)) := by
  induction tasks generalizing isBefore with
  | nil =>
      simp [behindHome] at member
  | cons first rest inductionHypothesis =>
      rw [behindHome] at member
      split at member
      · rename_i isTarget
        rcases inductionHypothesis member with later | ⟨isTask, _⟩
        · exact Or.inl (by simp [later])
        · exact Or.inr ⟨isTask, Or.inr (by simp [isTarget])⟩
      · split at member
        · cases isBefore with
          | true =>
              simp only [if_true, List.mem_cons] at member
              rcases member with isFirst | isTarget | later
              · exact Or.inl (by simp [isFirst])
              · exact Or.inr ⟨isTarget, Or.inl rfl⟩
              · exact Or.inl (by simp [later])
          | false =>
              exact Or.inl (by simpa using member)
        · simp only [List.mem_cons] at member
          rcases member with isFirst | later
          · exact Or.inl (by simp [isFirst])
          · rcases inductionHypothesis later with
              inRest | ⟨isTask, early | inRest⟩
            · exact Or.inl (by simp [inRest])
            · exact Or.inr ⟨isTask, Or.inl early⟩
            · exact Or.inr ⟨isTask, Or.inr (by simp [inRest])⟩

/-- The loop keeps the tasks distinct. -/
theorem behindHome_nodup
    {home : Option Nat}
    {target : Nat}
    {isBefore : Bool}
    {tasks : List Nat}
    (distinct : tasks.Nodup)
    (once : isBefore = true → target ∉ tasks) :
    (behindHome home target isBefore tasks).1.Nodup := by
  induction tasks generalizing isBefore with
  | nil =>
      exact List.nodup_nil
  | cons first rest inductionHypothesis =>
      rw [List.nodup_cons] at distinct
      rw [behindHome]
      split
      · rename_i isTarget
        subst isTarget
        exact inductionHypothesis distinct.2 (fun _ => distinct.1)
      · rename_i notTarget
        split
        · cases isBefore with
          | true =>
              have notListed := once rfl
              rw [List.mem_cons, not_or] at notListed
              simp only [if_true, List.nodup_cons, List.mem_cons, not_or]
              exact ⟨⟨notTarget, distinct.1⟩, notListed.2, distinct.2⟩
          | false =>
              simpa using distinct
        · have onceLater : isBefore = true → target ∉ rest := by
            intro early inRest
            exact once early (by simp [inRest])
          simp only [List.nodup_cons]
          refine ⟨?_, inductionHypothesis distinct.2 onceLater⟩
          intro member
          rcases behindHome_mem member with inRest | ⟨isTarget, _⟩
          · exact distinct.1 inRest
          · exact notTarget isTarget

/-- The loop leaves the first task where it is. -/
theorem behindHome_head?
    {home : Option Nat}
    {target : Nat}
    {isBefore : Bool}
    {tasks : List Nat}
    (notFirst : tasks.head? ≠ some target) :
    (behindHome home target isBefore tasks).1.head? = tasks.head? := by
  cases tasks with
  | nil =>
      rfl
  | cons first rest =>
      have isOther : first ≠ target := by
        intro same
        exact notFirst (by rw [same]; rfl)
      rw [behindHome, if_neg isOther]
      split
      · cases isBefore <;> rfl
      · rfl

end TaskLists

end ActivityManager
