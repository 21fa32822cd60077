import ActivityManager.BackgroundMoves
import ActivityManager.HomeTask

/-!
# Activities that are finished twice

A finished activity keeps its token until the client reports that it is
destroyed.  Until then it can be finished again.  But then it is not on its
stack, and the loop of `finishActivity` that looks for it there destroys
everything that it meets, and a `popActivity` of an empty stack follows.
-/

namespace ActivityManager

open StepSystem (Reachable run?)

namespace TaskLists

variable
  {lists : TaskLists}
  {task activity : Nat}

/-- The loop stops at an activity of the stack. -/
theorem clearAbove_stackOf_of_mem
    (onStack : activity ∈ lists.stackOf task) :
    (lists.clearAbove task (some activity)).stackOf task =
      activity :: below (lists.stackOf task) activity := by
  obtain ⟨above, isSplit, notAbove⟩ := exists_above onStack
  generalize below (lists.stackOf task) activity = rest at isSplit ⊢
  rw [clearAbove, setStack_stacks, isSplit]
  rw [List.dropWhile_append_of_pos]
  · simp
  · intro other isAbove
    have isOther : other ≠ activity :=
      fun same => notAbove (same ▸ isAbove)
    simpa using isOther

/-- The loop clears a stack without the activity. -/
theorem clearAbove_stackOf_of_notMem
    (offStack : activity ∉ lists.stackOf task) :
    (lists.clearAbove task (some activity)).stackOf task = [] := by
  rw [clearAbove, setStack_stacks, List.dropWhile_eq_nil_iff]
  intro other onStack
  have isOther : other ≠ activity :=
    fun same => offStack (same ▸ onStack)
  simpa using isOther

end TaskLists

namespace TaskStackManager

variable
  {manager next : TaskStackManager}
  {activity task : Nat}

/-! ## What a finish may do -/

/-- The loop of `finishActivity` over the activities above one. -/
def clearForFinish
    (manager : TaskStackManager)
    (activity task : Nat) : Option TaskStackManager :=
  clearAbove task (some activity)
    (some task = manager.lists.getActiveTask) (manager.loopFuel task)
    manager

/--
The activity is popped with all above it, or nothing happens to the stacks and
no other activity is asked to be destroyed.
-/
structure FinishesOnly
    (manager : TaskStackManager)
    (activity task : Nat) : Prop where
  onStack :
    activity ∈ manager.lists.stackOf task →
    ∀ next,
      manager.finishActivity activity = some next →
      next.lists.stackOf =
        Function.update manager.lists.stackOf task
          (TaskLists.below (manager.lists.stackOf task) activity)
  offStack :
    activity ∉ manager.lists.stackOf task →
    ∃ next requests,
      manager.finishActivity activity = some next ∧
        next.lists.stackOf = manager.lists.stackOf ∧
        Requested manager requests next ∧
        ∀ other,
          other ≠ activity →
          (other, Status.destroyed) ∉ requests
  /-- The stack that `popActivity` is applied to after the loop. -/
  popsTop :
    ∀ cleared,
      manager.clearForFinish activity task = some cleared →
      cleared.lists.stackOf task ≠ []

/-- A finished activity, of a task that may have been removed. -/
def FinishIsClean
    (manager : TaskStackManager)
    (activity : Nat) : Prop :=
  match manager.taskOf activity with
  | some task => FinishesOnly manager activity task
  | none => manager.finishActivity activity = some manager

/-- The loop on the lists. -/
theorem clearForFinish_lists
    {cleared : TaskStackManager}
    (isCleared : manager.clearForFinish activity task = some cleared) :
    cleared.lists = manager.lists.clearAbove task (some activity) := by
  have moved :
      Moved (partsOf manager (.finishActivity activity)) manager
        manager.lists manager :=
    .refl manager
  exact
    ((moved.clearAbove rfl (manager.loopFuel task)).of_result
      isCleared).sameLists

/-- A finish starts with the loop, and pops once more. -/
theorem finishActivity_pops
    (isTask : manager.taskOf activity = some task)
    (isNext : manager.finishActivity activity = some next) :
    ∃ cleared popped,
      manager.clearForFinish activity task = some cleared ∧
        cleared.lists.popActivity? task = some popped := by
  obtain ⟨record, isRecord, isNext⟩ := Option.bind_eq_some_iff.mp isNext
  have inTask : manager.getTask record = some task := by
    rw [taskOf, isRecord, Option.bind_some] at isTask
    exact isTask
  rw [inTask] at isNext
  obtain ⟨cleared, isCleared, isNext⟩ := Option.bind_eq_some_iff.mp isNext
  obtain ⟨popped, isPopped, _⟩ := Option.bind_eq_some_iff.mp isNext
  exact ⟨cleared, popped, isCleared, isPopped⟩

/-- An activity that is not on the stack of its task cannot be finished. -/
theorem finishActivity_offStack
    (isTask : manager.taskOf activity = some task)
    (offStack : activity ∉ manager.lists.stackOf task) :
    manager.finishActivity activity = none := by
  cases isNext : manager.finishActivity activity with
  | none =>
      rfl
  | some next =>
      obtain ⟨cleared, popped, isCleared, isPopped⟩ :=
        finishActivity_pops isTask isNext
      rw [clearForFinish_lists isCleared, TaskLists.popActivity?,
        TaskLists.clearAbove_stackOf_of_notMem offStack] at isPopped
      cases isPopped

/-- An activity on the stack of its task is finished with all above it. -/
theorem finishesOnly_of_onStack
    (isTask : manager.taskOf activity = some task)
    (onStack : activity ∈ manager.lists.stackOf task) :
    FinishesOnly manager activity task where
  onStack _ next isNext := by
    rw [finishActivity_lists isNext, isTask]
    exact TaskLists.finishActivity_stackOf manager.lists task activity
  offStack offStack := absurd onStack offStack
  popsTop cleared isCleared := by
    rw [clearForFinish_lists isCleared,
      TaskLists.clearAbove_stackOf_of_mem onStack]
    exact List.cons_ne_nil _ _

/--
To finish an activity is clean exactly if it is on the stack of its task, or
the task is gone.
-/
theorem finishIsClean_iff
    (manager : TaskStackManager)
    (activity : Nat)
    (record : ActivityRecord)
    (isRecord : manager.activities activity = some record) :
    manager.FinishIsClean activity ↔
      ∀ task ∈ manager.getTask record,
        activity ∈ manager.lists.stackOf task := by
  have sameTask : manager.taskOf activity = manager.getTask record := by
    rw [taskOf, isRecord, Option.bind_some]
  unfold FinishIsClean
  rw [sameTask]
  cases isTask : manager.getTask record with
  | none =>
      refine iff_of_true ?_ (by simp)
      simp [TaskStackManager.finishActivity, isRecord, isTask]
  | some task =>
      have isOwn : manager.taskOf activity = some task :=
        sameTask.trans isTask
      constructor
      · intro clean other isOther
        rw [← Option.some.inj isOther]
        by_contra offStack
        obtain ⟨next, _, isNext, _⟩ := clean.offStack offStack
        rw [finishActivity_offStack isOwn offStack] at isNext
        cases isNext
      · intro onStack
        exact finishesOnly_of_onStack isOwn (onStack task rfl)

/-- The alarm in front of the main activity of the clock. -/
def alarmInFront : Option TaskStackManager :=
  run? step? (TaskStackManager.start 0)
    [.attachApplication "home" false 10,
      .attachApplication "clock" false 11,
      .pushNewActivity "home/Main" 0 0 ⟨"home", "", "", 0⟩ 0,
      .pushNewActivity "clock/Main" 1 1 ⟨"clock", "", "", 0⟩ 0,
      .pushNewActivity "clock/Alarm" 1 1 ⟨"clock", "", "", 0⟩ 0]

/-- It is finished for the first time. -/
theorem alarmInFront_finishIsClean_iff :
    (alarmInFront.get rfl).FinishIsClean 2 ↔
      ∀ task ∈
          (alarmInFront.get rfl).getTask
            (((alarmInFront.get rfl).activities 2).get rfl),
        2 ∈ (alarmInFront.get rfl).lists.stackOf task :=
  finishIsClean_iff (alarmInFront.get rfl) 2 _ (Option.some_get _).symm

/-- The alarm is finished, and has not reported that it is destroyed. -/
def alarmFinished : Option TaskStackManager :=
  run? step? (TaskStackManager.start 0)
    [.attachApplication "home" false 10,
      .attachApplication "clock" false 11,
      .pushNewActivity "home/Main" 0 0 ⟨"home", "", "", 0⟩ 0,
      .pushNewActivity "clock/Main" 1 1 ⟨"clock", "", "", 0⟩ 0,
      .pushNewActivity "clock/Alarm" 1 1 ⟨"clock", "", "", 0⟩ 0,
      .finishActivity 2]

/--
To finish the alarm once more destroys the main activity, and then pops from
an empty stack.
-/
theorem alarmFinished_not_clean :
    Reachable step? (fun _ _ => True) (TaskStackManager.start 0)
        (alarmFinished.get rfl) ∧
      2 ∈ (alarmFinished.get rfl).mActivityMap ∧
      ¬ (alarmFinished.get rfl).FinishIsClean 2 ∧
      (((alarmFinished.get rfl).clearForFinish 2 1).any fun cleared =>
        cleared.lists.stackOf 1 = [] ∧
          (cleared.activities 1).any
            (·.mTargetStatus = Status.destroyed)) = true := by
  have accepted : alarmFinished = some (alarmFinished.get rfl) :=
    (Option.some_get _).symm
  refine ⟨Reachable.of_run? ?_ accepted, by decide, ?_, by decide⟩
  · exact StepSystem.allowedRun_of_forall (fun _ _ => trivial) _ _
  · intro clean
    have isTask : (alarmFinished.get rfl).taskOf 2 = some 1 := by decide
    unfold FinishIsClean at clean
    rw [isTask] at clean
    obtain ⟨next, _, isNext, _⟩ := clean.offStack (by decide)
    rw [finishActivity_offStack isTask (by decide)] at isNext
    cases isNext

end TaskStackManager

end ActivityManager
