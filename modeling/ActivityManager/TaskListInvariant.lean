import ActivityManager.TaskManagerRuns

/-!
# The lists of tasks in every run

The operations of the task manager dereference the top of the active task
without a check.  They may: used with their preconditions, they never leave a
listed task without an activity.
-/

namespace ActivityManager

open StepSystem (Reachable run?)

namespace TaskStackManager

/-- What the operations ask of their callers while all applications live. -/
def UsedAsMeant
    (manager : TaskStackManager)
    (action : ManagerAction) : Prop :=
  manager.isAddressed action = true ∧ manager.isProvided action = true

instance decidableUsedAsMeant
    (manager : TaskStackManager)
    (action : ManagerAction) :
    Decidable (manager.UsedAsMeant action) :=
  inferInstanceAs (Decidable (_ ∧ _))

/-- The lists of tasks are as the operations rely on. -/
structure ListsKept (manager : TaskStackManager) : Prop where
  distinctTasks : manager.lists.mAllTasks.Nodup
  notEmpty :
    ∀ task ∈ manager.lists.mAllTasks,
      manager.lists.stackOf task ≠ []
  distinctActivities :
    (manager.lists.mAllTasks.flatMap manager.lists.stackOf).Nodup
  inItsTask :
    ∀ task ∈ manager.lists.mAllTasks,
      ∀ activity ∈ manager.lists.stackOf task,
        ∃ record,
          manager.activities activity = some record ∧
            manager.getTask record = some task
  activeTop :
    ∀ activeTask,
      manager.lists.getActiveTask = some activeTask →
      ∃ top, manager.lists.getTopActivity activeTask = some top

/-- The aims of this module. -/
def staySafe : Aims where
  safe := True
  counts := False
  targets := False

variable {manager : TaskStackManager}

/-- Used as meant, a step keeps the manager safe. -/
theorem UsedAsMeant.permitted
    {action : ManagerAction}
    (used : manager.UsedAsMeant action) :
    Permitted staySafe manager action where
  addressed := used.1
  provided _ := used.2
  balanced := False.elim
  inOrder := False.elim

/-- A sound manager has well-kept lists. -/
theorem Sound.listsKept
    {aims : Aims}
    (sound : Sound aims manager) :
    ListsKept manager := by
  have wellStacked := sound.settled.wellStacked
  refine
    ⟨wellStacked.distinctTasks, wellStacked.notEmpty,
      wellStacked.distinctActivities, ?_, ?_⟩
  · intro task listed activity onStack
    have inTask := wellStacked.owned task activity onStack
    have known := placed_of_stacked wellStacked task onStack
    rw [setting, Option.isSome_map, Option.isSome_iff_exists] at known
    obtain ⟨record, isRecord⟩ := known
    have isTask : record.mInTask = task :=
      Option.some.inj ((inTask_of_record isRecord).symm.trans inTask)
    refine ⟨record, isRecord, ?_⟩
    rw [getTask, isTask]
    exact if_pos (Or.inl listed)
  · intro activeTask isActive
    have listed : activeTask ∈ manager.lists.mAllTasks :=
      List.mem_of_mem_head? isActive
    exact wellStacked.exists_topActivity listed

/--
In every run the lists are kept, and no operation that is used as meant goes
through a null pointer or pops from an empty container.
-/
theorem listsKept_of_reachable
    {now : Nat}
    (reachable :
      Reachable step? UsedAsMeant (TaskStackManager.start now) manager) :
    ListsKept manager ∧
      ∀ action,
        action.isOperation = true →
        manager.UsedAsMeant action →
        ∃ next, manager.step? action = some next := by
  have sound : Sound staySafe manager :=
    Sound.of_reachable (fun _ _ used => used.permitted) reachable
  refine ⟨sound.listsKept, ?_⟩
  intro action isOperation used
  obtain ⟨next, stepped, _⟩ :=
    (sound.operation isOperation used.permitted).exists_result
      (not_not_intro trivial)
  exact ⟨next, stepped⟩

/--
A home task and another one; a third activity is pushed above the second with
a cleared task, the other task goes to the background, comes back and loses
its only activity, which resumes the home task.
-/
def switchingTasks : Option TaskStackManager :=
  run? step? (TaskStackManager.start 0)
    [.attachApplication "home" false 10,
      .attachApplication "clock" false 11,
      .pushNewActivity "home/Main" 0 0 ⟨"home", "", "", 0⟩ 0,
      .reportActivityStatus 0 Status.created,
      .pushNewActivity "clock/Main" 1 1 ⟨"clock", "", "", 0⟩ 0,
      .pushNewActivity "clock/Alarm" 1 1 ⟨"clock", "", "", 0⟩
        flagActivityClearTask,
      .moveTaskToBackground 1,
      .switchTaskToActive 1 ⟨"clock", "", "", 0⟩,
      .turnToActivity 0 0 ⟨"home", "", "", 0⟩ flagActivityClearTop,
      .switchTaskToActive 1 ⟨"clock", "", "", 0⟩,
      .finishActivity 2,
      .deleteActivity 1]

theorem switchingTasks_listsKept :
    ListsKept (switchingTasks.get rfl) ∧
      ∀ action,
        action.isOperation = true →
        (switchingTasks.get rfl).UsedAsMeant action →
        ∃ next, (switchingTasks.get rfl).step? action = some next := by
  have accepted : switchingTasks = some (switchingTasks.get rfl) :=
    (Option.some_get _).symm
  exact listsKept_of_reachable (Reachable.of_run? (by decide) accepted)

end TaskStackManager

end ActivityManager
