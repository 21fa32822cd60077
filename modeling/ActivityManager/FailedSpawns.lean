import ActivityManager.QueuedRequests

/-!
# Processes that exit before they attach

The exit of a process that has not attached only takes its entry from
`mAppWaitingAttach`.  What was queued for it stays on the board, and the
activities that were created for it stay in the map; a later process that
gets the same pid runs these tasks.  Where no process exits that way, every
task is run with a record of the process that it was queued for.
-/

namespace ActivityManager

open StepSystem (Reachable run?)

/-- The activity that a task was created for. -/
def AppAttachTask.newActivity (task : AppAttachTask) : Option Nat :=
  match task.mCallback with
  | .startActivity _ _ newActivity _ _ => some newActivity
  | .startService .. => none

namespace ActivityManagerInner

variable {inner next : ActivityManagerInner}

/-- What was queued for a process is gone, and its activities are. -/
structure Forgotten
    (before after : ActivityManagerInner)
    (pid : Nat) : Prop where
  tasks :
    ∀ handler ∈ before.pendingTasks pid,
      handler ∉ after.mPendTask.mTasklist
  activities :
    ∀ handler ∈ before.pendingTasks pid,
      ∀ activity,
        handler.mTask.newActivity = some activity →
        activity ∉ after.manager.mActivityMap

/-- An exit before the process has attached leaves nothing behind. -/
def CleansUp (before after : ActivityManagerInner) : InnerAction → Prop
  | .childExit pid =>
      before.attachedOrGone pid = false →
      Forgotten before after pid
  | _ =>
      True

/--
Callbacks are run with records of processes of their name, and exits leave
nothing behind.
-/
structure SpawnsCleanly (inner : ActivityManagerInner) : Prop where
  served : ∀ served ∈ inner.served, inner.RunRight served
  cleansUp :
    ∀ action next,
      Permitted inner action →
      inner.step? action = some next →
      CleansUp inner next action

/-- A process that waits has a task that waits for it. -/
theorem TasksMatch.exists_pendingTask
    {pid : Nat}
    (matched : TasksMatch inner)
    (waits : inner.attachedOrGone pid = false) :
    ∃ handler, handler ∈ inner.pendingTasks pid := by
  rw [attachedOrGone, Bool.or_eq_false_iff] at waits
  obtain ⟨name, isWaiting⟩ :=
    Option.isSome_iff_exists.mp (Option.isNone_eq_false_iff.mp waits.2)
  obtain ⟨handler, onBoard, notDone, samePid⟩ :=
    matched.queued _ (mem_of_getAttachingAppName isWaiting)
  refine ⟨handler, List.mem_filter.mpr ⟨onBoard, ?_⟩⟩
  rw [notDone, samePid]
  exact beq_self_eq_true pid

/-- The exit of such a process leaves the board as it is. -/
theorem not_forgotten_of_waiting
    {pid : Nat}
    (matched : TasksMatch inner)
    (waits : inner.attachedOrGone pid = false)
    (isNext : inner.step? (.childExit pid) = some next) :
    ¬ Forgotten inner next pid := by
  intro forgotten
  obtain ⟨handler, isPending⟩ := matched.exists_pendingTask waits
  have sameBoard : next.mPendTask = inner.mPendTask := by
    rw [attachedOrGone, Bool.or_eq_false_iff] at waits
    cases childExit_outcome isNext with
    | hosted isFound _ _ _ _ _ _ =>
        rw [isFound] at waits
        cases waits.1
    | waiting _ _ =>
        rfl
    | unknown _ _ =>
        rfl
  apply forgotten.tasks handler isPending
  rw [sameBoard]
  exact (List.mem_filter.mp isPending).1

/-- A step cleans up unless it is the exit of a process that waits. -/
theorem cleansUp_iff
    {action : InnerAction}
    (matched : TasksMatch inner)
    (isNext : inner.step? action = some next) :
    CleansUp inner next action ↔ inner.exitsAttached action = true := by
  cases action with
  | childExit pid =>
      constructor
      · intro cleans
        by_contra exitsWaiting
        have waits := Bool.eq_false_iff.mpr exitsWaiting
        exact
          not_forgotten_of_waiting matched waits isNext (cleans waits)
      · intro exitsAttached waits
        rw [ActivityManagerInner.exitsAttached, waits] at exitsAttached
        cases exitsAttached
  | _ =>
      exact ⟨fun _ => rfl, fun _ => trivial⟩

/--
As long as no process exits before it attaches, every callback is run with a
record of the process that it was queued for; and any such exit leaves tasks
behind.
-/
theorem spawnsCleanly_of_reachable
    (lines : List LmkRow)
    (arena : Int)
    (now : Nat)
    (inner : ActivityManagerInner)
    (reachable :
      Reachable step? PermittedAttached (start lines arena now) inner) :
    (∀ served ∈ inner.served, inner.RunRight served) ∧
      ∀ action next,
        Permitted inner action →
        inner.step? action = some next →
        (CleansUp inner next action ↔
          inner.exitsAttached action = true) := by
  obtain ⟨_, matched⟩ := tasksMatch_of_reachable reachable
  exact ⟨matched.served, fun _ _ _ isNext => cleansUp_iff matched isNext⟩

/-- A process starts for an activity, and has not attached yet. -/
def launching : Option ActivityManagerInner :=
  run? step? (start [] 0 0)
    [.startActivity "main" musicPackage plainIntent none true (some 11)]

/-- The process fails. -/
def failed : Option ActivityManagerInner :=
  (launching.get rfl).step? (.childExit 11)

/-- What is said of every step, at that exit. -/
theorem launching_spawnsCleanly :
    (∀ served ∈ (launching.get rfl).served,
      (launching.get rfl).RunRight served) ∧
      (CleansUp (launching.get rfl) (failed.get rfl) (.childExit 11) ↔
        (launching.get rfl).exitsAttached (.childExit 11) = true) := by
  have accepted : launching = some (launching.get rfl) :=
    (Option.some_get _).symm
  obtain ⟨servedRight, cleansUp⟩ :=
    spawnsCleanly_of_reachable [] 0 0 _
      (Reachable.of_run? (by decide) accepted)
  exact
    ⟨servedRight,
      cleansUp (.childExit 11) _ (by decide) (Option.some_get _).symm⟩

/-- A package with one service. -/
def newsPackage : PackageInfo where
  packageName := "news"
  entry := "main"
  appType := "NATIVE"
  isSystemUI := false
  priority := .middle
  activitiesInfo := []
  servicesInfo := [{ name := "feed", priority := .low }]

/-- The first process fails, and the second one gets its pid. -/
def reusedPid : Option ActivityManagerInner :=
  run? step? (start [] 0 0)
    [.startActivity "main" musicPackage plainIntent none true (some 11),
      .childExit 11,
      .startService "feed" newsPackage plainIntent (some 11),
      .attachApplication 11 false]

/--
The exit leaves a task and its activity behind, and the task is run with the
record of the other package.
-/
theorem reusedPid_not_spawnsCleanly :
    (Reachable step? Permitted (start [] 0 0) (launching.get rfl) ∧
      ¬ SpawnsCleanly (launching.get rfl)) ∧
      Reachable step? Permitted (start [] 0 0) (reusedPid.get rfl) ∧
        ¬ ∀ served ∈ (reusedPid.get rfl).served,
            (reusedPid.get rfl).RunRight served := by
  have isLaunching : launching = some (launching.get rfl) :=
    (Option.some_get _).symm
  have isReused : reusedPid = some (reusedPid.get rfl) :=
    (Option.some_get _).symm
  refine
    ⟨⟨Reachable.of_run? (by decide) isLaunching, ?_⟩,
      Reachable.of_run? (by decide) isReused, ?_⟩
  · intro cleanly
    have matched :=
      (tasksMatch_of_reachable
        (Reachable.of_run? (by decide) isLaunching)).2
    have isNext :
        (launching.get rfl).step? (.childExit 11) =
          some (failed.get rfl) :=
      (Option.some_get _).symm
    have forgotten :=
      cleanly.cleansUp (.childExit 11) (failed.get rfl) (by decide) isNext
        (by decide)
    exact not_forgotten_of_waiting matched (by decide) isNext forgotten
  · intro servedRight
    have otherName :
        ∃ served ∈ (reusedPid.get rfl).served,
          served.mPackageName ≠ served.task.processName := by
      decide
    obtain ⟨served, member, isOther⟩ := otherName
    exact isOther (servedRight served member).mPackageName

end ActivityManagerInner

end ActivityManager
