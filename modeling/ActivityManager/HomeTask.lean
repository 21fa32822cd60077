import ActivityManager.TaskManagerParts

/-!
# The home task

`moveTaskToBackground` puts a task back behind the home task, and pops it first
if it is active.  If the home task were not listed, the task would be lost.
It is listed unless `finishActivity` empties it in the background: that path
deletes the task, and does not appoint another one.
-/

namespace ActivityManager

open StepSystem (Reachable run?)

namespace TaskLists

/-- The home task is listed; there is none if no task is. -/
def HomeListed (lists : TaskLists) : Prop :=
  match lists.mHomeTask with
  | some home => home ∈ lists.mAllTasks
  | none => lists.mAllTasks = []

/-- Distinct tasks, one of them the home task. -/
structure HomeKept (lists : TaskLists) : Prop where
  distinct : lists.mAllTasks.Nodup
  listed : lists.HomeListed

variable
  {lists : TaskLists}
  {task activity : Nat}

/-- A home task in the list. -/
theorem homeListed_of_mem
    {home : Nat}
    (isHome : lists.mHomeTask = some home)
    (listed : home ∈ lists.mAllTasks) :
    lists.HomeListed := by
  rw [HomeListed, isHome]
  exact listed

/-- Where tasks are listed, one of them is the home task. -/
theorem HomeListed.exists_home
    (listed : lists.HomeListed)
    (isTask : task ∈ lists.mAllTasks) :
    ∃ home, lists.mHomeTask = some home ∧ home ∈ lists.mAllTasks := by
  unfold HomeListed at listed
  cases isHome : lists.mHomeTask with
  | none =>
      rw [isHome] at listed
      rw [show lists.mAllTasks = [] from listed] at isTask
      exact absurd isTask List.not_mem_nil
  | some home =>
      rw [isHome] at listed
      exact ⟨home, rfl, listed⟩

/-- The active task becomes the home task. -/
theorem homeListed_of_active
    (isHome : lists.mHomeTask = lists.getActiveTask) :
    lists.HomeListed := by
  rw [HomeListed, isHome, getActiveTask]
  cases lists.mAllTasks with
  | nil =>
      rfl
  | cons first rest =>
      exact List.mem_cons_self ..

namespace HomeKept

/-- Stacks do not matter. -/
theorem frame
    {others : TaskLists}
    (kept : lists.HomeKept)
    (sameTasks : others.mAllTasks = lists.mAllTasks)
    (sameHome : others.mHomeTask = lists.mHomeTask) :
    others.HomeKept := by
  refine ⟨?_, ?_⟩
  · rw [sameTasks]
    exact kept.distinct
  · rw [HomeListed, sameHome, sameTasks]
    exact kept.listed

/-- A task is brought to the front of others. -/
theorem moveToFront
    (kept : lists.HomeKept)
    (task : Nat)
    (hasHome : lists.mHomeTask ≠ none) :
    (lists.moveToFront task).HomeKept := by
  refine ⟨?_, ?_⟩
  · refine List.nodup_cons.mpr ⟨?_, kept.distinct.filter _⟩
    simp
  · obtain ⟨home, isHome⟩ := Option.ne_none_iff_exists'.mp hasHome
    have listed := kept.listed
    rw [HomeListed, isHome] at listed
    have isHomeThen : (lists.moveToFront task).mHomeTask = some home :=
      isHome
    apply homeListed_of_mem isHomeThen
    by_cases isTask : home = task
    · rw [isTask]
      exact List.mem_cons_self ..
    · refine List.mem_cons_of_mem _ (List.mem_filter.mpr ⟨listed, ?_⟩)
      simp [isTask]

/-- A task is deleted that is not the home task. -/
theorem erase
    {others : TaskLists}
    (kept : lists.HomeKept)
    (isErased : others.mAllTasks = lists.mAllTasks.erase task)
    (sameHome : others.mHomeTask = lists.mHomeTask)
    (notHome : lists.mHomeTask ≠ some task) :
    others.HomeKept := by
  refine ⟨?_, ?_⟩
  · rw [isErased]
    exact kept.distinct.erase task
  · have listed := kept.listed
    rw [HomeListed] at listed ⊢
    rw [sameHome, isErased]
    cases isHome : lists.mHomeTask with
    | none =>
        rw [isHome] at listed
        rw [show lists.mAllTasks = [] from listed]
        rfl
    | some home =>
        rw [isHome] at listed notHome
        refine (List.mem_erase_of_ne ?_).mpr listed
        intro isTask
        exact notHome (congrArg some isTask)

/-- `pushTaskToFront`. -/
theorem pushTaskToFront
    (kept : lists.HomeKept)
    (task : Nat)
    (hasHome : lists.mHomeTask ≠ none) :
    (lists.pushTaskToFront task).HomeKept := by
  unfold TaskLists.pushTaskToFront
  split
  · exact kept.moveToFront task hasHome
  · exact kept

/-- `clearAbove`. -/
theorem clearAbove
    (kept : lists.HomeKept)
    (task : Nat)
    (activity : Option Nat) :
    (lists.clearAbove task activity).HomeKept :=
  kept.frame rfl rfl

/-- `switchTaskToActive`, unless it deletes the home task. -/
theorem switchTaskToActive
    (kept : lists.HomeKept)
    (hasHome : lists.mHomeTask ≠ none)
    (notEmptyHome :
      lists.mHomeTask ≠ some task ∨
        (lists.getTopActivity task).isSome = true) :
    (lists.switchTaskToActive task).HomeKept := by
  unfold TaskLists.switchTaskToActive
  split
  · split
    · exact kept.moveToFront task hasHome
    · rename_i isEmpty
      exact kept.erase rfl rfl (notEmptyHome.resolve_right isEmpty)
  · exact kept

/-- The loop of `moveTaskToBackground` meets the home task. -/
theorem mem_behindHome
    {home target : Nat}
    {isBefore : Bool}
    {tasks : List Nat}
    (isHome : home ∈ tasks)
    (notHome : target ≠ home)
    (task : Nat) :
    task ∈ (behindHome (some home) target isBefore tasks).1 ↔
      task ∈ tasks ∨ (isBefore = true ∧ task = target) := by
  induction tasks generalizing isBefore with
  | nil =>
      exact absurd isHome List.not_mem_nil
  | cons first rest inductionHypothesis =>
      rw [behindHome]
      split
      · rename_i isTarget
        have inRest : home ∈ rest := by
          rcases List.mem_cons.mp isHome with isFirst | inRest
          · exact absurd (isFirst.trans isTarget).symm notHome
          · exact inRest
        rw [inductionHypothesis inRest, List.mem_cons, isTarget]
        grind
      · split
        · cases isBefore with
          | true =>
              simp only [if_true, List.mem_cons, true_and]
              grind
          | false =>
              simp
        · rename_i notFirst
          have inRest : home ∈ rest := by
            rcases List.mem_cons.mp isHome with isFirst | inRest
            · exact absurd (congrArg some isFirst).symm notFirst
            · exact inRest
          rw [List.mem_cons, inductionHypothesis inRest, List.mem_cons,
            or_assoc]

/-- `moveTaskToBackground` lists the same tasks. -/
theorem mem_moveTaskToBackground
    (kept : lists.HomeKept)
    (targetStack task : Nat) :
    task ∈ (lists.moveTaskToBackground targetStack).mAllTasks ↔
      task ∈ lists.mAllTasks := by
  unfold TaskLists.moveTaskToBackground
  split
  · rfl
  · rename_i notHome
    have listed := kept.listed
    rw [HomeListed] at listed
    cases isHome : lists.mHomeTask with
    | none =>
        rw [isHome] at listed
        rw [show lists.mAllTasks = [] from listed]
        simp [behindHome]
    | some home =>
        rw [isHome] at listed notHome
        have isOther : targetStack ≠ home :=
          fun same => notHome (congrArg some same)
        by_cases isActive : some targetStack = lists.getActiveTask
        · obtain ⟨others, allTasks⟩ :=
            List.head?_eq_some_iff.mp isActive.symm
          have inOthers : home ∈ others := by
            rw [allTasks] at listed
            exact (List.mem_cons.mp listed).resolve_left isOther.symm
          simp only [decide_eq_true isActive, if_true, allTasks,
            List.tail_cons, mem_behindHome inOthers isOther, true_and,
            List.mem_cons]
          exact or_comm
        · simp [isActive, mem_behindHome listed isOther]

/-- `moveTaskToBackground`. -/
theorem moveTaskToBackground
    (kept : lists.HomeKept)
    (targetStack : Nat) :
    (lists.moveTaskToBackground targetStack).HomeKept := by
  have sameHome :
      (lists.moveTaskToBackground targetStack).mHomeTask =
        lists.mHomeTask := by
    unfold TaskLists.moveTaskToBackground
    split <;> rfl
  refine ⟨?_, ?_⟩
  · unfold TaskLists.moveTaskToBackground
    split
    · exact kept.distinct
    · dsimp only
      by_cases isActive : some targetStack = lists.getActiveTask
      · obtain ⟨others, allTasks⟩ :=
          List.head?_eq_some_iff.mp isActive.symm
        have distinct := kept.distinct
        rw [allTasks, List.nodup_cons] at distinct
        simp only [decide_eq_true isActive, if_true, allTasks,
          List.tail_cons]
        exact behindHome_nodup distinct.2 fun _ => distinct.1
      · simp only [decide_eq_false isActive, Bool.false_eq_true,
          if_false]
        exact behindHome_nodup kept.distinct fun isTrue => nomatch isTrue
  · have listed := kept.listed
    rw [HomeListed] at listed ⊢
    rw [sameHome]
    cases isHome : lists.mHomeTask with
    | none =>
        rw [isHome] at listed
        rw [List.eq_nil_iff_forall_not_mem]
        intro task member
        have stillListed :=
          (kept.mem_moveTaskToBackground targetStack task).mp member
        rw [show lists.mAllTasks = [] from listed] at stillListed
        exact List.not_mem_nil stillListed
    | some home =>
        rw [isHome] at listed
        exact (kept.mem_moveTaskToBackground targetStack home).mpr listed

/-- `pushNewActivity` founds a home task, if there is none. -/
theorem pushNewActivity
    (kept : lists.HomeKept)
    (targetStack activity startFlag : Nat) :
    (lists.pushNewActivity targetStack activity startFlag).HomeKept := by
  unfold TaskLists.pushNewActivity
  dsimp only
  generalize isCleared :
    (if startFlag &&& flagActivityClearTask ≠ 0 then
      (lists.foundHome targetStack).clearAbove targetStack none
    else
      lists.foundHome targetStack) = cleared
  have sameTasks : cleared.mAllTasks = lists.mAllTasks := by
    rw [← isCleared]
    unfold TaskLists.foundHome
    split <;> split <;> rfl
  have sameHome :
      cleared.mHomeTask = (lists.foundHome targetStack).mHomeTask := by
    rw [← isCleared]
    split <;> rfl
  unfold TaskLists.foundHome at sameHome
  cases isActive : lists.getActiveTask with
  | none =>
      have isEmpty : lists.mAllTasks = [] :=
        List.head?_eq_none_iff.mp isActive
      rw [isActive] at sameHome
      have isFront :
          ((cleared.pushActivity targetStack
              activity).pushTaskToFront targetStack).mAllTasks =
            [targetStack] := by
        simp [TaskLists.pushTaskToFront, getActiveTask, pushActivity,
          TaskLists.setStack, sameTasks, isEmpty, TaskLists.moveToFront]
      refine ⟨?_, ?_⟩
      · rw [isFront]
        exact List.nodup_singleton _
      · apply homeListed_of_active
        rw [getActiveTask, isFront]
        unfold TaskLists.pushTaskToFront
        split
        · exact sameHome
        · exact sameHome
  | some active =>
      rw [isActive] at sameHome
      have keptCleared :
          (cleared.pushActivity targetStack activity).HomeKept :=
        kept.frame sameTasks sameHome
      apply keptCleared.pushTaskToFront
      have hasTask : active ∈ lists.mAllTasks :=
        List.mem_of_mem_head? isActive
      obtain ⟨home, isHome, _⟩ := kept.listed.exists_home hasTask
      have isHomeThen :
          (cleared.pushActivity targetStack activity).mHomeTask =
            some home :=
        sameHome.trans isHome
      rw [isHomeThen]
      exact Option.some_ne_none home

/-- `turnToActivity`, if there is a task. -/
theorem turnToActivity
    (kept : lists.HomeKept)
    (hasHome : lists.mHomeTask ≠ none)
    (targetStack activity startFlag : Nat) :
    (lists.turnToActivity targetStack activity startFlag).HomeKept := by
  unfold TaskLists.turnToActivity
  split
  · exact kept
  · dsimp only
    split
    · exact (kept.clearAbove targetStack _).pushTaskToFront targetStack
        hasHome
    · exact kept.pushTaskToFront targetStack hasHome

/-- The active task is dropped. -/
theorem dropActive
    (kept : lists.HomeKept)
    (isActive : some task = lists.getActiveTask) :
    (lists.dropActive task).HomeKept := by
  obtain ⟨others, allTasks⟩ := List.head?_eq_some_iff.mp isActive.symm
  have isErased : lists.mAllTasks.tail = lists.mAllTasks.erase task := by
    simp [allTasks]
  unfold TaskLists.dropActive
  dsimp only
  split
  · refine ⟨kept.distinct.tail, ?_⟩
    exact homeListed_of_active rfl
  · rename_i notHome
    exact kept.erase isErased rfl fun isHome => notHome isHome.symm

/-- `finishActivity`, unless it empties the home task in the background. -/
theorem finishActivity
    (kept : lists.HomeKept)
    (notEmptied :
      lists.mHomeTask = some task →
      lists.getActiveTask = some task ∨
        below (lists.stackOf task) activity ≠ []) :
    (lists.finishActivity task activity).HomeKept := by
  have keptPopped :
      (lists.setStack task
        (below (lists.stackOf task) activity)).HomeKept :=
    kept.frame rfl rfl
  unfold TaskLists.finishActivity
  dsimp only
  split
  · exact keptPopped
  · rename_i isEmpty
    have isNil : below (lists.stackOf task) activity = [] := by
      simpa [getTopActivity] using isEmpty
    split
    · rename_i isActive
      exact keptPopped.dropActive isActive
    · rename_i notActive
      refine keptPopped.erase rfl rfl ?_
      intro isHome
      rcases notEmptied isHome with isActive | notNil
      · exact notActive isActive.symm
      · exact notNil isNil

/-- The home task that is emptied in the background is not listed. -/
theorem not_homeListed_finishActivity
    (kept : lists.HomeKept)
    (isHome : lists.mHomeTask = some task)
    (notActive : lists.getActiveTask ≠ some task)
    (isNil : below (lists.stackOf task) activity = []) :
    ¬ (lists.finishActivity task activity).HomeListed := by
  have noTop :
      ¬ ((lists.setStack task
          (below (lists.stackOf task) activity)).getTopActivity
            task).isSome = true := by
    simp [getTopActivity, isNil]
  have notFirst : ¬ some task = lists.getActiveTask :=
    fun isActive => notActive isActive.symm
  intro listed
  rw [TaskLists.finishActivity, if_neg noTop, if_neg notFirst,
    HomeListed] at listed
  have sameHome :
      ((lists.setStack task
          (below (lists.stackOf task) activity)).deleteTask
            task).mHomeTask = some task :=
    isHome
  rw [sameHome] at listed
  exact kept.distinct.not_mem_erase listed

/-- `deleteActivity` appoints another home task. -/
theorem deleteActivity
    (kept : lists.HomeKept)
    (task activity : Nat) :
    (lists.deleteActivity task activity).HomeKept := by
  unfold TaskLists.deleteActivity TaskLists.updateHome
  by_cases isNil : lists.remaining task activity = []
  · rw [isNil]
    have sameTasks :
        (lists.shrinkTo task []).mAllTasks =
          lists.mAllTasks.erase task := by
      simp [shrinkTo]
    split
    · refine ⟨?_, homeListed_of_active rfl⟩
      dsimp only
      rw [sameTasks]
      exact kept.distinct.erase task
    · rename_i notBoth
      refine kept.erase sameTasks rfl ?_
      intro isHome
      exact notBoth ⟨isHome.symm, by simp [shrinkTo]⟩
  · have notEmpty :
        ¬ (some task =
              (lists.shrinkTo task
                (lists.remaining task activity)).mHomeTask ∧
            ((lists.shrinkTo task
              (lists.remaining task activity)).stackOf
                task).isEmpty = true) := by
      simp [shrinkTo, isNil]
    rw [if_neg notEmpty]
    exact kept.frame (if_neg isNil) rfl

/-- Any number of deletions. -/
theorem deletes
    {others : TaskLists}
    (kept : lists.HomeKept)
    (deletes : lists.Deletes others) :
    others.HomeKept := by
  induction deletes with
  | refl =>
      exact kept
  | tail _ deleted inductionHypothesis =>
      obtain ⟨task, activity, rfl⟩ := deleted
      exact inductionHypothesis.deleteActivity task activity

end HomeKept

end TaskLists

namespace TaskStackManager

/--
Not the last activity of the home task in the background: its task is active,
another one, or keeps activities below.
-/
def finishKeepsHome
    (manager : TaskStackManager)
    (activity : Nat) : Bool :=
  (manager.taskOf activity).all fun activityTask =>
    decide (manager.lists.mHomeTask ≠ some activityTask) ||
      decide (manager.lists.getActiveTask = some activityTask) ||
      decide
        (TaskLists.below (manager.lists.stackOf activityTask) activity ≠ [])

/--
Whether an action keeps the home task listed.  Turning to an activity and
switching need a task to go to.
-/
def keepsHome
    (manager : TaskStackManager) :
    ManagerAction → Bool
  | .finishActivity activity =>
      manager.finishKeepsHome activity
  | .turnToActivity targetStack _ _ _ =>
      targetStack ∈ manager.lists.mAllTasks
  | .switchTaskToActive targetStack _ =>
      (manager.lists.getTopActivity targetStack).isSome
  | _ =>
      true

variable {manager next : TaskStackManager}

/-- `finishActivity` on the lists. -/
theorem finishActivity_lists
    {activity : Nat}
    (isNext : manager.step? (.finishActivity activity) = some next) :
    next.lists =
      match manager.taskOf activity with
      | some activityTask =>
          manager.lists.finishActivity activityTask activity
      | none =>
          manager.lists := by
  obtain ⟨lists, after, moved⟩ :=
    (step?_moved manager (.finishActivity activity)).of_result isNext
  exact moved.sameLists.trans after

/-- A condition that holds of the task of an activity. -/
theorem finishKeepsHome_iff
    {activity activityTask : Nat}
    (isTask : manager.taskOf activity = some activityTask) :
    manager.finishKeepsHome activity = true ↔
      (manager.lists.mHomeTask = some activityTask →
        manager.lists.getActiveTask = some activityTask ∨
          TaskLists.below (manager.lists.stackOf activityTask) activity ≠
            []) := by
  rw [finishKeepsHome, isTask, Option.all_some]
  simp only [Bool.or_eq_true, decide_eq_true_eq]
  tauto

/-- A step that keeps the home task listed. -/
theorem homeKept_step
    {action : ManagerAction}
    (kept : manager.lists.HomeKept)
    (keeps : manager.keepsHome action = true)
    (isNext : manager.step? action = some next) :
    next.lists.HomeKept := by
  obtain ⟨lists, after, moved⟩ :=
    (step?_moved manager action).of_result isNext
  have hasHome :
      ∀ task ∈ manager.lists.mAllTasks,
        manager.lists.mHomeTask ≠ none := by
    intro task isTask
    obtain ⟨home, isHome, _⟩ := kept.listed.exists_home isTask
    rw [isHome]
    exact Option.some_ne_none home
  cases action with
  | pushNewActivity name app targetStack intent startFlag =>
      rw [moved.sameLists, show lists = _ from after]
      exact kept.pushNewActivity targetStack _ startFlag
  | turnToActivity targetStack activity intent startFlag =>
      rw [moved.sameLists, show lists = _ from after]
      exact kept.turnToActivity
        (hasHome targetStack (of_decide_eq_true keeps)) targetStack
        activity startFlag
  | switchTaskToActive targetStack intent =>
      rw [moved.sameLists, show lists = _ from after]
      cases isActive : manager.lists.getActiveTask with
      | none =>
          rw [step?, TaskStackManager.switchTaskToActive, isActive]
            at isNext
          cases isNext
      | some active =>
          exact kept.switchTaskToActive
            (hasHome active (List.mem_of_mem_head? isActive))
            (Or.inr keeps)
  | moveTaskToBackground targetStack =>
      rw [moved.sameLists, show lists = _ from after]
      exact kept.moveTaskToBackground targetStack
  | finishActivity activity =>
      rw [finishActivity_lists isNext]
      cases isTask : manager.taskOf activity with
      | none =>
          exact kept
      | some activityTask =>
          exact kept.finishActivity
            ((finishKeepsHome_iff isTask).mp keeps)
  | deleteActivity activity =>
      rw [moved.sameLists]
      exact kept.deletes after
  | reportActivityStatus token status =>
      rw [moved.sameLists]
      exact kept.deletes after
  | timeout serial =>
      rw [moved.sameLists]
      exact kept.deletes after
  | clockAdvances ms =>
      rw [moved.sameLists]
      exact kept.deletes after
  | attachApplication packageName systemui pid =>
      rw [moved.sameLists]
      exact kept.deletes after
  | procAppTerminated app =>
      rw [moved.sameLists]
      exact kept.deletes after
  | deleteAppInfo app =>
      rw [moved.sameLists]
      exact kept.deletes after
  | holdTasks tasks =>
      rw [moved.sameLists]
      exact kept.deletes after

/--
In every run that does not finish the last activity of the home task in the
background, the home task is listed, and `moveTaskToBackground` loses no task.
The next `finishActivity` keeps it listed if and only if it is not such a one.
-/
theorem homeListed_of_reachable
    {now : Nat}
    (reachable :
      Reachable step?
        (fun manager action => manager.keepsHome action = true)
        (TaskStackManager.start now) manager) :
    manager.lists.HomeListed ∧
      (∀ targetStack next,
        manager.step? (.moveTaskToBackground targetStack) = some next →
        ∀ task,
          task ∈ next.lists.mAllTasks ↔
            task ∈ manager.lists.mAllTasks) ∧
      ∀ activity next,
        manager.step? (.finishActivity activity) = some next →
        (next.lists.HomeListed ↔
          manager.finishKeepsHome activity = true) := by
  have kept : manager.lists.HomeKept := by
    refine Reachable.invariant ?_ ?_ reachable
    · exact ⟨List.nodup_nil, rfl⟩
    · intro state action final stillKept keeps stepped
      exact homeKept_step stillKept keeps stepped
  refine ⟨kept.listed, ?_, ?_⟩
  · intro targetStack next isNext task
    obtain ⟨lists, after, moved⟩ :=
      (step?_moved manager _).of_result isNext
    rw [moved.sameLists, show lists = _ from after]
    exact kept.mem_moveTaskToBackground targetStack task
  · intro activity next isNext
    constructor
    · intro listed
      rw [finishActivity_lists isNext] at listed
      cases isTask : manager.taskOf activity with
      | none =>
          simp [finishKeepsHome, isTask]
      | some activityTask =>
          rw [isTask] at listed
          refine (finishKeepsHome_iff isTask).mpr ?_
          intro isHome
          by_contra emptied
          rw [not_or, not_not] at emptied
          exact kept.not_homeListed_finishActivity isHome emptied.1
            emptied.2 listed
    · intro keeps
      have keepsHome :
          manager.keepsHome (.finishActivity activity) = true :=
        keeps
      exact (homeKept_step kept keepsHome isNext).listed

/-- A task moves behind the home task; the home task ends in front. -/
def homeInFront : Option TaskStackManager :=
  run? step? (TaskStackManager.start 0)
    [.attachApplication "home" false 10,
      .attachApplication "clock" false 11,
      .pushNewActivity "home/Main" 0 0 ⟨"home", "", "", 0⟩ 0,
      .pushNewActivity "clock/Main" 1 1 ⟨"clock", "", "", 0⟩ 0,
      .pushNewActivity "clock/Alarm" 1 1 ⟨"clock", "", "", 0⟩ 0,
      .finishActivity 2,
      .moveTaskToBackground 1,
      .switchTaskToActive 1 ⟨"clock", "", "", 0⟩,
      .turnToActivity 0 0 ⟨"home", "", "", 0⟩ flagActivityClearTop,
      .finishActivity 0]

theorem homeInFront_homeListed :
    (homeInFront.get rfl).lists.HomeListed ∧
      (∀ targetStack next,
        (homeInFront.get rfl).step? (.moveTaskToBackground targetStack) =
          some next →
        ∀ task,
          task ∈ next.lists.mAllTasks ↔
            task ∈ (homeInFront.get rfl).lists.mAllTasks) ∧
      ∀ activity next,
        (homeInFront.get rfl).step? (.finishActivity activity) =
          some next →
        (next.lists.HomeListed ↔
          (homeInFront.get rfl).finishKeepsHome activity = true) := by
  have accepted : homeInFront = some (homeInFront.get rfl) :=
    (Option.some_get _).symm
  exact homeListed_of_reachable (Reachable.of_run? (by decide) accepted)

/-- The only activity of the home task finishes in the background. -/
def homeFinished : Option TaskStackManager :=
  run? step? (TaskStackManager.start 0)
    [.attachApplication "home" false 10,
      .attachApplication "clock" false 11,
      .pushNewActivity "home/Main" 0 0 ⟨"home", "", "", 0⟩ 0,
      .pushNewActivity "clock/Main" 1 1 ⟨"clock", "", "", 0⟩ 0,
      .finishActivity 0]

/-- Then the home task is not listed, and the other task gets lost. -/
theorem homeFinished_losesTask :
    ¬ (homeFinished.get rfl).lists.HomeListed ∧
      1 ∈ (homeFinished.get rfl).lists.mAllTasks ∧
      ((homeFinished.get rfl).step? (.moveTaskToBackground 1)).map
          (·.lists.mAllTasks) = some [] := by
  have isHome : (homeFinished.get rfl).lists.mHomeTask = some 0 := by
    decide
  have allTasks : (homeFinished.get rfl).lists.mAllTasks = [1] := by
    decide
  refine ⟨?_, by decide, by decide⟩
  rw [TaskLists.HomeListed, isHome, allTasks]
  decide

end TaskStackManager

end ActivityManager
