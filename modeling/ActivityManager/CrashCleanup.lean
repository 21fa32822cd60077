import ActivityManager.DeletionRequests
import ActivityManager.LifecycleTableBounds
import ActivityManager.TaskListInvariant
import Mathlib.Data.List.DropRight

/-!
# The task stacks after a crash

`procAppTerminated` deletes the activities of a dead application one by one,
in whatever order its list has them in.  Each deletion takes everything above
its activity along and may resume an activity that the next one deletes.  What
remains does not depend on the order: of every stack the part below all dead
activities.
-/

namespace ActivityManager

open PartialProgram
open StepSystem (Reachable run?)

/-! ## What remains of the lists -/

/--
What remains of a stack: the longest part from its bottom without the
activities that are gone.
-/
def surviving
    (gone : Nat → Bool)
    (stack : List Nat) : List Nat :=
  stack.rtakeWhile fun activity => !gone activity

/-- Nothing is gone. -/
theorem surviving_eq_self
    {gone : Nat → Bool}
    {stack : List Nat}
    (noneGone : ∀ activity ∈ stack, gone activity = false) :
    surviving gone stack = stack := by
  rw [surviving, List.rtakeWhile_eq_self_iff]
  intro activity member
  rw [noneGone activity member]
  rfl

/-- The same activities of the stack are gone. -/
theorem surviving_congr
    {gone others : Nat → Bool}
    {stack : List Nat}
    (same : ∀ activity ∈ stack, gone activity = others activity) :
    surviving gone stack = surviving others stack := by
  induction stack using List.reverseRecOn with
  | nil =>
      rfl
  | append_singleton rest bottom inductionHypothesis =>
      have sameBottom := same bottom (by simp)
      have sameRest :=
        inductionHypothesis fun activity member =>
          same activity (List.mem_append_left _ member)
      unfold surviving at sameRest ⊢
      rw [List.rtakeWhile_concat, List.rtakeWhile_concat, sameBottom,
        sameRest]

/-- What is below the lowest activity that is gone. -/
theorem surviving_append
    {gone : Nat → Bool}
    {activity : Nat}
    {below : List Nat}
    (above : List Nat)
    (isGone : gone activity = true)
    (noneBelow : ∀ other ∈ below, gone other = false) :
    surviving gone (above ++ activity :: below) = below := by
  induction below using List.reverseRecOn with
  | nil =>
      unfold surviving
      rw [List.rtakeWhile_concat, isGone]
      rfl
  | append_singleton rest bottom inductionHypothesis =>
      have sameRest :=
        inductionHypothesis fun other member =>
          noneBelow other (List.mem_append_left _ member)
      have notGone := noneBelow bottom (by simp)
      unfold surviving at sameRest ⊢
      rw [← List.cons_append, ← List.append_assoc,
        List.rtakeWhile_concat, notGone, sameRest]
      rfl

/-- One more activity is gone, with what was above it. -/
theorem surviving_insert
    {gone : Nat → Bool}
    {stack : List Nat}
    (distinct : stack.Nodup)
    (activity : Nat) :
    surviving (fun other => gone other || other == activity) stack =
      if activity ∈ surviving gone stack then
        TaskLists.below (surviving gone stack) activity
      else
        surviving gone stack := by
  have nested :
      surviving (fun other => gone other || other == activity) stack =
        surviving (· == activity) (surviving gone stack) := by
    unfold surviving List.rtakeWhile
    rw [List.reverse_reverse, List.takeWhile_takeWhile]
    simp [Bool.and_comm, beq_eq_decide]
  rw [nested]
  split
  · rename_i onStack
    obtain ⟨above, splits, _⟩ := TaskLists.exists_above onStack
    have distinctRest : (surviving gone stack).Nodup :=
      distinct.sublist (List.rtakeWhile_suffix _ _).sublist
    rw [splits] at distinctRest
    have notBelow :=
      (List.nodup_cons.mp (List.nodup_append.mp distinctRest).2.1).1
    refine (congrArg _ splits).trans ?_
    refine surviving_append above ?_ ?_
    · exact beq_self_eq_true activity
    · intro other member
      exact beq_false_of_ne fun same => notBelow (same ▸ member)
  · rename_i notOnStack
    apply surviving_eq_self
    intro other member
    exact beq_false_of_ne fun same => notOnStack (same ▸ member)

/-- Deletions have left what survives of the original lists. -/
structure Cleared
    (original : TaskLists)
    (gone : Nat → Bool)
    (lists : TaskLists) : Prop where
  allTasks :
    lists.mAllTasks =
      original.mAllTasks.filter fun task =>
        surviving gone (original.stackOf task) ≠ []
  stackOf :
    ∀ task ∈ original.mAllTasks,
      lists.stackOf task = surviving gone (original.stackOf task)

/-- Listed tasks are distinct and not empty, and hold their own activities. -/
structure WellListed
    (inTask : Nat → Option Nat)
    (lists : TaskLists) : Prop where
  distinctTasks : lists.mAllTasks.Nodup
  notEmpty : ∀ task ∈ lists.mAllTasks, lists.stackOf task ≠ []
  distinct : ∀ task ∈ lists.mAllTasks, (lists.stackOf task).Nodup
  owned :
    ∀ task ∈ lists.mAllTasks,
      ∀ activity ∈ lists.stackOf task,
        inTask activity = some task

namespace Cleared

variable
  {setting : Setting}
  {original lists : TaskLists}
  {gone : Nat → Bool}

/-- At the start nothing is gone. -/
theorem refl
    (wellListed : WellListed setting.inTask original) :
    Cleared original (fun _ => false) original where
  allTasks := by
    symm
    rw [List.filter_eq_self]
    intro task listed
    rw [surviving_eq_self fun _ _ => rfl]
    exact decide_eq_true (wellListed.notEmpty task listed)
  stackOf task _ := (surviving_eq_self fun _ _ => rfl).symm

/-- Another activity is gone than those of a task. -/
theorem surviving_other
    {task activity : Nat}
    (wellListed : WellListed setting.inTask original)
    (listed : task ∈ original.mAllTasks)
    (notOnStack : activity ∉ surviving gone (original.stackOf task)) :
    surviving (fun other => gone other || other == activity)
        (original.stackOf task) =
      surviving gone (original.stackOf task) := by
  rw [surviving_insert (wellListed.distinct task listed),
    if_neg notOnStack]

/-- An activity that survives is on the stack of its own task. -/
theorem inTask_of_surviving
    {task activity : Nat}
    (wellListed : WellListed setting.inTask original)
    (listed : task ∈ original.mAllTasks)
    (onStack : activity ∈ surviving gone (original.stackOf task)) :
    setting.inTask activity = some task :=
  wellListed.owned task listed activity
    ((List.rtakeWhile_suffix _ _).mem onStack)

/-- The stacks after a deletion. -/
theorem remaining_eq
    {task activity : Nat}
    (cleared : Cleared original gone lists)
    (wellListed : WellListed setting.inTask original)
    (listed : task ∈ original.mAllTasks) :
    lists.remaining task activity =
      surviving (fun other => gone other || other == activity)
        (original.stackOf task) := by
  rw [surviving_insert (wellListed.distinct task listed),
    TaskLists.remaining, cleared.stackOf task listed]

/-- A deletion takes one more activity, with what is above it. -/
theorem deleteActivity
    (cleared : Cleared original gone lists)
    (wellListed : WellListed setting.inTask original)
    (activity : Nat) :
    Cleared original (fun other => gone other || other == activity)
      (setting.deleteActivity lists activity) := by
  unfold Setting.deleteActivity
  cases found : setting.getTask lists activity with
  | none =>
      have same :
          ∀ task ∈ original.mAllTasks,
            surviving (fun other => gone other || other == activity)
                (original.stackOf task) =
              surviving gone (original.stackOf task) := by
        intro task listed
        apply surviving_other wellListed listed
        intro onStack
        have inTask := inTask_of_surviving wellListed listed onStack
        have listedStill : task ∈ lists.mAllTasks := by
          rw [cleared.allTasks, List.mem_filter]
          exact
            ⟨listed, decide_eq_true (List.ne_nil_of_mem onStack)⟩
        simp [Setting.getTask, inTask, listedStill] at found
      constructor
      · rw [cleared.allTasks]
        apply List.filter_congr
        intro task listed
        rw [same task listed]
      · intro task listed
        rw [same task listed]
        exact cleared.stackOf task listed
  | some task =>
      have inTask : setting.inTask activity = some task :=
        (Option.filter_eq_some_iff.mp found).1
      have sameOther :
          ∀ other ∈ original.mAllTasks,
            other ≠ task →
            surviving (fun other => gone other || other == activity)
                (original.stackOf other) =
              surviving gone (original.stackOf other) := by
        intro other listed isOther
        apply surviving_other wellListed listed
        intro onStack
        have inOther := inTask_of_surviving wellListed listed onStack
        rw [inTask] at inOther
        exact isOther (Option.some.inj inOther).symm
      have shrunk :
          Cleared original (fun other => gone other || other == activity)
            (lists.shrinkTo task (lists.remaining task activity)) := by
        constructor
        · rw [TaskLists.shrinkTo]
          dsimp only
          split
          · rename_i isEmpty
            have distinct : lists.mAllTasks.Nodup := by
              rw [cleared.allTasks]
              exact wellListed.distinctTasks.filter _
            rw [distinct.erase_eq_filter, cleared.allTasks,
              List.filter_filter]
            apply List.filter_congr
            intro other listed
            by_cases isTask : other = task
            · subst isTask
              rw [← cleared.remaining_eq wellListed listed, isEmpty]
              simp
            · rw [sameOther other listed isTask]
              simp [isTask]
          · rename_i notEmpty
            rw [cleared.allTasks]
            apply List.filter_congr
            intro other listed
            by_cases isTask : other = task
            · subst isTask
              rw [← cleared.remaining_eq wellListed listed,
                ← cleared.stackOf other listed]
              have wasNotEmpty : lists.stackOf other ≠ [] := by
                intro wasEmpty
                rw [TaskLists.remaining, wasEmpty] at notEmpty
                simp at notEmpty
              simp [notEmpty, wasNotEmpty]
            · rw [sameOther other listed isTask]
        · intro other listed
          rw [TaskLists.shrinkTo]
          by_cases isTask : other = task
          · subst isTask
            rw [← cleared.remaining_eq wellListed listed]
            exact Function.update_self _ _ _
          · rw [sameOther other listed isTask,
              ← cleared.stackOf other listed]
            exact Function.update_of_ne isTask _ _
      dsimp only
      rw [TaskLists.deleteActivity, TaskLists.updateHome]
      split
      · exact ⟨shrunk.allTasks, shrunk.stackOf⟩
      · exact shrunk

/-- All deletions together. -/
theorem deleteAll
    (cleared : Cleared original gone lists)
    (wellListed : WellListed setting.inTask original)
    (activities : List Nat) :
    Cleared original (fun other => gone other || activities.contains other)
      (setting.deleteAll activities lists) := by
  induction activities generalizing gone lists with
  | nil =>
      simpa [Setting.deleteAll] using cleared
  | cons activity rest inductionHypothesis =>
      have later :=
        inductionHypothesis (cleared.deleteActivity wellListed activity)
      have sameGone :
          (fun other =>
            (gone other || other == activity) || rest.contains other) =
            fun other => gone other || (activity :: rest).contains other := by
        funext other
        rw [List.contains_cons, Bool.or_assoc]
      rw [sameGone] at later
      exact later

end Cleared

/-! ## Who is resumed last -/

/-- The last activity that is asked to be resumed. -/
def lastResumed (requests : List (Nat × Status)) : Option Nat :=
  ((requests.filter fun request =>
    request.2 = Status.resumed).getLast?).map Prod.fst

/-- Requests that do not ask to resume. -/
theorem lastResumed_append_of_none
    {later : List (Nat × Status)}
    (requests : List (Nat × Status))
    (noneResumed :
      ∀ request ∈ later, request.2 = Status.destroyed) :
    lastResumed (requests ++ later) = lastResumed requests := by
  have noneLater :
      later.filter (fun request => request.2 = Status.resumed) = [] := by
    rw [List.filter_eq_nil_iff]
    intro request member
    rw [noneResumed request member]
    decide
  rw [lastResumed, List.filter_append, noneLater, List.append_nil]
  rfl

/-- A request to resume at the end. -/
theorem lastResumed_concat
    (requests : List (Nat × Status))
    (activity : Nat) :
    lastResumed (requests ++ [(activity, Status.resumed)]) =
      some activity := by
  simp [lastResumed]

/--
The active task and its stack are the original ones, or the new top was the
last activity to be asked to resume.
-/
def HandsOver
    (original : TaskLists)
    (requests : List (Nat × Status))
    (lists : TaskLists) : Prop :=
  (lists.getActiveTask = original.getActiveTask ∧
      lists.foreground = original.foreground) ∨
    ∀ top,
      lists.foreground.head? = some top →
      lastResumed requests = some top

/-- The first loop of a deletion resumes nobody. -/
theorem destroyRequests_destroyed
    (lists : TaskLists)
    (task activity : Nat) :
    ∀ request ∈ Setting.destroyRequests lists task activity,
      request.2 = Status.destroyed := by
  intro request member
  unfold Setting.destroyRequests at member
  split at member
  · obtain ⟨_, _, isRequest⟩ := List.mem_map.mp member
    rw [← isRequest]
  · exact absurd member List.not_mem_nil

/-- Another task than the active one shrinks. -/
theorem shrinkTo_getActiveTask
    {lists : TaskLists}
    {task : Nat}
    (notActive : some task ≠ lists.getActiveTask)
    (stack : List Nat) :
    (lists.shrinkTo task stack).getActiveTask = lists.getActiveTask := by
  unfold TaskLists.shrinkTo TaskLists.getActiveTask
  dsimp only
  split
  · exact TaskLists.head?_erase_of_ne notActive
  · rfl

namespace HandsOver

variable
  {setting : Setting}
  {original lists : TaskLists}
  {requests : List (Nat × Status)}

/-- A deletion resumes the new top if it changes the active task. -/
theorem deleteActivity
    (handsOver : HandsOver original requests lists)
    (activity : Nat) :
    HandsOver original
      (requests ++ setting.deletionRequests lists activity)
      (setting.deleteActivity lists activity) := by
  unfold Setting.deletionRequests Setting.deleteActivity
  cases setting.getTask lists activity with
  | none =>
      rw [List.append_nil]
      exact handsOver
  | some task =>
      dsimp only
      have isForeground :
          (lists.deleteActivity task activity).foreground =
            (lists.shrinkTo task
              (lists.remaining task activity)).foreground :=
        TaskLists.updateHome_foreground _ _
      rw [← List.append_assoc]
      unfold Setting.resumeRequests
      split
      · refine Or.inr ?_
        intro top isTop
        rw [isForeground] at isTop
        rw [isTop]
        exact lastResumed_concat _ top
      · rename_i notActive
        have sameActive :
            (lists.deleteActivity task activity).getActiveTask =
              lists.getActiveTask := by
          rw [TaskLists.deleteActivity, TaskLists.updateHome]
          split
          · exact shrinkTo_getActiveTask notActive _
          · exact shrinkTo_getActiveTask notActive _
        rw [List.append_nil, HandsOver, isForeground, sameActive,
          TaskLists.foreground_shrinkTo_other notActive,
          lastResumed_append_of_none requests
            (destroyRequests_destroyed lists task activity)]
        exact handsOver

/-- So do all deletions together. -/
theorem deleteAll
    (handsOver : HandsOver original requests lists)
    (activities : List Nat) :
    HandsOver original
      (requests ++ setting.crashRequests activities lists)
      (setting.deleteAll activities lists) := by
  induction activities generalizing requests lists with
  | nil =>
      rw [Setting.crashRequests, List.append_nil]
      exact handsOver
  | cons activity rest inductionHypothesis =>
      rw [Setting.crashRequests, ← List.append_assoc]
      exact inductionHypothesis (handsOver.deleteActivity activity)

end HandsOver

namespace TaskStackManager

variable {manager next : TaskStackManager}

/-! ## The first loop -/

/-- The end of an activity concerns neither the lists nor its place. -/
theorem abnormalExit_frame
    {activity : Nat}
    (exited : manager.abnormalExit activity = some next) :
    next.lists = manager.lists ∧
      next.setting.placed = manager.setting.placed ∧
      next.heldTasks = manager.heldTasks ∧
      next.mPendTask = manager.mPendTask := by
  obtain ⟨record, isRecord, ⟨_, hasEnded⟩ | ⟨_, _, _, _, hasEnded⟩⟩ :=
    abnormalExit_cases exited
  · subst hasEnded
    refine ⟨rfl, ?_, rfl, rfl⟩
    funext other
    by_cases isThis : other = activity
    · subst isThis
      simp [setting, setRecord, isRecord, ActivityRecord.setStatus]
    · simp [setting, setRecord, isThis]
  · subst hasEnded
    refine ⟨rfl, ?_, rfl, rfl⟩
    funext other
    by_cases isThis : other = activity
    · subst isThis
      simp [setting, exitApp, stopApp, setApp, setRecord, isRecord,
        ActivityRecord.setStatus]
    · simp [setting, exitApp, stopApp, setApp, setRecord, isThis]

/-- So is the end of several activities. -/
theorem abnormalExitAll_frame
    {activities : List Nat}
    (exited : abnormalExitAll activities manager = some next) :
    next.lists = manager.lists ∧
      next.setting.placed = manager.setting.placed ∧
      next.heldTasks = manager.heldTasks ∧
      next.mPendTask = manager.mPendTask := by
  induction activities generalizing manager with
  | nil =>
      rw [← Option.some.inj exited]
      exact ⟨rfl, rfl, rfl, rfl⟩
  | cons activity rest inductionHypothesis =>
      obtain ⟨middle, isMiddle, later⟩ := Option.bind_eq_some_iff.mp exited
      obtain ⟨lists, placed, held, board⟩ := abnormalExit_frame isMiddle
      obtain ⟨laterLists, laterPlaced, laterHeld, laterBoard⟩ :=
        inductionHypothesis later
      exact
        ⟨laterLists.trans lists, laterPlaced.trans placed,
          laterHeld.trans held, laterBoard.trans board⟩

/-- The first loop cannot go wrong. -/
theorem exists_abnormalExitAll
    {activities : List Nat}
    (kept : TableKept manager)
    (known :
      ∀ activity ∈ activities,
        (manager.setting.placed activity).isSome = true) :
    ∃ exited,
      abnormalExitAll activities manager = some exited ∧
        TableKept exited := by
  induction activities generalizing manager with
  | nil =>
      exact ⟨manager, rfl, kept⟩
  | cons activity rest inductionHypothesis =>
      have isKnown := known activity List.mem_cons_self
      rw [setting, Option.isSome_map, Option.isSome_iff_exists] at isKnown
      obtain ⟨record, isRecord⟩ := isKnown
      obtain ⟨middle, isMiddle⟩ := exists_abnormalExit isRecord
      obtain ⟨_, placed, _⟩ := abnormalExit_frame isMiddle
      have knownRest :
          ∀ other ∈ rest,
            (middle.setting.placed other).isSome = true := by
        intro other member
        rw [placed]
        exact known other (List.mem_cons_of_mem activity member)
      obtain ⟨exited, isExited, keptExited⟩ :=
        inductionHypothesis (kept.abnormalExit isMiddle) knownRest
      refine ⟨exited, ?_, keptExited⟩
      rw [abnormalExitAll, isMiddle]
      exact isExited

/-! ## Requests that are answered -/

/--
Nothing that a request goes through is missing: statuses have rows in the
lifecycle table, and tasks on the board refer to known activities.
-/
structure Answers
    (placed : Nat → Option (Nat × Option Nat))
    (manager : TaskStackManager) : Prop where
  samePlaced : manager.setting.placed = placed
  table : TableKept manager
  onBoard :
    ∀ handler ∈ manager.mPendTask.mTasklist,
      ∀ activity ∈ handler.mTask.activities,
        (placed activity).isSome = true

/-- A record with a row answers every request of the server. -/
theorem lifecycleTransition?_isSome
    {record : ActivityRecord}
    {toStatus : Status}
    (row : hasRowOrNone record.mStatus = true)
    (requested : toStatus ∈ requestedStatuses)
    (app : Option AppRecord) :
    (record.lifecycleTransition? app toStatus).isSome = true := by
  have columns :
      ∀ target ∈ requestedStatuses, 0 ≤ target ∧ target ≤ 12 := by
    decide
  unfold ActivityRecord.lifecycleTransition?
  split
  · rfl
  · rename_i between
    rw [ActivityRecord.isTransitional] at between
    rw [hasRowOrNone, Bool.eq_false_iff.mpr between, Bool.false_or,
      Bool.and_eq_true, decide_eq_true_eq, decide_eq_true_eq] at row
    have entry := turnTo?_isSome row (columns toStatus requested)
    rw [Option.isSome_iff_exists] at entry
    obtain ⟨turnTo, entry⟩ := entry
    simp only [entry, Option.bind_eq_bind, Option.bind_some]
    split <;> rfl

namespace Answers

variable
  {placed : Nat → Option (Nat × Option Nat)}
  {activity : Nat}
  {toStatus : Status}

/-- Placed activities have records. -/
theorem exists_record
    (answers : Answers placed manager)
    (known : (placed activity).isSome = true) :
    ∃ record, manager.activities activity = some record := by
  rw [← answers.samePlaced, setting, Option.isSome_map] at known
  exact Option.isSome_iff_exists.mp known

/-- A request after its event is answered. -/
theorem turn
    (answers : Answers placed manager)
    (known : (placed activity).isSome = true)
    (requested : toStatus ∈ requestedStatuses) :
    Spec False (manager.turn activity toStatus) (Answers placed) := by
  obtain ⟨record, isRecord⟩ := answers.exists_record known
  have follows :=
    lifecycleTransition?_isSome
      (answers.table.statuses activity record isRecord) requested
      (record.mApp.bind manager.apps)
  obtain ⟨transition, turned⟩ := Option.isSome_iff_exists.mp follows
  have isSome : (manager.turn activity toStatus).isSome = true := by
    simp [TaskStackManager.turn, isRecord, turned]
  obtain ⟨next, isNext⟩ := Option.isSome_iff_exists.mp isSome
  have tracks :
      Spec (¬ noAims.safe) (manager.turn activity toStatus)
        (Tracks noAims manager.setting manager.lists [] [] noExcuse) :=
    (tracks_noAims manager).turn False.elim False.elim False.elim
      False.elim
  obtain ⟨_, _, changed⟩ := turn_cases isNext
  rw [isNext]
  refine ⟨?_, answers.table.turn (Or.inl requested) isNext, ?_⟩
  · rw [(tracks.of_result isNext).sameSetting]
    exact answers.samePlaced
  · rw [changed.mPendTask]
    intro handler member other isOther
    split at member
    · rw [TaskBoard.commitTask_mTasklist, List.mem_append,
        List.mem_singleton] at member
      rcases member with onBoard | isNew
      · exact answers.onBoard handler onBoard other isOther
      · subst isNew
        rw [List.mem_singleton.mp isOther]
        exact known
    · exact answers.onBoard handler member other isOther

/-- A handler is marked. -/
theorem done
    (answers : Answers placed manager)
    (serial : Nat) :
    Answers placed (manager.done serial) where
  samePlaced := answers.samePlaced
  table := answers.table.frame rfl
  onBoard := by
    intro handler member
    obtain ⟨before, onBoard, isHandler⟩ := List.mem_map.mp member
    have sameTask : handler.mTask = before.mTask := by
      rw [← isHandler]
      split <;> rfl
    rw [sameTask]
    exact answers.onBoard before onBoard

/-- The activity behind a resumed one is stopped. -/
theorem executeWaitResume
    {willStopActivity : Nat}
    (answers : Answers placed manager)
    (known : (placed willStopActivity).isSome = true) :
    Spec False
      (TaskStackManager.executeWaitResume (lifecycleTransitionFrom 1)
        manager willStopActivity)
      (Answers placed) := by
  obtain ⟨record, isRecord⟩ := answers.exists_record known
  unfold TaskStackManager.executeWaitResume
  rw [isRecord, Option.bind_eq_bind, Option.bind_some]
  split
  · rename_i wantsToPause
    have noEvent :
        ∀ found,
          manager.activities willStopActivity = some found →
          ¬ (found.mTargetStatus = Status.resumed ∧
            Status.stopped > Status.resumed ∧
            found.mStatus < Status.resuming) := by
      intro found isFound
      rw [isRecord] at isFound
      rw [← Option.some.inj isFound]
      simp [wantsToPause]
    rw [Tracks.lifecycleTransitionFrom_eq_turn noEvent 0]
    exact answers.turn known (by simp [requestedStatuses])
  · exact answers

/-- The event of an activity that will not be resumed. -/
theorem triggerWaitResume
    (answers : Answers placed manager)
    (activity : Nat) :
    Spec False
      (TaskStackManager.triggerWaitResume (lifecycleTransitionFrom 1)
        manager activity)
      (Answers placed) := by
  unfold TaskStackManager.triggerWaitResume
  split
  · rename_i handler isFirst
    have onBoard : handler ∈ manager.mPendTask.mTasklist :=
      List.mem_of_find?_eq_some isFirst
    have known := answers.onBoard handler onBoard
    dsimp only
    split
    · rename_i resumeActivity willStopActivity isTask
      apply (answers.done handler.serial).executeWaitResume
      apply known
      rw [isTask]
      simp [PendTask.activities]
    · exact answers.done handler.serial
  · exact answers

/-- A request is answered. -/
theorem lifecycleTransition
    (answers : Answers placed manager)
    (known : (placed activity).isSome = true)
    (requested : toStatus ∈ requestedStatuses) :
    Spec False (manager.lifecycleTransition activity toStatus)
      (Answers placed) := by
  obtain ⟨record, isRecord⟩ := answers.exists_record known
  unfold TaskStackManager.lifecycleTransition lifecycleTransitionFrom
  rw [isRecord, Option.bind_eq_bind, Option.bind_some]
  refine
    Spec.bind_ite
      (fun _ => answers.triggerWaitResume activity)
      (fun _ => answers) ?_
  intro middle answersMiddle
  exact answersMiddle.turn known requested

/-- Several requests are answered. -/
theorem askAll
    {requests : List (Nat × Status)}
    (answers : Answers placed manager)
    (known :
      ∀ request ∈ requests,
        (placed request.1).isSome = true ∧
          request.2 ∈ requestedStatuses) :
    Spec False (askAll requests manager) (Answers placed) := by
  induction requests generalizing manager with
  | nil =>
      exact answers
  | cons request rest inductionHypothesis =>
      obtain ⟨isKnown, requested⟩ := known request List.mem_cons_self
      refine (answers.lifecycleTransition isKnown requested).bind ?_
      intro middle answersMiddle
      apply inductionHypothesis answersMiddle
      intro other member
      exact known other (List.mem_cons_of_mem request member)

end Answers

/-- All stacked activities satisfy a condition. -/
def StackedAre
    (condition : Nat → Prop)
    (lists : TaskLists) : Prop :=
  ∀ task, ∀ activity ∈ lists.stackOf task, condition activity

/-- Deletions only take activities away. -/
theorem StackedAre.deleteActivity
    {condition : Nat → Prop}
    {lists : TaskLists}
    (stackedAre : StackedAre condition lists)
    (task activity : Nat) :
    StackedAre condition
      (lists.shrinkTo task (lists.remaining task activity)) := by
  obtain ⟨above, splits⟩ :=
    TaskLists.remaining_splits lists task activity
  intro other member onStack
  by_cases isTask : other = task
  · subst isTask
    apply stackedAre other
    rw [splits]
    apply List.mem_append_right
    simpa [TaskLists.shrinkTo] using onStack
  · apply stackedAre other
    simpa [TaskLists.shrinkTo, isTask] using onStack

/-- Only stacked activities are asked. -/
theorem StackedAre.deletionRequests
    {setting : Setting}
    {condition : Nat → Prop}
    {lists : TaskLists}
    {activity : Nat}
    (stackedAre : StackedAre condition lists) :
    ∀ request ∈ setting.deletionRequests lists activity,
      condition request.1 := by
  intro request member
  unfold Setting.deletionRequests at member
  split at member
  · rename_i task _
    rcases List.mem_append.mp member with isDestroy | isResume
    · unfold Setting.destroyRequests at isDestroy
      split at isDestroy
      · rename_i onStack
        obtain ⟨other, isAbove, isRequest⟩ := List.mem_map.mp isDestroy
        rw [← isRequest]
        apply stackedAre task
        rw [← TaskLists.downTo_append_below onStack]
        exact List.mem_append_left _ isAbove
      · exact absurd isDestroy List.not_mem_nil
    · unfold Setting.resumeRequests at isResume
      split at isResume
      · obtain ⟨top, isTop, isRequest⟩ :=
          Option.map_eq_some_iff.mp (Option.mem_toList.mp isResume)
        obtain ⟨active, _, onStack⟩ :=
          TaskLists.exists_active_of_mem (List.mem_of_head? isTop)
        rw [← isRequest]
        exact stackedAre.deleteActivity task activity active top onStack
      · exact absurd isResume List.not_mem_nil
  · exact absurd member List.not_mem_nil

/-- So it is for several deletions. -/
theorem StackedAre.crashRequests
    {setting : Setting}
    {condition : Nat → Prop}
    {lists : TaskLists}
    {activities : List Nat}
    (stackedAre : StackedAre condition lists) :
    ∀ request ∈ setting.crashRequests activities lists,
      condition request.1 ∧ request.2 ∈ requestedStatuses := by
  induction activities generalizing lists with
  | nil =>
      exact fun _ member => absurd member List.not_mem_nil
  | cons activity rest inductionHypothesis =>
      intro request member
      rcases List.mem_append.mp member with isFirst | isLater
      · refine ⟨stackedAre.deletionRequests request isFirst, ?_⟩
        rcases deletionRequests_requested request isFirst with
          isDestroyed | isResumed
        · rw [isDestroyed]
          simp [requestedStatuses]
        · rw [isResumed]
          simp [requestedStatuses]
      · refine inductionHypothesis ?_ request isLater
        unfold Setting.deleteActivity
        split
        · rename_i task _
          rw [TaskLists.deleteActivity, TaskLists.updateHome]
          split
          · exact stackedAre.deleteActivity task activity
          · exact stackedAre.deleteActivity task activity
        · exact stackedAre

/-! ## The crash -/

/--
Every handle leads to a record, and every status to a row of the lifecycle
table.
-/
structure IsComplete (manager : TaskStackManager) : Prop where
  answers : Answers manager.setting.placed manager
  stacked :
    StackedAre
      (fun activity =>
        (manager.setting.placed activity).isSome = true)
      manager.lists

/-- An activity of an application. -/
def isHostedBy
    (manager : TaskStackManager)
    (app activity : Nat) : Bool :=
  (manager.activities activity).any fun record => record.mApp = some app

/--
The list of an application has its own activities, and all of them that are
on the stack of a listed task.
-/
structure ListsItsOwn
    (manager : TaskStackManager)
    (app : Nat)
    (mExistActivity : List Nat) : Prop where
  own :
    ∀ activity ∈ mExistActivity,
      manager.isHostedBy app activity = true
  stacked :
    ∀ task ∈ manager.lists.mAllTasks,
      ∀ activity ∈ manager.lists.stackOf task,
        manager.isHostedBy app activity = true →
        activity ∈ mExistActivity

/-- What `procAppTerminated` leaves of the tasks. -/
structure CleanedUp
    (manager : TaskStackManager)
    (app : Nat)
    (next : TaskStackManager) : Prop where
  stackOf :
    ∀ task ∈ manager.lists.mAllTasks,
      next.lists.stackOf task =
        surviving (manager.isHostedBy app) (manager.lists.stackOf task)
  allTasks :
    next.lists.mAllTasks =
      manager.lists.mAllTasks.filter fun task =>
        surviving (manager.isHostedBy app)
          (manager.lists.stackOf task) ≠ []

/-- The second loop makes these requests, and no others, in this order. -/
structure AsksFor
    (manager : TaskStackManager)
    (app : Nat)
    (record : AppRecord)
    (requests : List (Nat × Status))
    (next : TaskStackManager) : Prop where
  asked :
    ∃ exited answered,
      abnormalExitAll record.mExistActivity
          (manager.markStopped app record) =
        some exited ∧
        requests =
          exited.setting.crashRequests record.mExistActivity
            exited.lists ∧
        askAll requests exited = some answered ∧
        next =
          { answered with
            lists := next.lists
            mActivityMap := next.mActivityMap }
  lastOne :
    next.lists.getActiveTask ≠ manager.lists.getActiveTask ∨
        next.lists.foreground ≠ manager.lists.foreground →
      ∀ top,
        next.lists.foreground.head? = some top →
        lastResumed requests = some top

variable
  {app : Nat}
  {record : AppRecord}

/-- Well-kept lists. -/
theorem ListsKept.wellListed
    (kept : ListsKept manager) :
    WellListed manager.setting.inTask manager.lists where
  distinctTasks := kept.distinctTasks
  notEmpty := kept.notEmpty
  distinct task listed :=
    (List.nodup_flatMap.mp kept.distinctActivities).1 task listed
  owned task listed activity onStack := by
    obtain ⟨record, isRecord, inTask⟩ :=
      kept.inItsTask task listed activity onStack
    unfold getTask at inTask
    split at inTask
    · rw [← inTask]
      simp [Setting.inTask, setting, isRecord]
    · cases inTask

/-- The entries of an application's list have places. -/
theorem ListsItsOwn.placed
    {mExistActivity : List Nat}
    (listsItsOwn : ListsItsOwn manager app mExistActivity) :
    ∀ activity ∈ mExistActivity,
      (manager.setting.placed activity).isSome = true := by
  intro activity member
  have hosted := listsItsOwn.own activity member
  rw [setting, Option.isSome_map]
  cases isRecord : manager.activities activity with
  | none =>
      rw [isHostedBy, isRecord] at hosted
      exact absurd hosted Bool.false_ne_true
  | some record =>
      rfl

/-- The second loop, after the first. -/
theorem deleteAll_cleanedUp
    {exited : TaskStackManager}
    (kept : ListsKept manager)
    (listsItsOwn : ListsItsOwn manager app record.mExistActivity)
    (isExited :
      abnormalExitAll record.mExistActivity
          (manager.markStopped app record) =
        some exited)
    (terminated :
      deleteAll record.mExistActivity exited = some next) :
    CleanedUp manager app next ∧
      ∃ requests, AsksFor manager app record requests next := by
  obtain ⟨sameLists, samePlaced, _⟩ := abnormalExitAll_frame isExited
  have sameStart : exited.lists = manager.lists := sameLists
  have inTask : exited.setting.inTask = manager.setting.inTask := by
    funext activity
    rw [Setting.inTask, samePlaced]
    rfl
  have known :
      ∀ activity ∈ record.mExistActivity,
        (exited.setting.placed activity).isSome = true := by
    rw [samePlaced]
    exact listsItsOwn.placed
  rw [deleteAll_eq_askAll known, sameStart] at terminated
  obtain ⟨answered, asked, isNext⟩ :=
    Option.map_eq_some_iff.mp terminated
  have wellListed := kept.wellListed
  rw [← inTask] at wellListed
  have nextLists :
      next.lists =
        exited.setting.deleteAll record.mExistActivity manager.lists := by
    rw [← isNext]
    rfl
  have cleared :=
    (Cleared.refl wellListed).deleteAll wellListed record.mExistActivity
  have sameGone :
      ∀ task ∈ manager.lists.mAllTasks,
        surviving
            (fun other => false || record.mExistActivity.contains other)
            (manager.lists.stackOf task) =
          surviving (manager.isHostedBy app)
            (manager.lists.stackOf task) := by
    intro task listed
    apply surviving_congr
    intro activity onStack
    rw [Bool.false_or, Bool.eq_iff_iff, List.contains_iff_mem]
    constructor
    · exact listsItsOwn.own activity
    · exact listsItsOwn.stacked task listed activity onStack
  have handsOver :
      HandsOver manager.lists
        (exited.setting.crashRequests record.mExistActivity manager.lists)
        next.lists := by
    rw [nextLists]
    have unmoved : HandsOver manager.lists [] manager.lists :=
      Or.inl ⟨rfl, rfl⟩
    exact unmoved.deleteAll _
  refine ⟨⟨?_, ?_⟩, _, ⟨exited, answered, isExited, rfl, ?_, ?_⟩, ?_⟩
  · intro task listed
    rw [nextLists, cleared.stackOf task listed, sameGone task listed]
  · rw [nextLists, cleared.allTasks]
    apply List.filter_congr
    intro task listed
    rw [sameGone task listed]
  · rw [sameStart]
    exact asked
  · rw [← isNext]
    rfl
  · intro hasChanged
    rw [sameStart]
    rcases handsOver with ⟨sameActive, sameForeground⟩ | isLast
    · rcases hasChanged with otherActive | otherForeground
      · exact absurd sameActive otherActive
      · exact absurd sameForeground otherForeground
    · exact isLast

/--
A crash leaves of every stack the part below all activities of the dead
application, whatever the order of its list, and drops exactly the tasks of
which nothing is left.  If that changes the foreground, its new top is the
last activity that is asked to be resumed.
-/
theorem procAppTerminated_exact
    (kept : ListsKept manager)
    (isRecord : manager.apps app = some record)
    (listsItsOwn : ListsItsOwn manager app record.mExistActivity) :
    (IsComplete manager →
        ∃ next, manager.procAppTerminated app = some next) ∧
      ∀ next,
        manager.procAppTerminated app = some next →
        CleanedUp manager app next ∧
          ∃ requests, AsksFor manager app record requests next := by
  constructor
  · rintro ⟨answers, stacked⟩
    have keptMarked : TableKept (manager.markStopped app record) :=
      answers.table.frame rfl
    obtain ⟨exited, isExited, keptExited⟩ :=
      exists_abnormalExitAll keptMarked listsItsOwn.placed
    obtain ⟨sameLists, samePlaced, _, sameBoard⟩ :=
      abnormalExitAll_frame isExited
    have answersExited : Answers manager.setting.placed exited := by
      refine ⟨samePlaced, keptExited, ?_⟩
      rw [sameBoard]
      exact answers.onBoard
    have known :
        ∀ activity ∈ record.mExistActivity,
          (exited.setting.placed activity).isSome = true := by
      rw [samePlaced]
      exact listsItsOwn.placed
    have answered :
        Spec False
          (askAll
            (exited.setting.crashRequests record.mExistActivity
              exited.lists)
            exited)
          (Answers manager.setting.placed) := by
      apply answersExited.askAll
      rw [sameLists]
      exact StackedAre.crashRequests stacked
    obtain ⟨final, isFinal, _⟩ := answered.exists_result not_false
    rw [procAppTerminated, isRecord, Option.bind_eq_bind, Option.bind_some]
    dsimp only
    rw [isExited, Option.bind_eq_bind, Option.bind_some,
      deleteAll_eq_askAll known, isFinal]
    exact ⟨_, rfl⟩
  · intro next terminated
    rw [procAppTerminated, isRecord, Option.bind_eq_bind,
      Option.bind_some] at terminated
    obtain ⟨exited, isExited, deleted⟩ :=
      Option.bind_eq_some_iff.mp terminated
    exact deleteAll_cleanedUp kept listsItsOwn isExited deleted

/--
An application has both activities of the active task and one in the middle of
the next task.  Another activity of its list was destroyed, so that the
youngest one comes first.
-/
def crashing : Option TaskStackManager :=
  run? step? (TaskStackManager.start 0)
    [.attachApplication "home" false 10,
      .attachApplication "clock" false 11,
      .attachApplication "notes" false 12,
      .pushNewActivity "home/Main" 0 0 ⟨"home", "", "", 0⟩ 0,
      .pushNewActivity "clock/Splash" 1 1 ⟨"clock", "", "", 0⟩ 0,
      .pushNewActivity "clock/Main" 1 2 ⟨"clock", "", "", 0⟩ 0,
      .pushNewActivity "notes/Main" 2 3 ⟨"notes", "", "", 0⟩ 0,
      .pushNewActivity "clock/Alarm" 1 3 ⟨"clock", "", "", 0⟩ 0,
      .pushNewActivity "notes/Edit" 2 3 ⟨"notes", "", "", 0⟩ 0,
      .pushNewActivity "clock/Timer" 1 2 ⟨"clock", "", "", 0⟩ 0,
      .reportActivityStatus 1 Status.destroyed]

/-- The application that dies. -/
def dying : Option AppRecord :=
  crashing.bind fun manager => manager.apps 1

theorem crashing_cleanedUp :
    (dying.get rfl).mExistActivity = [6, 2, 4] ∧
      ((crashing.get rfl).procAppTerminated 1).isSome = true ∧
      (IsComplete (crashing.get rfl) →
          ∃ next, (crashing.get rfl).procAppTerminated 1 = some next) ∧
      ∀ next,
        (crashing.get rfl).procAppTerminated 1 = some next →
        CleanedUp (crashing.get rfl) 1 next ∧
          ∃ requests,
            AsksFor (crashing.get rfl) 1 (dying.get rfl) requests next := by
  have accepted : crashing = some (crashing.get rfl) :=
    (Option.some_get _).symm
  have isDying : (crashing.get rfl).apps 1 = some (dying.get rfl) := by
    rfl
  have kept : ListsKept (crashing.get rfl) :=
    (listsKept_of_reachable (Reachable.of_run? (by decide) accepted)).1
  have listsItsOwn :
      ListsItsOwn (crashing.get rfl) 1 (dying.get rfl).mExistActivity :=
    ⟨by decide, by decide⟩
  exact
    ⟨by decide, by decide,
      procAppTerminated_exact kept isDying listsItsOwn⟩

end TaskStackManager

end ActivityManager
