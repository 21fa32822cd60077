import ActivityManager.TaskManagerOperations

/-!
# The removal of activities

`finishActivity` and `deleteActivity` take activities off a stack and may
delete its task.  They differ in the counters: `finishActivity` tells the
applications what leaves and what enters the foreground, `deleteActivity` does
not, so that it keeps the counters only where both are the same.
-/

namespace ActivityManager

open PartialProgram

namespace TaskStackManager

variable
  {aims : Aims}
  {setting : Setting}
  {lists : TaskLists}
  {counted aimed : List Nat}
  {excused : Nat → Status → Prop}
  {manager : TaskStackManager}

/-! ## `finishActivity` -/

/-- Filtering the only activity out. -/
private theorem filter_onlyThis
    {activity : Nat}
    (onlyThis : ∀ other ∈ aimed, other = activity) :
    aimed.filter (· != activity) = [] := by
  rw [List.filter_eq_nil_iff]
  intro other member
  simp [onlyThis other member]

/-- The next activity replaces the finished one. -/
private theorem Tracks.replaceTop
    {activity next : Nat}
    (tracks :
      Tracks aims setting lists lists.foreground aimed noExcuse manager)
    (wellStacked : lists.WellStacked setting.inTask)
    (onlyThis : ∀ other ∈ aimed, other = activity)
    (known : (setting.placed activity).isSome = true)
    (knownNext : (setting.placed next).isSome = true)
    (isNext : lists.foreground.head? = some next) :
    Spec (¬ aims.safe)
      (do
        let manager ← manager.lifecycleTransition activity Status.paused
        let manager ← manager.lifecycleTransition next Status.resumed
        some (manager.commit (.delayDestroy activity next)))
      (Settled aims setting) := by
  refine (tracks.pause fun _ => known).bind ?_
  intro paused pausedTracks
  rw [filter_onlyThis onlyThis] at pausedTracks
  refine
    (pausedTracks.resume (fun _ => knownNext)
      fun _ _ isExcused => isExcused.elim).bind ?_
  intro resumed resumedTracks
  have committed :=
    resumedTracks.commit (.delayDestroy activity next) fun _ => by
      simp [PendTask.activities, known, knownNext]
  apply Settled.of_tracks committed wellStacked rfl
  intro other member
  rw [isNext, List.mem_singleton.mp member]

/-- The lists may get another home task. -/
private theorem ite_home
    (condition : Prop)
    [Decidable condition]
    (lists : TaskLists)
    (home : Option Nat) :
    (if condition then { lists with mHomeTask := home } else lists) =
      { lists with
        mHomeTask := if condition then home else lists.mHomeTask } := by
  split <;> rfl

/-- The lists without the front task, whatever the home task is then. -/
private theorem wellStacked_behind
    {activityTask : Nat}
    {others : List Nat}
    (wellStacked : lists.WellStacked setting.inTask)
    (allTasks : lists.mAllTasks = activityTask :: others)
    (home : Option Nat) :
    TaskLists.WellStacked setting.inTask
      { behind (lists.setStack activityTask []) others with
        mHomeTask := home } := by
  have distinct := wellStacked.distinctTasks
  rw [allTasks, List.nodup_cons] at distinct
  apply wellStacked.change home distinct.2
  · intro other member _
    rw [allTasks]
    exact List.mem_cons_of_mem activityTask member
  · exact fun listed => absurd listed distinct.1
  · exact List.nodup_nil
  · exact fun other member => absurd member List.not_mem_nil

/-- `finishActivity` once its activity is popped from the active task. -/
private theorem Tracks.finishActive
    {activityTask activity : Nat}
    {others below : List Nat}
    (tracks :
      Tracks aims setting (lists.setStack activityTask below)
        (activity :: below) aimed noExcuse manager)
    (wellStacked : lists.WellStacked setting.inTask)
    (allTasks : lists.mAllTasks = activityTask :: others)
    (belowNodup : below.Nodup)
    (belowOwned :
      ∀ other ∈ below, setting.inTask other = some activityTask)
    (onlyThis : ∀ other ∈ aimed, other = activity)
    (known : (setting.placed activity).isSome = true) :
    Spec (¬ aims.safe) (manager.finishActive activityTask activity)
      (Settled aims setting) := by
  unfold TaskStackManager.finishActive
  refine (tracks.exit fun _ => known).bind ?_
  intro left leftTracks
  rw [leftTracks.sameLists, TaskLists.getTopActivity,
    TaskLists.setStack_stacks]
  cases below with
  | cons next later =>
      have isActive : some activityTask = lists.getActiveTask := by
        rw [TaskLists.getActiveTask, allTasks]
        rfl
      have isForeground :=
        TaskLists.foreground_setStack_active isActive (next :: later)
      have poppedStacked :=
        wellStacked.setStack (List.cons_ne_nil next later) belowNodup
          belowOwned
      have knownNext : (setting.placed next).isSome = true :=
        placed_of_stacked poppedStacked activityTask (by simp)
      have foregroundTracks :
          Tracks aims setting
            (lists.setStack activityTask (next :: later))
            (lists.setStack activityTask (next :: later)).foreground
            aimed noExcuse left := by
        rw [isForeground]
        exact leftTracks
      exact foregroundTracks.replaceTop poppedStacked onlyThis known
        knownNext (by rw [isForeground]; rfl)
  | nil =>
      have distinct := wellStacked.distinctTasks
      rw [allTasks, List.nodup_cons] at distinct
      have popped :
          (lists.setStack activityTask []).popFront? =
            some (behind (lists.setStack activityTask []) others) := by
        rw [TaskLists.popFront?, TaskLists.setStack, allTasks]
        rfl
      rw [List.head?_nil]
      dsimp only
      rw [popped, Option.bind_eq_bind, Option.bind_some]
      rw [ite_home]
      generalize (if some activityTask =
          (behind (lists.setStack activityTask []) others).mHomeTask then
            (behind (lists.setStack activityTask []) others).getActiveTask
          else
            (behind (lists.setStack activityTask []) others).mHomeTask) =
        home
      let emptied : TaskLists :=
        { behind (lists.setStack activityTask []) others with
          mHomeTask := home }
      have emptiedTracks := leftTracks.setLists emptied
      cases others with
      | nil =>
          dsimp only [behind, TaskLists.getActiveTask, List.head?_nil]
          rw [Option.bind_eq_bind, Option.bind_some]
          refine
            (emptiedTracks.destroy (fun _ => known)
              fun _ isExcused => isExcused.elim).mono ?_
          intro final finalTracks
          apply Settled.of_tracks finalTracks
            (wellStacked_behind wellStacked allTasks home)
          · rfl
          · intro other member
            rw [filter_onlyThis onlyThis] at member
            exact absurd member List.not_mem_nil
      | cons next later =>
          have listed : next ∈ lists.mAllTasks := by
            rw [allTasks]
            simp
          have isOther : next ≠ activityTask := by
            intro same
            exact distinct.1 (by rw [same]; exact List.mem_cons_self)
          obtain ⟨nextActivity, rest, stack⟩ :=
            wellStacked.exists_top listed
          have sameStack : emptied.stackOf next = nextActivity :: rest := by
            rw [← stack]
            exact TaskLists.setStack_stacks_of_ne lists [] isOther
          have isForeground :
              emptied.foreground = nextActivity :: rest := by
            rw [← sameStack]
            rfl
          have isNextTop :
              (left.setLists
                  { mAllTasks := next :: later
                    mHomeTask := home
                    stackOf :=
                      (lists.setStack activityTask []).stackOf
                  }).lists.getTopActivity next =
                some nextActivity :=
            congrArg List.head? sameStack
          have knownNext : (setting.placed nextActivity).isSome = true :=
            placed_of_stacked wellStacked next (by simp [stack])
          have entered := emptiedTracks.enterStack next
          rw [List.append_nil] at entered
          dsimp only [behind, TaskLists.getActiveTask, List.head?_cons]
          rw [Option.bind_eq_bind, Option.bind_some]
          dsimp only
          rw [isNextTop]
          exact
            entered.replaceTop (wellStacked_behind wellStacked allTasks home)
              onlyThis known knownNext (by rw [isForeground]; rfl)

/-- A task that `getTask` finds is the activity's. -/
private theorem Tracks.inTask_of_getTask
    {activity task : Nat}
    {record : ActivityRecord}
    (tracks :
      Tracks aims setting lists counted aimed excused manager)
    (isRecord : manager.activities activity = some record)
    (found : manager.getTask record = some task) :
    setting.inTask activity = some task := by
  unfold getTask at found
  split at found
  · rw [Setting.inTask, tracks.placed activity, isRecord]
    exact found
  · exact absurd found.symm (Option.some_ne_none task)

/-- The rest of `finishActivity` for a task in the background. -/
private theorem Tracks.finishBackground
    {start next : TaskStackManager}
    {activityTask activity : Nat}
    {above below : List Nat}
    (tracks :
      Tracks aims setting (start.lists.setStack activityTask below)
        start.lists.foreground aimed noExcuse next)
    (wellStacked : start.lists.WellStacked setting.inTask)
    (splits :
      start.lists.stackOf activityTask = above ++ below)
    (notActive : some activityTask ≠ start.lists.getActiveTask)
    (isTop :
      ∀ other ∈ aimed,
        start.lists.foreground.head? = some other)
    (known : (setting.placed activity).isSome = true) :
    Spec (¬ aims.safe)
      (do
        let manager ←
          next.lifecycleTransition activity Status.destroyed
        if (manager.lists.getTopActivity activityTask).isNone then
          some
            (manager.setLists (manager.lists.deleteTask activityTask))
        else
          some manager)
      (Settled aims setting) := by
  refine
    (tracks.destroy (fun _ => known)
      fun _ isExcused => isExcused.elim).bind ?_
  intro destroyed destroyedTracks
  have shrunk := wellStacked.shrinkTo splits
  have isTopStill :
      ∀ other ∈ aimed.filter (· != activity),
        start.lists.foreground.head? = some other :=
    fun other member => isTop other (List.mem_of_mem_filter member)
  have sameForeground :=
    TaskLists.foreground_setStack_other notActive below
  rw [destroyedTracks.sameLists, TaskLists.getTopActivity,
    TaskLists.setStack_stacks]
  cases below with
  | nil =>
      have deletedForeground :=
        TaskLists.foreground_shrinkTo_other notActive []
      apply Settled.of_tracks (destroyedTracks.setLists _) shrunk
      · exact deletedForeground.symm
      · intro other member
        exact (congrArg List.head? deletedForeground).trans
          (isTopStill other member)
  | cons top rest =>
      apply Settled.of_tracks destroyedTracks shrunk
      · exact sameForeground.symm
      · intro other member
        exact (congrArg List.head? sameForeground).trans
          (isTopStill other member)

/-- What is not above the activity is the top only if it is the activity. -/
private theorem eq_of_top_notAbove
    {activity other : Nat}
    {above below : List Nat}
    (member :
      other ∈
        (above ++ activity :: below).head?.toList.filter (· ∉ above)) :
    other = activity := by
  rw [List.mem_filter] at member
  cases above with
  | nil =>
      simpa using member.1
  | cons top later =>
      simp only [List.cons_append, List.head?_cons, Option.toList_some,
        List.mem_singleton, decide_eq_true_eq] at member
      rw [member.1] at member
      exact absurd List.mem_cons_self member.2

/-- `finishActivity` once all down to its activity is popped. -/
private theorem Tracks.finishPopped
    {start popped : TaskStackManager}
    {activityTask activity : Nat}
    {above below : List Nat}
    (tracks :
      Tracks aims setting (start.lists.setStack activityTask below)
        (start.lists.setStack activityTask
          (activity :: below)).foreground
        (start.lists.foreground.head?.toList.filter (· ∉ above)) noExcuse
        popped)
    (wellStacked : start.lists.WellStacked setting.inTask)
    (splits :
      start.lists.stackOf activityTask = above ++ activity :: below)
    (known : (setting.placed activity).isSome = true) :
    Spec (¬ aims.safe)
      (if decide (some activityTask = start.lists.getActiveTask) = true then
        popped.finishActive activityTask activity
      else do
        let manager ←
          popped.lifecycleTransition activity Status.destroyed
        if (manager.lists.getTopActivity activityTask).isNone then
          some
            (manager.setLists (manager.lists.deleteTask activityTask))
        else
          some manager)
      (Settled aims setting) := by
  by_cases isActive : some activityTask = start.lists.getActiveTask
  · rw [if_pos (decide_eq_true isActive)]
    rw [TaskLists.foreground_setStack_active isActive] at tracks
    have isForeground :
        start.lists.foreground = above ++ activity :: below := by
      rw [TaskLists.foreground_of_active isActive, splits]
    obtain ⟨others, allTasks⟩ :=
      List.head?_eq_some_iff.mp isActive.symm
    have stackNodup := wellStacked.distinct activityTask
    rw [splits] at stackNodup
    have belowNodup :=
      (List.nodup_cons.mp (List.nodup_append.mp stackNodup).2.1).2
    apply tracks.finishActive wellStacked allTasks belowNodup
    · intro other member
      apply wellStacked.owned activityTask
      rw [splits]
      exact List.mem_append_right _
        (List.mem_cons_of_mem activity member)
    · intro other member
      rw [isForeground] at member
      exact eq_of_top_notAbove member
    · exact known
  · rw [if_neg (by simpa using isActive)]
    rw [TaskLists.foreground_setStack_other isActive] at tracks
    apply tracks.finishBackground wellStacked
    · rw [splits, List.append_cons]
    · exact isActive
    · intro other member
      simpa using List.mem_of_mem_filter member
    · exact known

/-- An activity finishes, with all that is above it. -/
theorem Settled.finishActivity
    {activity : Nat}
    (settled : Settled aims setting manager)
    (known : aims.safe → (setting.placed activity).isSome = true)
    (onStack :
      aims.safe →
      ∀ task,
        setting.inTask activity = some task →
        activity ∈ manager.lists.stackOf task) :
    Spec (¬ aims.safe) (manager.finishActivity activity)
      (Settled aims setting) := by
  have wellStacked := settled.wellStacked
  have tracks := settled.tracks
  refine Spec.bind_known ?_ ?_
  · intro mustNotFail
    obtain ⟨record, isRecord⟩ :=
      tracks.exists_record (known (not_not.mp mustNotFail))
    rw [isRecord]
    rfl
  · intro record isRecord
    split
    · exact settled
    · rename_i activityTask found
      have inTask := tracks.inTask_of_getTask isRecord found
      have isKnown : (setting.placed activity).isSome = true := by
        rw [tracks.placed activity, isRecord]
        rfl
      dsimp only
      have enough :
          (manager.lists.stackOf activityTask).length <
            manager.loopFuel activityTask :=
        Nat.lt_succ_self _
      by_cases isStacked : activity ∈ manager.lists.stackOf activityTask
      · obtain ⟨above, splits, notAbove⟩ :=
          TaskLists.exists_above isStacked
        let below :=
          TaskLists.below (manager.lists.stackOf activityTask) activity
        have aboveStacked :
            ∀ other ∈ above,
              other ∈ manager.lists.stackOf activityTask := by
          intro other member
          rw [splits]
          exact List.mem_append_left _ member
        have goesOn :
            ∀ other ∈ above, some other ≠ some activity := by
          intro other member same
          rw [Option.some.inj same] at member
          exact notAbove member
        have cleared :=
          tracks.clearForeground
            (fun other member =>
              placed_of_stacked wellStacked activityTask
                (aboveStacked other member))
            splits (Or.inr rfl) goesOn enough
        refine cleared.bind ?_
        intro middle middleTracks
        have popped :
            (manager.lists.setStack activityTask
                (activity :: below)).popActivity? activityTask =
              some (manager.lists.setStack activityTask below) := by
          simp [TaskLists.popActivity?]
        rw [middleTracks.sameLists, popped, Option.bind_eq_bind,
          Option.bind_some]
        have poppedTracks :=
          middleTracks.setLists
            (manager.lists.setStack activityTask below)
        exact poppedTracks.finishPopped wellStacked splits isKnown
      · have goesOn :
            ∀ other ∈ manager.lists.stackOf activityTask,
              some other ≠ some activity := by
          intro other member same
          rw [Option.some.inj same] at member
          exact isStacked member
        have cleared :=
          tracks.clearForeground
            (fun other member =>
              placed_of_stacked wellStacked activityTask member)
            (List.append_nil (manager.lists.stackOf activityTask)).symm
            (Or.inl rfl) goesOn enough
        refine cleared.bind ?_
        intro middle middleTracks
        have notPopped :
            (manager.lists.setStack activityTask []).popActivity?
                activityTask = none := by
          simp [TaskLists.popActivity?]
        rw [middleTracks.sameLists, notPopped]
        intro isAim
        exact isStacked (onStack isAim activityTask inTask)

/-! ## `deleteActivity` -/

/-- `getTask` in terms of the setting. -/
private theorem Tracks.getTask_eq
    {activity : Nat}
    {record : ActivityRecord}
    (tracks :
      Tracks aims setting lists counted aimed excused manager)
    (isRecord : manager.activities activity = some record) :
    manager.getTask record = setting.getTask lists activity := by
  have sameHeld : setting.heldTasks = manager.heldTasks := by
    rw [← tracks.sameSetting]
    rfl
  unfold TaskStackManager.getTask Setting.getTask
  rw [Setting.inTask, tracks.placed activity, isRecord,
    tracks.sameLists, sameHeld]
  simp [Option.filter]

/-- The loop of `deleteActivity`, which leaves the counters alone. -/
private theorem Tracks.deleteDownTo
    {task activity fuel : Nat}
    {above below : List Nat}
    (tracks :
      Tracks aims setting lists counted aimed excused manager)
    (harmless :
      ∀ other status,
        excused other status →
        status ≠ Status.init)
    (known :
      ∀ other ∈ lists.stackOf task,
        (setting.placed other).isSome = true)
    (splits : lists.stackOf task = above ++ activity :: below)
    (notAbove : activity ∉ above)
    (enough : above.length < fuel) :
    Spec (¬ aims.safe)
      (TaskStackManager.deleteDownTo task activity fuel manager)
      (Tracks aims setting (lists.setStack task below) counted
        (aimed.filter (· ∉ above ++ [activity])) excused) := by
  induction above generalizing fuel manager lists aimed with
  | nil =>
      obtain ⟨fuel, rfl⟩ :=
        Nat.exists_eq_add_one_of_ne_zero (Nat.ne_zero_of_lt enough)
      rw [List.nil_append] at splits
      have isTop : lists.getTopActivity task = some activity := by
        simp [TaskLists.getTopActivity, splits]
      have popped :
          lists.popActivity? task =
            some (lists.setStack task below) := by
        simp [TaskLists.popActivity?, splits]
      have knownTop := known activity (by simp [splits])
      unfold TaskStackManager.deleteDownTo
      rw [tracks.sameLists, isTop]
      dsimp only
      refine
        (tracks.destroy (fun _ => knownTop) (harmless activity)).bind ?_
      intro destroyed destroyedTracks
      rw [destroyedTracks.sameLists, popped, Option.bind_eq_bind,
        Option.bind_some]
      rw [if_pos rfl]
      have ends := destroyedTracks.setLists (lists.setStack task below)
      have sameAimed :
          aimed.filter (· ∉ [] ++ [activity]) =
            aimed.filter (· != activity) := by
        apply List.filter_congr
        intro other _
        by_cases isActivity : other = activity
        · simp [isActivity]
        · simp [isActivity]
      rw [sameAimed]
      exact ends
  | cons top above inductionHypothesis =>
      obtain ⟨fuel, rfl⟩ :=
        Nat.exists_eq_add_one_of_ne_zero (Nat.ne_zero_of_lt enough)
      rw [List.cons_append] at splits
      rw [List.mem_cons, not_or] at notAbove
      have isTop : lists.getTopActivity task = some top := by
        simp [TaskLists.getTopActivity, splits]
      have popped :
          lists.popActivity? task =
            some (lists.setStack task (above ++ activity :: below)) := by
        simp [TaskLists.popActivity?, splits]
      have knownTop := known top (by simp [splits])
      unfold TaskStackManager.deleteDownTo
      rw [tracks.sameLists, isTop]
      dsimp only
      refine
        (tracks.destroy (fun _ => knownTop) (harmless top)).bind ?_
      intro destroyed destroyedTracks
      rw [destroyedTracks.sameLists, popped, Option.bind_eq_bind,
        Option.bind_some]
      rw [if_neg (fun same => notAbove.1 same.symm)]
      have rest :=
        inductionHypothesis
          (destroyedTracks.setLists
            (lists.setStack task (above ++ activity :: below)))
          (by
            intro other member
            rw [TaskLists.setStack_stacks] at member
            exact known other
              (by rw [splits]; exact List.mem_cons_of_mem top member))
          (TaskLists.setStack_stacks _ _ _)
          notAbove.2 (Nat.lt_of_succ_lt_succ enough)
      rw [TaskLists.setStack_setStack] at rest
      rw [List.cons_append, ← filter_cons_notMem]
      exact rest

/-- `deleteActivity` after its loop, when its task is active. -/
private theorem Tracks.resumeNext
    {task : Nat}
    {above stack : List Nat}
    (tracks :
      Tracks aims setting (lists.setStack task stack) counted aimed
        noExcuse manager)
    (wellStacked : lists.WellStacked setting.inTask)
    (splits : lists.stackOf task = above ++ stack)
    (isActive : some task = lists.getActiveTask)
    (onlyTop : ∀ other ∈ aimed, stack.head? = some other) :
    Spec (¬ aims.safe) (manager.resumeNext task)
      (Tracks aims setting (lists.shrinkTo task stack) counted
        (lists.shrinkTo task stack).foreground.head?.toList
        noExcuse) := by
  unfold TaskStackManager.resumeNext
  rw [tracks.sameLists, TaskLists.getTopActivity,
    TaskLists.setStack_stacks]
  cases stack with
  | cons next rest =>
      have onStack : next ∈ lists.stackOf task := by
        rw [splits]
        simp
      have known := placed_of_stacked wellStacked task onStack
      have sameLists :
          lists.shrinkTo task (next :: rest) =
            lists.setStack task (next :: rest) := by
        simp [TaskLists.shrinkTo, TaskLists.setStack]
      rw [sameLists, TaskLists.foreground_setStack_active isActive]
      rw [List.head?_cons]
      refine
        (tracks.resume (fun _ => known)
          fun _ _ isExcused => isExcused.elim).mono ?_
      intro resumed resumedTracks
      apply resumedTracks.reaim
      · intro other member
        rcases List.mem_cons.mp member with isNext | isAimed
        · simp [isNext]
        · have isNext : next = other := by
            simpa using onlyTop other isAimed
          simp [isNext]
      · exact fun _ _ _ isExcused => isExcused
  | nil =>
      have noneAimed : aimed = [] := by
        cases aimed with
        | nil =>
            rfl
        | cons first _ =>
            exact absurd (onlyTop first List.mem_cons_self).symm
              (Option.some_ne_none first)
      subst noneAimed
      obtain ⟨others, allTasks⟩ := List.head?_eq_some_iff.mp isActive.symm
      have popped :
          (lists.setStack task []).popFront? =
            some (lists.shrinkTo task []) := by
        simp [TaskLists.popFront?, TaskLists.setStack,
          TaskLists.shrinkTo, allTasks]
      rw [List.head?_nil]
      dsimp only
      rw [popped, Option.bind_eq_bind, Option.bind_some]
      have poppedTracks := tracks.setLists (lists.shrinkTo task [])
      have isForeground :
          (lists.shrinkTo task []).getActiveTask.bind
              (lists.shrinkTo task []).getTopActivity =
            (lists.shrinkTo task []).foreground.head? := by
        unfold TaskLists.foreground
        cases (lists.shrinkTo task []).getActiveTask <;> rfl
      rw [Option.bind_eq_bind, Option.bind_some, isForeground]
      have shrunk := wellStacked.shrinkTo splits
      cases isNext : (lists.shrinkTo task []).foreground.head? with
      | none =>
          exact poppedTracks
      | some next =>
          have known : (setting.placed next).isSome = true := by
            obtain ⟨active, _, onStack⟩ :=
              TaskLists.exists_active_of_mem (List.mem_of_head? isNext)
            exact placed_of_stacked shrunk active onStack
          exact poppedTracks.resume (fun _ => known)
            fun _ _ isExcused => isExcused.elim

/-- The end of `deleteActivity`. -/
private theorem Tracks.updateHome
    (tracks :
      Tracks aims setting lists counted aimed excused manager)
    (task : Nat) :
    Spec (¬ aims.safe)
      (if some task = manager.lists.mHomeTask ∧
          (manager.lists.stackOf task).isEmpty then
        some
          (manager.setLists
            { manager.lists with
              mHomeTask := manager.lists.getActiveTask })
      else
        some manager)
      (Tracks aims setting (lists.updateHome task) counted aimed
        excused) := by
  rw [tracks.sameLists]
  unfold TaskLists.updateHome
  split
  · exact tracks.setLists _
  · exact tracks

/-- The activity is destroyed, with all that is above it. -/
private theorem Tracks.destroyDownTo
    {task activity : Nat}
    (tracks :
      Tracks aims setting lists counted lists.foreground.head?.toList
        excused manager)
    (wellStacked : lists.WellStacked setting.inTask)
    (inTask : setting.inTask activity = some task)
    (onlyThis :
      ∀ other status,
        excused other status →
        other = activity ∧ status ≠ Status.init) :
    Spec (¬ aims.safe)
      (if activity ∈ manager.lists.stackOf task then
        TaskStackManager.deleteDownTo task activity
          (manager.loopFuel task) manager
      else
        some manager)
      fun destroyed =>
        ∃ aimed,
          Tracks aims setting
              (lists.setStack task (lists.remaining task activity))
              counted aimed noExcuse destroyed ∧
            (∀ other ∈ aimed, lists.foreground.head? = some other) ∧
            (some task = lists.getActiveTask →
              ∀ other ∈ aimed,
                (lists.remaining task activity).head? = some other) := by
  rw [tracks.sameLists]
  split
  · rename_i onStack
    obtain ⟨above, splits, notAbove⟩ := TaskLists.exists_above onStack
    have isRemaining :
        lists.remaining task activity =
          TaskLists.below (lists.stackOf task) activity :=
      if_pos onStack
    have enough : above.length < manager.loopFuel task := by
      rw [loopFuel, tracks.sameLists, splits, List.length_append]
      omega
    refine
      (tracks.deleteDownTo
        (fun other status isExcused =>
          (onlyThis other status isExcused).2)
        (fun other member => placed_of_stacked wellStacked task member)
        splits notAbove enough).mono ?_
    intro destroyed destroyedTracks
    rw [isRemaining]
    refine
      ⟨lists.foreground.head?.toList.filter (· ∉ above ++ [activity]),
        ?_, ?_, ?_⟩
    · apply destroyedTracks.reaim
      · exact fun _ member => member
      · intro other status member isExcused
        rw [List.mem_filter, (onlyThis other status isExcused).1]
          at member
        simp at member
    · intro other member
      simpa using List.mem_of_mem_filter member
    · intro isActive other member
      rw [TaskLists.foreground_of_active isActive, splits,
        List.mem_filter] at member
      cases above with
      | nil =>
          simp at member
      | cons top rest =>
          simp at member
          exact absurd member.1 member.2.1
  · rename_i notOnStack
    have isRemaining :
        lists.remaining task activity = lists.stackOf task :=
      if_neg notOnStack
    rw [isRemaining, TaskLists.setStack_self]
    refine ⟨lists.foreground.head?.toList, ?_, ?_, ?_⟩
    · apply tracks.reaim
      · exact fun _ member => member
      · intro other status member isExcused
        rw [(onlyThis other status isExcused).1] at member
        have isTop : lists.foreground.head? = some activity := by
          simpa using member
        obtain ⟨active, _, onStack⟩ :=
          TaskLists.exists_active_of_mem (List.mem_of_head? isTop)
        have owned := wellStacked.owned active activity onStack
        rw [inTask] at owned
        rw [← Option.some.inj owned] at onStack
        exact notOnStack onStack
    · intro other member
      simpa using member
    · intro isActive other member
      rw [TaskLists.foreground_of_active isActive] at member
      simpa using member

/-- Of a task that is not active nothing may remain, and then it is deleted. -/
private theorem Tracks.dropEmptied
    {task : Nat}
    {stack : List Nat}
    (tracks :
      Tracks aims setting (lists.setStack task stack) counted aimed
        excused manager) :
    Spec (¬ aims.safe)
      (if (manager.lists.stackOf task).isEmpty then
        some (manager.setLists (manager.lists.deleteTask task))
      else
        some manager)
      (Tracks aims setting (lists.shrinkTo task stack) counted aimed
        excused) := by
  rw [← TaskLists.shrinkTo_other, tracks.sameLists]
  split
  · exact tracks.setLists _
  · exact tracks

/-- The home task is replaced if it has gone, and all is settled. -/
private theorem Tracks.settleDeletion
    {task activity : Nat}
    (tracks :
      Tracks aims setting
        (lists.shrinkTo task (lists.remaining task activity))
        (lists.deleteActivity task activity).foreground aimed noExcuse
        manager)
    (wellStacked : lists.WellStacked setting.inTask)
    (onlyTop :
      ∀ other ∈ aimed,
        (lists.shrinkTo task
          (lists.remaining task activity)).foreground.head? =
            some other) :
    Spec (¬ aims.safe)
      (if some task = manager.lists.mHomeTask ∧
          (manager.lists.stackOf task).isEmpty then
        some
          (manager.setLists
            { manager.lists with
              mHomeTask := manager.lists.getActiveTask })
      else
        some manager)
      fun final =>
        Settled aims setting final ∧
          final.lists = lists.deleteActivity task activity := by
  refine (tracks.updateHome task).mono ?_
  intro final finalTracks
  refine ⟨?_, finalTracks.sameLists⟩
  apply Settled.of_tracks finalTracks
  · exact wellStacked.deleteActivity task activity
  · rfl
  · intro other member
    rw [TaskLists.updateHome_foreground]
    exact onlyTop other member

/-- An activity whose task is neither listed nor held is not in front. -/
private theorem Tracks.settled_of_noTask
    {activity : Nat}
    (tracks :
      Tracks aims setting manager.lists manager.lists.foreground
        manager.lists.foreground.head?.toList excused manager)
    (wellStacked : manager.lists.WellStacked setting.inTask)
    (onlyThis :
      ∀ other status,
        excused other status →
        other = activity ∧ status ≠ Status.init)
    (noTask : setting.getTask manager.lists activity = none) :
    Settled aims setting manager := by
  refine ⟨wellStacked, tracks.reaim (fun _ member => member) ?_⟩
  intro other status member isExcused
  rw [(onlyThis other status isExcused).1] at member
  have isTop : manager.lists.foreground.head? = some activity := by
    simpa using member
  obtain ⟨active, isActive, onStack⟩ :=
    TaskLists.exists_active_of_mem (List.mem_of_head? isTop)
  have owned := wellStacked.owned active activity onStack
  have listed : active ∈ manager.lists.mAllTasks :=
    List.mem_of_head? isActive
  simp [Setting.getTask, owned, listed] at noTask

/-- The foregrounds have as many activities of each running application. -/
def Balanced
    (setting : Setting)
    (before after : TaskLists) : Prop :=
  ∀ app,
    setting.running app = true →
    setting.countIn app after.foreground =
      setting.countIn app before.foreground

/-- An activity is deleted, with all that is above it. -/
theorem deleteActivity_settled
    {activity : Nat}
    (wellStacked : manager.lists.WellStacked setting.inTask)
    (tracks :
      Tracks aims setting manager.lists manager.lists.foreground
        manager.lists.foreground.head?.toList excused manager)
    (onlyThis :
      ∀ other status,
        excused other status →
        other = activity ∧ status ≠ Status.init)
    (known : aims.safe → (setting.placed activity).isSome = true)
    (balanced :
      aims.counts →
      Balanced setting manager.lists
        (setting.deleteActivity manager.lists activity)) :
    Spec (¬ aims.safe) (manager.deleteActivity activity) fun final =>
      Settled aims setting final ∧
        final.lists = setting.deleteActivity manager.lists activity := by
  refine Spec.bind_known ?_ ?_
  · intro mustNotFail
    obtain ⟨record, isRecord⟩ :=
      tracks.exists_record (known (not_not.mp mustNotFail))
    rw [isRecord]
    rfl
  · intro record isRecord
    rw [tracks.getTask_eq isRecord]
    unfold Setting.deleteActivity at balanced ⊢
    cases found : setting.getTask manager.lists activity with
    | none =>
        exact ⟨tracks.settled_of_noTask wellStacked onlyThis found, rfl⟩
    | some task =>
        rw [found] at balanced
        dsimp only at balanced ⊢
        have inTask : setting.inTask activity = some task :=
          (Option.filter_eq_some_iff.mp found).1
        obtain ⟨above, splits⟩ :=
          TaskLists.remaining_splits manager.lists task activity
        refine
          ((tracks.recount balanced).destroyDownTo wellStacked inTask
            onlyThis).ite_bind ?_
        rintro middle ⟨aimed, middleTracks, onlyTop, onlyTopActive⟩
        by_cases isActive : some task = manager.lists.getActiveTask
        · have isActiveStill :
              some task = middle.lists.getActiveTask := by
            rw [middleTracks.sameLists]
            exact isActive
          rw [if_pos isActiveStill]
          refine
            (middleTracks.resumeNext wellStacked splits isActive
              (onlyTopActive isActive)).bind ?_
          intro next nextTracks
          apply nextTracks.settleDeletion wellStacked
          intro other member
          simpa using member
        · have notActiveStill :
              ¬ some task = middle.lists.getActiveTask := by
            rw [middleTracks.sameLists]
            exact isActive
          rw [if_neg notActiveStill]
          refine middleTracks.dropEmptied.ite_bind ?_
          intro next nextTracks
          apply nextTracks.settleDeletion wellStacked
          intro other member
          rw [TaskLists.foreground_shrinkTo_other isActive]
          exact onlyTop other member

end TaskStackManager

end ActivityManager
