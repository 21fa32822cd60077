import ActivityManager.TaskListEffects
import ActivityManager.TaskManagerRules

/-!
# The operations of the task manager

Between operations a state is `Settled`: the lists are well-formed, the
counters count the stack of the active task, and only its top is to be
resumed.  Every operation takes settled states to settled states, under the
conditions that its callers keep.
-/

namespace ActivityManager

open PartialProgram

namespace TaskStackManager

/-- What holds between operations, of the aims. -/
structure Settled
    (aims : Aims)
    (setting : Setting)
    (manager : TaskStackManager) : Prop where
  wellStacked : manager.lists.WellStacked setting.inTask
  tracks :
    Tracks aims setting manager.lists manager.lists.foreground
      manager.lists.foreground.head?.toList noExcuse manager

variable
  {aims : Aims}
  {setting : Setting}
  {lists : TaskLists}
  {counted aimed : List Nat}
  {excused : Nat → Status → Prop}
  {manager : TaskStackManager}

/-- An operation ends. -/
theorem Settled.of_tracks
    (tracks :
      Tracks aims setting lists counted aimed noExcuse manager)
    (wellStacked : lists.WellStacked setting.inTask)
    (isForeground : counted = lists.foreground)
    (isTop :
      ∀ activity ∈ aimed,
        lists.foreground.head? = some activity) :
    Settled aims setting manager := by
  have sameLists := tracks.sameLists
  subst sameLists
  subst isForeground
  refine ⟨wellStacked, tracks.reaim ?_ ?_⟩
  · intro activity member
    rw [isTop activity member]
    simp
  · intro _ _ _ isExcused
    exact isExcused

/-- Stacked activities are known. -/
theorem placed_of_stacked
    (wellStacked : lists.WellStacked setting.inTask)
    (task : Nat)
    {activity : Nat}
    (onStack : activity ∈ lists.stackOf task) :
    (setting.placed activity).isSome = true := by
  have owned := wellStacked.owned task activity onStack
  rw [Setting.inTask, Option.map_eq_some_iff] at owned
  obtain ⟨place, isPlace, _⟩ := owned
  rw [isPlace]
  rfl

/-- A settled state with an active task and its top. -/
structure InFront
    (aims : Aims)
    (setting : Setting)
    (manager : TaskStackManager)
    (active top : Nat)
    (others rest : List Nat) : Prop where
  allTasks : manager.lists.mAllTasks = active :: others
  stack : manager.lists.stackOf active = top :: rest
  wellStacked : manager.lists.WellStacked setting.inTask
  tracks :
    Tracks aims setting manager.lists (top :: rest) [top] noExcuse manager

namespace InFront

variable
  {active top : Nat}
  {others rest : List Nat}

theorem isActive
    (inFront : InFront aims setting manager active top others rest) :
    manager.lists.getActiveTask = some active := by
  simp [TaskLists.getActiveTask, inFront.allTasks]

theorem isTop
    (inFront : InFront aims setting manager active top others rest) :
    manager.lists.getTopActivity active = some top := by
  simp [TaskLists.getTopActivity, inFront.stack]

theorem isForeground
    (inFront : InFront aims setting manager active top others rest) :
    manager.lists.foreground = top :: rest := by
  rw [TaskLists.foreground_of_cons inFront.allTasks, inFront.stack]

/-- The top is paused. -/
theorem pause
    (inFront : InFront aims setting manager active top others rest) :
    Spec (¬ aims.safe)
      (manager.lifecycleTransition top Status.paused)
      (Tracks aims setting manager.lists (top :: rest) [] noExcuse) := by
  have known : (setting.placed top).isSome = true :=
    placed_of_stacked inFront.wellStacked active (by simp [inFront.stack])
  have paused := inFront.tracks.pause fun _ => known
  simpa using paused

end InFront

/-- The two kinds of settled states. -/
theorem Settled.cases
    (settled : Settled aims setting manager) :
    (manager.lists.mAllTasks = [] ∧
        Tracks aims setting manager.lists [] [] noExcuse manager) ∨
      ∃ active others top rest,
        InFront aims setting manager active top others rest := by
  have tracks := settled.tracks
  cases allTasks : manager.lists.mAllTasks with
  | nil =>
      rw [TaskLists.foreground_of_nil allTasks] at tracks
      exact Or.inl ⟨rfl, tracks⟩
  | cons active others =>
      obtain ⟨top, rest, stack⟩ :=
        settled.wellStacked.exists_top
          (show active ∈ manager.lists.mAllTasks by simp [allTasks])
      rw [TaskLists.foreground_of_cons allTasks, stack] at tracks
      exact Or.inr
        ⟨active, others, top, rest, allTasks, stack, settled.wellStacked,
          tracks⟩

namespace Tracks

/-- `pushTaskToFront`. -/
theorem pushTaskToFront
    (tracks :
      Tracks aims setting lists lists.foreground aimed excused manager)
    (wellStacked : lists.WellStacked setting.inTask)
    (task : Nat) :
    Tracks aims setting (lists.moveToFront task) (lists.stackOf task) aimed
      excused (manager.pushTaskToFront task) := by
  have sameLists := tracks.sameLists
  unfold TaskStackManager.pushTaskToFront
  dsimp only
  rw [sameLists]
  cases allTasks : lists.mAllTasks with
  | nil =>
      have noActive : lists.getActiveTask = none := by
        simp [TaskLists.getActiveTask, allTasks]
      rw [noActive, if_pos (Option.some_ne_none task)]
      rw [TaskLists.foreground_of_nil allTasks] at tracks
      dsimp only
      rw [sameLists]
      have entered :=
        (tracks.setLists (lists.moveToFront task)).enterStack task
      rw [List.append_nil] at entered
      exact entered
  | cons active others =>
      have isActive : lists.getActiveTask = some active := by
        simp [TaskLists.getActiveTask, allTasks]
      rw [TaskLists.foreground_of_cons allTasks] at tracks
      rw [isActive]
      split
      · dsimp only
        have left :
            Tracks aims setting lists [] aimed excused
              (manager.setStackForeground active false) := by
          apply exitStack
          rw [List.append_nil]
          exact tracks
        rw [left.sameLists]
        have entered :=
          (left.setLists (lists.moveToFront task)).enterStack task
        rw [List.append_nil] at entered
        exact entered
      · rename_i notOther
        have isFirst : task = active := by
          simpa using notOther
        rw [isFirst, wellStacked.moveToFront_of_active allTasks]
        exact tracks

end Tracks

/-- The end of an operation that brings a task and its top to the front. -/
theorem Tracks.bringToFront
    {task activity : Nat}
    {rest : List Nat}
    (tracks :
      Tracks aims setting lists lists.foreground aimed noExcuse manager)
    (wellStacked : lists.WellStacked setting.inTask)
    (stack : lists.stackOf task = activity :: rest)
    (onlyThis : ∀ other ∈ aimed, other = activity) :
    Settled aims setting (manager.pushTaskToFront task) := by
  apply Settled.of_tracks (tracks.pushTaskToFront wellStacked task)
  · apply wellStacked.moveToFront
    simp [stack]
  · rfl
  · intro other member
    rw [TaskLists.moveToFront_foreground, stack, onlyThis other member]
    rfl

/-! ## `switchTaskToActive` -/

/-- A listed task becomes active. -/
theorem Settled.switchTaskToActive
    {targetStack : Nat}
    (settled : Settled aims setting manager)
    (listed : targetStack ∈ manager.lists.mAllTasks)
    (intent : Intent) :
    Spec (¬ aims.safe) (manager.switchTaskToActive targetStack intent)
      (Settled aims setting) := by
  rcases settled.cases with
    ⟨noTask, _⟩ | ⟨active, others, top, rest, inFront⟩
  · rw [noTask] at listed
    exact absurd listed List.not_mem_nil
  · have wellStacked := settled.wellStacked
    obtain ⟨activity, below, stack⟩ := wellStacked.exists_top listed
    have isTarget :
        manager.lists.getTopActivity targetStack = some activity := by
      simp [TaskLists.getTopActivity, stack]
    have knownTop : (setting.placed top).isSome = true :=
      placed_of_stacked wellStacked active (by simp [inFront.stack])
    have known : (setting.placed activity).isSome = true :=
      placed_of_stacked wellStacked targetStack (by simp [stack])
    unfold TaskStackManager.switchTaskToActive
    split
    · rw [inFront.isActive, Option.bind_eq_bind, Option.bind_some,
        inFront.isTop, Option.bind_some]
      refine inFront.pause.bind ?_
      intro paused pausedTracks
      rw [pausedTracks.sameLists, isTarget]
      dsimp only
      refine
        Spec.bind_ite
          (fun _ => pausedTracks.setIntent (fun _ => known) intent)
          (fun _ => pausedTracks) ?_
      intro middle middleTracks
      refine
        (middleTracks.resume (fun _ => known)
          fun _ _ isExcused => isExcused.elim).bind ?_
      intro resumed resumedTracks
      have committed :=
        resumedTracks.commit (.waitResume activity top) fun _ => by
          simp [PendTask.activities, known, knownTop]
      rw [← inFront.isForeground] at committed
      apply committed.bringToFront wellStacked stack
      intro other member
      exact List.mem_singleton.mp member
    · exact settled

/-! ## `moveTaskToBackground` -/

/-- The lists with other tasks. -/
def behind
    (lists : TaskLists)
    (others : List Nat) : TaskLists :=
  { lists with mAllTasks := others }

/-- The active task leaves the foreground, the next one enters it. -/
theorem InFront.leaveActive
    {active top : Nat}
    {others rest : List Nat}
    (inFront : InFront aims setting manager active top others rest) :
    Spec (¬ aims.safe) (manager.leaveActive active)
      (Tracks aims setting (behind manager.lists others)
        (behind manager.lists others).foreground
        (behind manager.lists others).foreground.head?.toList
        noExcuse) := by
  have knownTop : (setting.placed top).isSome = true :=
    placed_of_stacked inFront.wellStacked active (by simp [inFront.stack])
  unfold TaskStackManager.leaveActive
  rw [inFront.isTop, Option.bind_eq_bind, Option.bind_some]
  refine inFront.pause.bind ?_
  intro paused pausedTracks
  have left :
      Tracks aims setting manager.lists [] [] noExcuse
        (paused.setStackForeground active false) := by
    apply Tracks.exitStack
    rw [List.append_nil, inFront.stack]
    exact pausedTracks
  have popped :
      (paused.setStackForeground active false).lists.popFront? =
        some (behind manager.lists others) := by
    rw [left.sameLists, TaskLists.popFront?, inFront.allTasks]
    rfl
  dsimp only
  rw [popped, Option.bind_eq_bind, Option.bind_some]
  have behindTracks := left.setLists (behind manager.lists others)
  rw [behindTracks.sameLists]
  cases others with
  | nil =>
      exact behindTracks
  | cons next later =>
      have listed : next ∈ manager.lists.mAllTasks := by
        rw [inFront.allTasks]
        simp
      obtain ⟨nextActivity, below, stack⟩ :=
        inFront.wellStacked.exists_top listed
      have known : (setting.placed nextActivity).isSome = true :=
        placed_of_stacked inFront.wellStacked next (by simp [stack])
      have isNext :
          (behind manager.lists (next :: later)).getActiveTask =
            some next := by
        rfl
      have isNextTop :
          (behind manager.lists (next :: later)).getTopActivity next =
            some nextActivity := by
        simp [TaskLists.getTopActivity, behind, stack]
      have isForeground :
          (behind manager.lists (next :: later)).foreground =
            manager.lists.stackOf next := by
        rfl
      rw [isNext]
      dsimp only
      rw [isNextTop]
      dsimp only
      refine
        (behindTracks.resume (fun _ => known)
          fun _ _ isExcused => isExcused.elim).bind ?_
      intro resumed resumedTracks
      have committed :=
        resumedTracks.commit (.waitResume nextActivity top) fun _ => by
          simp [PendTask.activities, known, knownTop]
      have entered := committed.enterStack next
      rw [isForeground, stack]
      simpa [behind, stack] using entered

/-- The loop of `moveTaskToBackground`, which leaves the active task alone. -/
private theorem Tracks.behindHome
    {start middle : TaskStackManager}
    {tasks : List Nat}
    {targetStack : Nat}
    {isActive : Bool}
    (tracks :
      Tracks aims setting (behind start.lists tasks)
        (behind start.lists tasks).foreground
        (behind start.lists tasks).foreground.head?.toList noExcuse
        middle)
    (wellStacked : start.lists.WellStacked setting.inTask)
    (distinct : tasks.Nodup)
    (listed : ∀ task ∈ tasks, task ∈ start.lists.mAllTasks)
    (notFirst : tasks.head? ≠ some targetStack)
    (popped :
      isActive = true →
      targetStack ∉ tasks ∧ targetStack ∈ start.lists.mAllTasks) :
    Settled aims setting
      (middle.setLists
        { middle.lists with
          mAllTasks :=
            (TaskLists.behindHome middle.lists.mHomeTask targetStack
              isActive middle.lists.mAllTasks).1 }) := by
  rw [tracks.sameLists]
  have sameForeground :
      (behind start.lists
          (TaskLists.behindHome start.lists.mHomeTask targetStack
            isActive tasks).1).foreground =
        (behind start.lists tasks).foreground := by
    apply TaskLists.foreground_congr
    · exact TaskLists.behindHome_head? notFirst
    · exact fun _ _ => rfl
  apply Settled.of_tracks (tracks.setLists _)
  · apply wellStacked.relist
    · apply TaskLists.behindHome_nodup distinct
      exact fun early => (popped early).1
    · intro task member
      rcases TaskLists.behindHome_mem member with
        isOther | ⟨isTarget, early | isListed⟩
      · exact listed task isOther
      · rw [isTarget]
        exact (popped early).2
      · rw [isTarget]
        exact listed targetStack isListed
  · exact sameForeground.symm
  · intro activity member
    refine (congrArg List.head? sameForeground).trans ?_
    simpa using member

/-- A task moves behind the home task. -/
theorem Settled.moveTaskToBackground
    (settled : Settled aims setting manager)
    (targetStack : Nat) :
    Spec (¬ aims.safe) (manager.moveTaskToBackground targetStack)
      fun result => Settled aims setting result.1 := by
  have wellStacked := settled.wellStacked
  unfold TaskStackManager.moveTaskToBackground
  split
  · exact settled
  · dsimp only
    by_cases isActive :
        some targetStack = manager.lists.getActiveTask
    · rcases settled.cases with
        ⟨noTask, _⟩ | ⟨active, others, top, rest, inFront⟩
      · rw [TaskLists.getActiveTask, noTask] at isActive
        exact absurd isActive (Option.some_ne_none targetStack)
      · have isTarget : targetStack = active := by
          rw [inFront.isActive] at isActive
          exact Option.some.inj isActive
        subst isTarget
        have distinct := wellStacked.distinctTasks
        rw [inFront.allTasks, List.nodup_cons] at distinct
        rw [if_pos (decide_eq_true isActive)]
        refine inFront.leaveActive.bind ?_
        intro middle tracks
        apply tracks.behindHome wellStacked distinct.2
        · intro task member
          rw [inFront.allTasks]
          exact List.mem_cons_of_mem targetStack member
        · intro isFirst
          exact distinct.1 (List.mem_of_head? isFirst)
        · intro _
          rw [inFront.allTasks]
          exact ⟨distinct.1, List.mem_cons_self⟩
    · rw [if_neg (by simpa using isActive)]
      have tracks :
          Tracks aims setting
            (behind manager.lists manager.lists.mAllTasks)
            (behind manager.lists manager.lists.mAllTasks).foreground
            (behind manager.lists
              manager.lists.mAllTasks).foreground.head?.toList
            noExcuse manager :=
        settled.tracks
      apply tracks.behindHome wellStacked wellStacked.distinctTasks
      · exact fun _ member => member
      · exact fun isFirst => isActive isFirst.symm
      · intro early
        exact absurd (of_decide_eq_true early) isActive

/-! ## The loops that destroy activities -/

/-- Without an activity in two steps. -/
theorem filter_cons_notMem
    (activity : Nat)
    (above aimed : List Nat) :
    (aimed.filter (· != activity)).filter (· ∉ above) =
      aimed.filter (· ∉ activity :: above) := by
  rw [List.filter_filter]
  apply List.filter_congr
  intro other _
  by_cases isActivity : other = activity
  · simp [isActivity]
  · simp [isActivity]

/--
The loop destroys the activities above one; those of the active task leave
the foreground.
-/
theorem Tracks.clearAbove
    {targetStack fuel : Nat}
    {activity : Option Nat}
    {isActive : Bool}
    {above kept below : List Nat}
    (tracks :
      Tracks aims setting lists
        (if isActive then above ++ kept else kept) aimed noExcuse manager)
    (known :
      ∀ other ∈ above, (setting.placed other).isSome = true)
    (stack : lists.stackOf targetStack = above ++ below)
    (stops : below = [] ∨ below.head? = activity)
    (goesOn : ∀ other ∈ above, some other ≠ activity)
    (enough : above.length < fuel) :
    Spec (¬ aims.safe)
      (TaskStackManager.clearAbove targetStack activity isActive fuel
        manager)
      (Tracks aims setting (lists.setStack targetStack below) kept
        (aimed.filter (· ∉ above)) noExcuse) := by
  induction above generalizing fuel manager lists aimed with
  | nil =>
      obtain ⟨fuel, rfl⟩ :=
        Nat.exists_eq_add_one_of_ne_zero (Nat.ne_zero_of_lt enough)
      rw [List.nil_append] at stack
      have sameLists : lists.setStack targetStack below = lists := by
        rw [← stack, TaskLists.setStack_self]
      have ends :
          Tracks aims setting (lists.setStack targetStack below) kept
            (aimed.filter (· ∉ [])) noExcuse manager := by
        rw [sameLists]
        simpa using tracks
      unfold TaskStackManager.clearAbove
      rw [tracks.sameLists, TaskLists.getTopActivity, stack]
      cases below with
      | nil =>
          exact ends
      | cons top rest =>
          rcases stops with isNil | isActivity
          · exact absurd isNil (List.cons_ne_nil top rest)
          · rw [List.head?_cons] at isActivity ⊢
            dsimp only
            rw [if_pos isActivity]
            exact ends
  | cons top above inductionHypothesis =>
      obtain ⟨fuel, rfl⟩ :=
        Nat.exists_eq_add_one_of_ne_zero (Nat.ne_zero_of_lt enough)
      have isTop :
          lists.getTopActivity targetStack = some top := by
        simp [TaskLists.getTopActivity, stack]
      have popped :
          lists.popActivity? targetStack =
            some (lists.setStack targetStack (above ++ below)) := by
        simp [TaskLists.popActivity?, stack]
      have knownTop := known top List.mem_cons_self
      unfold TaskStackManager.clearAbove
      rw [tracks.sameLists, isTop]
      dsimp only
      rw [if_neg (goesOn top List.mem_cons_self)]
      refine
        (tracks.destroy (fun _ => knownTop)
          fun _ isExcused => isExcused.elim).bind ?_
      intro destroyed destroyedTracks
      rw [destroyedTracks.sameLists, popped, Option.bind_eq_bind,
        Option.bind_some]
      have later :
          ∀ next,
            Tracks aims setting
              (lists.setStack targetStack (above ++ below))
              (if isActive then above ++ kept else kept)
              (aimed.filter (· != top)) noExcuse next →
            Spec (¬ aims.safe)
              (TaskStackManager.clearAbove targetStack activity isActive
                fuel next)
              (Tracks aims setting (lists.setStack targetStack below)
                kept (aimed.filter (· ∉ top :: above)) noExcuse) := by
        intro next nextTracks
        rw [← filter_cons_notMem]
        have rest :=
          inductionHypothesis nextTracks
            (fun other member =>
              known other (List.mem_cons_of_mem top member))
            (by simp)
            (fun other member =>
              goesOn other (List.mem_cons_of_mem top member))
            (Nat.lt_of_succ_lt_succ enough)
        simpa using rest
      have poppedTracks :=
        destroyedTracks.setLists
          (lists.setStack targetStack (above ++ below))
      cases isActive with
      | true =>
          exact (poppedTracks.exit fun _ => knownTop).bind later
      | false =>
          exact later _ poppedTracks

/-- The loop keeps the counters at the stack of the active task. -/
theorem Tracks.clearForeground
    {targetStack fuel : Nat}
    {activity : Option Nat}
    {above below : List Nat}
    (tracks :
      Tracks aims setting lists lists.foreground aimed noExcuse manager)
    (known :
      ∀ other ∈ above, (setting.placed other).isSome = true)
    (stack : lists.stackOf targetStack = above ++ below)
    (stops : below = [] ∨ below.head? = activity)
    (goesOn : ∀ other ∈ above, some other ≠ activity)
    (enough : (lists.stackOf targetStack).length < fuel) :
    Spec (¬ aims.safe)
      (TaskStackManager.clearAbove targetStack activity
        (some targetStack = lists.getActiveTask) fuel manager)
      (Tracks aims setting (lists.setStack targetStack below)
        (lists.setStack targetStack below).foreground
        (aimed.filter (· ∉ above)) noExcuse) := by
  have enoughAbove : above.length < fuel := by
    rw [stack, List.length_append] at enough
    omega
  by_cases isActive : some targetStack = lists.getActiveTask
  · have isForeground : lists.foreground = above ++ below := by
      rw [TaskLists.foreground_of_active isActive, stack]
    rw [isForeground] at tracks
    rw [TaskLists.foreground_setStack_active isActive,
      decide_eq_true isActive]
    exact Tracks.clearAbove tracks known stack stops goesOn enoughAbove
  · rw [TaskLists.foreground_setStack_other isActive,
      decide_eq_false isActive]
    exact Tracks.clearAbove tracks known stack stops goesOn enoughAbove

/-! ## `pushNewActivity` -/

/-- The stack of the active task is in the foreground as before. -/
private theorem foundHome_foreground
    (lists : TaskLists)
    (targetStack : Nat) :
    (lists.foundHome targetStack).foreground = lists.foreground := by
  apply TaskLists.foreground_congr
  · exact congrArg List.head? (lists.foundHome_mAllTasks targetStack)
  · intro active _
    rw [TaskLists.foundHome_stackOf]

private theorem foundHome_wellStacked
    (wellStacked : lists.WellStacked setting.inTask)
    (targetStack : Nat) :
    (lists.foundHome targetStack).WellStacked setting.inTask := by
  have relisted :=
    wellStacked.relist (lists.foundHome targetStack).mHomeTask
      wellStacked.distinctTasks fun _ member => member
  rw [← lists.foundHome_mAllTasks targetStack,
    ← lists.foundHome_stackOf targetStack] at relisted
  exact relisted

/-- The top of the active task pauses, if there is one. -/
private theorem Settled.pauseActive
    (settled : Settled aims setting manager)
    (targetStack : Nat) :
    Spec (¬ aims.safe) (manager.pauseActive targetStack) fun result =>
      Tracks aims setting (manager.lists.foundHome targetStack)
          (manager.lists.foundHome targetStack).foreground [] noExcuse
          result.1 ∧
        ∀ lastTop,
          result.2 = some lastTop →
          (setting.placed lastTop).isSome = true := by
  rw [foundHome_foreground]
  unfold TaskStackManager.pauseActive TaskLists.foundHome
  rcases settled.cases with
    ⟨noTask, tracks⟩ | ⟨active, others, top, rest, inFront⟩
  · have noActive : manager.lists.getActiveTask = none := by
      simp [TaskLists.getActiveTask, noTask]
    rw [noActive, TaskLists.foreground_of_nil noTask]
    refine ⟨tracks.setLists _, ?_⟩
    intro lastTop isLast
    exact absurd isLast.symm (Option.some_ne_none lastTop)
  · rw [inFront.isActive, inFront.isForeground]
    dsimp only
    rw [inFront.isTop, Option.bind_eq_bind, Option.bind_some]
    refine inFront.pause.bind ?_
    intro paused pausedTracks
    refine ⟨pausedTracks, ?_⟩
    intro lastTop isLast
    rw [← Option.some.inj isLast]
    exact placed_of_stacked settled.wellStacked active
      (by simp [inFront.stack])

/-- The end of `pushNewActivity`. -/
private theorem Tracks.resumeInFront
    {targetStack activity : Nat}
    {rest : List Nat}
    {lastTopActivity : Option Nat}
    (tracks :
      Tracks aims setting lists lists.foreground [] noExcuse manager)
    (wellStacked : lists.WellStacked setting.inTask)
    (stack : lists.stackOf targetStack = activity :: rest)
    (known : (setting.placed activity).isSome = true)
    (knownLast :
      ∀ lastTop,
        lastTopActivity = some lastTop →
        (setting.placed lastTop).isSome = true) :
    Spec (¬ aims.safe)
      (do
        let manager ← manager.lifecycleTransition activity Status.resumed
        some
          ((match lastTopActivity with
            | some lastTop =>
                manager.commit (.waitResume activity lastTop)
            | none =>
                manager).pushTaskToFront targetStack))
      (Settled aims setting) := by
  refine
    (tracks.resume (fun _ => known)
      fun _ _ isExcused => isExcused.elim).bind ?_
  intro resumed resumedTracks
  have onlyThis : ∀ other ∈ [activity], other = activity :=
    fun other member => List.mem_singleton.mp member
  cases lastTopActivity with
  | none =>
      exact resumedTracks.bringToFront wellStacked stack onlyThis
  | some lastTop =>
      have committed :=
        resumedTracks.commit (.waitResume activity lastTop) fun _ => by
          simp [PendTask.activities, known, knownLast lastTop rfl]
      exact committed.bringToFront wellStacked stack onlyThis

/-- A new activity becomes the top of the active task. -/
theorem Settled.pushNewActivity
    {targetStack activity : Nat}
    (settled : Settled aims setting manager)
    (inTask : setting.inTask activity = some targetStack)
    (isNew : activity ∉ manager.lists.stackOf targetStack)
    (startFlag : Nat) :
    Spec (¬ aims.safe)
      (manager.pushNewActivity targetStack activity startFlag)
      (Settled aims setting) := by
  have wellStacked := settled.wellStacked
  have known : (setting.placed activity).isSome = true := by
    rw [Setting.inTask, Option.map_eq_some_iff] at inTask
    obtain ⟨place, isPlace, _⟩ := inTask
    rw [isPlace]
    rfl
  let foundedLists := manager.lists.foundHome targetStack
  let stack : List Nat :=
    if startFlag &&& flagActivityClearTask ≠ 0 then []
    else manager.lists.stackOf targetStack
  have stackOf : ∀ other ∈ stack, other ∈ manager.lists.stackOf targetStack := by
    intro other member
    dsimp only [stack] at member
    split at member
    · exact absurd member List.not_mem_nil
    · exact member
  have pushedStacked :
      (foundedLists.setStack targetStack
        (activity :: stack)).WellStacked setting.inTask := by
    apply (foundHome_wellStacked wellStacked targetStack).setStack
    · exact List.cons_ne_nil activity stack
    · rw [List.nodup_cons]
      refine ⟨fun member => isNew (stackOf activity member), ?_⟩
      dsimp only [stack]
      split
      · exact List.nodup_nil
      · exact wellStacked.distinct targetStack
    · intro other member
      rcases List.mem_cons.mp member with isActivity | onStack
      · rw [isActivity]
        exact inTask
      · exact wellStacked.owned targetStack other (stackOf other onStack)
  unfold TaskStackManager.pushNewActivity
  dsimp only
  refine (settled.pauseActive targetStack).bind ?_
  rintro ⟨paused, lastTopActivity⟩ ⟨pausedTracks, knownLast⟩
  dsimp only at pausedTracks knownLast ⊢
  have isStack :
      foundedLists.stackOf targetStack =
        manager.lists.stackOf targetStack := by
    rw [TaskLists.foundHome_stackOf]
  have sameActive :
      foundedLists.getActiveTask = manager.lists.getActiveTask :=
    congrArg List.head? (manager.lists.foundHome_mAllTasks targetStack)
  have cleared :
      startFlag &&& flagActivityClearTask ≠ 0 →
      Spec (¬ aims.safe)
        (TaskStackManager.clearAbove targetStack none
          (some targetStack = manager.lists.getActiveTask)
          (paused.loopFuel targetStack) paused)
        (Tracks aims setting (foundedLists.setStack targetStack stack)
          (foundedLists.setStack targetStack stack).foreground []
          noExcuse) := by
    intro clears
    have isNil : stack = [] := if_pos clears
    rw [isNil, ← sameActive]
    apply pausedTracks.clearForeground
    · exact fun _ member =>
        placed_of_stacked wellStacked targetStack member
    · rw [TaskLists.foundHome_stackOf, List.append_nil]
    · exact Or.inl rfl
    · exact fun other _ => Option.some_ne_none other
    · rw [loopFuel, pausedTracks.sameLists]
      exact Nat.lt_succ_self _
  have kept :
      ¬ startFlag &&& flagActivityClearTask ≠ 0 →
      Spec (¬ aims.safe) (some paused)
        (Tracks aims setting (foundedLists.setStack targetStack stack)
          (foundedLists.setStack targetStack stack).foreground []
          noExcuse) := by
    intro keeps
    have sameStack : stack = foundedLists.stackOf targetStack :=
      (if_neg keeps).trans isStack.symm
    rw [sameStack, TaskLists.setStack_self]
    exact pausedTracks
  refine Spec.bind_ite cleared kept ?_
  intro middle middleTracks
  rw [middleTracks.sameLists, TaskLists.pushActivity,
    TaskLists.setStack_stacks, TaskLists.setStack_setStack]
  have pushed :=
    middleTracks.setLists
      (foundedLists.setStack targetStack (activity :: stack))
  refine
    Spec.bind_ite
      (fun isActive => ?_)
      (fun notActive => ?_)
      fun next nextTracks =>
        Tracks.resumeInFront nextTracks pushedStacked
          (TaskLists.setStack_stacks _ _ _) known knownLast
  · have isActive :=
      (of_decide_eq_true isActive).trans sameActive.symm
    rw [TaskLists.foreground_setStack_active isActive] at pushed ⊢
    exact pushed.enter fun _ => known
  · have notActive : some targetStack ≠ foundedLists.getActiveTask := by
      rw [sameActive]
      simpa using notActive
    rw [TaskLists.foreground_setStack_other notActive] at pushed ⊢
    exact pushed

/-! ## `turnToActivity` -/

/-- The top of the active task is asked for again. -/
private theorem InFront.turnToTop
    {active top : Nat}
    {others rest : List Nat}
    (inFront : InFront aims setting manager active top others rest)
    (intent : Intent) :
    Spec (¬ aims.safe)
      (do
        let manager ← manager.setIntent top intent
        let manager ← manager.setStatus top Status.paused
        manager.lifecycleTransition top Status.resumed)
      (Settled aims setting) := by
  have known : (setting.placed top).isSome = true :=
    placed_of_stacked inFront.wellStacked active (by simp [inFront.stack])
  refine (inFront.tracks.setIntent (fun _ => known) intent).bind ?_
  intro asked askedTracks
  obtain ⟨record, isRecord⟩ := askedTracks.exists_record known
  have pausedTracks :
      Tracks aims setting manager.lists (top :: rest) [top]
        (fun other _ => other = top)
        (asked.setRecord top (record.setStatus Status.paused)) := by
    apply askedTracks.setRecord isRecord
    · exact ⟨rfl, rfl⟩
    · intro isAim
      have legal := (askedTracks.ready isAim).legal top record isRecord
      exact
        ⟨show 0 ≤ Status.paused ∧ Status.paused ≤ 12 by decide,
          legal.target⟩
    · intro _
      refine ⟨show 0 ≤ Status.paused by decide, ?_⟩
      intro _ _
      exact ⟨List.mem_singleton.mpr rfl, Or.inr (Or.inr rfl)⟩
    · intro _ other found _ isAimed
      apply isAimed.mono
      · exact fun member => member
      · exact fun _ isExcused => isExcused.elim
  have isPaused :
      asked.setStatus top Status.paused =
        some (asked.setRecord top (record.setStatus Status.paused)) := by
    rw [TaskStackManager.setStatus, isRecord]
    rfl
  rw [isPaused, Option.bind_eq_bind, Option.bind_some]
  refine
    (pausedTracks.resume (fun _ => known)
      fun _ _ isTop => isTop).mono ?_
  intro resumed resumedTracks
  apply Settled.of_tracks resumedTracks inFront.wellStacked
    inFront.isForeground.symm
  intro other member
  have isOther : other = top := by
    simpa using member
  rw [inFront.isForeground, isOther]
  rfl

/-- An activity of a listed task becomes the top of the active task. -/
theorem Settled.turnToActivity
    {targetStack activity startFlag : Nat}
    (settled : Settled aims setting manager)
    (listed : targetStack ∈ manager.lists.mAllTasks)
    (onStack : activity ∈ manager.lists.stackOf targetStack)
    (clearsOrTop :
      startFlag &&& flagActivityClearTop ≠ 0 ∨
        manager.lists.getTopActivity targetStack = some activity)
    (intent : Intent) :
    Spec (¬ aims.safe)
      (manager.turnToActivity targetStack activity intent startFlag)
      (Settled aims setting) := by
  rcases settled.cases with
    ⟨noTask, _⟩ | ⟨active, others, top, rest, inFront⟩
  · rw [noTask] at listed
    exact absurd listed List.not_mem_nil
  · have wellStacked := settled.wellStacked
    have known : (setting.placed activity).isSome = true :=
      placed_of_stacked wellStacked targetStack onStack
    have knownTop : (setting.placed top).isSome = true :=
      placed_of_stacked wellStacked active (by simp [inFront.stack])
    unfold TaskStackManager.turnToActivity
    dsimp only
    rw [inFront.isActive, Option.bind_some, inFront.isTop]
    split
    · rename_i isTop
      rw [← Option.some.inj isTop]
      exact inFront.turnToTop intent
    · refine inFront.pause.bind ?_
      intro paused pausedTracks
      rw [← inFront.isForeground] at pausedTracks
      let below := TaskLists.below (manager.lists.stackOf targetStack) activity
      obtain ⟨above, splits, notAbove⟩ := TaskLists.exists_above onStack
      have stackNodup := wellStacked.distinct targetStack
      rw [splits] at stackNodup
      have cleared :
          startFlag &&& flagActivityClearTop ≠ 0 →
          Spec (¬ aims.safe)
            (TaskStackManager.clearAbove targetStack (some activity)
              (some targetStack = some active)
              (paused.loopFuel targetStack) paused)
            (Tracks aims setting
              (manager.lists.setStack targetStack (activity :: below))
              (manager.lists.setStack targetStack
                (activity :: below)).foreground
              [] noExcuse) := by
        intro _
        rw [← inFront.isActive]
        apply pausedTracks.clearForeground
        · intro other member
          apply placed_of_stacked wellStacked targetStack
          rw [splits]
          exact List.mem_append_left _ member
        · exact splits
        · exact Or.inr rfl
        · intro other member same
          rw [Option.some.inj same] at member
          exact notAbove member
        · rw [loopFuel, pausedTracks.sameLists]
          exact Nat.lt_succ_self _
      have kept :
          ¬ startFlag &&& flagActivityClearTop ≠ 0 →
          Spec (¬ aims.safe) (some paused)
            (Tracks aims setting
              (manager.lists.setStack targetStack (activity :: below))
              (manager.lists.setStack targetStack
                (activity :: below)).foreground
              [] noExcuse) := by
        intro keeps
        have isTop := clearsOrTop.resolve_left keeps
        have sameStack :
            activity :: below = manager.lists.stackOf targetStack := by
          rw [TaskLists.getTopActivity, List.head?_eq_some_iff] at isTop
          obtain ⟨tail, isStack⟩ := isTop
          simp [below, TaskLists.below, isStack]
        rw [sameStack, TaskLists.setStack_self]
        exact pausedTracks
      refine Spec.bind_ite cleared kept ?_
      intro middle middleTracks
      refine (middleTracks.setIntent (fun _ => known) intent).bind ?_
      intro asked askedTracks
      refine
        (askedTracks.resume (fun _ => known)
          fun _ _ isExcused => isExcused.elim).bind ?_
      intro resumed resumedTracks
      have clearedStacked :
          (manager.lists.setStack targetStack
            (activity :: below)).WellStacked setting.inTask := by
        apply wellStacked.setStack
        · exact List.cons_ne_nil activity below
        · exact (List.nodup_append.mp stackNodup).2.1
        · intro other member
          apply wellStacked.owned targetStack
          rw [splits]
          exact List.mem_append_right _ member
      have onlyThis : ∀ other ∈ [activity], other = activity :=
        fun other member => List.mem_singleton.mp member
      have committed :=
        resumedTracks.commit (.waitResume activity top) fun _ => by
          simp [PendTask.activities, known, knownTop]
      dsimp only
      split
      · exact committed.bringToFront clearedStacked
          (TaskLists.setStack_stacks _ _ _) onlyThis
      · exact resumedTracks.bringToFront clearedStacked
          (TaskLists.setStack_stacks _ _ _) onlyThis

end TaskStackManager

end ActivityManager
