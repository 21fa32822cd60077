import ActivityManager.CrashCleanup
import ActivityManager.LifecycleLockstep

/-!
# Tasks that move to the background

`moveTaskToBackground` takes an active task out of the list before its loop
starts, and the loop erases and inserts in the list that it goes through.
What comes out is a reordering: the task is behind the home task, and every
other task is where it was.  The requests that it issues are those of the two
tops that change places.
-/

namespace ActivityManager

open PartialProgram
open StepSystem (run?)

namespace TaskLists

variable
  {home target : Nat}
  {front middle back : List Nat}

/-! ## The loop -/

/-- The loop leaves what it passes. -/
theorem behindHome_append
    (isBefore : Bool)
    (noTarget : target ∉ front)
    (noHome : home ∉ front)
    (rest : List Nat) :
    behindHome (some home) target isBefore (front ++ rest) =
      (front ++ (behindHome (some home) target isBefore rest).1,
        (behindHome (some home) target isBefore rest).2) := by
  induction front with
  | nil =>
      rfl
  | cons first later inductionHypothesis =>
      rw [List.mem_cons, not_or] at noTarget noHome
      have notHome : ¬ some first = some home :=
        fun same => noHome.1 (Option.some.inj same).symm
      rw [List.cons_append, behindHome, if_neg (Ne.symm noTarget.1),
        if_neg notHome, inductionHypothesis noTarget.2 noHome.2]
      rfl

/-- The loop ends at the home task. -/
theorem behindHome_home
    (isBefore : Bool)
    (isOther : home ≠ target) :
    behindHome (some home) target isBefore (home :: back) =
      (if isBefore then home :: target :: back else home :: back,
        true) := by
  rw [behindHome, if_neg isOther, if_pos rfl]

/-- A task that is taken out in front of the home task comes behind it. -/
theorem behindHome_taken
    (isBefore : Bool)
    (distinct : (front ++ target :: (middle ++ home :: back)).Nodup) :
    behindHome (some home) target isBefore
        (front ++ target :: (middle ++ home :: back)) =
      (front ++ (middle ++ home :: target :: back), true) := by
  have isOther : home ≠ target := by
    intro same
    subst same
    simp [List.nodup_append] at distinct
  have noTarget : target ∉ front ∧ target ∉ middle := by
    simp only [List.nodup_append, List.nodup_cons, List.mem_append,
      List.mem_cons, not_or] at distinct
    refine ⟨fun member => ?_, distinct.2.1.1.1⟩
    exact distinct.2.2 target member target (Or.inl rfl) rfl
  have noHome : home ∉ front ∧ home ∉ middle := by
    simp only [List.nodup_append, List.nodup_cons, List.mem_append,
      List.mem_cons, not_or] at distinct
    refine ⟨fun member => ?_, fun member => ?_⟩
    · exact distinct.2.2 home member home (by simp) rfl
    · exact distinct.2.1.2.2.2 home member home (Or.inl rfl) rfl
  rw [behindHome_append isBefore noTarget.1 noHome.1, behindHome,
    if_pos rfl, behindHome_append true noTarget.2 noHome.2,
    behindHome_home true isOther]
  rfl

/-- A task that has been popped comes behind the home task. -/
theorem behindHome_popped
    (distinct : (target :: (middle ++ home :: back)).Nodup) :
    behindHome (some home) target true (middle ++ home :: back) =
      (middle ++ home :: target :: back, true) := by
  have taken :
      behindHome (some home) target true
          ([] ++ target :: (middle ++ home :: back)) =
        ([] ++ (middle ++ home :: target :: back), true) :=
    behindHome_taken true distinct
  rw [List.nil_append, behindHome, if_pos rfl, List.nil_append] at taken
  exact taken

/-- A task behind the home task stays where it is. -/
theorem behindHome_behind
    (distinct : (front ++ home :: (middle ++ target :: back)).Nodup) :
    behindHome (some home) target false
        (front ++ home :: (middle ++ target :: back)) =
      (front ++ home :: (middle ++ target :: back), true) := by
  have isOther : home ≠ target := by
    intro same
    subst same
    simp [List.nodup_append] at distinct
  simp only [List.nodup_append, List.nodup_cons, List.mem_append,
    List.mem_cons, not_or] at distinct
  have noTarget : target ∉ front :=
    fun member => distinct.2.2 target member target (by simp) rfl
  have noHome : home ∉ front :=
    fun member => distinct.2.2 home member home (Or.inl rfl) rfl
  rw [behindHome_append false noTarget noHome,
    behindHome_home false isOther]
  rfl

/-! ## The order of the tasks -/

/--
A task is directly behind the home task if it was in front of it, and
everything else is where it was.
-/
structure MovedBehind
    (home target : Nat)
    (before after : List Nat) : Prop where
  fromFront :
    ∀ front middle back,
      before = front ++ target :: (middle ++ home :: back) →
      after = front ++ (middle ++ home :: target :: back)
  fromBehind :
    ∀ front middle back,
      before = front ++ home :: (middle ++ target :: back) →
      after = before

/-- Two tasks of a list stand in one of two orders. -/
theorem exists_order
    {tasks : List Nat}
    (homeListed : home ∈ tasks)
    (targetListed : target ∈ tasks)
    (isOther : target ≠ home) :
    (∃ front middle back,
      tasks = front ++ target :: (middle ++ home :: back)) ∨
      ∃ front middle back,
        tasks = front ++ home :: (middle ++ target :: back) := by
  obtain ⟨front, later, rfl⟩ := List.append_of_mem targetListed
  rcases List.mem_append.mp homeListed with isBefore | isLater
  · obtain ⟨first, middle, rfl⟩ := List.append_of_mem isBefore
    exact Or.inr ⟨first, middle, later, by simp⟩
  · rcases List.mem_cons.mp isLater with same | isBehind
    · exact absurd same.symm isOther
    · obtain ⟨middle, back, rfl⟩ := List.append_of_mem isBehind
      exact Or.inl ⟨front, middle, back, rfl⟩

/-- An element splits a list without duplicates in one way. -/
theorem split_unique
    {tasks first second others rest : List Nat}
    {task : Nat}
    (distinct : tasks.Nodup)
    (former : tasks = first ++ task :: others)
    (latter : tasks = second ++ task :: rest) :
    first = second ∧ others = rest := by
  subst former
  have once := distinct
  simp only [List.nodup_append, List.nodup_cons, List.mem_cons] at once
  have notFirst : task ∉ first :=
    fun member => once.2.2 task member task (Or.inl rfl) rfl
  obtain ⟨sameFront, _, sameBack⟩ :=
    (List.append_cons_inj_of_notMem notFirst once.2.1.1).mp latter
  exact ⟨sameFront, sameBack⟩

/-- The order where a task was in front of the home task. -/
theorem MovedBehind.of_front
    (distinct : (front ++ target :: (middle ++ home :: back)).Nodup) :
    MovedBehind home target (front ++ target :: (middle ++ home :: back))
      (front ++ (middle ++ home :: target :: back)) where
  fromFront first between last isSplit := by
    obtain ⟨sameFront, sameRest⟩ := split_unique distinct rfl isSplit
    have later : (middle ++ home :: back).Nodup := by
      simp only [List.nodup_append, List.nodup_cons] at distinct ⊢
      exact distinct.2.1.2
    obtain ⟨sameMiddle, sameBack⟩ := split_unique later rfl sameRest
    rw [sameFront, sameMiddle, sameBack]
  fromBehind first between last isSplit := by
    have isSplitLater :
        front ++ target :: (middle ++ home :: back) =
          (first ++ home :: between) ++ target :: last := by
      rw [isSplit]
      simp
    obtain ⟨sameFront, _⟩ := split_unique distinct rfl isSplitLater
    rw [sameFront] at distinct
    simp [List.nodup_append] at distinct

/-- The order where a task was behind the home task. -/
theorem MovedBehind.of_behind
    (distinct : (front ++ home :: (middle ++ target :: back)).Nodup) :
    MovedBehind home target (front ++ home :: (middle ++ target :: back))
      (front ++ home :: (middle ++ target :: back)) where
  fromFront first between last isSplit := by
    have isSplitLater :
        front ++ home :: (middle ++ target :: back) =
          (first ++ target :: between) ++ home :: last := by
      rw [isSplit]
      simp
    obtain ⟨sameFront, _⟩ := split_unique distinct rfl isSplitLater
    rw [sameFront] at distinct
    simp [List.nodup_append] at distinct
  fromBehind _ _ _ _ := rfl

/-- The loop over the whole list. -/
theorem behindHome_movedBehind
    {tasks : List Nat}
    (distinct : tasks.Nodup)
    (homeListed : home ∈ tasks)
    (targetListed : target ∈ tasks)
    (isOther : target ≠ home) :
    (behindHome (some home) target false tasks).2 = true ∧
      MovedBehind home target tasks
        (behindHome (some home) target false tasks).1 := by
  rcases exists_order homeListed targetListed isOther with
    ⟨front, middle, back, rfl⟩ | ⟨front, middle, back, rfl⟩
  · rw [behindHome_taken false distinct]
    exact ⟨rfl, .of_front distinct⟩
  · rw [behindHome_behind distinct]
    exact ⟨rfl, .of_behind distinct⟩

end TaskLists

namespace TaskStackManager

variable
  {manager middle next : TaskStackManager}
  {requests : List (Nat × Status)}

/-! ## The requests of an operation -/

/-- What happens between two requests: no activity changes or is told. -/
structure NoRequest (manager next : TaskStackManager) : Prop where
  activities : next.activities = manager.activities
  noCommand :
    next.calls.filter Call.isCommand = manager.calls.filter Call.isCommand

/-- An operation that issues these requests, and no other, ends here. -/
inductive Requested :
    TaskStackManager → List (Nat × Status) → TaskStackManager → Prop where
  | done {manager next : TaskStackManager}
      (noRequest : NoRequest manager next) :
      Requested manager [] next
  | ask {manager before after next : TaskStackManager}
      {activity : Nat}
      {toStatus : Status}
      {requests : List (Nat × Status)}
      (noRequest : NoRequest manager before)
      (isAsked : before.lifecycleTransition activity toStatus = some after)
      (later : Requested after requests next) :
      Requested manager ((activity, toStatus) :: requests) next

/-- One of the requests cannot be answered, and those before it were. -/
def Refused
    (manager : TaskStackManager)
    (requests : List (Nat × Status)) : Prop :=
  ∃ asked activity toStatus unasked middle,
    requests = asked ++ (activity, toStatus) :: unasked ∧
      Requested manager asked middle ∧
      middle.lifecycleTransition activity toStatus = none

theorem NoRequest.refl (manager : TaskStackManager) :
    NoRequest manager manager where
  activities := rfl
  noCommand := rfl

theorem NoRequest.trans
    (former : NoRequest manager middle)
    (latter : NoRequest middle next) :
    NoRequest manager next where
  activities := latter.activities.trans former.activities
  noCommand := latter.noCommand.trans former.noCommand

/-- What comes after the last request. -/
theorem Requested.andThen
    (requested : Requested manager requests middle)
    (noRequest : NoRequest middle next) :
    Requested manager requests next := by
  induction requested with
  | done before =>
      exact .done (before.trans noRequest)
  | ask before isAsked _ inductionHypothesis =>
      exact .ask before isAsked (inductionHypothesis noRequest)

/-- An application that is counted is no request, and the lists stay. -/
theorem setActivityForeground_noRequest
    {activity : Nat}
    {isForeground : Bool}
    (isNext :
      manager.setActivityForeground activity isForeground = some next) :
    NoRequest manager next ∧
      next.lists = manager.lists ∧ next.mPendTask = manager.mPendTask := by
  obtain ⟨record, _, isNext⟩ := Option.bind_eq_some_iff.mp isNext
  obtain ⟨app, _, isNext⟩ := Option.bind_eq_some_iff.mp isNext
  obtain ⟨old, _, isNext⟩ := Option.bind_eq_some_iff.mp isNext
  rw [← Option.some.inj isNext]
  refine ⟨⟨rfl, ?_⟩, rfl, rfl⟩
  have noCommand :
      (old.setForeground isForeground).2.filter Call.isCommand = [] := by
    unfold AppRecord.setForeground
    split
    · rfl
    · split
      · dsimp only
        split <;> rfl
      · dsimp only
        split <;> rfl
  rw [setAppForeground, List.filter_append, noCommand, List.append_nil]

/-- A stack that is counted is no request, and the lists stay. -/
theorem setForegroundAll_noRequest
    {isForeground : Bool}
    (activities : List Nat)
    (manager : TaskStackManager) :
    NoRequest manager (setForegroundAll isForeground activities manager) ∧
      (setForegroundAll isForeground activities manager).lists =
          manager.lists ∧
        (setForegroundAll isForeground activities manager).mPendTask =
          manager.mPendTask := by
  induction activities generalizing manager with
  | nil =>
      exact ⟨.refl manager, rfl, rfl⟩
  | cons activity rest inductionHypothesis =>
      rw [setForegroundAll]
      cases isNext : manager.setActivityForeground activity isForeground with
      | none =>
          exact inductionHypothesis manager
      | some next =>
          obtain ⟨first, sameLists, sameTasks⟩ :=
            setActivityForeground_noRequest isNext
          obtain ⟨later, keepsLists, keepsTasks⟩ := inductionHypothesis next
          exact
            ⟨first.trans later, keepsLists.trans sameLists,
              keepsTasks.trans sameTasks⟩

theorem setStackForeground_noRequest
    (manager : TaskStackManager)
    (task : Nat)
    (isForeground : Bool) :
    NoRequest manager (manager.setStackForeground task isForeground) ∧
      (manager.setStackForeground task isForeground).lists =
          manager.lists ∧
        (manager.setStackForeground task isForeground).mPendTask =
          manager.mPendTask :=
  setForegroundAll_noRequest (manager.lists.stackOf task).reverse manager

/-! ## The operation -/

/--
The requests of `moveTaskToBackground`: the top of the active task is to be
paused, and the top of the next task is to be resumed.
-/
def backgroundRequests
    (lists : TaskLists)
    (target : Nat) : List (Nat × Status) :=
  match lists.mAllTasks with
  | active :: next :: _ =>
      if target = active then
        ((lists.getTopActivity active).map (·, Status.paused)).toList ++
          ((lists.getTopActivity next).map (·, Status.resumed)).toList
      else
        []
  | _ =>
      []

/-- Once the top is to be paused, its task leaves the list. -/
def withoutActive
    (paused : TaskStackManager)
    (target : Nat)
    (lists : TaskLists) : TaskStackManager :=
  { paused.setStackForeground target false with lists := lists }

/-- The branch for the active task is two requests and what is between. -/
theorem leaveActive_eq
    {target following top nextTop : Nat}
    {others : List Nat}
    (allTasks : manager.lists.mAllTasks = target :: following :: others)
    (isTop : manager.lists.getTopActivity target = some top)
    (isNextTop :
      manager.lists.getTopActivity following = some nextTop) :
    manager.leaveActive target =
      (manager.lifecycleTransition top Status.paused).bind fun paused =>
        ((withoutActive paused target
            { manager.lists with
              mAllTasks := following :: others }).lifecycleTransition
          nextTop Status.resumed).map fun resumed =>
            (resumed.commit (.waitResume nextTop top)).setStackForeground
              following true := by
  unfold leaveActive
  rw [isTop, Option.bind_eq_bind, Option.bind_some]
  cases isPaused : manager.lifecycleTransition top Status.paused with
  | none =>
      rfl
  | some paused =>
      have isPopped :
          (paused.setStackForeground target false).lists.popFront? =
            some { manager.lists with mAllTasks := following :: others } := by
        rw [(paused.setStackForeground_noRequest target false).2.1,
          lifecycleTransition_lists isPaused, TaskLists.popFront?,
          allTasks]
      have stillTop :
          TaskLists.getTopActivity
              { manager.lists with mAllTasks := following :: others }
              following =
            some nextTop :=
        isNextTop
      simp only [Option.bind_eq_bind, Option.bind_some, isPopped, setLists,
        TaskLists.getActiveTask, List.head?_cons, stillTop, withoutActive]
      cases lifecycleTransition _ nextTop Status.resumed <;> rfl

/-- The branch for the active task. -/
theorem leaveActive_requested
    {target following top nextTop : Nat}
    {others : List Nat}
    (allTasks : manager.lists.mAllTasks = target :: following :: others)
    (isTop : manager.lists.getTopActivity target = some top)
    (isNextTop :
      manager.lists.getTopActivity following = some nextTop) :
    Spec
      (Refused manager (backgroundRequests manager.lists target))
      (manager.leaveActive target)
      fun next =>
        Requested manager (backgroundRequests manager.lists target) next ∧
          next.lists =
            { manager.lists with mAllTasks := following :: others } := by
  have areRequests :
      backgroundRequests manager.lists target =
        [(top, Status.paused), (nextTop, Status.resumed)] := by
    rw [backgroundRequests, allTasks]
    simp [isTop, isNextTop]
  rw [areRequests, leaveActive_eq allTasks isTop isNextTop]
  cases isPaused : manager.lifecycleTransition top Status.paused with
  | none =>
      exact ⟨[], top, Status.paused, _, manager, rfl, .done (.refl _),
        isPaused⟩
  | some paused =>
      rw [Option.bind_some]
      have hides := (paused.setStackForeground_noRequest target false).1
      generalize isBefore : withoutActive paused target _ = before
      have between : NoRequest paused before := by
        rw [← isBefore]
        exact ⟨hides.activities, hides.noCommand⟩
      cases isResumed :
          before.lifecycleTransition nextTop Status.resumed with
      | none =>
          exact
            ⟨[(top, Status.paused)], nextTop, Status.resumed, [], before,
              rfl, .ask (.refl _) isPaused (.done between), isResumed⟩
      | some resumed =>
          obtain ⟨shows, shownLists, _⟩ :=
            (resumed.commit
              (.waitResume nextTop top)).setStackForeground_noRequest
                following true
          refine ⟨.ask (.refl _) isPaused (.ask between isResumed ?_), ?_⟩
          · exact .done ⟨shows.activities, shows.noCommand⟩
          · have resumedLists := lifecycleTransition_lists isResumed
            rw [← isBefore] at resumedLists
            exact shownLists.trans resumedLists

/--
Nothing is missing for a request to a listed activity: it has a record, and
the statuses of records have rows in the lifecycle table.
-/
structure AnswersListed (manager : TaskStackManager) : Prop where
  answers : Answers manager.setting.placed manager
  recorded :
    ∀ task ∈ manager.lists.mAllTasks,
      ∀ activity ∈ manager.lists.stackOf task,
        (manager.setting.placed activity).isSome = true

/-- If requests are answered, the branch for the active task has a result. -/
theorem AnswersListed.leaveActive_isSome
    {target following top nextTop : Nat}
    {others : List Nat}
    (answersListed : AnswersListed manager)
    (allTasks : manager.lists.mAllTasks = target :: following :: others)
    (isTop : manager.lists.getTopActivity target = some top)
    (isNextTop :
      manager.lists.getTopActivity following = some nextTop) :
    (manager.leaveActive target).isSome = true := by
  have known : (manager.setting.placed top).isSome = true :=
    answersListed.recorded target (by simp [allTasks]) top
      (List.mem_of_head? isTop)
  have nextKnown : (manager.setting.placed nextTop).isSome = true :=
    answersListed.recorded following (by simp [allTasks]) nextTop
      (List.mem_of_head? isNextTop)
  have pauses :
      Spec False (manager.lifecycleTransition top Status.paused)
        (Answers manager.setting.placed) :=
    answersListed.answers.lifecycleTransition known
      (by simp [requestedStatuses])
  rw [leaveActive_eq allTasks isTop isNextTop]
  cases isPaused : manager.lifecycleTransition top Status.paused with
  | none =>
      rw [isPaused] at pauses
      exact pauses.elim
  | some paused =>
      rw [isPaused] at pauses
      obtain ⟨hides, _, sameTasks⟩ :=
        paused.setStackForeground_noRequest target false
      rw [Option.bind_some]
      generalize isBefore : withoutActive paused target _ = before
      have answersBefore : Answers manager.setting.placed before := by
        rw [← isBefore]
        refine ⟨?_, pauses.table.frame hides.activities, ?_⟩
        · rw [← pauses.samePlaced]
          unfold setting withoutActive
          dsimp only
          rw [hides.activities]
        · unfold withoutActive
          dsimp only
          rw [sameTasks]
          exact pauses.onBoard
      have resumes :
          Spec False (before.lifecycleTransition nextTop Status.resumed)
            (Answers manager.setting.placed) :=
        answersBefore.lifecycleTransition nextKnown
          (by simp [requestedStatuses])
      cases isResumed :
          before.lifecycleTransition nextTop Status.resumed with
      | none =>
          rw [isResumed] at resumes
          exact resumes.elim
      | some resumed =>
          rfl

/-- What `moveTaskToBackground` does to another task than the home task. -/
structure Backgrounded
    (manager : TaskStackManager)
    (home target : Nat)
    (next : TaskStackManager)
    (result : Bool) : Prop where
  isMoved : result = true
  mAllTasks :
    TaskLists.MovedBehind home target manager.lists.mAllTasks
      next.lists.mAllTasks
  mHomeTask : next.lists.mHomeTask = manager.lists.mHomeTask
  sameStackOf : next.lists.stackOf = manager.lists.stackOf
  requests :
    Requested manager (backgroundRequests manager.lists target) next

/-- One of the requests of the operation is refused. -/
def BackgroundRefused
    (manager : TaskStackManager)
    (target : Nat) : Prop :=
  Refused manager (backgroundRequests manager.lists target) ∧
    ¬ AnswersListed manager

/-- An active task moves. -/
theorem moveTaskToBackground_active
    {home target following : Nat}
    {others : List Nat}
    (distinct : manager.lists.mAllTasks.Nodup)
    (isHome : manager.lists.mHomeTask = some home)
    (homeListed : home ∈ manager.lists.mAllTasks)
    (isOther : target ≠ home)
    (allTasks : manager.lists.mAllTasks = target :: following :: others)
    (notEmpty :
      ∀ task ∈ manager.lists.mAllTasks, manager.lists.stackOf task ≠ []) :
    Spec (BackgroundRefused manager target)
      (manager.moveTaskToBackground target)
      fun result =>
        Backgrounded manager home target result.1 result.2 := by
  have notHome : ¬ some target = manager.lists.mHomeTask := by
    rw [isHome]
    exact fun same => isOther (Option.some.inj same)
  have isActive : some target = manager.lists.getActiveTask := by
    rw [TaskLists.getActiveTask, allTasks]
    rfl
  have exists_top :
      ∀ task ∈ manager.lists.mAllTasks,
        ∃ top, manager.lists.getTopActivity task = some top := by
    intro task member
    obtain ⟨top, below, isStack⟩ :=
      List.exists_cons_of_ne_nil (notEmpty task member)
    refine ⟨top, ?_⟩
    rw [TaskLists.getTopActivity, isStack]
    rfl
  obtain ⟨top, isTop⟩ := exists_top target (by simp [allTasks])
  obtain ⟨nextTop, isNextTop⟩ := exists_top following (by simp [allTasks])
  have leaves := leaveActive_requested allTasks isTop isNextTop
  unfold moveTaskToBackground
  rw [if_neg notHome]
  simp only [isActive, decide_true, if_true, Option.bind_eq_bind]
  cases isLeft : manager.leaveActive target with
  | none =>
      rw [isLeft] at leaves
      refine ⟨leaves, fun answersListed => ?_⟩
      have isSome :=
        answersListed.leaveActive_isSome allTasks isTop isNextTop
      rw [isLeft] at isSome
      cases isSome
  | some left =>
      rw [isLeft] at leaves
      obtain ⟨requested, leftLists⟩ := leaves
      have inOthers : home ∈ following :: others := by
        rw [allTasks] at homeListed
        rcases List.mem_cons.mp homeListed with same | inOthers
        · exact absurd same.symm isOther
        · exact inOthers
      obtain ⟨between, back, isSplit⟩ := List.append_of_mem inOthers
      rw [allTasks, isSplit] at distinct
      rw [Option.bind_some, leftLists]
      dsimp only
      rw [isHome, isSplit, TaskLists.behindHome_popped distinct]
      have order :
          TaskLists.MovedBehind home target
            ([] ++ target :: (between ++ home :: back))
            ([] ++ (between ++ home :: target :: back)) :=
        .of_front distinct
      exact
        { isMoved := rfl
          mAllTasks := by
            rw [allTasks, isSplit]
            exact order
          mHomeTask := isHome.symm
          sameStackOf := rfl
          requests := requested.andThen ⟨rfl, rfl⟩ }

/-- A task in the background moves. -/
theorem moveTaskToBackground_inactive
    {home target : Nat}
    (distinct : manager.lists.mAllTasks.Nodup)
    (isHome : manager.lists.mHomeTask = some home)
    (homeListed : home ∈ manager.lists.mAllTasks)
    (targetListed : target ∈ manager.lists.mAllTasks)
    (isOther : target ≠ home)
    (notActive : some target ≠ manager.lists.getActiveTask) :
    ∃ next,
      manager.moveTaskToBackground target = some (next, true) ∧
        Backgrounded manager home target next true := by
  have notHome : ¬ some target = manager.lists.mHomeTask := by
    rw [isHome]
    exact fun same => isOther (Option.some.inj same)
  have noRequests : backgroundRequests manager.lists target = [] := by
    unfold backgroundRequests
    split
    · rename_i active following others allTasks
      apply if_neg
      intro same
      apply notActive
      rw [TaskLists.getActiveTask, allTasks, same]
      rfl
    · rfl
  unfold moveTaskToBackground
  rw [if_neg notHome]
  simp only [notActive, decide_false, Bool.false_eq_true, if_false,
    Option.bind_eq_bind, Option.bind_some, isHome]
  obtain ⟨isMoved, order⟩ :=
    TaskLists.behindHome_movedBehind distinct homeListed targetListed
      isOther
  rw [isMoved]
  exact
    ⟨_, rfl,
      { isMoved := rfl
        mAllTasks := order
        mHomeTask := isHome.symm
        sameStackOf := rfl
        requests := by
          rw [noRequests]
          exact .done ⟨rfl, rfl⟩ }⟩

/--
`moveTaskToBackground` only reorders the tasks.  The home task stays where it
is.  For another task there is a result unless one of the requests that it
issues itself cannot be answered, since a record is missing or its status is
outside the lifecycle table.
-/
theorem moveTaskToBackground_reorders
    (manager : TaskStackManager)
    (home target : Nat)
    (distinct : manager.lists.mAllTasks.Nodup)
    (isHome : manager.lists.mHomeTask = some home)
    (homeListed : home ∈ manager.lists.mAllTasks)
    (targetListed : target ∈ manager.lists.mAllTasks)
    (notEmpty :
      ∀ task ∈ manager.lists.mAllTasks, manager.lists.stackOf task ≠ []) :
    if target = home then
      manager.moveTaskToBackground target = some (manager, false)
    else
      Spec (BackgroundRefused manager target)
        (manager.moveTaskToBackground target)
        fun result =>
          Backgrounded manager home target result.1 result.2 := by
  split
  · rename_i isTarget
    rw [moveTaskToBackground, isTarget, isHome, if_pos rfl]
  · rename_i isOther
    by_cases isActive : some target = manager.lists.getActiveTask
    · cases allTasks : manager.lists.mAllTasks with
      | nil =>
          rw [allTasks] at homeListed
          exact absurd homeListed List.not_mem_nil
      | cons active rest =>
          have isTarget : target = active := by
            rw [TaskLists.getActiveTask, allTasks] at isActive
            exact Option.some.inj isActive
          subst isTarget
          cases rest with
          | nil =>
              rw [allTasks, List.mem_singleton] at homeListed
              exact absurd homeListed.symm isOther
          | cons following others =>
              exact
                moveTaskToBackground_active distinct isHome homeListed
                  isOther allTasks notEmpty
    · obtain ⟨next, isNext, backgrounded⟩ :=
        moveTaskToBackground_inactive distinct isHome homeListed
          targetListed isOther isActive
      rw [isNext]
      exact backgrounded

/-- The clock and the notes in front of the home task. -/
def notesInFront : Option TaskStackManager :=
  run? step? (TaskStackManager.start 0)
    [.attachApplication "home" false 10,
      .attachApplication "clock" false 11,
      .attachApplication "notes" false 12,
      .pushNewActivity "home/Main" 0 0 ⟨"home", "", "", 0⟩ 0,
      .pushNewActivity "clock/Main" 1 1 ⟨"clock", "", "", 0⟩ 0,
      .pushNewActivity "notes/Main" 2 2 ⟨"notes", "", "", 0⟩ 0]

/-- The notes, which are active, move behind the home task. -/
theorem notesInFront_reorders :
    ∃ result,
      (notesInFront.get rfl).moveTaskToBackground 2 = some result ∧
        Backgrounded (notesInFront.get rfl) 0 2 result.1 result.2 := by
  have isResult :
      (notesInFront.get rfl).moveTaskToBackground 2 =
        some (((notesInFront.get rfl).moveTaskToBackground 2).get rfl) :=
    (Option.some_get _).symm
  have spec :=
    moveTaskToBackground_reorders (notesInFront.get rfl) 0 2 (by decide)
      rfl (by decide) (by decide) (by decide)
  rw [if_neg (by decide)] at spec
  exact ⟨_, isResult, spec.of_result isResult⟩

end TaskStackManager

end ActivityManager
