import ActivityManager.Library.StepSystem

/-!
# Tasks of a loop

`UvLoop::postTask` puts a callback into a queue under a mutex and wakes the
loop, which later goes through the queue in `processMessage`.  The mutex is
held all the time that the callbacks run.  It is not recursive, so a callback
that posts a task to its own loop waits for itself.

Callbacks are named by numbers.  A program says which tasks a callback posts
while it runs; a callback may be posted any number of times.  Other threads,
and the loop itself between two calls of `processMessage`, post at any time
when the mutex is free, and the loop is called at any time when it waits.
-/

namespace ActivityManager

open StepSystem

/-- Where the thread of the loop is. -/
inductive LoopPhase where
  /-- Outside of `processMessage`. -/
  | waiting
  /-- At the head of the loop over the queue. -/
  | draining
  /-- In `handleMessage`, with the tasks that the callback is yet to post. -/
  | handling (left : List Nat)
  deriving Repr, DecidableEq

/-- `UvMsgQueue`. -/
structure UvMsgQueue where
  /-- `mMutex` is locked. -/
  mMutex : Bool
  mQueue : List Nat
  /-- `uv_async_send` was called, and `processMessage` was not since. -/
  isSent : Bool
  phase : LoopPhase
  /-- Ghost: the tasks that were put into the queue, in order. -/
  posted : List Nat
  /-- Ghost: the tasks whose callbacks returned, in order. -/
  executed : List Nat
  deriving Repr, DecidableEq

namespace UvMsgQueue

/-- A queue that is attached to a loop. -/
def attached : UvMsgQueue where
  mMutex := false
  mQueue := []
  isSent := false
  phase := .waiting
  posted := []
  executed := []

/-- `UvMsgQueue::emplace`; it is not possible while the mutex is locked. -/
def emplace
    (queue : UvMsgQueue)
    (task : Nat) : Option UvMsgQueue :=
  if queue.mMutex then
    none
  else
    some
      { queue with
        mQueue := queue.mQueue ++ [task]
        isSent := true
        posted := queue.posted ++ [task] }

/-- `UvMsgQueue::processMessage` is called and locks the mutex. -/
def processMessage (queue : UvMsgQueue) : Option UvMsgQueue :=
  match queue.phase with
  | .waiting =>
      if queue.mMutex then
        none
      else
        some
          { queue with
            mMutex := true
            isSent := false
            phase := .draining }
  | _ =>
      none

/-- The next step of the loop in `processMessage`. -/
def loopStep?
    (posts : Nat → List Nat)
    (queue : UvMsgQueue) : Option UvMsgQueue :=
  match queue.phase, queue.mQueue with
  | .waiting, _ =>
      none
  | .draining, [] =>
      some { queue with mMutex := false, phase := .waiting }
  | .draining, front :: _ =>
      some { queue with phase := .handling (posts front) }
  | .handling (task :: left), _ =>
      -- The callback posts to the loop that it runs on.
      (queue.emplace task).map ({ · with phase := .handling left })
  | .handling [], [] =>
      none
  | .handling [], front :: rest =>
      some
        { queue with
          mQueue := rest
          phase := .draining
          executed := queue.executed ++ [front] }

/-- What may happen next. -/
inductive Action where
  /-- `UvLoop::postTask`, outside of the callbacks. -/
  | postTask (task : Nat)
  /-- The loop answers `uv_async_send`, or calls without being asked. -/
  | processMessage
  /-- The loop takes its next step. -/
  | loop
  deriving Repr, DecidableEq

/-- One step of the queue with its loop and its posters. -/
def step?
    (posts : Nat → List Nat)
    (queue : UvMsgQueue) : Action → Option UvMsgQueue
  | .postTask task => queue.emplace task
  | .processMessage => queue.processMessage
  | .loop => queue.loopStep? posts

/--
The mutex is locked while the loop is in `processMessage`, the tasks wait in
the order they were posted in, and none waits unless the loop is to be called.
-/
structure WellFormed (queue : UvMsgQueue) : Prop where
  locked : queue.mMutex = true ↔ queue.phase ≠ .waiting
  order : queue.executed ++ queue.mQueue = queue.posted
  answered :
    queue.phase = .waiting →
    queue.isSent = false →
    queue.mQueue = []
  handled : ∀ left, queue.phase = .handling left → queue.mQueue ≠ []

variable
  {posts : Nat → List Nat}
  {queue next : UvMsgQueue}

/-- What a step of the loop can do while the mutex is locked. -/
inductive LoopStep
    (posts : Nat → List Nat)
    (queue next : UvMsgQueue) : Prop where
  | returns
      (isDraining : queue.phase = .draining)
      (isEmpty : queue.mQueue = [])
      (isNext : next = { queue with mMutex := false, phase := .waiting })
  | calls
      {front : Nat}
      {rest : List Nat}
      (isDraining : queue.phase = .draining)
      (isFront : queue.mQueue = front :: rest)
      (isNext : next = { queue with phase := .handling (posts front) })
  | pops
      {front : Nat}
      {rest : List Nat}
      (isHandled : queue.phase = .handling [])
      (isFront : queue.mQueue = front :: rest)
      (isNext :
        next =
          { queue with
            mQueue := rest
            phase := .draining
            executed := queue.executed ++ [front] })

/-- A callback that posts a task does not get any further. -/
theorem loopStep?_posting
    (isLocked : queue.mMutex = true)
    {task : Nat}
    {left : List Nat}
    (isPosting : queue.phase = .handling (task :: left)) :
    queue.loopStep? posts = none := by
  rw [loopStep?, isPosting]
  dsimp only
  rw [emplace, if_pos isLocked]
  rfl

/-- So every step is one of the three. -/
theorem loopStep?_cases
    (isLocked : queue.mMutex = true)
    (isNext : queue.loopStep? posts = some next) :
    LoopStep posts queue next := by
  cases isPhase : queue.phase with
  | waiting =>
      rw [loopStep?, isPhase] at isNext
      cases isNext
  | draining =>
      cases isQueue : queue.mQueue with
      | nil =>
          rw [loopStep?, isPhase, isQueue] at isNext
          refine .returns isPhase isQueue ?_
          rw [isQueue]
          exact (Option.some.inj isNext).symm
      | cons front rest =>
          rw [loopStep?, isPhase, isQueue] at isNext
          refine .calls isPhase isQueue ?_
          rw [isQueue]
          exact (Option.some.inj isNext).symm
  | handling left =>
      cases left with
      | nil =>
          cases isQueue : queue.mQueue with
          | nil =>
              rw [loopStep?, isPhase, isQueue] at isNext
              cases isNext
          | cons front rest =>
              rw [loopStep?, isPhase, isQueue] at isNext
              exact .pops isPhase isQueue (Option.some.inj isNext).symm
      | cons task left =>
          rw [loopStep?_posting isLocked isPhase] at isNext
          cases isNext

/-! ## What holds in every run -/

theorem wellFormed_attached : WellFormed attached where
  locked := by decide
  order := rfl
  answered _ _ := rfl
  handled := nofun

namespace WellFormed

/-- A task is put behind the others. -/
theorem emplace
    (formed : WellFormed queue)
    {task : Nat}
    (isNext : queue.emplace task = some next) :
    WellFormed next := by
  rw [UvMsgQueue.emplace] at isNext
  split at isNext
  case isTrue =>
    cases isNext
  case isFalse =>
    rw [Option.some.injEq] at isNext
    rw [← isNext]
    exact
      { locked := formed.locked
        order := by rw [← formed.order, List.append_assoc]
        answered := nofun
        handled := fun _ _ => by simp }

/-- `processMessage` locks the mutex. -/
theorem processMessage
    (formed : WellFormed queue)
    (isNext : queue.processMessage = some next) :
    WellFormed next := by
  rw [UvMsgQueue.processMessage] at isNext
  split at isNext
  case h_1 =>
    split at isNext
    case isTrue =>
      cases isNext
    case isFalse =>
      rw [Option.some.injEq] at isNext
      rw [← isNext]
      exact
        { locked := iff_of_true rfl nofun
          order := formed.order
          answered := nofun
          handled := nofun }
  case h_2 =>
    cases isNext

/-- The loop executes the tasks in the order of the queue. -/
theorem loopStep
    (formed : WellFormed queue)
    (stepped : LoopStep posts queue next) :
    WellFormed next := by
  cases stepped with
  | returns isDraining isEmpty isNext =>
      rw [isNext]
      exact
        { locked := by simp
          order := formed.order
          answered := fun _ _ => isEmpty
          handled := nofun }
  | calls isDraining isFront isNext =>
      have isLocked : queue.mMutex = true :=
        formed.locked.mpr (by rw [isDraining]; exact nofun)
      rw [isNext]
      exact
        { locked := iff_of_true isLocked nofun
          order := formed.order
          answered := nofun
          handled := fun _ _ => by rw [isFront]; exact nofun }
  | pops isHandled isFront isNext =>
      have isLocked : queue.mMutex = true :=
        formed.locked.mpr (by rw [isHandled]; exact nofun)
      rw [isNext]
      exact
        { locked := iff_of_true isLocked nofun
          order := by
            rw [List.append_assoc, List.singleton_append, ← isFront,
              formed.order]
          answered := nofun
          handled := nofun }

/-- A step of the loop is taken in `processMessage`. -/
theorem locked_of_loopStep?
    (formed : WellFormed queue)
    (isNext : queue.loopStep? posts = some next) :
    queue.mMutex = true := by
  refine formed.locked.mpr fun isWaiting => ?_
  rw [loopStep?, isWaiting] at isNext
  cases isNext

/-- Every step keeps the queue well formed. -/
theorem step
    (formed : WellFormed queue)
    {action : Action}
    (isNext : queue.step? posts action = some next) :
    WellFormed next := by
  cases action with
  | postTask task =>
      exact formed.emplace isNext
  | processMessage =>
      exact formed.processMessage isNext
  | loop =>
      exact
        formed.loopStep
          (loopStep?_cases (formed.locked_of_loopStep? isNext) isNext)

end WellFormed

/-- The queue is well formed in every run of every program. -/
theorem wellFormed_of_reachable
    {allowed : UvMsgQueue → Action → Prop}
    (reachable : Reachable (step? posts) allowed attached queue) :
    WellFormed queue :=
  reachable.invariant wellFormed_attached
    (fun _ _ _ formed _ isNext => formed.step isNext)

/-- In `processMessage` nobody but the loop takes a step. -/
theorem loop_of_locked
    (formed : WellFormed queue)
    (isLocked : queue.mMutex = true)
    {action : Action}
    (isNext : queue.step? posts action = some next) :
    action = .loop := by
  cases action with
  | postTask task =>
      rw [step?, UvMsgQueue.emplace, if_pos isLocked] at isNext
      cases isNext
  | processMessage =>
      have notWaiting := formed.locked.mp isLocked
      rw [step?, UvMsgQueue.processMessage] at isNext
      split at isNext
      case h_1 isWaiting =>
        exact absurd isWaiting notWaiting
      case h_2 =>
        cases isNext
  | loop =>
      rfl

/-! ## When the loop returns -/

/-- No callback that is to run posts a task to its own loop. -/
def NoneReposts
    (posts : Nat → List Nat)
    (queue : UvMsgQueue) : Prop :=
  match queue.phase with
  | .handling left =>
      left = [] ∧ ∀ task ∈ queue.mQueue.tail, posts task = []
  | _ =>
      ∀ task ∈ queue.mQueue, posts task = []

/-- The loop is called, unless it is in `processMessage`. -/
def enter (queue : UvMsgQueue) : UvMsgQueue :=
  queue.processMessage.getD queue

/-- The loop alone takes steps. -/
def LoopRuns
    (posts : Nat → List Nat) : UvMsgQueue → UvMsgQueue → Prop :=
  Reachable (step? posts) (fun _ action => action = .loop)

/-- A step of the loop neither hides nor brings a callback that posts. -/
theorem LoopStep.noneReposts_iff
    (stepped : LoopStep posts queue next) :
    NoneReposts posts next ↔ NoneReposts posts queue := by
  cases stepped with
  | returns isDraining isEmpty isNext =>
      rw [isNext]
      simp [NoneReposts, isDraining, isEmpty]
  | calls isDraining isFront isNext =>
      rw [isNext]
      simp [NoneReposts, isDraining, isFront]
  | pops isHandled isFront isNext =>
      rw [isNext]
      simp [NoneReposts, isHandled, isFront]

/-- Where the loop gets to waiting, no callback posted. -/
theorem LoopRuns.noneReposts_iff
    (formed : WellFormed queue)
    (runs : LoopRuns posts queue next) :
    WellFormed next ∧ next.posted = queue.posted ∧
      (NoneReposts posts next ↔ NoneReposts posts queue) := by
  induction runs with
  | initial =>
      exact ⟨formed, rfl, Iff.rfl⟩
  | @step middle final action _ isLoop isNext inductionHypothesis =>
      obtain ⟨formedMiddle, samePosted, sameReposts⟩ := inductionHypothesis
      rw [isLoop] at isNext
      have stepped :=
        loopStep?_cases (formedMiddle.locked_of_loopStep? isNext) isNext
      refine ⟨formedMiddle.loopStep stepped, ?_, ?_⟩
      · rw [← samePosted]
        cases stepped with
        | returns _ _ isNext => rw [isNext]
        | calls _ _ isNext => rw [isNext]
        | pops _ _ isNext => rw [isNext]
      · exact stepped.noneReposts_iff.trans sameReposts

/-- One step of the loop. -/
theorem LoopRuns.single
    (isNext : queue.loopStep? posts = some next) :
    LoopRuns posts queue next :=
  .step .initial rfl isNext

/-- The loop drains a queue whose callbacks do not post. -/
theorem drains_of_draining
    (isDraining : queue.phase = .draining)
    (noneReposts : ∀ task ∈ queue.mQueue, posts task = []) :
    ∃ final,
      LoopRuns posts queue final ∧
        final.phase = .waiting ∧
        final.mQueue = [] := by
  induction isQueue : queue.mQueue generalizing queue with
  | nil =>
      refine
        ⟨{ queue with mMutex := false, phase := .waiting }, .single ?_, rfl,
          isQueue⟩
      rw [loopStep?, isDraining, isQueue]
  | cons front rest inductionHypothesis =>
      rw [isQueue, List.forall_mem_cons] at noneReposts
      have called :
          LoopRuns posts queue { queue with phase := .handling [] } := by
        refine .single ?_
        rw [loopStep?, isDraining, isQueue]
        simp only [noneReposts.1]
      let popped : UvMsgQueue :=
        { queue with
          mQueue := rest
          phase := .draining
          executed := queue.executed ++ [front] }
      have pops :
          LoopRuns posts { queue with phase := .handling [] } popped := by
        refine .single ?_
        rw [loopStep?]
        simp only [isQueue]
        rfl
      obtain ⟨final, runs, isWaiting, isEmpty⟩ :=
        @inductionHypothesis popped rfl noneReposts.2 rfl
      exact ⟨final, (called.trans pops).trans runs, isWaiting, isEmpty⟩

/-- In the middle of a callback as well. -/
theorem drains_of_noneReposts
    (formed : WellFormed queue)
    (notWaiting : queue.phase ≠ .waiting)
    (noneReposts : NoneReposts posts queue) :
    ∃ final,
      LoopRuns posts queue final ∧
        final.phase = .waiting ∧
        final.mQueue = [] := by
  cases isPhase : queue.phase with
  | waiting =>
      exact absurd isPhase notWaiting
  | draining =>
      simp only [NoneReposts, isPhase] at noneReposts
      exact drains_of_draining isPhase noneReposts
  | handling left =>
      simp only [NoneReposts, isPhase] at noneReposts
      obtain ⟨rfl, noneReposts⟩ := noneReposts
      obtain ⟨front, rest, isQueue⟩ :=
        List.exists_cons_of_ne_nil (formed.handled [] isPhase)
      rw [isQueue, List.tail_cons] at noneReposts
      let popped : UvMsgQueue :=
        { queue with
          mQueue := rest
          phase := .draining
          executed := queue.executed ++ [front] }
      have pops : LoopRuns posts queue popped := by
        refine .single ?_
        rw [loopStep?, isPhase, isQueue]
      obtain ⟨final, runs, isWaiting, isEmpty⟩ :=
        @drains_of_draining posts popped rfl noneReposts
      exact ⟨final, pops.trans runs, isWaiting, isEmpty⟩

/-- The loop can be called whenever it waits. -/
theorem WellFormed.enter
    (formed : WellFormed queue) :
    WellFormed queue.enter ∧
      queue.enter.phase ≠ .waiting ∧
      queue.enter.posted = queue.posted ∧
      (NoneReposts posts queue.enter ↔ NoneReposts posts queue) := by
  cases isPhase : queue.phase with
  | waiting =>
      have isFree : ¬queue.mMutex = true := by
        rw [formed.locked]
        exact fun notWaiting => notWaiting isPhase
      have entered :
          queue.processMessage =
            some
              { queue with
                mMutex := true
                isSent := false
                phase := .draining } := by
        rw [UvMsgQueue.processMessage, isPhase]
        exact if_neg isFree
      have isEntered := formed.processMessage entered
      rw [UvMsgQueue.enter, entered, Option.getD_some]
      exact ⟨isEntered, nofun, rfl, by simp [NoneReposts, isPhase]⟩
  | draining =>
      have same : queue.enter = queue := by
        rw [UvMsgQueue.enter, UvMsgQueue.processMessage, isPhase]
        rfl
      rw [same, isPhase]
      exact ⟨formed, nofun, rfl, Iff.rfl⟩
  | handling left =>
      have same : queue.enter = queue := by
        rw [UvMsgQueue.enter, UvMsgQueue.processMessage, isPhase]
        rfl
      rw [same, isPhase]
      exact ⟨formed, nofun, rfl, Iff.rfl⟩

/-- `processMessage` returns, with every task executed that was posted. -/
def Returns
    (posts : Nat → List Nat)
    (queue : UvMsgQueue) : Prop :=
  ∃ final,
    LoopRuns posts queue.enter final ∧
      final.phase = .waiting ∧
      final.mQueue = [] ∧
      final.executed = queue.posted

/-- It does if and only if no callback in the queue posts to its own loop. -/
theorem WellFormed.returns_iff
    (formed : WellFormed queue) :
    Returns posts queue ↔ NoneReposts posts queue := by
  obtain ⟨formedEnter, notWaiting, samePosted, sameReposts⟩ :
      WellFormed queue.enter ∧
        queue.enter.phase ≠ .waiting ∧
        queue.enter.posted = queue.posted ∧
        (NoneReposts posts queue.enter ↔ NoneReposts posts queue) :=
    formed.enter
  rw [← sameReposts]
  constructor
  · rintro ⟨final, runs, isWaiting, isEmpty, -⟩
    refine (runs.noneReposts_iff formedEnter).2.2.mp ?_
    simp [NoneReposts, isWaiting, isEmpty]
  · intro noneReposts
    obtain ⟨final, runs, isWaiting, isEmpty⟩ :=
      drains_of_noneReposts formedEnter notWaiting noneReposts
    obtain ⟨formedFinal, sameFinal, -⟩ := runs.noneReposts_iff formedEnter
    have order := formedFinal.order
    rw [isEmpty, List.append_nil, sameFinal, samePosted] at order
    exact ⟨final, runs, isWaiting, isEmpty, order⟩

/--
The posted tasks are executed once each and in the order they were posted in:
those not yet executed wait in the queue, none waits when the loop has
answered, and `processMessage` returns with an empty queue.
-/
structure ExecutesAll
    (posts : Nat → List Nat)
    (queue : UvMsgQueue) : Prop where
  order : queue.executed ++ queue.mQueue = queue.posted
  answered :
    queue.phase = .waiting →
    queue.isSent = false →
    queue.executed = queue.posted
  returns : Returns posts queue

/-- What holds of a well formed queue hangs on the callbacks that are to run. -/
theorem WellFormed.executesAll_iff
    (formed : WellFormed queue) :
    ExecutesAll posts queue ↔ NoneReposts posts queue := by
  rw [← formed.returns_iff]
  constructor
  · exact ExecutesAll.returns
  · intro returns
    refine ⟨formed.order, ?_, returns⟩
    intro isWaiting isAnswered
    have order := formed.order
    rw [formed.answered isWaiting isAnswered, List.append_nil] at order
    exact order

/--
In every state of every run, whatever the callbacks post and whenever the
loop is called, the posted tasks are executed once each and in order if and
only if no callback that is to run posts a task to its own loop.
-/
theorem posted_executesAll_iff
    (posts : Nat → List Nat)
    (queue : UvMsgQueue)
    (reachable :
      Reachable (step? posts) (fun _ _ => True) attached queue) :
    ExecutesAll posts queue ↔ NoneReposts posts queue :=
  (wellFormed_of_reachable reachable).executesAll_iff

/-- A step that posts no task that posts brings no such task. -/
theorem NoneReposts.step
    (formed : WellFormed queue)
    (noneReposts : NoneReposts posts queue)
    {action : Action}
    (isQuiet : ∀ task, action = .postTask task → posts task = [])
    (isNext : queue.step? posts action = some next) :
    NoneReposts posts next := by
  cases action with
  | postTask task =>
      have isFree : ¬queue.mMutex = true := by
        intro isLocked
        exact absurd (loop_of_locked formed isLocked isNext) nofun
      have isWaiting : queue.phase = .waiting := by
        by_contra notWaiting
        exact isFree (formed.locked.mpr notWaiting)
      rw [step?, UvMsgQueue.emplace, if_neg isFree] at isNext
      rw [← Option.some.inj isNext]
      simp only [NoneReposts, isWaiting] at noneReposts ⊢
      intro other member
      rcases List.mem_append.mp member with isOld | isNew
      · exact noneReposts other isOld
      · rw [List.mem_singleton.mp isNew]
        exact isQuiet task rfl
  | processMessage =>
      have entered :
          WellFormed queue.enter ∧
            queue.enter.phase ≠ .waiting ∧
            queue.enter.posted = queue.posted ∧
            (NoneReposts posts queue.enter ↔ NoneReposts posts queue) :=
        formed.enter
      have same : queue.enter = next := by
        rw [UvMsgQueue.enter, show queue.processMessage = some next from isNext]
        rfl
      rw [same] at entered
      exact entered.2.2.2.mpr noneReposts
  | loop =>
      have stepped :=
        loopStep?_cases (formed.locked_of_loopStep? isNext) isNext
      exact stepped.noneReposts_iff.mpr noneReposts

/-- Where no task that is posted posts another, all are always executed. -/
theorem executesAll_of_noneReposts
    (reachable :
      Reachable (step? posts)
        (fun _ action =>
          ∀ task, action = .postTask task → posts task = [])
        attached queue) :
    ExecutesAll posts queue := by
  have invariant : WellFormed queue ∧ NoneReposts posts queue :=
    reachable.invariant ⟨wellFormed_attached, nofun⟩
      (fun _ _ _ ⟨formed, noneReposts⟩ isQuiet isNext =>
        ⟨formed.step isNext, noneReposts.step formed isQuiet isNext⟩)
  exact invariant.1.executesAll_iff.mpr invariant.2

/-- Two tasks that post none, the first of which is running. -/
def twoTasks : Option UvMsgQueue :=
  run? (step? fun _ => []) attached
    [.postTask 1, .postTask 2, .processMessage, .loop]

theorem twoTasks_executesAll :
    ExecutesAll (fun _ => []) (twoTasks.get rfl) := by
  have accepted : twoTasks = some (twoTasks.get rfl) :=
    (Option.some_get _).symm
  have reachable :
      Reachable (step? fun _ => []) (fun _ _ => True) attached
        (twoTasks.get rfl) :=
    Reachable.of_run?
      (allowedRun_of_forall (fun _ _ => trivial) _ _) accepted
  exact
    (posted_executesAll_iff (fun _ => []) (twoTasks.get rfl) reachable).mpr
      ⟨rfl, fun _ _ => rfl⟩

/-- The callback of the first task posts the second. -/
def postsSecond (task : Nat) : List Nat :=
  if task = 1 then [2] else []

/-- The first task is posted. -/
def firstPosted : Option UvMsgQueue :=
  run? (step? postsSecond) attached [.postTask 1]

theorem firstPosted_not_executesAll :
    ¬ExecutesAll postsSecond (firstPosted.get rfl) := by
  intro executesAll
  have accepted : firstPosted = some (firstPosted.get rfl) :=
    (Option.some_get _).symm
  have reachable :
      Reachable (step? postsSecond) (fun _ _ => True) attached
        (firstPosted.get rfl) :=
    Reachable.of_run?
      (allowedRun_of_forall (fun _ _ => trivial) _ _) accepted
  have noneReposts :=
    (wellFormed_of_reachable reachable).executesAll_iff.mp executesAll
  exact absurd (noneReposts 1 (by decide)) (by decide)

end UvMsgQueue

end ActivityManager
