import ActivityManager.TaskBoardExactlyOnce

/-!
# No deadline of the task board is missed

Outside of `checkTimeout` the timer is armed for the earliest deadline on the
board.  Inside, the pass carries the earliest deadline of the handlers it has
passed, and re-arms the timer when it returns; what a task's code does to the
timer in between is overwritten.  Both facts need sums of times to stay below
the sentinel `ULLONG_MAX`, which `InRange` says of a step.
-/

namespace ActivityManager

namespace TaskBoard

variable {Task : Type}

/-- Within range, the sum of two times does not wrap around. -/
theorem addUint64_of_lt
    {left right : Nat}
    (small : left + right < 2 ^ 64) :
    addUint64 left right = left + right :=
  Nat.mod_eq_of_lt small

/-- The difference of two ordered times does not wrap around. -/
theorem subUint64_of_le
    {left right : Nat}
    (ordered : right ≤ left)
    (small : left < 2 ^ 64) :
    subUint64 left right = left - right := by
  unfold subUint64
  omega

/-- A commit moves the next check and the timer forward together. -/
theorem commitTask_armed
    {board : TaskBoard Task}
    {task : Task}
    {msLimitedTime : Nat}
    (small : board.clock + msLimitedTime < ullongMax)
    (cached : board.loopTime ≤ board.clock)
    (armed :
      board.mNextCheckTime < ullongMax →
      ∃ deadline,
        board.mTimer = some deadline ∧
          deadline ≤ board.mNextCheckTime) :
    let next := board.commitTask task msLimitedTime
    next.mNextCheckTime < ullongMax →
    ∃ deadline,
      next.mTimer = some deadline ∧
        deadline ≤ next.mNextCheckTime := by
  intro next finite
  have expect :
      addUint64 board.clock msLimitedTime =
        board.clock + msLimitedTime :=
    addUint64_of_lt (by unfold ullongMax at small; omega)
  have timeout :
      subUint64 (board.clock + msLimitedTime) board.clock =
        msLimitedTime := by
    rw [subUint64_of_le (by omega) (by unfold ullongMax at small; omega)]
    omega
  simp only [next, commitTask, expect, timeout] at finite ⊢
  split
  · refine ⟨_, rfl, ?_⟩
    simp only [startTimer]
    split <;> omega
  · rename_i later
    rw [if_neg later] at finite
    exact armed finite

/-- After a commit the next check is not later than the new deadline. -/
theorem commitTask_mNextCheckTime_le
    (board : TaskBoard Task)
    (task : Task)
    (msLimitedTime : Nat) :
    (board.commitTask task msLimitedTime).mNextCheckTime ≤
        board.mNextCheckTime ∧
      (board.commitTask task msLimitedTime).mNextCheckTime ≤
        (board.newHandler task msLimitedTime).mExpectTime := by
  simp only [commitTask, newHandler]
  split
  · simp only [startTimer]
    omega
  · omega

end TaskBoard

namespace BoardMachine

variable {Task Label : Type}

/-- The passes of `checkTimeout` on a call stack. -/
def checks : List (Frame Task Label) → List (CheckFrame Task)
  | [] =>
      []
  | .checkTimeout frame :: rest =>
      frame :: checks rest
  | .eventTrigger _ :: rest =>
      checks rest
  | .body _ :: rest =>
      checks rest

@[simp] theorem checks_nil :
    checks ([] : List (Frame Task Label)) = [] := by
  rfl

@[simp] theorem checks_checkTimeout
    (frame : CheckFrame Task)
    (rest : List (Frame Task Label)) :
    checks (.checkTimeout frame :: rest) = frame :: checks rest := by
  rfl

@[simp] theorem checks_eventTrigger
    (frame : TriggerFrame Task Label)
    (rest : List (Frame Task Label)) :
    checks (.eventTrigger frame :: rest) = checks rest := by
  rfl

@[simp] theorem checks_body
    (serial : Nat)
    (rest : List (Frame Task Label)) :
    checks (.body serial :: rest) = checks rest := by
  rfl

/-- Every pass on the stack is found. -/
theorem mem_checks
    {stack : List (Frame Task Label)}
    {frame : CheckFrame Task}
    (member : Frame.checkTimeout frame ∈ stack) :
    frame ∈ checks stack := by
  induction stack with
  | nil =>
      simp at member
  | cons top rest inductionHypothesis =>
      rcases List.mem_cons.mp member with rfl | below
      · simp
      · cases top <;> simp [inductionHypothesis below]

/-- Every task gets at least a millisecond. -/
def AtLeastOneMs
    (_ : BoardMachine Task Label) : BoardAction Task Label → Prop
  | .commitTask _ msLimitedTime =>
      1 ≤ msLimitedTime
  | _ =>
      True

/--
Every task gets at least a millisecond, and neither its deadline nor the next
one-second cycle comes to the end of the 64-bit clock.
-/
def InRange
    (machine : BoardMachine Task Label) : BoardAction Task Label → Prop
  | .commitTask _ msLimitedTime =>
      1 ≤ msLimitedTime ∧
        machine.board.clock + msLimitedTime < ullongMax
  | .timerFires =>
      machine.board.clock + minCheckoutTime ≤ ullongMax
  | _ =>
      True

instance decidableAtLeastOneMs
    (machine : BoardMachine Task Label) :
    ∀ action, Decidable (AtLeastOneMs machine action)
  | .commitTask _ msLimitedTime =>
      inferInstanceAs (Decidable (1 ≤ msLimitedTime))
  | .eventTrigger _ => isTrue trivial
  | .removeTask _ => isTrue trivial
  | .timerFires => isTrue trivial
  | .loopStep => isTrue trivial
  | .bodyReturns => isTrue trivial
  | .clockAdvances _ => isTrue trivial
  | .loopTimeUpdates => isTrue trivial

instance decidableInRange
    (machine : BoardMachine Task Label) :
    ∀ action, Decidable (InRange machine action)
  | .commitTask _ _ =>
      inferInstanceAs (Decidable (_ ∧ _))
  | .timerFires =>
      inferInstanceAs (Decidable (_ ≤ _))
  | .eventTrigger _ => isTrue trivial
  | .removeTask _ => isTrue trivial
  | .loopStep => isTrue trivial
  | .bodyReturns => isTrue trivial
  | .clockAdvances _ => isTrue trivial
  | .loopTimeUpdates => isTrue trivial

/-! ## A running pass -/

/-- What an active pass of `checkTimeout` knows about the board. -/
structure CheckOk
    (board : TaskBoard Task)
    (log : List TaskEvent)
    (frame : CheckFrame Task) : Prop where
  cached :
    board.loopTime ≤ frame.now
  started :
    frame.now ≤ board.clock
  nextLater :
    frame.now < frame.nextMinTime
  nextFinite :
    frame.nextMinTime ≤ ullongMax
  inBounds :
    frame.position ≤ board.mTasklist.length
  passed :
    ∀ index handler,
      index < frame.position →
      board.mTasklist[index]? = some handler →
      handler.mIsDone = false →
      frame.nextMinTime ≤ handler.mExpectTime
  dueFromStart :
    ∀ handler ∈ board.mTasklist,
      handler.mIsDone = false →
      handler.mExpectTime ≤ frame.now →
      handler ∈ frame.atStart
  keptOrCalled :
    ∀ handler ∈ frame.atStart,
      (∃ current ∈ board.mTasklist, current.key = handler.key) ∨
        ∃ event ∈ log,
          event.isCall = true ∧ event.serial = handler.serial
  onlyDue :
    ∀ serial ∈ frame.timedOut,
      ∃ handler ∈ frame.atStart,
        handler.serial = serial ∧
          handler.mIsDone = false ∧
          handler.mExpectTime ≤ frame.now

namespace CheckOk

variable
  {board : TaskBoard Task}
  {log : List TaskEvent}
  {frame : CheckFrame Task}

/-- A pass begins with nothing passed. -/
theorem begin
    (cached : board.loopTime ≤ board.clock)
    (small : board.clock + minCheckoutTime ≤ ullongMax) :
    CheckOk { board with mTimer := none } log
      { now := board.clock
        nextMinTime := addUint64 board.clock minCheckoutTime
        position := 0
        atStart := board.mTasklist
        timedOut := [] } := by
  have nextMinTime :
      addUint64 board.clock minCheckoutTime =
        board.clock + minCheckoutTime :=
    TaskBoard.addUint64_of_lt (by unfold ullongMax at small; omega)
  constructor
  · exact cached
  · exact Nat.le_refl _
  · simp only [nextMinTime]
    exact Nat.lt_add_of_pos_right (by decide)
  · simpa only [nextMinTime] using small
  · exact Nat.zero_le _
  · intro index handler impossible
    exact absurd impossible (Nat.not_lt_zero index)
  · intro handler member _ _
    exact member
  · intro handler member
    exact Or.inl ⟨handler, member, rfl⟩
  · simp

/-- A running pass does not look at the clock again. -/
theorem clockAdvances
    (ok : CheckOk board log frame)
    {now : Nat}
    (monotone : board.clock ≤ now) :
    CheckOk { board with clock := now } log frame :=
  { ok with started := Nat.le_trans ok.started monotone }

/-- Tasks committed by running code are not due in the same pass. -/
theorem commit
    (ok : CheckOk board log frame)
    {task : Task}
    {msLimitedTime : Nat}
    (atLeastOne : 1 ≤ msLimitedTime)
    (small : board.clock + msLimitedTime < ullongMax) :
    CheckOk (board.commitTask task msLimitedTime) log frame := by
  have expect :
      (board.newHandler task msLimitedTime).mExpectTime =
        board.clock + msLimitedTime :=
    TaskBoard.addUint64_of_lt (by unfold ullongMax at small; omega)
  constructor
  · rw [TaskBoard.commitTask_loopTime]
    exact ok.cached
  · rw [TaskBoard.commitTask_clock]
    exact ok.started
  · exact ok.nextLater
  · exact ok.nextFinite
  · rw [TaskBoard.commitTask_mTasklist, List.length_append]
    exact Nat.le_add_right_of_le ok.inBounds
  · intro index handler behind found
    rw [TaskBoard.commitTask_mTasklist,
      List.getElem?_append_left
        (Nat.lt_of_lt_of_le behind ok.inBounds)] at found
    exact ok.passed index handler behind found
  · intro handler member pending due
    rw [TaskBoard.commitTask_mTasklist, List.mem_append,
      List.mem_singleton] at member
    rcases member with old | rfl
    · exact ok.dueFromStart handler old pending due
    · have := ok.started
      omega
  · intro handler member
    rcases ok.keptOrCalled handler member with
      ⟨current, currentMember, sameKey⟩ | called
    · refine Or.inl ⟨current, ?_, sameKey⟩
      rw [TaskBoard.commitTask_mTasklist]
      exact List.mem_append_left _ currentMember
    · exact Or.inr called
  · exact ok.onlyDue

/-- Calling tasks only takes pending handlers away from the pass. -/
theorem mark
    (ok : CheckOk board log frame)
    (serial : Nat)
    (event : TaskEvent) :
    CheckOk (board.markDone serial) (log ++ [event]) frame := by
  have unmarked :
      ∀ handler ∈ (board.markDone serial).mTasklist,
        handler.mIsDone = false →
        handler ∈ board.mTasklist := by
    intro handler member pending
    obtain ⟨before, beforeMember, rfl⟩ := List.mem_map.mp member
    split at pending
    · simp at pending
    · rename_i different
      rw [if_neg different]
      exact beforeMember
  constructor
  · exact ok.cached
  · exact ok.started
  · exact ok.nextLater
  · exact ok.nextFinite
  · simpa [TaskBoard.markDone] using ok.inBounds
  · intro index handler behind found pending
    simp only [TaskBoard.markDone, List.getElem?_map,
      Option.map_eq_some_iff] at found
    obtain ⟨before, foundBefore, rfl⟩ := found
    split at pending
    · simp at pending
    · rename_i different
      rw [if_neg different]
      exact ok.passed index before behind foundBefore pending
  · intro handler member pending due
    exact ok.dueFromStart handler (unmarked handler member pending)
      pending due
  · intro handler member
    rcases ok.keptOrCalled handler member with
      ⟨current, currentMember, sameKey⟩ |
        ⟨earlier, earlierMember, calls, same⟩
    · have keyMember :
          handler.key ∈
            (board.markDone serial).mTasklist.map
              TaskTimeoutHandler.key := by
        rw [TaskBoard.markDone_keys]
        exact List.mem_map.mpr ⟨current, currentMember, sameKey⟩
      exact Or.inl (List.mem_map.mp keyMember)
    · exact Or.inr
        ⟨earlier, List.mem_append_left _ earlierMember, calls, same⟩
  · exact ok.onlyDue

/-- Dropping a done handler at the iterator loses nothing pending. -/
theorem erase
    (ok : CheckOk board log frame)
    (recorded : Recorded board log)
    {handler : TaskTimeoutHandler Task}
    (found : board.mTasklist[frame.position]? = some handler)
    (done : handler.mIsDone = true) :
    CheckOk
      { board with
        mTasklist := board.mTasklist.eraseIdx frame.position }
      log frame := by
  obtain ⟨inside, atPosition⟩ := List.getElem?_eq_some_iff.mp found
  constructor
  · exact ok.cached
  · exact ok.started
  · exact ok.nextLater
  · exact ok.nextFinite
  · rw [List.length_eraseIdx_of_lt inside]
    omega
  · intro index current behind currentFound
    rw [List.getElem?_eraseIdx_of_lt behind] at currentFound
    exact ok.passed index current behind currentFound
  · intro current member
    exact ok.dueFromStart current (List.mem_of_mem_eraseIdx member)
  · intro first member
    rcases ok.keptOrCalled first member with
      ⟨current, currentMember, sameKey⟩ | called
    · by_cases isErased : current = handler
      · subst current
        have sameSerial : handler.serial = first.serial :=
          congrArg Prod.fst sameKey
        rw [← sameSerial]
        exact Or.inr
          ((recorded.doneIffCalled handler currentMember).mp done)
      · refine Or.inl ⟨current, ?_, sameKey⟩
        obtain ⟨index, indexInside, atIndex⟩ :=
          List.mem_iff_getElem.mp currentMember
        refine List.mem_eraseIdx_iff_getElem.mpr
          ⟨index, indexInside, ?_, atIndex⟩
        rintro rfl
        exact isErased (atIndex.symm.trans atPosition)
    · exact Or.inr called
  · exact ok.onlyDue

/-- A due handler at the iterator is timed out. -/
theorem timeoutOwn
    (ok : CheckOk board log frame)
    {handler : TaskTimeoutHandler Task}
    (found : board.mTasklist[frame.position]? = some handler)
    (pending : handler.mIsDone = false)
    (due : handler.mExpectTime ≤ frame.now) :
    CheckOk (board.markDone handler.serial)
      (log ++ [.timeout handler.serial])
      { frame with
        position := frame.position + 1
        timedOut := frame.timedOut ++ [handler.serial] } := by
  obtain ⟨inside, _⟩ := List.getElem?_eq_some_iff.mp found
  have marked := ok.mark handler.serial (.timeout handler.serial)
  refine { marked with inBounds := ?_, passed := ?_, onlyDue := ?_ }
  · simpa [TaskBoard.markDone] using Nat.succ_le_of_lt inside
  · intro index current behind currentFound currentPending
    rcases Nat.lt_succ_iff_lt_or_eq.mp behind with before | rfl
    · exact marked.passed index current before currentFound
        currentPending
    · simp only [TaskBoard.markDone, List.getElem?_map, found,
        Option.map_some, if_pos, Option.some.injEq] at currentFound
      rw [← currentFound] at currentPending
      simp at currentPending
  · intro serial member
    rcases List.mem_append.mp member with old | new
    · exact ok.onlyDue serial old
    · rw [List.mem_singleton.mp new]
      exact ⟨handler,
        ok.dueFromStart handler (List.mem_of_getElem? found)
          pending due,
        rfl, pending, due⟩

/-- A handler that is not due yet bounds the next check. -/
theorem skip
    (ok : CheckOk board log frame)
    {handler : TaskTimeoutHandler Task}
    (found : board.mTasklist[frame.position]? = some handler)
    (notDue : frame.now < handler.mExpectTime) :
    CheckOk board log
      { frame with
        position := frame.position + 1
        nextMinTime :=
          if frame.nextMinTime > handler.mExpectTime then
            handler.mExpectTime
          else
            frame.nextMinTime } := by
  obtain ⟨inside, _⟩ := List.getElem?_eq_some_iff.mp found
  refine { ok with
    nextLater := ?_
    nextFinite := ?_
    inBounds := Nat.succ_le_of_lt inside
    passed := ?_ }
  · have := ok.nextLater
    dsimp only
    split <;> omega
  · have := ok.nextFinite
    dsimp only
    split <;> omega
  · intro index current behind currentFound pending
    dsimp only at behind ⊢
    rcases Nat.lt_succ_iff_lt_or_eq.mp behind with before | rfl
    · have := ok.passed index current before currentFound pending
      split <;> omega
    · rw [found, Option.some.injEq] at currentFound
      rw [← currentFound]
      split <;> omega

/-- A pass that comes to the end of the list arms the timer for what is left. -/
theorem finish
    (ok : CheckOk board log frame)
    (atEnd : board.mTasklist.length ≤ frame.position) :
    let next := finishCheck board frame
    (next.mNextCheckTime < ullongMax →
      ∃ deadline,
        next.mTimer = some deadline ∧
          deadline ≤ next.mNextCheckTime) ∧
    ∀ handler ∈ next.mTasklist,
      handler.mIsDone = false →
      next.mNextCheckTime ≤ handler.mExpectTime ∧
        frame.now < handler.mExpectTime := by
  intro next
  have cached := ok.cached
  have nextLater := ok.nextLater
  have nextFinite := ok.nextFinite
  by_cases empty : board.mTasklist = []
  · simp [next, finishCheck, empty]
  · have notEmpty : board.mTasklist.isEmpty = false := by
      simpa using empty
    have difference :
        subUint64 frame.nextMinTime frame.now =
          frame.nextMinTime - frame.now :=
      TaskBoard.subUint64_of_le (by omega)
        (by unfold ullongMax at nextFinite; omega)
    simp only [next, finishCheck, notEmpty, difference,
      TaskBoard.startTimer, Bool.false_eq_true, if_false]
    constructor
    · intro _
      refine ⟨_, rfl, ?_⟩
      omega
    · intro handler member pending
      obtain ⟨index, inside, atIndex⟩ := List.mem_iff_getElem.mp member
      have found : board.mTasklist[index]? = some handler :=
        List.getElem?_eq_some_iff.mpr ⟨inside, atIndex⟩
      have bound :=
        ok.passed index handler (Nat.lt_of_lt_of_le inside atEnd)
          found pending
      exact ⟨bound, Nat.lt_of_lt_of_le nextLater bound⟩

end CheckOk

/-! ## The invariant of all steps in range -/

/-- Times are ordered, and the timer covers every pending handler. -/
structure Deadlines (machine : BoardMachine Task Label) : Prop where
  cached :
    machine.board.loopTime ≤ machine.board.clock
  finite :
    ∀ handler ∈ machine.board.mTasklist,
      handler.mExpectTime < ullongMax
  armed :
    checks machine.stack = [] →
    machine.board.mNextCheckTime < ullongMax →
    ∃ deadline,
      machine.board.mTimer = some deadline ∧
        deadline ≤ machine.board.mNextCheckTime
  covered :
    checks machine.stack = [] →
    ∀ handler ∈ machine.board.mTasklist,
      handler.mIsDone = false →
      machine.board.mNextCheckTime ≤ handler.mExpectTime
  checking :
    ∀ frame ∈ checks machine.stack,
      CheckOk machine.board machine.log frame

namespace Deadlines

variable {machine next : BoardMachine Task Label}

theorem start (now : Nat) :
    Deadlines
      (BoardMachine.start false now : BoardMachine Task Label) := by
  constructor <;> simp [BoardMachine.start, TaskBoard.startWork]

/-- Calls and returns that leave the passes alone keep the deadlines. -/
theorem restack
    (deadlines : Deadlines machine)
    {stack : List (Frame Task Label)}
    (sameChecks : checks stack = checks machine.stack) :
    Deadlines { machine with stack := stack } where
  cached := deadlines.cached
  finite := deadlines.finite
  armed noCheck := deadlines.armed (sameChecks ▸ noCheck)
  covered noCheck := deadlines.covered (sameChecks ▸ noCheck)
  checking frame member := deadlines.checking frame (sameChecks ▸ member)

theorem commit
    (deadlines : Deadlines machine)
    {task : Task}
    {msLimitedTime : Nat}
    (atLeastOne : 1 ≤ msLimitedTime)
    (small : machine.board.clock + msLimitedTime < ullongMax) :
    Deadlines { machine with
      board := machine.board.commitTask task msLimitedTime } := by
  have expect :
      (machine.board.newHandler task msLimitedTime).mExpectTime =
        machine.board.clock + msLimitedTime :=
    TaskBoard.addUint64_of_lt (by unfold ullongMax at small; omega)
  obtain ⟨notLater, notAfterNew⟩ :=
    machine.board.commitTask_mNextCheckTime_le task msLimitedTime
  constructor
  · rw [TaskBoard.commitTask_loopTime, TaskBoard.commitTask_clock]
    exact deadlines.cached
  · intro handler member
    rw [TaskBoard.commitTask_mTasklist, List.mem_append,
      List.mem_singleton] at member
    rcases member with old | rfl
    · exact deadlines.finite handler old
    · omega
  · intro noCheck
    exact TaskBoard.commitTask_armed small deadlines.cached
      (deadlines.armed noCheck)
  · intro noCheck handler member pending
    rw [TaskBoard.commitTask_mTasklist, List.mem_append,
      List.mem_singleton] at member
    rcases member with old | rfl
    · exact Nat.le_trans notLater
        (deadlines.covered noCheck handler old pending)
    · exact notAfterNew
  · intro frame member
    exact (deadlines.checking frame member).commit atLeastOne small

/-- An executed task is one deadline less to cover. -/
theorem execute
    (deadlines : Deadlines machine)
    {stack : List (Frame Task Label)}
    (sameChecks : checks stack = checks machine.stack)
    (serial : Nat)
    (event : TaskEvent) :
    Deadlines
      { board := machine.board.markDone serial
        stack := stack
        log := machine.log ++ [event] } := by
  have fromBefore :
      ∀ handler ∈ (machine.board.markDone serial).mTasklist,
        ∃ before ∈ machine.board.mTasklist,
          handler.mExpectTime = before.mExpectTime ∧
            (handler.mIsDone = false → before.mIsDone = false) := by
    intro handler member
    obtain ⟨before, beforeMember, sameKey, doneIff⟩ :=
      TaskBoard.mem_markDone member
    refine ⟨before, beforeMember, congrArg (·.2.2) sameKey, ?_⟩
    intro pending
    by_contra done
    rw [doneIff.mpr (Or.inl (by simpa using done))] at pending
    simp at pending
  constructor
  · exact deadlines.cached
  · intro handler member
    obtain ⟨before, beforeMember, sameTime, _⟩ :=
      fromBefore handler member
    rw [sameTime]
    exact deadlines.finite before beforeMember
  · intro noCheck
    exact deadlines.armed (sameChecks ▸ noCheck)
  · intro noCheck handler member pending
    obtain ⟨before, beforeMember, sameTime, stillPending⟩ :=
      fromBefore handler member
    rw [sameTime]
    exact deadlines.covered (sameChecks ▸ noCheck) before beforeMember
      (stillPending pending)
  · intro frame member
    exact (deadlines.checking frame (sameChecks ▸ member)).mark
      serial event

/-- One iteration of `checkTimeout`. -/
theorem checkStep
    (deadlines : Deadlines machine)
    (recorded : Recorded machine.board machine.log)
    {frame : CheckFrame Task}
    (stack : machine.stack = [.checkTimeout frame]) :
    Deadlines (machine.checkStep frame []) := by
  have ok : CheckOk machine.board machine.log frame :=
    deadlines.checking frame (by simp [stack])
  unfold BoardMachine.checkStep
  split
  · rename_i handler found
    split
    · rename_i done
      constructor
      · exact deadlines.cached
      · intro current member
        exact deadlines.finite current (List.mem_of_mem_eraseIdx member)
      · simp [stack]
      · simp [stack]
      · intro current member
        simp only [stack, checks_checkTimeout, checks_nil,
          List.mem_singleton] at member
        subst current
        exact ok.erase recorded found done
    · rename_i notDone
      have pending : handler.mIsDone = false := by
        simpa using notDone
      split
      · rename_i due
        have marked :=
          deadlines.execute rfl handler.serial
            (.timeout handler.serial)
        constructor
        · exact marked.cached
        · exact marked.finite
        · simp
        · simp
        · intro current member
          simp only [checks_body, checks_checkTimeout, checks_nil,
            List.mem_singleton] at member
          subst current
          exact ok.timeoutOwn found pending due
      · rename_i notDue
        constructor
        · exact deadlines.cached
        · exact deadlines.finite
        · simp
        · simp
        · intro current member
          simp only [checks_checkTimeout, checks_nil,
            List.mem_singleton] at member
          subst current
          exact ok.skip found (by omega)
  · rename_i atEnd
    obtain ⟨armed, covered⟩ :=
      ok.finish (List.getElem?_eq_none_iff.mp atEnd)
    constructor
    · unfold finishCheck
      split <;> exact deadlines.cached
    · unfold finishCheck
      split <;> exact deadlines.finite
    · exact fun _ => armed
    · exact fun _ handler member pending =>
        (covered handler member pending).1
    · simp

variable [BoardLabels Task Label]

/-- One iteration of `eventTrigger`. -/
theorem triggerStep
    (deadlines : Deadlines machine)
    {frame : TriggerFrame Task Label}
    {rest : List (Frame Task Label)}
    (stack : machine.stack = .eventTrigger frame :: rest) :
    Deadlines (machine.triggerStep frame rest) := by
  unfold BoardMachine.triggerStep
  split
  · split
    · exact deadlines.execute (by simp [stack]) _ _
    · exact deadlines.restack (by simp [stack])
  · exact deadlines.restack (by simp [stack])

/-- Every step in range keeps the deadlines. -/
theorem step
    (deadlines : Deadlines machine)
    (invariant : Invariant machine)
    {action : BoardAction Task Label}
    (inRange : InRange machine action)
    (stepped : machine.step? action = some next) :
    Deadlines next := by
  cases action with
  | commitTask task msLimitedTime =>
      simp only [step?, Option.ite_none_right_eq_some,
        Option.some.injEq] at stepped
      obtain ⟨_, rfl⟩ := stepped
      exact deadlines.commit inRange.1 inRange.2
  | eventTrigger e =>
      simp only [step?, Option.ite_none_right_eq_some,
        Option.some.injEq] at stepped
      obtain ⟨_, rfl⟩ := stepped
      exact deadlines.restack rfl
  | removeTask e =>
      simp only [step?, Option.ite_none_right_eq_some,
        Option.some.injEq, List.isEmpty_iff] at stepped
      obtain ⟨empty, rfl⟩ := stepped
      constructor
      · exact deadlines.cached
      · exact fun handler member =>
          deadlines.finite handler (List.mem_filter.mp member).1
      · exact deadlines.armed
      · exact fun noCheck handler member =>
          deadlines.covered noCheck handler
            (List.mem_filter.mp member).1
      · simp [empty]
  | timerFires =>
      simp only [step?, Option.ite_none_right_eq_some,
        Option.some.injEq] at stepped
      obtain ⟨_, rfl⟩ := stepped
      constructor
      · exact deadlines.cached
      · exact deadlines.finite
      · simp
      · simp
      · intro frame member
        simp only [checks_checkTimeout, checks_nil,
          List.mem_singleton] at member
        subst frame
        exact CheckOk.begin deadlines.cached inRange
  | loopStep =>
      cases stack : machine.stack with
      | nil =>
          simp [step?, stack] at stepped
      | cons top rest =>
          cases top with
          | eventTrigger frame =>
              simp only [step?, stack, Option.some.injEq] at stepped
              subst next
              exact deadlines.triggerStep stack
          | checkTimeout frame =>
              simp only [step?, stack, Option.some.injEq] at stepped
              subst next
              have alone : rest = [] := invariant.checkAlone stack
              subst rest
              exact deadlines.checkStep invariant.recorded stack
          | body serial =>
              simp [step?, stack] at stepped
  | bodyReturns =>
      cases stack : machine.stack with
      | nil =>
          simp [step?, stack] at stepped
      | cons top rest =>
          cases top with
          | body serial =>
              simp only [step?, stack, Option.some.injEq] at stepped
              subst next
              exact deadlines.restack (by simp [stack])
          | eventTrigger frame =>
              simp [step?, stack] at stepped
          | checkTimeout frame =>
              simp [step?, stack] at stepped
  | clockAdvances now =>
      simp only [step?, Option.ite_none_right_eq_some,
        Option.some.injEq] at stepped
      obtain ⟨monotone, rfl⟩ := stepped
      constructor
      · exact Nat.le_trans deadlines.cached monotone
      · exact deadlines.finite
      · exact deadlines.armed
      · exact deadlines.covered
      · exact fun frame member =>
          (deadlines.checking frame member).clockAdvances monotone
  | loopTimeUpdates =>
      simp only [step?, Option.ite_none_right_eq_some,
        Option.some.injEq, List.isEmpty_iff] at stepped
      obtain ⟨empty, rfl⟩ := stepped
      constructor
      · exact Nat.le_refl _
      · exact deadlines.finite
      · exact deadlines.armed
      · exact deadlines.covered
      · simp [empty]

/-- The deadlines are kept in every state that steps in range reach. -/
theorem of_reachable
    {now : Nat}
    (reachable :
      StepSystem.Reachable step? InRange
        (BoardMachine.start false now) machine) :
    Deadlines machine ∧ Invariant machine := by
  refine reachable.invariant ?_ ?_
  · exact ⟨start now, Invariant.start false now⟩
  · rintro _ _ _ ⟨deadlines, invariant⟩ inRange stepped
    exact ⟨deadlines.step invariant inRange stepped,
      invariant.step stepped⟩

end Deadlines

/-! ## Every pass terminates -/

variable [BoardLabels Task Label]

/-- Within an iteration a pass waits for the code that it called. -/
def InsideIteration
    (machine : BoardMachine Task Label)
    (action : BoardAction Task Label) : Prop :=
  InRange machine action ∧
    (machine.stack.length ≤ 1 → ∃ now, action = .clockAdvances now)

/--
A pass of `checkTimeout` goes once around its loop: it takes one step, and the
code that this step called, if any, runs until it returns.
-/
def Iteration (earlier later : BoardMachine Task Label) : Prop :=
  ∃ first,
    earlier.step? .loopStep = some first ∧
      StepSystem.Reachable step? InsideIteration first later ∧
      later.stack.length = 1

/-- The number of tasks that are due at a time and not done. -/
def dueTasks
    (board : TaskBoard Task)
    (now : Nat) : Nat :=
  board.mTasklist.countP fun handler =>
    !handler.mIsDone && decide (handler.mExpectTime ≤ now)

omit [BoardLabels Task Label] in
theorem dueTasks_commitTask
    (board : TaskBoard Task)
    (task : Task)
    (msLimitedTime now : Nat)
    (later : now < (board.newHandler task msLimitedTime).mExpectTime) :
    dueTasks (board.commitTask task msLimitedTime) now =
      dueTasks board now := by
  simp only [dueTasks, TaskBoard.commitTask_mTasklist,
    List.countP_append, List.countP_singleton]
  have notDue :
      ¬ (board.newHandler task msLimitedTime).mExpectTime ≤ now := by
    omega
  simp [notDue]

omit [BoardLabels Task Label] in
theorem dueTasks_markDone_le
    (board : TaskBoard Task)
    (serial now : Nat) :
    dueTasks (board.markDone serial) now ≤ dueTasks board now := by
  simp only [dueTasks, TaskBoard.markDone, List.countP_map]
  apply List.countP_mono_left
  intro handler _ due
  simp only [Function.comp] at due
  split at due
  · simp at due
  · exact due

omit [BoardLabels Task Label] in
/-- Timing out a due task leaves fewer of them. -/
theorem dueTasks_markDone_lt
    {board : TaskBoard Task}
    {handler : TaskTimeoutHandler Task}
    {now : Nat}
    (member : handler ∈ board.mTasklist)
    (pending : handler.mIsDone = false)
    (due : handler.mExpectTime ≤ now) :
    dueTasks (board.markDone handler.serial) now <
      dueTasks board now := by
  obtain ⟨before, after, shape⟩ := List.append_of_mem member
  let rest : TaskBoard Task :=
    { board with mTasklist := before ++ after }
  have fewer := dueTasks_markDone_le rest handler.serial now
  simp only [dueTasks, TaskBoard.markDone, shape, rest,
    List.map_append, List.map_cons, List.countP_append,
    List.countP_cons, pending, due, if_true, Bool.not_true,
    Bool.not_false, decide_true, Bool.false_and, Bool.true_and,
    Bool.false_eq_true, if_false] at fewer ⊢
  omega

/-- Called code keeps the deadlines. -/
theorem Deadlines.inside
    {first later : BoardMachine Task Label}
    (deadlines : Deadlines first)
    (invariant : Invariant first)
    (inside :
      StepSystem.Reachable step? InsideIteration first later) :
    Deadlines later ∧ Invariant later := by
  refine inside.invariant ?_ ?_
  · exact ⟨deadlines, invariant⟩
  · rintro _ _ _ ⟨before, holds⟩ permitted stepped
    exact ⟨before.step holds permitted.1 stepped, holds.step stepped⟩

/-- Below its own loop a pass only sees the clock advance. -/
private theorem quietIteration
    {first later : BoardMachine Task Label}
    (quiet : first.stack.length ≤ 1)
    (inside :
      StepSystem.Reachable step? InsideIteration first later) :
    later.stack = first.stack ∧
      later.board.mTasklist = first.board.mTasklist := by
  refine inside.invariant ?_ ?_
  · exact ⟨rfl, rfl⟩
  · rintro machine action next ⟨sameStack, sameList⟩ permitted stepped
    obtain ⟨now, rfl⟩ := permitted.2 (sameStack ▸ quiet)
    simp only [step?, Option.ite_none_right_eq_some,
      Option.some.injEq] at stepped
    obtain ⟨_, rfl⟩ := stepped
    exact ⟨sameStack, sameList⟩

/-- Code called by a pass keeps its frame and adds no due task. -/
private theorem insideStep
    {machine next : BoardMachine Task Label}
    {frame : CheckFrame Task}
    {above : List (Frame Task Label)}
    {action : BoardAction Task Label}
    (deadlines : Deadlines machine)
    (invariant : Invariant machine)
    (stack : machine.stack = above ++ [.checkTimeout frame])
    (permitted : InsideIteration machine action)
    (stepped : machine.step? action = some next) :
    (∃ above, next.stack = above ++ [.checkTimeout frame]) ∧
      dueTasks next.board frame.now ≤
        dueTasks machine.board frame.now := by
  have ok := deadlines.checking frame (mem_checks (by simp [stack]))
  cases action with
  | commitTask task msLimitedTime =>
      simp only [step?, Option.ite_none_right_eq_some,
        Option.some.injEq] at stepped
      obtain ⟨_, rfl⟩ := stepped
      refine ⟨⟨above, stack⟩, Nat.le_of_eq ?_⟩
      apply dueTasks_commitTask
      obtain ⟨atLeastOne, small⟩ := permitted.1
      have expect :
          (machine.board.newHandler task msLimitedTime).mExpectTime =
            machine.board.clock + msLimitedTime :=
        TaskBoard.addUint64_of_lt (by unfold ullongMax at small; omega)
      have := ok.started
      omega
  | eventTrigger e =>
      simp only [step?, Option.ite_none_right_eq_some,
        Option.some.injEq] at stepped
      obtain ⟨_, rfl⟩ := stepped
      exact ⟨⟨_ :: above, by rw [stack]; rfl⟩, Nat.le_refl _⟩
  | removeTask e =>
      simp [step?, stack] at stepped
  | timerFires =>
      simp [step?, stack] at stepped
  | loopStep =>
      cases above with
      | nil =>
          obtain ⟨now, impossible⟩ := permitted.2 (by simp [stack])
          cases impossible
      | cons top rest =>
          cases top with
          | eventTrigger trigger =>
              simp only [step?, stack, List.cons_append,
                Option.some.injEq] at stepped
              subst next
              unfold triggerStep
              split
              · split
                · exact ⟨⟨_ :: _ :: rest, rfl⟩,
                    dueTasks_markDone_le _ _ _⟩
                · exact ⟨⟨_ :: rest, rfl⟩, Nat.le_refl _⟩
              · exact ⟨⟨rest, rfl⟩, Nat.le_refl _⟩
          | checkTimeout other =>
              have alone := invariant.checkAlone stack
              simp at alone
          | body serial =>
              simp [step?, stack] at stepped
  | bodyReturns =>
      cases above with
      | nil =>
          simp [step?, stack] at stepped
      | cons top rest =>
          cases top with
          | body serial =>
              simp only [step?, stack, List.cons_append,
                Option.some.injEq] at stepped
              subst next
              exact ⟨⟨rest, rfl⟩, Nat.le_refl _⟩
          | eventTrigger trigger =>
              simp [step?, stack] at stepped
          | checkTimeout other =>
              simp [step?, stack] at stepped
  | clockAdvances now =>
      simp only [step?, Option.ite_none_right_eq_some,
        Option.some.injEq] at stepped
      obtain ⟨_, rfl⟩ := stepped
      exact ⟨⟨above, stack⟩, Nat.le_refl _⟩
  | loopTimeUpdates =>
      simp [step?, stack] at stepped

/-- A run of called code keeps the frame of the pass and adds no due task. -/
private theorem insideRun
    {first later : BoardMachine Task Label}
    {frame : CheckFrame Task}
    {above : List (Frame Task Label)}
    (deadlines : Deadlines first)
    (invariant : Invariant first)
    (stack : first.stack = above ++ [.checkTimeout frame])
    (inside :
      StepSystem.Reachable step? InsideIteration first later) :
    (∃ above, later.stack = above ++ [.checkTimeout frame]) ∧
      dueTasks later.board frame.now ≤
        dueTasks first.board frame.now := by
  induction inside with
  | initial =>
      exact ⟨⟨above, stack⟩, Nat.le_refl _⟩
  | step before permitted stepped inductionHypothesis =>
      obtain ⟨middleDeadlines, middleInvariant⟩ :=
        deadlines.inside invariant before
      obtain ⟨⟨middleAbove, middleStack⟩, fewer⟩ :=
        inductionHypothesis
      obtain ⟨nextStack, lessOrSame⟩ :=
        insideStep middleDeadlines middleInvariant middleStack
          permitted stepped
      exact ⟨nextStack, Nat.le_trans lessOrSame fewer⟩

/-- What a pass still has to do: due tasks first, then the rest of the list. -/
def remainingWork
    (machine : BoardMachine Task Label)
    (frame : CheckFrame Task) : Nat × Nat :=
  (dueTasks machine.board frame.now,
    machine.board.mTasklist.length - frame.position)

omit [BoardLabels Task Label] in
/-- Going on in the list is progress when no due task was added. -/
private theorem remainingWork_lt
    {earlier later : BoardMachine Task Label}
    {frame after : CheckFrame Task}
    (fewer :
      dueTasks later.board after.now ≤ dueTasks earlier.board frame.now)
    (further :
      later.board.mTasklist.length - after.position <
        earlier.board.mTasklist.length - frame.position) :
    Prod.Lex (· < ·) (· < ·)
      (remainingWork later after) (remainingWork earlier frame) := by
  rcases Nat.lt_or_eq_of_le fewer with less | same
  · exact .left _ _ less
  · simp only [remainingWork, same]
    exact .right _ further

/-- Each iteration of a pass leaves less work. -/
private theorem iteration_decreases
    {earlier later : BoardMachine Task Label}
    {frame : CheckFrame Task}
    (deadlines : Deadlines earlier)
    (invariant : Invariant earlier)
    (stack : earlier.stack = [.checkTimeout frame])
    (iteration : Iteration earlier later) :
    ∃ after,
      later.stack = [.checkTimeout after] ∧
        Deadlines later ∧
        Invariant later ∧
        Prod.Lex (· < ·) (· < ·)
          (remainingWork later after) (remainingWork earlier frame) := by
  obtain ⟨first, stepped, inside, depth⟩ := iteration
  have firstDeadlines : Deadlines first :=
    deadlines.step invariant (by trivial) stepped
  have firstInvariant : Invariant first :=
    invariant.step stepped
  obtain ⟨laterDeadlines, laterInvariant⟩ :=
    firstDeadlines.inside firstInvariant inside
  simp only [step?, stack, Option.some.injEq] at stepped
  unfold checkStep at stepped
  split at stepped
  · rename_i handler found
    obtain ⟨position_lt, _⟩ := List.getElem?_eq_some_iff.mp found
    split at stepped
    · subst first
      obtain ⟨sameStack, sameList⟩ :=
        quietIteration (by simp [stack]) inside
      refine ⟨frame, by rw [sameStack, stack], laterDeadlines,
        laterInvariant, remainingWork_lt ?_ ?_⟩
      · simp only [dueTasks, sameList]
        exact (List.eraseIdx_sublist _ _).countP_le
      · rw [sameList, List.length_eraseIdx_of_lt position_lt]
        omega
    · rename_i notDone
      split at stepped
      · rename_i due
        let after : CheckFrame Task :=
          { frame with
            position := frame.position + 1
            timedOut := frame.timedOut ++ [handler.serial] }
        have firstStack :
            first.stack =
              [.body handler.serial] ++ [.checkTimeout after] := by
          rw [← stepped]
          rfl
        obtain ⟨⟨above, shape⟩, fewer⟩ :=
          insideRun firstDeadlines firstInvariant firstStack inside
        have nothingAbove : above = [] := by
          rw [shape, List.length_append, List.length_singleton] at depth
          exact List.eq_nil_of_length_eq_zero (by omega)
        refine ⟨after, by rw [shape, nothingAbove]; rfl,
          laterDeadlines, laterInvariant, .left _ _ ?_⟩
        have less :
            dueTasks first.board frame.now <
              dueTasks earlier.board frame.now := by
          rw [← stepped]
          exact dueTasks_markDone_lt (List.mem_of_getElem? found)
            (by simpa using notDone) due
        exact Nat.lt_of_le_of_lt fewer less
      · subst first
        obtain ⟨sameStack, sameList⟩ :=
          quietIteration (by simp) inside
        refine ⟨_, sameStack, laterDeadlines, laterInvariant,
          remainingWork_lt ?_ ?_⟩
        · simp only [dueTasks, sameList]
          exact Nat.le_refl _
        · rw [sameList]
          dsimp only
          omega
  · subst first
    obtain ⟨sameStack, _⟩ := quietIteration (by simp) inside
    rw [sameStack] at depth
    simp at depth

/-- A pass cannot go around its loop forever. -/
private theorem iteration_acc
    {machine : BoardMachine Task Label}
    {frame : CheckFrame Task}
    (deadlines : Deadlines machine)
    (invariant : Invariant machine)
    (stack : machine.stack = [.checkTimeout frame]) :
    Acc (fun later earlier => Iteration earlier later) machine := by
  constructor
  intro later iteration
  obtain ⟨after, laterStack, laterDeadlines, laterInvariant, less⟩ :=
    iteration_decreases deadlines invariant stack iteration
  exact iteration_acc laterDeadlines laterInvariant laterStack
termination_by remainingWork machine frame
decreasing_by exact less

/-! ## What is promised about deadlines -/

/-- The promises of the board about the times at which it looks at its tasks. -/
structure DeadlinesKept (machine : BoardMachine Task Label) : Prop where
  /-- Between passes, the timer covers every task that is not done. -/
  timerArmed :
    checks machine.stack = [] →
    ∀ handler ∈ machine.board.mTasklist,
      handler.mIsDone = false →
      ∃ deadline,
        machine.board.mTimer = some deadline ∧
          deadline ≤ machine.board.mNextCheckTime ∧
          machine.board.mNextCheckTime ≤ handler.mExpectTime
  /-- A pass can always go on, and not forever. -/
  passTerminates :
    ∀ frame,
      machine.stack = [.checkTimeout frame] →
      (machine.step? .loopStep).isSome = true ∧
        Acc (fun later earlier => Iteration earlier later) machine
  /-- A pass that returns leaves no task that was due and is not done. -/
  dueDone :
    ∀ frame next,
      machine.stack = [.checkTimeout frame] →
      machine.step? .loopStep = some next →
      next.stack = [] →
      ∀ handler ∈ next.board.mTasklist,
        handler.mIsDone = false →
        frame.now < handler.mExpectTime
  /-- Every task that was due when the pass began has been called. -/
  dueCalled :
    ∀ frame next,
      machine.stack = [.checkTimeout frame] →
      machine.step? .loopStep = some next →
      next.stack = [] →
      ∀ handler ∈ frame.atStart,
        handler.mExpectTime ≤ frame.now →
        ∃ event ∈ next.log,
          event.isCall = true ∧ event.serial = handler.serial
  /-- A pass times out tasks that were due when it began, and no others. -/
  onlyDue :
    ∀ frame,
      Frame.checkTimeout frame ∈ machine.stack →
      ∀ serial ∈ frame.timedOut,
        ∃ handler ∈ frame.atStart,
          handler.serial = serial ∧
            handler.mIsDone = false ∧
            handler.mExpectTime ≤ frame.now

/-- In debug mode the check time is never in the future and nothing arms. -/
private theorem neverArmed
    {now : Nat}
    {machine : BoardMachine Task Label}
    (reachable :
      StepSystem.Reachable step? (fun _ _ => True)
        (BoardMachine.start true now) machine) :
    machine.board.mTimer = none ∧
      machine.board.mNextCheckTime = 0 ∧
      checks machine.stack = [] := by
  refine reachable.invariant ?_ ?_
  · simp [BoardMachine.start, TaskBoard.startWork]
  · rintro machine action next ⟨unarmed, neverNext, noCheck⟩ _ stepped
    cases action with
    | commitTask task msLimitedTime =>
        simp only [step?, Option.ite_none_right_eq_some,
          Option.some.injEq] at stepped
        obtain ⟨_, rfl⟩ := stepped
        simp [TaskBoard.commitTask, neverNext, unarmed, noCheck]
    | eventTrigger e =>
        simp only [step?, Option.ite_none_right_eq_some,
          Option.some.injEq] at stepped
        obtain ⟨_, rfl⟩ := stepped
        exact ⟨unarmed, neverNext, noCheck⟩
    | removeTask e =>
        simp only [step?, Option.ite_none_right_eq_some,
          Option.some.injEq] at stepped
        obtain ⟨_, rfl⟩ := stepped
        exact ⟨unarmed, neverNext, noCheck⟩
    | timerFires =>
        simp [step?, timerDue, unarmed] at stepped
    | loopStep =>
        cases stack : machine.stack with
        | nil =>
            simp [step?, stack] at stepped
        | cons top rest =>
            rw [stack] at noCheck
            cases top with
            | eventTrigger frame =>
                simp only [step?, stack, Option.some.injEq] at stepped
                subst next
                unfold triggerStep
                split
                · split <;> exact ⟨unarmed, neverNext, noCheck⟩
                · exact ⟨unarmed, neverNext, noCheck⟩
            | checkTimeout frame =>
                simp at noCheck
            | body serial =>
                simp [step?, stack] at stepped
    | bodyReturns =>
        cases stack : machine.stack with
        | nil =>
            simp [step?, stack] at stepped
        | cons top rest =>
            rw [stack] at noCheck
            cases top with
            | body serial =>
                simp only [step?, stack, Option.some.injEq] at stepped
                subst next
                exact ⟨unarmed, neverNext, noCheck⟩
            | eventTrigger frame =>
                simp [step?, stack] at stepped
            | checkTimeout frame =>
                simp at noCheck
    | clockAdvances later =>
        simp only [step?, Option.ite_none_right_eq_some,
          Option.some.injEq] at stepped
        obtain ⟨_, rfl⟩ := stepped
        exact ⟨unarmed, neverNext, noCheck⟩
    | loopTimeUpdates =>
        simp only [step?, Option.ite_none_right_eq_some,
          Option.some.injEq] at stepped
        obtain ⟨_, rfl⟩ := stepped
        exact ⟨unarmed, neverNext, noCheck⟩

/-- A pass that returns has come to the end of the list. -/
private theorem returnedCheck
    {machine next : BoardMachine Task Label}
    {frame : CheckFrame Task}
    (stack : machine.stack = [.checkTimeout frame])
    (stepped : machine.step? .loopStep = some next)
    (returns : next.stack = []) :
    machine.board.mTasklist.length ≤ frame.position ∧
      next.board = finishCheck machine.board frame ∧
      next.log = machine.log := by
  simp only [step?, stack, Option.some.injEq] at stepped
  subst next
  unfold checkStep at returns ⊢
  split at returns
  · split at returns
    · simp [stack] at returns
    · split at returns <;> simp at returns
  · rename_i atEnd
    exact ⟨List.getElem?_eq_none_iff.mp atEnd, rfl, rfl⟩

/--
Through any nesting of events, timeouts and commits whose times are in range
no deadline is missed; in debug mode the timer is never armed.
-/
theorem deadlinesKept_of_reachable
    (now : Nat) :
    (∀ machine : BoardMachine Task Label,
      StepSystem.Reachable step? InRange
        (BoardMachine.start false now) machine →
      DeadlinesKept machine) ∧
    ∀ machine : BoardMachine Task Label,
      StepSystem.Reachable step? (fun _ _ => True)
        (BoardMachine.start true now) machine →
      machine.board.mTimer = none := by
  refine ⟨?_, fun machine reachable => (neverArmed reachable).1⟩
  intro machine reachable
  obtain ⟨deadlines, invariant⟩ := Deadlines.of_reachable reachable
  have passed :
      ∀ frame next,
        machine.stack = [.checkTimeout frame] →
        machine.step? .loopStep = some next →
        next.stack = [] →
        ∀ handler ∈ next.board.mTasklist,
          handler.mIsDone = false →
          frame.now < handler.mExpectTime := by
    intro frame next stack stepped returns handler member pending
    obtain ⟨atEnd, sameBoard, _⟩ := returnedCheck stack stepped returns
    have ok := deadlines.checking frame (by simp [stack])
    rw [sameBoard] at member
    exact ((ok.finish atEnd).2 handler member pending).2
  constructor
  · intro noCheck handler member pending
    have covered := deadlines.covered noCheck handler member pending
    obtain ⟨deadline, armed, inTime⟩ :=
      deadlines.armed noCheck
        (Nat.lt_of_le_of_lt covered (deadlines.finite handler member))
    exact ⟨deadline, armed, inTime, covered⟩
  · intro frame stack
    exact ⟨by simp [step?, stack],
      iteration_acc deadlines invariant stack⟩
  · exact passed
  · intro frame next stack stepped returns handler member due
    obtain ⟨_, sameBoard, sameLog⟩ := returnedCheck stack stepped returns
    have ok := deadlines.checking frame (by simp [stack])
    rw [sameLog]
    rcases ok.keptOrCalled handler member with
      ⟨current, currentMember, sameKey⟩ | called
    · have onBoard : current ∈ next.board.mTasklist := by
        rw [sameBoard]
        unfold finishCheck
        split <;> exact currentMember
      have sameTime : current.mExpectTime = handler.mExpectTime :=
        congrArg (·.2.2) sameKey
      have sameSerial : current.serial = handler.serial :=
        congrArg (·.1) sameKey
      have done : current.mIsDone = true := by
        by_contra pending
        have later :=
          passed frame next stack stepped returns current onBoard
            (by simpa using pending)
        omega
      rw [← sameSerial]
      exact (invariant.recorded.doneIffCalled current currentMember).mp
        done
    · exact called
  · intro frame member
    exact (deadlines.checking frame (mem_checks member)).onlyDue

/--
A task that is timed out commits another one, and the pass arms the timer for
it.
-/
def recommittingRun : Option (BoardMachine Nat Nat) :=
  let _ := numberLabels
  StepSystem.run? step? (BoardMachine.start false 5)
    [.commitTask 1 10, .clockAdvances 20, .loopTimeUpdates, .timerFires,
      .loopStep, .commitTask 2 300, .bodyReturns, .loopStep, .loopStep]

/-- The re-committing run keeps its deadlines. -/
theorem recommittingRun_deadlinesKept :
    let _ := numberLabels
    DeadlinesKept (recommittingRun.get rfl) := by
  let _ := numberLabels
  have accepted : recommittingRun = some (recommittingRun.get rfl) :=
    (Option.some_get _).symm
  exact (deadlinesKept_of_reachable 5).1 _
    (StepSystem.Reachable.of_run? (by decide) accepted)

/-- A limit whose deadline wraps around the 64-bit clock. -/
def wrappedRun : Option (BoardMachine Nat Nat) :=
  let _ := numberLabels
  StepSystem.run? step? (BoardMachine.start false 5)
    [.commitTask 1 ullongMax]

/-- With such a limit the timer comes too late for its own check time. -/
theorem wrappedRun_not_deadlinesKept :
    let _ := numberLabels
    ¬ ∀ (now : Nat) (machine : BoardMachine Nat Nat),
      StepSystem.Reachable step? AtLeastOneMs
        (BoardMachine.start false now) machine →
      DeadlinesKept machine := by
  intro _ always
  have accepted : wrappedRun = some (wrappedRun.get rfl) :=
    (Option.some_get _).symm
  have kept :=
    always 5 _ (StepSystem.Reachable.of_run? (by decide) accepted)
  obtain ⟨deadline, armed, inTime, _⟩ :=
    kept.timerArmed rfl
      { serial := 0, mTask := 1, mIsDone := false, mExpectTime := 4 }
      (by decide) rfl
  have atDeadline :
      (wrappedRun.get rfl).board.mTimer = some 1005 := by
    decide
  have nextCheck :
      (wrappedRun.get rfl).board.mNextCheckTime = 4 := by
    decide
  rw [atDeadline, Option.some.injEq] at armed
  omega

end BoardMachine

end ActivityManager
