import ActivityManager.TaskBoardMachine
import Mathlib.Data.List.Nodup

/-!
# Every committed task runs at most once

The first half relates the board to the log of calls: a handler on the board
is done exactly when its task was called, and a call is never preceded by
another call or by the removal of the same task.  The second half follows the
loops on the call stack: while a frame of `eventTrigger` is active the list
only grows at its end and handlers only become done, so what the loop has
passed stays passed.
-/

namespace ActivityManager.BoardMachine

variable {Task Label : Type}

/-! ## The log and the board -/

/-- The log tells which handlers of the board are done, and calls are unique. -/
structure Recorded
    (board : TaskBoard Task)
    (log : List TaskEvent) : Prop where
  inOrder :
    board.serials.Pairwise (· < ·)
  bounded :
    ∀ serial ∈ board.serials, serial < board.committed
  logBounded :
    ∀ event ∈ log, event.serial < board.committed
  doneIffCalled :
    ∀ handler ∈ board.mTasklist,
      handler.mIsDone = true ↔
        ∃ event ∈ log,
          event.isCall = true ∧ event.serial = handler.serial
  removedAbsent :
    ∀ serial,
      TaskEvent.removed serial ∈ log →
      serial ∉ board.serials
  once :
    log.Pairwise fun earlier later =>
      later.isCall = true → earlier.serial ≠ later.serial

namespace Recorded

variable {board : TaskBoard Task} {log : List TaskEvent}

/-- A board that has just started has nothing to record. -/
theorem start
    (isDebug : Bool)
    (now : Nat) :
    Recorded (TaskBoard.startWork isDebug now : TaskBoard Task) [] := by
  constructor <;> simp [TaskBoard.startWork, TaskBoard.serials]

/-- Only the task list and the number of commits are recorded. -/
theorem sameTasks
    {other : TaskBoard Task}
    (recorded : Recorded board log)
    (sameList : other.mTasklist = board.mTasklist)
    (sameCommitted : other.committed = board.committed) :
    Recorded other log := by
  have sameSerials : other.serials = board.serials := by
    rw [TaskBoard.serials, sameList, TaskBoard.serials]
  constructor
  · rw [sameSerials]
    exact recorded.inOrder
  · rw [sameSerials, sameCommitted]
    exact recorded.bounded
  · rw [sameCommitted]
    exact recorded.logBounded
  · rw [sameList]
    exact recorded.doneIffCalled
  · rw [sameSerials]
    exact recorded.removedAbsent
  · exact recorded.once

/-- Handlers of the board are told apart by their serial numbers. -/
theorem eq_of_serial_eq
    (recorded : Recorded board log)
    {first second : TaskTimeoutHandler Task}
    (firstMember : first ∈ board.mTasklist)
    (secondMember : second ∈ board.mTasklist)
    (sameSerial : first.serial = second.serial) :
    first = second := by
  have nodup : (board.mTasklist.map TaskTimeoutHandler.serial).Nodup :=
    recorded.inOrder.imp Nat.ne_of_lt
  exact List.inj_on_of_nodup_map nodup
    firstMember secondMember sameSerial

theorem serial_mem
    {handler : TaskTimeoutHandler Task}
    (member : handler ∈ board.mTasklist) :
    handler.serial ∈ board.serials :=
  List.mem_map.mpr ⟨handler, member, rfl⟩

/-- A commit takes a serial number that nothing has used. -/
theorem commit
    (recorded : Recorded board log)
    (task : Task)
    (msLimitedTime : Nat) :
    Recorded (board.commitTask task msLimitedTime) log := by
  have serialsShape :
      (board.commitTask task msLimitedTime).serials =
        board.serials ++ [board.committed] := by
    simp [TaskBoard.serials, TaskBoard.newHandler]
  constructor
  · rw [serialsShape, List.pairwise_append]
    refine ⟨recorded.inOrder, by simp, ?_⟩
    intro serial member new newMember
    rw [List.mem_singleton.mp newMember]
    exact recorded.bounded serial member
  · intro serial member
    rw [serialsShape, List.mem_append, List.mem_singleton] at member
    rw [TaskBoard.commitTask_committed]
    rcases member with old | rfl
    · exact Nat.lt_succ_of_lt (recorded.bounded serial old)
    · exact Nat.lt_succ_self _
  · intro event member
    rw [TaskBoard.commitTask_committed]
    exact Nat.lt_succ_of_lt (recorded.logBounded event member)
  · intro handler member
    rw [TaskBoard.commitTask_mTasklist, List.mem_append,
      List.mem_singleton] at member
    rcases member with old | rfl
    · exact recorded.doneIffCalled handler old
    · constructor
      · intro done
        simp [TaskBoard.newHandler] at done
      · rintro ⟨event, eventMember, _, sameSerial⟩
        have := recorded.logBounded event eventMember
        simp only [TaskBoard.newHandler] at sameSerial
        omega
  · intro serial removed member
    rw [serialsShape, List.mem_append, List.mem_singleton] at member
    rcases member with old | rfl
    · exact recorded.removedAbsent serial removed old
    · have := recorded.logBounded _ removed
      simp [TaskEvent.serial] at this
  · exact recorded.once

/-- Calling the task of a handler that is not done is its first call. -/
theorem call
    (recorded : Recorded board log)
    {handler : TaskTimeoutHandler Task}
    (member : handler ∈ board.mTasklist)
    (pending : handler.mIsDone = false)
    {event : TaskEvent}
    (eventCalls : event.isCall = true)
    (eventSerial : event.serial = handler.serial) :
    Recorded (board.markDone handler.serial) (log ++ [event]) := by
  have untouched :
      ∀ earlier ∈ log, earlier.serial ≠ handler.serial := by
    intro earlier earlierMember same
    cases called : earlier.isCall with
    | true =>
        have done :=
          (recorded.doneIffCalled handler member).mpr
            ⟨earlier, earlierMember, called, same⟩
        simp [pending] at done
    | false =>
        cases earlier with
        | execute serial =>
            simp [TaskEvent.isCall] at called
        | timeout serial =>
            simp [TaskEvent.isCall] at called
        | removed serial =>
            apply recorded.removedAbsent serial earlierMember
            have sameSerial : serial = handler.serial := same
            rw [sameSerial]
            exact serial_mem member
  constructor
  · rw [TaskBoard.markDone_serials]
    exact recorded.inOrder
  · rw [TaskBoard.markDone_serials]
    exact recorded.bounded
  · intro logged loggedMember
    rcases List.mem_append.mp loggedMember with old | new
    · exact recorded.logBounded logged old
    · rw [List.mem_singleton.mp new, eventSerial]
      exact recorded.bounded _ (serial_mem member)
  · intro current currentMember
    obtain ⟨before, beforeMember, sameKey, doneIff⟩ :=
      TaskBoard.mem_markDone currentMember
    have sameSerial : current.serial = before.serial :=
      congrArg Prod.fst sameKey
    rw [doneIff, recorded.doneIffCalled before beforeMember,
      sameSerial]
    constructor
    · rintro (⟨logged, loggedMember, calls, same⟩ | same)
      · exact ⟨logged, List.mem_append_left _ loggedMember,
          calls, same⟩
      · exact ⟨event, by simp, eventCalls,
          eventSerial.trans same.symm⟩
    · rintro ⟨logged, loggedMember, calls, same⟩
      rcases List.mem_append.mp loggedMember with old | new
      · exact Or.inl ⟨logged, old, calls, same⟩
      · rw [List.mem_singleton.mp new, eventSerial] at same
        exact Or.inr same.symm
  · intro serial removed
    rw [TaskBoard.markDone_serials]
    rcases List.mem_append.mp removed with old | new
    · exact recorded.removedAbsent serial old
    · rw [← List.mem_singleton.mp new] at eventCalls
      simp [TaskEvent.isCall] at eventCalls
  · rw [List.pairwise_append]
    refine ⟨recorded.once, by simp, ?_⟩
    intro earlier earlierMember later laterMember _
    rw [List.mem_singleton.mp laterMember, eventSerial]
    exact untouched earlier earlierMember

/-- Taking handlers off the board leaves the others as recorded. -/
theorem sublist
    {other : TaskBoard Task}
    (recorded : Recorded board log)
    (fewer : other.mTasklist.Sublist board.mTasklist)
    (sameCommitted : other.committed = board.committed) :
    Recorded other log := by
  have fewerSerials : other.serials.Sublist board.serials :=
    fewer.map _
  constructor
  · exact recorded.inOrder.sublist fewerSerials
  · intro serial member
    rw [sameCommitted]
    exact recorded.bounded serial (fewerSerials.subset member)
  · rw [sameCommitted]
    exact recorded.logBounded
  · intro handler member
    exact recorded.doneIffCalled handler (fewer.subset member)
  · intro serial removed member
    exact recorded.removedAbsent serial removed
      (fewerSerials.subset member)
  · exact recorded.once

/-- `removeTask` takes the matching handlers off the board and logs it. -/
theorem remove
    [BoardLabels Task Label]
    (recorded : Recorded board log)
    (e : Label) :
    Recorded (board.removeTask e) (log ++ removedBy board e) := by
  have remaining :
      Recorded (board.removeTask e) log :=
    recorded.sublist List.filter_sublist rfl
  have removedShape :
      ∀ event ∈ removedBy board e,
        ∃ handler ∈ board.mTasklist,
          BoardLabels.equalsLabel handler.mTask e = true ∧
            event = .removed handler.serial := by
    intro event member
    obtain ⟨handler, handlerMember, rfl⟩ := List.mem_map.mp member
    obtain ⟨onBoard, equals⟩ := List.mem_filter.mp handlerMember
    exact ⟨handler, onBoard, equals, rfl⟩
  constructor
  · exact remaining.inOrder
  · exact remaining.bounded
  · intro event member
    rcases List.mem_append.mp member with old | new
    · exact remaining.logBounded event old
    · obtain ⟨handler, onBoard, _, rfl⟩ := removedShape event new
      exact recorded.bounded _ (serial_mem onBoard)
  · intro handler member
    rw [remaining.doneIffCalled handler member]
    constructor
    · rintro ⟨event, old, calls, same⟩
      exact ⟨event, List.mem_append_left _ old, calls, same⟩
    · rintro ⟨event, eventMember, calls, same⟩
      rcases List.mem_append.mp eventMember with old | new
      · exact ⟨event, old, calls, same⟩
      · obtain ⟨removed, _, _, rfl⟩ := removedShape event new
        simp [TaskEvent.isCall] at calls
  · intro serial removed member
    rcases List.mem_append.mp removed with old | new
    · exact remaining.removedAbsent serial old member
    · obtain ⟨handler, onBoard, equals, sameEvent⟩ :=
        removedShape _ new
      obtain ⟨kept, keptMember, keptSerial⟩ := List.mem_map.mp member
      obtain ⟨keptOnBoard, differs⟩ := List.mem_filter.mp keptMember
      have sameSerial : kept.serial = handler.serial :=
        keptSerial.trans (congrArg TaskEvent.serial sameEvent)
      have sameHandler : kept = handler :=
        recorded.eq_of_serial_eq keptOnBoard onBoard sameSerial
      rw [sameHandler, equals] at differs
      simp at differs
  · rw [List.pairwise_append]
    refine ⟨remaining.once, ?_, ?_⟩
    · apply List.pairwise_of_forall_mem_list
      intro first _ second secondMember calls
      obtain ⟨removed, _, _, rfl⟩ := removedShape second secondMember
      simp [TaskEvent.isCall] at calls
    · intro earlier _ later laterMember calls
      obtain ⟨removed, _, _, rfl⟩ := removedShape later laterMember
      simp [TaskEvent.isCall] at calls

end Recorded

/-! ## Running loops -/

variable [BoardLabels Task Label]

/-- What an active call of `eventTrigger` knows about the board. -/
structure TriggerOk
    (board : TaskBoard Task)
    (log : List TaskEvent)
    (frame : TriggerFrame Task Label) : Prop where
  snapshot :
    frame.atStart.map TaskTimeoutHandler.key <+:
      board.mTasklist.map TaskTimeoutHandler.key
  inBounds :
    frame.position ≤ board.mTasklist.length
  passed :
    ∀ index handler,
      index < frame.position →
      board.mTasklist[index]? = some handler →
      handler.pendingFor frame.e = false
  behind :
    ∀ serial ∈ frame.executed,
      ∃ index < frame.position, board.serials[index]? = some serial
  inOrder :
    frame.executed.Pairwise (· < ·)
  logged :
    ∀ serial ∈ frame.executed, TaskEvent.execute serial ∈ log
  startedPending :
    ∀ handler ∈ frame.atStart,
      handler.mIsDone = false →
      ∀ current ∈ board.mTasklist,
        current.serial = handler.serial →
        current.mIsDone = true →
        TaskEvent.execute handler.serial ∈ log
  untilBreak :
    BoardLabels.mType Task frame.e = .onceTrigger →
    frame.broken = false →
    board.mTasklist = frame.atStart ∧ frame.executed = []
  afterBreak :
    BoardLabels.mType Task frame.e = .onceTrigger →
    frame.broken = true →
    ∃ handler,
      frame.atStart.find? (·.pendingFor frame.e) = some handler ∧
        frame.executed = [handler.serial]
  multiUnbroken :
    BoardLabels.mType Task frame.e = .multiTrigger →
    frame.broken = false

/-- A frame below the top: its loop waits for task code to return. -/
def Suspended : Frame Task Label → Prop
  | .eventTrigger frame =>
      BoardLabels.mType Task frame.e = .onceTrigger →
      frame.broken = true
  | _ =>
      True

namespace TriggerOk

variable
  {board : TaskBoard Task}
  {log : List TaskEvent}
  {frame : TriggerFrame Task Label}

/-- A call of `eventTrigger` begins with nothing passed. -/
theorem begin
    (recorded : Recorded board log)
    (e : Label) :
    TriggerOk board log
      { e := e
        position := 0
        broken := false
        atStart := board.mTasklist
        executed := [] } where
  snapshot :=
    List.prefix_refl _
  inBounds :=
    Nat.zero_le _
  passed index handler impossible _ :=
    absurd impossible (Nat.not_lt_zero index)
  behind := by simp
  inOrder := .nil
  logged := by simp
  startedPending handler member pending current currentMember same done := by
    have sameHandler : current = handler :=
      recorded.eq_of_serial_eq currentMember member same
    rw [sameHandler, pending] at done
    simp at done
  untilBreak _ _ := ⟨rfl, rfl⟩
  afterBreak _ impossible := by simp at impossible
  multiUnbroken _ := rfl

/-- Only the task list matters to a running loop. -/
theorem sameTasks
    {other : TaskBoard Task}
    (ok : TriggerOk board log frame)
    (sameList : other.mTasklist = board.mTasklist) :
    TriggerOk other log frame := by
  have sameSerials : other.serials = board.serials := by
    rw [TaskBoard.serials, sameList, TaskBoard.serials]
  constructor
  · rw [sameList]
    exact ok.snapshot
  · rw [sameList]
    exact ok.inBounds
  · rw [sameList]
    exact ok.passed
  · rw [sameSerials]
    exact ok.behind
  · exact ok.inOrder
  · exact ok.logged
  · rw [sameList]
    exact ok.startedPending
  · rw [sameList]
    exact ok.untilBreak
  · exact ok.afterBreak
  · exact ok.multiUnbroken

/-- Task code below a suspended loop may commit tasks. -/
theorem commit
    (ok : TriggerOk board log frame)
    (suspended : Suspended (Frame.eventTrigger frame))
    (task : Task)
    (msLimitedTime : Nat) :
    TriggerOk (board.commitTask task msLimitedTime) log frame := by
  constructor
  · rw [TaskBoard.commitTask_mTasklist, List.map_append]
    exact ok.snapshot.trans (List.prefix_append _ _)
  · rw [TaskBoard.commitTask_mTasklist, List.length_append]
    exact Nat.le_add_right_of_le ok.inBounds
  · intro index handler behind found
    rw [TaskBoard.commitTask_mTasklist,
      List.getElem?_append_left
        (Nat.lt_of_lt_of_le behind ok.inBounds)] at found
    exact ok.passed index handler behind found
  · intro serial member
    obtain ⟨index, behind, found⟩ := ok.behind serial member
    refine ⟨index, behind, ?_⟩
    rw [TaskBoard.serials, TaskBoard.commitTask_mTasklist,
      List.map_append, List.getElem?_append_left]
    · exact found
    · simpa using Nat.lt_of_lt_of_le behind ok.inBounds
  · exact ok.inOrder
  · exact ok.logged
  · intro handler member pending current currentMember same done
    rw [TaskBoard.commitTask_mTasklist, List.mem_append,
      List.mem_singleton] at currentMember
    rcases currentMember with old | rfl
    · exact ok.startedPending handler member pending
        current old same done
    · simp [TaskBoard.newHandler] at done
  · intro once unbroken
    rw [suspended once] at unbroken
    simp at unbroken
  · exact ok.afterBreak
  · exact ok.multiUnbroken

/-- Marking a handler keeps it from being pending for any event. -/
private theorem pendingFor_mark
    (handler : TaskTimeoutHandler Task)
    (serial : Nat)
    (e : Label)
    (passed : handler.pendingFor e = false) :
    TaskTimeoutHandler.pendingFor e
        (if handler.serial = serial then
          { handler with mIsDone := true }
        else
          handler) = false := by
  split
  · simp [TaskTimeoutHandler.pendingFor]
  · exact passed

/-- The loop's knowledge that survives the execution of any pending task. -/
private theorem markCommon
    (ok : TriggerOk board log frame)
    (serial : Nat) :
    (frame.atStart.map TaskTimeoutHandler.key <+:
      (board.markDone serial).mTasklist.map TaskTimeoutHandler.key) ∧
    (∀ index handler,
      index < frame.position →
      (board.markDone serial).mTasklist[index]? = some handler →
      handler.pendingFor frame.e = false) ∧
    (∀ handler ∈ frame.atStart,
      handler.mIsDone = false →
      ∀ current ∈ (board.markDone serial).mTasklist,
        current.serial = handler.serial →
        current.mIsDone = true →
        TaskEvent.execute handler.serial ∈
          log ++ [TaskEvent.execute serial]) := by
  refine ⟨?_, ?_, ?_⟩
  · rw [TaskBoard.markDone_keys]
    exact ok.snapshot
  · intro index handler behind found
    simp only [TaskBoard.markDone, List.getElem?_map,
      Option.map_eq_some_iff] at found
    obtain ⟨before, beforeFound, rfl⟩ := found
    exact pendingFor_mark before serial frame.e
      (ok.passed index before behind beforeFound)
  · intro handler member pending current currentMember same done
    obtain ⟨before, beforeMember, sameKey, doneIff⟩ :=
      TaskBoard.mem_markDone currentMember
    have sameSerial : current.serial = before.serial :=
      congrArg Prod.fst sameKey
    rcases doneIff.mp done with doneBefore | marked
    · exact List.mem_append_left _
        (ok.startedPending handler member pending before
          beforeMember (sameSerial.symm.trans same) doneBefore)
    · have : handler.serial = serial :=
        same.symm.trans (sameSerial.trans marked)
      simp [this]

/-- Task code below a suspended loop may execute other tasks. -/
theorem execute
    (ok : TriggerOk board log frame)
    (suspended : Suspended (Frame.eventTrigger frame))
    (serial : Nat) :
    TriggerOk (board.markDone serial)
      (log ++ [.execute serial]) frame := by
  obtain ⟨snapshot, passed, startedPending⟩ := ok.markCommon serial
  constructor
  · exact snapshot
  · simpa [TaskBoard.markDone] using ok.inBounds
  · exact passed
  · rw [TaskBoard.markDone_serials]
    exact ok.behind
  · exact ok.inOrder
  · intro executed member
    exact List.mem_append_left _ (ok.logged executed member)
  · exact startedPending
  · intro once unbroken
    rw [suspended once] at unbroken
    simp at unbroken
  · exact ok.afterBreak
  · exact ok.multiUnbroken

/-- The loop steps over a handler that is done or does not match. -/
theorem skip
    (ok : TriggerOk board log frame)
    {handler : TaskTimeoutHandler Task}
    (found : board.mTasklist[frame.position]? = some handler)
    (skipped : handler.pendingFor frame.e = false) :
    TriggerOk board log
      { frame with position := frame.position + 1 } := by
  have position_lt : frame.position < board.mTasklist.length :=
    (List.getElem?_eq_some_iff.mp found).1
  constructor
  · exact ok.snapshot
  · exact position_lt
  · intro index passed behind passedFound
    rcases Nat.lt_succ_iff_lt_or_eq.mp behind with earlier | rfl
    · exact ok.passed index passed earlier passedFound
    · rw [found, Option.some.injEq] at passedFound
      rw [← passedFound]
      exact skipped
  · intro serial member
    obtain ⟨index, behind, serialFound⟩ := ok.behind serial member
    exact ⟨index, Nat.lt_succ_of_lt behind, serialFound⟩
  · exact ok.inOrder
  · exact ok.logged
  · exact ok.startedPending
  · exact ok.untilBreak
  · exact ok.afterBreak
  · exact ok.multiUnbroken

/-- The first pending handler behind the passed ones is what `find?` finds. -/
private theorem find_first
    {handlers : List (TaskTimeoutHandler Task)}
    {position : Nat}
    {handler : TaskTimeoutHandler Task}
    {e : Label}
    (passed :
      ∀ index earlier,
        index < position →
        handlers[index]? = some earlier →
        earlier.pendingFor e = false)
    (found : handlers[position]? = some handler)
    (pending : handler.pendingFor e = true) :
    handlers.find? (·.pendingFor e) = some handler := by
  obtain ⟨position_lt, foundAt⟩ := List.getElem?_eq_some_iff.mp found
  rw [List.find?_eq_some_iff_getElem]
  refine ⟨pending, position, position_lt, foundAt, ?_⟩
  intro index earlier
  have index_lt : index < handlers.length :=
    Nat.lt_trans earlier position_lt
  simp [passed index handlers[index] earlier
    (List.getElem?_eq_getElem index_lt)]

/-- The loop executes the pending handler it has arrived at. -/
theorem executeOwn
    (recorded : Recorded board log)
    (ok : TriggerOk board log frame)
    (unbroken : frame.broken = false)
    {handler : TaskTimeoutHandler Task}
    (found : board.mTasklist[frame.position]? = some handler)
    (pending : handler.pendingFor frame.e = true) :
    TriggerOk (board.markDone handler.serial)
      (log ++ [.execute handler.serial])
      { frame with
        position := frame.position + 1
        broken := BoardLabels.mType Task frame.e == .onceTrigger
        executed := frame.executed ++ [handler.serial] } := by
  obtain ⟨snapshot, passed, startedPending⟩ :=
    ok.markCommon handler.serial
  obtain ⟨position_lt, foundAt⟩ := List.getElem?_eq_some_iff.mp found
  have serialFound :
      board.serials[frame.position]? = some handler.serial := by
    simp [TaskBoard.serials, found]
  constructor
  · exact snapshot
  · simpa [TaskBoard.markDone] using Nat.succ_le_of_lt position_lt
  · intro index current behind currentFound
    rcases Nat.lt_succ_iff_lt_or_eq.mp behind with earlier | rfl
    · exact passed index current earlier currentFound
    · simp only [TaskBoard.markDone, List.getElem?_map, found,
        Option.map_some, Option.some.injEq, ↓reduceIte] at currentFound
      subst current
      simp [TaskTimeoutHandler.pendingFor]
  · intro serial member
    rw [TaskBoard.markDone_serials]
    rcases List.mem_append.mp member with old | new
    · obtain ⟨index, behind, indexFound⟩ := ok.behind serial old
      exact ⟨index, Nat.lt_succ_of_lt behind, indexFound⟩
    · rw [List.mem_singleton.mp new]
      exact ⟨frame.position, Nat.lt_succ_self _, serialFound⟩
  · rw [List.pairwise_append]
    refine ⟨ok.inOrder, by simp, ?_⟩
    intro serial member last lastMember
    rw [List.mem_singleton.mp lastMember]
    obtain ⟨index, behind, indexFound⟩ := ok.behind serial member
    obtain ⟨index_lt, indexAt⟩ :=
      List.getElem?_eq_some_iff.mp indexFound
    obtain ⟨serial_lt, serialAt⟩ :=
      List.getElem?_eq_some_iff.mp serialFound
    rw [← indexAt, ← serialAt]
    exact List.pairwise_iff_getElem.mp recorded.inOrder
      index frame.position index_lt serial_lt behind
  · intro serial member
    rcases List.mem_append.mp member with old | new
    · exact List.mem_append_left _ (ok.logged serial old)
    · rw [List.mem_singleton.mp new]
      simp
  · exact startedPending
  · intro once stillUnbroken
    simp [once] at stillUnbroken
  · intro once _
    obtain ⟨sameList, nothing⟩ := ok.untilBreak once unbroken
    refine ⟨handler, ?_, by simp [nothing]⟩
    rw [← sameList]
    exact find_first ok.passed found pending
  · intro multi
    simp [multi]

/-- A loop at the end of the list leaves no match of its start pending. -/
theorem executed_of_atEnd
    (ok : TriggerOk board log frame)
    (atEnd : board.mTasklist.length ≤ frame.position)
    {handler : TaskTimeoutHandler Task}
    (member : handler ∈ frame.atStart)
    (pending : handler.pendingFor frame.e = true) :
    TaskEvent.execute handler.serial ∈ log := by
  simp only [TaskTimeoutHandler.pendingFor, Bool.and_eq_true,
    Bool.not_eq_true'] at pending
  obtain ⟨current, currentMember, sameKey⟩ :=
    List.mem_map.mp
      (ok.snapshot.subset (List.mem_map.mpr ⟨handler, member, rfl⟩))
  simp only [TaskTimeoutHandler.key, Prod.mk.injEq] at sameKey
  obtain ⟨index, index_lt, foundAt⟩ :=
    List.mem_iff_getElem.mp currentMember
  have passed :=
    ok.passed index current (Nat.lt_of_lt_of_le index_lt atEnd)
      (List.getElem?_eq_some_iff.mpr ⟨index_lt, foundAt⟩)
  have done : current.mIsDone = true := by
    simpa [TaskTimeoutHandler.pendingFor, sameKey.2.1,
      pending.2] using passed
  exact ok.startedPending handler member pending.1 current
    currentMember sameKey.1 done

end TriggerOk

/-! ## The machine -/

/-- The log, the active loops and the shape of the call stack. -/
structure Invariant (machine : BoardMachine Task Label) : Prop where
  recorded :
    Recorded machine.board machine.log
  triggers :
    ∀ frame,
      Frame.eventTrigger frame ∈ machine.stack →
      TriggerOk machine.board machine.log frame
  suspended :
    ∀ frame ∈ machine.stack.tail, Suspended frame
  checkLast :
    ∀ frame ∈ machine.stack.dropLast,
      ∀ check, frame ≠ Frame.checkTimeout check

namespace Invariant

variable {machine next : BoardMachine Task Label}

theorem start
    (isDebug : Bool)
    (now : Nat) :
    Invariant
      (BoardMachine.start isDebug now : BoardMachine Task Label) where
  recorded := Recorded.start isDebug now
  triggers := by simp [BoardMachine.start]
  suspended := by simp [BoardMachine.start]
  checkLast := by simp [BoardMachine.start]

/-- When commits and triggers are possible, every loop is suspended. -/
private theorem allSuspended
    (invariant : Invariant machine)
    (runs : codeRuns machine.stack = true) :
    ∀ frame ∈ machine.stack, Suspended frame := by
  intro frame member
  have suspended := invariant.suspended
  cases stack : machine.stack with
  | nil =>
      simp [stack] at member
  | cons top rest =>
      rw [stack] at member suspended runs
      rcases List.mem_cons.mp member with rfl | below
      · cases frame with
        | eventTrigger frame =>
            simp [codeRuns] at runs
        | checkTimeout frame =>
            simp [codeRuns] at runs
        | body serial =>
            trivial
      · exact suspended frame below

/-- A pass of `checkTimeout` has no caller on the board. -/
theorem checkAlone
    (invariant : Invariant machine)
    {check : CheckFrame Task}
    {rest : List (Frame Task Label)}
    (stack : machine.stack = .checkTimeout check :: rest) :
    rest = [] := by
  cases rest with
  | nil =>
      rfl
  | cons below rest =>
      have member :
          Frame.checkTimeout check ∈ machine.stack.dropLast := by
        simp [stack]
      exact absurd rfl
        (invariant.checkLast _ member check)

theorem commit
    (invariant : Invariant machine)
    (runs : codeRuns machine.stack = true)
    (task : Task)
    (msLimitedTime : Nat) :
    Invariant { machine with
      board := machine.board.commitTask task msLimitedTime } where
  recorded := invariant.recorded.commit task msLimitedTime
  triggers frame member :=
    (invariant.triggers frame member).commit
      (invariant.allSuspended runs _ member) task msLimitedTime
  suspended := invariant.suspended
  checkLast := invariant.checkLast

theorem trigger
    (invariant : Invariant machine)
    (runs : codeRuns machine.stack = true)
    (e : Label) :
    Invariant { machine with
      stack :=
        .eventTrigger
          { e := e
            position := 0
            broken := false
            atStart := machine.board.mTasklist
            executed := [] } :: machine.stack } where
  recorded := invariant.recorded
  triggers frame member := by
    rcases List.mem_cons.mp member with isNew | below
    · cases isNew
      exact TriggerOk.begin invariant.recorded e
    · exact invariant.triggers frame below
  suspended := invariant.allSuspended runs
  checkLast frame member check same := by
    cases stack : machine.stack with
    | nil =>
        simp [stack] at member
    | cons top rest =>
        simp only [stack, List.dropLast_cons_of_ne_nil,
          ne_eq, reduceCtorEq, not_false_eq_true,
          List.mem_cons] at member
        rcases member with rfl | below
        · cases same
        · exact invariant.checkLast frame
            (by simpa [stack] using below) check same

/-- With nothing on the call stack only the log has to be right. -/
private theorem ofEmptyStack
    {board : TaskBoard Task}
    {log : List TaskEvent}
    (recorded : Recorded board log) :
    Invariant
      ({ board := board, stack := [], log := log } :
        BoardMachine Task Label) where
  recorded := recorded
  triggers := by simp
  suspended := by simp
  checkLast := by simp

/-- Returning from the innermost call uncovers a suspended loop. -/
private theorem pop
    (invariant : Invariant machine)
    {top : Frame Task Label}
    {rest : List (Frame Task Label)}
    (stack : machine.stack = top :: rest) :
    Invariant { machine with stack := rest } where
  recorded := invariant.recorded
  triggers frame member :=
    invariant.triggers frame (by simp [stack, member])
  suspended frame member :=
    invariant.suspended frame (by
      rw [stack]
      exact List.mem_of_mem_tail member)
  checkLast frame member := by
    cases rest with
    | nil =>
        simp at member
    | cons below rest =>
        exact invariant.checkLast frame (by
          rw [stack]
          simpa using Or.inr member)

/-- Replacing the innermost loop's frame keeps the shape of the stack. -/
private theorem replaceTop
    (invariant : Invariant machine)
    {old : Frame Task Label}
    {new : TriggerFrame Task Label}
    {rest : List (Frame Task Label)}
    (stack : machine.stack = old :: rest)
    (ok : TriggerOk machine.board machine.log new) :
    Invariant { machine with stack := .eventTrigger new :: rest } where
  recorded := invariant.recorded
  triggers frame member := by
    rcases List.mem_cons.mp member with isNew | below
    · cases isNew
      exact ok
    · exact invariant.triggers frame (by simp [stack, below])
  suspended frame member :=
    invariant.suspended frame (by simpa [stack] using member)
  checkLast frame member check same := by
    cases rest with
    | nil =>
        simp at member
    | cons below rest =>
        simp only [List.dropLast_cons_of_ne_nil, ne_eq,
          reduceCtorEq, not_false_eq_true, List.mem_cons] at member
        rcases member with rfl | under
        · cases same
        · exact invariant.checkLast frame (by
            rw [stack]
            simpa using Or.inr under) check same

/-- One iteration of `eventTrigger`. -/
theorem triggerStep
    (invariant : Invariant machine)
    {frame : TriggerFrame Task Label}
    {rest : List (Frame Task Label)}
    (stack : machine.stack = .eventTrigger frame :: rest) :
    Invariant (machine.triggerStep frame rest) := by
  have ok : TriggerOk machine.board machine.log frame :=
    invariant.triggers frame (by simp [stack])
  unfold BoardMachine.triggerStep
  split
  · rename_i handler unbroken found
    have handlerMember : handler ∈ machine.board.mTasklist :=
      List.mem_of_getElem? found
    by_cases pending : handler.pendingFor frame.e = true
    · rw [if_pos pending]
      have notDone : handler.mIsDone = false := by
        simp only [TaskTimeoutHandler.pendingFor, Bool.and_eq_true,
          Bool.not_eq_true'] at pending
        exact pending.1
      have ownOk :=
        ok.executeOwn invariant.recorded unbroken found pending
      have restSuspended : ∀ below ∈ rest, Suspended below := by
        intro below member
        exact invariant.suspended below (by simpa [stack] using member)
      constructor
      · exact invariant.recorded.call handlerMember notDone rfl rfl
      · intro other member
        rcases List.mem_cons.mp member with impossible | member
        · cases impossible
        · rcases List.mem_cons.mp member with isOwn | below
          · cases isOwn
            exact ownOk
          · exact (invariant.triggers other
              (by simp [stack, below])).execute
                (restSuspended _ below) handler.serial
      · intro below member
        rcases List.mem_cons.mp member with rfl | under
        · intro once
          simp [once]
        · exact restSuspended below under
      · intro other member check same
        simp only [List.dropLast_cons_of_ne_nil, ne_eq,
          reduceCtorEq, not_false_eq_true, List.mem_cons] at member
        rcases member with rfl | member
        · cases same
        · have replaced :=
            invariant.replaceTop stack ok
          cases rest with
          | nil =>
              simp at member
          | cons below rest =>
              simp only [List.dropLast_cons_of_ne_nil, ne_eq,
                reduceCtorEq, not_false_eq_true,
                List.mem_cons] at member
              rcases member with rfl | under
              · cases same
              · exact invariant.checkLast other (by
                  rw [stack]
                  simpa using Or.inr under) check same
    · rw [if_neg pending]
      exact invariant.replaceTop stack
        (ok.skip found (by simpa using pending))
  · exact invariant.pop stack

/-- One iteration of `checkTimeout`. -/
theorem checkStep
    (invariant : Invariant machine)
    {check : CheckFrame Task}
    {rest : List (Frame Task Label)}
    (stack : machine.stack = .checkTimeout check :: rest) :
    Invariant (machine.checkStep check rest) := by
  have alone : rest = [] := invariant.checkAlone stack
  subst rest
  unfold BoardMachine.checkStep
  split
  · rename_i handler found
    have handlerMember : handler ∈ machine.board.mTasklist :=
      List.mem_of_getElem? found
    split
    · constructor
      · exact invariant.recorded.sublist
          (List.eraseIdx_sublist _ _) rfl
      · intro frame member
        simp [stack] at member
      · exact invariant.suspended
      · exact invariant.checkLast
    · rename_i notDone
      split
      · constructor
        · exact invariant.recorded.call handlerMember
            (by simpa using notDone) rfl rfl
        · simp
        · simp [Suspended]
        · simp
      · constructor
        · exact invariant.recorded
        · simp
        · simp
        · simp
  · apply ofEmptyStack
    apply invariant.recorded.sameTasks
    · unfold finishCheck
      split <;> rfl
    · unfold finishCheck
      split <;> rfl

/-- Every step of the machine keeps the invariant. -/
theorem step
    (invariant : Invariant machine)
    {action : BoardAction Task Label}
    (stepped : machine.step? action = some next) :
    Invariant next := by
  cases action with
  | commitTask task msLimitedTime =>
      simp only [step?, Option.ite_none_right_eq_some,
        Option.some.injEq] at stepped
      obtain ⟨runs, rfl⟩ := stepped
      exact invariant.commit runs task msLimitedTime
  | eventTrigger e =>
      simp only [step?, Option.ite_none_right_eq_some,
        Option.some.injEq] at stepped
      obtain ⟨runs, rfl⟩ := stepped
      exact invariant.trigger runs e
  | removeTask e =>
      simp only [step?, Option.ite_none_right_eq_some,
        Option.some.injEq, List.isEmpty_iff] at stepped
      obtain ⟨empty, rfl⟩ := stepped
      rw [empty]
      exact ofEmptyStack (invariant.recorded.remove e)
  | timerFires =>
      simp only [step?, Option.ite_none_right_eq_some,
        Option.some.injEq] at stepped
      obtain ⟨_, rfl⟩ := stepped
      constructor
      · exact invariant.recorded.sameTasks rfl rfl
      · simp
      · simp
      · simp
  | loopStep =>
      cases stack : machine.stack with
      | nil =>
          simp [step?, stack] at stepped
      | cons top rest =>
          cases top with
          | eventTrigger frame =>
              simp only [step?, stack, Option.some.injEq] at stepped
              subst next
              exact invariant.triggerStep stack
          | checkTimeout check =>
              simp only [step?, stack, Option.some.injEq] at stepped
              subst next
              exact invariant.checkStep stack
          | body serial =>
              simp [step?, stack] at stepped
  | bodyReturns =>
      cases stack : machine.stack with
      | nil =>
          simp [step?, stack] at stepped
      | cons top rest =>
          cases top with
          | body serial =>
              simp only [step?, stack, Option.some.injEq] at stepped
              subst next
              exact invariant.pop stack
          | eventTrigger frame =>
              simp [step?, stack] at stepped
          | checkTimeout check =>
              simp [step?, stack] at stepped
  | clockAdvances now =>
      simp only [step?, Option.ite_none_right_eq_some,
        Option.some.injEq] at stepped
      obtain ⟨_, rfl⟩ := stepped
      constructor
      · exact invariant.recorded.sameTasks rfl rfl
      · intro frame member
        exact (invariant.triggers frame member).sameTasks rfl
      · exact invariant.suspended
      · exact invariant.checkLast
  | loopTimeUpdates =>
      simp only [step?, Option.ite_none_right_eq_some,
        Option.some.injEq, List.isEmpty_iff] at stepped
      obtain ⟨empty, rfl⟩ := stepped
      rw [empty]
      exact ofEmptyStack (invariant.recorded.sameTasks rfl rfl)

/-- The invariant holds in every state the machine reaches. -/
theorem of_reachable
    {isDebug : Bool}
    {now : Nat}
    (reachable :
      StepSystem.Reachable step? (fun _ _ => True)
        (BoardMachine.start isDebug now) machine) :
    Invariant machine :=
  reachable.invariant (Invariant.start isDebug now)
    fun _ _ _ holds _ stepped => holds.step stepped

end Invariant

/-! ## What is promised to the users of the board -/

/-- The promises of the board about the tasks it runs. -/
structure ExactlyOnce (machine : BoardMachine Task Label) : Prop where
  /-- `execute()` or `timeout()` is called at most once for each commit. -/
  atMostOneCall :
    ∀ serial,
      (machine.log.filter fun event =>
        event.isCall && event.serial == serial).length ≤ 1
  /-- A task that was removed is not called any more. -/
  noCallAfterRemoval :
    ∀ earlier later serial,
      machine.log = earlier ++ .removed serial :: later →
      ∀ event ∈ later,
        event.isCall = true →
        event.serial ≠ serial
  /-- Serial numbers, and with them list positions, are in commit order. -/
  inCommitOrder :
    machine.board.serials.Pairwise (· < ·)
  /-- A returning `ONCE_TRIGGER` event executed the first match, if any. -/
  onceTrigger :
    ∀ frame rest next,
      machine.stack = .eventTrigger frame :: rest →
      machine.step? .loopStep = some next →
      next.stack = rest →
      BoardLabels.mType Task frame.e = .onceTrigger →
      frame.executed =
        ((frame.atStart.find? (·.pendingFor frame.e)).map
          (·.serial)).toList
  /-- A returning `MULTI_TRIGGER` event leaves no match of its start. -/
  multiTrigger :
    ∀ frame rest next,
      machine.stack = .eventTrigger frame :: rest →
      machine.step? .loopStep = some next →
      next.stack = rest →
      BoardLabels.mType Task frame.e = .multiTrigger →
      ∀ handler ∈ frame.atStart,
        handler.pendingFor frame.e = true →
        TaskEvent.execute handler.serial ∈ machine.log
  /-- What one event executes itself runs in commit order. -/
  executedInOrder :
    ∀ frame,
      Frame.eventTrigger frame ∈ machine.stack →
      frame.executed.Pairwise (· < ·) ∧
        ∀ serial ∈ frame.executed,
          TaskEvent.execute serial ∈ machine.log

/-- A loop of `eventTrigger` that returns was broken or has passed the end. -/
private theorem returned
    {machine next : BoardMachine Task Label}
    {frame : TriggerFrame Task Label}
    {rest : List (Frame Task Label)}
    (stack : machine.stack = .eventTrigger frame :: rest)
    (stepped : machine.step? .loopStep = some next)
    (returns : next.stack = rest) :
    frame.broken = true ∨
      machine.board.mTasklist.length ≤ frame.position := by
  simp only [step?, stack, Option.some.injEq] at stepped
  subst next
  unfold triggerStep at returns
  split at returns
  · rename_i handler unbroken found
    split at returns
    · have sameLength := congrArg List.length returns
      simp only [List.length_cons] at sameLength
      omega
    · have sameLength := congrArg List.length returns
      simp only [List.length_cons] at sameLength
      omega
  · rename_i notLooping
    cases broken : frame.broken with
    | true =>
        exact Or.inl rfl
    | false =>
        cases found : machine.board.mTasklist[frame.position]? with
        | none =>
            exact Or.inr (List.getElem?_eq_none_iff.mp found)
        | some handler =>
            exact absurd found (notLooping handler broken)

/-- Calls of one task are no two events of a log that records calls once. -/
private theorem atMostOneCall_of_once
    {log : List TaskEvent}
    (once :
      log.Pairwise fun earlier later =>
        later.isCall = true → earlier.serial ≠ later.serial)
    (serial : Nat) :
    (log.filter fun event =>
      event.isCall && event.serial == serial).length ≤ 1 := by
  have calls := once.filter fun event =>
    event.isCall && event.serial == serial
  cases shape :
      log.filter fun event =>
        event.isCall && event.serial == serial with
  | nil =>
      simp
  | cons first rest =>
      cases rest with
      | nil =>
          simp
      | cons second rest =>
          have isCallOf :
              ∀ event ∈ first :: second :: rest,
                event.isCall = true ∧ event.serial = serial := by
            intro event member
            rw [← shape] at member
            simpa using (List.mem_filter.mp member).2
          have firstCall := isCallOf first (by simp)
          have secondCall := isCallOf second (by simp)
          rw [shape] at calls
          have differ :=
            (List.pairwise_cons.mp calls).1 second (by simp)
              secondCall.1
          exact absurd (firstCall.2.trans secondCall.2.symm) differ

/--
In every state the machine reaches, through any nesting of events, timeouts
and commits, the promises hold.
-/
theorem exactlyOnce_of_reachable
    (isDebug : Bool)
    (now : Nat)
    {machine : BoardMachine Task Label}
    (reachable :
      StepSystem.Reachable step? (fun _ _ => True)
        (BoardMachine.start isDebug now) machine) :
    ExactlyOnce machine := by
  have invariant : Invariant machine :=
    Invariant.of_reachable reachable
  have recorded := invariant.recorded
  constructor
  · exact atMostOneCall_of_once recorded.once
  · intro earlier later serial shape event member calls same
    have once := recorded.once
    rw [shape, List.pairwise_append] at once
    exact (List.pairwise_cons.mp once.2.1).1 event member calls
      same.symm
  · exact recorded.inOrder
  · intro frame rest next stack stepped returns isOnce
    have ok := invariant.triggers frame (by simp [stack])
    rcases returned stack stepped returns with broken | atEnd
    · obtain ⟨handler, found, executed⟩ := ok.afterBreak isOnce broken
      simp [found, executed]
    · cases broken : frame.broken with
      | true =>
          obtain ⟨handler, found, executed⟩ :=
            ok.afterBreak isOnce broken
          simp [found, executed]
      | false =>
          obtain ⟨sameList, executed⟩ := ok.untilBreak isOnce broken
          have noMatch :
              frame.atStart.find? (·.pendingFor frame.e) = none := by
            rw [← sameList, List.find?_eq_none]
            intro handler member
            obtain ⟨index, index_lt, foundAt⟩ :=
              List.mem_iff_getElem.mp member
            have passed :=
              ok.passed index handler (Nat.lt_of_lt_of_le index_lt atEnd)
                (List.getElem?_eq_some_iff.mpr ⟨index_lt, foundAt⟩)
            simp [passed]
          simp [noMatch, executed]
  · intro frame rest next stack stepped returns isMulti
    have ok := invariant.triggers frame (by simp [stack])
    have atEnd :
        machine.board.mTasklist.length ≤ frame.position := by
      rcases returned stack stepped returns with broken | atEnd
      · rw [ok.multiUnbroken isMulti] at broken
        simp at broken
      · exact atEnd
    intro handler member pending
    exact ok.executed_of_atEnd atEnd member pending
  · intro frame member
    have ok := invariant.triggers frame member
    exact ⟨ok.inOrder, ok.logged⟩

/-! ## A nested run -/

/--
Labels for runs on numbers: a task matches the event with its own number, and
only event `0` is of the kind `MULTI_TRIGGER`.
-/
@[reducible] def numberLabels : BoardLabels Nat Nat where
  equalsLabel task e := task == e
  mType e := if e = 0 then .multiTrigger else .onceTrigger

/--
Event `0` has two matches; the first one triggers event `1` from its
`execute()` and commits another match.
-/
def nestedRun : Option (BoardMachine Nat Nat) :=
  let _ := numberLabels
  StepSystem.run? step? (BoardMachine.start false 5)
    [.commitTask 0 10, .commitTask 1 10, .commitTask 0 10,
      .eventTrigger 0, .loopStep, .commitTask 0 10, .eventTrigger 1,
      .loopStep, .loopStep, .bodyReturns, .loopStep, .bodyReturns,
      .loopStep, .loopStep, .bodyReturns, .loopStep, .bodyReturns]

/-- The nested run keeps the promises of the board. -/
theorem nestedRun_exactlyOnce :
    let _ := numberLabels
    ExactlyOnce (nestedRun.get rfl) := by
  let _ := numberLabels
  have accepted : nestedRun = some (nestedRun.get rfl) :=
    (Option.some_get _).symm
  exact exactlyOnce_of_reachable false 5
    (StepSystem.Reachable.of_run?
      (StepSystem.allowedRun_of_forall (fun _ _ => trivial) _ _)
      accepted)

end ActivityManager.BoardMachine
