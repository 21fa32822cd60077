import ActivityManager.Library.StepSystem
import ActivityManager.TaskBoard

/-!
# The re-entrant task board

`eventTrigger` and `checkTimeout` run task code while they iterate over
`mTasklist`, and that code may commit tasks and trigger events on the same
board.  The machine below keeps the C++ call stack explicitly: a frame for
every running loop, with its iterator, and a frame for every running
`execute()` or `timeout()`.  Task code is not modelled further; a running body
performs any commits and triggers, in any number, before it returns.

`std::list` iterators stay valid while the list grows at its end, so an
iterator is a position in the list.  Fields marked as ghost record what
happened and are never read by a step.
-/

namespace ActivityManager

/-- A running `TaskBoard::eventTrigger`. -/
structure TriggerFrame (Task Label : Type) where
  e : Label
  /-- The position of `taskIter`. -/
  position : Nat
  /-- The `break` behind a `ONCE_TRIGGER` task has been reached. -/
  broken : Bool
  /-- Ghost: the task list when the call began. -/
  atStart : List (TaskTimeoutHandler Task)
  /-- Ghost: the tasks this call executed itself, in order. -/
  executed : List Nat

/-- A running `TaskBoard::checkTimeout`. -/
structure CheckFrame (Task : Type) where
  now : Nat
  nextMinTime : Nat
  /-- The position of the iterator `task`. -/
  position : Nat
  /-- Ghost: the task list when the pass began. -/
  atStart : List (TaskTimeoutHandler Task)
  /-- Ghost: the tasks this pass timed out, in order. -/
  timedOut : List Nat

/-- One entry of the call stack. -/
inductive Frame (Task Label : Type) where
  | eventTrigger (frame : TriggerFrame Task Label)
  | checkTimeout (frame : CheckFrame Task)
  | body (serial : Nat)

/-- What happened to committed tasks. -/
inductive TaskEvent where
  | execute (serial : Nat)
  | timeout (serial : Nat)
  | removed (serial : Nat)
  deriving Repr, DecidableEq

namespace TaskEvent

/-- The task an event is about. -/
def serial : TaskEvent → Nat
  | .execute serial => serial
  | .timeout serial => serial
  | .removed serial => serial

/-- `execute()` or `timeout()` was called. -/
def isCall : TaskEvent → Bool
  | .execute _ => true
  | .timeout _ => true
  | .removed _ => false

end TaskEvent

/-- The board, its call stack (innermost frame first) and what happened so far. -/
structure BoardMachine (Task Label : Type) where
  board : TaskBoard Task
  stack : List (Frame Task Label)
  /-- Ghost: events in the order they happened. -/
  log : List TaskEvent

/-- The steps of the board and of its environment. -/
inductive BoardAction (Task Label : Type) where
  | commitTask (task : Task) (msLimitedTime : Nat)
  | eventTrigger (e : Label)
  | removeTask (e : Label)
  /-- libuv calls the timer's callback, which is `checkTimeout`. -/
  | timerFires
  /-- The innermost loop performs one iteration, or returns at its end. -/
  | loopStep
  /-- The innermost `execute()` or `timeout()` returns. -/
  | bodyReturns
  | clockAdvances (now : Nat)
  /-- libuv caches the clock, between two callbacks. -/
  | loopTimeUpdates

namespace BoardMachine

variable {Task Label : Type} [BoardLabels Task Label]

/-- Commits and triggers come from the main loop or from a running body. -/
def codeRuns : List (Frame Task Label) → Bool
  | [] => true
  | .body _ :: _ => true
  | _ => false

/-- One iteration of the loop in `eventTrigger`. -/
def triggerStep
    (machine : BoardMachine Task Label)
    (frame : TriggerFrame Task Label)
    (rest : List (Frame Task Label)) : BoardMachine Task Label :=
  match frame.broken, machine.board.mTasklist[frame.position]? with
  | false, some handler =>
      if handler.pendingFor frame.e then
        { board := machine.board.markDone handler.serial
          stack :=
            .body handler.serial ::
              .eventTrigger
                { frame with
                  position := frame.position + 1
                  broken :=
                    BoardLabels.mType Task frame.e == .onceTrigger
                  executed := frame.executed ++ [handler.serial] } ::
              rest
          log := machine.log ++ [.execute handler.serial] }
      else
        { machine with
          stack :=
            .eventTrigger
              { frame with position := frame.position + 1 } :: rest }
  | _, _ =>
      { machine with stack := rest }

/-- The end of `checkTimeout`: arm the timer for the next pass. -/
def finishCheck
    (board : TaskBoard Task)
    (frame : CheckFrame Task) : TaskBoard Task :=
  if board.mTasklist.isEmpty then
    { board with mNextCheckTime := ullongMax }
  else
    { board.startTimer (subUint64 frame.nextMinTime frame.now) with
      mNextCheckTime := frame.nextMinTime }

/-- One iteration of the loop in `checkTimeout`. -/
def checkStep
    (machine : BoardMachine Task Label)
    (frame : CheckFrame Task)
    (rest : List (Frame Task Label)) : BoardMachine Task Label :=
  match machine.board.mTasklist[frame.position]? with
  | some handler =>
      if handler.mIsDone then
        { machine with
          board :=
            { machine.board with
              mTasklist :=
                machine.board.mTasklist.eraseIdx frame.position } }
      else if frame.now ≥ handler.mExpectTime then
        { board := machine.board.markDone handler.serial
          stack :=
            .body handler.serial ::
              .checkTimeout
                { frame with
                  position := frame.position + 1
                  timedOut := frame.timedOut ++ [handler.serial] } ::
              rest
          log := machine.log ++ [.timeout handler.serial] }
      else
        { machine with
          stack :=
            .checkTimeout
              { frame with
                position := frame.position + 1
                nextMinTime :=
                  if frame.nextMinTime > handler.mExpectTime then
                    handler.mExpectTime
                  else
                    frame.nextMinTime } :: rest }
  | none =>
      { machine with
        board := finishCheck machine.board frame
        stack := rest }

/-- The tasks that `removeTask` takes off the board. -/
def removedBy
    (board : TaskBoard Task)
    (e : Label) : List TaskEvent :=
  (board.mTasklist.filter fun handler =>
      BoardLabels.equalsLabel handler.mTask e).map
    fun handler => .removed handler.serial

/-- A timer callback is due once the loop time has reached its deadline. -/
def timerDue (board : TaskBoard Task) : Bool :=
  match board.mTimer with
  | some deadline => deadline ≤ board.loopTime
  | none => false

/-- Perform one step, if it is possible. -/
def step?
    (machine : BoardMachine Task Label) :
    BoardAction Task Label → Option (BoardMachine Task Label)
  | .commitTask task msLimitedTime =>
      if codeRuns machine.stack then
        some { machine with
          board := machine.board.commitTask task msLimitedTime }
      else
        none
  | .eventTrigger e =>
      if codeRuns machine.stack then
        some { machine with
          stack :=
            .eventTrigger
              { e := e
                position := 0
                broken := false
                atStart := machine.board.mTasklist
                executed := [] } :: machine.stack }
      else
        none
  | .removeTask e =>
      if machine.stack.isEmpty then
        some { machine with
          board := machine.board.removeTask e
          log := machine.log ++ removedBy machine.board e }
      else
        none
  | .timerFires =>
      if machine.stack.isEmpty && timerDue machine.board then
        some { machine with
          board := { machine.board with mTimer := none }
          stack :=
            [.checkTimeout
              { now := machine.board.clock
                nextMinTime :=
                  addUint64 machine.board.clock minCheckoutTime
                position := 0
                atStart := machine.board.mTasklist
                timedOut := [] }] }
      else
        none
  | .loopStep =>
      match machine.stack with
      | .eventTrigger frame :: rest =>
          some (triggerStep machine frame rest)
      | .checkTimeout frame :: rest =>
          some (checkStep machine frame rest)
      | _ =>
          none
  | .bodyReturns =>
      match machine.stack with
      | .body _ :: rest =>
          some { machine with stack := rest }
      | _ =>
          none
  | .clockAdvances now =>
      if machine.board.clock ≤ now then
        some { machine with
          board := { machine.board with clock := now } }
      else
        none
  | .loopTimeUpdates =>
      if machine.stack.isEmpty then
        some { machine with
          board :=
            { machine.board with loopTime := machine.board.clock } }
      else
        none

/-- A board that has just started to work. -/
def start
    (isDebug : Bool)
    (now : Nat) : BoardMachine Task Label where
  board := TaskBoard.startWork isDebug now
  stack := []
  log := []

end BoardMachine

end ActivityManager
