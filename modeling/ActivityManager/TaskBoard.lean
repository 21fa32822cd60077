import Mathlib.Algebra.Group.Nat.Defs
import Mathlib.Data.List.Basic
import Mathlib.Data.List.Pairwise

/-!
# The task board

`TaskBoard` keeps the tasks that wait for an event or for their deadline.  This
module has its data and the operations that run no task code: committing,
removing, looking up and marking a task.  The loops that call `execute()` and
`timeout()`, which may re-enter the board, are in `TaskBoardMachine`.

Times are milliseconds in `uint64_t`; sums wrap around explicitly.
-/

namespace ActivityManager

/-- `LabelType`: how many tasks one event may trigger. -/
inductive LabelType where
  | onceTrigger
  | multiTrigger
  deriving Repr, DecidableEq

/--
What the board asks of the task classes: `operator==` of a task against an
event, and the event's `mType`.
-/
class BoardLabels (Task : Type) (Label : outParam Type) where
  equalsLabel : Task → Label → Bool
  mType : Label → LabelType

/-- `ULLONG_MAX`. -/
def ullongMax : Nat :=
  2 ^ 64 - 1

/-- `UINT_MAX`, the limit of a task committed without one. -/
def uintMax : Nat :=
  2 ^ 32 - 1

/-- Addition of `uint64_t`. -/
def addUint64 (left right : Nat) : Nat :=
  (left + right) % 2 ^ 64

/-- Subtraction of `uint64_t`. -/
def subUint64 (left right : Nat) : Nat :=
  (left + 2 ^ 64 - right) % 2 ^ 64

/-- `MIN_CHECKOUT_TIME`, one second. -/
def minCheckoutTime : Nat :=
  1000

/-- `REQUEST_TIMEOUT_MS`, ten seconds. -/
def requestTimeoutMs : Nat :=
  10000

/--
`TaskTimeoutHandler`.  The serial number stands for the identity of the
handler: it counts the commits before it.
-/
structure TaskTimeoutHandler (Task : Type) where
  serial : Nat
  mTask : Task
  mIsDone : Bool
  mExpectTime : Nat
  deriving Repr, DecidableEq

namespace TaskTimeoutHandler

variable {Task Label : Type}

/-- The condition under which `eventTrigger` runs the handler's task. -/
def pendingFor
    [BoardLabels Task Label]
    (e : Label)
    (handler : TaskTimeoutHandler Task) : Bool :=
  !handler.mIsDone && BoardLabels.equalsLabel handler.mTask e

/-- What never changes in a handler. -/
def key (handler : TaskTimeoutHandler Task) : Nat × Task × Nat :=
  (handler.serial, handler.mTask, handler.mExpectTime)

end TaskTimeoutHandler

/--
`TaskBoard` with what it reads from outside: `clock` is the monotonic clock
(`clock_ms`), `loopTime` the time libuv cached for the running loop iteration,
and `mTimer` the absolute loop time at which the armed timer fires.
-/
structure TaskBoard (Task : Type) where
  mTasklist : List (TaskTimeoutHandler Task)
  mNextCheckTime : Nat
  mIsDebug : Bool
  mTimer : Option Nat
  clock : Nat
  loopTime : Nat
  committed : Nat

namespace TaskBoard

variable {Task Label : Type}

/--
The board after its constructor, `setDebugMode` and `startWork`, which leaves
the timer unarmed in both modes.
-/
def startWork
    (isDebug : Bool)
    (now : Nat) : TaskBoard Task where
  mTasklist := []
  mNextCheckTime := if isDebug then 0 else ullongMax
  mIsDebug := isDebug
  mTimer := none
  clock := now
  loopTime := now
  committed := 0

/-- `UvTimer::start`: libuv counts the timeout from the cached loop time. -/
def startTimer
    (board : TaskBoard Task)
    (timeout : Nat) : TaskBoard Task :=
  { board with mTimer := some (board.loopTime + timeout) }

/-- `TaskBoard::commitTask`. -/
def commitTask
    (board : TaskBoard Task)
    (task : Task)
    (msLimitedTime : Nat) : TaskBoard Task :=
  let now := board.clock
  let taskHandler : TaskTimeoutHandler Task :=
    { serial := board.committed
      mTask := task
      mIsDone := false
      mExpectTime := addUint64 now msLimitedTime }
  let armed :=
    if board.mNextCheckTime > taskHandler.mExpectTime then
      let timeout := subUint64 taskHandler.mExpectTime now
      { board with mNextCheckTime := taskHandler.mExpectTime }.startTimer
        (if timeout < minCheckoutTime then timeout else minCheckoutTime)
    else
      board
  { armed with
    mTasklist := armed.mTasklist ++ [taskHandler]
    committed := board.committed + 1 }

/-- `TaskBoard::removeTask`. -/
def removeTask
    [BoardLabels Task Label]
    (board : TaskBoard Task)
    (e : Label) : TaskBoard Task :=
  { board with
    mTasklist :=
      board.mTasklist.filter fun handler =>
        !BoardLabels.equalsLabel handler.mTask e }

/-- Set `mIsDone` in the handler with the given serial number. -/
def markDone
    (board : TaskBoard Task)
    (serial : Nat) : TaskBoard Task :=
  { board with
    mTasklist :=
      board.mTasklist.map fun handler =>
        if handler.serial = serial then
          { handler with mIsDone := true }
        else
          handler }

/-- The handler at which an `eventTrigger` loop stops first. -/
def firstPending
    [BoardLabels Task Label]
    (board : TaskBoard Task)
    (e : Label) : Option (TaskTimeoutHandler Task) :=
  board.mTasklist.find? (·.pendingFor e)

/-- The serial numbers on the board, in commit order. -/
def serials (board : TaskBoard Task) : List Nat :=
  board.mTasklist.map TaskTimeoutHandler.serial

/-- The handler that `commitTask` puts on the board. -/
def newHandler
    (board : TaskBoard Task)
    (task : Task)
    (msLimitedTime : Nat) : TaskTimeoutHandler Task where
  serial := board.committed
  mTask := task
  mIsDone := false
  mExpectTime := addUint64 board.clock msLimitedTime

/-- A commit appends one handler. -/
@[simp] theorem commitTask_mTasklist
    (board : TaskBoard Task)
    (task : Task)
    (msLimitedTime : Nat) :
    (board.commitTask task msLimitedTime).mTasklist =
      board.mTasklist ++ [board.newHandler task msLimitedTime] := by
  unfold commitTask newHandler
  dsimp only
  split <;> rfl

/-- A commit uses up one serial number. -/
@[simp] theorem commitTask_committed
    (board : TaskBoard Task)
    (task : Task)
    (msLimitedTime : Nat) :
    (board.commitTask task msLimitedTime).committed =
      board.committed + 1 := by
  rfl

/-- Commits do not read a clock that differs from the board's. -/
@[simp] theorem commitTask_clock
    (board : TaskBoard Task)
    (task : Task)
    (msLimitedTime : Nat) :
    (board.commitTask task msLimitedTime).clock = board.clock := by
  unfold commitTask
  dsimp only
  split <;> rfl

@[simp] theorem commitTask_loopTime
    (board : TaskBoard Task)
    (task : Task)
    (msLimitedTime : Nat) :
    (board.commitTask task msLimitedTime).loopTime =
      board.loopTime := by
  unfold commitTask
  dsimp only
  split <;> rfl

/-- Marking keeps every handler's identity, task and deadline. -/
@[simp] theorem markDone_keys
    (board : TaskBoard Task)
    (serial : Nat) :
    (board.markDone serial).mTasklist.map TaskTimeoutHandler.key =
      board.mTasklist.map TaskTimeoutHandler.key := by
  simp only [markDone, List.map_map]
  apply List.map_congr_left
  intro handler _
  simp only [Function.comp, TaskTimeoutHandler.key]
  split <;> rfl

@[simp] theorem markDone_serials
    (board : TaskBoard Task)
    (serial : Nat) :
    (board.markDone serial).serials = board.serials := by
  simp only [serials, markDone, List.map_map]
  apply List.map_congr_left
  intro handler _
  simp only [Function.comp]
  split <;> rfl

/-- A handler of the marked board comes from one of the board before. -/
theorem mem_markDone
    {board : TaskBoard Task}
    {serial : Nat}
    {handler : TaskTimeoutHandler Task}
    (member : handler ∈ (board.markDone serial).mTasklist) :
    ∃ before ∈ board.mTasklist,
      handler.key = before.key ∧
        (handler.mIsDone = true ↔
          before.mIsDone = true ∨ before.serial = serial) := by
  obtain ⟨before, beforeMember, rfl⟩ := List.mem_map.mp member
  refine ⟨before, beforeMember, ?_⟩
  by_cases marked : before.serial = serial
  · simp [marked, TaskTimeoutHandler.key]
  · simp [marked, TaskTimeoutHandler.key]

end TaskBoard

end ActivityManager
