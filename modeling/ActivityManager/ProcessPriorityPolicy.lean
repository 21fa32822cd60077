import ActivityManager.Library.DoublyLinked
import ActivityManager.LowMemoryManager

/-!
# The process priority list

`ProcessPriorityPolicy` keeps the processes in a doubly linked list with three
pointers into it.  The operations are written in the order of the source, one
field write after the other; an operation that goes through a null or dangling
pointer has no result.  `lastWakeUptime` is left out: nothing reads it.
-/

namespace ActivityManager

open DoublyLinked (Node Heap)

/-- `ProcessPriority`, in its order. -/
inductive ProcessPriority where
  | low
  | middle
  | high
  | persistent
  deriving Repr, DecidableEq

namespace ProcessPriority

/-- The order of the enumeration. -/
def rank : ProcessPriority → Nat
  | .low => 0
  | .middle => 1
  | .high => 2
  | .persistent => 3

end ProcessPriority

/-- The payload of a `PidPriorityInfo`. -/
structure ProcessInfo where
  pid : Nat
  priorityLevel : ProcessPriority
  oomScore : Int
  deriving Repr, DecidableEq

/-- `PidPriorityInfo`: the payload with the links `next` and `last`. -/
abbrev PidPriorityInfo :=
  Node ProcessInfo

/-- `ProcessStatus`. -/
inductive ProcessStatus where
  | foregroundProcess
  | systemHomeProcess
  | backgroundProcess
  deriving Repr, DecidableEq

/-! ## Scores -/

/-- `OS_PERSISTENT_PROC_ADJ`. -/
def osPersistentProcAdj : Int := -100

/-- `OS_FOREGROUND_APP_ADJ`. -/
def osForegroundAppAdj : Int := 0

/-- `OS_SYSTEM_HOME_APP_ADJ`. -/
def osSystemHomeAppAdj : Int := 1

/-- `OS_HIGH_LEVEL_MIN_ADJ`. -/
def osHighLevelMinAdj : Int := 10

/-- `OS_MIDDLE_LEVEL_MIN_ADJ`. -/
def osMiddleLevelMinAdj : Int := 100

/-- `OS_LOW_LEVEL_MIN_ADJ`. -/
def osLowLevelMinAdj : Int := 700

/-- The ten bits of a counter in `levelCnt` that begin at a position. -/
def levelField
    (levelCnt : BitVec 32)
    (position : Nat) : Int :=
  ((levelCnt &&& (0b1111111111#32 <<< position)) >>> position).toNat

/-- The `switch` of `calculateScore`. -/
def levelScore
    (level : ProcessPriority)
    (levelCnt : BitVec 32) : Int × BitVec 32 :=
  match level with
  | .persistent =>
      (osPersistentProcAdj, levelCnt)
  | .high =>
      (osHighLevelMinAdj + levelField levelCnt 20,
        levelCnt + 1#32 <<< 20)
  | .middle =>
      (osMiddleLevelMinAdj + levelField levelCnt 10,
        levelCnt + 1#32 <<< 10)
  | .low =>
      (osLowLevelMinAdj + levelField levelCnt 0, levelCnt + 1#32)

/-- `calculateScore`, with the counters it leaves in `levelCnt`. -/
def calculateScore
    (pnode : ProcessInfo)
    (levelCnt : BitVec 32)
    (location : ProcessStatus) : Int × BitVec 32 :=
  match location with
  | .foregroundProcess =>
      (if pnode.oomScore > osForegroundAppAdj then
          osForegroundAppAdj
        else
          pnode.oomScore,
        levelCnt)
  | .systemHomeProcess =>
      if pnode.priorityLevel.rank < ProcessPriority.persistent.rank then
        (osSystemHomeAppAdj, levelCnt)
      else
        levelScore pnode.priorityLevel levelCnt
  | .backgroundProcess =>
      levelScore pnode.priorityLevel levelCnt

/-! ## The list -/

/-- `ProcessPriorityPolicy` and its nodes; `allocated` counts the `new`s. -/
structure ProcessPriorityPolicy where
  mLmk : LowMemoryManager
  mHead : Option Nat
  mTail : Option Nat
  mBackgroundPos : Option Nat
  nodes : Heap ProcessInfo
  allocated : Nat

namespace ProcessPriorityPolicy

/-- The constructor of `ProcessPriorityPolicy`. -/
def empty (lmk : LowMemoryManager) : ProcessPriorityPolicy where
  mLmk := lmk
  mHead := none
  mTail := none
  mBackgroundPos := none
  nodes := fun _ => none
  allocated := 0

/-- `pointer->next`. -/
def next?
    (policy : ProcessPriorityPolicy)
    (pointer : Option Nat) : Option (Option Nat) :=
  (policy.nodes.deref? pointer).map (·.next)

/-- `pointer->last`. -/
def last?
    (policy : ProcessPriorityPolicy)
    (pointer : Option Nat) : Option (Option Nat) :=
  (policy.nodes.deref? pointer).map (·.last)

/-- `pointer->next = value`. -/
def setNext?
    (policy : ProcessPriorityPolicy)
    (pointer value : Option Nat) : Option ProcessPriorityPolicy :=
  (policy.nodes.setNext? pointer value).map fun nodes =>
    { policy with nodes := nodes }

/-- `pointer->last = value`. -/
def setLast?
    (policy : ProcessPriorityPolicy)
    (pointer value : Option Nat) : Option ProcessPriorityPolicy :=
  (policy.nodes.setLast? pointer value).map fun nodes =>
    { policy with nodes := nodes }

/-- `if (pointer) pointer->next = value`. -/
def setNextIf?
    (policy : ProcessPriorityPolicy)
    (pointer value : Option Nat) : Option ProcessPriorityPolicy :=
  if pointer.isSome then policy.setNext? pointer value else some policy

/-- `if (pointer) pointer->last = value`. -/
def setLastIf?
    (policy : ProcessPriorityPolicy)
    (pointer value : Option Nat) : Option ProcessPriorityPolicy :=
  if pointer.isSome then policy.setLast? pointer value else some policy

/--
The loop of `get`.  The fuel bounds the number of iterations; there are never
more nodes than were allocated.
-/
def getFrom
    (nodes : Heap ProcessInfo)
    (pid : Nat) : Nat → Option Nat → Option (Option Nat)
  | _, none =>
      some none
  | 0, some _ =>
      none
  | fuel + 1, some pnode => do
      let node ← nodes pnode
      if node.data.pid = pid then
        some (some pnode)
      else
        getFrom nodes pid fuel node.next

/-- `ProcessPriorityPolicy::get`. -/
def get
    (policy : ProcessPriorityPolicy)
    (pid : Nat) : Option (Option Nat) :=
  getFrom policy.nodes pid policy.allocated policy.mHead

/-- The branch of `add` for a foreground process. -/
def addForeground
    (policy : ProcessPriorityPolicy)
    (pnode : Option Nat) : Option ProcessPriorityPolicy := do
  let policy ← policy.setNext? pnode policy.mHead
  let policy ← policy.setLastIf? policy.mHead pnode
  some { policy with
    mHead := pnode
    mTail := if policy.mTail.isNone then pnode else policy.mTail }

/-- The branch of `add` for a background process. -/
def addBackground
    (policy : ProcessPriorityPolicy)
    (pnode : Option Nat) : Option ProcessPriorityPolicy := do
  let policy ← policy.setNext? pnode policy.mBackgroundPos
  if policy.mBackgroundPos.isSome then
    let before ← policy.last? policy.mBackgroundPos
    let policy ← policy.setLast? pnode before
    let before ← policy.last? policy.mBackgroundPos
    let policy ← policy.setNextIf? before pnode
    let policy :=
      { policy with
        mHead := if before.isSome then policy.mHead else pnode }
    let policy ← policy.setLast? policy.mBackgroundPos pnode
    some { policy with mBackgroundPos := pnode }
  else
    let policy ← policy.setLast? pnode policy.mTail
    let policy ← policy.setNextIf? policy.mTail pnode
    some { policy with
      mTail := pnode
      mHead := if policy.mHead.isNone then pnode else policy.mHead
      mBackgroundPos := pnode }

/-- `ProcessPriorityPolicy::add`. -/
def add
    (policy : ProcessPriorityPolicy)
    (pid : Nat)
    (isForeground : Bool)
    (level : ProcessPriority) : Option ProcessPriorityPolicy := do
  let pnode ← policy.get pid
  if pnode.isSome then
    some policy
  else
    let address := policy.allocated
    let policy :=
      { policy with
        mLmk := policy.mLmk.setPidOomScore pid osMiddleLevelMinAdj
        nodes :=
          policy.nodes.place address
            { data :=
                { pid := pid
                  priorityLevel := level
                  oomScore := osMiddleLevelMinAdj }
              next := none
              last := none }
        allocated := address + 1 }
    if isForeground then
      policy.addForeground (some address)
    else
      policy.addBackground (some address)

/-- What `remove` makes of the background position. -/
def backgroundWithout?
    (policy : ProcessPriorityPolicy)
    (pnode next : Option Nat) : Option (Option Nat) :=
  if policy.mBackgroundPos = pnode then
    some next
  else if policy.mBackgroundPos = next then
    if next.isSome then
      policy.next? next
    else
      some policy.mBackgroundPos
  else
    some policy.mBackgroundPos

/-- `remove` once the node is found. -/
def removeNode
    (policy : ProcessPriorityPolicy)
    (address : Nat) : Option ProcessPriorityPolicy := do
  let pnode := some address
  let next ← policy.next? pnode
  let last ← policy.last? pnode
  let background ← policy.backgroundWithout? pnode next
  let policy :=
    { policy with
      mHead := if policy.mHead = pnode then next else policy.mHead
      mTail := if policy.mTail = pnode then last else policy.mTail
      mBackgroundPos := background }
  let policy ← policy.setNextIf? last next
  let next ← policy.next? pnode
  let last ← policy.last? pnode
  let policy ← policy.setLastIf? next last
  some { policy with nodes := policy.nodes.free address }

/-- `ProcessPriorityPolicy::remove`. -/
def remove
    (policy : ProcessPriorityPolicy)
    (pid : Nat) : Option ProcessPriorityPolicy := do
  let pnode ← policy.get pid
  let policy ←
    match pnode with
    | some address => policy.removeNode address
    | none => some policy
  some { policy with mLmk := policy.mLmk.cancelMonitorPid pid }

/-- What `pushForeground` makes of the background position. -/
def backgroundPushing?
    (policy : ProcessPriorityPolicy)
    (pnode : Option Nat) : Option (Option Nat) := do
  let background ←
    if policy.mBackgroundPos.isSome then do
      let before ← policy.last? policy.mBackgroundPos
      some (if pnode = before then policy.mHead
        else policy.mBackgroundPos)
    else
      some policy.mBackgroundPos
  if background.isSome ∧ pnode = background then
    policy.next? pnode
  else
    some background

/-- The part of `pushForeground` that moves the node. -/
def moveToHead
    (policy : ProcessPriorityPolicy)
    (pnode : Option Nat) : Option ProcessPriorityPolicy := do
  let next ← policy.next? pnode
  let last ← policy.last? pnode
  let policy ← policy.setLastIf? next last
  let last ← policy.last? pnode
  let next ← policy.next? pnode
  let policy ← policy.setNextIf? last next
  let last ← policy.last? pnode
  let policy :=
    { policy with
      mTail :=
        if policy.mTail = pnode ∧ last.isSome then last
        else policy.mTail }
  let policy ← policy.setNext? pnode policy.mHead
  let policy ← policy.setLast? pnode none
  let policy ← policy.setLast? policy.mHead pnode
  some { policy with mHead := pnode }

/-- `pushForeground` once the node is found. -/
def pushForegroundNode
    (policy : ProcessPriorityPolicy)
    (pnode : Option Nat) : Option ProcessPriorityPolicy := do
  let background ← policy.backgroundPushing? pnode
  let policy := { policy with mBackgroundPos := background }
  if policy.mHead ≠ pnode then
    policy.moveToHead pnode
  else
    some policy

/-- `ProcessPriorityPolicy::pushForeground`. -/
def pushForeground
    (policy : ProcessPriorityPolicy)
    (pid : Nat) : Option ProcessPriorityPolicy := do
  let pnode ← policy.get pid
  if pnode.isSome then
    policy.pushForegroundNode pnode
  else
    some policy

/-- The part of `intoBackground` that moves the node. -/
def moveIntoBackground
    (policy : ProcessPriorityPolicy)
    (pnode : Option Nat) : Option ProcessPriorityPolicy := do
  let last ← policy.last? pnode
  let next ← policy.next? pnode
  let policy ← policy.setNextIf? last next
  let next ← policy.next? pnode
  let last ← policy.last? pnode
  let policy ← policy.setLastIf? next last
  let next ← policy.next? pnode
  let policy :=
    { policy with
      mHead := if policy.mHead = pnode then next else policy.mHead }
  let policy ← policy.setNext? pnode policy.mBackgroundPos
  if policy.mBackgroundPos.isSome then
    let before ← policy.last? policy.mBackgroundPos
    let policy ← policy.setLast? pnode before
    let before ← policy.last? policy.mBackgroundPos
    let policy ← policy.setNext? before pnode
    let policy ← policy.setLast? policy.mBackgroundPos pnode
    some { policy with mBackgroundPos := pnode }
  else
    let policy ← policy.setLast? pnode policy.mTail
    let policy ← policy.setNext? policy.mTail pnode
    some { policy with mTail := pnode, mBackgroundPos := pnode }

/-- `intoBackground` once the node is found. -/
def intoBackgroundNode
    (policy : ProcessPriorityPolicy)
    (pnode : Option Nat) : Option ProcessPriorityPolicy :=
  if pnode ≠ policy.mTail ∧ pnode ≠ policy.mBackgroundPos then
    if policy.mBackgroundPos.isSome then do
      let before ← policy.last? policy.mBackgroundPos
      if before = pnode then
        some policy
      else
        policy.moveIntoBackground pnode
    else
      policy.moveIntoBackground pnode
  else
    some policy

/-- `ProcessPriorityPolicy::intoBackground`. -/
def intoBackground
    (policy : ProcessPriorityPolicy)
    (pid : Nat) : Option ProcessPriorityPolicy := do
  let pnode ← policy.get pid
  if pnode.isSome then
    policy.intoBackgroundNode pnode
  else
    some policy

/-- Change the payload of a node. -/
def setInfo
    (policy : ProcessPriorityPolicy)
    (address : Nat)
    (info : ProcessInfo) : ProcessPriorityPolicy :=
  { policy with
    nodes :=
      policy.nodes.modify (some address) fun node =>
        { node with data := info } }

/-- The loop of `analyseProcessPriority`. -/
def analyseFrom :
    Nat → ProcessPriorityPolicy → Option Nat → BitVec 32 →
      ProcessStatus → Option ProcessPriorityPolicy
  | _, policy, none, _, _ =>
      some policy
  | 0, _, some _, _, _ =>
      none
  | fuel + 1, policy, some pnode, levelcnt, processStatus => do
      let node ← policy.nodes pnode
      let processStatus :=
        if node.next = policy.mBackgroundPos ∧
            processStatus ≠ .foregroundProcess then
          .systemHomeProcess
        else
          processStatus
      let (score, levelcnt) :=
        calculateScore node.data levelcnt processStatus
      let policy :=
        if node.data.oomScore ≠ score then
          { policy.setInfo pnode { node.data with oomScore := score } with
            mLmk := policy.mLmk.setPidOomScore node.data.pid score }
        else
          policy
      analyseFrom fuel policy node.next levelcnt .backgroundProcess

/-- `ProcessPriorityPolicy::analyseProcessPriority`. -/
def analyseProcessPriority
    (policy : ProcessPriorityPolicy) : Option ProcessPriorityPolicy :=
  analyseFrom policy.allocated policy policy.mHead 0 .foregroundProcess

/-- The raise of a process to the priority of a service it starts. -/
def raisePriorityLevel
    (policy : ProcessPriorityPolicy)
    (pid : Nat)
    (priority : ProcessPriority) : Option ProcessPriorityPolicy := do
  let prioritynode ← policy.get pid
  match prioritynode with
  | some address => do
      let node ← policy.nodes address
      if node.data.priorityLevel.rank < priority.rank then
        some (policy.setInfo address
          { node.data with priorityLevel := priority })
      else
        some policy
  | none =>
      some policy

end ProcessPriorityPolicy

end ActivityManager
