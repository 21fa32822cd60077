import ActivityManager.PriorityParts
import ActivityManager.ProcessPriorityPolicy
import Mathlib.Data.List.Perm.Subperm

/-!
# The linked list represents the two parts

The entries of the abstract list are the cells of the linked one.  Every
operation of `ProcessPriorityPolicy` is first reduced to the surgeries of the
library, then shown to do to the represented parts what `PriorityParts` says.
-/

namespace ActivityManager.ProcessPriorityPolicy

open DoublyLinked

/-- The address and the payload of a listed process. -/
abbrev Entry :=
  Cell ProcessInfo

/-- The process id of an entry. -/
def entryPid (entry : Entry) : Nat :=
  entry.2.pid

/-- The entry of a process. -/
def hasPid
    (pid : Nat)
    (entry : Entry) : Bool :=
  entryPid entry == pid

/-- The entries are linked in order between `mHead` and `mTail`. -/
structure Listed
    (policy : ProcessPriorityPolicy)
    (entries : List Entry) : Prop where
  head : policy.mHead = first entries none
  tail : policy.mTail = final none entries
  linked : Segment policy.nodes none entries none
  distinct : (addresses entries).Nodup
  bounded :
    ∀ address ∈ addresses entries, address < policy.allocated
  pids : (entries.map entryPid).Nodup

/-- The list, read in two parts split at `mBackgroundPos`. -/
structure Represents
    (policy : ProcessPriorityPolicy)
    (parts : PriorityParts Entry) : Prop where
  listed : Listed policy parts.all
  background : policy.mBackgroundPos = first parts.background none

/-- The empty list. -/
theorem Represents.empty (lmk : LowMemoryManager) :
    Represents (ProcessPriorityPolicy.empty lmk) PriorityParts.empty := by
  refine ⟨?_, rfl⟩
  constructor <;>
    simp [ProcessPriorityPolicy.empty, PriorityParts.empty,
      PriorityParts.all, Segment]

/-- A list represents one pair of parts at most. -/
theorem Represents.unique
    {policy : ProcessPriorityPolicy}
    {parts others : PriorityParts Entry}
    (represents : Represents policy parts)
    (also : Represents policy others) :
    parts = others := by
  have sameAll : parts.all = others.all := by
    refine represents.listed.linked.unique also.listed.linked ?_
    rw [← represents.listed.head, ← also.listed.head]
  have sameLength :
      parts.background.length = others.background.length := by
    have isSuffix :
        addresses parts.background <:+ addresses parts.all :=
      ⟨addresses parts.foreground, by simp [PriorityParts.all]⟩
    have otherSuffix :
        addresses others.background <:+ addresses parts.all :=
      ⟨addresses others.foreground, by
        rw [sameAll]
        simp [PriorityParts.all]⟩
    have sameHead :
        (addresses parts.background).head? =
          (addresses others.background).head? := by
      rw [← first_eq_head?, ← first_eq_head?, ← represents.background,
        ← also.background]
    simpa [addresses] using
      (head?_eq_iff_of_suffix represents.listed.distinct isSuffix
        otherSuffix).mp sameHead
  obtain ⟨sameForeground, sameBackground⟩ :=
    List.append_inj' sameAll sameLength
  cases parts
  cases others
  simp_all

/-! ## Guarded writes -/

variable {policy : ProcessPriorityPolicy}

/-- A pointer that is null or refers to a node. -/
def Valid
    (policy : ProcessPriorityPolicy)
    (pointer : Option Nat) : Prop :=
  ∀ address,
    pointer = some address →
    (policy.nodes address).isSome = true

theorem setNextIf?_of_valid
    {pointer : Option Nat}
    (valid : Valid policy pointer)
    (value : Option Nat) :
    policy.setNextIf? pointer value =
      some { policy with nodes := policy.nodes.setNext pointer value } := by
  cases pointer with
  | none =>
      simp [setNextIf?]
  | some address =>
      simp [setNextIf?, setNext?,
        Heap.setNext?_of_isSome (valid address rfl)]

theorem setLastIf?_of_valid
    {pointer : Option Nat}
    (valid : Valid policy pointer)
    (value : Option Nat) :
    policy.setLastIf? pointer value =
      some { policy with nodes := policy.nodes.setLast pointer value } := by
  cases pointer with
  | none =>
      simp [setLastIf?]
  | some address =>
      simp [setLastIf?, setLast?,
        Heap.setLast?_of_isSome (valid address rfl)]

/-! ## The operations as surgeries -/

section Surgeries

variable {address : Nat} {node : PidPriorityInfo}

/-- `remove` takes the node out and frees it. -/
theorem removeNode_eq
    {background : Option Nat}
    (found : policy.nodes address = some node)
    (notLast : node.last ≠ some address)
    (validNext : Valid policy node.next)
    (validLast : Valid policy node.last)
    (moved :
      policy.backgroundWithout? (some address) node.next =
        some background) :
    policy.removeNode address =
      some
        { policy with
          mHead :=
            if policy.mHead = some address then node.next
            else policy.mHead
          mTail :=
            if policy.mTail = some address then node.last
            else policy.mTail
          mBackgroundPos := background
          nodes :=
            (policy.nodes.unlink node.last node.next).free address } := by
  have same :
      (policy.nodes.setNext node.last node.next) address = some node := by
    rw [Heap.setNext_of_ne _ notLast, found]
  simp only [removeNode, next?, last?, Heap.deref?, Option.bind_some,
    found, Option.map_some, moved, Option.bind_eq_bind]
  rw [setNextIf?_of_valid (by exact validLast)]
  simp only [Option.bind_some, same, Option.map_some]
  rw [setLastIf?_of_valid (by simpa [Valid] using validNext)]
  rfl

/-- `pushForeground` takes the node out and puts it in front of the head. -/
theorem moveToHead_eq
    {head : Nat}
    (found : policy.nodes address = some node)
    (notNext : node.next ≠ some address)
    (notLast : node.last ≠ some address)
    (validNext : Valid policy node.next)
    (validLast : Valid policy node.last)
    (isHead : policy.mHead = some head)
    (validHead : (policy.nodes head).isSome = true) :
    policy.moveToHead (some address) =
      some
        { policy with
          mHead := some address
          mTail :=
            if policy.mTail = some address ∧ node.last.isSome = true then
              node.last
            else
              policy.mTail
          nodes :=
            (policy.nodes.unlink node.last node.next).link address none
              (some head) } := by
  have afterLast :
      (policy.nodes.setLast node.next node.last) address =
        some node := by
    rw [Heap.setLast_of_ne _ notNext, found]
  have afterBoth :
      ((policy.nodes.setLast node.next node.last).setNext node.last
        node.next) address = some node := by
    rw [Heap.setNext_of_ne _ notLast, afterLast]
  simp only [moveToHead, next?, last?, Heap.deref?, Option.bind_some,
    found, Option.map_some, Option.bind_eq_bind]
  rw [setLastIf?_of_valid (by exact validNext)]
  simp only [Option.bind_some, afterLast, Option.map_some]
  rw [setNextIf?_of_valid (by simpa [Valid] using validLast)]
  simp only [Option.bind_some, afterBoth, Option.map_some, setNext?,
    setLast?, isHead]
  rw [Heap.setNext?_of_isSome (by simp [found])]
  simp only [Option.bind_some, Option.map_some]
  rw [Heap.setLast?_of_isSome (by simp [found])]
  simp only [Option.bind_some, Option.map_some]
  rw [Heap.setLast?_of_isSome (by simpa using validHead)]
  simp only [Option.bind_some, Option.map_some, Heap.link,
    Heap.unlink, Heap.setNext_null, Heap.setLast_setNext_comm]

/-- `intoBackground` up to the first write through the boundary's `last`. -/
private theorem moveIntoBackground_reaches
    {boundary : Nat}
    {boundaryNode : PidPriorityInfo}
    (found : policy.nodes address = some node)
    (notNext : node.next ≠ some address)
    (notLast : node.last ≠ some address)
    (validNext : Valid policy node.next)
    (validLast : Valid policy node.last)
    (isBoundary : policy.mBackgroundPos = some boundary)
    (differs : address ≠ boundary)
    (boundaryFound :
      (policy.nodes.unlink node.last node.next) boundary =
        some boundaryNode) :
    policy.moveIntoBackground (some address) =
      ((((policy.nodes.unlink node.last node.next).setNext (some address)
        (some boundary)).setLast (some address) boundaryNode.last
        ).setNext? boundaryNode.last (some address)).bind fun nodes =>
          (nodes.setLast? (some boundary) (some address)).map
            fun nodes =>
              { policy with
                mHead :=
                  if policy.mHead = some address then node.next
                  else policy.mHead
                mBackgroundPos := some address
                nodes := nodes } := by
  have afterNext :
      (policy.nodes.setNext node.last node.next) address =
        some node := by
    rw [Heap.setNext_of_ne _ notLast, found]
  have unlinked :
      (policy.nodes.unlink node.last node.next) address = some node := by
    rw [Heap.unlink_of_ne _ notLast notNext, found]
  have addressDiffers : some address ≠ some boundary := by
    simpa using differs
  have boundaryNext :
      ((policy.nodes.unlink node.last node.next).setNext (some address)
        (some boundary)) boundary = some boundaryNode := by
    rw [Heap.setNext_of_ne _ addressDiffers, boundaryFound]
  have boundaryBoth :
      (((policy.nodes.unlink node.last node.next).setNext (some address)
        (some boundary)).setLast (some address) boundaryNode.last)
          boundary = some boundaryNode := by
    rw [Heap.setLast_of_ne _ addressDiffers, boundaryNext]
  simp only [moveIntoBackground, next?, last?, Heap.deref?,
    Option.bind_some, found, Option.map_some, Option.bind_eq_bind]
  rw [setNextIf?_of_valid (by exact validLast)]
  simp only [Option.bind_some, afterNext, Option.map_some]
  rw [setLastIf?_of_valid (by simpa [Valid] using validNext)]
  simp only [Option.bind_some, ← Heap.unlink.eq_1, unlinked,
    Option.map_some, setNext?, setLast?, isBoundary]
  rw [Heap.setNext?_of_isSome (by simp [unlinked])]
  simp only [Option.bind_some, Option.map_some, Option.isSome_some,
    if_true, boundaryNext]
  rw [Heap.setLast?_of_isSome (by simp [unlinked])]
  simp only [Option.bind_some, Option.map_some, boundaryBoth]
  generalize Heap.setNext? _ boundaryNode.last (some address) = linked
  cases linked with
  | none =>
      rfl
  | some nodes =>
      simp only [Option.bind_some, Option.map_some]
      cases nodes.setLast? (some boundary) (some address) <;> rfl

/-- `intoBackground` puts the node in front of the background position. -/
theorem moveIntoBackground_eq_before
    {boundary before : Nat}
    {boundaryNode : PidPriorityInfo}
    (found : policy.nodes address = some node)
    (notNext : node.next ≠ some address)
    (notLast : node.last ≠ some address)
    (validNext : Valid policy node.next)
    (validLast : Valid policy node.last)
    (isBoundary : policy.mBackgroundPos = some boundary)
    (differs : address ≠ boundary)
    (boundaryFound :
      (policy.nodes.unlink node.last node.next) boundary =
        some boundaryNode)
    (boundaryLast : boundaryNode.last = some before)
    (validBefore : (policy.nodes before).isSome = true) :
    policy.moveIntoBackground (some address) =
      some
        { policy with
          mHead :=
            if policy.mHead = some address then node.next
            else policy.mHead
          mBackgroundPos := some address
          nodes :=
            (policy.nodes.unlink node.last node.next).link address
              (some before) (some boundary) } := by
  have boundaryValid : (policy.nodes boundary).isSome = true := by
    have := congrArg Option.isSome boundaryFound
    simpa [Heap.unlink] using this
  rw [moveIntoBackground_reaches found notNext notLast validNext
    validLast isBoundary differs boundaryFound, boundaryLast,
    Heap.setNext?_of_isSome (by simpa [Heap.unlink] using validBefore),
    Option.bind_some,
    Heap.setLast?_of_isSome (by simpa [Heap.unlink] using boundaryValid)]
  rfl

/-- With nothing before the background position it goes through null. -/
theorem moveIntoBackground_eq_none
    {boundary : Nat}
    {boundaryNode : PidPriorityInfo}
    (found : policy.nodes address = some node)
    (notNext : node.next ≠ some address)
    (notLast : node.last ≠ some address)
    (validNext : Valid policy node.next)
    (validLast : Valid policy node.last)
    (isBoundary : policy.mBackgroundPos = some boundary)
    (differs : address ≠ boundary)
    (boundaryFound :
      (policy.nodes.unlink node.last node.next) boundary =
        some boundaryNode)
    (boundaryLast : boundaryNode.last = none) :
    policy.moveIntoBackground (some address) = none := by
  rw [moveIntoBackground_reaches found notNext notLast validNext
    validLast isBoundary differs boundaryFound, boundaryLast]
  rfl

/-- Without a background, `intoBackground` puts the node behind the tail. -/
theorem moveIntoBackground_eq_tail
    {tail : Nat}
    (found : policy.nodes address = some node)
    (notNext : node.next ≠ some address)
    (notLast : node.last ≠ some address)
    (validNext : Valid policy node.next)
    (validLast : Valid policy node.last)
    (noBackground : policy.mBackgroundPos = none)
    (isTail : policy.mTail = some tail)
    (validTail : (policy.nodes tail).isSome = true) :
    policy.moveIntoBackground (some address) =
      some
        { policy with
          mHead :=
            if policy.mHead = some address then node.next
            else policy.mHead
          mTail := some address
          mBackgroundPos := some address
          nodes :=
            (policy.nodes.unlink node.last node.next).link address
              (some tail) none } := by
  have afterNext :
      (policy.nodes.setNext node.last node.next) address =
        some node := by
    rw [Heap.setNext_of_ne _ notLast, found]
  have unlinked :
      (policy.nodes.unlink node.last node.next) address = some node := by
    rw [Heap.unlink_of_ne _ notLast notNext, found]
  simp only [moveIntoBackground, next?, last?, Heap.deref?,
    Option.bind_some, found, Option.map_some, Option.bind_eq_bind]
  rw [setNextIf?_of_valid (by exact validLast)]
  simp only [Option.bind_some, afterNext, Option.map_some]
  rw [setLastIf?_of_valid (by simpa [Valid] using validNext)]
  simp only [Option.bind_some, ← Heap.unlink.eq_1, unlinked,
    Option.map_some, setNext?, setLast?, noBackground, isTail]
  rw [Heap.setNext?_of_isSome (by simp [unlinked])]
  simp only [Option.bind_some, Option.map_some, Option.isSome_none,
    Bool.false_eq_true, if_false]
  rw [Heap.setLast?_of_isSome (by simp [unlinked])]
  simp only [Option.bind_some, Option.map_some]
  rw [Heap.setNext?_of_isSome (by simpa [Heap.unlink] using validTail)]
  simp only [Option.bind_some, Option.map_some, Heap.link,
    Heap.setLast_null]

/-- `add` puts a new node in front of the head. -/
theorem addForeground_eq
    (found : policy.nodes address = some node)
    (fresh : node.last = none)
    (validHead : Valid policy policy.mHead) :
    policy.addForeground (some address) =
      some
        { policy with
          mHead := some address
          mTail :=
            if policy.mTail.isNone then some address else policy.mTail
          nodes := policy.nodes.link address none policy.mHead } := by
  have unchanged :
      (policy.nodes.setNext (some address) policy.mHead).setLast
          (some address) none =
        policy.nodes.setNext (some address) policy.mHead := by
    have afterNext :
        (policy.nodes.setNext (some address) policy.mHead) address =
          some { node with next := policy.mHead } := by
      rw [Heap.setNext_self, found]
      rfl
    have same := Heap.setLast_eq_self afterNext
    rwa [show ({ node with next := policy.mHead } :
      PidPriorityInfo).last = none from fresh] at same
  simp only [addForeground, setNext?, Option.bind_eq_bind]
  rw [Heap.setNext?_of_isSome (by simp [found])]
  simp only [Option.map_some, Option.bind_some]
  rw [setLastIf?_of_valid (by simpa [Valid] using validHead)]
  simp only [Option.bind_some, Heap.link, Heap.setNext_null, unchanged]

/-- `add` puts a new node in front of the background position. -/
theorem addBackground_eq_before
    {boundary : Nat}
    {boundaryNode : PidPriorityInfo}
    (found : policy.nodes address = some node)
    (isBoundary : policy.mBackgroundPos = some boundary)
    (differs : address ≠ boundary)
    (boundaryFound : policy.nodes boundary = some boundaryNode)
    (validBefore : Valid policy boundaryNode.last) :
    policy.addBackground (some address) =
      some
        { policy with
          mHead :=
            if boundaryNode.last.isSome then policy.mHead
            else some address
          mBackgroundPos := some address
          nodes :=
            policy.nodes.link address boundaryNode.last
              (some boundary) } := by
  have addressDiffers : some address ≠ some boundary := by
    simpa using differs
  have boundaryNext :
      (policy.nodes.setNext (some address) (some boundary)) boundary =
        some boundaryNode := by
    rw [Heap.setNext_of_ne _ addressDiffers, boundaryFound]
  have boundaryBoth :
      ((policy.nodes.setNext (some address) (some boundary)).setLast
        (some address) boundaryNode.last) boundary =
        some boundaryNode := by
    rw [Heap.setLast_of_ne _ addressDiffers, boundaryNext]
  simp only [addBackground, setNext?, isBoundary, Option.bind_eq_bind]
  rw [Heap.setNext?_of_isSome (by simp [found])]
  simp only [Option.map_some, Option.bind_some, Option.isSome_some,
    if_true, last?, Heap.deref?, boundaryNext, setLast?]
  rw [Heap.setLast?_of_isSome (by simp [found])]
  simp only [Option.map_some, Option.bind_some, boundaryBoth]
  rw [setNextIf?_of_valid (by simpa [Valid] using validBefore)]
  simp only [Option.bind_some]
  rw [Heap.setLast?_of_isSome (by simp [boundaryFound])]
  simp only [Option.map_some, Option.bind_some, Heap.link]

/-- Without a background, `add` puts a new node behind the tail. -/
theorem addBackground_eq_tail
    (found : policy.nodes address = some node)
    (noBackground : policy.mBackgroundPos = none)
    (validTail : Valid policy policy.mTail) :
    policy.addBackground (some address) =
      some
        { policy with
          mHead :=
            if policy.mHead.isNone then some address else policy.mHead
          mTail := some address
          mBackgroundPos := some address
          nodes := policy.nodes.link address policy.mTail none } := by
  simp only [addBackground, setNext?, noBackground, Option.bind_eq_bind]
  rw [Heap.setNext?_of_isSome (by simp [found])]
  simp only [Option.map_some, Option.bind_some, Option.isSome_none,
    Bool.false_eq_true, if_false, setLast?]
  rw [Heap.setLast?_of_isSome (by simp [found])]
  simp only [Option.map_some, Option.bind_some]
  rw [setNextIf?_of_valid (by simpa [Valid] using validTail)]
  simp only [Option.bind_some, Heap.link, Heap.setLast_null]

end Surgeries

/-! ## Looking a process up -/

namespace Listed

variable {entries left right : List Entry} {entry : Entry} {pid : Nat}

/-- Two entries of one process are the same. -/
theorem split_pids
    (listed : Listed policy (left ++ entry :: right))
    (isEntry : hasPid pid entry = true) :
    (∀ other ∈ left, hasPid pid other = false) ∧
      ∀ other ∈ right, hasPid pid other = false := by
  have pids := listed.pids
  simp only [List.map_append, List.map_cons, List.nodup_append,
    List.nodup_cons, List.mem_map, List.mem_cons, not_exists,
    not_and] at pids
  have isPid : entryPid entry = pid := by
    simpa [hasPid] using isEntry
  constructor
  · intro other member
    have differs :=
      pids.2.2 (entryPid other) ⟨other, member, rfl⟩
        (entryPid entry) (Or.inl rfl)
    simpa [hasPid, ← isPid] using differs
  · intro other member
    have differs := pids.2.1.1 other member
    simpa [hasPid, ← isPid] using differs

/-- The fuel of the loops covers the list. -/
theorem length_le
    (listed : Listed policy entries) :
    entries.length ≤ policy.allocated := by
  have inRange :
      addresses entries ⊆ List.range policy.allocated := by
    intro address member
    exact List.mem_range.mpr (listed.bounded address member)
  have shorter :=
    (List.subperm_of_subset listed.distinct inRange).length_le
  simpa [addresses] using shorter

/-- The loop of `get` passes the entries of other processes. -/
private theorem getFrom_eq
    {nodes : Heap ProcessInfo}
    {before : Option Nat}
    {fuel : Nat}
    (segment : Segment nodes before entries none)
    (enough : entries.length ≤ fuel) :
    getFrom nodes pid fuel (first entries none) =
      some ((entries.find? (hasPid pid)).map Prod.fst) := by
  induction entries generalizing before fuel with
  | nil =>
      cases fuel <;> rfl
  | cons entry rest inductionHypothesis =>
      cases fuel with
      | zero =>
          simp at enough
      | succ fuel =>
          obtain ⟨found, later⟩ := segment
          have fits : rest.length ≤ fuel := by
            simpa using enough
          simp only [first_cons, getFrom, found, Option.bind_eq_bind,
            Option.bind_some]
          by_cases isPid : entry.2.pid = pid
          · simp [isPid, hasPid, entryPid]
          · rw [if_neg isPid, inductionHypothesis later fits]
            simp [hasPid, entryPid, isPid]

/-- `get` finds the entry of a listed process, and null otherwise. -/
theorem get_eq
    (listed : Listed policy entries)
    (pid : Nat) :
    policy.get pid =
      some ((entries.find? (hasPid pid)).map Prod.fst) := by
  rw [ProcessPriorityPolicy.get, listed.head]
  exact getFrom_eq listed.linked listed.length_le

theorem get_absent
    (listed : Listed policy entries)
    (absent : ∀ other ∈ entries, hasPid pid other = false) :
    policy.get pid = some none := by
  rw [listed.get_eq, List.find?_eq_none.mpr (by simpa using absent)]
  rfl

theorem get_present
    (listed : Listed policy (left ++ entry :: right))
    (isEntry : hasPid pid entry = true) :
    policy.get pid = some (some entry.1) := by
  have notLeft := (listed.split_pids isEntry).1
  rw [listed.get_eq, List.find?_append,
    List.find?_eq_none.mpr (by simpa using notLeft),
    List.find?_cons_of_pos isEntry]
  rfl

/-- A process is listed at one place or not at all. -/
theorem absent_or_present
    (entries : List Entry)
    (pid : Nat) :
    (∀ other ∈ entries, hasPid pid other = false) ∨
      ∃ left entry right,
        entries = left ++ entry :: right ∧
          hasPid pid entry = true := by
  by_cases present : ∃ entry ∈ entries, hasPid pid entry = true
  · obtain ⟨entry, member, isEntry⟩ := present
    obtain ⟨left, right, shape⟩ := List.append_of_mem member
    exact Or.inr ⟨left, entry, right, shape, isEntry⟩
  · left
    intro other member
    by_contra isEntry
    exact present ⟨other, member, by simpa using isEntry⟩

/-! ## The node of an entry -/

/-- The node of an entry, and what is known about its neighbours. -/
theorem around
    (listed : Listed policy (left ++ entry :: right)) :
    policy.nodes entry.1 =
        some
          { data := entry.2
            next := first right none
            last := final none left } ∧
      entry.1 ∉ addresses left ∧
      entry.1 ∉ addresses right ∧
      final none left ≠ some entry.1 ∧
      first right none ≠ some entry.1 ∧
      Valid policy (first right none) ∧
      Valid policy (final none left) := by
  have distinct := listed.distinct
  simp only [addresses_append, addresses_cons, List.nodup_append,
    List.nodup_cons, List.mem_cons] at distinct
  have notLeft : entry.1 ∉ addresses left :=
    fun member => distinct.2.2 entry.1 member entry.1 (Or.inl rfl) rfl
  have notRight : entry.1 ∉ addresses right :=
    distinct.2.1.1
  obtain ⟨notBefore, notAfter⟩ := neighbours_ne notLeft notRight
  refine ⟨listed.linked.node_at, notLeft, notRight, notBefore, notAfter,
    ?_, ?_⟩
  · intro address isNext
    exact listed.linked.isSome_of_mem (by
      simp [mem_of_first isNext])
  · intro address isLast
    exact listed.linked.isSome_of_mem (by
      simp [mem_of_final isLast])

/-- The other entries belong to other processes. -/
theorem other_pids
    (listed : Listed policy (left ++ entry :: right)) :
    ∀ other ∈ left ++ right, entryPid other ≠ entryPid entry := by
  have isEntry : hasPid (entryPid entry) entry = true :=
    beq_self_eq_true _
  obtain ⟨notLeft, notRight⟩ := listed.split_pids isEntry
  intro other member
  rcases List.mem_append.mp member with inLeft | inRight
  · simpa [hasPid] using notLeft other inLeft
  · simpa [hasPid] using notRight other inRight

/-- The parts of the list around an entry. -/
theorem without_distinct
    (listed : Listed policy (left ++ entry :: right)) :
    (addresses (left ++ right)).Nodup ∧
      (∀ address ∈ addresses (left ++ right),
        address < policy.allocated) ∧
      ((left ++ right).map entryPid).Nodup := by
  have fewer :
      (left ++ right).Sublist (left ++ entry :: right) := by
    simp
  refine ⟨listed.distinct.sublist (fewer.map _), ?_,
    listed.pids.sublist (fewer.map _)⟩
  intro address member
  exact listed.bounded address ((fewer.map _).subset member)

/-- The head once an entry is gone. -/
theorem head_without
    (notLeft : entry.1 ∉ addresses left) :
    (if first (left ++ entry :: right) none = some entry.1 then
        first right none
      else
        first (left ++ entry :: right) none) =
      first (left ++ right) none := by
  cases left with
  | nil =>
      simp
  | cons other rest =>
      have differs : other.1 ≠ entry.1 := by
        intro same
        exact notLeft (by simp [same])
      simp [differs]

/-- The tail once an entry is gone. -/
theorem tail_without
    (notRight : entry.1 ∉ addresses right) :
    (if final none (left ++ entry :: right) = some entry.1 then
        final none left
      else
        final none (left ++ entry :: right)) =
      final none (left ++ right) := by
  rcases List.eq_nil_or_concat right with rfl | ⟨front, other, rfl⟩
  · simp
  · have differs : other.1 ≠ entry.1 := by
      intro same
      exact notRight (by simp [same])
    simp [differs]

end Listed

end ActivityManager.ProcessPriorityPolicy
