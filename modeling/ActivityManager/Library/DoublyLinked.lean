import Mathlib.Data.List.Nodup

/-!
# Doubly linked lists in a heap

Nodes live at numbered addresses; a pointer is an optional address.  A list
segment relates a heap to the sequence of cells (address and payload) that a
traversal meets, together with the pointers that come in from both sides.
The two surgeries on a list, taking a node out and putting one in, are
composed of writes to single fields; their rules say what they do to segments.
-/

namespace DoublyLinked

variable {α : Type}

/-- A node with its payload and its two links. -/
structure Node (α : Type) where
  data : α
  next : Option Nat
  last : Option Nat
  deriving Repr, DecidableEq

/-- The allocated nodes. -/
abbrev Heap (α : Type) :=
  Nat → Option (Node α)

/-- An address and the payload of the node there. -/
abbrev Cell (α : Type) :=
  Nat × α

namespace Heap

/-- Change the node that a pointer refers to; nothing happens at null. -/
def modify
    (heap : Heap α)
    (pointer : Option Nat)
    (change : Node α → Node α) : Heap α :=
  fun address =>
    if pointer = some address then
      (heap address).map change
    else
      heap address

/-- Write the field `next` behind a pointer. -/
def setNext
    (heap : Heap α)
    (pointer value : Option Nat) : Heap α :=
  heap.modify pointer fun node => { node with next := value }

/-- Write the field `last` behind a pointer. -/
def setLast
    (heap : Heap α)
    (pointer value : Option Nat) : Heap α :=
  heap.modify pointer fun node => { node with last := value }

/-- The node behind a pointer; `none` for a null or dangling pointer. -/
def deref?
    (heap : Heap α)
    (pointer : Option Nat) : Option (Node α) :=
  pointer.bind heap

/-- `pointer->next = value`. -/
def setNext?
    (heap : Heap α)
    (pointer value : Option Nat) : Option (Heap α) :=
  (heap.deref? pointer).map fun _ => heap.setNext pointer value

/-- `pointer->last = value`. -/
def setLast?
    (heap : Heap α)
    (pointer value : Option Nat) : Option (Heap α) :=
  (heap.deref? pointer).map fun _ => heap.setLast pointer value

/-- Free the node at an address. -/
def free
    (heap : Heap α)
    (address : Nat) : Heap α :=
  fun other => if other = address then none else heap other

/-- Place a node at an address. -/
def place
    (heap : Heap α)
    (address : Nat)
    (node : Node α) : Heap α :=
  fun other => if other = address then some node else heap other

theorem modify_of_ne
    (heap : Heap α)
    {pointer : Option Nat}
    {address : Nat}
    (different : pointer ≠ some address)
    (change : Node α → Node α) :
    heap.modify pointer change address = heap address := by
  simp [modify, different]

theorem setNext_of_ne
    (heap : Heap α)
    {pointer : Option Nat}
    {address : Nat}
    (different : pointer ≠ some address)
    (value : Option Nat) :
    heap.setNext pointer value address = heap address :=
  heap.modify_of_ne different _

theorem setLast_of_ne
    (heap : Heap α)
    {pointer : Option Nat}
    {address : Nat}
    (different : pointer ≠ some address)
    (value : Option Nat) :
    heap.setLast pointer value address = heap address :=
  heap.modify_of_ne different _

@[simp] theorem setNext_self
    (heap : Heap α)
    (address : Nat)
    (value : Option Nat) :
    heap.setNext (some address) value address =
      (heap address).map fun node => { node with next := value } := by
  simp [setNext, modify]

@[simp] theorem setLast_self
    (heap : Heap α)
    (address : Nat)
    (value : Option Nat) :
    heap.setLast (some address) value address =
      (heap address).map fun node => { node with last := value } := by
  simp [setLast, modify]

@[simp] theorem setNext_null
    (heap : Heap α)
    (value : Option Nat) :
    heap.setNext none value = heap := by
  funext address
  simp [setNext, modify]

@[simp] theorem setLast_null
    (heap : Heap α)
    (value : Option Nat) :
    heap.setLast none value = heap := by
  funext address
  simp [setLast, modify]

@[simp] theorem modify_isSome
    (heap : Heap α)
    (pointer : Option Nat)
    (change : Node α → Node α)
    (address : Nat) :
    (heap.modify pointer change address).isSome =
      (heap address).isSome := by
  unfold modify
  split <;> simp

@[simp] theorem setNext_isSome
    (heap : Heap α)
    (pointer value : Option Nat)
    (address : Nat) :
    (heap.setNext pointer value address).isSome =
      (heap address).isSome :=
  heap.modify_isSome _ _ _

@[simp] theorem setLast_isSome
    (heap : Heap α)
    (pointer value : Option Nat)
    (address : Nat) :
    (heap.setLast pointer value address).isSome =
      (heap address).isSome :=
  heap.modify_isSome _ _ _

/-- Writing the value that is there changes nothing. -/
theorem setLast_eq_self
    {heap : Heap α}
    {address : Nat}
    {node : Node α}
    (found : heap address = some node) :
    heap.setLast (some address) node.last = heap := by
  funext other
  by_cases same : address = other
  · subst same
    rw [setLast_self, found]
    rfl
  · exact heap.setLast_of_ne (by simpa using same) _

@[simp] theorem place_self
    (heap : Heap α)
    (address : Nat)
    (node : Node α) :
    heap.place address node address = some node := by
  simp [place]

theorem place_of_ne
    (heap : Heap α)
    {address other : Nat}
    (different : other ≠ address)
    (node : Node α) :
    heap.place address node other = heap other := by
  simp [place, different]

theorem free_of_ne
    (heap : Heap α)
    {address other : Nat}
    (different : other ≠ address) :
    heap.free address other = heap other := by
  simp [free, different]

/-- Writes to different fields commute, also through aliased pointers. -/
theorem setLast_setNext_comm
    (heap : Heap α)
    (first firstValue second secondValue : Option Nat) :
    (heap.setNext first firstValue).setLast second secondValue =
      (heap.setLast second secondValue).setNext first firstValue := by
  funext address
  simp only [setNext, setLast, modify]
  by_cases isFirst : first = some address
  · by_cases isSecond : second = some address <;>
      cases heap address <;> simp [isFirst, isSecond]
  · by_cases isSecond : second = some address <;>
      simp [isFirst, isSecond]

/-- A write behind a valid pointer succeeds. -/
theorem setNext?_of_isSome
    {heap : Heap α}
    {address : Nat}
    (valid : (heap address).isSome = true)
    (value : Option Nat) :
    heap.setNext? (some address) value =
      some (heap.setNext (some address) value) := by
  obtain ⟨node, found⟩ := Option.isSome_iff_exists.mp valid
  simp [setNext?, deref?, found]

theorem setLast?_of_isSome
    {heap : Heap α}
    {address : Nat}
    (valid : (heap address).isSome = true)
    (value : Option Nat) :
    heap.setLast? (some address) value =
      some (heap.setLast (some address) value) := by
  obtain ⟨node, found⟩ := Option.isSome_iff_exists.mp valid
  simp [setLast?, deref?, found]

end Heap

/-! ## Segments -/

/-- The pointer to the first cell, or what comes after an empty list. -/
def first
    (cells : List (Cell α))
    (after : Option Nat) : Option Nat :=
  match cells with
  | [] => after
  | cell :: _ => some cell.1

/-- The pointer to the final cell, or what comes before an empty list. -/
def final
    (before : Option Nat)
    (cells : List (Cell α)) : Option Nat :=
  match cells with
  | [] => before
  | cell :: rest => final (some cell.1) rest

/-- The addresses of cells. -/
def addresses (cells : List (Cell α)) : List Nat :=
  cells.map Prod.fst

/-- The heap holds the cells, linked in order, between two pointers. -/
def Segment (heap : Heap α) :
    Option Nat → List (Cell α) → Option Nat → Prop
  | _, [], _ =>
      True
  | before, cell :: rest, after =>
      heap cell.1 =
          some
            { data := cell.2
              next := first rest after
              last := before } ∧
        Segment heap (some cell.1) rest after

@[simp] theorem first_nil (after : Option Nat) :
    first ([] : List (Cell α)) after = after := by
  rfl

@[simp] theorem first_cons
    (cell : Cell α)
    (rest : List (Cell α))
    (after : Option Nat) :
    first (cell :: rest) after = some cell.1 := by
  rfl

@[simp] theorem final_nil (before : Option Nat) :
    final before ([] : List (Cell α)) = before := by
  rfl

@[simp] theorem final_cons
    (before : Option Nat)
    (cell : Cell α)
    (rest : List (Cell α)) :
    final before (cell :: rest) = final (some cell.1) rest := by
  rfl

@[simp] theorem first_append
    (left right : List (Cell α))
    (after : Option Nat) :
    first (left ++ right) after = first left (first right after) := by
  cases left <;> rfl

@[simp] theorem final_append
    (before : Option Nat)
    (left right : List (Cell α)) :
    final before (left ++ right) = final (final before left) right := by
  induction left generalizing before with
  | nil =>
      rfl
  | cons cell rest inductionHypothesis =>
      exact inductionHypothesis (some cell.1)

@[simp] theorem addresses_nil :
    addresses ([] : List (Cell α)) = [] := by
  rfl

@[simp] theorem addresses_cons
    (cell : Cell α)
    (rest : List (Cell α)) :
    addresses (cell :: rest) = cell.1 :: addresses rest := by
  rfl

@[simp] theorem addresses_append
    (left right : List (Cell α)) :
    addresses (left ++ right) = addresses left ++ addresses right := by
  exact List.map_append

/-- A list that is not empty hides what comes after it. -/
theorem first_of_ne_nil
    {cells : List (Cell α)}
    (notEmpty : cells ≠ [])
    (after other : Option Nat) :
    first cells after = first cells other := by
  cases cells with
  | nil =>
      exact absurd rfl notEmpty
  | cons cell rest =>
      rfl

/-- A list that is not empty hides what comes before it. -/
theorem final_of_ne_nil
    {cells : List (Cell α)}
    (notEmpty : cells ≠ [])
    (before other : Option Nat) :
    final before cells = final other cells := by
  cases cells with
  | nil =>
      exact absurd rfl notEmpty
  | cons cell rest =>
      rfl

/-- What comes after a list counts only if the list is empty. -/
theorem first_eq_ite
    (cells : List (Cell α))
    (after : Option Nat) :
    first cells after =
      if (first cells none).isNone then after else first cells none := by
  cases cells <;> simp

theorem final_isSome
    (cells : List (Cell α))
    (address : Nat) :
    (final (some address) cells).isSome = true := by
  induction cells generalizing address with
  | nil =>
      rfl
  | cons cell rest inductionHypothesis =>
      exact inductionHypothesis cell.1

/-- What comes before a list counts only if the list is empty. -/
theorem final_eq_ite
    (before : Option Nat)
    (cells : List (Cell α)) :
    final before cells =
      if (final none cells).isNone then before else final none cells := by
  cases cells with
  | nil =>
      simp
  | cons cell rest =>
      have notNull := final_isSome rest cell.1
      rw [Option.isSome_iff_ne_none] at notNull
      simp [notNull]

/-- The first pointer refers to a cell. -/
theorem mem_of_first
    {cells : List (Cell α)}
    {address : Nat}
    (isFirst : first cells none = some address) :
    address ∈ addresses cells := by
  cases cells with
  | nil =>
      simp at isFirst
  | cons cell rest =>
      simp only [first_cons, Option.some.injEq] at isFirst
      simp [isFirst]

/-- The final pointer refers to a cell. -/
theorem mem_of_final
    {cells : List (Cell α)}
    {address : Nat}
    (isFinal : final none cells = some address) :
    address ∈ addresses cells := by
  rcases List.eq_nil_or_concat cells with rfl | ⟨front, cell, rfl⟩
  · simp at isFinal
  · simp only [List.concat_eq_append, final_append, final_cons,
      final_nil, Option.some.injEq] at isFinal
    simp [isFinal]

/-- The first pointer of a list is null only if the list is empty. -/
theorem first_eq_none
    {cells : List (Cell α)} :
    first cells none = none ↔ cells = [] := by
  cases cells <;> simp

theorem final_eq_none
    {cells : List (Cell α)} :
    final none cells = none ↔ cells = [] := by
  rcases List.eq_nil_or_concat cells with rfl | ⟨front, cell, rfl⟩ <;>
    simp

/-- The first pointer is the first address. -/
theorem first_eq_head? (cells : List (Cell α)) :
    first cells none = (addresses cells).head? := by
  cases cells <;> rfl

/-- Suffixes that begin at the same address are as long as each other. -/
theorem head?_eq_iff_of_suffix
    {all left right : List Nat}
    (distinct : all.Nodup)
    (isLeft : left <:+ all)
    (isRight : right <:+ all) :
    left.head? = right.head? ↔ left.length = right.length := by
  have sameHead :
      ∀ {shorter longer : List Nat},
        longer <:+ all →
        shorter <:+ longer →
        shorter.head? = longer.head? →
        shorter = longer := by
    rintro shorter longer isLonger ⟨front, rfl⟩ same
    have longerDistinct := distinct.sublist isLonger.sublist
    cases front with
    | nil =>
        rfl
    | cons address rest =>
        rw [List.cons_append, List.nodup_cons] at longerDistinct
        have member : address ∈ shorter :=
          List.mem_of_head? (by simpa using same)
        exact absurd (by simp [member]) longerDistinct.1
  constructor
  · intro same
    rcases List.suffix_or_suffix_of_suffix isLeft isRight with
      leftShorter | rightShorter
    · rw [sameHead isRight leftShorter same]
    · rw [sameHead isLeft rightShorter same.symm]
  · intro sameLength
    rcases List.suffix_or_suffix_of_suffix isLeft isRight with
      leftShorter | rightShorter
    · rw [leftShorter.eq_of_length sameLength]
    · rw [rightShorter.eq_of_length sameLength.symm]

namespace Segment

variable
  {heap : Heap α}
  {before after : Option Nat}
  {cells : List (Cell α)}

/-- Segments compose: each part ends where the other one begins. -/
theorem append_iff
    {left right : List (Cell α)} :
    Segment heap before (left ++ right) after ↔
      Segment heap before left (first right after) ∧
        Segment heap (final before left) right after := by
  induction left generalizing before with
  | nil =>
      simp [Segment]
  | cons cell rest inductionHypothesis =>
      simp [Segment, inductionHypothesis, and_assoc]

/-- A segment depends on nothing but the nodes of its cells. -/
theorem congr
    {other : Heap α}
    (segment : Segment heap before cells after)
    (same : ∀ address ∈ addresses cells, other address = heap address) :
    Segment other before cells after := by
  induction cells generalizing before with
  | nil =>
      trivial
  | cons cell rest inductionHypothesis =>
      refine ⟨?_, inductionHypothesis segment.2 ?_⟩
      · rw [same cell.1 (by simp)]
        exact segment.1
      · intro address member
        exact same address (by simp [member])

/-- The nodes of the cells are allocated. -/
theorem isSome_of_mem
    (segment : Segment heap before cells after)
    {address : Nat}
    (member : address ∈ addresses cells) :
    (heap address).isSome = true := by
  induction cells generalizing before with
  | nil =>
      simp at member
  | cons cell rest inductionHypothesis =>
      rw [addresses_cons, List.mem_cons] at member
      rcases member with rfl | later
      · simp [segment.1]
      · exact inductionHypothesis segment.2 later

/-- The node of a cell in the middle. -/
theorem node_at
    {left right : List (Cell α)}
    {cell : Cell α}
    (segment : Segment heap before (left ++ cell :: right) after) :
    heap cell.1 =
      some
        { data := cell.2
          next := first right after
          last := final before left } :=
  (append_iff.mp segment).2.1

/-- A heap holds one list at most behind a pointer. -/
theorem unique
    {otherBefore : Option Nat}
    {otherCells : List (Cell α)}
    (segment : Segment heap before cells none)
    (other : Segment heap otherBefore otherCells none)
    (sameFirst : first cells none = first otherCells none) :
    cells = otherCells := by
  induction cells generalizing before otherBefore otherCells with
  | nil =>
      exact (first_eq_none.mp sameFirst.symm).symm
  | cons cell rest inductionHypothesis =>
      cases otherCells with
      | nil =>
          simp at sameFirst
      | cons otherCell otherRest =>
          obtain ⟨address, value⟩ := cell
          obtain ⟨otherAddress, otherValue⟩ := otherCell
          simp only [first_cons, Option.some.injEq] at sameFirst
          subst sameFirst
          obtain ⟨found, later⟩ := segment
          obtain ⟨otherFound, otherLater⟩ := other
          rw [found, Option.some.injEq, Node.mk.injEq] at otherFound
          obtain ⟨sameValue, sameNext, _⟩ := otherFound
          dsimp only at sameValue
          rw [sameValue,
            inductionHypothesis later otherLater sameNext]

/-- Frame rule: a write elsewhere. -/
theorem modify_frame
    (segment : Segment heap before cells after)
    {pointer : Option Nat}
    (elsewhere :
      ∀ address, pointer = some address → address ∉ addresses cells)
    (change : Node α → Node α) :
    Segment (heap.modify pointer change) before cells after :=
  segment.congr fun address member =>
    heap.modify_of_ne
      (fun same => elsewhere address same member) change

theorem setNext_frame
    (segment : Segment heap before cells after)
    {pointer : Option Nat}
    (elsewhere :
      ∀ address, pointer = some address → address ∉ addresses cells)
    (value : Option Nat) :
    Segment (heap.setNext pointer value) before cells after :=
  segment.modify_frame elsewhere _

theorem setLast_frame
    (segment : Segment heap before cells after)
    {pointer : Option Nat}
    (elsewhere :
      ∀ address, pointer = some address → address ∉ addresses cells)
    (value : Option Nat) :
    Segment (heap.setLast pointer value) before cells after :=
  segment.modify_frame elsewhere _

/-- Writing `next` of the final cell changes where the segment leads. -/
theorem setNext_final
    (segment : Segment heap before cells after)
    (distinct : (addresses cells).Nodup)
    (value : Option Nat) :
    Segment (heap.setNext (final none cells) value)
      before cells value := by
  rcases List.eq_nil_or_concat cells with rfl | ⟨front, cell, rfl⟩
  · trivial
  · rw [List.concat_eq_append] at *
    rw [append_iff] at segment ⊢
    simp only [addresses_append, addresses_cons, addresses_nil,
      List.nodup_append, List.mem_singleton] at distinct
    simp only [final_append, final_cons, final_nil, first_cons] at *
    refine ⟨segment.1.setNext_frame ?_ value, ?_, trivial⟩
    · rintro address same member
      cases same
      exact distinct.2.2 cell.1 member cell.1 rfl rfl
    · rw [Heap.setNext_self, segment.2.1]
      rfl

/-- Writing `last` of the first cell changes where the segment comes from. -/
theorem setLast_first
    (segment : Segment heap before cells after)
    (distinct : (addresses cells).Nodup)
    (value : Option Nat) :
    Segment (heap.setLast (first cells none) value)
      value cells after := by
  cases cells with
  | nil =>
      trivial
  | cons cell rest =>
      rw [addresses_cons, List.nodup_cons] at distinct
      refine ⟨?_, segment.2.setLast_frame ?_ value⟩
      · rw [first_cons, Heap.setLast_self, segment.1]
        rfl
      · rintro address same member
        cases same
        exact distinct.1 member

/-- The node of a cell, with the lists around it. -/
theorem around
    (segment : Segment heap before cells after)
    {address : Nat}
    (member : address ∈ addresses cells) :
    ∃ left cell right,
      cells = left ++ cell :: right ∧
        cell.1 = address ∧
        heap address =
          some
            { data := cell.2
              next := first right after
              last := final before left } := by
  obtain ⟨cell, cellMember, rfl⟩ := List.mem_map.mp member
  obtain ⟨left, right, rfl⟩ := List.append_of_mem cellMember
  exact ⟨left, cell, right, rfl, rfl, segment.node_at⟩

/-- Going forward and back. -/
theorem last_of_next
    (segment : Segment heap before cells none)
    {address other : Nat}
    {node : Node α}
    (member : address ∈ addresses cells)
    (found : heap address = some node)
    (isNext : node.next = some other) :
    other ∈ addresses cells ∧
      (heap.deref? (some other)).map (·.last) =
        some (some address) := by
  obtain ⟨left, cell, right, rfl, rfl, here⟩ := segment.around member
  rw [found, Option.some.injEq] at here
  subst here
  cases right with
  | nil =>
      simp at isNext
  | cons following rest =>
      simp only [first_cons, Option.some.injEq] at isNext
      subst isNext
      refine ⟨by simp, ?_⟩
      have shape :
          left ++ cell :: following :: rest =
            (left ++ [cell]) ++ following :: rest := by
        simp
      rw [shape] at segment
      simp [Heap.deref?, segment.node_at]

/-- Going back and forward. -/
theorem next_of_last
    (segment : Segment heap none cells after)
    {address other : Nat}
    {node : Node α}
    (member : address ∈ addresses cells)
    (found : heap address = some node)
    (isLast : node.last = some other) :
    other ∈ addresses cells ∧
      (heap.deref? (some other)).map (·.next) =
        some (some address) := by
  obtain ⟨left, cell, right, rfl, rfl, here⟩ := segment.around member
  rw [found, Option.some.injEq] at here
  subst here
  rcases List.eq_nil_or_concat left with rfl | ⟨front, preceding, rfl⟩
  · simp at isLast
  · simp only [List.concat_eq_append, final_append, final_cons,
      final_nil, Option.some.injEq] at isLast
    subst isLast
    refine ⟨by simp, ?_⟩
    have shape :
        front.concat preceding ++ cell :: right =
          front ++ preceding :: cell :: right := by
      simp
    rw [shape] at segment
    simp [Heap.deref?, segment.node_at]

/-- Writing the payload of a cell leaves the links alone. -/
theorem setData
    {left right : List (Cell α)}
    {cell : Cell α}
    (segment : Segment heap before (left ++ cell :: right) after)
    (distinct : (addresses (left ++ cell :: right)).Nodup)
    (value : α) :
    Segment
      (heap.modify (some cell.1) fun node => { node with data := value })
      before (left ++ (cell.1, value) :: right) after := by
  rw [append_iff] at segment ⊢
  simp only [addresses_append, addresses_cons, List.nodup_append,
    List.nodup_cons, List.mem_cons] at distinct
  refine ⟨segment.1.modify_frame ?_ _, ?_,
    segment.2.2.modify_frame ?_ _⟩
  · rintro address same member
    cases same
    exact distinct.2.2 cell.1 member cell.1 (Or.inl rfl) rfl
  · simp [Heap.modify, segment.2.1]
  · rintro address same member
    cases same
    exact distinct.2.1.1 member

end Segment

/-! ## Taking a node out and putting one in -/

namespace Heap

/-- Join the neighbours of a node that is taken out. -/
def unlink
    (heap : Heap α)
    (before after : Option Nat) : Heap α :=
  (heap.setNext before after).setLast after before

/-- Put the node at an address between two neighbours. -/
def link
    (heap : Heap α)
    (address : Nat)
    (before after : Option Nat) : Heap α :=
  (((heap.setNext (some address) after).setLast (some address) before
    ).setNext before (some address)).setLast after (some address)

/-- Taking out does not touch nodes that are no neighbours. -/
theorem unlink_of_ne
    (heap : Heap α)
    {before after : Option Nat}
    {address : Nat}
    (notBefore : before ≠ some address)
    (notAfter : after ≠ some address) :
    heap.unlink before after address = heap address := by
  rw [unlink, setLast_of_ne _ notAfter, setNext_of_ne _ notBefore]

end Heap

/-- The pointers around a cell do not refer to it. -/
theorem neighbours_ne
    {left right : List (Cell α)}
    {address : Nat}
    (notLeft : address ∉ addresses left)
    (notRight : address ∉ addresses right) :
    final none left ≠ some address ∧
      first right none ≠ some address :=
  ⟨fun same => notLeft (mem_of_final same),
    fun same => notRight (mem_of_first same)⟩

namespace Segment

variable {heap : Heap α} {left right : List (Cell α)} {cell : Cell α}

/-- Retarget the seam between two parts of a list. -/
private theorem seam
    {changed : Heap α}
    {leads comes : Option Nat}
    (leftPart : Segment heap none left leads)
    (rightPart : Segment heap comes right none)
    (distinct : (addresses (left ++ right)).Nodup)
    (forward backward : Option Nat)
    (writes :
      changed =
        (heap.setNext (final none left) forward).setLast
          (first right none) backward) :
    Segment changed none left forward ∧
      Segment changed backward right none := by
  rw [addresses_append, List.nodup_append] at distinct
  obtain ⟨distinctLeft, distinctRight, disjoint⟩ := distinct
  subst writes
  constructor
  · refine (leftPart.setNext_final distinctLeft forward).setLast_frame
      ?_ backward
    intro address isFirst member
    exact disjoint address member address (mem_of_first isFirst) rfl
  · refine Segment.setLast_first
      (rightPart.setNext_frame ?_ forward) distinctRight backward
    intro address isFinal member
    exact disjoint address (mem_of_final isFinal) address member rfl

/-- The list without one of its nodes. -/
theorem unlink
    (segment : Segment heap none (left ++ cell :: right) none)
    (distinct : (addresses (left ++ cell :: right)).Nodup) :
    Segment
      (heap.unlink (final none left) (first right none))
      none (left ++ right) none := by
  obtain ⟨leftPart, _, rightPart⟩ := append_iff.mp segment
  have apart : (addresses (left ++ right)).Nodup := by
    refine distinct.sublist ?_
    simp
  exact append_iff.mpr (seam leftPart rightPart apart _ _ rfl)

/-- The list with one more node. -/
theorem link
    {node : Node α}
    (segment : Segment heap none (left ++ right) none)
    (distinct : (addresses (left ++ right)).Nodup)
    (allocated : heap cell.1 = some node)
    (payload : node.data = cell.2)
    (new : cell.1 ∉ addresses (left ++ right)) :
    Segment
      (heap.link cell.1 (final none left) (first right none))
      none (left ++ cell :: right) none := by
  rw [addresses_append, List.mem_append, not_or] at new
  obtain ⟨notBefore, notAfter⟩ := neighbours_ne new.1 new.2
  obtain ⟨leftPart, rightPart⟩ := append_iff.mp segment
  let prepared : Heap α :=
    (heap.setNext (some cell.1) (first right none)).setLast
      (some cell.1) (final none left)
  have elsewhere :
      ∀ part : List (Cell α),
        cell.1 ∉ addresses part →
        ∀ address,
          some cell.1 = some address →
          address ∉ addresses part := by
    rintro part outside address same
    cases same
    exact outside
  have leftPrepared : Segment prepared none left (first right none) :=
    (leftPart.setNext_frame (elsewhere left new.1) _).setLast_frame
      (elsewhere left new.1) _
  have rightPrepared :
      Segment prepared (final none left) right none :=
    (rightPart.setNext_frame (elsewhere right new.2) _).setLast_frame
      (elsewhere right new.2) _
  obtain ⟨leftLinked, rightLinked⟩ :=
    seam leftPrepared rightPrepared distinct (some cell.1)
      (some cell.1) rfl
  rw [append_iff]
  refine ⟨leftLinked, ?_, rightLinked⟩
  rw [Heap.link, Heap.setLast_of_ne _ notAfter,
    Heap.setNext_of_ne _ notBefore, Heap.setLast_self,
    Heap.setNext_self, allocated]
  simp [payload]

end Segment

end DoublyLinked
