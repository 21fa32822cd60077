import ActivityManager.ProcessPriorityRefinement

/-!
# Every call of the priority list does what the two parts say

For each operation there is one rule: from a list that represents some parts,
the call succeeds and the result represents what the abstract operation makes
of them.  Only `intoBackground` has a condition: a node can only be moved in
front of the background position when something is before it.
-/

namespace ActivityManager.ProcessPriorityPolicy

open DoublyLinked

variable {policy : ProcessPriorityPolicy}

/-! ## Adding -/

/-- The state in which `add` starts to link its new node. -/
def allocate
    (policy : ProcessPriorityPolicy)
    (pid : Nat)
    (level : ProcessPriority) : ProcessPriorityPolicy :=
  { policy with
    mLmk := policy.mLmk.setPidOomScore pid osMiddleLevelMinAdj
    nodes :=
      policy.nodes.place policy.allocated
        { data :=
            { pid := pid
              priorityLevel := level
              oomScore := osMiddleLevelMinAdj }
          next := none
          last := none }
    allocated := policy.allocated + 1 }

/-- The entry of a process that was just added. -/
def newEntry
    (policy : ProcessPriorityPolicy)
    (pid : Nat)
    (level : ProcessPriority) : Entry :=
  (policy.allocated,
    { pid := pid
      priorityLevel := level
      oomScore := osMiddleLevelMinAdj })

namespace Listed

variable {entries left right : List Entry} {entry : Entry} {pid : Nat}

/-- Allocation leaves the list alone. -/
theorem allocate
    (listed : Listed policy entries)
    (pid : Nat)
    (level : ProcessPriority) :
    Listed (policy.allocate pid level) entries where
  head := listed.head
  tail := listed.tail
  linked := by
    refine listed.linked.congr ?_
    intro address member
    exact Heap.place_of_ne _
      (Nat.ne_of_lt (listed.bounded address member)) _
  distinct := listed.distinct
  bounded address member :=
    Nat.lt_succ_of_lt (listed.bounded address member)
  pids := listed.pids

/-- A pointer to an end of the list is valid. -/
theorem valid_head
    (listed : Listed policy entries) :
    Valid policy policy.mHead := by
  intro address isHead
  rw [listed.head] at isHead
  exact listed.linked.isSome_of_mem (mem_of_first isHead)

theorem valid_tail
    (listed : Listed policy entries) :
    Valid policy policy.mTail := by
  intro address isTail
  rw [listed.tail] at isTail
  exact listed.linked.isSome_of_mem (mem_of_final isTail)

/-- Linking a node that is not listed between two parts of the list. -/
theorem link
    {next : ProcessPriorityPolicy}
    {node : PidPriorityInfo}
    {heap : Heap ProcessInfo}
    (linked : Segment heap none (left ++ right) none)
    (distinct : (addresses (left ++ right)).Nodup)
    (bounded :
      ∀ address ∈ addresses (left ++ right),
        address < next.allocated)
    (pids : ((left ++ right).map entryPid).Nodup)
    (found : heap entry.1 = some node)
    (payload : node.data = entry.2)
    (notListed : entry.1 ∉ addresses (left ++ right))
    (allocated : entry.1 < next.allocated)
    (notPid :
      ∀ other ∈ left ++ right, entryPid other ≠ entryPid entry)
    (head : next.mHead = first (left ++ entry :: right) none)
    (tail : next.mTail = final none (left ++ entry :: right))
    (nodes :
      next.nodes =
        heap.link entry.1 (final none left) (first right none)) :
    Listed next (left ++ entry :: right) where
  head := head
  tail := tail
  linked := by
    rw [nodes]
    exact linked.link distinct found payload notListed
  distinct := by
    have permuted :
        (addresses (left ++ entry :: right)).Perm
          (addresses (entry :: (left ++ right))) :=
      (List.perm_middle).map _
    rw [permuted.nodup_iff, addresses_cons, List.nodup_cons]
    exact ⟨notListed, distinct⟩
  bounded address member := by
    simp only [addresses_append, addresses_cons, List.mem_append,
      List.mem_cons] at member bounded
    rcases member with inLeft | rfl | inRight
    · exact bounded address (Or.inl inLeft)
    · exact allocated
    · exact bounded address (Or.inr inRight)
  pids := by
    have permuted :
        ((left ++ entry :: right).map entryPid).Perm
          ((entry :: (left ++ right)).map entryPid) :=
      (List.perm_middle).map _
    rw [permuted.nodup_iff, List.map_cons, List.nodup_cons]
    refine ⟨?_, pids⟩
    intro member
    obtain ⟨other, otherMember, same⟩ := List.mem_map.mp member
    exact notPid other otherMember same

end Listed

/-- `add` of a listed process does nothing. -/
theorem add_listed
    {entries : List Entry}
    {pid : Nat}
    (listed : Listed policy entries)
    (present : ∃ entry ∈ entries, hasPid pid entry = true)
    (isForeground : Bool)
    (level : ProcessPriority) :
    policy.add pid isForeground level = some policy := by
  obtain ⟨entry, member, isEntry⟩ := present
  obtain ⟨left, right, rfl⟩ := List.append_of_mem member
  simp [add, listed.get_present isEntry]

/-- A node that was just allocated is linked between two parts. -/
theorem Listed.linkNew
    {left right : List Entry}
    {pid : Nat}
    {level : ProcessPriority}
    {next : ProcessPriorityPolicy}
    (listed : Listed policy (left ++ right))
    (absent : ∀ other ∈ left ++ right, hasPid pid other = false)
    (allocated :
      next.allocated = (policy.allocate pid level).allocated)
    (head :
      next.mHead = first (left ++ policy.newEntry pid level :: right) none)
    (tail :
      next.mTail = final none (left ++ policy.newEntry pid level :: right))
    (nodes :
      next.nodes =
        (policy.allocate pid level).nodes.link
          (policy.newEntry pid level).1 (final none left)
          (first right none)) :
    Listed next (left ++ policy.newEntry pid level :: right) := by
  have waiting := listed.allocate pid level
  have found :
      (policy.allocate pid level).nodes (policy.newEntry pid level).1 =
        some
          { data := (policy.newEntry pid level).2
            next := none
            last := none } :=
    Heap.place_self _ _ _
  refine
    Listed.link waiting.linked waiting.distinct ?_ waiting.pids found rfl
      ?_ ?_ ?_ head tail nodes
  · rw [allocated]
    exact waiting.bounded
  · exact fun member => Nat.lt_irrefl _ (listed.bounded _ member)
  · rw [allocated]
    exact Nat.lt_succ_self _
  · intro other member same
    have isPid : hasPid pid other = true := beq_iff_eq.mpr same
    rw [absent other member] at isPid
    cases isPid

namespace Represents

variable
  {parts : PriorityParts Entry}
  {foreground background : List Entry}
  {pid : Nat}

/-- A new node in front of the list. -/
theorem addForeground
    (represents : Represents policy ⟨foreground, background⟩)
    (absent :
      ∀ other ∈ foreground ++ background, hasPid pid other = false)
    (level : ProcessPriority) :
    ∃ next,
      (policy.allocate pid level).addForeground
          (some (policy.newEntry pid level).1) =
        some next ∧
        Represents next
          ⟨policy.newEntry pid level :: foreground, background⟩ ∧
        next.mLmk =
          policy.mLmk.setPidOomScore pid osMiddleLevelMinAdj := by
  have waiting := represents.listed.allocate pid level
  have head := waiting.head
  have tail := waiting.tail
  simp only [PriorityParts.all] at head tail
  have entered :=
    addForeground_eq (Heap.place_self _ _ _) rfl waiting.valid_head
  refine ⟨_, entered, ⟨?_, represents.background⟩, rfl⟩
  change
    Listed _ ([] ++ policy.newEntry pid level :: (foreground ++ background))
  refine Listed.linkNew represents.listed absent ?_ ?_ ?_ ?_
  · rfl
  · rfl
  · rw [tail]
    exact (final_eq_ite _ _).symm
  · rw [head]
    rfl

/-- A new node at the end, where no process is in the background. -/
theorem addBackground_last
    (represents : Represents policy ⟨foreground, []⟩)
    (absent : ∀ other ∈ foreground, hasPid pid other = false)
    (level : ProcessPriority) :
    ∃ next,
      (policy.allocate pid level).addBackground
          (some (policy.newEntry pid level).1) =
        some next ∧
        Represents next ⟨foreground, [policy.newEntry pid level]⟩ ∧
        next.mLmk =
          policy.mLmk.setPidOomScore pid osMiddleLevelMinAdj := by
  have listed := represents.listed
  have waiting := listed.allocate pid level
  have head := waiting.head
  have tail := waiting.tail
  simp only [PriorityParts.all, List.append_nil] at head tail
  have noBackground : (policy.allocate pid level).mBackgroundPos = none :=
    represents.background
  have entered :=
    addBackground_eq_tail (Heap.place_self _ _ _) noBackground
      waiting.valid_tail
  refine ⟨_, entered, ⟨?_, rfl⟩, rfl⟩
  rw [← List.append_nil foreground] at absent
  change Listed _ (foreground ++ policy.newEntry pid level :: [])
  refine Listed.linkNew listed absent ?_ ?_ ?_ ?_
  · rfl
  · rw [head, first_append]
    exact (first_eq_ite _ _).symm
  · simp [newEntry]
  · rw [tail]
    rfl

/-- A new node in front of the background. -/
theorem addBackground_first
    {boundary : Entry}
    {rest : List Entry}
    (represents : Represents policy ⟨foreground, boundary :: rest⟩)
    (absent :
      ∀ other ∈ foreground ++ boundary :: rest,
        hasPid pid other = false)
    (level : ProcessPriority) :
    ∃ next,
      (policy.allocate pid level).addBackground
          (some (policy.newEntry pid level).1) =
        some next ∧
        Represents next
          ⟨foreground, policy.newEntry pid level :: boundary :: rest⟩ ∧
        next.mLmk =
          policy.mLmk.setPidOomScore pid osMiddleLevelMinAdj := by
  have listed := represents.listed
  have waiting := listed.allocate pid level
  have head := waiting.head
  have tail := waiting.tail
  simp only [PriorityParts.all] at head tail
  have boundaryPos :
      (policy.allocate pid level).mBackgroundPos = some boundary.1 :=
    represents.background
  have boundaryFound :
      (policy.allocate pid level).nodes boundary.1 =
        some
          { data := boundary.2
            next := first rest none
            last := final none foreground } :=
    waiting.linked.node_at
  have differs : (policy.newEntry pid level).1 ≠ boundary.1 := by
    intro same
    have isBounded :=
      listed.bounded boundary.1 (by simp [PriorityParts.all])
    rw [← same] at isBounded
    exact Nat.lt_irrefl _ isBounded
  have validBefore :
      Valid (policy.allocate pid level) (final none foreground) := by
    intro address isLast
    apply waiting.linked.isSome_of_mem
    simp [PriorityParts.all, mem_of_final isLast]
  have entered :=
    addBackground_eq_before (Heap.place_self _ _ _) boundaryPos differs
      boundaryFound validBefore
  refine ⟨_, entered, ⟨?_, rfl⟩, rfl⟩
  change
    Listed _ (foreground ++ policy.newEntry pid level :: boundary :: rest)
  refine Listed.linkNew listed absent ?_ ?_ ?_ ?_
  · rfl
  · rw [head]
    cases foreground with
    | nil =>
        rfl
    | cons other others =>
        simp [final_isSome]
  · rw [tail]
    simp
  · rfl

/-- `add` of a new process. -/
theorem add
    (represents : Represents policy parts)
    (absent : ∀ other ∈ parts.all, hasPid pid other = false)
    (isForeground : Bool)
    (level : ProcessPriority) :
    ∃ next,
      policy.add pid isForeground level = some next ∧
        Represents next
          (parts.add (policy.newEntry pid level) isForeground) ∧
        next.mLmk =
          policy.mLmk.setPidOomScore pid osMiddleLevelMinAdj := by
  obtain ⟨foreground, background⟩ := parts
  have entered :
      policy.add pid isForeground level =
        if isForeground then
          (policy.allocate pid level).addForeground
            (some (policy.newEntry pid level).1)
        else
          (policy.allocate pid level).addBackground
            (some (policy.newEntry pid level).1) := by
    simp only [ProcessPriorityPolicy.add,
      represents.listed.get_absent absent, Option.bind_eq_bind,
      Option.bind_some]
    rfl
  rw [entered]
  cases isForeground with
  | true =>
      exact represents.addForeground absent level
  | false =>
      cases background with
      | nil =>
          have notThere :
              ∀ other ∈ foreground, hasPid pid other = false :=
            fun other member => absent other (List.mem_append_left _ member)
          exact represents.addBackground_last notThere level
      | cons boundary rest =>
          exact represents.addBackground_first absent level

end Represents

/-! ## Removing -/

/-- The node of an entry is taken out and freed. -/
theorem Listed.removeNode
    {left right : List Entry}
    {entry : Entry}
    {background : Option Nat}
    (listed : Listed policy (left ++ entry :: right))
    (moved :
      policy.backgroundWithout? (some entry.1) (first right none) =
        some background) :
    ∃ next,
      policy.removeNode entry.1 = some next ∧
        Listed next (left ++ right) ∧
        next.mBackgroundPos = background ∧
        next.mLmk = policy.mLmk := by
  obtain ⟨found, notLeft, notRight, notLast, _, validNext, validLast⟩ :=
    listed.around
  obtain ⟨distinct, bounded, pids⟩ := listed.without_distinct
  refine ⟨_, removeNode_eq found notLast validNext validLast moved,
    ?_, rfl, rfl⟩
  constructor
  · rw [listed.head]
    exact head_without notLeft
  · rw [listed.tail]
    exact tail_without notRight
  · refine (listed.linked.unlink listed.distinct).congr ?_
    intro address member
    refine Heap.free_of_ne _ ?_
    rintro rfl
    rw [addresses_append, List.mem_append] at member
    rcases member with inLeft | inRight
    · exact notLeft inLeft
    · exact notRight inRight
  · exact distinct
  · exact bounded
  · exact pids

/-- The background position when the removed process is in the background. -/
private theorem backgroundWithout?_background
    {foreground before after : List Entry}
    {entry : Entry}
    (represents :
      Represents policy
        { foreground := foreground
          background := before ++ entry :: after }) :
    policy.backgroundWithout? (some entry.1) (first after none) =
      some (first (before ++ after) none) := by
  have distinct := represents.listed.distinct
  simp only [PriorityParts.all, addresses_append, addresses_cons,
    List.nodup_append, List.nodup_cons, List.mem_cons] at distinct
  unfold backgroundWithout?
  rw [represents.background]
  cases before with
  | nil =>
      simp
  | cons boundary rest =>
      have notEntry : boundary.1 ≠ entry.1 :=
        distinct.2.1.2.2 boundary.1 (by simp) entry.1 (Or.inl rfl)
      have notNext : ¬ some boundary.1 = first after none := by
        intro isNext
        have member := mem_of_first isNext.symm
        exact distinct.2.1.2.2 boundary.1 (by simp) boundary.1
          (Or.inr member) rfl
      simp [notEntry, notNext]

/-- The background position when the removed process is in the foreground. -/
private theorem backgroundWithout?_foreground
    {before after background : List Entry}
    {entry : Entry}
    (represents :
      Represents policy
        { foreground := before ++ entry :: after
          background := background }) :
    policy.backgroundWithout? (some entry.1)
        (first (after ++ background) none) =
      some
        (first (if after = [] then background.tail else background)
          none) := by
  have listed := represents.listed
  have distinct := listed.distinct
  simp only [PriorityParts.all, addresses_append, addresses_cons,
    List.nodup_append, List.nodup_cons, List.mem_append,
    List.mem_cons] at distinct
  unfold backgroundWithout?
  rw [represents.background]
  cases background with
  | nil =>
      cases after with
      | nil =>
          simp
      | cons next rest =>
          simp
  | cons boundary others =>
      have notEntry : boundary.1 ≠ entry.1 := by
        intro same
        exact distinct.2.2 entry.1 (Or.inr (Or.inl rfl)) boundary.1
          (by simp) same.symm
      have boundaryFound : policy.nodes boundary.1 =
          some
            { data := boundary.2
              next := first others none
              last := final none (before ++ entry :: after) } :=
        listed.linked.node_at
      cases after with
      | nil =>
          simp [notEntry, next?, Heap.deref?, boundaryFound]
      | cons next rest =>
          have notNext : boundary.1 ≠ next.1 := by
            intro same
            exact distinct.2.2 next.1 (by simp) boundary.1 (by simp)
              same.symm
          simp [notEntry, notNext]

/-- The list does not depend on the scores the manager keeps. -/
theorem Represents.withLmk
    {parts : PriorityParts Entry}
    (represents : Represents policy parts)
    (lmk : LowMemoryManager) :
    Represents { policy with mLmk := lmk } parts where
  listed :=
    { head := represents.listed.head
      tail := represents.listed.tail
      linked := represents.listed.linked
      distinct := represents.listed.distinct
      bounded := represents.listed.bounded
      pids := represents.listed.pids }
  background := represents.background

/-- A removed process is not listed any more. -/
theorem Represents.remove_pids
    {parts : PriorityParts Entry}
    (represents : Represents policy parts)
    (pid : Nat) :
    ∀ entry ∈ (parts.remove (hasPid pid)).all,
      hasPid pid entry = false := by
  intro other member
  rw [PriorityParts.remove_all] at member
  rcases Listed.absent_or_present parts.all pid with
    absent | ⟨left, entry, right, shape, isEntry⟩
  · exact absent other (List.mem_of_mem_eraseP member)
  · have listed := represents.listed
    rw [shape] at listed member
    obtain ⟨notLeft, notRight⟩ := listed.split_pids isEntry
    rw [List.eraseP_append_right _ (by simpa using notLeft),
      List.eraseP_cons_of_pos isEntry, List.mem_append] at member
    rcases member with inLeft | inRight
    · exact notLeft other inLeft
    · exact notRight other inRight

/-- Where a process can be in the two parts of the list. -/
inductive Placed
    (policy : ProcessPriorityPolicy)
    (pid : Nat) :
    PriorityParts Entry → Prop where
  | absent
      {parts : PriorityParts Entry} :
      (∀ other ∈ parts.all, hasPid pid other = false) →
      Placed policy pid parts
  | background
      {foreground before after : List Entry}
      {entry : Entry} :
      hasPid pid entry = true →
      (∀ other ∈ foreground ++ before, hasPid pid other = false) →
      (∀ other ∈ after, hasPid pid other = false) →
      Listed policy ((foreground ++ before) ++ entry :: after) →
      Placed policy pid
        { foreground := foreground
          background := before ++ entry :: after }
  | foreground
      {before after background : List Entry}
      {entry : Entry} :
      hasPid pid entry = true →
      (∀ other ∈ before, hasPid pid other = false) →
      (∀ other ∈ after ++ background, hasPid pid other = false) →
      Listed policy (before ++ entry :: (after ++ background)) →
      Placed policy pid
        { foreground := before ++ entry :: after
          background := background }

theorem Represents.placed
    {parts : PriorityParts Entry}
    (represents : Represents policy parts)
    (pid : Nat) :
    Placed policy pid parts := by
  obtain ⟨foreground, background⟩ := parts
  have listed := represents.listed
  rcases Listed.absent_or_present foreground pid with
    notForeground | ⟨before, entry, after, rfl, isEntry⟩
  · rcases Listed.absent_or_present background pid with
      notBackground | ⟨before, entry, after, rfl, isEntry⟩
    · refine .absent fun other member => ?_
      rcases List.mem_append.mp member with first | second
      · exact notForeground other first
      · exact notBackground other second
    · have shape :
          PriorityParts.all
              { foreground := foreground
                background := before ++ entry :: after } =
            (foreground ++ before) ++ entry :: after := by
        simp [PriorityParts.all]
      rw [shape] at listed
      obtain ⟨notLeft, notRight⟩ := listed.split_pids isEntry
      exact .background isEntry notLeft notRight listed
  · have shape :
        PriorityParts.all
            { foreground := before ++ entry :: after
              background := background } =
          before ++ entry :: (after ++ background) := by
      simp [PriorityParts.all]
    rw [shape] at listed
    obtain ⟨notLeft, notRight⟩ := listed.split_pids isEntry
    exact .foreground isEntry notLeft notRight listed

/-- `remove`, whether the process is listed or not. -/
theorem Represents.remove
    {parts : PriorityParts Entry}
    (represents : Represents policy parts)
    (pid : Nat) :
    ∃ next,
      policy.remove pid = some next ∧
        Represents next (parts.remove (hasPid pid)) ∧
        next.mLmk = policy.mLmk.cancelMonitorPid pid := by
  cases represents.placed pid with
  | absent absent =>
      have notFound := represents.listed.get_absent absent
      rw [PriorityParts.remove_absent absent]
      refine ⟨_, ?_,
        represents.withLmk (policy.mLmk.cancelMonitorPid pid), rfl⟩
      simp only [ProcessPriorityPolicy.remove, notFound,
        Option.bind_eq_bind, Option.bind_some]
  | @background foreground before after entry isEntry notLeft _ listed =>
      obtain ⟨next, removed, nextListed, nextBackground, sameLmk⟩ :=
        listed.removeNode (backgroundWithout?_background represents)
      rw [PriorityParts.remove_background isEntry
        (fun other member => notLeft other (by simp [member]))
        fun other member => notLeft other (by simp [member])]
      have nextRepresents :
          Represents next
            { foreground := foreground
              background := before ++ after } :=
        ⟨by rwa [PriorityParts.all, ← List.append_assoc],
          nextBackground⟩
      refine ⟨_, ?_,
        nextRepresents.withLmk (next.mLmk.cancelMonitorPid pid),
        congrArg (·.cancelMonitorPid pid) sameLmk⟩
      simp only [ProcessPriorityPolicy.remove,
        listed.get_present isEntry, Option.bind_eq_bind,
        Option.bind_some, removed]
  | @foreground before after background entry isEntry notLeft notRight
      listed =>
      obtain ⟨next, removed, nextListed, nextBackground, sameLmk⟩ :=
        listed.removeNode (backgroundWithout?_foreground represents)
      rw [PriorityParts.remove_foreground isEntry notLeft
        fun other member => notRight other (by simp [member])]
      have nextRepresents :
          Represents next
            (if after = [] then
              { foreground := before ++ background.take 1
                background := background.tail }
            else
              { foreground := before ++ after
                background := background }) := by
        cases after with
        | nil =>
            have rejoined :
                background.take 1 ++ background.tail = background := by
              cases background <;> rfl
            refine ⟨?_, nextBackground⟩
            simpa [PriorityParts.all, rejoined] using nextListed
        | cons other others =>
            exact ⟨by simpa [PriorityParts.all] using nextListed,
              nextBackground⟩
      refine ⟨{ next with mLmk := next.mLmk.cancelMonitorPid pid }, ?_,
        nextRepresents.withLmk (next.mLmk.cancelMonitorPid pid),
        congrArg (·.cancelMonitorPid pid) sameLmk⟩
      simp only [ProcessPriorityPolicy.remove,
        listed.get_present isEntry, Option.bind_eq_bind,
        Option.bind_some, removed]

/-! ## Pushing to the foreground -/

/-- A node that is not the head is moved there. -/
theorem Listed.moveToHead
    {left right : List Entry}
    {entry : Entry}
    (listed : Listed policy (left ++ entry :: right))
    (notHead : left ≠ []) :
    ∃ next,
      policy.moveToHead (some entry.1) = some next ∧
        Listed next (entry :: (left ++ right)) ∧
        next.mBackgroundPos = policy.mBackgroundPos ∧
        next.mLmk = policy.mLmk := by
  obtain ⟨found, notLeft, notRight, notLast, notNext, validNext,
    validLast⟩ := listed.around
  obtain ⟨distinct, bounded, pids⟩ := listed.without_distinct
  cases left with
  | nil =>
      exact absurd rfl notHead
  | cons headEntry others =>
      have isHead : policy.mHead = some headEntry.1 := listed.head
      have validHead : (policy.nodes headEntry.1).isSome = true :=
        listed.linked.isSome_of_mem (by simp)
      refine ⟨_, moveToHead_eq found notNext notLast validNext validLast
        isHead validHead, ?_, rfl, rfl⟩
      have notListed :
          entry.1 ∉ addresses (headEntry :: others ++ right) := by
        rw [addresses_append, List.mem_append, not_or]
        exact ⟨notLeft, notRight⟩
      have unlinked := listed.linked.unlink listed.distinct
      have foundUnlinked :
          (policy.nodes.unlink (final none (headEntry :: others))
            (first right none)) entry.1 =
            some
              { data := entry.2
                next := first right none
                last := final none (headEntry :: others) } := by
        rw [Heap.unlink_of_ne _ notLast notNext, found]
      have moved :
          Listed
            { policy with
              mHead := some entry.1
              mTail :=
                if policy.mTail = some entry.1 ∧
                    (final none (headEntry :: others)).isSome = true then
                  final none (headEntry :: others)
                else
                  policy.mTail
              nodes :=
                (policy.nodes.unlink (final none (headEntry :: others))
                  (first right none)).link entry.1 none
                    (some headEntry.1) }
            ([] ++ entry :: (headEntry :: others ++ right)) := by
        refine Listed.link unlinked distinct bounded pids foundUnlinked
          rfl notListed (listed.bounded entry.1 (by simp))
          listed.other_pids rfl ?_ rfl
        have tailWithout :
            (if final none (headEntry :: others ++ entry :: right) =
                some entry.1 then
              final none (headEntry :: others)
            else
              final none (headEntry :: others ++ entry :: right)) =
              final none (headEntry :: others ++ right) :=
          tail_without notRight
        rw [← listed.tail] at tailWithout
        simp only [final_cons, final_isSome, and_true, List.nil_append,
          List.cons_append] at tailWithout ⊢
        rw [tailWithout]
      exact moved

/-- Setting the background position does not change the list. -/
theorem Listed.withBackground
    {entries : List Entry}
    (listed : Listed policy entries)
    (background : Option Nat) :
    Listed { policy with mBackgroundPos := background } entries where
  head := listed.head
  tail := listed.tail
  linked := listed.linked
  distinct := listed.distinct
  bounded := listed.bounded
  pids := listed.pids

/-- Whatever becomes of the background position, the node comes first. -/
private theorem Listed.pushForegroundNode
    {left right : List Entry}
    {entry : Entry}
    {background : Option Nat}
    (listed : Listed policy (left ++ entry :: right))
    (moved :
      policy.backgroundPushing? (some entry.1) = some background) :
    ∃ next,
      policy.pushForegroundNode (some entry.1) = some next ∧
        Listed next (entry :: (left ++ right)) ∧
        next.mBackgroundPos = background ∧
        next.mLmk = policy.mLmk := by
  have prepared := listed.withBackground background
  simp only [ProcessPriorityPolicy.pushForegroundNode, moved,
    Option.bind_eq_bind, Option.bind_some]
  cases left with
  | nil =>
      have isHead : policy.mHead = some entry.1 := listed.head
      exact ⟨_, by rw [if_neg (not_not.mpr isHead)], prepared, rfl, rfl⟩
  | cons headEntry others =>
      have isHead : policy.mHead = some headEntry.1 := listed.head
      have notEntry : policy.mHead ≠ some entry.1 := by
        obtain ⟨_, notLeft, _⟩ := listed.around
        rw [isHead]
        intro same
        exact notLeft (by simp [Option.some.inj same])
      obtain ⟨next, reached, nextListed, sameBackground, sameLmk⟩ :=
        prepared.moveToHead (List.cons_ne_nil _ _)
      exact ⟨next, by rw [if_pos notEntry]; exact reached, nextListed,
        sameBackground, sameLmk⟩

/-- The background position when the process comes from the background. -/
private theorem backgroundPushing?_background
    {foreground before after : List Entry}
    {entry : Entry}
    (represents :
      Represents policy
        { foreground := foreground
          background := before ++ entry :: after }) :
    policy.backgroundPushing? (some entry.1) =
      some (first (before ++ after) none) := by
  have listed := represents.listed
  have distinct := listed.distinct
  simp only [PriorityParts.all, addresses_append, addresses_cons,
    List.nodup_append, List.nodup_cons, List.mem_append,
    List.mem_cons] at distinct
  have notLast : ¬ some entry.1 = final none foreground := by
    intro isLast
    exact distinct.2.2 entry.1 (mem_of_final isLast.symm) entry.1
      (Or.inr (Or.inl rfl)) rfl
  unfold backgroundPushing?
  rw [represents.background]
  cases before with
  | nil =>
      have found : policy.nodes entry.1 =
          some
            { data := entry.2
              next := first after none
              last := final none foreground } :=
        listed.linked.node_at
      simp [last?, next?, Heap.deref?, found, notLast]
  | cons boundary rest =>
      have found : policy.nodes boundary.1 =
          some
            { data := boundary.2
              next := first (rest ++ entry :: after) none
              last := final none foreground } :=
        listed.linked.node_at
      have notBoundary : ¬ entry.1 = boundary.1 := by
        intro same
        exact distinct.2.1.2.2 boundary.1 (by simp) entry.1 (Or.inl rfl)
          same.symm
      simp [last?, Heap.deref?, found, notLast, notBoundary]

/-- The background position when the process comes from the foreground. -/
private theorem backgroundPushing?_foreground
    {before after background : List Entry}
    {entry : Entry}
    (represents :
      Represents policy
        { foreground := before ++ entry :: after
          background := background }) :
    policy.backgroundPushing? (some entry.1) =
      some
        (first
          (if after = [] ∧ background ≠ [] then before ++ background
            else background)
          none) := by
  have listed := represents.listed
  have distinct := listed.distinct
  have head := listed.head
  simp only [PriorityParts.all, addresses_append, addresses_cons,
    List.nodup_append, List.nodup_cons, List.mem_append,
    List.mem_cons] at distinct
  unfold backgroundPushing?
  rw [represents.background]
  cases background with
  | nil =>
      simp
  | cons boundary others =>
      have found : policy.nodes boundary.1 =
          some
            { data := boundary.2
              next := first others none
              last := final none (before ++ entry :: after) } :=
        listed.linked.node_at
      have notBoundary : ¬ entry.1 = boundary.1 := by
        intro same
        exact distinct.2.2 entry.1 (Or.inr (Or.inl rfl)) boundary.1
          (by simp) same
      cases after with
      | nil =>
          cases before with
          | nil =>
              have entryFound : policy.nodes entry.1 =
                  some
                    { data := entry.2
                      next := some boundary.1
                      last := none } :=
                listed.linked.1
              have isHead : policy.mHead = some entry.1 := head
              simp [last?, next?, Heap.deref?, found, isHead, entryFound]
          | cons headEntry rest =>
              have isHead : policy.mHead = some headEntry.1 := head
              have notHead : ¬ entry.1 = headEntry.1 := by
                intro same
                exact distinct.1.2.2 headEntry.1 (by simp) entry.1
                  (Or.inl rfl) same.symm
              simp [last?, Heap.deref?, found, isHead, notHead]
      | cons next rest =>
          have notLast :
              ¬ some entry.1 = final (some next.1) rest := by
            intro isLast
            have member : entry.1 ∈ addresses (next :: rest) :=
              mem_of_final isLast.symm
            exact distinct.1.2.1.1 member
          simp [last?, Heap.deref?, found, notLast, notBoundary]

/-- `pushForeground`, whether the process is listed or not. -/
theorem Represents.pushForeground
    {parts : PriorityParts Entry}
    (represents : Represents policy parts)
    (pid : Nat) :
    ∃ next,
      policy.pushForeground pid = some next ∧
        Represents next (parts.pushForeground (hasPid pid)) ∧
        next.mLmk = policy.mLmk := by
  have entered :
      ∀ {address},
        policy.get pid = some (some address) →
        policy.pushForeground pid =
          policy.pushForegroundNode (some address) := by
    intro address found
    simp [ProcessPriorityPolicy.pushForeground, found]
  cases represents.placed pid with
  | absent absent =>
      have notFound := represents.listed.get_absent absent
      rw [PriorityParts.pushForeground_absent absent]
      refine ⟨policy, ?_, represents, rfl⟩
      simp [ProcessPriorityPolicy.pushForeground, notFound]
  | background isEntry notLeft _ listed =>
      obtain ⟨next, pushed, nextListed, nextBackground, sameLmk⟩ :=
        listed.pushForegroundNode
          (backgroundPushing?_background represents)
      rw [PriorityParts.pushForeground_background isEntry
        (fun other member => notLeft other (by simp [member]))
        fun other member => notLeft other (by simp [member])]
      refine ⟨next, (entered (listed.get_present isEntry)).trans pushed,
        ⟨?_, nextBackground⟩, sameLmk⟩
      simpa [PriorityParts.all] using nextListed
  | foreground isEntry notLeft notRight listed =>
      obtain ⟨next, pushed, nextListed, nextBackground, sameLmk⟩ :=
        listed.pushForegroundNode
          (backgroundPushing?_foreground represents)
      rw [PriorityParts.pushForeground_foreground isEntry notLeft
        (fun other member => notRight other (by simp [member]))
        (fun other member => notRight other (by simp [member]))]
      refine ⟨next, (entered (listed.get_present isEntry)).trans pushed,
        ?_, sameLmk⟩
      split
      · rename_i isLast
        rw [if_pos isLast] at nextBackground
        refine ⟨?_, nextBackground⟩
        simpa [PriorityParts.all, isLast.1] using nextListed
      · rename_i notLast
        rw [if_neg notLast] at nextBackground
        refine ⟨?_, nextBackground⟩
        simpa [PriorityParts.all] using nextListed

/-! ## Sending to the background -/

/-- A node is moved in front of the background position. -/
private theorem Listed.moveIntoBackground
    {left right : List Entry}
    {entry : Entry}
    (listed : Listed policy (left ++ entry :: right))
    (foreground background : List Entry)
    (parts : left ++ right = foreground ++ background)
    (boundary : policy.mBackgroundPos = first background none)
    (notTail : right ≠ [])
    (someBefore : foreground ≠ []) :
    ∃ next,
      policy.moveIntoBackground (some entry.1) = some next ∧
        Listed next (foreground ++ entry :: background) ∧
        next.mBackgroundPos = some entry.1 ∧
        next.mLmk = policy.mLmk := by
  obtain ⟨found, notLeft, notRight, notLast, notNext, validNext,
    validLast⟩ := listed.around
  obtain ⟨distinct, bounded, pids⟩ := listed.without_distinct
  have unlinked := listed.linked.unlink listed.distinct
  have others := listed.other_pids
  have head :
      (if policy.mHead = some entry.1 then first right none
        else policy.mHead) =
        first (foreground ++ background) none := by
    rw [listed.head, head_without notLeft, parts]
  have tail : policy.mTail = final none (foreground ++ background) := by
    rw [listed.tail, ← parts]
    simp only [final_append, final_cons]
    exact final_of_ne_nil notTail _ _
  have headInserted :
      ∀ rest, first foreground rest = first foreground none :=
    fun rest => first_of_ne_nil someBefore rest none
  have notListed : entry.1 ∉ addresses (left ++ right) := by
    rw [addresses_append, List.mem_append, not_or]
    exact ⟨notLeft, notRight⟩
  have foundUnlinked :
      (policy.nodes.unlink (final none left) (first right none))
          entry.1 =
        some
          { data := entry.2
            next := first right none
            last := final none left } := by
    rw [Heap.unlink_of_ne _ notLast notNext, found]
  have allocated : entry.1 < policy.allocated :=
    listed.bounded entry.1 (by simp)
  have isListed :
      ∀ address,
        address ∈ addresses (foreground ++ background) →
        (policy.nodes address).isSome = true := by
    intro address member
    rw [← parts] at member
    refine listed.linked.isSome_of_mem ?_
    simp only [addresses_append, addresses_cons, List.mem_append,
      List.mem_cons] at member ⊢
    rcases member with inLeft | inRight
    · exact Or.inl inLeft
    · exact Or.inr (Or.inr inRight)
  obtain ⟨last, isLast⟩ :
      ∃ last, final none foreground = some last := by
    rcases foreground with _ | ⟨firstEntry, rest⟩
    · exact absurd rfl someBefore
    · exact Option.isSome_iff_exists.mp (final_isSome rest firstEntry.1)
  have validBefore : (policy.nodes last).isSome = true :=
    isListed last (by simp [mem_of_final isLast])
  rw [parts] at unlinked distinct bounded pids others notListed
  cases background with
  | nil =>
      have isTail : policy.mTail = some last := by
        rw [tail, List.append_nil]
        exact isLast
      refine ⟨_, moveIntoBackground_eq_tail found notNext notLast
        validNext validLast boundary isTail validBefore, ?_, rfl, rfl⟩
      refine Listed.link unlinked distinct bounded pids foundUnlinked rfl
        notListed allocated others ?_ ?_ ?_
      · simp only [head, first_append, first_cons, first_nil]
        exact (headInserted _).symm
      · simp
      · rw [isLast]
        rfl
  | cons boundaryEntry rest =>
      have differs : entry.1 ≠ boundaryEntry.1 := by
        intro same
        exact notListed (by simp [same])
      refine ⟨_, moveIntoBackground_eq_before found notNext notLast
        validNext validLast boundary differs unlinked.node_at isLast
        validBefore, ?_, rfl, rfl⟩
      refine Listed.link unlinked distinct bounded pids foundUnlinked rfl
        notListed allocated others ?_ ?_ ?_
      · simp only [head, first_append, first_cons]
        exact (headInserted _).trans (headInserted _).symm
      · rw [tail]
        simp
      · rw [isLast]
        rfl

/-- With an empty foreground the move goes through a null pointer. -/
private theorem Listed.moveIntoBackground_crashes
    {left right : List Entry}
    {entry : Entry}
    (listed : Listed policy (left ++ entry :: right))
    (boundary : policy.mBackgroundPos = first (left ++ right) none)
    (notHead : left ≠ []) :
    policy.moveIntoBackground (some entry.1) = none := by
  obtain ⟨found, notLeft, _, notLast, notNext, validNext, validLast⟩ :=
    listed.around
  have unlinked := listed.linked.unlink listed.distinct
  cases left with
  | nil =>
      exact absurd rfl notHead
  | cons boundaryEntry rest =>
      have differs : entry.1 ≠ boundaryEntry.1 := by
        intro same
        exact notLeft (by simp [same])
      exact moveIntoBackground_eq_none found notNext notLast validNext
        validLast boundary differs unlinked.1 rfl

/-- `intoBackground` when the node is to be moved. -/
private theorem intoBackgroundNode_moves
    {address : Nat}
    (notTail : some address ≠ policy.mTail)
    (notBoundary : some address ≠ policy.mBackgroundPos)
    (notBefore :
      ∀ boundary,
        policy.mBackgroundPos = some boundary →
        ∃ node,
          policy.nodes boundary = some node ∧
            node.last ≠ some address) :
    policy.intoBackgroundNode (some address) =
      policy.moveIntoBackground (some address) := by
  unfold intoBackgroundNode
  rw [if_pos ⟨notTail, notBoundary⟩]
  cases position : policy.mBackgroundPos with
  | none =>
      simp
  | some boundary =>
      obtain ⟨node, found, differs⟩ := notBefore boundary position
      simp [last?, Heap.deref?, found, differs]

/-- Sending a node of the foreground. -/
private theorem intoBackgroundNode_foreground
    {before after background : List Entry}
    {entry : Entry}
    (represents :
      Represents policy
        { foreground := before ++ entry :: after
          background := background }) :
    ∃ next,
      policy.intoBackgroundNode (some entry.1) = some next ∧
        Represents next
          (if after = [] then
            { foreground := before ++ entry :: after
              background := background }
          else
            { foreground := before ++ after
              background := entry :: background }) ∧
        next.mLmk = policy.mLmk := by
  have listed := represents.listed
  have shape :
      PriorityParts.all
          { foreground := before ++ entry :: after
            background := background } =
        before ++ entry :: (after ++ background) := by
    simp [PriorityParts.all]
  cases after with
  | nil =>
      refine ⟨policy, ?_, represents, rfl⟩
      unfold intoBackgroundNode
      rw [represents.background]
      cases background with
      | nil =>
          have isTail : policy.mTail = some entry.1 := by
            rw [listed.tail]
            simp [PriorityParts.all]
          simp [isTail]
      | cons boundary rest =>
          have found : policy.nodes boundary.1 =
              some
                { data := boundary.2
                  next := first rest none
                  last := final none (before ++ [entry]) } :=
            listed.linked.node_at
          split
          · simp [last?, Heap.deref?, found]
          · rfl
  | cons following rest =>
      rw [shape] at listed
      obtain ⟨_, _, notRight, _⟩ := listed.around
      rw [addresses_append, List.mem_append, not_or] at notRight
      have notTail : some entry.1 ≠ policy.mTail := by
        rw [listed.tail]
        intro isTail
        have member :
            entry.1 ∈ addresses (following :: rest ++ background) :=
          mem_of_final (by simpa using isTail.symm)
        rw [addresses_append, List.mem_append] at member
        exact member.elim notRight.1 notRight.2
      have notBoundary : some entry.1 ≠ policy.mBackgroundPos := by
        rw [represents.background]
        intro isBoundary
        exact notRight.2 (mem_of_first isBoundary.symm)
      have moves :=
        intoBackgroundNode_moves notTail notBoundary (by
          intro boundary position
          rw [represents.background] at position
          cases background with
          | nil =>
              simp at position
          | cons boundaryEntry others =>
              simp only [first_cons, Option.some.injEq] at position
              subst position
              refine ⟨_, represents.listed.linked.node_at, ?_⟩
              intro isLast
              have member :
                  entry.1 ∈ addresses (following :: rest) :=
                mem_of_final (by simpa using isLast)
              exact notRight.1 member)
      obtain ⟨next, moved, nextListed, nextBackground, sameLmk⟩ :=
        listed.moveIntoBackground (before ++ following :: rest) background
          (by simp) represents.background (by simp) (by simp)
      exact ⟨next, moves.trans moved, ⟨nextListed, nextBackground⟩,
        sameLmk⟩

/-- Sending a node of the background. -/
private theorem intoBackgroundNode_background
    {foreground before after : List Entry}
    {entry : Entry}
    (represents :
      Represents policy
        { foreground := foreground
          background := before ++ entry :: after }) :
    (∃ next,
      policy.intoBackgroundNode (some entry.1) = some next ∧
        Represents next
          (if before = [] ∨ after = [] then
            { foreground := foreground
              background := before ++ entry :: after }
          else
            { foreground := foreground
              background := entry :: (before ++ after) }) ∧
        next.mLmk = policy.mLmk) ∨
      (foreground = [] ∧
        policy.intoBackgroundNode (some entry.1) = none) := by
  have listed := represents.listed
  have boundary := represents.background
  have shape :
      PriorityParts.all
          { foreground := foreground
            background := before ++ entry :: after } =
        (foreground ++ before) ++ entry :: after := by
    simp [PriorityParts.all]
  by_cases stays : before = [] ∨ after = []
  · rw [if_pos stays]
    refine Or.inl ⟨policy, ?_, represents, rfl⟩
    unfold intoBackgroundNode
    rw [if_neg]
    rcases stays with rfl | rfl
    · simp [boundary]
    · have isTail : policy.mTail = some entry.1 := by
        rw [listed.tail]
        simp [PriorityParts.all]
      simp [isTail]
  · rw [if_neg stays]
    rw [not_or] at stays
    obtain ⟨someBefore, someAfter⟩ := stays
    rw [shape] at listed
    obtain ⟨_, notLeft, notRight, _⟩ := listed.around
    rw [addresses_append, List.mem_append, not_or] at notLeft
    rcases before with _ | ⟨boundaryEntry, rest⟩
    · exact absurd rfl someBefore
    have notTail : some entry.1 ≠ policy.mTail := by
      rw [listed.tail]
      intro isTail
      rw [final_append, final_cons,
        final_of_ne_nil someAfter _ none] at isTail
      exact notRight (mem_of_final isTail.symm)
    have notBoundary : some entry.1 ≠ policy.mBackgroundPos := by
      rw [boundary]
      intro isBoundary
      exact notLeft.2 (by simp [Option.some.inj isBoundary])
    have moves :=
      intoBackgroundNode_moves notTail notBoundary (by
        intro address position
        rw [boundary] at position
        simp only [List.cons_append, first_cons,
          Option.some.injEq] at position
        subst position
        refine ⟨_, represents.listed.linked.node_at, ?_⟩
        intro isLast
        exact notLeft.1 (mem_of_final isLast))
    rw [moves]
    by_cases noForeground : foreground = []
    · subst noForeground
      exact Or.inr ⟨rfl, listed.moveIntoBackground_crashes boundary
        (by simp)⟩
    · obtain ⟨next, moved, nextListed, nextBackground, sameLmk⟩ :=
        listed.moveIntoBackground foreground
          (boundaryEntry :: rest ++ after) (by simp) boundary someAfter noForeground
      exact Or.inl ⟨next, moved, ⟨nextListed, nextBackground⟩, sameLmk⟩

/--
`intoBackground`, whether the process is listed or not.  It can only go
through a null pointer when the foreground is empty.
-/
theorem Represents.intoBackground
    {parts : PriorityParts Entry}
    (represents : Represents policy parts)
    (pid : Nat) :
    (∃ next,
      policy.intoBackground pid = some next ∧
        Represents next (parts.intoBackground (hasPid pid)) ∧
        next.mLmk = policy.mLmk) ∨
      (parts.foreground = [] ∧ policy.intoBackground pid = none) := by
  have entered :
      ∀ {address},
        policy.get pid = some (some address) →
        policy.intoBackground pid =
          policy.intoBackgroundNode (some address) := by
    intro address found
    simp [ProcessPriorityPolicy.intoBackground, found]
  cases represents.placed pid with
  | absent absent =>
      have notFound := represents.listed.get_absent absent
      rw [PriorityParts.intoBackground_absent absent]
      refine Or.inl ⟨policy, ?_, represents, rfl⟩
      simp [ProcessPriorityPolicy.intoBackground, notFound]
  | background isEntry notLeft notRight listed =>
      rw [PriorityParts.intoBackground_background isEntry
        (fun other member => notLeft other (by simp [member]))
        (fun other member => notLeft other (by simp [member])) notRight,
        entered (listed.get_present isEntry)]
      exact intoBackgroundNode_background represents
  | foreground isEntry notLeft notRight listed =>
      rw [PriorityParts.intoBackground_foreground isEntry notLeft
        (fun other member => notRight other (by simp [member]))
        (fun other member => notRight other (by simp [member])),
        entered (listed.get_present isEntry)]
      exact Or.inl (intoBackgroundNode_foreground represents)

end ActivityManager.ProcessPriorityPolicy
