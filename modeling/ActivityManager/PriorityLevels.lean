import ActivityManager.ForegroundCounting

/-!
# The levels of processes

The nodes of the priority list stay a list, whatever is done with them.  The
level of a process is set when its node is added, and raised with the services
that are created in it later; moving the node and scoring it do not touch it.
-/

namespace ActivityManager

namespace ProcessPriorityPolicy

/-- The nodes are a list in two parts. -/
def IsList (policy : ProcessPriorityPolicy) : Prop :=
  ∃ parts, Represents policy parts

/-- A list stays one. -/
def KeepsList (before after : ProcessPriorityPolicy) : Prop :=
  IsList before →
  IsList after

/-- `priorityLevel` of the node of a process, if there is one. -/
def priorityLevel?
    (policy : ProcessPriorityPolicy)
    (pid : Nat) : Option ProcessPriority := do
  let pnode ← policy.get pid
  let address ← pnode
  let node ← policy.nodes address
  some node.data.priorityLevel

/-- A list stays one, and the processes have the levels they had. -/
def KeepsLevels (before after : ProcessPriorityPolicy) : Prop :=
  IsList before →
  IsList after ∧
    ∀ pid, after.priorityLevel? pid = before.priorityLevel? pid

variable {policy next : ProcessPriorityPolicy} {pid : Nat}

theorem KeepsList.refl (policy : ProcessPriorityPolicy) :
    KeepsList policy policy :=
  id

theorem KeepsList.trans
    {middle : ProcessPriorityPolicy}
    (former : KeepsList policy middle)
    (latter : KeepsList middle next) :
    KeepsList policy next :=
  fun isList => latter (former isList)

theorem KeepsLevels.refl (policy : ProcessPriorityPolicy) :
    KeepsLevels policy policy :=
  fun isList => ⟨isList, fun _ => rfl⟩

theorem KeepsLevels.trans
    {middle : ProcessPriorityPolicy}
    (former : KeepsLevels policy middle)
    (latter : KeepsLevels middle next) :
    KeepsLevels policy next := by
  intro isList
  obtain ⟨middleList, middleLevels⟩ := former isList
  obtain ⟨nextList, nextLevels⟩ := latter middleList
  exact
    ⟨nextList, fun pid => (nextLevels pid).trans (middleLevels pid)⟩

theorem KeepsLevels.keepsList
    (keeps : KeepsLevels policy next) :
    KeepsList policy next :=
  fun isList => (keeps isList).1

/-! ## Levels of a list -/

/-- The process of an entry, with its level. -/
def entryLevel (entry : Entry) : Nat × ProcessPriority :=
  (entryPid entry, entry.2.priorityLevel)

/-- The level of a process is the one in its entry. -/
theorem Represents.priorityLevel?_eq_some_iff
    {parts : PriorityParts Entry}
    (represents : Represents policy parts)
    (pid : Nat)
    (level : ProcessPriority) :
    policy.priorityLevel? pid = some level ↔
      (pid, level) ∈ parts.all.map entryLevel := by
  have listed := represents.listed
  rcases Listed.absent_or_present parts.all pid with
    absent | ⟨left, entry, right, shape, isEntry⟩
  · have noLevel : policy.priorityLevel? pid = none := by
      rw [priorityLevel?, listed.get_absent absent]
      rfl
    rw [noLevel]
    refine iff_of_false nofun fun member => ?_
    obtain ⟨other, isListed, isOther⟩ := List.mem_map.mp member
    have isPid : hasPid pid other = true :=
      beq_iff_eq.mpr (congrArg Prod.fst isOther)
    rw [absent other isListed] at isPid
    exact Bool.false_ne_true isPid
  · rw [shape] at listed ⊢
    have hasLevel :
        policy.priorityLevel? pid = some entry.2.priorityLevel := by
      rw [priorityLevel?, listed.get_present isEntry]
      simp [listed.around.1]
    have isPid : entryPid entry = pid := beq_iff_eq.mp isEntry
    rw [hasLevel, Option.some.injEq]
    constructor
    · intro isLevel
      refine List.mem_map.mpr ⟨entry, by simp, ?_⟩
      rw [entryLevel, isPid, isLevel]
    · intro member
      obtain ⟨other, isListed, isOther⟩ := List.mem_map.mp member
      have sameEntry : other = entry := by
        refine List.inj_on_of_nodup_map listed.pids isListed (by simp) ?_
        exact (congrArg Prod.fst isOther).trans isPid.symm
      rw [← sameEntry]
      exact congrArg Prod.snd isOther

/-- Lists with the same processes and levels in some order. -/
theorem Represents.priorityLevel?_eq
    {parts others : PriorityParts Entry}
    (represents : Represents policy parts)
    (nextRepresents : Represents next others)
    (sameLevels :
      ∀ member,
        member ∈ others.all.map entryLevel ↔
          member ∈ parts.all.map entryLevel)
    (pid : Nat) :
    next.priorityLevel? pid = policy.priorityLevel? pid := by
  refine Option.ext fun level => ?_
  rw [nextRepresents.priorityLevel?_eq_some_iff,
    represents.priorityLevel?_eq_some_iff, sameLevels]

/-- A process has one entry. -/
theorem Represents.entry_unique
    {parts : PriorityParts Entry}
    (represents : Represents policy parts)
    {entry other : Entry}
    (isListed : entry ∈ parts.all)
    (otherListed : other ∈ parts.all)
    (isPid : hasPid pid entry = true)
    (otherPid : hasPid pid other = true) :
    entry = other := by
  refine
    List.inj_on_of_nodup_map represents.listed.pids isListed otherListed ?_
  exact (beq_iff_eq.mp isPid).trans (beq_iff_eq.mp otherPid).symm

/-! ## What leaves them alone -/

/-- The entries are moved. -/
theorem Represents.keepsLevels
    {parts others : PriorityParts Entry}
    (represents : Represents policy parts)
    (nextRepresents : Represents next others)
    (sameEntries : ∀ entry, entry ∈ others.all ↔ entry ∈ parts.all) :
    IsList next ∧
      ∀ pid, next.priorityLevel? pid = policy.priorityLevel? pid := by
  refine
    ⟨⟨_, nextRepresents⟩,
      represents.priorityLevel?_eq nextRepresents ?_⟩
  intro member
  simp only [List.mem_map, sameEntries]

theorem pushForeground_keepsLevels
    (isNext : policy.pushForeground pid = some next) :
    KeepsLevels policy next := by
  rintro ⟨parts, represents⟩
  obtain ⟨after, isAfter, listed, _⟩ := represents.pushForeground pid
  rw [isNext, Option.some.injEq] at isAfter
  subst isAfter
  refine represents.keepsLevels listed fun other => ?_
  constructor
  · exact PriorityParts.mem_of_mem_pushForeground
  · intro member
    refine PriorityParts.mem_pushForeground member ?_
    intro entry isListed isPid otherPid
    exact represents.entry_unique isListed member isPid otherPid

theorem intoBackground_keepsLevels
    (isNext : policy.intoBackground pid = some next) :
    KeepsLevels policy next := by
  rintro ⟨parts, represents⟩
  rcases represents.intoBackground pid with
    ⟨after, isAfter, listed, _⟩ | ⟨_, crashes⟩
  · rw [isNext, Option.some.injEq] at isAfter
    subst isAfter
    refine represents.keepsLevels listed fun other => ?_
    constructor
    · exact PriorityParts.mem_of_mem_intoBackground
    · intro member
      refine PriorityParts.mem_intoBackground member ?_
      intro entry isListed isPid otherPid
      exact represents.entry_unique isListed member isPid otherPid
  · rw [isNext] at crashes
    cases crashes

theorem analyseProcessPriority_keepsLevels
    (isNext : policy.analyseProcessPriority = some next) :
    KeepsLevels policy next := by
  rintro ⟨parts, represents⟩
  obtain ⟨after, isAfter, listed, _⟩ := represents.analyse
  rw [isNext, Option.some.injEq] at isAfter
  subst isAfter
  refine ⟨⟨_, listed⟩, represents.priorityLevel?_eq listed ?_⟩
  intro member
  rw [freshParts_all, freshEntries, rescore_map fun _ _ => rfl]

theorem withLmk_keepsLevels
    (policy : ProcessPriorityPolicy)
    (lmk : LowMemoryManager) :
    KeepsLevels policy { policy with mLmk := lmk } := by
  rintro ⟨parts, represents⟩
  exact ⟨⟨parts, represents.withLmk lmk⟩, fun _ => rfl⟩

/-- The calls of the application records. -/
theorem deliver_keepsLevels
    {calls : List Call}
    (isNext : ManagedProcesses.deliver calls policy = some next) :
    KeepsLevels policy next := by
  induction calls generalizing policy with
  | nil =>
      rw [← Option.some.inj isNext]
      exact .refl policy
  | cons call rest inductionHypothesis =>
      cases call with
      | pushForeground pid =>
          obtain ⟨middle, isMiddle, isNext⟩ :=
            Option.bind_eq_some_iff.mp isNext
          exact
            (pushForeground_keepsLevels isMiddle).trans
              (inductionHypothesis isNext)
      | intoBackground pid =>
          obtain ⟨middle, isMiddle, isNext⟩ :=
            Option.bind_eq_some_iff.mp isNext
          exact
            (intoBackground_keepsLevels isMiddle).trans
              (inductionHypothesis isNext)
      | _ =>
          exact inductionHypothesis isNext

/-! ## What changes them -/

/-- A process has the level that it is added with, or the one it had. -/
theorem add_levels
    {isForeground : Bool}
    {level : ProcessPriority}
    (isNext : policy.add pid isForeground level = some next)
    (isList : IsList policy) :
    IsList next ∧
      next.priorityLevel? pid =
        some ((policy.priorityLevel? pid).getD level) ∧
      ∀ other,
        other ≠ pid →
        next.priorityLevel? other = policy.priorityLevel? other := by
  obtain ⟨parts, represents⟩ := isList
  rcases Listed.absent_or_present parts.all pid with
    absent | ⟨left, entry, right, shape, isEntry⟩
  · obtain ⟨after, isAfter, listed, _⟩ :=
      represents.add absent isForeground level
    rw [isNext, Option.some.injEq] at isAfter
    subst isAfter
    have levels :
        ∀ other otherLevel,
          next.priorityLevel? other = some otherLevel ↔
            (other = pid ∧ otherLevel = level) ∨
              policy.priorityLevel? other = some otherLevel := by
      intro other otherLevel
      rw [listed.priorityLevel?_eq_some_iff,
        represents.priorityLevel?_eq_some_iff]
      simp only [List.mem_map, PriorityParts.mem_add_iff, or_and_right,
        exists_or, exists_eq_left]
      refine or_congr_left ?_
      rw [entryLevel, Prod.mk.injEq]
      exact and_congr eq_comm eq_comm
    have noLevel : policy.priorityLevel? pid = none := by
      rw [priorityLevel?, represents.listed.get_absent absent]
      rfl
    refine ⟨⟨_, listed⟩, ?_, fun other isOther => ?_⟩
    · rw [noLevel]
      exact (levels pid level).mpr (.inl ⟨rfl, rfl⟩)
    · refine Option.ext fun otherLevel => ?_
      rw [levels]
      exact or_iff_right fun isPid => isOther isPid.1
  · have present : ∃ entry ∈ parts.all, hasPid pid entry = true :=
      ⟨entry, by simp [shape], isEntry⟩
    rw [add_listed represents.listed present isForeground level,
      Option.some.injEq] at isNext
    subst isNext
    have hasLevel : (policy.priorityLevel? pid).isSome = true := by
      rw [Option.isSome_iff_exists]
      refine ⟨entry.2.priorityLevel, ?_⟩
      rw [represents.priorityLevel?_eq_some_iff, shape,
        ← beq_iff_eq.mp isEntry]
      exact List.mem_map_of_mem (by simp)
    refine ⟨⟨parts, represents⟩, ?_, fun _ _ => rfl⟩
    obtain ⟨old, isOld⟩ := Option.isSome_iff_exists.mp hasLevel
    rw [isOld, Option.getD_some]

/-- A process that is removed has no level, and the others keep theirs. -/
theorem remove_levels
    (isNext : policy.remove pid = some next)
    (isList : IsList policy) :
    IsList next ∧
      ∀ other level,
        next.priorityLevel? other = some level →
        policy.priorityLevel? other = some level := by
  obtain ⟨parts, represents⟩ := isList
  obtain ⟨after, isAfter, listed, _⟩ := represents.remove pid
  rw [isNext, Option.some.injEq] at isAfter
  subst isAfter
  refine ⟨⟨_, listed⟩, fun other level hasLevel => ?_⟩
  rw [listed.priorityLevel?_eq_some_iff, PriorityParts.remove_all]
    at hasLevel
  rw [represents.priorityLevel?_eq_some_iff]
  exact List.map_subset _ List.eraseP_subset hasLevel

/-- A process that is raised has at least the priority, and its level. -/
theorem raisePriorityLevel_levels
    {priority : ProcessPriority}
    (isNext : policy.raisePriorityLevel pid priority = some next)
    (isList : IsList policy) :
    IsList next ∧
      ∀ other level,
        next.priorityLevel? other = some level →
        (other = pid → priority.rank ≤ level.rank) ∧
          ∃ old,
            policy.priorityLevel? other = some old ∧
              old.rank ≤ level.rank := by
  obtain ⟨parts, represents⟩ := isList
  obtain ⟨after, isAfter, listed, _⟩ :=
    represents.raisePriorityLevel pid priority
  rw [isNext, Option.some.injEq] at isAfter
  subst isAfter
  refine ⟨⟨_, listed⟩, fun other level hasLevel => ?_⟩
  rw [listed.priorityLevel?_eq_some_iff, PriorityParts.map_all,
    List.map_map] at hasLevel
  obtain ⟨entry, isListed, isRaised⟩ := List.mem_map.mp hasLevel
  have isPid : entryPid entry = other := by
    rw [← raised_pid pid priority entry]
    exact congrArg Prod.fst isRaised
  have isLevel : (raised pid priority entry).2.priorityLevel = level :=
    congrArg Prod.snd isRaised
  have hadLevel :
      policy.priorityLevel? other = some entry.2.priorityLevel := by
    rw [represents.priorityLevel?_eq_some_iff, ← isPid]
    exact List.mem_map_of_mem isListed
  rw [hadLevel, ← isLevel]
  unfold raised
  split
  · rename_i lower
    exact ⟨fun _ => Nat.le_refl _, _, rfl, Nat.le_of_lt lower.2⟩
  · rename_i notLower
    refine ⟨fun isOther => ?_, _, rfl, Nat.le_refl _⟩
    rw [not_and, Nat.not_lt] at notLower
    exact notLower (beq_iff_eq.mpr (isPid.trans isOther))

/-! The list stays one in any case. -/

theorem add_keepsList
    {isForeground : Bool}
    {level : ProcessPriority}
    (isNext : policy.add pid isForeground level = some next) :
    KeepsList policy next :=
  fun isList => (add_levels isNext isList).1

theorem remove_keepsList
    (isNext : policy.remove pid = some next) :
    KeepsList policy next :=
  fun isList => (remove_levels isNext isList).1

theorem raisePriorityLevel_keepsList
    {priority : ProcessPriority}
    (isNext : policy.raisePriorityLevel pid priority = some next) :
    KeepsList policy next :=
  fun isList => (raisePriorityLevel_levels isNext isList).1

end ProcessPriorityPolicy

end ActivityManager
