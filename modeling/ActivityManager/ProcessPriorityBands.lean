import Mathlib.Algebra.Group.Nat.Defs
import ActivityManager.ProcessPriorityScores

/-!
# The bands of the scores

`calculateScore` counts the processes of each level in ten bits of one `int`.
While no counter outgrows its bits the scores are those of three separate
counters: every level has a band of its own, and a process nearer the head
scores lower than one of its level behind it.  The head and the home process
are outside of the bands.
-/

namespace ActivityManager

/-- `OS_HIGH_LEVEL_MAX_ADJ`. -/
def osHighLevelMaxAdj : Int := 99

/-- `OS_MIDDLE_LEVEL_MAX_ADJ`. -/
def osMiddleLevelMaxAdj : Int := 600

/-- `OS_LOW_LEVEL_MAX_ADJ`. -/
def osLowLevelMaxAdj : Int := 800

namespace ProcessPriority

/-- The lowest score of a level. -/
def minAdj : ProcessPriority → Int
  | .persistent => osPersistentProcAdj
  | .high => osHighLevelMinAdj
  | .middle => osMiddleLevelMinAdj
  | .low => osLowLevelMinAdj

/-- The highest score of a level. -/
def maxAdj : ProcessPriority → Int
  | .persistent => osPersistentProcAdj
  | .high => osHighLevelMaxAdj
  | .middle => osMiddleLevelMaxAdj
  | .low => osLowLevelMaxAdj

/-- The bands do not meet, and a higher level has a lower one. -/
theorem maxAdj_lt_minAdj
    {higher lower : ProcessPriority}
    (isLower : lower.rank < higher.rank) :
    higher.maxAdj < lower.minAdj := by
  cases higher <;> cases lower <;>
    first
    | exact absurd isLower (by decide)
    | decide

/-- How many processes of a level the documented bands have room for. -/
def room : ProcessPriority → Option Nat
  | .persistent => none
  | .high => some 90
  | .middle => some 501
  | .low => some 101

theorem eq_persistent_of_room
    {level : ProcessPriority}
    (noRoom : level.room = none) :
    level = .persistent := by
  cases level <;> first | rfl | cases noRoom

theorem ne_persistent_of_room
    {level : ProcessPriority}
    {width : Nat}
    (isRoom : level.room = some width) :
    level ≠ .persistent := by
  rintro rfl
  cases isRoom

/-- The last process that has room gets the highest score. -/
theorem minAdj_add_room
    {level : ProcessPriority}
    {width : Nat}
    (isRoom : level.room = some width) :
    level.minAdj + width = level.maxAdj + 1 := by
  cases level <;> simp only [room, Option.some.injEq, reduceCtorEq] at isRoom
  all_goals
    rw [← isRoom]
    decide

end ProcessPriority

/-! ## The packed counters -/

/-- A count of the processes of each level. -/
abbrev LevelCounts := ProcessPriority → Nat

/-- The `levelCnt` that holds three counts. -/
def packed (counts : LevelCounts) : BitVec 32 :=
  BitVec.ofNat 32
    (counts .high * 2 ^ 20 + counts .middle * 2 ^ 10 + counts .low)

/-- Every count fits into ten bits. -/
def Fits (counts : LevelCounts) : Prop :=
  ∀ level, level ≠ .persistent → counts level < 2 ^ 10

/-- One more process of a level. -/
def LevelCounts.more
    (counts : LevelCounts)
    (level : ProcessPriority) : LevelCounts :=
  Function.update counts level (counts level + 1)

/-- A masked field is a remainder of a quotient. -/
theorem levelField_eq
    (levelCnt : BitVec 32)
    {position : Nat}
    (isField : position = 0 ∨ position = 10 ∨ position = 20) :
    levelField levelCnt position =
      (levelCnt.toNat / 2 ^ position % 2 ^ 10 : Nat) := by
  have shifted :
      (0b1111111111#32 <<< position).toNat >>> position = 2 ^ 10 - 1 := by
    rcases isField with rfl | rfl | rfl <;> decide
  rw [levelField, BitVec.toNat_ushiftRight, BitVec.toNat_and,
    Nat.shiftRight_and_distrib, shifted, Nat.and_two_pow_sub_one_eq_mod,
    Nat.shiftRight_eq_div_pow]

/-- A level scores by its own count. -/
theorem levelScore_packed
    {counts : LevelCounts}
    (fits : Fits counts)
    (level : ProcessPriority) :
    (levelScore level (packed counts)).1 =
      if level = .persistent then level.minAdj
      else level.minAdj + counts level := by
  have high := fits .high (by decide)
  have middle := fits .middle (by decide)
  have low := fits .low (by decide)
  have unpacked :
      (packed counts).toNat =
        counts .high * 2 ^ 20 + counts .middle * 2 ^ 10 + counts .low := by
    rw [packed, BitVec.toNat_ofNat, Nat.mod_eq_of_lt]
    omega
  cases level with
  | persistent =>
      rfl
  | high =>
      rw [if_neg (by decide), levelScore, levelField_eq _ (by decide),
        unpacked, ProcessPriority.minAdj]
      omega
  | middle =>
      rw [if_neg (by decide), levelScore, levelField_eq _ (by decide),
        unpacked, ProcessPriority.minAdj]
      omega
  | low =>
      rw [if_neg (by decide), levelScore, levelField_eq _ (by decide),
        unpacked, ProcessPriority.minAdj]
      omega

/-- The process is counted, and nothing else is. -/
theorem packed_more
    (counts : LevelCounts)
    (level : ProcessPriority) :
    (levelScore level (packed counts)).2 = packed (counts.more level) := by
  cases level with
  | persistent =>
      simp [levelScore, packed, LevelCounts.more]
  | high =>
      have one : 1#32 <<< 20 = BitVec.ofNat 32 (2 ^ 20) := by decide
      rw [levelScore, one, packed, packed, ← BitVec.ofNat_add]
      refine congrArg (BitVec.ofNat 32) ?_
      simp only [LevelCounts.more, Function.update_self, ne_eq,
        reduceCtorEq, not_false_eq_true, Function.update_of_ne]
      omega
  | middle =>
      have one : 1#32 <<< 10 = BitVec.ofNat 32 (2 ^ 10) := by decide
      rw [levelScore, one, packed, packed, ← BitVec.ofNat_add]
      refine congrArg (BitVec.ofNat 32) ?_
      simp only [LevelCounts.more, Function.update_self, ne_eq,
        reduceCtorEq, not_false_eq_true, Function.update_of_ne]
      omega
  | low =>
      have one : 1#32 = BitVec.ofNat 32 1 := by decide
      rw [levelScore, one, packed, packed, ← BitVec.ofNat_add]
      refine congrArg (BitVec.ofNat 32) ?_
      simp only [LevelCounts.more, Function.update_self, ne_eq,
        reduceCtorEq, not_false_eq_true, Function.update_of_ne]
      omega

namespace ProcessPriorityPolicy

/-- How many processes of a level are listed. -/
def levelCount
    (level : ProcessPriority)
    (entries : List Entry) : Nat :=
  entries.countP (·.2.priorityLevel = level)

/--
How many processes of a level the walk counts in a part of the list that some
entries follow: all but the home process.
-/
def counted
    (backgroundLength : Nat)
    (level : ProcessPriority) : List Entry → Nat → Nat
  | [], _ =>
      0
  | entry :: rest, following =>
      (if rest.length + following ≠ backgroundLength ∧
          entry.2.priorityLevel = level then
        1
      else
        0) +
        counted backgroundLength level rest following

theorem counted_append
    (backgroundLength : Nat)
    (level : ProcessPriority)
    (left right : List Entry)
    (following : Nat) :
    counted backgroundLength level (left ++ right) following =
      counted backgroundLength level left (right.length + following) +
        counted backgroundLength level right following := by
  induction left with
  | nil =>
      simp [counted]
  | cons first rest inductionHypothesis =>
      simp only [List.cons_append, counted, inductionHypothesis,
        List.length_append, Nat.add_assoc]

/-- No more are counted than are listed. -/
theorem counted_le
    (backgroundLength : Nat)
    (level : ProcessPriority)
    (entries : List Entry)
    (following : Nat) :
    counted backgroundLength level entries following ≤
      levelCount level entries := by
  induction entries with
  | nil =>
      exact Nat.le_refl 0
  | cons first rest inductionHypothesis =>
      rw [counted, levelCount, List.countP_cons]
      rw [levelCount] at inductionHypothesis
      by_cases isLevel : first.2.priorityLevel = level
      · simp only [isLevel, and_true, decide_true, if_true]
        split <;> omega
      · simp only [isLevel, and_false, if_false, decide_false,
          Bool.false_eq_true]
        omega

/-! ## The walk behind the head -/

variable {backgroundLength : Nat} {counts : LevelCounts}

/-- The counters after one process of the background. -/
def countsAfter
    (backgroundLength : Nat)
    (counts : LevelCounts)
    (entry : Entry)
    (following : Nat) : LevelCounts :=
  if following = backgroundLength ∧
      entry.2.priorityLevel ≠ .persistent then
    counts
  else
    counts.more entry.2.priorityLevel

/-- One process behind the head, scored by separate counts. -/
theorem rescore_cons
    (entry : Entry)
    (rest : List Entry) :
    rescore backgroundLength (packed counts) .backgroundProcess
        (entry :: rest) =
      withScore
          (if rest.length = backgroundLength ∧
              entry.2.priorityLevel ≠ .persistent then
            osSystemHomeAppAdj
          else
            (levelScore entry.2.priorityLevel (packed counts)).1)
          entry ::
        rescore backgroundLength
          (packed (countsAfter backgroundLength counts entry rest.length))
          .backgroundProcess rest := by
  have isHigher :
      entry.2.priorityLevel.rank < ProcessPriority.persistent.rank ↔
        entry.2.priorityLevel ≠ .persistent := by
    cases entry.2.priorityLevel <;> decide
  rw [rescore, countsAfter]
  by_cases isHome : rest.length = backgroundLength
  · by_cases isPersistent : entry.2.priorityLevel = .persistent
    · simp [isHome, isPersistent, calculateScore, packed_more,
        ProcessPriority.rank]
    · simp [isHome, isPersistent, calculateScore, isHigher]
  · simp [isHome, calculateScore, packed_more]

/-- The walk leaves the levels alone. -/
@[simp] theorem rescore_levels
    (levelcnt : BitVec 32)
    (processStatus : ProcessStatus)
    (entries : List Entry) :
    (rescore backgroundLength levelcnt processStatus entries).map
        (·.2.priorityLevel) =
      entries.map (·.2.priorityLevel) :=
  rescore_map (fun _ _ => rfl) backgroundLength levelcnt processStatus
    entries

theorem rescore_length
    (levelcnt : BitVec 32)
    (processStatus : ProcessStatus)
    (entries : List Entry) :
    (rescore backgroundLength levelcnt processStatus entries).length =
      entries.length := by
  have sameLevels :=
    congrArg List.length
      (@rescore_levels backgroundLength levelcnt processStatus entries)
  rwa [List.length_map, List.length_map] at sameLevels

theorem levelCount_rescore
    (level : ProcessPriority)
    (levelcnt : BitVec 32)
    (processStatus : ProcessStatus)
    (entries : List Entry) :
    levelCount level
        (rescore backgroundLength levelcnt processStatus entries) =
      levelCount level entries := by
  have byLevels :
      ∀ listed : List Entry,
        levelCount level listed =
          (listed.map (·.2.priorityLevel)).count level := by
    intro listed
    rw [levelCount, List.count, List.countP_map]
    rfl
  rw [byLevels, byLevels, rescore_levels]

/-- A process of a level is counted unless it is the home process. -/
theorem countsAfter_apply
    (entry : Entry)
    (following : Nat)
    {level : ProcessPriority}
    (notPersistent : level ≠ .persistent) :
    countsAfter backgroundLength counts entry following level =
      counts level +
        (if following ≠ backgroundLength ∧
            entry.2.priorityLevel = level then
          1
        else
          0) := by
  rw [countsAfter]
  by_cases isLevel : entry.2.priorityLevel = level
  · by_cases isHome : following = backgroundLength
    · simp [isLevel, isHome, notPersistent]
    · simp [isLevel, isHome, LevelCounts.more]
  · have other : level ≠ entry.2.priorityLevel := Ne.symm isLevel
    split
    · simp [isLevel]
    · simp [isLevel, LevelCounts.more, Function.update_of_ne other]

/-- The counters grow by no more than the processes that are left. -/
theorem countsAfter_add_le
    (entry : Entry)
    (rest : List Entry)
    (following : Nat)
    (level : ProcessPriority) :
    countsAfter backgroundLength counts entry following level +
        levelCount level rest ≤
      counts level + levelCount level (entry :: rest) := by
  rw [levelCount, levelCount, List.countP_cons, countsAfter]
  by_cases isLevel : entry.2.priorityLevel = level
  · split
    · simp [isLevel]
    · simp [isLevel, LevelCounts.more]
      omega
  · have other : level ≠ entry.2.priorityLevel := Ne.symm isLevel
    split
    · simp [isLevel]
    · simp [isLevel, LevelCounts.more, Function.update_of_ne other]

/-- The score of a process behind the head, other than the home process. -/
theorem ordinary_score
    {entries left right : List Entry}
    {entry : Entry}
    (fits :
      ∀ level,
        level ≠ .persistent →
        counts level + levelCount level entries < 2 ^ 10)
    (shape :
      rescore backgroundLength (packed counts) .backgroundProcess
          entries =
        left ++ entry :: right)
    (notHome : right.length ≠ backgroundLength) :
    entry.2.oomScore =
      if entry.2.priorityLevel = .persistent then
        entry.2.priorityLevel.minAdj
      else
        entry.2.priorityLevel.minAdj +
          (counts entry.2.priorityLevel +
            counted backgroundLength entry.2.priorityLevel left
              (right.length + 1) : Nat) := by
  induction entries generalizing counts left with
  | nil =>
      rw [rescore] at shape
      exact absurd shape (by simp)
  | cons first rest inductionHypothesis =>
      rw [rescore_cons] at shape
      cases left with
      | nil =>
          rw [List.nil_append, List.cons.injEq] at shape
          obtain ⟨isFirst, isRest⟩ := shape
          have notLast : rest.length ≠ backgroundLength := by
            rwa [← isRest, rescore_length] at notHome
          have fitsNow : Fits counts := fun level notPersistent =>
            Nat.lt_of_le_of_lt (Nat.le_add_right _ _)
              (fits level notPersistent)
          rw [if_neg (fun isHome => notLast isHome.1)] at isFirst
          rw [← isFirst]
          exact levelScore_packed fitsNow first.2.priorityLevel
      | cons other left =>
          rw [List.cons_append, List.cons.injEq] at shape
          obtain ⟨isOther, isRest⟩ := shape
          have following : rest.length = left.length + (right.length + 1) := by
            rw [← @rescore_length backgroundLength _ _ rest, isRest]
            simp
          have sameLevel :
              other.2.priorityLevel = first.2.priorityLevel := by
            rw [← isOther]
            rfl
          have fitsNext :
              ∀ level,
                level ≠ .persistent →
                countsAfter backgroundLength counts first rest.length level +
                    levelCount level rest <
                  2 ^ 10 :=
            fun level notPersistent =>
              Nat.lt_of_le_of_lt (countsAfter_add_le first rest _ level)
                (fits level notPersistent)
          rw [inductionHypothesis fitsNext isRest]
          by_cases isPersistent : entry.2.priorityLevel = .persistent
          · rw [if_pos isPersistent, if_pos isPersistent]
          · rw [if_neg isPersistent, if_neg isPersistent,
              countsAfter_apply first _ isPersistent, counted, sameLevel,
              following]
            push_cast
            omega

/-- The score of the home process. -/
theorem home_score
    {entries left right : List Entry}
    {entry : Entry}
    (shape :
      rescore backgroundLength (packed counts) .backgroundProcess
          entries =
        left ++ entry :: right)
    (isHome : right.length = backgroundLength)
    (notPersistent : entry.2.priorityLevel ≠ .persistent) :
    entry.2.oomScore = osSystemHomeAppAdj := by
  induction entries generalizing counts left with
  | nil =>
      rw [rescore] at shape
      exact absurd shape (by simp)
  | cons first rest inductionHypothesis =>
      rw [rescore_cons] at shape
      cases left with
      | nil =>
          rw [List.nil_append, List.cons.injEq] at shape
          obtain ⟨isFirst, isRest⟩ := shape
          have sameLength : rest.length = backgroundLength := by
            rw [← isHome, ← isRest, rescore_length]
          rw [← isFirst] at notPersistent ⊢
          exact if_pos ⟨sameLength, notPersistent⟩
      | cons other left =>
          rw [List.cons_append, List.cons.injEq] at shape
          exact inductionHypothesis shape.2

/-! ## A second walk -/

/-- A score is computed from itself again. -/
theorem calculateScore_again
    (info : ProcessInfo)
    (levelcnt : BitVec 32)
    (location : ProcessStatus) :
    calculateScore
        { info with
          oomScore := (calculateScore info levelcnt location).1 }
        levelcnt location =
      calculateScore info levelcnt location := by
  cases location with
  | foregroundProcess =>
      simp only [calculateScore, Prod.mk.injEq, and_true]
      split
      case isTrue =>
        exact ite_self _
      case isFalse =>
        rfl
  | systemHomeProcess =>
      rfl
  | backgroundProcess =>
      rfl

/-- Fresh scores stay as they are. -/
theorem rescore_rescore
    (levelcnt : BitVec 32)
    (processStatus : ProcessStatus)
    (entries : List Entry) :
    rescore backgroundLength levelcnt processStatus
        (rescore backgroundLength levelcnt processStatus entries) =
      rescore backgroundLength levelcnt processStatus entries := by
  induction entries generalizing levelcnt processStatus with
  | nil =>
      rfl
  | cons entry rest inductionHypothesis =>
      simp only [rescore, rescore_length, withScore, calculateScore_again,
        inductionHypothesis]

theorem freshEntries_freshParts (parts : PriorityParts Entry) :
    freshEntries (freshParts parts) = (freshParts parts).all := by
  have sameLength :
      (freshParts parts).background.length = parts.background.length := by
    simp [freshParts, freshEntries, rescore_length, PriorityParts.all]
  rw [freshEntries, freshParts_all, sameLength, freshEntries,
    rescore_rescore]

/-! ## The bands -/

/-- The home process: not the head, and just before the background. -/
def IsHome
    (policy : ProcessPriorityPolicy)
    (entry : Entry) : Prop :=
  policy.mHead ≠ some entry.1 ∧
    policy.next? (some entry.1) = some policy.mBackgroundPos

/-- A process that is neither the head nor the home process. -/
def IsOrdinary
    (policy : ProcessPriorityPolicy)
    (entry : Entry) : Prop :=
  policy.mHead ≠ some entry.1 ∧ ¬IsHome policy entry

/--
The scores keep the bands: those of an ordinary process that of its level, and
there the lower, the nearer the head.
-/
structure RespectsBands
    (policy : ProcessPriorityPolicy)
    (entries : List Entry) : Prop where
  head :
    ∀ entry ∈ entries,
      policy.mHead = some entry.1 →
      entry.2.oomScore ≤ 0
  home :
    ∀ entry ∈ entries,
      IsHome policy entry →
      entry.2.priorityLevel ≠ .persistent →
      entry.2.oomScore = 1
  inBand :
    ∀ entry ∈ entries,
      IsOrdinary policy entry →
      entry.2.priorityLevel.minAdj ≤ entry.2.oomScore ∧
        entry.2.oomScore ≤ entry.2.priorityLevel.maxAdj
  levels :
    ∀ entry ∈ entries,
      ∀ other ∈ entries,
        IsOrdinary policy entry →
        IsOrdinary policy other →
        other.2.priorityLevel.rank < entry.2.priorityLevel.rank →
        entry.2.oomScore < other.2.oomScore
  recency :
    ∀ before entry between other after,
      entries = before ++ entry :: (between ++ other :: after) →
      IsOrdinary policy entry →
      IsOrdinary policy other →
      entry.2.priorityLevel = other.2.priorityLevel →
      entry.2.priorityLevel ≠ .persistent →
      entry.2.oomScore < other.2.oomScore

/-- There are no more processes of a level than its band has scores. -/
def HasRoom (entries : List Entry) : Prop :=
  ∀ level width,
    level.room = some width →
    levelCount level entries ≤ width

variable {policy : ProcessPriorityPolicy}
variable {parts : PriorityParts Entry} {left right : List Entry}
variable {entry : Entry}

/-- The list behind the head is walked with empty counters. -/
theorem freshEntries_behind
    {first : Entry}
    {rest : List Entry}
    (shape : parts.all = first :: rest) :
    ∃ head : Entry,
      head.2.oomScore ≤ 0 ∧
        head.2.priorityLevel = first.2.priorityLevel ∧
        freshEntries parts =
          head ::
            rescore parts.background.length (packed fun _ => 0)
              .backgroundProcess rest := by
  refine
    ⟨withScore (calculateScore first.2 0 .foregroundProcess).1 first,
      calculateScore_foreground first.2 0, rfl, ?_⟩
  rw [freshEntries, shape, rescore]
  simp only [ne_eq, not_true_eq_false, and_false, if_false]
  rfl

/-- With room for all, a level has less than a counter holds. -/
theorem HasRoom.fits
    (hasRoom : HasRoom parts.all)
    {first : Entry}
    {rest : List Entry}
    (shape : parts.all = first :: rest)
    (level : ProcessPriority)
    (notPersistent : level ≠ .persistent) :
    0 + levelCount level rest < 2 ^ 10 := by
  have fewer : levelCount level rest ≤ levelCount level parts.all := by
    rw [shape, levelCount, levelCount, List.countP_cons]
    exact Nat.le_add_right _ _
  cases level with
  | persistent =>
      exact absurd rfl notPersistent
  | high =>
      have := hasRoom .high 90 rfl
      omega
  | middle =>
      have := hasRoom .middle 501 rfl
      omega
  | low =>
      have := hasRoom .low 101 rfl
      omega

/-- A process with room has fewer of its level ahead than there is room for. -/
theorem counted_lt_room
    (hasRoom : HasRoom parts.all)
    (shape : freshEntries parts = left ++ entry :: right)
    {width : Nat}
    (isRoom : entry.2.priorityLevel.room = some width)
    (backgroundLength following : Nat) :
    counted backgroundLength entry.2.priorityLevel left.tail following <
      width := by
  have all :
      levelCount entry.2.priorityLevel (left ++ entry :: right) ≤ width := by
    rw [← shape, freshEntries, levelCount_rescore]
    exact hasRoom _ width isRoom
  have others :
      levelCount entry.2.priorityLevel left.tail ≤
        levelCount entry.2.priorityLevel left :=
    (List.tail_sublist left).countP_le
  have itself :
      levelCount entry.2.priorityLevel (left ++ entry :: right) =
        levelCount entry.2.priorityLevel left +
          (levelCount entry.2.priorityLevel right + 1) := by
    simp [levelCount, List.countP_append]
  have isCounted :=
    counted_le backgroundLength entry.2.priorityLevel left.tail following
  omega

/-- Behind the head the walk goes on from counters that are all zero. -/
theorem freshEntries_tail
    (shape : freshEntries parts = left ++ entry :: right)
    (notHead : left ≠ []) :
    ∃ first rest,
      parts.all = first :: rest ∧
        rescore parts.background.length (packed fun _ => 0)
            .backgroundProcess rest =
          left.tail ++ entry :: right := by
  obtain ⟨_, left, rfl⟩ := List.exists_cons_of_ne_nil notHead
  cases isAll : parts.all with
  | nil =>
      rw [freshEntries, isAll, rescore] at shape
      exact absurd shape (by simp)
  | cons first rest =>
      obtain ⟨head, -, -, fresh⟩ := freshEntries_behind isAll
      rw [fresh, List.cons_append, List.cons.injEq] at shape
      exact ⟨first, rest, rfl, shape.2⟩

/-- The fresh score of a process that is neither the head nor the home. -/
theorem freshEntries_ordinary
    (hasRoom : HasRoom parts.all)
    (shape : freshEntries parts = left ++ entry :: right)
    (notHead : left ≠ [])
    (notHome : right.length ≠ parts.background.length) :
    entry.2.oomScore =
      if entry.2.priorityLevel = .persistent then
        entry.2.priorityLevel.minAdj
      else
        entry.2.priorityLevel.minAdj +
          (counted parts.background.length entry.2.priorityLevel left.tail
            (right.length + 1) : Nat) := by
  obtain ⟨first, rest, isAll, isTail⟩ := freshEntries_tail shape notHead
  have scored := ordinary_score (hasRoom.fits isAll) isTail notHome
  rwa [Nat.zero_add] at scored

/-- The fresh score of the head. -/
theorem freshEntries_head
    (shape : freshEntries parts = left ++ entry :: right)
    (isHead : left = []) :
    entry.2.oomScore ≤ 0 := by
  cases isAll : parts.all with
  | nil =>
      rw [freshEntries, isAll, rescore] at shape
      exact absurd shape (by simp)
  | cons first rest =>
      obtain ⟨head, isLow, -, fresh⟩ := freshEntries_behind isAll
      rw [fresh, isHead, List.nil_append, List.cons.injEq] at shape
      rw [← shape.1]
      exact isLow

/-- The fresh score of the home process. -/
theorem freshEntries_home
    (shape : freshEntries parts = left ++ entry :: right)
    (notHead : left ≠ [])
    (isHome : right.length = parts.background.length)
    (notPersistent : entry.2.priorityLevel ≠ .persistent) :
    entry.2.oomScore = 1 := by
  obtain ⟨_, _, _, isTail⟩ := freshEntries_tail shape notHead
  exact home_score isTail isHome notPersistent

/-- An ordinary process is counted before those of its level behind it. -/
theorem counted_behind
    {before between after : List Entry}
    {other : Entry}
    {backgroundLength : Nat}
    (entry : Entry)
    (notHead : before ≠ [])
    (notHome : (between ++ other :: after).length ≠ backgroundLength) :
    counted backgroundLength entry.2.priorityLevel before.tail
        ((between ++ other :: after).length + 1) <
      counted backgroundLength entry.2.priorityLevel
        (before ++ entry :: between).tail (after.length + 1) := by
  have following :
      (between ++ other :: after).length =
        between.length + (after.length + 1) := by
    simp
  rw [List.tail_append_of_ne_nil notHead, counted_append, counted,
    if_pos ⟨following ▸ notHome, rfl⟩, List.length_cons, following,
    Nat.add_right_comm]
  omega

/-- Fresh scores leave the length of the background. -/
theorem freshParts_background_length
    (parts : PriorityParts Entry) :
    (freshParts parts).background.length = parts.background.length := by
  simp [freshParts, freshEntries, rescore_length, PriorityParts.all]

/-- What the pointers of an ordinary process say about its place. -/
theorem Represents.place_of_ordinary
    {left right : List Entry}
    {entry : Entry}
    (represents : Represents policy (freshParts parts))
    (shape : (freshParts parts).all = left ++ entry :: right)
    (isOrdinary : IsOrdinary policy entry) :
    left ≠ [] ∧ right.length ≠ parts.background.length := by
  obtain ⟨notHead, notHome⟩ := isOrdinary
  refine
    ⟨fun isHead => notHead ((represents.isHead_iff shape).mpr isHead), ?_⟩
  intro isBefore
  refine notHome ⟨notHead, ?_⟩
  rw [represents.isBeforeBackground_iff shape,
    freshParts_background_length]
  exact isBefore

/-- The score of an ordinary process counts those of its level before it. -/
theorem Represents.score_of_ordinary
    {left right : List Entry}
    {entry : Entry}
    (represents : Represents policy (freshParts parts))
    (hasRoom : HasRoom parts.all)
    (shape : (freshParts parts).all = left ++ entry :: right)
    (isOrdinary : IsOrdinary policy entry) :
    entry.2.oomScore =
      if entry.2.priorityLevel = .persistent then
        entry.2.priorityLevel.minAdj
      else
        entry.2.priorityLevel.minAdj +
          (counted parts.background.length entry.2.priorityLevel left.tail
            (right.length + 1) : Nat) := by
  obtain ⟨notHead, notHome⟩ :=
    represents.place_of_ordinary shape isOrdinary
  rw [freshParts_all] at shape
  exact freshEntries_ordinary hasRoom shape notHead notHome

/-- An ordinary process stays in the band of its level. -/
theorem Represents.inBand_of_ordinary
    {entry : Entry}
    (represents : Represents policy (freshParts parts))
    (hasRoom : HasRoom parts.all)
    (member : entry ∈ (freshParts parts).all)
    (isOrdinary : IsOrdinary policy entry) :
    entry.2.priorityLevel.minAdj ≤ entry.2.oomScore ∧
      entry.2.oomScore ≤ entry.2.priorityLevel.maxAdj := by
  obtain ⟨left, right, shape⟩ := List.append_of_mem member
  rw [represents.score_of_ordinary hasRoom shape isOrdinary]
  cases isRoom : entry.2.priorityLevel.room with
  | none =>
      have isPersistent := ProcessPriority.eq_persistent_of_room isRoom
      rw [if_pos isPersistent, isPersistent]
      decide
  | some width =>
      have notPersistent := ProcessPriority.ne_persistent_of_room isRoom
      have below :=
        counted_lt_room hasRoom ((freshParts_all parts).symm.trans shape)
          isRoom parts.background.length (right.length + 1)
      have lastScore := ProcessPriority.minAdj_add_room isRoom
      rw [if_neg notPersistent]
      omega

/-- The scores of `analyseProcessPriority` keep the bands. -/
theorem Represents.respectsBands
    (represents : Represents policy (freshParts parts))
    (hasRoom : HasRoom parts.all) :
    RespectsBands policy (freshParts parts).all where
  head := by
    intro entry member isHead
    obtain ⟨left, right, shape⟩ := List.append_of_mem member
    have atHead := (represents.isHead_iff shape).mp isHead
    rw [freshParts_all] at shape
    exact freshEntries_head shape atHead
  home := by
    intro entry member isHome notPersistent
    obtain ⟨left, right, shape⟩ := List.append_of_mem member
    have notHead : left ≠ [] := fun atHead =>
      isHome.1 ((represents.isHead_iff shape).mpr atHead)
    have isBefore :=
      (represents.isBeforeBackground_iff shape).mp isHome.2
    rw [freshParts_background_length] at isBefore
    rw [freshParts_all] at shape
    exact freshEntries_home shape notHead isBefore notPersistent
  inBand entry member isOrdinary :=
    represents.inBand_of_ordinary hasRoom member isOrdinary
  levels := by
    intro entry member other otherMember isOrdinary otherOrdinary isLower
    have gap := ProcessPriority.maxAdj_lt_minAdj isLower
    have ceiling :=
      (represents.inBand_of_ordinary hasRoom member isOrdinary).2
    have floor :=
      (represents.inBand_of_ordinary hasRoom otherMember otherOrdinary).1
    omega
  recency := by
    intro before entry between other after shape isOrdinary otherOrdinary
      sameLevel notPersistent
    obtain ⟨notHead, notHome⟩ :=
      represents.place_of_ordinary shape isOrdinary
    have otherShape :
        (freshParts parts).all =
          (before ++ entry :: between) ++ other :: after := by
      rw [shape, List.append_assoc, List.cons_append]
    rw [represents.score_of_ordinary hasRoom shape isOrdinary,
      represents.score_of_ordinary hasRoom otherShape otherOrdinary,
      ← sameLevel, if_neg notPersistent, if_neg notPersistent]
    have isCounted := counted_behind entry notHead notHome
    omega

/-- The walk changes nothing but scores. -/
theorem rescore_withScore
    (levelcnt : BitVec 32)
    (processStatus : ProcessStatus)
    (entries : List Entry) :
    (rescore backgroundLength levelcnt processStatus entries).map
        (withScore 0) =
      entries.map (withScore 0) := by
  induction entries generalizing levelcnt processStatus with
  | nil =>
      rfl
  | cons entry rest inductionHypothesis =>
      simp only [rescore, List.map_cons, inductionHypothesis]
      rfl

/--
For every list with room for its processes, any scores and any background
position: `analyseProcessPriority` changes nothing but scores, and these keep
the bands.  A second call, with whatever the low memory manager holds then,
changes no score and tells the manager of none.
-/
theorem analyseProcessPriority_respectsBands
    (policy : ProcessPriorityPolicy)
    (parts : PriorityParts Entry)
    (represents : Represents policy parts)
    (hasRoom : HasRoom parts.all) :
    ∃ next,
      policy.analyseProcessPriority = some next ∧
        Represents next (freshParts parts) ∧
        (freshParts parts).all.map (withScore 0) =
          parts.all.map (withScore 0) ∧
        RespectsBands next (freshParts parts).all ∧
        ∀ lmk : LowMemoryManager,
          analyseProcessPriority { next with mLmk := lmk } =
            some { next with mLmk := lmk } := by
  obtain ⟨next, analysed, fresh, -⟩ := represents.analyse
  refine
    ⟨next, analysed, fresh, ?_, fresh.respectsBands hasRoom,
      fresh.analyse_unchanged (freshEntries_freshParts parts)⟩
  rw [freshParts_all]
  exact rescore_withScore _ _ _

/-- A foreground with the home process at its end, and three processes behind. -/
def fiveProcesses : Option ProcessPriorityPolicy := do
  let policy ← (empty { mPidOomScore := [], mOomScoreThreshold := [] }).add
    2 true .low
  let policy ← policy.add 1 true .high
  let policy ← policy.add 5 false .low
  let policy ← policy.add 4 false .low
  policy.add 3 false .middle

/-- Its two parts. -/
def fiveParts : PriorityParts Entry where
  foreground :=
    [(1, { pid := 1, priorityLevel := .high, oomScore := 100 }),
      (0, { pid := 2, priorityLevel := .low, oomScore := 100 })]
  background :=
    [(4, { pid := 3, priorityLevel := .middle, oomScore := 100 }),
      (3, { pid := 4, priorityLevel := .low, oomScore := 100 }),
      (2, { pid := 5, priorityLevel := .low, oomScore := 100 })]

/-- The head, the home process, and two levels with two processes in one. -/
theorem fiveProcesses_respectsBands :
    (∃ next,
      (fiveProcesses.get rfl).analyseProcessPriority = some next ∧
        RespectsBands next (freshParts fiveParts).all) ∧
      (freshParts fiveParts).all.map
          (fun entry => (entryPid entry, entry.2.oomScore)) =
        [(1, 0), (2, 1), (3, 100), (4, 700), (5, 701)] := by
  have represents : Represents (fiveProcesses.get rfl) fiveParts := by
    refine ⟨?_, rfl⟩
    exact
      { head := rfl
        tail := rfl
        linked := ⟨rfl, rfl, rfl, rfl, rfl, trivial⟩
        distinct := by decide
        bounded := by decide
        pids := by decide }
  have hasRoom : HasRoom fiveParts.all := by
    intro level width isRoom
    have isShort : levelCount level fiveParts.all ≤ 5 :=
      List.countP_le_length
    cases level <;>
      simp only [ProcessPriority.room, Option.some.injEq,
        reduceCtorEq] at isRoom <;>
      omega
  obtain ⟨next, analysed, -, -, respects, -⟩ :=
    analyseProcessPriority_respectsBands (fiveProcesses.get rfl) fiveParts
      represents hasRoom
  exact ⟨⟨next, analysed, respects⟩, by decide⟩

end ProcessPriorityPolicy

end ActivityManager
