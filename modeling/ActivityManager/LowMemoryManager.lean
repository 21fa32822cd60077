import Mathlib.Data.List.Nodup

/-!
# The low memory manager's data

`LowMemoryManager` keeps the last known score of each monitored process and
the configured thresholds.  The kill itself calls back into the priority list
and the application list and is in `LowMemoryKill`.
-/

namespace ActivityManager

/-- One row of `mOomScoreThreshold`. -/
structure LmkRow where
  freeMemory : Int
  maxBlock : Int
  oomScore : Int
  deriving Repr, DecidableEq

/-- `LowMemoryManager`; the unordered map is an association list. -/
structure LowMemoryManager where
  mPidOomScore : List (Nat × Int)
  mOomScoreThreshold : List LmkRow
  deriving Repr, DecidableEq

namespace LowMemoryManager

/-- `MAX_ADJUST_NUM`. -/
def maxAdjustNum : Nat := 5

/-- What a C `int` of 32 bits keeps of the result of an operation. -/
def wrapInt (value : Int) : Int :=
  value.bmod 4294967296

/--
The rows used without a configuration: 10, 20 and 40 % of the memory.  The
product is an `int`, so it wraps around for a large `arena`.
-/
def defaultRows (arena : Int) : List LmkRow :=
  [(1, 10), (2, 102), (4, 500)].map fun (memorylevel, scorethreshold) =>
    let freeMemory := (wrapInt (arena * memorylevel)).tdiv 10
    { freeMemory := freeMemory
      maxBlock := wrapInt (freeMemory - 1024 * 1024 * 2)
      oomScore := scorethreshold }

/-- The rows `init` fills in, given the lines that `sscanf` accepts. -/
def configuredRows
    (lines : List LmkRow)
    (arena : Int) : List LmkRow :=
  if lines.isEmpty then defaultRows arena else lines.take maxAdjustNum

/-- A row that `init` leaves as `memset` made it. -/
def zeroRow : LmkRow where
  freeMemory := 0
  maxBlock := 0
  oomScore := 0

/-- `LowMemoryManager::init`. -/
def init
    (lines : List LmkRow)
    (arena : Int) : LowMemoryManager where
  mPidOomScore := []
  mOomScoreThreshold :=
    configuredRows lines arena ++
      List.replicate (maxAdjustNum - (configuredRows lines arena).length)
        zeroRow

/-- The first row of `executeLMK` that the memory falls short of. -/
def matchingRow?
    (lmk : LowMemoryManager)
    (freememory maxblock : Int) : Option LmkRow :=
  lmk.mOomScoreThreshold.find? fun row =>
    freememory ≤ row.freeMemory || maxblock ≤ row.maxBlock

/-- `killPidVec` of `executeLMK`. -/
def killPidVec
    (lmk : LowMemoryManager)
    (row : LmkRow) : List Nat :=
  (lmk.mPidOomScore.filter fun entry => row.oomScore ≤ entry.2).map
    Prod.fst

/-- `mPidOomScore.find(pid)`. -/
def score?
    (lmk : LowMemoryManager)
    (pid : Nat) : Option Int :=
  (lmk.mPidOomScore.find? (·.1 == pid)).map Prod.snd

/-- `LowMemoryManager::setPidOomScore`. -/
def setPidOomScore
    (lmk : LowMemoryManager)
    (pid : Nat)
    (score : Int) : LowMemoryManager :=
  { lmk with
    mPidOomScore :=
      if (lmk.score? pid).isSome then
        lmk.mPidOomScore.map fun entry =>
          if entry.1 = pid then (pid, score) else entry
      else
        lmk.mPidOomScore ++ [(pid, score)] }

/-- `LowMemoryManager::cancelMonitorPid`, and the erasure after a kill. -/
def cancelMonitorPid
    (lmk : LowMemoryManager)
    (pid : Nat) : LowMemoryManager :=
  { lmk with mPidOomScore := lmk.mPidOomScore.filter (·.1 != pid) }

/-- Setting a score is seen under its own pid and nowhere else. -/
theorem score?_setPidOomScore
    (lmk : LowMemoryManager)
    (pid : Nat)
    (score : Int)
    (other : Nat) :
    (lmk.setPidOomScore pid score).score? other =
      if other = pid then some score else lmk.score? other := by
  have sameKey :
      (fun entry : Nat × Int => entry.1 == other) ∘
          (fun entry => if entry.1 = pid then (pid, score) else entry) =
        fun entry => entry.1 == other := by
    funext entry
    by_cases isPid : entry.1 = pid
    · simp [isPid]
    · simp [isPid]
  cases found : lmk.mPidOomScore.find? (·.1 == pid) with
  | some entry =>
      have entries :
          (lmk.setPidOomScore pid score).mPidOomScore =
            lmk.mPidOomScore.map fun entry =>
              if entry.1 = pid then (pid, score) else entry := by
        simp [setPidOomScore, score?, found]
      rw [score?, entries, List.find?_map, sameKey, score?]
      by_cases isPid : other = pid
      · subst isPid
        have isOther : entry.1 = other := by
          simpa using List.find?_some found
        simp [found, isOther]
      · rw [if_neg isPid]
        cases others : lmk.mPidOomScore.find? (·.1 == other) with
        | none =>
            rfl
        | some entry =>
            have isOther : entry.1 = other := by
              simpa using List.find?_some others
            simp [isOther, isPid]
  | none =>
      have entries :
          (lmk.setPidOomScore pid score).mPidOomScore =
            lmk.mPidOomScore ++ [(pid, score)] := by
        simp [setPidOomScore, score?, found]
      rw [score?, entries, List.find?_append, score?]
      by_cases isPid : other = pid
      · subst isPid
        simp [found]
      · have notNew : ¬ pid = other := fun same => isPid same.symm
        simp [isPid, notNew]

/-- Cancelling forgets one pid. -/
theorem score?_cancelMonitorPid
    (lmk : LowMemoryManager)
    (pid other : Nat) :
    (lmk.cancelMonitorPid pid).score? other =
      if other = pid then none else lmk.score? other := by
  unfold cancelMonitorPid score?
  rw [List.find?_filter]
  by_cases isPid : other = pid
  · subst isPid
    simp
  · rw [if_neg isPid]
    congr 2
    funext entry
    by_cases found : entry.1 = other
    · simp [found, isPid]
    · simp [found]

/-- A map has one value for each key. -/
theorem keys_setPidOomScore
    (lmk : LowMemoryManager)
    (unique : (lmk.mPidOomScore.map Prod.fst).Nodup)
    (pid : Nat)
    (score : Int) :
    ((lmk.setPidOomScore pid score).mPidOomScore.map Prod.fst).Nodup := by
  cases found : lmk.mPidOomScore.find? (·.1 == pid) with
  | some entry =>
      have sameKeys :
          Prod.fst ∘
              (fun entry : Nat × Int =>
                if entry.1 = pid then (pid, score) else entry) =
            Prod.fst := by
        funext entry
        by_cases isPid : entry.1 = pid
        · simp [isPid]
        · simp [isPid]
      simp only [setPidOomScore, score?, found, Option.map_some,
        Option.isSome_some, if_true, List.map_map, sameKeys]
      exact unique
  | none =>
      have absent : ∀ entry ∈ lmk.mPidOomScore, entry.1 ≠ pid := by
        simpa using List.find?_eq_none.mp found
      simp only [setPidOomScore, score?, found, Option.map_none,
        Option.isSome_none, Bool.false_eq_true, if_false,
        List.map_append, List.nodup_append]
      refine ⟨unique, by simp, ?_⟩
      intro key member other isNew
      obtain ⟨entry, entryMember, rfl⟩ := List.mem_map.mp member
      have isPid : other = pid := by
        simpa using isNew
      rw [isPid]
      exact absent entry entryMember

theorem keys_cancelMonitorPid
    (lmk : LowMemoryManager)
    (unique : (lmk.mPidOomScore.map Prod.fst).Nodup)
    (pid : Nat) :
    ((lmk.cancelMonitorPid pid).mPidOomScore.map Prod.fst).Nodup :=
  unique.sublist (List.filter_sublist.map _)

/-- With unique keys, an entry of the map is what is found. -/
theorem score?_eq_some
    {lmk : LowMemoryManager}
    (unique : (lmk.mPidOomScore.map Prod.fst).Nodup)
    {pid : Nat}
    {score : Int} :
    lmk.score? pid = some score ↔ (pid, score) ∈ lmk.mPidOomScore := by
  unfold score?
  rw [Option.map_eq_some_iff]
  constructor
  · rintro ⟨entry, found, rfl⟩
    have isPid : entry.1 = pid := by
      simpa using List.find?_some found
    rw [← isPid]
    exact List.mem_of_find?_eq_some found
  · intro member
    cases found : lmk.mPidOomScore.find? (·.1 == pid) with
    | none =>
        have none := List.find?_eq_none.mp found _ member
        simp at none
    | some entry =>
        have isPid : entry.1 = pid := by
          simpa using List.find?_some found
        have same :=
          List.inj_on_of_nodup_map unique
            (List.mem_of_find?_eq_some found) member isPid
        exact ⟨entry, rfl, by rw [same]⟩

/-- Forgetting killed processes. -/
theorem score?_cancelAll
    (pids : List Nat)
    (lmk : LowMemoryManager)
    (other : Nat) :
    (pids.foldl cancelMonitorPid lmk).score? other =
      if other ∈ pids then none else lmk.score? other := by
  induction pids generalizing lmk with
  | nil =>
      simp
  | cons pid rest inductionHypothesis =>
      simp only [List.foldl_cons, inductionHypothesis,
        score?_cancelMonitorPid, List.mem_cons]
      by_cases isPid : other = pid
      · simp [isPid]
      · simp [isPid]

theorem cancelAll_mOomScoreThreshold
    (pids : List Nat)
    (lmk : LowMemoryManager) :
    (pids.foldl cancelMonitorPid lmk).mOomScoreThreshold =
      lmk.mOomScoreThreshold := by
  induction pids generalizing lmk with
  | nil =>
      rfl
  | cons pid rest inductionHypothesis =>
      exact inductionHypothesis _

theorem keys_cancelAll
    (pids : List Nat)
    (lmk : LowMemoryManager)
    (unique : (lmk.mPidOomScore.map Prod.fst).Nodup) :
    ((pids.foldl cancelMonitorPid lmk).mPidOomScore.map
      Prod.fst).Nodup := by
  induction pids generalizing lmk with
  | nil =>
      exact unique
  | cons pid rest inductionHypothesis =>
      exact inductionHypothesis _ (lmk.keys_cancelMonitorPid unique pid)

/-- The processes to kill are those with a score above the threshold. -/
theorem mem_killPidVec
    {lmk : LowMemoryManager}
    (unique : (lmk.mPidOomScore.map Prod.fst).Nodup)
    (row : LmkRow)
    (pid : Nat) :
    pid ∈ lmk.killPidVec row ↔
      ∃ score, lmk.score? pid = some score ∧ row.oomScore ≤ score := by
  simp [killPidVec, score?_eq_some unique]

theorem nodup_killPidVec
    {lmk : LowMemoryManager}
    (unique : (lmk.mPidOomScore.map Prod.fst).Nodup)
    (row : LmkRow) :
    (lmk.killPidVec row).Nodup :=
  unique.sublist (List.filter_sublist.map _)

/-! ## The thresholds -/

/-- Less memory never has a higher threshold. -/
structure Ascending (rows : List LmkRow) : Prop where
  columns :
    rows.Pairwise fun row later =>
      row.freeMemory ≤ later.freeMemory ∧
        row.maxBlock ≤ later.maxBlock ∧
        row.oomScore ≤ later.oomScore
  nonNegative :
    ∀ row ∈ rows,
      0 ≤ row.freeMemory ∧ 0 ≤ row.maxBlock

/-- Without a configuration there are the default rows. -/
theorem configuredRows_ne_nil
    (lines : List LmkRow)
    (arena : Int) :
    configuredRows lines arena ≠ [] := by
  unfold configuredRows
  cases lines with
  | nil =>
      simp [defaultRows]
  | cons row rest =>
      simp [maxAdjustNum]

/-- A value that an `int` holds is kept. -/
theorem wrapInt_of_fits
    {value : Int}
    (lower : -2147483648 ≤ value)
    (upper : value ≤ 2147483647) :
    wrapInt value = value :=
  Int.bmod_eq_of_le lower (Int.lt_add_one_of_le upper)

/-- Where no product wraps around, the default rows are those percentages. -/
theorem defaultRows_of_fits
    {arena : Int}
    (nonNegative : 0 ≤ arena)
    (fits : arena ≤ 536870911) :
    defaultRows arena =
      [(1, 10), (2, 102), (4, 500)].map fun (memorylevel, score) =>
        { freeMemory := arena * memorylevel / 10
          maxBlock := arena * memorylevel / 10 - 1024 * 1024 * 2
          oomScore := score } := by
  have part :
      ∀ memorylevel,
        0 ≤ memorylevel →
        memorylevel ≤ 4 →
        (wrapInt (arena * memorylevel)).tdiv 10 =
          arena * memorylevel / 10 := by
    intro memorylevel positive small
    have productNonNegative : 0 ≤ arena * memorylevel :=
      Int.mul_nonneg nonNegative positive
    have productFits : arena * memorylevel ≤ 536870911 * 4 :=
      Int.mul_le_mul fits small positive (by decide)
    rw [wrapInt_of_fits (by omega) (by omega),
      Int.tdiv_eq_ediv_of_nonneg productNonNegative]
  have one := part 1 (by decide) (by decide)
  have two := part 2 (by decide) (by decide)
  have four := part 4 (by decide) (by decide)
  simp only [defaultRows, List.map_cons, List.map_nil, one, two, four]
  rw [wrapInt_of_fits (by omega) (by omega),
    wrapInt_of_fits (by omega) (by omega),
    wrapInt_of_fits (by omega) (by omega)]

/-- From 20 MiB on, as long as no product wraps around, they ascend. -/
theorem ascending_defaultRows
    {arena : Int}
    (large : 20971520 ≤ arena)
    (fits : arena ≤ 536870911) :
    Ascending (defaultRows arena) := by
  rw [defaultRows_of_fits (by omega) fits]
  constructor
  · simp
    omega
  · simp
    omega

/-- A product that wraps around makes the last row negative. -/
example :
    (defaultRows 1000000000).map LmkRow.freeMemory =
      [100000000, 200000000, -29496729] := by
  decide

/-- The rows that `memset` left never match first. -/
theorem matchingRow?_configured
    {lmk : LowMemoryManager}
    {lines : List LmkRow}
    {arena : Int}
    (thresholds :
      lmk.mOomScoreThreshold = (init lines arena).mOomScoreThreshold)
    (ascending : Ascending (configuredRows lines arena))
    (freememory maxblock : Int) :
    lmk.matchingRow? freememory maxblock =
      (configuredRows lines arena).find? fun row =>
        freememory ≤ row.freeMemory || maxblock ≤ row.maxBlock := by
  rw [matchingRow?, thresholds, init, List.find?_append]
  cases rows : configuredRows lines arena with
  | nil =>
      exact absurd rows (configuredRows_ne_nil lines arena)
  | cons first rest =>
      have nonNegative := ascending.nonNegative first (by simp [rows])
      by_cases low : freememory ≤ 0 ∨ maxblock ≤ 0
      · have firstMatches :
            freememory ≤ first.freeMemory ∨
              maxblock ≤ first.maxBlock := by
          omega
        simp [firstMatches]
      · have noZeroRow :
            (List.replicate (maxAdjustNum - (first :: rest).length)
              zeroRow).find?
                (fun row =>
                  freememory ≤ row.freeMemory ||
                    maxblock ≤ row.maxBlock) =
              none := by
          rw [List.find?_eq_none]
          intro row member
          rw [(List.mem_replicate.mp member).2]
          simp only [Bool.or_eq_true, decide_eq_true_eq]
          exact low
        rw [noZeroRow, Option.or_none]

/-- A lower reading has a lower threshold. -/
theorem find?_lower
    {rows : List LmkRow}
    {freememory maxblock lowerFree lowerBlock : Int}
    {row : LmkRow}
    (columns :
      rows.Pairwise fun row later =>
        row.freeMemory ≤ later.freeMemory ∧
          row.maxBlock ≤ later.maxBlock ∧
          row.oomScore ≤ later.oomScore)
    (free : lowerFree ≤ freememory)
    (block : lowerBlock ≤ maxblock)
    (found :
      (rows.find? fun row =>
        freememory ≤ row.freeMemory || maxblock ≤ row.maxBlock) =
          some row) :
    ∃ lower,
      (rows.find? fun row =>
        lowerFree ≤ row.freeMemory || lowerBlock ≤ row.maxBlock) =
          some lower ∧
        lower.oomScore ≤ row.oomScore := by
  induction rows with
  | nil =>
      simp at found
  | cons first rest inductionHypothesis =>
      rw [List.pairwise_cons] at columns
      by_cases now :
          lowerFree ≤ first.freeMemory ∨ lowerBlock ≤ first.maxBlock
      · refine ⟨first, by simp [now], ?_⟩
        rw [List.find?_cons] at found
        split at found
        · cases found
          exact Int.le_refl _
        · exact (columns.1 row (List.mem_of_find?_eq_some found)).2.2
      · have notFirst :
            ¬ (freememory ≤ first.freeMemory ∨
              maxblock ≤ first.maxBlock) := by
          omega
        rw [List.find?_cons_of_neg (by simpa using notFirst)] at found
        rw [List.find?_cons_of_neg (by simpa using now)]
        exact inductionHypothesis columns.2 found

end LowMemoryManager

end ActivityManager
