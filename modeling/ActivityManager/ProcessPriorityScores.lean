import ActivityManager.ProcessPriorityRefinement

/-!
# The scores of the listed processes

`analyseProcessPriority` walks the list once and gives every process a new
score.  The walk is compared with `rescore`, which computes the scores from
the entries alone, and the manager's copy of the scores stays the same as the
list's.
-/

namespace ActivityManager.ProcessPriorityPolicy

open DoublyLinked

variable {policy : ProcessPriorityPolicy}

/-- An entry with another score. -/
def withScore
    (score : Int)
    (entry : Entry) : Entry :=
  (entry.1, { entry.2 with oomScore := score })

@[simp] theorem withScore_address
    (score : Int)
    (entry : Entry) :
    (withScore score entry).1 = entry.1 := by
  rfl

@[simp] theorem withScore_oomScore
    (score : Int)
    (entry : Entry) :
    (withScore score entry).2.oomScore = score := by
  rfl

/--
The entries with the scores they are to have.  The home process is the one
with exactly the background behind it.
-/
def rescore
    (backgroundLength : Nat) :
    BitVec 32 → ProcessStatus → List Entry → List Entry
  | _, _, [] =>
      []
  | levelcnt, processStatus, entry :: rest =>
      let location :=
        if rest.length = backgroundLength ∧
            processStatus ≠ .foregroundProcess then
          .systemHomeProcess
        else
          processStatus
      let result := calculateScore entry.2 levelcnt location
      withScore result.1 entry ::
        rescore backgroundLength result.2 .backgroundProcess rest

/-- All entries with fresh scores. -/
def freshEntries (parts : PriorityParts Entry) : List Entry :=
  rescore parts.background.length 0 .foregroundProcess parts.all

/-- The two parts with fresh scores. -/
def freshParts (parts : PriorityParts Entry) : PriorityParts Entry where
  foreground := (freshEntries parts).take parts.foreground.length
  background := (freshEntries parts).drop parts.foreground.length

/-- What does not depend on the scores stays. -/
theorem rescore_map
    {Feature : Type}
    {feature : Entry → Feature}
    (sameFeature :
      ∀ score entry, feature (withScore score entry) = feature entry)
    (backgroundLength : Nat)
    (levelcnt : BitVec 32)
    (processStatus : ProcessStatus)
    (entries : List Entry) :
    (rescore backgroundLength levelcnt processStatus entries).map feature =
      entries.map feature := by
  induction entries generalizing levelcnt processStatus with
  | nil =>
      rfl
  | cons entry rest inductionHypothesis =>
      rw [rescore, List.map_cons, List.map_cons, sameFeature,
        inductionHypothesis]

@[simp] theorem rescore_addresses
    (backgroundLength : Nat)
    (levelcnt : BitVec 32)
    (processStatus : ProcessStatus)
    (entries : List Entry) :
    addresses
        (rescore backgroundLength levelcnt processStatus entries) =
      addresses entries :=
  rescore_map (fun _ _ => rfl) backgroundLength levelcnt processStatus
    entries

@[simp] theorem rescore_pids
    (backgroundLength : Nat)
    (levelcnt : BitVec 32)
    (processStatus : ProcessStatus)
    (entries : List Entry) :
    (rescore backgroundLength levelcnt processStatus entries).map
        entryPid =
      entries.map entryPid :=
  rescore_map (fun _ _ => rfl) backgroundLength levelcnt processStatus
    entries

theorem freshParts_all (parts : PriorityParts Entry) :
    (freshParts parts).all = freshEntries parts :=
  List.take_append_drop _ _

theorem freshParts_pids (parts : PriorityParts Entry) :
    (freshParts parts).map entryPid = parts.map entryPid := by
  simp [freshParts, PriorityParts.map, freshEntries, List.map_take,
    List.map_drop, PriorityParts.all]

/-! ## Who is protected -/

/-- The location of a process with the given entries around it. -/
def locationAt
    (backgroundLength : Nat)
    (processStatus : ProcessStatus)
    (left right : List Entry) : ProcessStatus :=
  let reached := if left.isEmpty then processStatus else .backgroundProcess
  if right.length = backgroundLength ∧ reached ≠ .foregroundProcess then
    .systemHomeProcess
  else
    reached

/-- The score of the process at one place of the list. -/
theorem rescore_at
    (backgroundLength : Nat)
    (levelcnt : BitVec 32)
    (processStatus : ProcessStatus)
    (left right : List Entry)
    (entry : Entry) :
    ∃ freshLeft freshRight reachedCnt,
      rescore backgroundLength levelcnt processStatus
          (left ++ entry :: right) =
        freshLeft ++
          withScore
              (calculateScore entry.2 reachedCnt
                (locationAt backgroundLength processStatus left right)).1
              entry ::
            freshRight := by
  induction left generalizing levelcnt processStatus with
  | nil =>
      exact ⟨[], rescore backgroundLength _ _ right, levelcnt, rfl⟩
  | cons first rest inductionHypothesis =>
      rw [List.cons_append, rescore]
      obtain ⟨freshLeft, freshRight, reachedCnt, later⟩ :=
        inductionHypothesis
          (calculateScore first.2 levelcnt
            (if (rest ++ entry :: right).length = backgroundLength ∧
                processStatus ≠ .foregroundProcess then
              .systemHomeProcess
            else
              processStatus)).2
          .backgroundProcess
      have sameLocation :
          locationAt backgroundLength .backgroundProcess rest right =
            locationAt backgroundLength processStatus (first :: rest)
              right := by
        simp [locationAt]
      rw [later, sameLocation, ← List.cons_append]
      exact ⟨_, freshRight, reachedCnt, rfl⟩

/-- The head of the list is the foreground process. -/
theorem calculateScore_foreground
    (info : ProcessInfo)
    (levelcnt : BitVec 32) :
    (calculateScore info levelcnt .foregroundProcess).1 ≤ 0 := by
  unfold calculateScore osForegroundAppAdj
  dsimp only
  by_cases positive : info.oomScore > 0
  · simp [positive]
  · rw [if_neg positive]
    omega

theorem calculateScore_home
    (info : ProcessInfo)
    (levelcnt : BitVec 32) :
    (calculateScore info levelcnt .systemHomeProcess).1 ≤ 1 := by
  unfold calculateScore
  cases info.priorityLevel <;>
    simp [ProcessPriority.rank, levelScore, osSystemHomeAppAdj,
      osPersistentProcAdj]

theorem calculateScore_persistent
    {info : ProcessInfo}
    (isPersistent : info.priorityLevel = .persistent)
    (levelcnt : BitVec 32)
    (location : ProcessStatus) :
    (calculateScore info levelcnt location).1 ≤ 0 := by
  cases location with
  | foregroundProcess =>
      exact calculateScore_foreground info levelcnt
  | systemHomeProcess =>
      simp [calculateScore, isPersistent, levelScore,
        osPersistentProcAdj]
  | backgroundProcess =>
      simp [calculateScore, isPersistent, levelScore,
        osPersistentProcAdj]

/-- The head, the home process and the persistent ones. -/
def IsProtected
    (policy : ProcessPriorityPolicy)
    (entry : Entry) : Prop :=
  policy.mHead = some entry.1 ∨
    policy.next? (some entry.1) = some policy.mBackgroundPos ∨
    entry.2.priorityLevel = .persistent

/-- The pointer to the head is the first place of the list. -/
theorem Represents.isHead_iff
    {parts : PriorityParts Entry}
    {left right : List Entry}
    {entry : Entry}
    (represents : Represents policy parts)
    (shape : parts.all = left ++ entry :: right) :
    policy.mHead = some entry.1 ↔ left = [] := by
  have listed := represents.listed
  rw [shape] at listed
  rw [listed.head]
  cases left with
  | nil =>
      simp
  | cons first rest =>
      obtain ⟨-, notLeft, -⟩ := listed.around
      refine iff_of_false ?_ (List.cons_ne_nil _ _)
      intro isHead
      simp only [List.cons_append, first_cons, Option.some.injEq] at isHead
      exact absurd (by simp [isHead]) notLeft

/-- The place before the background is told by what is behind it. -/
theorem Represents.isBeforeBackground_iff
    {parts : PriorityParts Entry}
    {left right : List Entry}
    {entry : Entry}
    (represents : Represents policy parts)
    (shape : parts.all = left ++ entry :: right) :
    policy.next? (some entry.1) = some policy.mBackgroundPos ↔
      right.length = parts.background.length := by
  have listed := represents.listed
  rw [shape] at listed
  have isRest :
      addresses right <:+ addresses (left ++ entry :: right) :=
    ⟨addresses left ++ [entry.1], by simp⟩
  have isBackground :
      addresses parts.background <:+
        addresses (left ++ entry :: right) :=
    ⟨addresses parts.foreground, by
      rw [← shape]
      simp [PriorityParts.all]⟩
  have sameHead :
      policy.next? (some entry.1) = some policy.mBackgroundPos ↔
        (addresses right).head? =
          (addresses parts.background).head? := by
    simp [ProcessPriorityPolicy.next?, Heap.deref?, listed.around.1,
      represents.background, first_eq_head?]
  rw [sameHead, head?_eq_iff_of_suffix listed.distinct isRest isBackground]
  simp [addresses]

/-- A protected process never has a fresh score above one. -/
theorem freshEntries_protected
    {parts : PriorityParts Entry}
    {entry fresh : Entry}
    (represents : Represents policy parts)
    (member : entry ∈ parts.all)
    (isProtected : IsProtected policy entry)
    (freshMember : fresh ∈ freshEntries parts)
    (samePid : entryPid fresh = entryPid entry) :
    fresh.2.oomScore ≤ 1 := by
  obtain ⟨left, right, shape⟩ := List.append_of_mem member
  obtain ⟨freshLeft, freshRight, levelcnt, scores⟩ :=
    rescore_at parts.background.length 0 .foregroundProcess left right
      entry
  rw [← shape] at scores
  have distinct : ((freshEntries parts).map entryPid).Nodup := by
    rw [freshEntries, rescore_pids]
    exact represents.listed.pids
  have isFresh :
      fresh.2.oomScore =
        (calculateScore entry.2 levelcnt
          (locationAt parts.background.length .foregroundProcess left
            right)).1 := by
    have scored :
        withScore
            (calculateScore entry.2 levelcnt
              (locationAt parts.background.length .foregroundProcess left
                right)).1
            entry ∈ freshEntries parts := by
      rw [freshEntries, scores]
      exact List.mem_append_right _ List.mem_cons_self
    rw [List.inj_on_of_nodup_map distinct freshMember scored samePid,
      withScore_oomScore]
  rw [isFresh]
  have headLocation :
      left = [] →
      locationAt parts.background.length .foregroundProcess left right =
        .foregroundProcess := by
    rintro rfl
    simp [locationAt]
  rcases isProtected with isHead | isHome | isPersistent
  · rw [headLocation ((represents.isHead_iff shape).mp isHead)]
    have isLow := calculateScore_foreground entry.2 levelcnt
    omega
  · have sameLength :=
      (represents.isBeforeBackground_iff shape).mp isHome
    by_cases noLeft : left = []
    · rw [headLocation noLeft]
      have isLow := calculateScore_foreground entry.2 levelcnt
      omega
    · have isHomeLocation :
          locationAt parts.background.length .foregroundProcess left
              right =
            .systemHomeProcess := by
        simp [locationAt, sameLength, noLeft]
      rw [isHomeLocation]
      exact calculateScore_home entry.2 levelcnt
  · have isLow :=
      calculateScore_persistent isPersistent levelcnt
        (locationAt parts.background.length .foregroundProcess left right)
    omega

/-! ## The manager's copy -/

/-- Every score the manager keeps is that of a listed process. -/
structure Synchronised
    (lmk : LowMemoryManager)
    (entries : List Entry) : Prop where
  keys : (lmk.mPidOomScore.map Prod.fst).Nodup
  scores :
    ∀ pid score,
      lmk.score? pid = some score →
      ∃ entry ∈ entries,
        entryPid entry = pid ∧ entry.2.oomScore = score

/-- A change of the list that only concerns the payloads. -/
structure Rescored
    (policy : ProcessPriorityPolicy)
    (entries : List Entry)
    (next : ProcessPriorityPolicy)
    (nextEntries : List Entry) : Prop where
  listed : Listed next nextEntries
  background : next.mBackgroundPos = policy.mBackgroundPos
  addresses : addresses nextEntries = addresses entries
  synchronised :
    Synchronised policy.mLmk entries →
    Synchronised next.mLmk nextEntries
  monitored :
    ∀ pid,
      (policy.mLmk.score? pid).isSome = true →
      (next.mLmk.score? pid).isSome = true
  thresholds :
    next.mLmk.mOomScoreThreshold = policy.mLmk.mOomScoreThreshold

namespace Rescored

variable {entries : List Entry}

/-- Nothing changes. -/
theorem refl
    (listed : Listed policy entries) :
    Rescored policy entries policy entries where
  listed := listed
  background := rfl
  addresses := rfl
  synchronised := id
  monitored _ := id
  thresholds := rfl

/-- One change after the other. -/
theorem trans
    {middle final : ProcessPriorityPolicy}
    {middleEntries finalEntries : List Entry}
    (first : Rescored policy entries middle middleEntries)
    (second : Rescored middle middleEntries final finalEntries) :
    Rescored policy entries final finalEntries where
  listed := second.listed
  background := second.background.trans first.background
  addresses := second.addresses.trans first.addresses
  synchronised := second.synchronised ∘ first.synchronised
  monitored pid := second.monitored pid ∘ first.monitored pid
  thresholds := second.thresholds.trans first.thresholds

end Rescored

namespace Listed

variable {left right : List Entry} {entry : Entry}

/-- A change of one payload. -/
theorem setInfo
    (listed : Listed policy (left ++ entry :: right))
    {info : ProcessInfo}
    (samePid : info.pid = entryPid entry) :
    Listed (policy.setInfo entry.1 info)
      (left ++ (entry.1, info) :: right) where
  head := by
    rw [ProcessPriorityPolicy.setInfo, listed.head]
    simp
  tail := by
    rw [ProcessPriorityPolicy.setInfo, listed.tail]
    simp
  linked := listed.linked.setData listed.distinct info
  distinct := by simpa using listed.distinct
  bounded address member :=
    listed.bounded address (by simpa using member)
  pids := by simpa [entryPid, samePid] using listed.pids

end Listed

namespace Synchronised

variable
  {lmk : LowMemoryManager}
  {left right : List Entry}
  {entry : Entry}

/-- A new score is written to the list and to the manager. -/
theorem setPidOomScore
    (synchronised : Synchronised lmk (left ++ entry :: right))
    (score : Int) :
    Synchronised (lmk.setPidOomScore (entryPid entry) score)
      (left ++ withScore score entry :: right) where
  keys := lmk.keys_setPidOomScore synchronised.keys _ _
  scores pid found isFound := by
    rw [LowMemoryManager.score?_setPidOomScore] at isFound
    by_cases isPid : pid = entryPid entry
    · rw [if_pos isPid, Option.some.injEq] at isFound
      exact ⟨withScore score entry, by simp, isPid.symm, isFound⟩
    · rw [if_neg isPid] at isFound
      obtain ⟨other, member, samePid, sameScore⟩ :=
        synchronised.scores pid found isFound
      rw [List.mem_append, List.mem_cons] at member
      rcases member with inLeft | rfl | inRight
      · exact ⟨other, by simp [inLeft], samePid, sameScore⟩
      · exact absurd samePid.symm isPid
      · exact ⟨other, by simp [inRight], samePid, sameScore⟩

end Synchronised

/-! ## The walk -/

/-- The score of one process. -/
private theorem Listed.rescoreOne
    {left right : List Entry}
    {entry : Entry}
    (listed : Listed policy (left ++ entry :: right))
    (score : Int) :
    Rescored policy (left ++ entry :: right)
      (if entry.2.oomScore ≠ score then
        { policy.setInfo entry.1 { entry.2 with oomScore := score } with
          mLmk := policy.mLmk.setPidOomScore entry.2.pid score }
      else
        policy)
      (left ++ withScore score entry :: right) := by
  by_cases same : entry.2.oomScore = score
  · have unchanged : withScore score entry = entry := by
      rw [← same]
      rfl
    rw [unchanged, if_neg (by simpa using same)]
    exact Rescored.refl listed
  · rw [if_pos same]
    have changed :
        Listed (policy.setInfo entry.1 { entry.2 with oomScore := score })
          (left ++ withScore score entry :: right) :=
      listed.setInfo rfl
    refine
      { listed := ?_
        background := rfl
        addresses := by simp
        synchronised := fun synchronised =>
          synchronised.setPidOomScore score
        monitored := ?_
        thresholds := rfl }
    · exact
        { head := changed.head
          tail := changed.tail
          linked := changed.linked
          distinct := changed.distinct
          bounded := changed.bounded
          pids := changed.pids }
    · intro pid monitored
      simp only [LowMemoryManager.score?_setPidOomScore]
      split
      · rfl
      · exact monitored

/-- The pointer test of the walk is the length test of `rescore`. -/
private theorem Listed.isBackground_iff
    {done rest : List Entry}
    {entry : Entry}
    {background : List Nat}
    (listed : Listed policy (done ++ entry :: rest))
    (isBackground : policy.mBackgroundPos = background.head?)
    (isSuffix : background <:+ addresses (done ++ entry :: rest)) :
    first rest none = policy.mBackgroundPos ↔
      rest.length = background.length := by
  have isRest :
      addresses rest <:+ addresses (done ++ entry :: rest) :=
    ⟨addresses done ++ [entry.1], by simp⟩
  rw [first_eq_head?, isBackground,
    head?_eq_iff_of_suffix listed.distinct isRest isSuffix]
  simp [addresses]

/-- The loop of `analyseProcessPriority` from some entry on. -/
private theorem analyseFrom_eq
    {done rest : List Entry}
    {background : List Nat}
    (fuel : Nat)
    (levelcnt : BitVec 32)
    (processStatus : ProcessStatus)
    (listed : Listed policy (done ++ rest))
    (isBackground : policy.mBackgroundPos = background.head?)
    (isSuffix : background <:+ addresses (done ++ rest))
    (enough : rest.length ≤ fuel) :
    ∃ next,
      analyseFrom fuel policy (first rest none) levelcnt processStatus =
          some next ∧
        Rescored policy (done ++ rest) next
          (done ++
            rescore background.length levelcnt processStatus rest) := by
  induction rest generalizing
      fuel policy done levelcnt processStatus with
  | nil =>
      refine ⟨policy, ?_, Rescored.refl listed⟩
      cases fuel <;> rfl
  | cons entry rest inductionHypothesis =>
      cases fuel with
      | zero =>
          simp at enough
      | succ fuel =>
          have found := listed.around.1
          have sameTest := listed.isBackground_iff isBackground isSuffix
          simp only [first_cons, analyseFrom, found, Option.bind_eq_bind,
            Option.bind_some, sameTest, rescore]
          generalize
            calculateScore entry.2 levelcnt
              (if rest.length = background.length ∧
                  processStatus ≠ .foregroundProcess then
                .systemHomeProcess
              else
                processStatus) = result
          have one := listed.rescoreOne result.1
          have shape :
              ∀ tail : List Entry,
                done ++ withScore result.1 entry :: tail =
                  (done ++ [withScore result.1 entry]) ++ tail := by
            simp
          rw [shape] at one
          obtain ⟨next, walked, others⟩ :=
            inductionHypothesis fuel result.2 .backgroundProcess one.listed
              (one.background.trans isBackground)
              (by rw [one.addresses]; exact isSuffix)
              (by simpa using enough)
          rw [shape]
          exact ⟨next, walked, one.trans others⟩

/-- A walk that finds every score as it is to be writes nothing. -/
private theorem analyseFrom_unchanged
    {done rest : List Entry}
    {background : List Nat}
    (fuel : Nat)
    (levelcnt : BitVec 32)
    (processStatus : ProcessStatus)
    (listed : Listed policy (done ++ rest))
    (isBackground : policy.mBackgroundPos = background.head?)
    (isSuffix : background <:+ addresses (done ++ rest))
    (enough : rest.length ≤ fuel)
    (unchanged :
      rescore background.length levelcnt processStatus rest = rest) :
    analyseFrom fuel policy (first rest none) levelcnt processStatus =
      some policy := by
  induction rest generalizing fuel done levelcnt processStatus with
  | nil =>
      cases fuel <;> rfl
  | cons entry rest inductionHypothesis =>
      cases fuel with
      | zero =>
          simp at enough
      | succ fuel =>
          have found := listed.around.1
          have sameTest := listed.isBackground_iff isBackground isSuffix
          rw [rescore, List.cons.injEq] at unchanged
          obtain ⟨sameScore, sameRest⟩ := unchanged
          simp only [first_cons, analyseFrom, found, Option.bind_eq_bind,
            Option.bind_some, sameTest]
          have kept := congrArg (fun entry : Entry => entry.2.oomScore) sameScore
          rw [withScore_oomScore] at kept
          rw [if_neg (not_not_intro kept.symm)]
          have shape : done ++ entry :: rest = (done ++ [entry]) ++ rest := by
            simp
          rw [shape] at listed isSuffix
          exact
            inductionHypothesis fuel _ _ listed isSuffix
              (by simpa using enough) sameRest

/-- `analyseProcessPriority` gives every process its fresh score. -/
theorem Represents.analyse
    {parts : PriorityParts Entry}
    (represents : Represents policy parts) :
    ∃ next,
      policy.analyseProcessPriority = some next ∧
        Represents next (freshParts parts) ∧
        Rescored policy parts.all next (freshEntries parts) := by
  have listed : Listed policy ([] ++ parts.all) :=
    represents.listed
  have isSuffix :
      addresses parts.background <:+ addresses ([] ++ parts.all) :=
    ⟨addresses parts.foreground, by simp [PriorityParts.all]⟩
  obtain ⟨next, walked, rescored⟩ :=
    analyseFrom_eq policy.allocated 0 .foregroundProcess listed
      (represents.background.trans (first_eq_head? _)) isSuffix
      represents.listed.length_le
  rw [← represents.listed.head] at walked
  have sameLength :
      (addresses parts.background).length = parts.background.length := by
    simp [addresses]
  rw [sameLength] at rescored
  refine ⟨next, walked, ⟨?_, ?_⟩, rescored⟩
  · rw [freshParts_all]
    exact rescored.listed
  · have sameAddresses :
        addresses (freshParts parts).background =
          addresses parts.background := by
      have walkedAddresses :
          addresses (freshEntries parts) = addresses parts.all :=
        rescore_addresses _ _ _ _
      simp only [freshParts, addresses, List.map_drop] at walkedAddresses ⊢
      rw [walkedAddresses, PriorityParts.all, List.map_append,
        List.drop_left' (by simp)]
    rw [rescored.background, represents.background, first_eq_head?,
      first_eq_head?, sameAddresses]

/-- Scores that are fresh are left, with any manager to tell of others. -/
theorem Represents.analyse_unchanged
    {parts : PriorityParts Entry}
    (represents : Represents policy parts)
    (unchanged : freshEntries parts = parts.all)
    (lmk : LowMemoryManager) :
    analyseProcessPriority { policy with mLmk := lmk } =
      some { policy with mLmk := lmk } := by
  have listed :
      Listed { policy with mLmk := lmk } ([] ++ parts.all) :=
    { head := represents.listed.head
      tail := represents.listed.tail
      linked := represents.listed.linked
      distinct := represents.listed.distinct
      bounded := represents.listed.bounded
      pids := represents.listed.pids }
  have isSuffix :
      addresses parts.background <:+ addresses ([] ++ parts.all) :=
    ⟨addresses parts.foreground, by simp [PriorityParts.all]⟩
  have sameLength :
      (addresses parts.background).length = parts.background.length := by
    simp [addresses]
  have walked :=
    analyseFrom_unchanged policy.allocated 0 .foregroundProcess listed
      (represents.background.trans (first_eq_head? _)) isSuffix
      represents.listed.length_le (by rw [sameLength]; exact unchanged)
  rw [← represents.listed.head] at walked
  exact walked

/-! ## Raising a process -/

/-- The payload of a process whose service has a priority. -/
def raised
    (pid : Nat)
    (priority : ProcessPriority)
    (entry : Entry) : Entry :=
  if hasPid pid entry ∧ entry.2.priorityLevel.rank < priority.rank then
    (entry.1, { entry.2 with priorityLevel := priority })
  else
    entry

@[simp] theorem raised_address
    (pid : Nat)
    (priority : ProcessPriority)
    (entry : Entry) :
    (raised pid priority entry).1 = entry.1 := by
  unfold raised
  split <;> rfl

@[simp] theorem raised_pid
    (pid : Nat)
    (priority : ProcessPriority)
    (entry : Entry) :
    entryPid (raised pid priority entry) = entryPid entry := by
  unfold raised
  split <;> rfl

@[simp] theorem raised_oomScore
    (pid : Nat)
    (priority : ProcessPriority)
    (entry : Entry) :
    (raised pid priority entry).2.oomScore = entry.2.oomScore := by
  unfold raised
  split <;> rfl

/-- Only the process itself is raised. -/
private theorem map_raised
    {entries : List Entry}
    {pid : Nat}
    {priority : ProcessPriority}
    (notRaised :
      ∀ entry ∈ entries,
        hasPid pid entry = true →
        ¬ entry.2.priorityLevel.rank < priority.rank) :
    entries.map (raised pid priority) = entries := by
  refine (List.map_congr_left ?_).trans (List.map_id entries)
  intro entry member
  refine if_neg ?_
  rintro ⟨isPid, lower⟩
  exact notRaised entry member isPid lower

/-- `raisePriorityLevel` changes nothing but the level of the process. -/
theorem Represents.raisePriorityLevel
    {parts : PriorityParts Entry}
    (represents : Represents policy parts)
    (pid : Nat)
    (priority : ProcessPriority) :
    ∃ next,
      policy.raisePriorityLevel pid priority = some next ∧
        Represents next (parts.map (raised pid priority)) ∧
        next.mLmk = policy.mLmk := by
  have listed := represents.listed
  have sameBackground :
      ∀ entries : List Entry,
        first (entries.map (raised pid priority)) none =
          first entries none := by
    intro entries
    cases entries <;> simp
  have unchanged :
      parts.all.map (raised pid priority) = parts.all →
      Represents policy (parts.map (raised pid priority)) := by
    intro same
    refine ⟨?_, ?_⟩
    · rw [PriorityParts.map_all, same]
      exact listed
    · rw [represents.background]
      exact (sameBackground parts.background).symm
  rcases Listed.absent_or_present parts.all pid with
    absent | ⟨left, entry, right, shape, isEntry⟩
  · refine ⟨policy, ?_, unchanged (map_raised ?_), rfl⟩
    · simp [ProcessPriorityPolicy.raisePriorityLevel,
        listed.get_absent absent]
    · intro entry member isPid
      simp [absent entry member] at isPid
  · rw [shape] at listed
    obtain ⟨notLeft, notRight⟩ := listed.split_pids isEntry
    have found := listed.around.1
    by_cases lower : entry.2.priorityLevel.rank < priority.rank
    · refine
        ⟨policy.setInfo entry.1
            { entry.2 with priorityLevel := priority }, ?_, ⟨?_, ?_⟩,
          rfl⟩
      · simp [ProcessPriorityPolicy.raisePriorityLevel,
          listed.get_present isEntry, found, lower]
      · have others :
            ∀ {others : List Entry},
              (∀ other ∈ others, hasPid pid other = false) →
              others.map (raised pid priority) = others := by
          intro others notPid
          refine map_raised ?_
          intro other member isPid
          simp [notPid other member] at isPid
        have itself :
            raised pid priority entry =
              (entry.1, { entry.2 with priorityLevel := priority }) :=
          if_pos ⟨isEntry, lower⟩
        rw [PriorityParts.map_all, shape, List.map_append,
          List.map_cons, others notLeft, others notRight, itself]
        exact listed.setInfo rfl
      · exact represents.background.trans
          (sameBackground parts.background).symm
    · refine ⟨policy, ?_, unchanged (map_raised ?_), rfl⟩
      · simp [ProcessPriorityPolicy.raisePriorityLevel,
          listed.get_present isEntry, found, lower]
      · intro other member isPid
        rw [shape, List.mem_append, List.mem_cons] at member
        rcases member with inLeft | rfl | inRight
        · simp [notLeft other inLeft] at isPid
        · exact lower
        · simp [notRight other inRight] at isPid

end ActivityManager.ProcessPriorityPolicy
