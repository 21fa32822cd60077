import ActivityManager.ProcessManagement
import ActivityManager.ProcessPriorityScores
import ActivityManager.ProcessPrioritySimulation

/-!
# The foreground counter keeps the priority list safe

`intoBackground` goes through a null pointer when the foreground is empty.
`AppRecord::setForeground` only calls it when its counter falls from one to
zero, so the application was pushed to the foreground before; and a foreground
that is not empty stays so as long as the application is listed.
-/

namespace ActivityManager.ManagedProcesses

open DoublyLinked ProcessPriorityPolicy StepSystem

/-- The list is read as two parts of pids. -/
def Reads
    (policy : ProcessPriorityPolicy)
    (parts : PriorityParts Nat) : Prop :=
  ∃ entries, Represents policy entries ∧ entries.map entryPid = parts

/-- `setForeground` is called for listed applications, and alone moves them. -/
def Counting
    (processes : ManagedProcesses) : Action → Prop
  | .setForeground pid _ =>
      (processes.mPriorityPolicy.get pid).join.isSome = true ∧
        (processes.mAppInfo.findAppInfo pid).isSome = true
  | .pushForeground _ =>
      False
  | .intoBackground _ =>
      False
  | _ =>
      True

instance decidableCounting :
    ∀ processes action, Decidable (Counting processes action)
  | _, .setForeground _ _ =>
      inferInstanceAs (Decidable (_ ∧ _))
  | _, .pushForeground _ =>
      isFalse id
  | _, .intoBackground _ =>
      isFalse id
  | _, .attach _ _ _ =>
      isTrue trivial
  | _, .add _ _ _ =>
      isTrue trivial
  | _, .exit _ =>
      isTrue trivial
  | _, .raise _ _ =>
      isTrue trivial
  | _, .analyse =>
      isTrue trivial
  | _, .stop _ =>
      isTrue trivial
  | _, .markStopped _ =>
      isTrue trivial
  | _, .lmk _ _ =>
      isTrue trivial

/-- What a call of `setForeground` is to do to the two parts. -/
def foregroundChange
    (processes : ManagedProcesses)
    (pid : Nat)
    (isForegroundActivity : Bool)
    (parts : PriorityParts Nat) : PriorityParts Nat :=
  match processes.mAppInfo.findAppInfo pid with
  | some app =>
      if app.mStatus = .appStopped then
        parts
      else
        if isForegroundActivity ∧ app.mForegroundActivityCnt = 0 then
          parts.pushForeground (· == pid)
        else if
            ¬ isForegroundActivity ∧ app.mForegroundActivityCnt = 1 then
          parts.intoBackground (· == pid)
        else
          parts
  | none =>
      parts

/-- What an action is to do to the two parts. -/
def onParts
    (processes : ManagedProcesses)
    (parts : PriorityParts Nat) : Action → PriorityParts Nat
  | .add pid isForeground _ =>
      if pid ∈ parts.all then parts else parts.add pid isForeground
  | .exit pid =>
      parts.remove (· == pid)
  | .setForeground pid isForegroundActivity =>
      processes.foregroundChange pid isForegroundActivity parts
  | .pushForeground pid =>
      parts.pushForeground (· == pid)
  | .intoBackground pid =>
      parts.intoBackground (· == pid)
  | _ =>
      parts

/--
An application with foreground activities is listed, and there is a
foreground.
-/
structure Counted
    (processes : ManagedProcesses)
    (parts : PriorityParts Nat) : Prop where
  reads : Reads processes.mPriorityPolicy parts
  counted :
    ∀ pid app,
      processes.mAppInfo.findAppInfo pid = some app →
      1 ≤ app.mForegroundActivityCnt →
      pid ∈ parts.all ∧ parts.foreground ≠ []

/-! ## The calls, on pids -/

section Calls

variable {policy : ProcessPriorityPolicy} {parts : PriorityParts Nat}

private theorem hasPid_eq (pid : Nat) :
    hasPid pid = (· == pid) ∘ entryPid := by
  rfl

/-- Pids and entries are listed alike. -/
private theorem absent_iff
    {entries : PriorityParts Entry}
    {pid : Nat} :
    pid ∉ (entries.map entryPid).all ↔
      ∀ other ∈ entries.all, hasPid pid other = false := by
  simp [hasPid]

theorem Reads.add
    (reads : Reads policy parts)
    (pid : Nat)
    (isForeground : Bool)
    (level : ProcessPriority) :
    ∃ next,
      policy.add pid isForeground level = some next ∧
        Reads next
          (if pid ∈ parts.all then parts
          else parts.add pid isForeground) := by
  obtain ⟨entries, represents, rfl⟩ := reads
  by_cases listed : pid ∈ (entries.map entryPid).all
  · rw [if_pos listed]
    have present : ∃ entry ∈ entries.all, hasPid pid entry = true := by
      simpa [hasPid] using listed
    exact ⟨policy, add_listed represents.listed present isForeground level,
      entries, represents, rfl⟩
  · rw [if_neg listed]
    obtain ⟨next, added, nextRepresents, _⟩ :=
      represents.add (absent_iff.mp listed) isForeground level
    exact ⟨next, added, _, nextRepresents,
      PriorityParts.map_add _ _ _ _⟩

theorem Reads.remove
    (reads : Reads policy parts)
    (pid : Nat) :
    ∃ next,
      policy.remove pid = some next ∧
        Reads next (parts.remove (· == pid)) := by
  obtain ⟨entries, represents, rfl⟩ := reads
  obtain ⟨next, removed, nextRepresents, _⟩ := represents.remove pid
  refine ⟨next, removed, _, nextRepresents, ?_⟩
  rw [hasPid_eq, PriorityParts.map_remove]

theorem Reads.pushForeground
    (reads : Reads policy parts)
    (pid : Nat) :
    ∃ next,
      policy.pushForeground pid = some next ∧
        Reads next (parts.pushForeground (· == pid)) := by
  obtain ⟨entries, represents, rfl⟩ := reads
  obtain ⟨next, pushed, nextRepresents, _⟩ :=
    represents.pushForeground pid
  refine ⟨next, pushed, _, nextRepresents, ?_⟩
  rw [hasPid_eq, PriorityParts.map_pushForeground]

/-- With a foreground, `intoBackground` is safe. -/
theorem Reads.intoBackground
    (reads : Reads policy parts)
    (foreground : parts.foreground ≠ [])
    (pid : Nat) :
    ∃ next,
      policy.intoBackground pid = some next ∧
        Reads next (parts.intoBackground (· == pid)) := by
  obtain ⟨entries, represents, rfl⟩ := reads
  rcases represents.intoBackground pid with
    ⟨next, moved, nextRepresents, _⟩ | ⟨noForeground, _⟩
  · refine ⟨next, moved, _, nextRepresents, ?_⟩
    rw [hasPid_eq, PriorityParts.map_intoBackground]
  · simp [PriorityParts.map, noForeground] at foreground

theorem Reads.analyse
    (reads : Reads policy parts) :
    ∃ next,
      policy.analyseProcessPriority = some next ∧
        Reads next parts := by
  obtain ⟨entries, represents, rfl⟩ := reads
  obtain ⟨next, walked, nextRepresents, _⟩ := represents.analyse
  exact ⟨next, walked, _, nextRepresents, freshParts_pids entries⟩

theorem Reads.raise
    (reads : Reads policy parts)
    (pid : Nat)
    (priority : ProcessPriority) :
    ∃ next,
      policy.raisePriorityLevel pid priority = some next ∧
        Reads next parts := by
  obtain ⟨entries, represents, rfl⟩ := reads
  obtain ⟨next, raised, nextRepresents, _⟩ :=
    represents.raisePriorityLevel pid priority
  refine ⟨next, raised, _, nextRepresents, ?_⟩
  simp [PriorityParts.map, Function.comp_def]

theorem Reads.withLmk
    (reads : Reads policy parts)
    (lmk : LowMemoryManager) :
    Reads { policy with mLmk := lmk } parts := by
  obtain ⟨entries, represents, rfl⟩ := reads
  exact ⟨entries, represents.withLmk lmk, rfl⟩

end Calls

/-! ## One step -/

namespace Counted

variable {processes : ManagedProcesses} {parts : PriorityParts Nat}

/-- A step that raises no counter and moves no process. -/
private theorem of_records
    {next : ManagedProcesses}
    (counted : Counted processes parts)
    (reads : Reads next.mPriorityPolicy parts)
    (records :
      ∀ pid app,
        next.mAppInfo.findAppInfo pid = some app →
        1 ≤ app.mForegroundActivityCnt →
        ∃ earlier,
          processes.mAppInfo.findAppInfo pid = some earlier ∧
            1 ≤ earlier.mForegroundActivityCnt) :
    Counted next parts where
  reads := reads
  counted pid app found positive := by
    obtain ⟨earlier, earlierFound, earlierPositive⟩ :=
      records pid app found positive
    exact counted.counted pid earlier earlierFound earlierPositive

/-- The records that `modify` leaves when it keeps the counter. -/
private theorem modify_counts
    {apps : AppInfoList}
    {pid : Nat}
    {change : AppRecord → AppRecord}
    (keepsPid : ∀ app, (change app).mPid = app.mPid)
    (keepsCount :
      ∀ app,
        (change app).mForegroundActivityCnt =
          app.mForegroundActivityCnt)
    {other : Nat}
    {app : AppRecord}
    (found : (apps.modify pid change keepsPid).findAppInfo other = some app)
    (positive : 1 ≤ app.mForegroundActivityCnt) :
    ∃ earlier,
      apps.findAppInfo other = some earlier ∧
        1 ≤ earlier.mForegroundActivityCnt := by
  rw [AppInfoList.findAppInfo_modify] at found
  split at found
  · rename_i isPid
    obtain ⟨earlier, earlierFound, rfl⟩ := Option.map_eq_some_iff.mp found
    rw [keepsCount] at positive
    exact ⟨earlier, isPid ▸ earlierFound, positive⟩
  · exact ⟨app, found, positive⟩

private theorem attach
    (counted : Counted processes parts)
    (packageName : String)
    (systemui : Bool)
    (pid : Nat) :
    Counted (processes.attachApplication packageName systemui pid)
      parts := by
  refine counted.of_records counted.reads ?_
  intro other app found positive
  by_cases absent :
      processes.mAppInfo.findAppInfo
        (AppRecord.attached packageName systemui pid).mPid = none
  · rw [attachApplication, AppInfoList.findAppInfo_addAppInfo absent]
      at found
    split at found
    · cases found
      simp [AppRecord.attached] at positive
    · exact ⟨app, found, positive⟩
  · rw [attachApplication, AppInfoList.addAppInfo, dif_neg absent]
      at found
    exact ⟨app, found, positive⟩

private theorem stop
    (counted : Counted processes parts)
    (pid : Nat) :
    Counted (processes.stopApplication pid).1 parts := by
  refine counted.of_records ?_ ?_
  · rw [stopApplication_mPriorityPolicy]
    exact counted.reads
  · intro other app found positive
    unfold stopApplication at found
    split at found
    · refine modify_counts (fun app => app.stopApplication_mPid) ?_ found
        positive
      intro app
      unfold AppRecord.stopApplication
      split <;> rfl
    · exact ⟨app, found, positive⟩

private theorem kill
    (counted : Counted processes parts)
    (pids : List Nat) :
    Counted (killAll pids processes).1 parts := by
  induction pids generalizing processes with
  | nil =>
      exact counted
  | cons pid rest inductionHypothesis =>
      refine inductionHypothesis ?_
      exact (counted.stop pid).of_records
        ((counted.stop pid).reads.withLmk _)
        (fun _ app found positive => ⟨app, found, positive⟩)

private theorem lmk
    (counted : Counted processes parts)
    (freememory maxblock : Int) :
    ∃ next,
      step? processes (.lmk freememory maxblock) = some next ∧
        Counted next parts := by
  simp only [step?, executeLMK]
  cases processes.mPriorityPolicy.mLmk.matchingRow? freememory maxblock with
  | none =>
      exact ⟨processes, rfl, counted⟩
  | some row =>
      obtain ⟨policy, walked, reads⟩ := counted.reads.analyse
      simp only [walked, Option.bind_eq_bind, Option.bind_some,
        Option.map_some]
      refine ⟨_, rfl, kill ?_ _⟩
      exact counted.of_records reads
        (fun _ app found positive => ⟨app, found, positive⟩)

private theorem exit
    (counted : Counted processes parts)
    (pid : Nat) :
    ∃ next,
      processes.appExit pid = some next ∧
        Counted next (parts.remove (· == pid)) := by
  obtain ⟨policy, removed, reads⟩ := counted.reads.remove pid
  refine
    ⟨{ mAppInfo := processes.mAppInfo.deleteAppInfo pid
       mPriorityPolicy := policy },
      by simp [appExit, removed], reads, ?_⟩
  intro other app found positive
  rw [AppInfoList.findAppInfo_deleteAppInfo] at found
  split at found
  · cases found
  · rename_i notPid
    have differs : (other == pid) = false := by
      simpa using notPid
    obtain ⟨listed, foreground⟩ :=
      counted.counted other app found positive
    exact ⟨PriorityParts.mem_remove listed differs,
      PriorityParts.remove_foreground_ne_nil foreground listed differs⟩

private theorem add
    (counted : Counted processes parts)
    (pid : Nat)
    (isForeground : Bool)
    (level : ProcessPriority) :
    ∃ next,
      step? processes (.add pid isForeground level) = some next ∧
        Counted next
          (if pid ∈ parts.all then parts
          else parts.add pid isForeground) := by
  obtain ⟨policy, added, reads⟩ :=
    counted.reads.add pid isForeground level
  refine ⟨{ processes with mPriorityPolicy := policy }, by
    simp [step?, onPolicy, added], reads, ?_⟩
  intro other app found positive
  obtain ⟨listed, foreground⟩ :=
    counted.counted other app found positive
  split
  · exact ⟨listed, foreground⟩
  · refine ⟨PriorityParts.mem_add listed isForeground, ?_⟩
    cases isForeground <;> simp [PriorityParts.add, foreground]

/-- A recorded change of one counter. -/
private theorem recount
    {pid : Nat}
    {app : AppRecord}
    {policy : ProcessPriorityPolicy}
    {nextParts : PriorityParts Nat}
    {change : AppRecord → AppRecord}
    {keepsPid : ∀ app, (change app).mPid = app.mPid}
    (counted : Counted processes parts)
    (reads : Reads policy nextParts)
    (found : processes.mAppInfo.findAppInfo pid = some app)
    (listed : pid ∈ nextParts.all)
    (keeps :
      ∀ other ∈ parts.all,
        other ∈ nextParts.all)
    (keepsForeground :
      parts.foreground ≠ [] →
      nextParts.foreground ≠ [])
    (foreground :
      1 ≤ (change app).mForegroundActivityCnt →
      nextParts.foreground ≠ []) :
    Counted
      { mAppInfo := processes.mAppInfo.modify pid change keepsPid
        mPriorityPolicy := policy }
      nextParts where
  reads := reads
  counted other changed isChanged positive := by
    rw [AppInfoList.findAppInfo_modify] at isChanged
    split at isChanged
    · rename_i isPid
      rw [found, Option.map_some, Option.some.injEq] at isChanged
      subst isChanged
      exact ⟨isPid ▸ listed, foreground positive⟩
    · obtain ⟨otherListed, otherForeground⟩ :=
        counted.counted other changed isChanged positive
      exact ⟨keeps other otherListed, keepsForeground otherForeground⟩

/-- `setForeground` on a listed application. -/
private theorem setForeground
    {pid : Nat}
    {app : AppRecord}
    (counted : Counted processes parts)
    (listed : pid ∈ parts.all)
    (found : processes.mAppInfo.findAppInfo pid = some app)
    (isForegroundActivity : Bool) :
    ∃ next,
      processes.setForeground pid isForegroundActivity = some next ∧
        Counted next
          (processes.foregroundChange pid isForegroundActivity parts) := by
  have isPid : app.mPid = pid :=
    (AppInfoList.findAppInfo_eq_some.mp found).2
  have onlyPid :
      ∀ other : Nat,
        ∀ entry ∈ parts.all,
          (entry == pid) = true →
          (other == pid) = true →
          entry = other := by
    intro other entry _ isEntry isOther
    rw [beq_iff_eq] at isEntry isOther
    rw [isEntry, isOther]
  have atLeastOne :
      1 ≤ app.mForegroundActivityCnt →
      parts.foreground ≠ [] :=
    fun positive => (counted.counted pid app found positive).2
  simp only [ManagedProcesses.setForeground, foregroundChange, found,
    Option.bind_eq_bind, Option.bind_some]
  by_cases stopped : app.mStatus = .appStopped
  · simp only [AppRecord.setForeground_stopped stopped, stopped, if_true,
      deliver, Option.bind_some]
    refine ⟨_, rfl, counted.recount counted.reads found listed
      (fun _ member => member) id ?_⟩
    rw [AppRecord.setForeground_stopped stopped]
    exact atLeastOne
  · rw [if_neg stopped]
    cases isForegroundActivity with
    | true =>
        by_cases isZero : app.mForegroundActivityCnt = 0
        · -- the change from zero to one pushes the process
          obtain ⟨policy, pushed, reads⟩ :=
            counted.reads.pushForeground pid
          simp only [AppRecord.setForeground_first stopped isZero, isPid,
            deliver, pushed, isZero, and_self, if_true,
            Option.bind_eq_bind, Option.bind_some]
          have nowForeground :
              (parts.pushForeground (· == pid)).foreground ≠ [] :=
            PriorityParts.pushForeground_foreground_ne_nil
              ⟨pid, listed, by simp⟩
          exact ⟨_, rfl, counted.recount reads found
            (PriorityParts.mem_pushForeground listed (onlyPid pid))
            (fun other member =>
              PriorityParts.mem_pushForeground member (onlyPid other))
            (fun _ => nowForeground) (fun _ => nowForeground)⟩
        · simp only [AppRecord.setForeground_more stopped isZero, deliver,
            isZero, and_false, if_false, not_true_eq_false, false_and,
            Option.bind_some]
          refine ⟨_, rfl, counted.recount counted.reads found listed
            (fun _ member => member) id ?_⟩
          rw [AppRecord.setForeground_more stopped isZero]
          intro positive
          dsimp only at positive
          exact atLeastOne (by omega)
    | false =>
        by_cases isOne : app.mForegroundActivityCnt = 1
        · -- the change from one to zero sends it to the background
          have foreground := atLeastOne (by omega)
          obtain ⟨policy, moved, reads⟩ :=
            counted.reads.intoBackground foreground pid
          simp only [AppRecord.setForeground_last stopped isOne, isPid,
            deliver, moved, isOne, Bool.false_eq_true, false_and,
            not_false_eq_true, and_self, if_true, if_false,
            Option.bind_eq_bind, Option.bind_some]
          have stillForeground :
              (parts.intoBackground (· == pid)).foreground ≠ [] :=
            PriorityParts.intoBackground_foreground_ne_nil foreground
          exact ⟨_, rfl, counted.recount reads found
            (PriorityParts.mem_intoBackground listed (onlyPid pid))
            (fun other member =>
              PriorityParts.mem_intoBackground member (onlyPid other))
            (fun _ => stillForeground) (fun _ => stillForeground)⟩
        · simp only [AppRecord.setForeground_fewer stopped isOne, deliver,
            isOne, Bool.false_eq_true, false_and, and_false, if_false,
            Option.bind_some]
          refine ⟨_, rfl, counted.recount counted.reads found listed
            (fun _ member => member) id ?_⟩
          rw [AppRecord.setForeground_fewer stopped isOne]
          intro positive
          dsimp only at positive
          exact atLeastOne (by omega)

/-- Every action succeeds and does to the parts what it is to do. -/
theorem step
    {action : Action}
    (counted : Counted processes parts)
    (permitted : Counting processes action) :
    ∃ next,
      step? processes action = some next ∧
        Counted next (processes.onParts parts action) := by
  cases action with
  | attach packageName systemui pid =>
      exact ⟨_, rfl, counted.attach packageName systemui pid⟩
  | add pid isForeground level =>
      exact counted.add pid isForeground level
  | exit pid =>
      exact counted.exit pid
  | setForeground pid isForegroundActivity =>
      obtain ⟨isListed, isKnown⟩ := permitted
      obtain ⟨app, found⟩ := Option.isSome_iff_exists.mp isKnown
      obtain ⟨entries, represents, rfl⟩ := counted.reads
      have listed : pid ∈ (entries.map entryPid).all := by
        by_contra absent
        rw [represents.listed.get_absent (absent_iff.mp absent)] at isListed
        simp at isListed
      exact counted.setForeground listed found isForegroundActivity
  | pushForeground pid =>
      exact permitted.elim
  | intoBackground pid =>
      exact permitted.elim
  | raise pid priority =>
      obtain ⟨policy, raised, reads⟩ := counted.reads.raise pid priority
      refine ⟨{ processes with mPriorityPolicy := policy }, by
        simp [step?, onPolicy, raised], ?_⟩
      exact counted.of_records reads
        (fun _ app found positive => ⟨app, found, positive⟩)
  | analyse =>
      obtain ⟨policy, walked, reads⟩ := counted.reads.analyse
      refine ⟨{ processes with mPriorityPolicy := policy }, by
        simp [step?, onPolicy, walked], ?_⟩
      exact counted.of_records reads
        (fun _ app found positive => ⟨app, found, positive⟩)
  | stop pid =>
      exact ⟨_, rfl, counted.stop pid⟩
  | markStopped pid =>
      refine ⟨_, rfl, counted.of_records counted.reads ?_⟩
      intro other app found positive
      refine modify_counts ?_ ?_ found positive
      · exact fun _ => rfl
      · exact fun _ => rfl
  | lmk freememory maxblock =>
      exact counted.lmk freememory maxblock

end Counted

/-! ## Every run -/

/-- At the start nothing is listed. -/
theorem start_counted
    (lines : List LmkRow)
    (arena : Int) :
    Counted (start lines arena) PriorityParts.empty where
  reads := ⟨_, Represents.empty _, rfl⟩
  counted pid app found := by
    simp [start, AppInfoList.empty, AppInfoList.findAppInfo] at found

/-- The linked structure, as it is seen through the pointers. -/
structure WellLinked
    (policy : ProcessPriorityPolicy)
    (entries : List Entry) : Prop where
  emptyHead : policy.mHead = none ↔ entries = []
  emptyTail : policy.mTail = none ↔ entries = []
  head :
    ∀ address,
      policy.mHead = some address →
      policy.last? (some address) = some none
  tail :
    ∀ address,
      policy.mTail = some address →
      policy.next? (some address) = some none
  lastOfNext :
    ∀ address ∈ addresses entries,
      ∀ other,
        policy.next? (some address) = some (some other) →
        other ∈ addresses entries ∧
          policy.last? (some other) = some (some address)
  nextOfLast :
    ∀ address ∈ addresses entries,
      ∀ other,
        policy.last? (some address) = some (some other) →
        other ∈ addresses entries ∧
          policy.next? (some other) = some (some address)
  background :
    ∀ address,
      policy.mBackgroundPos = some address →
      address ∈ addresses entries
  pids : (entries.map entryPid).Nodup

/-- A list that represents two parts is well linked. -/
theorem wellLinked_of_represents
    {policy : ProcessPriorityPolicy}
    {parts : PriorityParts Entry}
    (represents : Represents policy parts) :
    WellLinked policy parts.all where
  emptyHead := by
    rw [represents.listed.head, first_eq_none]
  emptyTail := by
    rw [represents.listed.tail, final_eq_none]
  head address isHead := by
    have linked := represents.listed.linked
    rw [represents.listed.head] at isHead
    cases shape : parts.all with
    | nil =>
        simp [shape] at isHead
    | cons entry rest =>
        rw [shape] at linked isHead
        cases isHead
        simp [ProcessPriorityPolicy.last?, Heap.deref?, linked.1]
  tail address isTail := by
    have linked := represents.listed.linked
    rw [represents.listed.tail] at isTail
    rcases List.eq_nil_or_concat parts.all with
      shape | ⟨front, entry, shape⟩
    · simp [shape] at isTail
    · rw [shape, List.concat_eq_append] at linked isTail
      simp only [final_append, final_cons, final_nil, Option.some.injEq]
        at isTail
      subst isTail
      simp [ProcessPriorityPolicy.next?, Heap.deref?, linked.node_at]
  lastOfNext address member other isNext := by
    obtain ⟨node, found, next⟩ := Option.map_eq_some_iff.mp isNext
    exact represents.listed.linked.last_of_next member found next
  nextOfLast address member other isLast := by
    obtain ⟨node, found, last⟩ := Option.map_eq_some_iff.mp isLast
    exact represents.listed.linked.next_of_last member found last
  background address isBackground := by
    rw [represents.background] at isBackground
    rw [PriorityParts.all, addresses_append, List.mem_append]
    exact Or.inr (mem_of_first isBackground)
  pids := represents.listed.pids

/-- The list is two parts, and every call does to them what it is to do. -/
structure RefinesParts (processes : ManagedProcesses) : Prop where
  reads :
    ∃ entries : PriorityParts Entry,
      WellLinked processes.mPriorityPolicy entries.all ∧
        Represents processes.mPriorityPolicy entries
  simulates :
    ∀ parts,
      Reads processes.mPriorityPolicy parts →
      ∀ action,
        Counting processes action →
        ∃ next,
          step? processes action = some next ∧
            Reads next.mPriorityPolicy (processes.onParts parts action)

/-- The reading of a list is unique. -/
private theorem Reads.unique
    {policy : ProcessPriorityPolicy}
    {parts others : PriorityParts Nat}
    (reads : Reads policy parts)
    (also : Reads policy others) :
    parts = others := by
  obtain ⟨entries, represents, rfl⟩ := reads
  obtain ⟨otherEntries, otherRepresents, rfl⟩ := also
  rw [represents.unique otherRepresents]

/--
In every run in which `setForeground` is called for listed applications only,
no call of the priority list goes through a null pointer, its list is well
linked, and each call is the operation on the two parts.
-/
theorem refinesParts_of_reachable
    (lines : List LmkRow)
    (arena : Int)
    (processes : ManagedProcesses)
    (reachable :
      Reachable step? Counting (start lines arena) processes) :
    RefinesParts processes := by
  have counted : ∃ parts, Counted processes parts := by
    refine reachable.invariant ?_ ?_
    · exact ⟨_, start_counted lines arena⟩
    · rintro state action next ⟨parts, counted⟩ permitted stepped
      obtain ⟨reached, reachedBy, nextCounted⟩ := counted.step permitted
      rw [stepped, Option.some.injEq] at reachedBy
      subst reachedBy
      exact ⟨_, nextCounted⟩
  obtain ⟨parts, counted⟩ := counted
  constructor
  · obtain ⟨entries, represents, _⟩ := counted.reads
    exact ⟨entries, wellLinked_of_represents represents, represents⟩
  · intro others reads action permitted
    have same : others = parts :=
      Reads.unique reads counted.reads
    subst same
    obtain ⟨next, stepped, nextCounted⟩ := counted.step permitted
    exact ⟨next, stepped, nextCounted.reads⟩

/-- Three processes; the first comes to the foreground and leaves it. -/
def switchingRun : Option ManagedProcesses :=
  run? step? (start [] 0)
    [.attach "launcher" false 11, .add 11 false .high,
      .attach "clock" false 12, .add 12 false .middle,
      .attach "music" false 13, .add 13 true .low,
      .setForeground 11 true, .setForeground 12 true,
      .setForeground 11 false, .setForeground 12 false, .exit 12]

/-- The priority list after that run is in two parts. -/
theorem switchingRun_refinesParts :
    RefinesParts (switchingRun.get rfl) := by
  have accepted : switchingRun = some (switchingRun.get rfl) :=
    (Option.some_get _).symm
  exact refinesParts_of_reachable [] 0 _
    (Reachable.of_run? (by decide) accepted)

end ActivityManager.ManagedProcesses
