import ActivityManager.ProcessManagement
import ActivityManager.ProcessPriorityScores
import ActivityManager.ProcessPrioritySimulation

/-!
# The low-memory kill

A score lives in the node of its process and in the map of the low memory
manager.  The map never knows a score that the list does not have, and it knows
every running process of the list; so the kill, which goes by the map, stops
the running applications that the list would choose.
-/

namespace ActivityManager.ManagedProcesses

open ProcessPriorityPolicy StepSystem

/-- A process is only listed while its application has a record. -/
def Recording
    (processes : ManagedProcesses) : Action → Prop
  | .add pid _ _ =>
      (processes.mAppInfo.findAppInfo pid).isSome = true
  | _ =>
      True

instance decidableRecording :
    ∀ processes action, Decidable (Recording processes action)
  | _, .add _ _ _ =>
      inferInstanceAs (Decidable (_ = _))
  | _, .attach _ _ _ =>
      isTrue trivial
  | _, .exit _ =>
      isTrue trivial
  | _, .setForeground _ _ =>
      isTrue trivial
  | _, .pushForeground _ =>
      isTrue trivial
  | _, .intoBackground _ =>
      isTrue trivial
  | _, .raise _ _ =>
      isTrue trivial
  | _, .analyse =>
      isTrue trivial
  | _, .stop _ =>
      isTrue trivial
  | _, .markStopped _ =>
      isTrue trivial
  | _, .lmk _ _ =>
      isTrue trivial

/-- The map and the list agree, and no running process is missing. -/
structure Monitored
    (rows : List LmkRow)
    (processes : ManagedProcesses)
    (parts : PriorityParts Entry) : Prop where
  represents : Represents processes.mPriorityPolicy parts
  synchronised :
    Synchronised processes.mPriorityPolicy.mLmk parts.all
  recorded :
    ∀ pid ∈ parts.all.map entryPid,
      (processes.mAppInfo.findAppInfo pid).isSome = true
  running :
    ∀ pid ∈ parts.all.map entryPid,
      ∀ app,
        processes.mAppInfo.findAppInfo pid = some app →
        app.mStatus = .appRunning →
        (processes.mPriorityPolicy.mLmk.score? pid).isSome = true
  configured :
    processes.mPriorityPolicy.mLmk.mOomScoreThreshold = rows

namespace Monitored

variable
  {rows : List LmkRow}
  {processes : ManagedProcesses}
  {parts : PriorityParts Entry}

/-! ## Steps of the records -/

/-- The records change, but none starts to run. -/
private theorem of_records
    {apps : AppInfoList}
    (monitored : Monitored rows processes parts)
    (recorded :
      ∀ pid,
        (processes.mAppInfo.findAppInfo pid).isSome = true →
        (apps.findAppInfo pid).isSome = true)
    (running :
      ∀ pid ∈ parts.all.map entryPid,
        ∀ app,
          apps.findAppInfo pid = some app →
          app.mStatus = .appRunning →
          ∃ earlier,
            processes.mAppInfo.findAppInfo pid = some earlier ∧
              earlier.mStatus = .appRunning) :
    Monitored rows { processes with mAppInfo := apps } parts where
  represents := monitored.represents
  synchronised := monitored.synchronised
  recorded pid member := recorded pid (monitored.recorded pid member)
  running pid member app found isRunning := by
    obtain ⟨earlier, earlierFound, wasRunning⟩ :=
      running pid member app found isRunning
    exact monitored.running pid member earlier earlierFound wasRunning
  configured := monitored.configured

/-- A change of one record after which it runs only if it did before. -/
private theorem modify
    {pid : Nat}
    {change : AppRecord → AppRecord}
    {keepsPid : ∀ app, (change app).mPid = app.mPid}
    (monitored : Monitored rows processes parts)
    (startsNone :
      ∀ app,
        (change app).mStatus = .appRunning →
        app.mStatus = .appRunning) :
    Monitored rows
      { processes with
        mAppInfo := processes.mAppInfo.modify pid change keepsPid }
      parts := by
  refine monitored.of_records ?_ ?_
  · intro other isKnown
    rw [AppInfoList.findAppInfo_modify]
    split
    · rename_i isPid
      simpa [← isPid] using isKnown
    · exact isKnown
  · intro other _ app found isRunning
    rw [AppInfoList.findAppInfo_modify] at found
    split at found
    · rename_i isPid
      obtain ⟨earlier, earlierFound, rfl⟩ :=
        Option.map_eq_some_iff.mp found
      exact ⟨earlier, isPid ▸ earlierFound, startsNone earlier isRunning⟩
    · exact ⟨app, found, isRunning⟩

private theorem attach
    (monitored : Monitored rows processes parts)
    (packageName : String)
    (systemui : Bool)
    (pid : Nat) :
    Monitored rows (processes.attachApplication packageName systemui pid)
      parts := by
  by_cases absent :
      processes.mAppInfo.findAppInfo
        (AppRecord.attached packageName systemui pid).mPid = none
  · refine monitored.of_records ?_ ?_
    · intro other isKnown
      rw [AppInfoList.findAppInfo_addAppInfo absent]
      split
      · rfl
      · exact isKnown
    · intro other member app found isRunning
      rw [AppInfoList.findAppInfo_addAppInfo absent] at found
      split at found
      · -- a listed process has a record, so it does not attach again
        rename_i isNew
        have isKnown := monitored.recorded other member
        rw [isNew, absent] at isKnown
        simp at isKnown
      · exact ⟨app, found, isRunning⟩
  · rw [attachApplication, AppInfoList.addAppInfo, dif_neg absent]
    exact monitored

private theorem stop
    (monitored : Monitored rows processes parts)
    (pid : Nat) :
    Monitored rows (processes.stopApplication pid).1 parts := by
  unfold stopApplication
  split
  · refine monitored.modify ?_
    intro app isRunning
    unfold AppRecord.stopApplication at isRunning
    split at isRunning
    · assumption
    · exact isRunning
  · exact monitored

/-! ## Steps of the list -/

/-- The list changes, but keeps its processes and the scores of the map. -/
private theorem of_policy
    {policy : ProcessPriorityPolicy}
    {nextParts : PriorityParts Entry}
    (monitored : Monitored rows processes parts)
    (represents : Represents policy nextParts)
    (samePids :
      ∀ pid ∈ nextParts.all.map entryPid,
        pid ∈ parts.all.map entryPid)
    (synchronised : Synchronised policy.mLmk nextParts.all)
    (keeps :
      ∀ pid ∈ nextParts.all.map entryPid,
        (processes.mPriorityPolicy.mLmk.score? pid).isSome = true →
        (policy.mLmk.score? pid).isSome = true)
    (thresholds :
      policy.mLmk.mOomScoreThreshold =
        processes.mPriorityPolicy.mLmk.mOomScoreThreshold) :
    Monitored rows { processes with mPriorityPolicy := policy } nextParts where
  represents := represents
  synchronised := synchronised
  recorded pid member := monitored.recorded pid (samePids pid member)
  running pid member app found isRunning :=
    keeps pid member
      (monitored.running pid (samePids pid member) app found isRunning)
  configured := thresholds.trans monitored.configured

/-- The same entries in another order. -/
private theorem moved
    {policy : ProcessPriorityPolicy}
    {nextParts : PriorityParts Entry}
    (monitored : Monitored rows processes parts)
    (represents : Represents policy nextParts)
    (sameLmk : policy.mLmk = processes.mPriorityPolicy.mLmk)
    (same : ∀ entry, entry ∈ nextParts.all ↔ entry ∈ parts.all) :
    Monitored rows { processes with mPriorityPolicy := policy } nextParts := by
  refine monitored.of_policy represents ?_ ?_ ?_ (by rw [sameLmk])
  · intro pid member
    obtain ⟨entry, entryMember, rfl⟩ := List.mem_map.mp member
    exact List.mem_map_of_mem ((same entry).mp entryMember)
  · rw [sameLmk]
    refine ⟨monitored.synchronised.keys, ?_⟩
    intro pid score found
    obtain ⟨entry, member, isPid⟩ :=
      monitored.synchronised.scores pid score found
    exact ⟨entry, (same entry).mpr member, isPid⟩
  · intro pid _ isKnown
    rw [sameLmk]
    exact isKnown

/-- Two listed entries of one process are the same. -/
private theorem onlyEntry
    {policy : ProcessPriorityPolicy}
    (represents : Represents policy parts)
    (pid : Nat)
    {other : Entry}
    (member : other ∈ parts.all) :
    ∀ entry ∈ parts.all,
      hasPid pid entry = true →
      hasPid pid other = true →
      entry = other := by
  intro entry entryMember isEntry isOther
  refine List.inj_on_of_nodup_map represents.listed.pids entryMember
    member ?_
  simp only [hasPid, beq_iff_eq] at isEntry isOther
  rw [isEntry, isOther]

private theorem pushForeground
    {policy : ProcessPriorityPolicy}
    (monitored : Monitored rows processes parts)
    {pid : Nat}
    (pushed :
      processes.mPriorityPolicy.pushForeground pid = some policy) :
    Monitored rows { processes with mPriorityPolicy := policy }
      (parts.pushForeground (hasPid pid)) := by
  obtain ⟨next, reached, represents, sameLmk⟩ :=
    monitored.represents.pushForeground pid
  rw [pushed, Option.some.injEq] at reached
  subst reached
  refine monitored.moved represents sameLmk ?_
  intro entry
  exact ⟨PriorityParts.mem_of_mem_pushForeground, fun member =>
    PriorityParts.mem_pushForeground member
      (onlyEntry monitored.represents pid member)⟩

private theorem intoBackground
    {policy : ProcessPriorityPolicy}
    (monitored : Monitored rows processes parts)
    {pid : Nat}
    (moved :
      processes.mPriorityPolicy.intoBackground pid = some policy) :
    Monitored rows { processes with mPriorityPolicy := policy }
      (parts.intoBackground (hasPid pid)) := by
  rcases monitored.represents.intoBackground pid with
    ⟨next, reached, represents, sameLmk⟩ | ⟨_, crashed⟩
  · rw [moved, Option.some.injEq] at reached
    subst reached
    refine monitored.moved represents sameLmk ?_
    intro entry
    exact ⟨PriorityParts.mem_of_mem_intoBackground, fun member =>
      PriorityParts.mem_intoBackground member
        (onlyEntry monitored.represents pid member)⟩
  · rw [moved] at crashed
    cases crashed

/-- The calls of a record that the priority list receives. -/
private theorem deliver
    {calls : List Call}
    {policy : ProcessPriorityPolicy}
    (monitored : Monitored rows processes parts)
    (delivered :
      deliver calls processes.mPriorityPolicy = some policy) :
    ∃ nextParts,
      Monitored rows { processes with mPriorityPolicy := policy }
        nextParts := by
  induction calls generalizing processes parts with
  | nil =>
      simp only [ManagedProcesses.deliver, Option.some.injEq]
        at delivered
      subst delivered
      exact ⟨parts, monitored⟩
  | cons call rest inductionHypothesis =>
      cases call with
      | pushForeground pid =>
          simp only [ManagedProcesses.deliver, Option.bind_eq_bind,
            Option.bind_eq_some_iff] at delivered
          obtain ⟨middle, pushed, later⟩ := delivered
          obtain ⟨nextParts, reached⟩ :=
            inductionHypothesis (monitored.pushForeground pushed) later
          exact ⟨nextParts, reached⟩
      | intoBackground pid =>
          simp only [ManagedProcesses.deliver, Option.bind_eq_bind,
            Option.bind_eq_some_iff] at delivered
          obtain ⟨middle, moved, later⟩ := delivered
          obtain ⟨nextParts, reached⟩ :=
            inductionHypothesis (monitored.intoBackground moved) later
          exact ⟨nextParts, reached⟩
      | _ =>
          exact inductionHypothesis monitored delivered

private theorem setForeground
    {next : ManagedProcesses}
    {pid : Nat}
    {isForegroundActivity : Bool}
    (monitored : Monitored rows processes parts)
    (stepped :
      processes.setForeground pid isForegroundActivity = some next) :
    ∃ nextParts, Monitored rows next nextParts := by
  simp only [ManagedProcesses.setForeground, Option.bind_eq_bind,
    Option.bind_eq_some_iff, Option.some.injEq] at stepped
  obtain ⟨app, _, policy, delivered, rfl⟩ := stepped
  obtain ⟨nextParts, reached⟩ := monitored.deliver delivered
  refine ⟨nextParts, reached.modify ?_⟩
  intro app isRunning
  unfold AppRecord.setForeground at isRunning
  dsimp only at isRunning
  split_ifs at isRunning <;> exact isRunning

private theorem add
    {policy : ProcessPriorityPolicy}
    {pid : Nat}
    {isForeground : Bool}
    {level : ProcessPriority}
    (monitored : Monitored rows processes parts)
    (isKnown : (processes.mAppInfo.findAppInfo pid).isSome = true)
    (added :
      processes.mPriorityPolicy.add pid isForeground level =
        some policy) :
    ∃ nextParts,
      Monitored rows { processes with mPriorityPolicy := policy }
        nextParts := by
  by_cases present : ∃ entry ∈ parts.all, hasPid pid entry = true
  · rw [add_listed monitored.represents.listed present,
      Option.some.injEq] at added
    subst added
    exact ⟨parts, monitored⟩
  · have absent : ∀ other ∈ parts.all, hasPid pid other = false := by
      intro other member
      by_contra isPid
      exact present ⟨other, member, by simpa using isPid⟩
    obtain ⟨next, reached, represents, lmk⟩ :=
      monitored.represents.add absent isForeground level
    rw [added, Option.some.injEq] at reached
    subst reached
    let entry := processes.mPriorityPolicy.newEntry pid level
    have entries :
        ∀ other,
          other ∈ (parts.add entry isForeground).all ↔
            other = entry ∨ other ∈ parts.all := by
      intro other
      cases isForeground
      · simp only [PriorityParts.add, PriorityParts.all,
          Bool.false_eq_true, if_false, List.mem_append, List.mem_cons]
        tauto
      · simp [PriorityParts.add, PriorityParts.all]
    have pids :
        ∀ other ∈ (parts.add entry isForeground).all.map entryPid,
          other = pid ∨ other ∈ parts.all.map entryPid := by
      intro other member
      obtain ⟨listed, listedMember, rfl⟩ := List.mem_map.mp member
      rcases (entries listed).mp listedMember with rfl | isOld
      · exact Or.inl rfl
      · exact Or.inr (List.mem_map_of_mem isOld)
    refine ⟨_, represents, ⟨?_, ?_⟩, ?_, ?_, ?_⟩
    · rw [lmk]
      exact LowMemoryManager.keys_setPidOomScore _
        monitored.synchronised.keys _ _
    · intro other score found
      rw [lmk, LowMemoryManager.score?_setPidOomScore] at found
      split at found
      · rename_i isPid
        cases found
        exact ⟨entry, (entries entry).mpr (Or.inl rfl), isPid.symm, rfl⟩
      · obtain ⟨listed, member, isOther⟩ :=
          monitored.synchronised.scores other score found
        exact ⟨listed, (entries listed).mpr (Or.inr member), isOther⟩
    · intro other member
      rcases pids other member with rfl | isOld
      · exact isKnown
      · exact monitored.recorded other isOld
    · intro other member app found isRunning
      rw [lmk, LowMemoryManager.score?_setPidOomScore]
      split
      · rfl
      · rename_i notPid
        exact monitored.running other
          ((pids other member).resolve_left notPid) app found isRunning
    · rw [lmk]
      exact monitored.configured

private theorem exit
    {next : ManagedProcesses}
    {pid : Nat}
    (monitored : Monitored rows processes parts)
    (stepped : processes.appExit pid = some next) :
    ∃ nextParts, Monitored rows next nextParts := by
  obtain ⟨policy, removed, represents, lmk⟩ :=
    monitored.represents.remove pid
  simp only [appExit, removed, Option.bind_eq_bind, Option.bind_some,
    Option.some.injEq] at stepped
  subst stepped
  have notPid :
      ∀ other ∈ (parts.remove (hasPid pid)).all.map entryPid,
        other ≠ pid := by
    intro other member isPid
    obtain ⟨entry, entryMember, rfl⟩ := List.mem_map.mp member
    have isEntry : hasPid pid entry = true := by
      simpa [hasPid] using isPid
    rw [monitored.represents.remove_pids pid entry entryMember] at isEntry
    cases isEntry
  have stillListed :
      ∀ other ∈ (parts.remove (hasPid pid)).all.map entryPid,
        other ∈ parts.all.map entryPid := by
    intro other member
    obtain ⟨entry, entryMember, rfl⟩ := List.mem_map.mp member
    rw [PriorityParts.remove_all] at entryMember
    exact List.mem_map_of_mem (List.mem_of_mem_eraseP entryMember)
  refine ⟨_, represents, ⟨?_, ?_⟩, ?_, ?_, ?_⟩
  · dsimp only
    rw [lmk]
    exact LowMemoryManager.keys_cancelMonitorPid _
      monitored.synchronised.keys _
  · intro other score found
    dsimp only at found
    rw [lmk, LowMemoryManager.score?_cancelMonitorPid] at found
    split at found
    · cases found
    · rename_i isOther
      obtain ⟨entry, member, samePid, sameScore⟩ :=
        monitored.synchronised.scores other score found
      have differs : hasPid pid entry = false := by
        simpa [hasPid, samePid] using isOther
      exact ⟨entry, PriorityParts.mem_remove member differs, samePid,
        sameScore⟩
  · intro other member
    rw [AppInfoList.findAppInfo_deleteAppInfo, if_neg (notPid other member)]
    exact monitored.recorded other (stillListed other member)
  · intro other member app found isRunning
    rw [AppInfoList.findAppInfo_deleteAppInfo, if_neg (notPid other member)]
      at found
    dsimp only
    rw [lmk, LowMemoryManager.score?_cancelMonitorPid,
      if_neg (notPid other member)]
    exact monitored.running other (stillListed other member) app found
      isRunning
  · dsimp only
    rw [lmk]
    exact monitored.configured

private theorem raise
    {policy : ProcessPriorityPolicy}
    {pid : Nat}
    {priority : ProcessPriority}
    (monitored : Monitored rows processes parts)
    (stepped :
      processes.mPriorityPolicy.raisePriorityLevel pid priority =
        some policy) :
    Monitored rows { processes with mPriorityPolicy := policy }
      (parts.map (raised pid priority)) := by
  obtain ⟨next, reached, represents, lmk⟩ :=
    monitored.represents.raisePriorityLevel pid priority
  rw [stepped, Option.some.injEq] at reached
  subst reached
  have samePids :
      (parts.map (raised pid priority)).all.map entryPid =
        parts.all.map entryPid := by
    simp [Function.comp_def]
  refine monitored.of_policy represents ?_ ⟨?_, ?_⟩ ?_ (by rw [lmk])
  · intro other member
    rwa [samePids] at member
  · rw [lmk]
    exact monitored.synchronised.keys
  · intro other score found
    rw [lmk] at found
    obtain ⟨entry, member, isPid, isScore⟩ :=
      monitored.synchronised.scores other score found
    refine ⟨raised pid priority entry, ?_, ?_, ?_⟩
    · rw [PriorityParts.map_all]
      exact List.mem_map_of_mem member
    · rw [raised_pid, isPid]
    · rw [raised_oomScore, isScore]
  · intro other _ isKnown
    rw [lmk]
    exact isKnown

/-- `analyseProcessPriority`, also at the start of a kill. -/
theorem analyse
    (monitored : Monitored rows processes parts) :
    ∃ policy,
      processes.mPriorityPolicy.analyseProcessPriority = some policy ∧
        Monitored rows { processes with mPriorityPolicy := policy }
          (freshParts parts) := by
  obtain ⟨policy, walked, represents, rescored⟩ :=
    monitored.represents.analyse
  refine ⟨policy, walked, ?_⟩
  refine monitored.of_policy represents ?_ ?_ ?_ rescored.thresholds
  · intro pid member
    rw [freshParts_all, freshEntries, rescore_pids] at member
    exact member
  · rw [freshParts_all]
    exact rescored.synchronised monitored.synchronised
  · intro pid _
    exact rescored.monitored pid

/-- The kills: who is forgotten does not run any more. -/
private theorem kill
    (monitored : Monitored rows processes parts)
    (pids : List Nat) :
    Monitored rows (killAll pids processes).1 parts := by
  constructor
  · rw [killAll_mPriorityPolicy]
    exact monitored.represents.withLmk _
  · rw [killAll_mPriorityPolicy]
    refine ⟨LowMemoryManager.keys_cancelAll _ _
      monitored.synchronised.keys, ?_⟩
    intro pid score found
    rw [LowMemoryManager.score?_cancelAll] at found
    split at found
    · cases found
    · exact monitored.synchronised.scores pid score found
  · intro pid member
    rw [killAll_findAppInfo]
    have isKnown := monitored.recorded pid member
    split
    · simpa using isKnown
    · exact isKnown
  · intro pid member app found isRunning
    rw [killAll_mPriorityPolicy, LowMemoryManager.score?_cancelAll]
    rw [killAll_findAppInfo] at found
    split at found
    · -- a killed application has left the running state
      obtain ⟨earlier, _, rfl⟩ := Option.map_eq_some_iff.mp found
      unfold AppRecord.stopApplication at isRunning
      split at isRunning
      · cases isRunning
      · contradiction
    · rename_i notKilled
      rw [if_neg notKilled]
      exact monitored.running pid member app found isRunning
  · rw [killAll_mPriorityPolicy]
    exact
      (LowMemoryManager.cancelAll_mOomScoreThreshold _ _).trans
        monitored.configured

private theorem lmk
    {next : ManagedProcesses × List Call}
    {freememory maxblock : Int}
    (monitored : Monitored rows processes parts)
    (stepped : processes.executeLMK freememory maxblock = some next) :
    ∃ nextParts, Monitored rows next.1 nextParts := by
  unfold executeLMK at stepped
  dsimp only at stepped
  split at stepped
  · obtain ⟨policy, walked, nextMonitored⟩ := monitored.analyse
    simp only [walked, Option.bind_eq_bind, Option.bind_some,
      Option.some.injEq] at stepped
    subst stepped
    exact ⟨_, nextMonitored.kill _⟩
  · cases stepped
    exact ⟨parts, monitored⟩

/-! ## Every step -/

theorem step
    {action : Action}
    {next : ManagedProcesses}
    (monitored : Monitored rows processes parts)
    (permitted : Recording processes action)
    (stepped : step? processes action = some next) :
    ∃ nextParts, Monitored rows next nextParts := by
  cases action with
  | attach packageName systemui pid =>
      cases stepped
      exact ⟨parts, monitored.attach packageName systemui pid⟩
  | add pid isForeground level =>
      obtain ⟨policy, added, rfl⟩ := Option.map_eq_some_iff.mp stepped
      exact monitored.add permitted added
  | exit pid =>
      exact monitored.exit stepped
  | setForeground pid isForegroundActivity =>
      exact monitored.setForeground stepped
  | pushForeground pid =>
      obtain ⟨policy, pushed, rfl⟩ := Option.map_eq_some_iff.mp stepped
      exact ⟨_, monitored.pushForeground pushed⟩
  | intoBackground pid =>
      obtain ⟨policy, moved, rfl⟩ := Option.map_eq_some_iff.mp stepped
      exact ⟨_, monitored.intoBackground moved⟩
  | raise pid priority =>
      obtain ⟨policy, raised, rfl⟩ := Option.map_eq_some_iff.mp stepped
      exact ⟨_, monitored.raise raised⟩
  | analyse =>
      obtain ⟨policy, walked, rfl⟩ := Option.map_eq_some_iff.mp stepped
      obtain ⟨reached, reachedBy, nextMonitored⟩ := monitored.analyse
      rw [walked, Option.some.injEq] at reachedBy
      subst reachedBy
      exact ⟨_, nextMonitored⟩
  | stop pid =>
      cases stepped
      exact ⟨parts, monitored.stop pid⟩
  | markStopped pid =>
      cases stepped
      refine ⟨parts, monitored.modify ?_⟩
      intro app isRunning
      cases isRunning
  | lmk freememory maxblock =>
      obtain ⟨killed, executed, rfl⟩ := Option.map_eq_some_iff.mp stepped
      exact monitored.lmk executed

end Monitored

/-! ## What a kill selects -/

/--
The fresh score of the process is at least the threshold of the first row that
the reading matches.
-/
def Selected
    (rows : List LmkRow)
    (parts : PriorityParts Entry)
    (freememory maxblock : Int)
    (pid : Nat) : Prop :=
  ∃ row,
    (rows.find? fun row =>
      freememory ≤ row.freeMemory || maxblock ≤ row.maxBlock) =
        some row ∧
      ∃ entry ∈ freshEntries parts,
        entryPid entry = pid ∧ row.oomScore ≤ entry.2.oomScore

/-- An application that a kill is to stop. -/
def ToStop
    (rows : List LmkRow)
    (processes : ManagedProcesses)
    (parts : PriorityParts Entry)
    (freememory maxblock : Int)
    (pid : Nat) : Prop :=
  (∃ app,
    processes.mAppInfo.findAppInfo pid = some app ∧
      app.mStatus = .appRunning) ∧
    Selected rows parts freememory maxblock pid

/-- The kill stops exactly the applications it is to stop. -/
structure StopsExactly
    (toStop : Nat → Prop)
    (processes killed : ManagedProcesses)
    (calls : List Call) : Prop where
  stopped :
    ∀ pid,
      toStop pid →
      killed.mAppInfo.findAppInfo pid =
        (processes.mAppInfo.findAppInfo pid).map fun app =>
          { app with mStatus := .appStopping }
  spared :
    ∀ pid,
      ¬ toStop pid →
      killed.mAppInfo.findAppInfo pid =
        processes.mAppInfo.findAppInfo pid
  terminated :
    ∀ call,
      call ∈ calls ↔
        ∃ pid, call = .terminateApplication pid ∧ toStop pid
  once : calls.Nodup

namespace Monitored

variable
  {rows : List LmkRow}
  {processes : ManagedProcesses}
  {parts : PriorityParts Entry}

/-- Running applications are selected by the map as by the list. -/
private theorem mem_killPidVec_iff
    {policy : ProcessPriorityPolicy}
    (monitored :
      Monitored rows { processes with mPriorityPolicy := policy }
        (freshParts parts))
    {row : LmkRow}
    {pid : Nat}
    {app : AppRecord}
    (found : processes.mAppInfo.findAppInfo pid = some app)
    (isRunning : app.mStatus = .appRunning) :
    pid ∈ policy.mLmk.killPidVec row ↔
      ∃ entry ∈ freshEntries parts,
        entryPid entry = pid ∧ row.oomScore ≤ entry.2.oomScore := by
  rw [LowMemoryManager.mem_killPidVec monitored.synchronised.keys]
  have scores := monitored.synchronised.scores
  have distinct := monitored.represents.listed.pids
  rw [freshParts_all] at scores distinct
  constructor
  · rintro ⟨score, known, enough⟩
    obtain ⟨entry, member, isPid, rfl⟩ := scores pid score known
    exact ⟨entry, member, isPid, enough⟩
  · rintro ⟨entry, member, rfl, enough⟩
    have isListed :
        entryPid entry ∈ (freshParts parts).all.map entryPid := by
      rw [freshParts_all]
      exact List.mem_map_of_mem member
    have isMonitored :=
      monitored.running (entryPid entry) isListed app found isRunning
    obtain ⟨score, known⟩ := Option.isSome_iff_exists.mp isMonitored
    obtain ⟨other, otherMember, samePid, rfl⟩ :=
      scores (entryPid entry) score known
    rw [List.inj_on_of_nodup_map distinct otherMember member samePid]
      at known
    exact ⟨entry.2.oomScore, known, enough⟩

/-- `executeLMK` stops the running applications that the list selects. -/
theorem executeLMK
    (monitored : Monitored rows processes parts)
    (freememory maxblock : Int) :
    ∃ killed calls,
      processes.executeLMK freememory maxblock = some (killed, calls) ∧
        StopsExactly (ToStop rows processes parts freememory maxblock)
          processes killed calls := by
  unfold ManagedProcesses.executeLMK LowMemoryManager.matchingRow?
  dsimp only
  rw [monitored.configured]
  cases matched :
      rows.find? fun row =>
        freememory ≤ row.freeMemory || maxblock ≤ row.maxBlock with
  | none =>
      have nothing :
          ∀ pid,
            ¬ ToStop rows processes parts freememory maxblock pid := by
        rintro pid ⟨_, row, matchedRow, _⟩
        rw [matched] at matchedRow
        cases matchedRow
      refine ⟨processes, [], rfl, ?_, fun _ _ => rfl, ?_,
        List.nodup_nil⟩
      · intro pid toStop
        exact absurd toStop (nothing pid)
      · intro call
        constructor
        · intro member
          cases member
        · rintro ⟨pid, _, toStop⟩
          exact absurd toStop (nothing pid)
  | some row =>
      obtain ⟨policy, walked, analysed⟩ := monitored.analyse
      have toStop_iff :
          ∀ {pid app},
            processes.mAppInfo.findAppInfo pid = some app →
            app.mStatus = .appRunning →
            (pid ∈ policy.mLmk.killPidVec row ↔
              ToStop rows processes parts freememory maxblock pid) := by
        intro pid app found isRunning
        rw [analysed.mem_killPidVec_iff found isRunning]
        constructor
        · intro isSelected
          exact ⟨⟨app, found, isRunning⟩, row, matched, isSelected⟩
        · rintro ⟨_, other, otherMatched, isSelected⟩
          rw [matched, Option.some.injEq] at otherMatched
          exact otherMatched ▸ isSelected
      have distinct :=
        LowMemoryManager.nodup_killPidVec analysed.synchronised.keys row
      simp only [walked, Option.bind_eq_bind, Option.bind_some]
      refine ⟨_, _, rfl, ?_, ?_, ?_, ?_⟩
      · intro pid toStop
        obtain ⟨⟨app, found, isRunning⟩, _⟩ := id toStop
        rw [killAll_findAppInfo,
          if_pos ((toStop_iff found isRunning).mpr toStop)]
        simp [found, AppRecord.stopApplication, isRunning]
      · intro pid spared
        rw [killAll_findAppInfo]
        split
        · rename_i chosen
          cases found : processes.mAppInfo.findAppInfo pid with
          | none =>
              rfl
          | some app =>
              have notRunning : app.mStatus ≠ .appRunning :=
                fun isRunning =>
                  spared ((toStop_iff found isRunning).mp chosen)
              simp [AppRecord.stopApplication, notRunning]
        · rfl
      · intro call
        rw [killAll_calls distinct]
        simp only [List.mem_map, List.mem_filter, Option.any_eq_true,
          decide_eq_true_eq]
        constructor
        · rintro ⟨pid, ⟨chosen, app, found, isRunning⟩, rfl⟩
          exact ⟨pid, rfl, (toStop_iff found isRunning).mp chosen⟩
        · rintro ⟨pid, rfl, toStop⟩
          obtain ⟨⟨app, found, isRunning⟩, _⟩ := id toStop
          exact ⟨pid, ⟨(toStop_iff found isRunning).mpr toStop, app,
            found, isRunning⟩, rfl⟩
      · rw [killAll_calls distinct]
        refine (distinct.filter _).map ?_
        intro pid other same
        cases same
        rfl

end Monitored

/-- What is to hold of the kill in every state. -/
structure KillsRight
    (lines : List LmkRow)
    (arena : Int)
    (processes : ManagedProcesses)
    (parts : PriorityParts Entry) : Prop where
  represents : Represents processes.mPriorityPolicy parts
  sameScore :
    ∀ pid score,
      processes.mPriorityPolicy.mLmk.score? pid = some score →
      ∃ entry ∈ parts.all,
        entryPid entry = pid ∧ entry.2.oomScore = score
  monitored :
    ∀ pid ∈ parts.all.map entryPid,
      ∀ app,
        processes.mAppInfo.findAppInfo pid = some app →
        app.mStatus = .appRunning →
        (processes.mPriorityPolicy.mLmk.score? pid).isSome = true
  stops :
    ∀ freememory maxblock,
      ∃ killed calls,
        processes.executeLMK freememory maxblock =
            some (killed, calls) ∧
          StopsExactly
            (ToStop
              (LowMemoryManager.init lines arena).mOomScoreThreshold
              processes parts freememory maxblock)
            processes killed calls
  protects :
    ∀ freememory maxblock row,
      processes.mPriorityPolicy.mLmk.matchingRow? freememory maxblock =
        some row →
      2 ≤ row.oomScore →
      ∀ entry ∈ parts.all,
        IsProtected processes.mPriorityPolicy entry →
        ¬ Selected
          (LowMemoryManager.init lines arena).mOomScoreThreshold
          parts freememory maxblock (entryPid entry)
  escalates :
    LowMemoryManager.Ascending
      (LowMemoryManager.configuredRows lines arena) →
    ∀ freememory maxblock,
      (∀ row,
        processes.mPriorityPolicy.mLmk.matchingRow? freememory maxblock =
          some row →
        row ∈ LowMemoryManager.configuredRows lines arena) ∧
      ∀ lowerFree lowerBlock,
        lowerFree ≤ freememory →
        lowerBlock ≤ maxblock →
        ∀ pid,
          ToStop
            (LowMemoryManager.init lines arena).mOomScoreThreshold
            processes parts freememory maxblock pid →
          ToStop
            (LowMemoryManager.init lines arena).mOomScoreThreshold
            processes parts lowerFree lowerBlock pid

/-- The invariant gives all that is to hold of the kill. -/
private theorem Monitored.killsRight
    {lines : List LmkRow}
    {arena : Int}
    {processes : ManagedProcesses}
    {parts : PriorityParts Entry}
    (monitored :
      Monitored (LowMemoryManager.init lines arena).mOomScoreThreshold
        processes parts) :
    KillsRight lines arena processes parts where
  represents := monitored.represents
  sameScore := monitored.synchronised.scores
  monitored := monitored.running
  stops := monitored.executeLMK
  protects freememory maxblock row matched high entry member isProtected
      := by
    rintro ⟨other, otherMatched, fresh, freshMember, samePid, enough⟩
    rw [LowMemoryManager.matchingRow?, monitored.configured, otherMatched,
      Option.some.injEq] at matched
    subst matched
    have isLow :=
      freshEntries_protected monitored.represents member isProtected
        freshMember samePid
    omega
  escalates ascending freememory maxblock := by
    have configured :
        ∀ free block,
          ((LowMemoryManager.init lines arena).mOomScoreThreshold.find?
            fun row => free ≤ row.freeMemory || block ≤ row.maxBlock) =
          (LowMemoryManager.configuredRows lines arena).find?
            fun row => free ≤ row.freeMemory || block ≤ row.maxBlock :=
      fun free block =>
        LowMemoryManager.matchingRow?_configured rfl ascending free block
    constructor
    · intro row matched
      rw [LowMemoryManager.matchingRow?, monitored.configured,
        configured] at matched
      exact List.mem_of_find?_eq_some matched
    · rintro lowerFree lowerBlock free block pid
        ⟨running, row, matched, fresh, member, isPid, enough⟩
      rw [configured] at matched
      obtain ⟨lower, lowerMatched, lowerScore⟩ :=
        LowMemoryManager.find?_lower ascending.columns free block matched
      refine ⟨running, lower, ?_, fresh, member, isPid, by omega⟩
      rw [configured]
      exact lowerMatched

/--
In every run in which listed processes have a record, the kill stops exactly
the running applications that the list selects.
-/
theorem killsRight_of_reachable
    (lines : List LmkRow)
    (arena : Int)
    (processes : ManagedProcesses)
    (reachable :
      Reachable step? Recording (start lines arena) processes) :
    ∃ parts, KillsRight lines arena processes parts := by
  have monitored :
      ∃ parts,
        Monitored (LowMemoryManager.init lines arena).mOomScoreThreshold
          processes parts := by
    refine reachable.invariant ?_ ?_
    · refine ⟨PriorityParts.empty, Represents.empty _, ⟨?_, ?_⟩, ?_, ?_,
        rfl⟩
      · exact List.nodup_nil
      · intro pid score found
        cases found
      · intro pid member
        cases member
      · intro pid member
        cases member
    · rintro state action next ⟨parts, monitored⟩ permitted stepped
      exact monitored.step permitted stepped
  obtain ⟨parts, monitored⟩ := monitored
  exact ⟨parts, monitored.killsRight⟩

/-- A configuration with one row. -/
def oneRow : List LmkRow :=
  [{ freeMemory := 1000, maxBlock := 300, oomScore := 500 }]

/-- Three processes under pressure; the one with the highest score is killed. -/
def pressureRun : Option ManagedProcesses :=
  run? step? (start oneRow 0)
    [.attach "launcher" false 11, .add 11 true .high,
      .attach "clock" false 12, .add 12 false .middle,
      .attach "music" false 13, .add 13 false .low,
      .setForeground 11 true, .raise 12 .persistent,
      .lmk 500 400, .exit 13]

/-- The kill is right after that run. -/
theorem pressureRun_killsRight :
    ∃ parts, KillsRight oneRow 0 (pressureRun.get rfl) parts := by
  have accepted : pressureRun = some (pressureRun.get rfl) :=
    (Option.some_get _).symm
  exact killsRight_of_reachable _ _ _
    (Reachable.of_run? (by decide) accepted)

end ActivityManager.ManagedProcesses
