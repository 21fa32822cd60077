import ActivityManager.ProcessOutcomes

/-!
# At most one usable process per name

A request spawns a process only if none of its name runs or waits to attach.
An application that has stopped never runs again, so a process that is on its
way out does not count against its successor.
-/

namespace ActivityManager

open StepSystem (Reachable run?)

namespace ActivityManagerInner

/-- An application runs under a name. -/
def runsAs
    (inner : ActivityManagerInner)
    (name : String)
    (app : Nat) : Bool :=
  (inner.manager.apps app).any fun record =>
    record.mPackageName = name ∧ record.mStatus = .appRunning

/-- The processes of a name that run, and those that wait to attach. -/
def usable
    (inner : ActivityManagerInner)
    (name : String) : Nat :=
  inner.mAppList.countP (inner.runsAs name) +
    inner.mAppWaitingAttach.countP (·.1 == name)

/-- A process that is spawned gets a pid that no process has. -/
def spawnsFresh
    (inner : ActivityManagerInner)
    (action : InnerAction) : Bool :=
  action.spawned.all (· ∉ inner.livePids)

/-- What the operating system promises about pids. -/
def Permitted
    (inner : ActivityManagerInner)
    (action : InnerAction) : Prop :=
  inner.spawnsFresh action = true

instance decidablePermitted
    (inner : ActivityManagerInner)
    (action : InnerAction) :
    Decidable (Permitted inner action) :=
  inferInstanceAs (Decidable (_ = true))

/-- No two processes of a name are usable, and none share a pid. -/
structure OneUsableProcess (inner : ActivityManagerInner) : Prop where
  usable : ∀ name, inner.usable name ≤ 1
  pids : inner.livePids.Nodup
  /-- A request that spawns a process has none to go to. -/
  spawns :
    ∀ action next,
      Permitted inner action →
      inner.step? action = some next →
      ∀ entry ∈ next.mAppWaitingAttach,
        entry ∉ inner.mAppWaitingAttach →
        inner.usable entry.1 = 0

/-- The invariant: the list has the records there are, once each. -/
structure DistinctProcesses (inner : ActivityManagerInner) : Prop where
  mAppList : inner.mAppList.Nodup
  listed :
    ∀ app,
      app ∈ inner.mAppList ↔ (inner.manager.apps app).isSome = true
  bounded : ∀ app ∈ inner.mAppList, app < inner.manager.nextApp
  pids : inner.livePids.Nodup
  usable : ∀ name, inner.usable name ≤ 1

variable {inner next : ActivityManagerInner}

/-! ## The same processes -/

namespace SameProcesses

/-- The pid of an application stays. -/
theorem mPid_eq
    (same : SameProcesses inner next)
    (app : Nat) :
    (next.manager.apps app).map AppRecord.mPid =
      (inner.manager.apps app).map AppRecord.mPid :=
  same.apps.map_eq (fun _ _ isSame => isSame.mPid) app

theorem livePids_eq
    (same : SameProcesses inner next) :
    next.livePids = inner.livePids := by
  unfold livePids
  rw [same.mAppList, same.mAppWaitingAttach, funext same.mPid_eq]

/-- An application that runs now has run before, under its name. -/
theorem runsAs_before
    {name : String}
    {app : Nat}
    (same : SameProcesses inner next)
    (runs : next.runsAs name app = true) :
    inner.runsAs name app = true := by
  obtain ⟨new, isNew, isMeant⟩ := (Option.any_eq_true _ _).mp runs
  obtain ⟨isNamed, isRunning⟩ := of_decide_eq_true isMeant
  obtain ⟨old, isOld, isSame⟩ := same.apps.exists_before isNew
  refine (Option.any_eq_true _ _).mpr ⟨old, isOld, decide_eq_true ?_⟩
  exact ⟨isSame.mPackageName ▸ isNamed, isSame.running isRunning⟩

theorem usable_le
    (same : SameProcesses inner next)
    (name : String) :
    next.usable name ≤ inner.usable name := by
  unfold usable
  rw [same.mAppList, same.mAppWaitingAttach]
  apply Nat.add_le_add_right
  exact List.countP_mono_left fun _ _ => same.runsAs_before

/-- Then they stay distinct. -/
theorem distinct
    (same : SameProcesses inner next)
    (before : DistinctProcesses inner) :
    DistinctProcesses next where
  mAppList := by
    rw [same.mAppList]
    exact before.mAppList
  listed app := by
    rw [same.mAppList, same.apps.isSome_eq]
    exact before.listed app
  bounded := by
    rw [same.mAppList, same.nextApp]
    exact before.bounded
  pids := by
    rw [same.livePids_eq]
    exact before.pids
  usable name := (same.usable_le name).trans (before.usable name)

end SameProcesses

/-! ## Processes that are spawned -/

/-- With no process of a name to go to, none is usable. -/
theorem usable_eq_zero
    {name : String}
    (noneAlive : inner.findAppInfoWithAlive name = none)
    (noneWaits : inner.getAttachingAppPid name = none) :
    inner.usable name = 0 := by
  unfold findAppInfoWithAlive at noneAlive
  unfold getAttachingAppPid at noneWaits
  rw [Option.map_eq_none_iff] at noneWaits
  have noneRuns : inner.mAppList.countP (inner.runsAs name) = 0 :=
    List.countP_eq_zero.mpr (List.find?_eq_none.mp noneAlive)
  have noneAttach :
      inner.mAppWaitingAttach.countP (·.1 == name) = 0 :=
    List.countP_eq_zero.mpr (List.find?_eq_none.mp noneWaits)
  rw [usable, noneRuns, noneAttach]

/-- A process that is spawned when none is usable. -/
theorem spawn_distinct
    {name : String}
    {pid : Nat}
    (before : DistinctProcesses inner)
    (noneUsable : inner.usable name = 0)
    (isFresh : pid ∉ inner.livePids) :
    DistinctProcesses (inner.spawn name pid) where
  mAppList := before.mAppList
  listed := before.listed
  bounded := before.bounded
  pids := by
    have shape :
        (inner.spawn name pid).livePids = inner.livePids ++ [pid] := by
      simp [livePids, spawn]
    rw [shape, List.nodup_append]
    refine ⟨before.pids, List.nodup_singleton pid, ?_⟩
    intro other isLive new isNew
    rw [List.mem_singleton.mp isNew]
    rintro rfl
    exact isFresh isLive
  usable other := by
    have counted :
        (inner.spawn name pid).usable other =
          inner.usable other + if name = other then 1 else 0 := by
      unfold usable spawn
      rw [List.countP_append, List.countP_singleton, Nat.add_assoc]
      simp only [beq_iff_eq]
      rfl
    rw [counted]
    split
    · rename_i isName
      rw [← isName, noneUsable]
    · exact before.usable other

/-- The board does not matter. -/
theorem enqueue_sameProcesses
    (inner : ActivityManagerInner)
    (task : AppAttachTask) :
    SameProcesses inner (inner.enqueue task) where
  apps := by
    rw [enqueue_manager]
    exact .refl SameProcess.refl _
  nextApp := by
    rw [enqueue_manager]
  mAppList := inner.enqueue_mAppList task
  mAppWaitingAttach := inner.enqueue_mAppWaitingAttach task

/-- A task that is queued, with or without a new process. -/
theorem Submitted.distinct
    {name : String}
    {callback : AttachCallback}
    {spawned : Option Nat}
    {pid : Nat}
    (submitted : inner.Submitted name callback spawned next pid)
    (before : DistinctProcesses inner)
    (noneAlive : inner.findAppInfoWithAlive name = none)
    (isFresh : spawned.all (· ∉ inner.livePids) = true) :
    DistinctProcesses next := by
  cases submitted with
  | behind isWaiting =>
      exact (enqueue_sameProcesses inner _).distinct before
  | first noneWaits isSpawned =>
      rw [isSpawned] at isFresh
      have spawned :=
        spawn_distinct before (usable_eq_zero noneAlive noneWaits)
          (of_decide_eq_true isFresh)
      exact (enqueue_sameProcesses _ _).distinct spawned

/-! ## Processes that attach -/

/-- The process that has waited is listed now. -/
theorem attach_distinct
    {packageName : String}
    {pid : Nat}
    (before : DistinctProcesses inner)
    (isWaiting : inner.getAttachingAppName pid = some packageName)
    (isSystemUI : Bool) :
    DistinctProcesses
      ((inner.deleteAppWaitingAttach pid).addAppInfo packageName
        isSystemUI pid) := by
  obtain ⟨entry, isEntry, isName⟩ := Option.map_eq_some_iff.mp isWaiting
  have isPid : entry.2 = pid := by
    simpa using List.find?_some isEntry
  subst isPid
  subst isName
  have left := perm_cons_swapRemove isEntry
  generalize isAttached :
    (inner.deleteAppWaitingAttach entry.2).addAppInfo entry.1 isSystemUI
      entry.2 = attached
  have sameWaiting :
      attached.mAppWaitingAttach =
        swapRemove (·.2 == entry.2) inner.mAppWaitingAttach := by
    rw [← isAttached]
    rfl
  have sameList :
      attached.mAppList = inner.mAppList ++ [inner.manager.nextApp] := by
    rw [← isAttached]
    rfl
  have sameNumber :
      attached.manager.nextApp = inner.manager.nextApp + 1 := by
    rw [← isAttached]
    rfl
  have newRecord :
      attached.manager.apps =
        Function.update inner.manager.apps inner.manager.nextApp
          (some (.attached entry.1 isSystemUI entry.2)) := by
    rw [← isAttached]
    rfl
  have isNew : ∀ app ∈ inner.mAppList, app ≠ inner.manager.nextApp :=
    fun app member => Nat.ne_of_lt (before.bounded app member)
  have others :
      ∀ app ∈ inner.mAppList,
        attached.manager.apps app = inner.manager.apps app := by
    intro app member
    rw [newRecord, Function.update_of_ne (isNew app member)]
  constructor
  · rw [sameList, List.nodup_append]
    refine ⟨before.mAppList, List.nodup_singleton _, ?_⟩
    intro app member other isOther
    rw [List.mem_singleton.mp isOther]
    exact isNew app member
  · intro app
    rw [sameList, List.mem_append, List.mem_singleton, newRecord]
    by_cases isApp : app = inner.manager.nextApp
    · rw [isApp, Function.update_self]
      exact ⟨fun _ => rfl, fun _ => Or.inr rfl⟩
    · rw [Function.update_of_ne isApp, ← before.listed]
      exact ⟨fun known => known.resolve_right isApp, Or.inl⟩
  · intro app member
    rw [sameNumber]
    rw [sameList, List.mem_append, List.mem_singleton] at member
    rcases member with isOld | isApp
    · exact Nat.lt_succ_of_lt (before.bounded app isOld)
    · rw [isApp]
      exact Nat.lt_succ_self _
  · have samePids :
        inner.mAppList.filterMap (fun app =>
            (attached.manager.apps app).map AppRecord.mPid) =
          inner.mAppList.filterMap fun app =>
            (inner.manager.apps app).map AppRecord.mPid :=
      List.filterMap_congr fun app member => by rw [others app member]
    have moved :
        attached.livePids.Perm inner.livePids := by
      unfold livePids
      rw [sameList, sameWaiting, List.filterMap_append, samePids,
        List.append_assoc]
      refine List.Perm.append_left _ ?_
      have newPid :
          [inner.manager.nextApp].filterMap (fun app =>
            (attached.manager.apps app).map AppRecord.mPid) =
            [entry.2] := by
        simp [newRecord, AppRecord.attached]
      rw [newPid]
      exact (left.map Prod.snd).symm
    rw [moved.nodup_iff]
    exact before.pids
  · intro name
    have sameRuns :
        inner.mAppList.countP (attached.runsAs name) =
          inner.mAppList.countP (inner.runsAs name) := by
      refine List.countP_congr ?_
      intro app member
      rw [runsAs, runsAs, others app member]
    have newRuns :
        attached.runsAs name inner.manager.nextApp =
          (entry.1 == name) := by
      simp [runsAs, newRecord, AppRecord.attached, Bool.beq_eq_decide_eq]
    have counted := left.countP_eq (·.1 == name)
    rw [List.countP_cons] at counted
    have moved : attached.usable name = inner.usable name := by
      unfold usable
      rw [sameList, sameWaiting, List.countP_append, sameRuns, counted,
        List.countP_singleton, newRuns]
      omega
    rw [moved]
    exact before.usable name

/-! ## Processes that exit -/

/-- A process that exits before it has attached does not wait any more. -/
theorem leaveWaiting_distinct
    {packageName : String}
    {pid : Nat}
    (before : DistinctProcesses inner)
    (isWaiting : inner.getAttachingAppName pid = some packageName) :
    DistinctProcesses (inner.deleteAppWaitingAttach pid) := by
  obtain ⟨entry, isEntry, _⟩ := Option.map_eq_some_iff.mp isWaiting
  have left := perm_cons_swapRemove isEntry
  constructor
  · exact before.mAppList
  · exact before.listed
  · exact before.bounded
  · have pids := before.pids
    unfold livePids at pids ⊢
    refine List.Nodup.sublist ?_
      (((left.map Prod.snd).append_left _).nodup_iff.mp pids)
    refine List.Sublist.append_left ?_ _
    exact List.sublist_cons_self _ _
  · intro name
    have counted := left.countP_eq (·.1 == name)
    rw [List.countP_cons] at counted
    have usable := before.usable name
    unfold ActivityManagerInner.usable at usable ⊢
    rw [counted] at usable
    refine Nat.le_trans (Nat.add_le_add_left ?_ _) usable
    exact Nat.le_add_right _ _

/-- The record of a process goes. -/
theorem deleteAppInfo_distinct
    {pid app : Nat}
    (before : DistinctProcesses inner)
    (isFound : inner.findAppInfo pid = some app)
    (isNext : inner.deleteAppInfo pid app = some next) :
    DistinctProcesses next := by
  have isDeleted := deleteAppInfo_cases isNext
  have left := perm_cons_swapRemove isFound
  have sameList :
      next.mAppList =
        swapRemove
          (fun app => (inner.manager.apps app).any (·.mPid = pid))
          inner.mAppList := by
    rw [isDeleted]
  have sameApps :
      next.manager.apps =
        Function.update inner.manager.apps app none := by
    rw [isDeleted]
  rw [← sameList] at left
  have distinct := left.nodup_iff.mp before.mAppList
  rw [List.nodup_cons] at distinct
  have others :
      ∀ other ∈ next.mAppList,
        next.manager.apps other = inner.manager.apps other := by
    intro other member
    have notApp : other ≠ app := by
      rintro rfl
      exact distinct.1 member
    rw [sameApps, Function.update_of_ne notApp]
  have sameWaiting :
      next.mAppWaitingAttach = inner.mAppWaitingAttach := by
    rw [isDeleted]
  constructor
  · exact distinct.2
  · intro other
    rw [sameApps]
    by_cases isApp : other = app
    · rw [isApp, Function.update_self]
      exact ⟨fun member => absurd member distinct.1, nofun⟩
    · rw [Function.update_of_ne isApp, ← before.listed,
        left.mem_iff, List.mem_cons]
      exact ⟨Or.inr, fun known => known.resolve_left isApp⟩
  · intro other member
    rw [isDeleted]
    exact before.bounded other
      (left.mem_iff.mpr (List.mem_cons_of_mem _ member))
  · have samePids :
        next.mAppList.filterMap (fun app =>
            (next.manager.apps app).map AppRecord.mPid) =
          next.mAppList.filterMap fun app =>
            (inner.manager.apps app).map AppRecord.mPid :=
      List.filterMap_congr fun other member => by
        rw [others other member]
    have pids := before.pids
    unfold livePids at pids ⊢
    rw [sameWaiting, samePids]
    refine List.Nodup.sublist (List.Sublist.append_right ?_ _)
      ((List.Perm.append_right _
        (left.filterMap _)).nodup_iff.mp pids)
    exact (List.sublist_cons_self app next.mAppList).filterMap _
  · intro name
    have sameRuns :
        next.mAppList.countP (next.runsAs name) =
          next.mAppList.countP (inner.runsAs name) := by
      refine List.countP_congr ?_
      intro other member
      rw [runsAs, runsAs, others other member]
    have counted := left.countP_eq (inner.runsAs name)
    rw [List.countP_cons] at counted
    have usable := before.usable name
    unfold ActivityManagerInner.usable at usable ⊢
    rw [counted] at usable
    rw [sameRuns, sameWaiting]
    refine Nat.le_trans (Nat.add_le_add_right ?_ _) usable
    exact Nat.le_add_right _ _

/-- None of that concerns the processes that wait. -/
theorem deleteAppInfo_mAppWaitingAttach
    {pid app : Nat}
    (isNext : inner.deleteAppInfo pid app = some next) :
    next.mAppWaitingAttach = inner.mAppWaitingAttach := by
  rw [deleteAppInfo_cases isNext]

/-- The same processes are found by their pids. -/
theorem SameProcesses.findAppInfo_eq
    (same : SameProcesses inner next)
    (pid : Nat) :
    next.findAppInfo pid = inner.findAppInfo pid := by
  have samePid :
      ∀ app,
        (next.manager.apps app).any (·.mPid = pid) =
          (inner.manager.apps app).any (·.mPid = pid) := by
    intro app
    have mPid := same.mPid_eq app
    cases isNew : next.manager.apps app with
    | none =>
        rw [isNew] at mPid
        rw [Option.map_eq_none_iff.mp mPid.symm]
    | some new =>
        obtain ⟨old, isOld, isSame⟩ := same.apps.exists_before isNew
        simp [isOld, isSame.mPid]
  unfold findAppInfo
  rw [same.mAppList, funext samePid]

/-- An application loses its list of services. -/
theorem swapServices_sameProcesses
    {app : Nat}
    {record : AppRecord}
    (isRecord : inner.manager.apps app = some record) :
    SameProcesses inner (inner.swapServices app record) where
  apps := .update SameProcess.refl isRecord ⟨rfl, rfl, rfl, id⟩
  nextApp := rfl
  mAppList := rfl
  mAppWaitingAttach := rfl

theorem Terminated.sameProcesses
    {tokens : List Nat}
    (terminated : Terminated tokens inner next) :
    SameProcesses inner next where
  apps := terminated.apps.mono fun _ _ => WithServices.sameProcess
  nextApp := by
    rw [terminated.manager]
  mAppList := terminated.mAppList
  mAppWaitingAttach := terminated.mAppWaitingAttach

theorem ExitOutcome.distinct
    {pid : Nat}
    (outcome : inner.ExitOutcome pid next)
    (before : DistinctProcesses inner) :
    DistinctProcesses next := by
  cases outcome with
  | hosted isFound isManager quiet isRecord terminated isDeleted _ =>
      have same :=
        ((quiet.sameProcesses partsOf_procAppTerminated_areRoutine).trans
          (swapServices_sameProcesses isRecord)).trans
            terminated.sameProcesses
      rw [← same.findAppInfo_eq] at isFound
      have deleted :=
        deleteAppInfo_distinct (same.distinct before) isFound isDeleted
      exact { deleted with }
  | waiting _ isWaiting =>
      exact leaveWaiting_distinct before isWaiting
  | unknown _ _ =>
      exact before

/-! ## Steps -/

theorem ReportOutcome.sameProcesses
    {token : Nat}
    {status : ServiceStatus}
    (outcome : inner.ReportOutcome token status next) :
    SameProcesses inner next := by
  cases outcome with
  | ignored =>
      exact .refl inner
  | stored _ =>
      exact (setServiceStatus_serviced inner token status).sameProcesses
  | unbinded isFound _ =>
      have stopped :=
        onService_serviced ServiceRecord.keepsKey_stop
          (mem_of_getService isFound).1
      exact
        (stopped.trans
          (setServiceStatus_serviced _ token status)).sameProcesses
  | destroyed isFound _ =>
      have deleted :
          SameProcesses inner
            { inner with
              mServices := deleteService inner.mServices token } :=
        { SameProcesses.refl inner with }
      exact
        (deleted.trans
          ((stopIfIdle_quiet _ _).sameProcesses
            stoppingParts_areRoutine)).trans
          (setServiceStatus_serviced _ token status).sameProcesses

/-- A request for a service. -/
theorem ServiceOutcome.distinct
    {serviceName : String}
    {packageInfo : PackageInfo}
    {intent : Intent}
    {request : ServiceRequest}
    {spawned : Option Nat}
    {route : Route}
    (outcome :
      inner.ServiceOutcome serviceName packageInfo intent request spawned
        next route)
    (before : DistinctProcesses inner)
    (isFresh : spawned.all (· ∉ inner.livePids) = true) :
    DistinctProcesses next := by
  cases outcome with
  | rejected =>
      exact before
  | found isFound =>
      exact
        (requestService_serviced (mem_of_findService isFound).1 intent
          request).sameProcesses.distinct before
  | created _ _ _ _ =>
      exact (createService_sameProcesses _ _ _ _ _).distinct before
  | queued _ _ noneAlive submitted =>
      exact submitted.distinct before noneAlive isFresh

/-- A request for an activity. -/
theorem ActivityOutcome.distinct
    {packageInfo : PackageInfo}
    {intent : Intent}
    {spawned : Option Nat}
    {route : Route}
    (outcome :
      inner.ActivityOutcome packageInfo intent spawned next route)
    (before : DistinctProcesses inner)
    (isFresh : spawned.all (· ∉ inner.livePids) = true) :
    DistinctProcesses next := by
  cases outcome with
  | rejected quiet =>
      exact quiet.own_sameProcesses.distinct before
  | turned quiet =>
      exact quiet.own_sameProcesses.distinct before
  | hosted _ isCreated quiet =>
      exact
        ((isCreated.sameProcesses rfl rfl).trans
          quiet.own_sameProcesses).distinct before
  | queued noneAlive _ isCreated submitted quiet =>
      have created : SameProcesses inner _ :=
        isCreated.sameProcesses rfl rfl
      rw [← created.livePids_eq] at isFresh
      refine quiet.own_sameProcesses.distinct
        (submitted.distinct (created.distinct before) ?_ isFresh)
      unfold findAppInfoWithAlive at noneAlive ⊢
      rw [isCreated.mAppList, isCreated.manager]
      exact noneAlive

/-- Every step keeps the processes distinct. -/
theorem DistinctProcesses.step
    {action : InnerAction}
    (before : DistinctProcesses inner)
    (isPermitted : Permitted inner action)
    (isNext : inner.step? action = some next) :
    DistinctProcesses next := by
  cases step?_outcome isNext with
  | activity outcome =>
      exact outcome.distinct before isPermitted
  | service _ outcome =>
      exact outcome.distinct before isPermitted
  | serviced serviced =>
      exact serviced.sameProcesses.distinct before
  | reported outcome =>
      exact outcome.sameProcesses.distinct before
  | attached outcome =>
      cases outcome with
      | known _ =>
          exact before
      | attached _ isWaiting isServed =>
          exact
            (eventTrigger_sameProcesses isServed).distinct
              (attach_distinct before isWaiting _)
      | illegal _ =>
          exact before
  | exited outcome =>
      exact outcome.distinct before
  | quiet areRoutine quiet =>
      exact (quiet.sameProcesses areRoutine).distinct before

/-! ## Every run -/

/-- A new entry of the waiting processes is that of a spawned one. -/
theorem Submitted.spawns
    {name : String}
    {callback : AttachCallback}
    {spawned : Option Nat}
    {pid : Nat}
    {entry : String × Nat}
    (submitted : inner.Submitted name callback spawned next pid)
    (noneAlive : inner.findAppInfoWithAlive name = none)
    (waits : entry ∈ next.mAppWaitingAttach)
    (isNew : entry ∉ inner.mAppWaitingAttach) :
    inner.usable entry.1 = 0 := by
  cases submitted with
  | behind _ =>
      rw [enqueue_mAppWaitingAttach] at waits
      exact absurd waits isNew
  | first noneWaits _ =>
      rw [enqueue_mAppWaitingAttach] at waits
      have isSpawned : entry = (name, pid) :=
        List.mem_singleton.mp
          ((List.mem_append.mp waits).resolve_left isNew)
      rw [isSpawned]
      exact usable_eq_zero noneAlive noneWaits

/-- A deletion loop adds nothing. -/
theorem mem_of_mem_swapRemove
    {α : Type}
    {isMatch : α → Bool}
    {elements : List α}
    {element : α}
    (member : element ∈ swapRemove isMatch elements) :
    element ∈ elements :=
  List.mem_of_mem_eraseP
    ((swapRemove_perm isMatch elements).mem_iff.mp member)

/-- A step that spawns a process has no usable one of its name. -/
theorem spawns_of_step
    {action : InnerAction}
    {entry : String × Nat}
    (isNext : inner.step? action = some next)
    (waits : entry ∈ next.mAppWaitingAttach)
    (isNew : entry ∉ inner.mAppWaitingAttach) :
    inner.usable entry.1 = 0 := by
  have noneNew :
      ∀ {after : ActivityManagerInner},
        SameProcesses inner after →
        entry ∉ after.mAppWaitingAttach := by
    intro after same
    rw [same.mAppWaitingAttach]
    exact isNew
  cases step?_outcome isNext with
  | activity outcome =>
      cases outcome with
      | rejected quiet =>
          exact absurd waits (noneNew quiet.own_sameProcesses)
      | turned quiet =>
          exact absurd waits (noneNew quiet.own_sameProcesses)
      | hosted _ isCreated quiet =>
          have created : SameProcesses inner _ :=
            isCreated.sameProcesses rfl rfl
          exact absurd waits
            (noneNew (created.trans quiet.own_sameProcesses))
      | @queued created _ _ _ _ _ _ _ noneAlive _ isCreated submitted
          quiet =>
          rw [quiet.mAppWaitingAttach] at waits
          have same : SameProcesses inner created :=
            isCreated.sameProcesses rfl rfl
          have sameUsable :
              created.usable entry.1 = inner.usable entry.1 := by
            unfold usable runsAs
            rw [isCreated.mAppList, isCreated.mAppWaitingAttach,
              isCreated.manager]
            rfl
          rw [← sameUsable]
          refine submitted.spawns ?_ waits (noneNew same)
          unfold findAppInfoWithAlive at noneAlive ⊢
          rw [isCreated.mAppList, isCreated.manager]
          exact noneAlive
  | service _ outcome =>
      cases outcome with
      | rejected =>
          exact absurd waits isNew
      | found isFound =>
          exact absurd waits
            (noneNew
              (requestService_serviced (mem_of_findService isFound).1 _
                _).sameProcesses)
      | created _ _ _ _ =>
          exact absurd waits
            (noneNew (createService_sameProcesses _ _ _ _ _))
      | queued _ _ noneAlive submitted =>
          exact submitted.spawns noneAlive waits isNew
  | serviced serviced =>
      exact absurd waits (noneNew serviced.sameProcesses)
  | reported outcome =>
      exact absurd waits (noneNew outcome.sameProcesses)
  | attached outcome =>
      cases outcome with
      | known _ =>
          exact absurd waits isNew
      | attached _ isWaiting isServed =>
          rw [(eventTrigger_sameProcesses isServed).mAppWaitingAttach]
            at waits
          exact absurd (mem_of_mem_swapRemove waits) isNew
      | illegal _ =>
          exact absurd waits isNew
  | exited outcome =>
      cases outcome with
      | hosted _ _ quiet isRecord terminated isDeleted _ =>
          have same :=
            ((quiet.sameProcesses
              partsOf_procAppTerminated_areRoutine).trans
                (swapServices_sameProcesses isRecord)).trans
                  terminated.sameProcesses
          have sameWaiting := deleteAppInfo_mAppWaitingAttach isDeleted
          dsimp only at waits
          rw [sameWaiting] at waits
          exact absurd waits (noneNew same)
      | waiting _ _ =>
          exact absurd (mem_of_mem_swapRemove waits) isNew
      | unknown _ _ =>
          exact absurd waits isNew
  | quiet areRoutine quiet =>
      exact absurd waits (noneNew (quiet.sameProcesses areRoutine))

/-- A new service has no process. -/
theorem DistinctProcesses.start
    (lines : List LmkRow)
    (arena : Int)
    (now : Nat) :
    DistinctProcesses (start lines arena now) where
  mAppList := List.nodup_nil
  listed _ := ⟨nofun, nofun⟩
  bounded _ member := absurd member List.not_mem_nil
  pids := List.nodup_nil
  usable _ := Nat.zero_le _

/--
Whatever happens, at most one process of a name runs or waits to attach, and
the pids of the processes are distinct.
-/
theorem oneUsableProcess_of_reachable
    (lines : List LmkRow)
    (arena : Int)
    (now : Nat)
    (inner : ActivityManagerInner)
    (reachable :
      Reachable step? Permitted (start lines arena now) inner) :
    OneUsableProcess inner := by
  have distinct : DistinctProcesses inner := by
    refine reachable.invariant (.start lines arena now) ?_
    intro middle action after before isPermitted isNext
    exact before.step isPermitted isNext
  exact
    { usable := distinct.usable
      pids := distinct.pids
      spawns := fun action next _ isNext entry waits isNew =>
        spawns_of_step isNext waits isNew }

/-- A package with two services. -/
def musicPackage : PackageInfo where
  packageName := "music"
  entry := "main"
  appType := "NATIVE"
  isSystemUI := false
  priority := .middle
  activitiesInfo :=
    [{ name := "main", launchMode := "standard", taskAffinity := "music" }]
  servicesInfo :=
    [{ name := "player", priority := .high },
      { name := "sync", priority := .low }]

/-- A request with nothing in it. -/
def plainIntent : Intent where
  mTarget := ""
  mAction := ""
  mData := ""
  mFlag := 0

/-- A process is stopped, and its successor attaches before it exits. -/
def succeedingRun : Option ActivityManagerInner :=
  run? step? (start [] 0 0)
    [.startService "player" musicPackage plainIntent (some 11),
      .attachApplication 11 false,
      .stopApplication 0,
      .startService "sync" musicPackage plainIntent (some 12),
      .attachApplication 12 false]

/-- Only the successor is usable after that. -/
theorem succeedingRun_oneUsableProcess :
    OneUsableProcess (succeedingRun.get rfl) := by
  have accepted : succeedingRun = some (succeedingRun.get rfl) :=
    (Option.some_get _).symm
  exact oneUsableProcess_of_reachable [] 0 0 _
    (Reachable.of_run? (by decide) accepted)

end ActivityManagerInner

end ActivityManager
