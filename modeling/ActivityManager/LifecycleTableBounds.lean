import ActivityManager.TaskManagerParts

/-!
# Lookups in the lifecycle table

`reportActivityStatus` casts what a client reports and stores it if a
lifecycle task waits for it.  The next request looks the status up in a table
of seven rows, unless it is odd.  The lookups stay in bounds as long as no
stored status is even and has no row.
-/

namespace ActivityManager

open StepSystem (Reachable run?)

/-- Both indices of a lookup are between 0 and 6. -/
def InTable (mStatus toStatus : Int) : Prop :=
  (0 ≤ (mStatus + 1) / 2 ∧ (mStatus + 1) / 2 ≤ 6) ∧
    0 ≤ (toStatus + 1) / 2 ∧ (toStatus + 1) / 2 ≤ 6

/-- A status that has a row, or counts as transitional. -/
def hasRowOrNone (status : Status) : Bool :=
  status.tmod 2 == 1 || (-1 ≤ status && status ≤ 12)

/-- What activities are asked for, or were never asked. -/
def targetStatuses : List Status :=
  Status.init :: requestedStatuses

/-- Rows end with DESTROYED, and so do columns. -/
theorem inTable_of_le
    {mStatus toStatus : Int}
    (row : -1 ≤ mStatus ∧ mStatus ≤ 12)
    (column : 0 ≤ toStatus ∧ toStatus ≤ 12) :
    InTable mStatus toStatus := by
  unfold InTable
  omega

/-- A lookup in bounds has a row. -/
theorem le_of_inTable
    {mStatus toStatus : Int}
    (inTable : InTable mStatus toStatus) :
    -1 ≤ mStatus ∧ mStatus ≤ 12 := by
  have row := inTable.1
  omega

/-- A status with a row and a target with a column. -/
theorem inTable_of_target
    {record : ActivityRecord}
    {toStatus : Status}
    (status : hasRowOrNone record.mStatus = true)
    (between : record.isTransitional = false)
    (target : toStatus ∈ targetStatuses) :
    InTable record.mStatus toStatus := by
  have columns :
      ∀ target ∈ targetStatuses, 0 ≤ target ∧ target ≤ 12 := by
    decide
  rw [ActivityRecord.isTransitional] at between
  rw [hasRowOrNone, between, Bool.false_or, Bool.and_eq_true,
    decide_eq_true_eq, decide_eq_true_eq] at status
  exact inTable_of_le status (columns toStatus target)

namespace TaskStackManager

/--
The lookups that a request can make now are in bounds: for one of the four
statuses, or for what an activity is to be.
-/
def NoLookupOutside (manager : TaskStackManager) : Prop :=
  ∀ activity record toStatus,
    manager.activities activity = some record →
    (toStatus ∈ requestedStatuses ∨ toStatus = record.mTargetStatus) →
    record.isTransitional = false →
    InTable record.mStatus toStatus

/-- So are those that something makes while it happens. -/
def LookupsInside
    (manager : TaskStackManager)
    (action : ActivityAction) : Prop :=
  ∀ middle,
    Reachable recordStep? (manager.IsPartOf action) manager middle →
    middle.NoLookupOutside

/-- A report that is not awaited, or stores a status with a row or none. -/
def reportKeepsTable
    (manager : TaskStackManager)
    (token : Nat)
    (status : Status) : Bool :=
  !(decide (token ∈ manager.mActivityMap) &&
      (manager.mPendTask.firstPending
        (PendEvent.activityStatusReport status token)).isSome) ||
    (manager.activities token).all fun record =>
      hasRowOrNone (storeReport record status).mStatus

/-- Requests of the server, and reports that keep to the table. -/
def keepsTable
    (manager : TaskStackManager) :
    ActivityAction → Bool
  | .lifecycleTransition _ toStatus =>
      toStatus ∈ requestedStatuses
  | .record (.turn activity toStatus) =>
      toStatus ∈ requestedStatuses ||
        (manager.activities activity).any
          (·.mTargetStatus = toStatus)
  | .record (.statusReport token status) =>
      manager.reportKeepsTable token status
  | .manager (.reportActivityStatus token status) =>
      manager.reportKeepsTable token status
  | _ => true

/-- Statuses with a row or none, and targets with a column. -/
structure TableKept (manager : TaskStackManager) : Prop where
  statuses :
    ∀ activity record,
      manager.activities activity = some record →
      hasRowOrNone record.mStatus = true
  targets :
    ∀ activity record,
      manager.activities activity = some record →
      record.mTargetStatus ∈ targetStatuses

variable
  {manager next : TaskStackManager}
  {activity : Nat}

/-- Requests and reports of a step that keep to the table. -/
def RecordKeepsTable
    (manager : TaskStackManager) :
    RecordAction → Prop
  | .turn activity toStatus =>
      toStatus ∈ requestedStatuses ∨
        ∃ record,
          manager.activities activity = some record ∧
            record.mTargetStatus = toStatus
  | .statusReport token status =>
      manager.reportKeepsTable token status = true
  | _ => True

namespace TableKept

/-- The lookups of a kept table are in bounds. -/
theorem noLookupOutside
    (kept : TableKept manager) :
    manager.NoLookupOutside := by
  intro activity record toStatus isRecord asked between
  apply inTable_of_target (kept.statuses activity record isRecord) between
  rcases asked with requested | isTarget
  · exact List.mem_cons_of_mem _ requested
  · rw [isTarget]
    exact kept.targets activity record isRecord

/-- The records stay. -/
theorem frame
    (kept : TableKept manager)
    (sameRecords : next.activities = manager.activities) :
    TableKept next := by
  constructor
  · rw [sameRecords]
    exact kept.statuses
  · rw [sameRecords]
    exact kept.targets

/-- One record changes. -/
theorem change
    {changed : ActivityRecord}
    (kept : TableKept manager)
    (isChanged :
      next.activities =
        Function.update manager.activities activity (some changed))
    (status : hasRowOrNone changed.mStatus = true)
    (target : changed.mTargetStatus ∈ targetStatuses) :
    TableKept next := by
  constructor
  · intro other record isRecord
    rw [isChanged] at isRecord
    by_cases isThis : other = activity
    · rw [isThis, Function.update_self] at isRecord
      rw [← Option.some.inj isRecord]
      exact status
    · rw [Function.update_of_ne isThis] at isRecord
      exact kept.statuses other record isRecord
  · intro other record isRecord
    rw [isChanged] at isRecord
    by_cases isThis : other = activity
    · rw [isThis, Function.update_self] at isRecord
      rw [← Option.some.inj isRecord]
      exact target
    · rw [Function.update_of_ne isThis] at isRecord
      exact kept.targets other record isRecord

/-- A request. -/
theorem turn
    {toStatus : Status}
    (kept : TableKept manager)
    (keeps : manager.RecordKeepsTable (.turn activity toStatus))
    (isNext : manager.turn activity toStatus = some next) :
    TableKept next := by
  obtain ⟨record, transition, turned⟩ := turn_cases isNext
  have asked : toStatus ∈ targetStatuses := by
    rcases keeps with requested | ⟨found, isFound, isTarget⟩
    · exact List.mem_cons_of_mem _ requested
    · rw [← isTarget]
      exact kept.targets activity found isFound
  obtain ⟨_, _, status, target, _⟩ :=
    ActivityRecord.lifecycleTransition?_frame turned.turned
  refine kept.change turned.activities ?_ ?_
  · rcases status with isSame | ⟨turnTo, isTransitional⟩
    · rw [isSame]
      exact kept.statuses activity record turned.isRecord
    · rw [isTransitional]
      cases turnTo <;> rfl
  · rcases target with isSame | isRequested
    · rw [isSame]
      exact kept.targets activity record turned.isRecord
    · rw [isRequested]
      exact asked

/-- An activity is destroyed. -/
theorem destroyed
    {record : ActivityRecord}
    (kept : TableKept manager)
    (isRecord : manager.activities activity = some record)
    (isChanged :
      next.activities =
        Function.update manager.activities activity
          (some (record.setStatus Status.destroyed))) :
    TableKept next :=
  kept.change isChanged rfl (kept.targets activity record isRecord)

/-- An activity ends. -/
theorem abnormalExit
    (kept : TableKept manager)
    (isNext : manager.abnormalExit activity = some next) :
    TableKept next := by
  obtain ⟨record, isRecord, ⟨_, hasEnded⟩ | ⟨_, _, _, _, hasEnded⟩⟩ :=
    abnormalExit_cases isNext
  · subst hasEnded
    exact kept.destroyed isRecord rfl
  · subst hasEnded
    exact kept.destroyed isRecord rfl

/-- A report is stored. -/
theorem statusReport
    {token : Nat}
    {status : Status}
    (kept : TableKept manager)
    (keeps : manager.reportKeepsTable token status = true)
    (isNext : manager.statusReport token status = some next) :
    TableKept next := by
  rcases statusReport_cases isNext with
    isSame | ⟨handler, record, known, isFirst, isRecord, isStored⟩
  · subst isSame
    exact kept
  · subst isStored
    have target := kept.targets token record isRecord
    have isKept :
        hasRowOrNone (storeReport record status).mStatus = true := by
      simpa [reportKeepsTable, known, isFirst, isRecord] using keeps
    refine kept.change rfl isKept ?_
    unfold storeReport
    split
    · exact target
    · exact target

/-- Every primitive step keeps the table, if its report does. -/
theorem step
    {action : RecordAction}
    (kept : TableKept manager)
    (keeps : manager.RecordKeepsTable action)
    (isNext : manager.recordStep? action = some next) :
    TableKept next := by
  cases action with
  | createActivity name targetTask intent =>
      rw [← Option.some.inj isNext]
      exact kept.change rfl rfl (List.mem_cons_self ..)
  | setAppThread activity app =>
      obtain ⟨record, isRecord, isSet⟩ := setAppThread_cases isNext
      subst isSet
      exact kept.change rfl (kept.statuses activity record isRecord)
        (kept.targets activity record isRecord)
  | turn activity toStatus =>
      exact kept.turn keeps isNext
  | setIntent activity intent =>
      obtain ⟨record, isRecord, isSet⟩ := setIntent_cases isNext
      subst isSet
      exact kept.change rfl (kept.statuses activity record isRecord)
        (kept.targets activity record isRecord)
  | restart activity =>
      obtain ⟨record, isRecord, isSet⟩ := setStatus_cases isNext
      subst isSet
      exact kept.change rfl rfl (kept.targets activity record isRecord)
  | commit task =>
      obtain ⟨_, isCommitted⟩ := commit_cases isNext
      rw [isCommitted]
      exact kept.frame rfl
  | complete serial task =>
      obtain ⟨_, _, isDone⟩ := complete_cases isNext
      subst isDone
      exact kept.frame rfl
  | statusReport token status =>
      exact kept.statusReport keeps isNext
  | giveUp serial activity =>
      obtain ⟨_, _, _, ⟨_, isDone⟩ | ⟨_, exited⟩⟩ := giveUp_cases isNext
      · subst isDone
        exact kept.frame rfl
      · have keptDone : TableKept (manager.done serial) :=
          kept.frame rfl
        exact keptDone.abnormalExit exited
  | abnormalExit activity =>
      exact kept.abnormalExit isNext
  | reportDestroyed token =>
      obtain ⟨_, record, _, isRecord, _, isStarted⟩ :=
        startDestroyed_cases isNext
      subst isStarted
      exact kept.destroyed isRecord rfl
  | activityGone token =>
      rw [← Option.some.inj isNext]
      exact kept.frame (leaveApp_frame manager token).1
  | setForeground app isForeground =>
      obtain ⟨_, _, isSet⟩ := Option.map_eq_some_iff.mp isNext
      subst isSet
      exact kept.frame rfl
  | stopApplication app =>
      obtain ⟨_, _, isSet⟩ := Option.map_eq_some_iff.mp isNext
      subst isSet
      exact kept.frame rfl
  | markStopped app =>
      obtain ⟨_, _, isSet⟩ := Option.map_eq_some_iff.mp isNext
      subst isSet
      exact kept.frame rfl
  | forget token =>
      rw [← Option.some.inj isNext]
      exact kept.frame rfl
  | attachApplication packageName systemui pid =>
      rw [← Option.some.inj isNext]
      exact kept.frame rfl
  | deleteAppInfo app =>
      obtain ⟨_, _, _, isDeleted⟩ := deleteAppInfo_cases isNext
      subst isDeleted
      exact kept.frame rfl
  | clockAdvances ms =>
      rw [← Option.some.inj isNext]
      exact kept.frame rfl
  | holdTasks tasks =>
      rw [← Option.some.inj isNext]
      exact kept.frame rfl
  | relist lists =>
      rw [← Option.some.inj isNext]
      exact kept.frame rfl

end TableKept

/-! ## Every run -/

/-- A new service. -/
theorem TableKept.start (now : Nat) :
    TableKept (TaskStackManager.start now) where
  statuses := nofun
  targets := nofun

/-- The parts of what keeps to the table do. -/
theorem recordKeepsTable_of_isPartOf
    {before : TaskStackManager}
    {action : ActivityAction}
    {primitive : RecordAction}
    (keeps : before.keepsTable action = true)
    (isPart : before.IsPartOf action manager primitive) :
    manager.RecordKeepsTable primitive := by
  have ofOwn :
      manager.IsOwn primitive →
      manager.RecordKeepsTable primitive := by
    intro isOwn
    cases primitive with
    | statusReport token status =>
        exact isOwn.elim
    | turn activity toStatus =>
        exact isOwn
    | _ =>
        trivial
  cases action with
  | lifecycleTransition activity toStatus =>
      rcases isPart with isOwn | isTurn
      · exact ofOwn isOwn
      · rw [isTurn]
        exact Or.inl (of_decide_eq_true keeps)
  | record action =>
      obtain ⟨isBefore, isAction⟩ := isPart
      subst isBefore
      subst isAction
      cases primitive with
      | turn activity toStatus =>
          have asked :
              toStatus ∈ requestedStatuses ∨
                (manager.activities activity).any
                  (·.mTargetStatus = toStatus) = true := by
            simpa [keepsTable] using keeps
          refine asked.imp_right ?_
          intro isTarget
          cases isRecord : manager.activities activity with
          | none =>
              rw [isRecord] at isTarget
              exact absurd isTarget Bool.false_ne_true
          | some record =>
              rw [isRecord, Option.any_some] at isTarget
              exact ⟨record, rfl, of_decide_eq_true isTarget⟩
      | statusReport token status =>
          exact keeps
      | _ =>
          trivial
  | manager action =>
      rcases isPart with isOwn | isPart
      · exact ofOwn isOwn
      · cases primitive with
        | turn activity toStatus =>
            cases action <;> simp at isPart
        | statusReport token status =>
            cases action with
            | reportActivityStatus reported isStatus =>
                have isReport :
                    manager = before ∧
                      token = reported ∧ status = isStatus := by
                  simpa using isPart.resolve_right (by simp)
                obtain ⟨rfl, rfl, rfl⟩ := isReport
                exact keeps
            | _ =>
                simp at isPart
        | _ =>
            trivial

/-- Everything that keeps to the table stays in bounds while it happens. -/
theorem TableKept.during
    {middle : TaskStackManager}
    {action : ActivityAction}
    (kept : TableKept manager)
    (keeps : manager.keepsTable action = true)
    (reached :
      Reachable recordStep? (manager.IsPartOf action) manager middle) :
    TableKept middle := by
  refine Reachable.invariant kept ?_ reached
  intro state primitive later stillKept isPart isLater
  exact stillKept.step (recordKeepsTable_of_isPartOf keeps isPart) isLater

/-- A report that stays in bounds keeps to the table. -/
theorem reportKeepsTable_of_lookupsInside
    {token : Nat}
    {status : Status}
    (inside :
      manager.LookupsInside (.manager (.reportActivityStatus token status))) :
    manager.reportKeepsTable token status = true := by
  by_contra breaks
  rw [Bool.not_eq_true, reportKeepsTable, Bool.or_eq_false_iff,
    Bool.not_eq_false', Bool.and_eq_true, decide_eq_true_eq] at breaks
  obtain ⟨⟨known, awaited⟩, outside⟩ := breaks
  obtain ⟨handler, isFirst⟩ := Option.isSome_iff_exists.mp awaited
  cases isRecord : manager.activities token with
  | none =>
      rw [isRecord] at outside
      exact absurd outside (by simp)
  | some record =>
      rw [isRecord, Option.all_some] at outside
      have stepped :
          manager.recordStep? (.statusReport token status) =
            some
              ((manager.done handler.serial).setRecord token
                (storeReport record status)) := by
        simp [recordStep?, statusReport, known, isFirst, isRecord]
      have isPart :
          manager.IsPartOf (.manager (.reportActivityStatus token status))
            manager (.statusReport token status) :=
        Or.inr (Or.inl ⟨rfl, rfl⟩)
      have looksUp := inside _ (.step .initial isPart stepped)
      have between :
          (storeReport record status).isTransitional = false := by
        rw [ActivityRecord.isTransitional]
        exact (Bool.or_eq_false_iff.mp outside).1
      have inTable :=
        looksUp token _ _ (Function.update_self _ _ _) (Or.inr rfl) between
      have row := le_of_inTable inTable
      rw [hasRowOrNone, decide_eq_true row.1, decide_eq_true row.2,
        Bool.and_true, Bool.or_true] at outside
      cases outside

/--
In every run whose reports keep to the table, all lookups are in bounds.  The
next report keeps them there if and only if it keeps to the table itself.
-/
theorem lookupsInside_of_reachable
    {now : Nat}
    (reachable :
      Reachable activityStep?
        (fun manager action => manager.keepsTable action = true)
        (TaskStackManager.start now) manager) :
    manager.NoLookupOutside ∧
      (∀ action,
        manager.keepsTable action = true →
        manager.LookupsInside action) ∧
      ∀ token status,
        manager.LookupsInside
            (.manager (.reportActivityStatus token status)) ↔
          manager.reportKeepsTable token status = true := by
  have kept : TableKept manager := by
    refine Reachable.invariant (TableKept.start now) ?_ reachable
    intro state action final stillKept keeps stepped
    exact stillKept.during keeps (activityStep?_run stepped)
  have inside :
      ∀ action,
        manager.keepsTable action = true →
        manager.LookupsInside action :=
    fun _ keeps _ reached => (kept.during keeps reached).noLookupOutside
  refine ⟨kept.noLookupOutside, inside, ?_⟩
  intro token status
  constructor
  · exact reportKeepsTable_of_lookupsInside
  · exact inside (.manager (.reportActivityStatus token status))

/-- An activity is launched, created and started. -/
def startedRun : Option TaskStackManager :=
  run? activityStep? (TaskStackManager.start 0)
    [.manager (.attachApplication "home" false 10),
      .manager (.pushNewActivity "home/Main" 0 0 ⟨"home", "", "", 0⟩ 0),
      .manager (.reportActivityStatus 0 Status.created),
      .manager (.reportActivityStatus 0 15),
      .manager (.clockAdvances 100)]

theorem startedRun_lookupsInside :
    (startedRun.get rfl).NoLookupOutside ∧
      (∀ action,
        (startedRun.get rfl).keepsTable action = true →
        (startedRun.get rfl).LookupsInside action) ∧
      ∀ token status,
        (startedRun.get rfl).LookupsInside
            (.manager (.reportActivityStatus token status)) ↔
          (startedRun.get rfl).reportKeepsTable token status = true := by
  have accepted : startedRun = some (startedRun.get rfl) :=
    (Option.some_get _).symm
  exact
    lookupsInside_of_reachable (Reachable.of_run? (by decide) accepted)

/-- An activity is launched. -/
def launchedRun : Option TaskStackManager :=
  run? activityStep? (TaskStackManager.start 0)
    [.manager (.attachApplication "home" false 10),
      .manager (.pushNewActivity "home/Main" 0 0 ⟨"home", "", "", 0⟩ 0)]

/-- Its client reports a status of 100, which has no row. -/
theorem launchedRun_looksUpOutside :
    ¬ (launchedRun.get rfl).LookupsInside
        (.manager (.reportActivityStatus 0 100)) ∧
      (launchedRun.get rfl).step? (.reportActivityStatus 0 100) =
        none := by
  refine ⟨fun inside => ?_, by decide⟩
  have keeps := reportKeepsTable_of_lookupsInside inside
  exact absurd keeps (by decide)

end TaskStackManager

end ActivityManager
