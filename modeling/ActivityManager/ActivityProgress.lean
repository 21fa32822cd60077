import ActivityManager.TaskManagerParts

/-!
# No activity hangs

An activity with a transitional status waits for its client.  The client may
never answer; then the timeout of a lifecycle task moves the activity on.  So
a transitional status must never outlive the last such task on the board.
-/

namespace ActivityManager

open StepSystem (Reachable run?)

/-! ## Numbered tasks -/

namespace TaskBoard

variable {Task Label : Type} {board : TaskBoard Task}

/-- The serial numbers tell the handlers of a board apart. -/
structure Numbered (board : TaskBoard Task) : Prop where
  distinct : board.serials.Nodup
  used : ∀ serial ∈ board.serials, serial < board.committed

/-- A commit takes a new number. -/
theorem Numbered.commitTask
    (numbered : Numbered board)
    (task : Task)
    (msLimitedTime : Nat) :
    Numbered (board.commitTask task msLimitedTime) := by
  have serials :
      (board.commitTask task msLimitedTime).serials =
        board.serials ++ [board.committed] := by
    simp [TaskBoard.serials, newHandler]
  constructor
  · rw [serials, List.nodup_append]
    refine ⟨numbered.distinct, List.nodup_singleton _, ?_⟩
    intro serial member other isNew
    rw [List.mem_singleton.mp isNew]
    exact Nat.ne_of_lt (numbered.used serial member)
  · intro serial member
    rw [serials, List.mem_append, List.mem_singleton] at member
    rw [commitTask_committed]
    rcases member with isOld | isNew
    · exact Nat.lt_succ_of_lt (numbered.used serial isOld)
    · rw [isNew]
      exact Nat.lt_succ_self _

/-- Marks do not change the numbers. -/
theorem Numbered.markDone
    (numbered : Numbered board)
    (serial : Nat) :
    Numbered (board.markDone serial) := by
  constructor
  · rw [markDone_serials]
    exact numbered.distinct
  · rw [markDone_serials]
    exact numbered.used

/-- Nor do removals. -/
theorem Numbered.removeTask
    [BoardLabels Task Label]
    (numbered : Numbered board)
    (event : Label) :
    Numbered (board.removeTask event) := by
  have fewer : (board.removeTask event).serials.Sublist board.serials :=
    List.filter_sublist.map _
  exact
    ⟨numbered.distinct.sublist fewer,
      fun serial member => numbered.used serial (fewer.subset member)⟩

/-- Handlers with the same number are the same. -/
theorem Numbered.eq_of_serial
    {first second : TaskTimeoutHandler Task}
    (numbered : Numbered board)
    (firstOn : first ∈ board.mTasklist)
    (secondOn : second ∈ board.mTasklist)
    (sameSerial : first.serial = second.serial) :
    first = second :=
  List.inj_on_of_nodup_map numbered.distinct firstOn secondOn sameSerial

end TaskBoard

namespace TaskStackManager

/-- A lifecycle task of an activity is on the board, and not done. -/
def Awaited
    (manager : TaskStackManager)
    (activity : Nat) : Prop :=
  ∃ handler ∈ manager.mPendTask.mTasklist,
    handler.mIsDone = false ∧ handler.mTask = .lifeCycle activity

variable
  {manager next : TaskStackManager}
  {activity : Nat}

/-- Tasks that stay on the board. -/
theorem Awaited.mono
    (awaited : manager.Awaited activity)
    (stays :
      ∀ handler ∈ manager.mPendTask.mTasklist,
        handler ∈ next.mPendTask.mTasklist) :
    next.Awaited activity := by
  obtain ⟨handler, onBoard, isTask⟩ := awaited
  exact ⟨handler, stays handler onBoard, isTask⟩

/-- Another task than those of an activity is done. -/
theorem Awaited.done
    {serial : Nat}
    {task : PendTask}
    (awaited : manager.Awaited activity)
    (numbered : manager.mPendTask.Numbered)
    (pending : manager.isPending serial task = true)
    (isOther : task ≠ .lifeCycle activity) :
    (manager.done serial).Awaited activity := by
  obtain ⟨handler, onBoard, notDone, isTask⟩ := awaited
  obtain ⟨other, otherOn, isPending⟩ := List.any_eq_true.mp pending
  rw [decide_eq_true_eq] at isPending
  have isDifferent : handler.serial ≠ serial := by
    intro sameSerial
    have same :=
      numbered.eq_of_serial onBoard otherOn
        (sameSerial.trans isPending.1.symm)
    rw [← isPending.2.2, ← same] at isOther
    exact isOther isTask
  refine ⟨handler, ?_, notDone, isTask⟩
  refine List.mem_map.mpr ⟨handler, onBoard, ?_⟩
  rw [if_neg isDifferent]

/-- A removal of waits keeps lifecycle tasks. -/
theorem Awaited.removeTask
    {token : Nat}
    (awaited : manager.Awaited activity)
    (isRemoved :
      next.mPendTask =
        manager.mPendTask.removeTask
          (PendEvent.activityWaitResume token)) :
    next.Awaited activity := by
  obtain ⟨handler, onBoard, notDone, isTask⟩ := awaited
  refine ⟨handler, ?_, notDone, isTask⟩
  rw [isRemoved]
  refine List.mem_filter.mpr ⟨onBoard, ?_⟩
  rw [isTask]
  rfl

/-! ## Records -/

/-- An activity that is to have a settled status, and is awaited if not. -/
structure Progressing (manager : TaskStackManager) : Prop where
  numbered : manager.mPendTask.Numbered
  targets :
    ∀ activity record,
      manager.activities activity = some record →
      record.mTargetStatus ∈ settledStatuses
  awaited :
    ∀ activity record,
      manager.activities activity = some record →
      record.isTransitional = true →
      manager.Awaited activity

end TaskStackManager

/-- A settled status is not transitional. -/
theorem not_isTransitional_of_settled
    {record : ActivityRecord}
    (settled : record.mStatus ∈ settledStatuses) :
    record.isTransitional = false := by
  simp only [settledStatuses, List.mem_cons, List.mem_nil_iff,
    or_false] at settled
  rw [ActivityRecord.isTransitional]
  rcases settled with
    status | status | status | status | status | status | status <;>
    rw [status] <;> rfl

namespace TaskStackManager

variable
  {manager next : TaskStackManager}
  {activity : Nat}

/-- Requests and reports of settled statuses. -/
def Settling
    (manager : TaskStackManager) :
    RecordAction → Prop
  | .turn activity toStatus =>
      toStatus ∈ settledStatuses ∨
        ∃ record,
          manager.activities activity = some record ∧
            record.mTargetStatus = toStatus
  | .statusReport _ status => status ∈ settledStatuses
  | _ => True

namespace Progressing

/-- One record changes, and the tasks of other activities stay. -/
theorem change
    {changed : ActivityRecord}
    (progressing : Progressing manager)
    (numbered : next.mPendTask.Numbered)
    (isChanged :
      next.activities =
        Function.update manager.activities activity (some changed))
    (stays :
      ∀ other,
        other ≠ activity →
        manager.Awaited other →
        next.Awaited other)
    (target : changed.mTargetStatus ∈ settledStatuses)
    (waits :
      changed.isTransitional = true →
      next.Awaited activity) :
    Progressing next := by
  refine ⟨numbered, ?_, ?_⟩
  · intro other record isRecord
    rw [isChanged] at isRecord
    by_cases isThis : other = activity
    · rw [isThis, Function.update_self] at isRecord
      rw [← Option.some.inj isRecord]
      exact target
    · rw [Function.update_of_ne isThis] at isRecord
      exact progressing.targets other record isRecord
  · intro other record isRecord transitional
    rw [isChanged] at isRecord
    by_cases isThis : other = activity
    · rw [isThis, Function.update_self] at isRecord
      rw [← Option.some.inj isRecord] at transitional
      rw [isThis]
      exact waits transitional
    · rw [Function.update_of_ne isThis] at isRecord
      exact stays other isThis
        (progressing.awaited other record isRecord transitional)

/-- The records and the tasks stay. -/
theorem frame
    (progressing : Progressing manager)
    (sameRecords : next.activities = manager.activities)
    (sameBoard : next.mPendTask = manager.mPendTask) :
    Progressing next := by
  refine ⟨?_, ?_, ?_⟩
  · rw [sameBoard]
    exact progressing.numbered
  · rw [sameRecords]
    exact progressing.targets
  · intro activity record isRecord transitional
    rw [sameRecords] at isRecord
    apply (progressing.awaited activity record isRecord transitional).mono
    rw [sameBoard]
    exact fun _ member => member

/-- A record gets a settled status. -/
theorem settle
    {record changed : ActivityRecord}
    (progressing : Progressing manager)
    (isRecord : manager.activities activity = some record)
    (numbered : next.mPendTask.Numbered)
    (isChanged :
      next.activities =
        Function.update manager.activities activity (some changed))
    (stays :
      ∀ other,
        other ≠ activity →
        manager.Awaited other →
        next.Awaited other)
    (sameTarget : changed.mTargetStatus = record.mTargetStatus)
    (settled : changed.mStatus ∈ settledStatuses) :
    Progressing next := by
  refine progressing.change numbered isChanged stays ?_ ?_
  · rw [sameTarget]
    exact progressing.targets activity record isRecord
  · intro transitional
    rw [not_isTransitional_of_settled settled] at transitional
    exact absurd transitional Bool.false_ne_true

/-- A record changes, but not its statuses. -/
theorem rewrite
    {record changed : ActivityRecord}
    (progressing : Progressing manager)
    (isRecord : manager.activities activity = some record)
    (sameBoard : next.mPendTask = manager.mPendTask)
    (isChanged :
      next.activities =
        Function.update manager.activities activity (some changed))
    (target : changed.mTargetStatus ∈ settledStatuses)
    (sameStatus : changed.mStatus = record.mStatus) :
    Progressing next := by
  have stays :
      ∀ other, manager.Awaited other → next.Awaited other := by
    intro other awaited
    apply awaited.mono
    rw [sameBoard]
    exact fun _ member => member
  refine
    progressing.change ?_ isChanged (fun other _ => stays other) target ?_
  · rw [sameBoard]
    exact progressing.numbered
  · intro transitional
    rw [ActivityRecord.isTransitional, sameStatus] at transitional
    exact stays activity
      (progressing.awaited activity record isRecord transitional)

/-- A request: a command that starts is awaited. -/
theorem turn
    {toStatus : Status}
    (progressing : Progressing manager)
    (settling : manager.Settling (.turn activity toStatus))
    (isNext : manager.turn activity toStatus = some next) :
    Progressing next := by
  obtain ⟨record, transition, turned⟩ := turn_cases isNext
  have requested : toStatus ∈ settledStatuses := by
    rcases settling with isSettled | ⟨found, isFound, isTarget⟩
    · exact isSettled
    · rw [← isTarget]
      exact progressing.targets activity found isFound
  have target :
      transition.activity.mTargetStatus ∈ settledStatuses := by
    obtain ⟨_, _, _, target, _⟩ :=
      ActivityRecord.lifecycleTransition?_frame turned.turned
    rcases target with isSame | isRequested
    · rw [isSame]
      exact progressing.targets activity record turned.isRecord
    · rw [isRequested]
      exact requested
  have board := turned.mPendTask
  cases commits : transition.commits with
  | true =>
      rw [commits, if_pos rfl] at board
      have stays :
          ∀ other, manager.Awaited other → next.Awaited other := by
        intro other awaited
        apply awaited.mono
        intro handler onBoard
        rw [board, TaskBoard.commitTask_mTasklist]
        exact List.mem_append_left _ onBoard
      have waits : next.Awaited activity := by
        refine
          ⟨manager.mPendTask.newHandler (.lifeCycle activity)
            requestTimeoutMs, ?_, rfl, rfl⟩
        rw [board, TaskBoard.commitTask_mTasklist]
        exact List.mem_append_right _ (List.mem_singleton_self _)
      refine
        progressing.change ?_ turned.activities
          (fun other _ => stays other) target (fun _ => waits)
      rw [board]
      exact progressing.numbered.commitTask _ _
  | false =>
      rw [commits, if_neg Bool.false_ne_true] at board
      have sameStatus : transition.activity.mStatus = record.mStatus := by
        rcases ActivityRecord.lifecycleTransition?_cases turned.turned with
          ⟨_, isRemembered⟩ | ⟨_, _, isSame⟩ |
            ⟨_, _, _, _, _, isCommand⟩
        · rw [isRemembered]
        · rw [isSame]
        · rw [isCommand] at commits
          cases commits
      exact
        progressing.rewrite turned.isRecord board turned.activities target
          sameStatus

/-- An activity ends, possibly after one of its tasks. -/
theorem abnormalExit
    {middle : TaskStackManager}
    (progressing : Progressing manager)
    (numbered : middle.mPendTask.Numbered)
    (sameRecords : middle.activities = manager.activities)
    (stays :
      ∀ other,
        other ≠ activity →
        manager.Awaited other →
        middle.Awaited other)
    (isNext : middle.abnormalExit activity = some next) :
    Progressing next := by
  have isDestroyed : Status.destroyed ∈ settledStatuses := by
    simp [settledStatuses]
  obtain ⟨record, isRecord, hasEnded⟩ := abnormalExit_cases isNext
  have isChanged :
      next.activities =
        Function.update manager.activities activity
          (some (record.setStatus Status.destroyed)) := by
    rw [← sameRecords]
    rcases hasEnded with ⟨_, hasEnded⟩ | ⟨_, _, _, _, hasEnded⟩
    · rw [hasEnded]
      rfl
    · rw [hasEnded]
      rfl
  have sameBoard : next.mPendTask = middle.mPendTask := by
    rcases hasEnded with ⟨_, hasEnded⟩ | ⟨_, _, _, _, hasEnded⟩
    · rw [hasEnded]
      rfl
    · rw [hasEnded]
      rfl
  rw [sameRecords] at isRecord
  refine progressing.settle isRecord ?_ isChanged ?_ rfl isDestroyed
  · rw [sameBoard]
    exact numbered
  · intro other isOther awaited
    apply (stays other isOther awaited).mono
    rw [sameBoard]
    exact fun _ member => member

/-- A lifecycle task times out. -/
theorem giveUp
    {serial : Nat}
    (progressing : Progressing manager)
    (isNext : manager.giveUp serial activity = some next) :
    Progressing next := by
  obtain ⟨pending, record, isRecord, ended⟩ := giveUp_cases isNext
  have numbered := progressing.numbered.markDone serial
  have stays :
      ∀ other,
        other ≠ activity →
        manager.Awaited other →
        (manager.done serial).Awaited other := by
    intro other isOther awaited
    apply awaited.done progressing.numbered pending
    intro sameTask
    exact isOther (PendTask.lifeCycle.inj sameTask).symm
  rcases ended with ⟨isThere, isDone⟩ | ⟨_, exited⟩
  · subst isDone
    refine progressing.settle isRecord numbered ?_ stays rfl ?_
    · exact (Function.update_eq_self_iff.mpr isRecord.symm).symm
    · rw [isThere]
      exact progressing.targets activity record isRecord
  · have sameRecords :
        (manager.done serial).activities = manager.activities :=
      rfl
    exact progressing.abnormalExit numbered sameRecords stays exited

/-- A settled status is reported. -/
theorem statusReport
    {token : Nat}
    {status : Status}
    (progressing : Progressing manager)
    (settled : status ∈ settledStatuses)
    (isNext : manager.statusReport token status = some next) :
    Progressing next := by
  rcases statusReport_cases isNext with
    isSame | ⟨handler, record, _, isFirst, isRecord, isStored⟩
  · subst isSame
    exact progressing
  · have pending := isPending_of_firstPending isFirst
    rw [isLifeCycle_of_firstPending isFirst] at pending
    have notError : status ≠ Status.error := by
      rintro rfl
      simp [settledStatuses] at settled
    rw [storeReport, if_neg notError] at isStored
    subst isStored
    refine
      progressing.settle isRecord
        (progressing.numbered.markDone handler.serial) rfl ?_ rfl settled
    intro other isOther awaited
    apply awaited.done progressing.numbered pending
    intro sameTask
    exact isOther (PendTask.lifeCycle.inj sameTask).symm

/-- A wait that is over is no lifecycle task. -/
theorem complete
    {serial : Nat}
    {task : PendTask}
    (progressing : Progressing manager)
    (isNext : manager.complete serial task = some next) :
    Progressing next := by
  obtain ⟨pending, isWait, isDone⟩ := complete_cases isNext
  subst isDone
  refine
    ⟨progressing.numbered.markDone serial, progressing.targets, ?_⟩
  intro activity record isRecord transitional
  apply
    (progressing.awaited activity record isRecord transitional).done
      progressing.numbered pending
  intro isLifeCycle
  rw [isLifeCycle] at isWait
  exact absurd isWait Bool.false_ne_true

/-- A report that an activity is destroyed. -/
theorem startDestroyed
    {token : Nat}
    (progressing : Progressing manager)
    (isNext : manager.startDestroyed token = some next) :
    Progressing next := by
  obtain ⟨_, record, board, isRecord, isBoard, isStarted⟩ :=
    startDestroyed_cases isNext
  have isDestroyed : Status.destroyed ∈ settledStatuses := by
    simp [settledStatuses]
  subst isStarted
  rcases isBoard with isSame | isRemoved
  · subst isSame
    exact progressing.settle isRecord progressing.numbered rfl
      (fun _ _ awaited => awaited) rfl isDestroyed
  · subst isRemoved
    exact progressing.settle isRecord
      (progressing.numbered.removeTask _) rfl
      (fun _ _ awaited => awaited.removeTask rfl) rfl isDestroyed

/-- Every primitive step keeps activities progressing. -/
theorem step
    {action : RecordAction}
    (progressing : Progressing manager)
    (settling : manager.Settling action)
    (isNext : manager.recordStep? action = some next) :
    Progressing next := by
  cases action with
  | createActivity name targetTask intent =>
      rw [← Option.some.inj isNext]
      refine
        progressing.change progressing.numbered rfl
          (fun _ _ awaited => awaited) ?_ ?_
      · simp [ActivityRecord.fresh, settledStatuses]
      · intro transitional
        rw [not_isTransitional_of_settled
          (by simp [ActivityRecord.fresh, settledStatuses])]
          at transitional
        exact absurd transitional Bool.false_ne_true
  | setAppThread activity app =>
      obtain ⟨record, isRecord, isSet⟩ := setAppThread_cases isNext
      subst isSet
      exact progressing.rewrite isRecord rfl rfl
        (progressing.targets activity record isRecord) rfl
  | turn activity toStatus =>
      exact progressing.turn settling isNext
  | setIntent activity intent =>
      obtain ⟨record, isRecord, isSet⟩ := setIntent_cases isNext
      subst isSet
      exact progressing.rewrite isRecord rfl rfl
        (progressing.targets activity record isRecord) rfl
  | restart activity =>
      obtain ⟨record, isRecord, isSet⟩ := setStatus_cases isNext
      subst isSet
      exact progressing.settle isRecord progressing.numbered rfl
        (fun _ _ awaited => awaited) rfl
        (by simp [settledStatuses, ActivityRecord.setStatus])
  | commit task =>
      obtain ⟨_, isCommitted⟩ := commit_cases isNext
      rw [isCommitted]
      refine
        ⟨progressing.numbered.commitTask task requestTimeoutMs,
          progressing.targets, ?_⟩
      intro activity record isRecord transitional
      apply
        (progressing.awaited activity record isRecord
          transitional).mono
      intro handler onBoard
      rw [commit, TaskBoard.commitTask_mTasklist]
      exact List.mem_append_left _ onBoard
  | complete serial task =>
      exact progressing.complete isNext
  | statusReport token status =>
      exact progressing.statusReport settling isNext
  | giveUp serial activity =>
      exact progressing.giveUp isNext
  | abnormalExit activity =>
      exact progressing.abnormalExit progressing.numbered rfl
        (fun _ _ awaited => awaited) isNext
  | reportDestroyed token =>
      exact progressing.startDestroyed isNext
  | activityGone token =>
      rw [← Option.some.inj isNext]
      obtain ⟨sameRecords, sameBoard, _⟩ := leaveApp_frame manager token
      exact progressing.frame sameRecords sameBoard
  | setForeground app isForeground =>
      obtain ⟨_, _, isSet⟩ := Option.map_eq_some_iff.mp isNext
      subst isSet
      exact progressing.frame rfl rfl
  | stopApplication app =>
      obtain ⟨_, _, isSet⟩ := Option.map_eq_some_iff.mp isNext
      subst isSet
      exact progressing.frame rfl rfl
  | markStopped app =>
      obtain ⟨_, _, isSet⟩ := Option.map_eq_some_iff.mp isNext
      subst isSet
      exact progressing.frame rfl rfl
  | forget token =>
      rw [← Option.some.inj isNext]
      exact progressing.frame rfl rfl
  | attachApplication packageName systemui pid =>
      rw [← Option.some.inj isNext]
      exact progressing.frame rfl rfl
  | deleteAppInfo app =>
      obtain ⟨_, _, _, isDeleted⟩ := deleteAppInfo_cases isNext
      subst isDeleted
      exact progressing.frame rfl rfl
  | clockAdvances ms =>
      rw [← Option.some.inj isNext]
      refine ⟨⟨?_, ?_⟩, progressing.targets, progressing.awaited⟩
      · exact progressing.numbered.distinct
      · exact progressing.numbered.used
  | holdTasks tasks =>
      rw [← Option.some.inj isNext]
      exact progressing.frame rfl rfl
  | relist lists =>
      rw [← Option.some.inj isNext]
      exact progressing.frame rfl rfl

end Progressing

/-! ## Every run -/

/-- A new service. -/
theorem Progressing.start (now : Nat) :
    Progressing (TaskStackManager.start now) where
  numbered := ⟨List.nodup_nil, nofun⟩
  targets := nofun
  awaited := nofun

/-- The parts of a settled action ask for settled statuses. -/
theorem settling_of_isPartOf
    {before : TaskStackManager}
    {action : ActivityAction}
    {primitive : RecordAction}
    (settled : action.isSettled = true)
    (isPart : before.IsPartOf action manager primitive) :
    manager.Settling primitive := by
  have ofOwn : manager.IsOwn primitive → manager.Settling primitive := by
    intro isOwn
    cases primitive with
    | turn activity toStatus =>
        refine isOwn.imp_left ?_
        intro requested
        simp only [requestedStatuses, List.mem_cons, List.mem_nil_iff,
          or_false] at requested
        rcases requested with isIt | isIt | isIt | isIt <;>
          simp [isIt, settledStatuses]
    | statusReport token status =>
        exact isOwn.elim
    | _ =>
        trivial
  cases action with
  | lifecycleTransition activity toStatus =>
      rcases isPart with isOwn | isTurn
      · exact ofOwn isOwn
      · rw [isTurn]
        exact Or.inl (of_decide_eq_true settled)
  | record action =>
      rw [isPart.2]
      cases action with
      | turn activity toStatus =>
          exact Or.inl (of_decide_eq_true settled)
      | statusReport token status =>
          have isMember : status ∈ settledStatuses :=
            of_decide_eq_true settled
          exact isMember
      | _ =>
          trivial
  | manager action =>
      rcases isPart with isOwn | isPart
      · exact ofOwn isOwn
      · cases primitive with
        | turn activity toStatus =>
            cases action <;> simp at isPart
        | statusReport token status =>
            cases action with
            | reportActivityStatus reported isStatus =>
                have same : token = reported ∧ status = isStatus := by
                  simpa using (isPart.resolve_right (by simp)).2
                have isMember : isStatus ∈ settledStatuses :=
                  of_decide_eq_true settled
                rw [same.2]
                exact isMember
            | _ =>
                simp at isPart
        | _ =>
            trivial

/-- Everything keeps activities progressing. -/
theorem Progressing.of_reachable
    {now : Nat}
    (reachable :
      Reachable activityStep? (fun _ action => action.isSettled = true)
        (TaskStackManager.start now) manager) :
    Progressing manager := by
  refine Reachable.invariant (Progressing.start now) ?_ reachable
  intro state action final progressing settled stepped
  refine Reachable.invariant progressing ?_ (activityStep?_run stepped)
  intro middle primitive later stillProgressing isPart isLater
  exact stillProgressing.step (settling_of_isPartOf settled isPart)
    isLater

/--
The ways in which an activity leaves its status: any settled status that the
client reports, and the timeout of a task on the board.
-/
structure MovesOn
    (manager : TaskStackManager)
    (activity : Nat) : Prop where
  byReport :
    activity ∈ manager.mActivityMap →
    ∀ status ∈ settledStatuses,
      ∃ next record,
        manager.statusReport activity status = some next ∧
          next.activities activity = some record ∧
          record.mStatus = status
  byTimeout :
    ∃ serial next record,
      manager.giveUp serial activity = some next ∧
        next.activities activity = some record ∧
        record.isTransitional = false

/-- An awaited report is stored. -/
theorem Awaited.byReport
    {status : Status}
    {record : ActivityRecord}
    (awaited : manager.Awaited activity)
    (known : activity ∈ manager.mActivityMap)
    (isRecord : manager.activities activity = some record)
    (settled : status ∈ settledStatuses) :
    ∃ next stored,
      manager.statusReport activity status = some next ∧
        next.activities activity = some stored ∧
        stored.mStatus = status := by
  obtain ⟨handler, onBoard, notDone, isTask⟩ := awaited
  have pending :
      (manager.mPendTask.firstPending
        (PendEvent.activityStatusReport status activity)).isSome =
        true := by
    apply List.find?_isSome.mpr
    refine ⟨handler, onBoard, ?_⟩
    simp [TaskTimeoutHandler.pendingFor, notDone, isTask,
      BoardLabels.equalsLabel]
  obtain ⟨first, isFirst⟩ := Option.isSome_iff_exists.mp pending
  have notError : status ≠ Status.error := by
    rintro rfl
    simp [settledStatuses] at settled
  refine
    ⟨(manager.done first.serial).setRecord activity
        (record.setStatus status),
      record.setStatus status, ?_, Function.update_self _ _ _, rfl⟩
  rw [TaskStackManager.statusReport, if_pos known, isFirst]
  simp only [isRecord, Option.bind_eq_bind, Option.bind_some]
  rw [storeReport, if_neg notError]

/-- An awaited activity that gives up is destroyed. -/
theorem Awaited.byTimeout
    {record : ActivityRecord}
    (awaited : manager.Awaited activity)
    (isRecord : manager.activities activity = some record)
    (onItsWay : record.mStatus ≠ record.mTargetStatus) :
    ∃ serial next ended,
      manager.giveUp serial activity = some next ∧
        next.activities activity = some ended ∧
        ended.isTransitional = false := by
  obtain ⟨handler, onBoard, notDone, isTask⟩ := awaited
  have pending :
      manager.isPending handler.serial (.lifeCycle activity) = true :=
    List.any_eq_true.mpr ⟨handler, onBoard, by simp [notDone, isTask]⟩
  have exits :
      manager.giveUp handler.serial activity =
        (manager.done handler.serial).abnormalExit activity := by
    rw [giveUp, if_pos pending, isRecord]
    exact if_neg onItsWay
  have isRecordThen :
      (manager.done handler.serial).activities activity = some record :=
    isRecord
  obtain ⟨next, isNext⟩ := exists_abnormalExit isRecordThen
  obtain ⟨found, _, hasEnded⟩ := abnormalExit_cases isNext
  refine
    ⟨handler.serial, next, found.setStatus Status.destroyed,
      exits.trans isNext, ?_, rfl⟩
  rcases hasEnded with ⟨_, hasEnded⟩ | ⟨_, _, _, _, hasEnded⟩
  · rw [hasEnded]
    exact Function.update_self _ _ _
  · rw [hasEnded]
    exact Function.update_self _ _ _

/--
In every run, an activity with a transitional status has a lifecycle task on
the board that is not done, which moves it on.
-/
theorem noneHangs_of_reachable
    {now : Nat}
    (reachable :
      Reachable activityStep? (fun _ action => action.isSettled = true)
        (TaskStackManager.start now) manager) :
    ∀ activity record,
      manager.activities activity = some record →
      record.isTransitional = true →
      manager.Awaited activity ∧ manager.MovesOn activity := by
  intro activity record isRecord transitional
  have progressing := Progressing.of_reachable reachable
  have awaited := progressing.awaited activity record isRecord transitional
  have onItsWay : record.mStatus ≠ record.mTargetStatus := by
    intro isThere
    have settled := progressing.targets activity record isRecord
    rw [← isThere] at settled
    rw [not_isTransitional_of_settled settled] at transitional
    exact absurd transitional Bool.false_ne_true
  refine ⟨awaited, ?_, awaited.byTimeout isRecord onItsWay⟩
  intro known status settled
  exact awaited.byReport known isRecord settled

/--
A report that comes twice is stored for the wrong task, the activity is
restarted while it starts, and another one ends abnormally.
-/
def restlessRun : Option TaskStackManager :=
  run? activityStep? (TaskStackManager.start 0)
    [.manager (.attachApplication "home" false 10),
      .manager (.pushNewActivity "home/Main" 0 0 ⟨"home", "", "", 0⟩ 0),
      .manager (.reportActivityStatus 0 Status.created),
      .manager (.reportActivityStatus 0 Status.created),
      .manager (.turnToActivity 0 0 ⟨"home", "", "", 0⟩ 0),
      .lifecycleTransition 0 Status.paused,
      .manager (.clockAdvances 5000),
      .manager
        (.pushNewActivity "home/Settings" 0 0 ⟨"home", "", "", 0⟩ 0),
      .manager (.reportActivityStatus 0 Status.resumed),
      .record (.abnormalExit 1)]

theorem restlessRun_noneHangs :
    ((restlessRun.get rfl).activities 0).any
        ActivityRecord.isTransitional = true ∧
      ∀ activity record,
        (restlessRun.get rfl).activities activity = some record →
        record.isTransitional = true →
        (restlessRun.get rfl).Awaited activity ∧
          (restlessRun.get rfl).MovesOn activity := by
  have accepted : restlessRun = some (restlessRun.get rfl) :=
    (Option.some_get _).symm
  exact
    ⟨by decide,
      noneHangs_of_reachable (Reachable.of_run? (by decide) accepted)⟩

end TaskStackManager

end ActivityManager
