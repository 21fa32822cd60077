import ActivityManager.ClientStages
import ActivityManager.LifecycleTableBounds

/-!
# The protocol between the service and its clients

Every activity is at a stage.  The primitive steps of the task manager keep it
there or take it to the next one, except for a relaunch and a report, which
are steps of their own.
-/

namespace ActivityManager

open StepSystem (Reachable)

namespace TaskStackManager

variable
  {manager next : TaskStackManager}
  {activity : Nat}

/-! ## What a step leaves alone -/

/-- A report that an activity is destroyed makes the service forget it. -/
theorem reportDestroyed_mActivityMap
    {token : Nat}
    (isNext : manager.reportDestroyed token = some next) :
    next.mActivityMap = manager.mActivityMap.erase token := by
  obtain ⟨destroyed, isDestroyed, ends⟩ :=
    Option.bind_eq_some_iff.mp isNext
  have sameDestroyed : destroyed.mActivityMap = manager.mActivityMap := by
    obtain ⟨_, _, isSet⟩ := setStatus_cases isDestroyed
    rw [isSet]
    rfl
  dsimp only at ends
  split at ends
  · obtain ⟨deleted, isDeleted, isNext⟩ :=
      Option.bind_eq_some_iff.mp ends
    have sameDeleted :
        deleted.mActivityMap = destroyed.mActivityMap := by
      rw [deleteActivity_mActivityMap isDeleted]
      split <;> rfl
    rw [← Option.some.inj isNext]
    dsimp only
    rw [(leaveApp_frame deleted token).2.2, sameDeleted, sameDestroyed]
  · rw [← Option.some.inj ends]
    dsimp only
    rw [sameDestroyed]

/-- The status of an activity; nothing was asked of one without a record. -/
def statusOf
    (manager : TaskStackManager)
    (token : Nat) : Status :=
  (manager.activities token).elim Status.init ActivityRecord.mStatus

/-- No activity but one, if any, gets a command or a task. -/
structure Spares
    (before after : TaskStackManager)
    (activity : Option Nat) : Prop where
  fewer :
    ∀ token,
      some token ≠ activity →
      (after.lifeCycleTasks token).length ≤
        (before.lifeCycleTasks token).length
  commands :
    ∀ token,
      some token ≠ activity →
      after.commandsFor token = before.commandsFor token
  mActivityMap : after.mActivityMap.Sublist before.mActivityMap
  nextActivity : after.nextActivity = before.nextActivity

/-- If no activity gets any, none but one does. -/
theorem Spares.but
    (spares : Spares manager next none)
    (activity : Option Nat) :
    Spares manager next activity where
  fewer token _ := spares.fewer token (Option.some_ne_none token)
  commands token _ := spares.commands token (Option.some_ne_none token)
  mActivityMap := spares.mActivityMap
  nextActivity := spares.nextActivity

/-- Calls that are no commands, and fewer tasks. -/
theorem Spares.of_calls
    {calls : List Call}
    {activity : Option Nat}
    (fewer :
      ∀ token,
        (next.lifeCycleTasks token).length ≤
          (manager.lifeCycleTasks token).length)
    (isNext : next.calls = manager.calls ++ calls)
    (noCommand : ∀ call ∈ calls, call.commandToken = none)
    (mActivityMap : next.mActivityMap.Sublist manager.mActivityMap)
    (nextActivity : next.nextActivity = manager.nextActivity) :
    Spares manager next activity where
  fewer token _ := fewer token
  commands token _ := commandsFor_append isNext noCommand token
  mActivityMap := mActivityMap
  nextActivity := nextActivity

/-- The calls and the board stay. -/
theorem Spares.of_same
    {activity : Option Nat}
    (sameBoard : next.mPendTask = manager.mPendTask)
    (sameCalls : next.calls = manager.calls)
    (sameMap : next.mActivityMap = manager.mActivityMap)
    (sameNext : next.nextActivity = manager.nextActivity) :
    Spares manager next activity :=
  .of_calls
    (fun token => (congrArg _ (lifeCycleTasks_congr sameBoard token)).le)
    (sameCalls.trans (List.append_nil _).symm) (List.forall_mem_nil _)
    (sameMap ▸ List.Sublist.refl _) sameNext

/-- Commands have a function of their own. -/
theorem stopApplication_noCommand (record : AppRecord) :
    ∀ call ∈ record.stopApplication.2, call.commandToken = none := by
  unfold AppRecord.stopApplication
  split
  · simp [Call.commandToken]
  · simp

theorem setForeground_noCommand
    (record : AppRecord)
    (isForeground : Bool) :
    ∀ call ∈ (record.setForeground isForeground).2,
      call.commandToken = none := by
  unfold AppRecord.setForeground
  dsimp only
  split_ifs <;> simp [Call.commandToken]

end TaskStackManager

/-! ## All activities -/

namespace ClientRun

/-- The run after the task manager has moved. -/
def withManager
    (run : ClientRun)
    (manager : TaskStackManager) : ClientRun :=
  { run with manager := manager }

/--
Every activity is at some stage.  Of some activities the service is about to
forget that it knows them.
-/
structure Protocol
    (excused : List Nat)
    (run : ClientRun) : Prop where
  numbered : run.manager.ActivitiesNumbered
  unused :
    ∀ token,
      run.manager.nextActivity ≤ token →
      run.manager.activities token = none
  records :
    ∀ token record,
      run.manager.activities token = some record →
      record.mToken = token ∧ record.mTargetStatus ∈ targetStatuses
  inOrder :
    ∀ token,
      run.handled token ≤ (run.manager.commandsFor token).length
  stages :
    ∀ token,
      Stage (token ∈ run.manager.mActivityMap ∧ token ∉ excused)
        (run.manager.statusOf token)
        (run.manager.lifeCycleTasks token).length
        (run.client token) (run.toClient token) (run.toServer token)

/-- The primitive steps in which the service waits for its clients. -/
def Waits
    (excused : List Nat)
    (manager : TaskStackManager) :
    RecordAction → Prop
  | .turn activity toStatus =>
      toStatus ∈ requestedStatuses ∨
        ∃ record,
          manager.activities activity = some record ∧
            record.mTargetStatus = toStatus
  | .restart _ => False
  | .statusReport _ _ => False
  | .abnormalExit activity => activity ∈ excused
  | .reportDestroyed token => token ∈ excused
  | _ => True

namespace Protocol

variable
  {excused : List Nat}
  {run : ClientRun}
  {next : TaskStackManager}
  {activity : Nat}

/-- An activity that is spared stays where it is. -/
theorem stage_of_spared
    {token : Nat}
    (protocol : Protocol excused run)
    (sameRecord :
      next.activities token = run.manager.activities token)
    (sameCommands :
      next.commandsFor token = run.manager.commandsFor token)
    (fewer :
      (next.lifeCycleTasks token).length ≤
        (run.manager.lifeCycleTasks token).length)
    (fewerKnown :
      next.mActivityMap.Sublist run.manager.mActivityMap) :
    Stage (token ∈ next.mActivityMap ∧ token ∉ excused)
      (next.statusOf token) (next.lifeCycleTasks token).length
      (run.client token) ((run.withManager next).toClient token)
      (run.toServer token) := by
  have isStatus :
      next.statusOf token = run.manager.statusOf token := by
    rw [TaskStackManager.statusOf, sameRecord]
    rfl
  have sameClient :
      (run.withManager next).toClient token = run.toClient token := by
    rw [toClient, withManager, sameCommands]
    rfl
  rw [sameClient, isStatus]
  exact
    (protocol.stages token).lessTasks fewer fun isKnown =>
      ⟨fewerKnown.subset isKnown.1, isKnown.2⟩

/-- The record of one activity changes. -/
theorem change
    {changed : ActivityRecord}
    (protocol : Protocol excused run)
    (isChanged :
      next.activities =
        Function.update run.manager.activities activity (some changed))
    (used : activity < run.manager.nextActivity)
    (isToken : changed.mToken = activity)
    (target : changed.mTargetStatus ∈ targetStatuses)
    (spares : TaskStackManager.Spares run.manager next (some activity))
    (inOrder :
      run.handled activity ≤ (next.commandsFor activity).length)
    (stage :
      Stage (activity ∈ next.mActivityMap ∧ activity ∉ excused)
        changed.mStatus
        (next.lifeCycleTasks activity).length (run.client activity)
        ((run.withManager next).toClient activity)
        (run.toServer activity)) :
    Protocol excused (run.withManager next) where
  numbered :=
    protocol.numbered.fewer spares.mActivityMap spares.nextActivity
  unused token isLarge := by
    have beyond : run.manager.nextActivity ≤ token := by
      rw [← spares.nextActivity]
      exact isLarge
    have notThis : token ≠ activity := (used.trans_le beyond).ne'
    rw [withManager, isChanged, Function.update_of_ne notThis]
    exact protocol.unused token beyond
  records token record isRecord := by
    rw [withManager, isChanged] at isRecord
    by_cases isThis : token = activity
    · rw [isThis, Function.update_self] at isRecord
      rw [← Option.some.inj isRecord, isThis]
      exact ⟨isToken, target⟩
    · rw [Function.update_of_ne isThis] at isRecord
      exact protocol.records token record isRecord
  inOrder token := by
    by_cases isThis : token = activity
    · rw [isThis]
      exact inOrder
    · have same :=
        spares.commands token (fun same => isThis (Option.some.inj same))
      rw [withManager, same]
      exact protocol.inOrder token
  stages token := by
    by_cases isThis : token = activity
    · subst isThis
      have isStatus : next.statusOf token = changed.mStatus := by
        rw [TaskStackManager.statusOf, isChanged, Function.update_self]
        rfl
      rw [withManager, isStatus]
      exact stage
    · have notThis : some token ≠ some activity :=
        fun same => isThis (Option.some.inj same)
      refine
        protocol.stage_of_spared ?_ (spares.commands token notThis)
          (spares.fewer token notThis) spares.mActivityMap
      rw [withManager, isChanged, Function.update_of_ne isThis]

/-- The records stay. -/
theorem frame
    (protocol : Protocol excused run)
    (sameRecords : next.activities = run.manager.activities)
    (spares : TaskStackManager.Spares run.manager next none) :
    Protocol excused (run.withManager next) where
  numbered :=
    protocol.numbered.fewer spares.mActivityMap spares.nextActivity
  unused token isLarge := by
    rw [withManager, sameRecords]
    exact protocol.unused token (spares.nextActivity ▸ isLarge)
  records token record isRecord := by
    rw [withManager, sameRecords] at isRecord
    exact protocol.records token record isRecord
  inOrder token := by
    rw [withManager, spares.commands token (Option.some_ne_none token)]
    exact protocol.inOrder token
  stages token :=
    protocol.stage_of_spared (congrFun sameRecords token)
      (spares.commands token (Option.some_ne_none token))
      (spares.fewer token (Option.some_ne_none token))
      spares.mActivityMap

/-- A record that exists has a number. -/
theorem used
    {record : ActivityRecord}
    (protocol : Protocol excused run)
    (isRecord : run.manager.activities activity = some record) :
    activity < run.manager.nextActivity := by
  by_contra isLarge
  rw [protocol.unused activity (Nat.le_of_not_lt isLarge)] at isRecord
  cases isRecord

/-- The status of a record. -/
theorem stageOf
    {record : ActivityRecord}
    (protocol : Protocol excused run)
    (isRecord : run.manager.activities activity = some record) :
    Stage (activity ∈ run.manager.mActivityMap ∧ activity ∉ excused)
      record.mStatus (run.manager.lifeCycleTasks activity).length
      (run.client activity) (run.toClient activity)
      (run.toServer activity) := by
  have stage := protocol.stages activity
  rw [TaskStackManager.statusOf, isRecord] at stage
  exact stage

/-- A record is rewritten, but not its status. -/
theorem rewrite
    {record changed : ActivityRecord}
    (protocol : Protocol excused run)
    (isRecord : run.manager.activities activity = some record)
    (isChanged :
      next.activities =
        Function.update run.manager.activities activity (some changed))
    (sameToken : changed.mToken = record.mToken)
    (sameStatus : changed.mStatus = record.mStatus)
    (target : changed.mTargetStatus ∈ targetStatuses)
    (spares : TaskStackManager.Spares run.manager next none) :
    Protocol excused (run.withManager next) := by
  have stage := protocol.stageOf isRecord
  have sameCommands :=
    spares.commands activity (Option.some_ne_none activity)
  refine
    protocol.change isChanged (protocol.used isRecord)
      (sameToken.trans (protocol.records activity record isRecord).1)
      target (spares.but _) ?_ ?_
  · rw [sameCommands]
    exact protocol.inOrder activity
  · rw [sameStatus, toClient, withManager, sameCommands]
    exact
      stage.lessTasks (spares.fewer activity (Option.some_ne_none activity))
        fun isKnown =>
          ⟨spares.mActivityMap.subset isKnown.1, isKnown.2⟩

/-- The service gives up on an activity. -/
theorem giveUp
    {record : ActivityRecord}
    (protocol : Protocol excused run)
    (isRecord : run.manager.activities activity = some record)
    (isChanged :
      next.activities =
        Function.update run.manager.activities activity
          (some (record.setStatus Status.destroyed)))
    (spares : TaskStackManager.Spares run.manager next none)
    (noTask :
      activity ∉ excused →
      (next.lifeCycleTasks activity).length = 0) :
    Protocol excused (run.withManager next) := by
  have stage := protocol.stageOf isRecord
  have sameCommands :=
    spares.commands activity (Option.some_ne_none activity)
  obtain ⟨isToken, target⟩ := protocol.records activity record isRecord
  refine
    protocol.change isChanged (protocol.used isRecord) isToken target
      (spares.but _) ?_ ?_
  · rw [sameCommands]
    exact protocol.inOrder activity
  · rw [toClient, withManager, sameCommands]
    exact
      stage.giveUp (spares.fewer activity (Option.some_ne_none activity))
        fun isKnown => noTask isKnown.2

/--
A command starts.  The record may have been changed since nothing was under
way; then the client follows from what it was before.
-/
theorem startCommand
    {middle : TaskStackManager}
    {record pretended : ActivityRecord}
    {toStatus : Status}
    {transition : LifecycleTransition}
    {effect : LifecycleEffect}
    {turn : TurnTo}
    (protocol : Protocol excused run)
    (isRecord : run.manager.activities activity = some record)
    (settled : record.mStatus ∈ settledStatuses)
    (notDestroyed : record.mStatus ≠ Status.destroyed)
    (isMiddle : middle = run.manager.setRecord activity pretended)
    (sameToken : pretended.mToken = record.mToken)
    (isNext : middle.turn activity toStatus = some next)
    (turned :
      TaskStackManager.Turned middle next activity toStatus pretended
        transition)
    (performed :
      pretended.perform turn (pretended.mApp.bind middle.apps) =
        some effect)
    (isTransition :
      transition =
        { activity := { effect.activity with mTargetStatus := toStatus }
          app := effect.app
          calls := effect.calls
          commits := true })
    (asked : toStatus ∈ targetStatuses)
    (legal : pretended.mStatus ∈ turn.legalFrom)
    (follows :
      (run.client activity).status? = clientStatus record.mStatus →
      turn.FollowsFrom (run.client activity)) :
    Protocol excused (run.withManager next) := by
  obtain ⟨noTask, agrees, noCommand, noReport⟩ :=
    (protocol.stageOf isRecord).isQuiet settled notDestroyed
  obtain ⟨isToken, _⟩ := protocol.records activity record isRecord
  have isCommand : turn ≠ .none := by
    intro isNone
    rw [isNone] at performed
    cases performed
  obtain ⟨sent, isTurn, commands⟩ :=
    ActivityRecord.perform_sends performed
  rw [sameToken, isToken] at commands
  have sentFor :
      ∀ token,
        next.commandsFor token =
          run.manager.commandsFor token ++
            if token = activity then sent.toList else [] := by
    intro token
    rw [TaskStackManager.commandsFor,
      TaskStackManager.turn_calls turned isNext, isTransition,
      List.filter_append, commands, isMiddle]
    rfl
  have board :
      next.mPendTask =
        run.manager.mPendTask.commitTask (.lifeCycle activity)
          requestTimeoutMs := by
    rw [turned.mPendTask, isTransition, isMiddle]
    rfl
  have isChanged :
      next.activities =
        Function.update run.manager.activities activity
          (some transition.activity) := by
    rw [turned.activities, isMiddle]
    exact Function.update_idem ..
  have spares :
      TaskStackManager.Spares run.manager next (some activity) := by
    refine ⟨?_, ?_, ?_, ?_⟩
    · intro token isOther
      have notThis : token ≠ activity :=
        fun same => isOther (congrArg some same)
      rw [TaskStackManager.lifeCycleTasks_commit board token,
        if_neg notThis]
      exact Nat.le_refl _
    · intro token isOther
      have notThis : token ≠ activity :=
        fun same => isOther (congrArg some same)
      rw [sentFor token, if_neg notThis, List.append_nil]
    · rw [turned.mActivityMap, isMiddle]
      exact List.Sublist.refl _
    · rw [turned.nextNumbers.1, isMiddle]
      rfl
  have toClient :
      (run.withManager next).toClient activity = sent.toList := by
    have nothing : run.toClient activity = [] := noCommand
    rw [ClientRun.toClient, withManager, sentFor activity, if_pos rfl,
      List.drop_append_of_le_length (protocol.inOrder activity)]
    rw [ClientRun.toClient] at nothing
    rw [nothing, List.nil_append]
  subst isTransition
  refine
    protocol.change isChanged (protocol.used isRecord) ?_ asked spares ?_ ?_
  · exact (ActivityRecord.perform_app performed).1.trans
      (sameToken.trans isToken)
  · rw [sentFor activity, List.length_append]
    exact (protocol.inOrder activity).trans (Nat.le_add_right _ _)
  · have isStatus : effect.activity.mStatus = turn.transitional :=
      ActivityRecord.perform_transitional legal performed
    refine .busy turn isCommand isStatus ?_ ?_
    · rw [TaskStackManager.lifeCycleTasks_commit board activity, noTask,
        if_pos rfl]
    · rw [toClient, noReport]
      cases sent with
      | none =>
          exact .lost
      | some call =>
          exact .command call (isTurn call rfl) (follows agrees)

/-- A request. -/
theorem turn
    {toStatus : Status}
    (protocol : Protocol excused run)
    (asks : Waits excused run.manager (.turn activity toStatus))
    (isNext : run.manager.turn activity toStatus = some next) :
    Protocol excused (run.withManager next) := by
  obtain ⟨record, transition, turned⟩ :=
    TaskStackManager.turn_cases isNext
  have asked : toStatus ∈ targetStatuses := by
    rcases asks with requested | ⟨found, isFound, isTarget⟩
    · exact List.mem_cons_of_mem _ requested
    · rw [← isTarget]
      exact (protocol.records activity found isFound).2
  have isRecord := turned.isRecord
  have calls := TaskStackManager.turn_calls turned isNext
  rcases ActivityRecord.lifecycleTransition?_cases turned.turned with
    ⟨_, isRemembered⟩ | ⟨_, _, isSame⟩ |
      ⟨turnTo, effect, between, entry, performed, isCommand⟩
  · subst isRemembered
    exact protocol.rewrite isRecord turned.activities rfl rfl asked
      (.of_same turned.mPendTask (calls.trans (List.append_nil _))
        turned.mActivityMap turned.nextNumbers.1)
  · subst isSame
    exact protocol.rewrite isRecord turned.activities rfl rfl
      (protocol.records activity record isRecord).2
      (.of_same turned.mPendTask (calls.trans (List.append_nil _))
        turned.mActivityMap turned.nextNumbers.1)
  · obtain ⟨settled, notDestroyed, legal⟩ :=
      (protocol.stageOf isRecord).legalCommand asked between entry
        performed
    have isMiddle :
        run.manager = run.manager.setRecord activity record := by
      rw [TaskStackManager.setRecord, Function.update_eq_self_iff.mpr
        isRecord.symm]
    exact
      protocol.startCommand isRecord settled notDestroyed isMiddle rfl
        isNext turned performed isCommand asked legal
        fun agrees => ⟨record.mStatus, agrees, Or.inl legal⟩

/-- An activity ends that the service is about to forget. -/
theorem abnormalExit
    {manager : TaskStackManager}
    (protocol : Protocol excused run)
    (isManager :
      manager.activities = run.manager.activities ∧
        manager.calls = run.manager.calls ∧
        manager.mActivityMap = run.manager.mActivityMap ∧
        manager.nextActivity = run.manager.nextActivity)
    (fewer :
      ∀ token,
        (manager.lifeCycleTasks token).length ≤
          (run.manager.lifeCycleTasks token).length)
    (noTask :
      activity ∉ excused →
      (manager.lifeCycleTasks activity).length = 0)
    (isNext : manager.abnormalExit activity = some next) :
    Protocol excused (run.withManager next) := by
  obtain ⟨sameRecords, sameCalls, sameMap, sameNext⟩ := isManager
  obtain ⟨record, isRecord, hasEnded⟩ :=
    TaskStackManager.abnormalExit_cases isNext
  rw [sameRecords] at isRecord
  have sameTasks :
      ∀ token,
        next.lifeCycleTasks token = manager.lifeCycleTasks token := by
    rcases hasEnded with ⟨_, hasEnded⟩ | ⟨app, appRecord, _, _, hasEnded⟩
    · rw [hasEnded]
      exact fun _ => rfl
    · rw [hasEnded]
      exact fun _ => rfl
  have less :
      ∀ token,
        (next.lifeCycleTasks token).length ≤
          (run.manager.lifeCycleTasks token).length := by
    intro token
    rw [sameTasks token]
    exact fewer token
  have gone :
      activity ∉ excused →
      (next.lifeCycleTasks activity).length = 0 := by
    rw [sameTasks activity]
    exact noTask
  rcases hasEnded with ⟨_, hasEnded⟩ | ⟨app, appRecord, _, _, hasEnded⟩
  · subst hasEnded
    refine
      protocol.giveUp isRecord (congrArg (Function.update · _ _) sameRecords)
        (.of_calls less (sameCalls.trans (List.append_nil _).symm)
          (List.forall_mem_nil _)
          (sameMap ▸ List.Sublist.refl _) sameNext) gone
  · subst hasEnded
    have isCalls :
        (manager.exitApp activity app record appRecord).calls =
          run.manager.calls ++
            ([Call.removeWindowToken record.mToken] ++
              (appRecord.deleteActivity activity).stopApplication.2) := by
      rw [← sameCalls, ← List.append_assoc]
      rfl
    refine
      protocol.giveUp isRecord (congrArg (Function.update · _ _) sameRecords)
        (.of_calls less isCalls ?_ (sameMap ▸ List.Sublist.refl _) sameNext)
        gone
    intro call member
    rcases List.mem_append.mp member with isWindow | isStop
    · rw [List.mem_singleton.mp isWindow]
      rfl
    · exact TaskStackManager.stopApplication_noCommand _ call isStop

/-- A new activity gets the next number. -/
theorem createActivity
    (protocol : Protocol excused run)
    (name : String)
    (targetTask : Nat)
    (intent : Intent) :
    Protocol excused
      (run.withManager
        (run.manager.createActivity name targetTask intent)) where
  numbered := protocol.numbered.insert rfl rfl
  unused token isLarge := by
    have isOther : token ≠ run.manager.nextActivity :=
      (Nat.lt_of_succ_le isLarge).ne'
    have stays :
        (run.manager.createActivity name targetTask intent).activities
          token = run.manager.activities token :=
      Function.update_of_ne isOther ..
    rw [withManager, stays]
    exact protocol.unused token (Nat.le_of_succ_le isLarge)
  records token record isRecord := by
    by_cases isNew : token = run.manager.nextActivity
    · have isFresh :
          (run.manager.createActivity name targetTask intent).activities
            run.manager.nextActivity =
              some
                (.fresh name run.manager.nextActivity none targetTask
                  intent) :=
        Function.update_self ..
      rw [isNew, withManager, isFresh] at isRecord
      rw [← Option.some.inj isRecord, isNew]
      exact ⟨rfl, List.mem_cons_self ..⟩
    · have stays :
          (run.manager.createActivity name targetTask intent).activities
            token = run.manager.activities token :=
        Function.update_of_ne isNew ..
      rw [withManager, stays] at isRecord
      exact protocol.records token record isRecord
  inOrder := protocol.inOrder
  stages token := by
    have stage := protocol.stages token
    by_cases isNew : token = run.manager.nextActivity
    · have wasInit : run.manager.statusOf token = Status.init := by
        rw [TaskStackManager.statusOf,
          protocol.unused token (Nat.le_of_eq isNew.symm)]
        rfl
      have isInit :
          (run.manager.createActivity name targetTask intent).statusOf
            token = Status.init := by
        rw [isNew, TaskStackManager.statusOf,
          TaskStackManager.createActivity]
        dsimp only [TaskStackManager.setRecord]
        rw [Function.update_self]
        rfl
      rw [wasInit] at stage
      rw [withManager, isInit]
      exact stage.init
    · have stays :
          (run.manager.createActivity name targetTask intent).statusOf
            token = run.manager.statusOf token := by
        rw [TaskStackManager.statusOf, TaskStackManager.createActivity]
        dsimp only [TaskStackManager.setRecord]
        rw [Function.update_of_ne isNew]
        rfl
      rw [withManager, stays]
      refine stage.lessTasks (Nat.le_refl _) ?_
      intro isKnown
      exact ⟨List.mem_of_ne_of_mem isNew isKnown.1, isKnown.2⟩

/-- An application loses an activity, and may have to end. -/
theorem leaveApp
    (protocol : Protocol excused run)
    (token : Nat) :
    Protocol excused
      (run.withManager (run.manager.activityGone token)) := by
  obtain ⟨sameRecords, sameBoard, sameMap⟩ :=
    TaskStackManager.leaveApp_frame run.manager token
  have calls :
      ∃ calls,
        (run.manager.leaveApp token).calls = run.manager.calls ++ calls ∧
          ∀ call ∈ calls, Call.commandToken call = none := by
    rcases TaskStackManager.leaveApp_cases run.manager token with
      ⟨_, left⟩ | ⟨app, appRecord, _, ⟨_, left⟩ | ⟨_, left⟩⟩
    · rw [left]
      exact ⟨[], (List.append_nil _).symm, nofun⟩
    · rw [left]
      exact ⟨[], (List.append_nil _).symm, nofun⟩
    · rw [left]
      exact ⟨_, rfl, TaskStackManager.stopApplication_noCommand _⟩
  obtain ⟨calls, isCalls, noCommand⟩ := calls
  refine
    protocol.frame sameRecords
      (.of_calls (fun other => ?_) isCalls noCommand ?_
        (TaskStackManager.leaveApp_nextActivity run.manager token))
  · exact
      (congrArg _
        (TaskStackManager.lifeCycleTasks_congr sameBoard other)).le
  · rw [← sameMap]
    exact List.erase_sublist

/-- Every primitive step in which the service waits for its clients. -/
theorem step
    {action : RecordAction}
    (protocol : Protocol excused run)
    (waits : Waits excused run.manager action)
    (isNext : run.manager.recordStep? action = some next) :
    Protocol excused (run.withManager next) := by
  cases action with
  | createActivity name targetTask intent =>
      rw [← Option.some.inj isNext]
      exact protocol.createActivity name targetTask intent
  | setAppThread activity app =>
      obtain ⟨record, isRecord, isSet⟩ :=
        TaskStackManager.setAppThread_cases isNext
      subst isSet
      exact protocol.rewrite isRecord rfl rfl rfl
        (protocol.records activity record isRecord).2
        (.of_same rfl rfl rfl rfl)
  | turn activity toStatus =>
      exact protocol.turn waits isNext
  | setIntent activity intent =>
      obtain ⟨record, isRecord, isSet⟩ :=
        TaskStackManager.setIntent_cases isNext
      subst isSet
      exact protocol.rewrite isRecord rfl rfl rfl
        (protocol.records activity record isRecord).2
        (.of_same rfl rfl rfl rfl)
  | restart activity =>
      exact waits.elim
  | commit task =>
      obtain ⟨isWait, isCommitted⟩ := TaskStackManager.commit_cases isNext
      rw [isCommitted]
      refine
        protocol.frame rfl
          (.of_calls (fun token => ?_) (List.append_nil _).symm
            (List.forall_mem_nil _)
            (List.Sublist.refl _) rfl)
      exact
        (congrArg _
          (TaskStackManager.lifeCycleTasks_commit_wait isWait rfl
            token)).le
  | complete serial task =>
      obtain ⟨_, _, isDone⟩ := TaskStackManager.complete_cases isNext
      subst isDone
      exact
        protocol.frame rfl
          (.of_calls (TaskStackManager.lifeCycleTasks_done_le rfl)
            (List.append_nil _).symm (List.forall_mem_nil _)
            (List.Sublist.refl _) rfl)
  | statusReport token status =>
      exact waits.elim
  | giveUp serial activity =>
      obtain ⟨isPending, _, _, ⟨_, isDone⟩ | ⟨_, exited⟩⟩ :=
        TaskStackManager.giveUp_cases isNext
      · subst isDone
        exact
          protocol.frame rfl
            (.of_calls (TaskStackManager.lifeCycleTasks_done_le rfl)
              (List.append_nil _).symm (List.forall_mem_nil _)
              (List.Sublist.refl _) rfl)
      · have sameRest :
            (run.manager.done serial).activities =
                run.manager.activities ∧
              (run.manager.done serial).calls = run.manager.calls ∧
              (run.manager.done serial).mActivityMap =
                run.manager.mActivityMap ∧
              (run.manager.done serial).nextActivity =
                run.manager.nextActivity :=
          ⟨rfl, rfl, rfl, rfl⟩
        refine
          protocol.abnormalExit sameRest
            (TaskStackManager.lifeCycleTasks_done_le rfl) ?_ exited
        intro _
        obtain ⟨handler, isHandler, isSerial⟩ :=
          TaskStackManager.mem_lifeCycleTasks_of_isPending isPending
        rw [← isSerial,
          TaskStackManager.lifeCycleTasks_done_eq_nil isHandler
            (protocol.stages activity).tasks_le_one]
        rfl
  | abnormalExit activity =>
      exact
        protocol.abnormalExit ⟨rfl, rfl, rfl, rfl⟩
          (fun _ => Nat.le_refl _) (absurd waits) isNext
  | reportDestroyed token =>
      obtain ⟨_, record, board, isRecord, isBoard, isStarted⟩ :=
        TaskStackManager.startDestroyed_cases isNext
      subst isStarted
      refine
        protocol.giveUp isRecord rfl
          (.of_calls ?_ (List.append_nil _).symm
            (List.forall_mem_nil _)
            (List.Sublist.refl _) rfl) (absurd waits)
      rcases isBoard with isSame | isRemoved
      · subst isSame
        exact fun _ => Nat.le_refl _
      · subst isRemoved
        exact TaskStackManager.lifeCycleTasks_remove_le rfl
  | activityGone token =>
      rw [← Option.some.inj isNext]
      exact protocol.leaveApp token
  | setForeground app isForeground =>
      obtain ⟨record, _, isSet⟩ := Option.map_eq_some_iff.mp isNext
      subst isSet
      exact
        protocol.frame rfl
          (.of_calls (fun _ => Nat.le_refl _) rfl
            (TaskStackManager.setForeground_noCommand record isForeground)
            (List.Sublist.refl _) rfl)
  | stopApplication app =>
      obtain ⟨record, _, isSet⟩ := Option.map_eq_some_iff.mp isNext
      subst isSet
      exact
        protocol.frame rfl
          (.of_calls (fun _ => Nat.le_refl _) rfl
            (TaskStackManager.stopApplication_noCommand record)
            (List.Sublist.refl _) rfl)
  | markStopped app =>
      obtain ⟨_, _, isSet⟩ := Option.map_eq_some_iff.mp isNext
      subst isSet
      exact protocol.frame rfl (.of_same rfl rfl rfl rfl)
  | forget token =>
      rw [← Option.some.inj isNext]
      exact
        protocol.frame rfl
          (.of_calls (fun _ => Nat.le_refl _) (List.append_nil _).symm
            (List.forall_mem_nil _) List.erase_sublist rfl)
  | attachApplication packageName systemui pid =>
      rw [← Option.some.inj isNext]
      exact protocol.frame rfl (.of_same rfl rfl rfl rfl)
  | deleteAppInfo app =>
      obtain ⟨_, _, _, isDeleted⟩ :=
        TaskStackManager.deleteAppInfo_cases isNext
      subst isDeleted
      exact protocol.frame rfl (.of_same rfl rfl rfl rfl)
  | clockAdvances ms =>
      rw [← Option.some.inj isNext]
      exact
        protocol.frame rfl
          (.of_calls (fun _ => Nat.le_refl _) (List.append_nil _).symm
            (List.forall_mem_nil _) (List.Sublist.refl _) rfl)
  | holdTasks tasks =>
      rw [← Option.some.inj isNext]
      exact protocol.frame rfl (.of_same rfl rfl rfl rfl)
  | relist lists =>
      rw [← Option.some.inj isNext]
      exact protocol.frame rfl (.of_same rfl rfl rfl rfl)

end Protocol

/-- The primitive steps of what waits for the clients. -/
def waitingParts (excused : List Nat) : TaskStackManager.Parts where
  isPart := Waits excused
  own {manager action} isOwn _ notRestart := by
    cases action <;>
      first | exact isOwn | exact isOwn.elim | cases notRestart

/-- Nothing has happened yet. -/
theorem waiting
    (excused : List Nat)
    (manager : TaskStackManager) :
    TaskStackManager.Moved (waitingParts excused) manager manager.lists
      manager :=
  .refl manager

/-- Steps other than reports, relaunches and deaths wait for the clients. -/
theorem waits_of_isPart
    {before manager : TaskStackManager}
    {action : ManagerAction}
    {primitive : RecordAction}
    (notReport : action.isReport = false)
    (notEnd : ∀ app, action ≠ .procAppTerminated app)
    (isPart : before.IsPart action manager primitive)
    (notDelay : primitive.delays = false)
    (notRestart : primitive.restarts = false) :
    Waits [] manager primitive := by
  rcases isPart with isOwn | isPart
  · exact (waitingParts []).own isOwn notDelay notRestart
  · cases action with
    | pushNewActivity name app targetStack intent startFlag =>
        rcases isPart with ⟨_, isCreation⟩ | isThread
        · rw [isCreation]
          trivial
        · rw [isThread]
          trivial
    | reportActivityStatus token status =>
        cases notReport
    | timeout serial =>
        obtain ⟨_, activity, isGivenUp⟩ := isPart
        rw [isGivenUp]
        trivial
    | procAppTerminated app =>
        exact absurd rfl (notEnd app)
    | clockAdvances ms =>
        rw [isPart.2]
        trivial
    | attachApplication packageName systemui pid =>
        rw [isPart.2]
        trivial
    | deleteAppInfo app =>
        rw [isPart.2]
        trivial
    | holdTasks tasks =>
        rw [isPart.2]
        trivial
    | turnToActivity targetStack activity intent startFlag =>
        exact isPart.elim
    | switchTaskToActive targetStack intent =>
        exact isPart.elim
    | moveTaskToBackground targetStack =>
        exact isPart.elim
    | finishActivity activity =>
        exact isPart.elim
    | deleteActivity activity =>
        exact isPart.elim

namespace Protocol

variable
  {excused later : List Nat}
  {run : ClientRun}
  {next : TaskStackManager}
  {token activity : Nat}

/-- Other activities are excused. -/
theorem mono
    (protocol : Protocol excused run)
    (knew :
      ∀ token ∈ run.manager.mActivityMap,
        token ∉ later →
        token ∉ excused) :
    Protocol later run where
  numbered := protocol.numbered
  unused := protocol.unused
  records := protocol.records
  inOrder := protocol.inOrder
  stages token :=
    (protocol.stages token).lessTasks (Nat.le_refl _)
      fun isKnown => ⟨isKnown.1, knew token isKnown.1 isKnown.2⟩

/-- A run of primitive steps. -/
theorem moved
    {lists : TaskLists}
    (protocol : Protocol excused run)
    (moved :
      TaskStackManager.Moved (waitingParts excused) run.manager lists
        next) :
    Protocol excused (run.withManager next) := by
  refine Reachable.invariant ?_ ?_ moved.moves
  · exact protocol
  · intro manager action final before waits stepped
    exact before.step waits stepped

/-- A run of primitive steps that deletes something. -/
theorem deleted
    {lists : TaskLists}
    (protocol : Protocol excused run)
    (deleted :
      TaskStackManager.Deleted (waitingParts excused) run.manager lists
        next) :
    Protocol excused (run.withManager next) := by
  obtain ⟨_, _, moved⟩ := deleted
  exact protocol.moved moved

/-- The messages of one activity change. -/
theorem exchange
    {after : ClientRun}
    (protocol : Protocol excused run)
    (token : Nat)
    (sameManager : after.manager = run.manager)
    (others :
      ∀ other,
        other ≠ token →
        after.handled other = run.handled other ∧
          after.client other = run.client other ∧
          after.toServer other = run.toServer other)
    (inOrder :
      after.handled token ≤ (run.manager.commandsFor token).length)
    (stage :
      Stage (token ∈ run.manager.mActivityMap ∧ token ∉ excused)
        (run.manager.statusOf token)
        (run.manager.lifeCycleTasks token).length
        (after.client token) (after.toClient token)
        (after.toServer token)) :
    Protocol excused after where
  numbered := by
    rw [sameManager]
    exact protocol.numbered
  unused := by
    rw [sameManager]
    exact protocol.unused
  records := by
    rw [sameManager]
    exact protocol.records
  inOrder other := by
    rw [sameManager]
    by_cases isThis : other = token
    · rw [isThis]
      exact inOrder
    · rw [(others other isThis).1]
      exact protocol.inOrder other
  stages other := by
    rw [sameManager]
    by_cases isThis : other = token
    · rw [isThis]
      exact stage
    · obtain ⟨sameHandled, sameClient, sameReports⟩ := others other isThis
      have sameCommands : after.toClient other = run.toClient other := by
        rw [toClient, sameManager, sameHandled]
        rfl
      rw [sameClient, sameReports, sameCommands]
      exact protocol.stages other

/-- The client handles the next command. -/
theorem clientHandles
    {after : ClientRun}
    {registered created : Bool}
    (protocol : Protocol excused run)
    (isNext :
      run.step? (.clientHandles token registered created) =
        some after) :
    Protocol excused after := by
  rw [step?] at isNext
  split at isNext
  · rename_i call rest isHead
    rw [← Option.some.inj isNext]
    have isDropped := isHead
    rw [toClient] at isDropped
    have isSome :
        run.handled token < (run.manager.commandsFor token).length := by
      by_contra isAll
      rw [List.drop_of_length_le (Nat.le_of_not_lt isAll)] at isDropped
      cases isDropped
    have isRest :
        (run.manager.commandsFor token).drop (run.handled token + 1) =
          rest := by
      rw [← List.drop_drop, isDropped]
      rfl
    have stage := protocol.stages token
    rw [isHead] at stage
    refine protocol.exchange token rfl ?_ ?_ ?_
    · intro other isOther
      exact
        ⟨Function.update_of_ne isOther .., Function.update_of_ne isOther ..,
          Function.update_of_ne isOther ..⟩
    · dsimp only
      rw [Function.update_self]
      exact isSome
    · dsimp only [toClient]
      rw [Function.update_self, Function.update_self,
        Function.update_self, isRest]
      exact stage.handle registered created
  · cases isNext

end Protocol

end ClientRun

end ActivityManager
