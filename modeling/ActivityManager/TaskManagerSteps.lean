import ActivityManager.TaskManagerRemoval

/-!
# Steps around the task manager

Reports, timeouts and the end of a process go through the operations of
`TaskManagerRemoval` and keep states settled too.  They may go wrong where a
record is missing; what the rules say is about their results.
-/

namespace ActivityManager

open PartialProgram

namespace TaskStackManager

variable
  {aims : Aims}
  {setting : Setting}
  {lists : TaskLists}
  {counted aimed : List Nat}
  {excused : Nat → Status → Prop}
  {manager : TaskStackManager}

/-! ## The end of an activity -/

namespace Tracks

/-- An account that stays the same. -/
private theorem stopApp
    {app : Nat}
    {record : AppRecord}
    (tracks :
      Tracks aims setting lists counted aimed excused manager)
    (sameAccount : manager.accounts app = some record.account) :
    Tracks aims setting lists counted aimed excused
      (manager.stopApp app record) := by
  have stopped :
      manager.accounts app = some record.stopApplication.1.account := by
    rw [sameAccount, AppRecord.stopApplication_account]
  refine tracks.frame rfl rfl ?_ rfl ⟨rfl, rfl⟩ rfl ?_
  · exact setApp_accounts stopped
  · intro isAim
    exact (tracks.ready isAim).onBoard

/-- `setStatus(DESTROYED)`. -/
private theorem setDestroyed
    {activity : Nat}
    {record : ActivityRecord}
    (tracks :
      Tracks aims setting lists counted aimed excused manager)
    (isRecord : manager.activities activity = some record) :
    Tracks aims setting lists counted aimed excused
      (manager.setRecord activity
        (record.setStatus Status.destroyed)) := by
  apply tracks.setRecord isRecord
  · exact ⟨rfl, rfl⟩
  · intro isAim
    have legal := (tracks.ready isAim).legal activity record isRecord
    exact
      ⟨show 0 ≤ Status.destroyed ∧ Status.destroyed ≤ 12 by decide,
        legal.target⟩
  · intro _
    refine ⟨show 0 ≤ Status.destroyed by decide, ?_⟩
    exact fun alive => absurd rfl alive
  · exact fun _ _ _ _ isAimed => isAimed

/-- `setStatus(DESTROYED)`, when the record may be missing. -/
theorem setStatus_destroyed
    (tracks :
      Tracks aims setting lists counted aimed excused manager)
    (activity : Nat) :
    Spec True (manager.setStatus activity Status.destroyed)
      (Tracks aims setting lists counted aimed excused) := by
  unfold TaskStackManager.setStatus
  cases isRecord : manager.activities activity with
  | none =>
      trivial
  | some record =>
      exact tracks.setDestroyed isRecord

/-- `abnormalExit`. -/
theorem abnormalExit
    (tracks :
      Tracks aims setting lists counted aimed excused manager)
    (activity : Nat) :
    Spec True (manager.abnormalExit activity)
      (Tracks aims setting lists counted aimed excused) := by
  refine (tracks.setStatus_destroyed activity).bind ?_
  intro exiting exitingTracks
  refine Spec.bind_known (fun mustNotFail => absurd trivial mustNotFail) ?_
  intro record _
  split
  · split
    · rename_i app _ appRecord isAppRecord
      apply Tracks.stopApp
      · exact exitingTracks.frame rfl rfl rfl rfl ⟨rfl, rfl⟩ rfl
          fun isAim => (exitingTracks.ready isAim).onBoard
      · rw [AppRecord.deleteActivity_account]
        exact congrArg (Option.map AppRecord.account) isAppRecord
    · exact exitingTracks
  · exact exitingTracks

/-- `abnormalExit` of several activities. -/
theorem abnormalExitAll
    (tracks :
      Tracks aims setting lists counted aimed excused manager)
    (activities : List Nat) :
    Spec True (TaskStackManager.abnormalExitAll activities manager)
      (Tracks aims setting lists counted aimed excused) := by
  induction activities generalizing manager with
  | nil =>
      exact tracks
  | cons activity rest inductionHypothesis =>
      refine (tracks.abnormalExit activity).bind ?_
      intro exited exitedTracks
      exact inductionHypothesis exitedTracks

end Tracks

/-- Other tokens. -/
private theorem Settled.setActivityMap
    (settled : Settled aims setting manager)
    (tokens : List Nat) :
    Settled aims setting { manager with mActivityMap := tokens } where
  wellStacked := settled.wellStacked
  tracks :=
    settled.tracks.frame rfl rfl rfl rfl ⟨rfl, rfl⟩ rfl fun isAim =>
      (settled.tracks.ready isAim).onBoard

/-- `deleteActivity` between operations. -/
theorem Settled.deleteActivity
    {activity : Nat}
    (settled : Settled aims setting manager)
    (known : aims.safe → (setting.placed activity).isSome = true)
    (balanced :
      aims.counts →
      Balanced setting manager.lists
        (setting.deleteActivity manager.lists activity)) :
    Spec (¬ aims.safe) (manager.deleteActivity activity) fun final =>
      Settled aims setting final ∧
        final.lists = setting.deleteActivity manager.lists activity := by
  apply deleteActivity_settled settled.wellStacked settled.tracks
  · exact fun _ _ isExcused => isExcused.elim
  · exact known
  · exact balanced

/-- Deletions one after the other keep the counters. -/
def BalancedAll
    (setting : Setting) :
    List Nat → TaskLists → Prop
  | [], _ =>
      True
  | activity :: rest, lists =>
      Balanced setting lists (setting.deleteActivity lists activity) ∧
        BalancedAll setting rest (setting.deleteActivity lists activity)

/-- The second loop of `procAppTerminated`. -/
theorem Settled.deleteAll
    {activities : List Nat}
    (settled : Settled aims setting manager)
    (balanced :
      aims.counts →
      BalancedAll setting activities manager.lists) :
    Spec True (TaskStackManager.deleteAll activities manager)
      (Settled aims setting) := by
  induction activities generalizing manager with
  | nil =>
      exact settled
  | cons activity rest inductionHypothesis =>
      cases isRecord : manager.activities activity with
      | none =>
          unfold TaskStackManager.deleteAll
          rw [show manager.deleteActivity activity = none by
            rw [TaskStackManager.deleteActivity, isRecord]
            rfl]
          trivial
      | some record =>
          have known : (setting.placed activity).isSome = true := by
            rw [settled.tracks.placed activity, isRecord]
            rfl
          have deleted :=
            (settled.deleteActivity (fun _ => known)
              fun isAim => (balanced isAim).1).orFail
          refine deleted.bind ?_
          rintro next ⟨nextSettled, sameLists⟩
          apply inductionHypothesis (nextSettled.setActivityMap _)
          intro isAim
          rw [sameLists]
          exact (balanced isAim).2

/-! ## Reports -/

/-- What a report must not do for the aims. -/
structure ReportKeeps
    (aims : Aims)
    (status : Status)
    (record : ActivityRecord) : Prop where
  legal :
    aims.safe →
    status ≤ 12 ∧
      (status = Status.error → 1 ≤ record.mStatus)
  notEarly :
    aims.targets →
    status = Status.error →
    Status.creating < record.mStatus
  notLate :
    aims.targets →
    record.mStatus = Status.destroyed →
    status = Status.destroyed

/-- A status that is not ERROR is followed by the request that is due. -/
theorem Tracks.report
    {activity : Nat}
    {status : Status}
    {record : ActivityRecord}
    (tracks :
      Tracks aims setting lists counted aimed noExcuse manager)
    (isRecord : manager.activities activity = some record)
    (keeps : ReportKeeps aims status record)
    (notError : status ≠ Status.error) :
    Spec True
      ((manager.setRecord activity
        (record.setStatus status)).lifecycleTransition activity
          record.mTargetStatus)
      (Tracks aims setting lists counted aimed noExcuse) := by
  have reported :
      (manager.setRecord activity
          (record.setStatus status)).activities activity =
        some (record.setStatus status) := by
    simp [TaskStackManager.setRecord]
  have noEvent :
      ∀ found,
        (manager.setRecord activity
            (record.setStatus status)).activities activity =
          some found →
        ¬ (found.mTargetStatus = Status.resumed ∧
          record.mTargetStatus > Status.resumed ∧
          found.mStatus < Status.resuming) := by
    rintro found isFound ⟨isResumed, isMore, _⟩
    rw [reported] at isFound
    have same : record.mTargetStatus = Status.resumed := by
      rw [← Option.some.inj isFound] at isResumed
      exact isResumed
    rw [same] at isMore
    exact Int.lt_irrefl _ isMore
  rw [TaskStackManager.lifecycleTransition,
    Tracks.lifecycleTransitionFrom_eq_turn noEvent 1]
  by_cases negative : status < 0
  · have noTurn :
        (manager.setRecord activity (record.setStatus status)).turn
            activity record.mTargetStatus = none := by
      unfold TaskStackManager.turn
      rw [reported, Option.bind_eq_bind, Option.bind_some,
        ActivityRecord.lifecycleTransition?_negative negative notError]
      rfl
    rw [noTurn]
    trivial
  · have notNegative : 0 ≤ status := Int.not_lt.mp negative
    have known : (setting.placed activity).isSome = true := by
      rw [tracks.placed activity, isRecord]
      rfl
    have excusedTracks :
        Tracks aims setting lists counted (activity :: aimed)
          (fun other _ => other = activity)
          (manager.setRecord activity (record.setStatus status)) := by
      apply tracks.setRecord isRecord
      · exact ⟨rfl, rfl⟩
      · intro isAim
        have legal := (tracks.ready isAim).legal activity record isRecord
        exact ⟨⟨notNegative, (keeps.legal isAim).1⟩, legal.target⟩
      · intro _
        refine ⟨notNegative, ?_⟩
        exact fun _ _ => ⟨List.mem_cons_self, Or.inr (Or.inr rfl)⟩
      · intro _ other found _ isAimed
        apply isAimed.mono
        · exact List.mem_cons_of_mem activity
        · exact fun _ isExcused => isExcused.elim
    apply Spec.orFail
    apply excusedTracks.turn fun _ => known
    · intro isAim
      exact ((tracks.ready isAim).legal activity record isRecord).target
    · intro isAim found app transition isFound turned
      rw [reported] at isFound
      have sameRecord := Option.some.inj isFound
      subst sameRecord
      have stays := lifecycleTransition?_notNegative notNegative turned
      by_cases wanted : record.mTargetStatus = Status.resumed
      · rw [wanted] at turned
        by_cases destroyed : status = Status.destroyed
        · have remains :=
            ActivityRecord.lifecycleTransition?_destroyed (by decide)
              destroyed turned
          exact ⟨stays, fun alive => absurd remains alive⟩
        · have alive : record.mStatus ≠ Status.destroyed :=
            fun isDestroyed =>
              destroyed (keeps.notLate isAim isDestroyed)
          have isMember :=
            ((tracks.targets isAim activity record isRecord).2 alive
              wanted).1
          have onItsWay :
              AimedRecord (activity :: aimed) noExcuse activity
                transition.activity :=
            aimedRecord_resumed notNegative turned
          apply onItsWay.mono
          · exact fun _ => isMember
          · exact fun _ isExcused => isExcused
      · apply AimedRecord.of_other_target stays
        obtain ⟨_, _, _, target, _⟩ :=
          ActivityRecord.lifecycleTransition?_frame turned
        rcases target with isSame | isRequested
        · rw [isSame]
          exact wanted
        · rw [isRequested]
          exact wanted
    · intro _ other found isOther isAimed
      refine ⟨isAimed.1, ?_⟩
      intro alive wanted
      obtain ⟨isMember, reason⟩ := isAimed.2 alive wanted
      refine ⟨(List.mem_cons.mp isMember).resolve_left isOther, ?_⟩
      exact reason.imp_right (Or.imp_right isOther)

/-- `ActivityLifeCycleTask::execute`. -/
theorem Settled.executeLifeCycle
    {activity : Nat}
    {status : Status}
    (settled : Settled aims setting manager)
    (keeps :
      ∀ record,
        manager.activities activity = some record →
        ReportKeeps aims status record)
    (balanced :
      aims.counts →
      status = Status.error →
      Balanced setting manager.lists
        (setting.deleteActivity manager.lists activity)) :
    Spec True (manager.executeLifeCycle activity status) fun final =>
      Settled aims setting final ∧
        (status ≠ Status.error → final.lists = manager.lists) := by
  have tracks := settled.tracks
  refine Spec.bind_known (fun mustNotFail => absurd trivial mustNotFail) ?_
  intro record isRecord
  have recordKeeps := keeps record isRecord
  split
  · rename_i isError
    have known : (setting.placed activity).isSome = true := by
      rw [tracks.placed activity, isRecord]
      rfl
    have reported :
        Tracks aims setting manager.lists manager.lists.foreground
          manager.lists.foreground.head?.toList
          (fun other status => other = activity ∧ status ≠ Status.init)
          (manager.setRecord activity record.reportError) := by
      apply tracks.setRecord isRecord
      · exact ⟨rfl, rfl⟩
      · intro isAim
        have legal := (tracks.ready isAim).legal activity record isRecord
        have positive := (recordKeeps.legal isAim).2 isError
        exact
          ⟨⟨Int.sub_nonneg_of_le positive,
            Int.le_trans (Int.sub_le_self _ (by decide))
              legal.status.2⟩, legal.target⟩
      · intro isAim
        have late := recordKeeps.notEarly isAim isError
        have alive : record.mStatus ≠ Status.destroyed := by
          intro isDestroyed
          have same := recordKeeps.notLate isAim isDestroyed
          rw [isError] at same
          exact absurd same (by decide)
        have stillPositive : 0 < record.mStatus - 1 :=
          Int.sub_pos_of_lt late
        refine ⟨Int.le_of_lt stillPositive, ?_⟩
        intro _ wanted
        refine
          ⟨((tracks.targets isAim activity record isRecord).2 alive
              wanted).1, Or.inr (Or.inr ⟨rfl, ?_⟩)⟩
        exact (Int.ne_of_gt stillPositive)
      · intro _ other found _ isAimed
        apply isAimed.mono
        · exact fun member => member
        · exact fun _ isExcused => isExcused.elim
    have wellStacked :
        (manager.setRecord activity
          record.reportError).lists.WellStacked setting.inTask :=
      settled.wellStacked
    have deleted :=
      deleteActivity_settled wellStacked reported
        (fun _ _ isExcused => isExcused) (fun _ => known)
        (fun isAim => balanced isAim isError)
    refine deleted.orFail.mono ?_
    rintro final ⟨finalSettled, _⟩
    exact ⟨finalSettled, fun notError => absurd isError notError⟩
  · rename_i notError
    refine (tracks.report isRecord recordKeeps notError).mono ?_
    intro final finalTracks
    refine ⟨?_, fun _ => finalTracks.sameLists⟩
    apply Settled.of_tracks finalTracks settled.wellStacked rfl
    intro other member
    simpa using member

/-! ## Events -/

/-- Fewer activities are to be resumed, in the same lists. -/
private theorem Settled.of_fewer
    {start : TaskStackManager}
    (settled : Settled aims setting start)
    (tracks :
      Tracks aims setting start.lists start.lists.foreground aimed
        noExcuse manager)
    (included :
      ∀ activity ∈ aimed,
        activity ∈ start.lists.foreground.head?.toList) :
    Settled aims setting manager := by
  apply Settled.of_tracks tracks settled.wellStacked rfl
  intro activity member
  simpa using included activity member

/-- A handler is marked. -/
private theorem Settled.markDone
    (settled : Settled aims setting manager)
    (serial : Nat) :
    Settled aims setting
      { manager with
        mPendTask := manager.mPendTask.markDone serial } :=
  settled.of_fewer (settled.tracks.markDone serial)
    fun _ member => member

/-- What the handler of an event is on the board for. -/
private theorem firstPending_label
    {event : PendEvent}
    {handler : TaskTimeoutHandler PendTask}
    (isFirst : manager.mPendTask.firstPending event = some handler) :
    BoardLabels.equalsLabel handler.mTask event = true ∧
      handler ∈ manager.mPendTask.mTasklist := by
  have pending := List.find?_some isFirst
  rw [TaskTimeoutHandler.pendingFor, Bool.and_eq_true] at pending
  exact ⟨pending.2, List.mem_of_find?_eq_some isFirst⟩

/-- A report of a status. -/
theorem Settled.triggerStatusReport
    {token : Nat}
    {status : Status}
    (settled : Settled aims setting manager)
    (keeps :
      (manager.mPendTask.firstPending
        (PendEvent.activityStatusReport status token)).isSome = true →
      ∀ record,
        manager.activities token = some record →
        ReportKeeps aims status record)
    (balanced :
      (manager.mPendTask.firstPending
        (PendEvent.activityStatusReport status token)).isSome = true →
      aims.counts →
      status = Status.error →
      Balanced setting manager.lists
        (setting.deleteActivity manager.lists token)) :
    Spec True
      (manager.eventTrigger (.activityStatusReport status token))
      fun final =>
        Settled aims setting final ∧
          (status ≠ Status.error → final.lists = manager.lists) := by
  unfold TaskStackManager.eventTrigger
  split
  · rename_i handler isFirst
    obtain ⟨isLabel, _⟩ := firstPending_label isFirst
    rw [isFirst] at keeps balanced
    have marked := settled.markDone handler.serial
    cases isTask : handler.mTask with
    | lifeCycle activity =>
        rw [isTask] at isLabel
        have isToken : activity = token := by
          simpa [BoardLabels.equalsLabel] using isLabel
        subst isToken
        exact marked.executeLifeCycle (keeps rfl) (balanced rfl)
    | waitResume resumeActivity willStopActivity =>
        rw [isTask] at isLabel
        exact absurd isLabel Bool.false_ne_true
    | delayDestroy willDestroyActivity waitResumeActivity =>
        rw [isTask] at isLabel
        exact absurd isLabel Bool.false_ne_true
  · exact ⟨settled, fun _ => rfl⟩

/-- An activity on the board is destroyed. -/
private theorem Settled.destroyOnBoard
    {activity : Nat}
    (settled : Settled aims setting manager)
    (known : aims.safe → (setting.placed activity).isSome = true) :
    Spec True
      (manager.lifecycleTransition activity Status.destroyed)
      (Settled aims setting) := by
  refine
    (settled.tracks.destroy known
      fun _ isExcused => isExcused.elim).orFail.mono ?_
  intro final finalTracks
  apply settled.of_fewer finalTracks
  exact fun _ member => List.mem_of_mem_filter member

/-- The events of a resumed activity. -/
private theorem Settled.triggerResumed
    {event : PendEvent}
    (settled : Settled aims setting manager)
    (isResumed :
      (∃ token, event = .activityWaitResume token) ∨
        ∃ token, event = .activityDelayDestroy token) :
    Spec True (manager.eventTrigger event) (Settled aims setting) := by
  unfold TaskStackManager.eventTrigger
  split
  · rename_i handler isFirst
    obtain ⟨isLabel, onBoard⟩ := firstPending_label isFirst
    have marked := settled.markDone handler.serial
    have knownOnBoard :
        ∀ activity ∈ handler.mTask.activities,
          aims.safe →
          (setting.placed activity).isSome = true :=
      fun activity member isAim =>
        (settled.tracks.ready isAim).onBoard handler onBoard activity
          member
    cases isTask : handler.mTask with
    | lifeCycle activity =>
        rw [isTask] at isLabel
        rcases isResumed with ⟨token, isEvent⟩ | ⟨token, isEvent⟩
        · rw [isEvent] at isLabel
          exact absurd isLabel Bool.false_ne_true
        · rw [isEvent] at isLabel
          exact absurd isLabel Bool.false_ne_true
    | waitResume resumeActivity willStopActivity =>
        have known :=
          knownOnBoard willStopActivity
            (by simp [isTask, PendTask.activities])
        refine
          (marked.tracks.executeWaitResume known 1).orFail.mono ?_
        intro final finalTracks
        exact settled.of_fewer finalTracks fun _ member => member
    | delayDestroy willDestroyActivity waitResumeActivity =>
        have known :=
          knownOnBoard willDestroyActivity
            (by simp [isTask, PendTask.activities])
        exact marked.destroyOnBoard known
  · exact settled

/-! ## Timeouts -/

/-- What a timeout must not do for the aims. -/
def TimeoutKeeps
    (aims : Aims)
    (setting : Setting)
    (manager : TaskStackManager) :
    PendTask → Prop
  | .lifeCycle activity =>
      aims.counts →
      (∃ record,
        manager.activities activity = some record ∧
          record.mStatus ≠ record.mTargetStatus) →
      Balanced setting manager.lists
        (setting.deleteActivity manager.lists activity)
  | .waitResume _ willStopActivity =>
      aims.targets →
      manager.lists.foreground.head? = some willStopActivity ∨
        ∃ record,
          manager.activities willStopActivity = some record ∧
            record.mStatus = Status.destroyed
  | .delayDestroy _ _ =>
      True

/-- A resumed activity that is in front already, or destroyed. -/
private theorem Settled.resumeAgain
    {activity : Nat}
    (settled : Settled aims setting manager)
    (known : aims.safe → (setting.placed activity).isSome = true)
    (inFrontOrGone :
      aims.targets →
      manager.lists.foreground.head? = some activity ∨
        ∃ record,
          manager.activities activity = some record ∧
            record.mStatus = Status.destroyed) :
    Spec True (manager.lifecycleTransition activity Status.resumed)
      (Settled aims setting) := by
  have tracks := settled.tracks
  apply Spec.orFail
  by_cases gone :
      ∃ record,
        manager.activities activity = some record ∧
          record.mStatus = Status.destroyed
  · obtain ⟨record, isRecord, destroyed⟩ := gone
    rw [Tracks.lifecycleTransition_resumed]
    have turned :
        Spec (¬ aims.safe) (manager.turn activity Status.resumed)
          (Tracks aims setting manager.lists manager.lists.foreground
            manager.lists.foreground.head?.toList noExcuse) := by
      apply tracks.turn known
      · exact fun _ => by decide
      · intro isAim found app transition isFound turned
        rw [isRecord] at isFound
        rw [← Option.some.inj isFound] at turned
        have remains :=
          ActivityRecord.lifecycleTransition?_destroyed (by decide)
            destroyed turned
        have stays :=
          lifecycleTransition?_notNegative
            (tracks.targets isAim activity record isRecord).1 turned
        exact ⟨stays, fun alive => absurd remains alive⟩
      · exact fun _ _ _ _ isAimed => isAimed
    refine turned.mono ?_
    intro final finalTracks
    exact settled.of_fewer finalTracks fun _ member => member
  · refine
      (tracks.resume known fun _ _ isExcused => isExcused.elim).mono ?_
    intro final finalTracks
    have settledTracks :
        Tracks aims setting manager.lists manager.lists.foreground
          manager.lists.foreground.head?.toList noExcuse final := by
      refine { finalTracks with targets := ?_ }
      intro isAim
      have inFront := (inFrontOrGone isAim).resolve_right gone
      have onlyTop :
          ∀ other ∈
            activity :: manager.lists.foreground.head?.toList,
            other ∈ manager.lists.foreground.head?.toList := by
        intro other member
        rcases List.mem_cons.mp member with isActivity | isTop
        · simp [inFront, isActivity]
        · exact isTop
      exact
        (finalTracks.reaim onlyTop
          fun _ _ _ isExcused => isExcused).targets isAim
    exact settled.of_fewer settledTracks fun _ member => member

/-- `timeout` of a task on the board. -/
theorem Settled.timeoutTask
    {task : PendTask}
    (settled : Settled aims setting manager)
    (known :
      aims.safe →
      ∀ activity ∈ task.activities,
        (setting.placed activity).isSome = true)
    (keeps : TimeoutKeeps aims setting manager task) :
    Spec True (manager.timeoutTask task) (Settled aims setting) := by
  cases task with
  | lifeCycle activity =>
      refine
        Spec.bind_known (fun mustNotFail => absurd trivial mustNotFail) ?_
      intro record isRecord
      split
      · exact settled
      · rename_i notThere
        refine (settled.tracks.abnormalExit activity).bind ?_
        intro exited exitedTracks
        have exitedSettled :=
          settled.of_fewer exitedTracks fun _ member => member
        refine
          (exitedSettled.deleteActivity
            (fun isAim => known isAim activity (by
              simp [PendTask.activities])) ?_).orFail.mono
            fun _ deleted => deleted.1
        intro isAim
        rw [exitedTracks.sameLists]
        exact keeps isAim ⟨record, isRecord, notThere⟩
  | waitResume resumeActivity willStopActivity =>
      apply settled.resumeAgain
      · exact fun isAim => known isAim willStopActivity (by
          simp [PendTask.activities])
      · exact keeps
  | delayDestroy willDestroyActivity waitResumeActivity =>
      apply settled.destroyOnBoard
      exact fun isAim => known isAim willDestroyActivity (by
        simp [PendTask.activities])

/-! ## The service -/

/-- `getAppRecord` finds the application of the setting. -/
theorem Tracks.of_getAppRecord
    {activity app : Nat}
    {appRecord : AppRecord}
    (tracks :
      Tracks aims setting lists counted aimed excused manager)
    (found : manager.getAppRecord activity = some (app, appRecord)) :
    setting.inApp activity = some app ∧
      manager.accounts app = some appRecord.account ∧
      setting.hasApp activity = true := by
  rw [getAppRecord, Option.bind_eq_bind, Option.bind_eq_some_iff] at found
  obtain ⟨record, isRecord, found⟩ := found
  rw [Option.bind_eq_bind, Option.bind_eq_some_iff] at found
  obtain ⟨number, isNumber, found⟩ := found
  rw [Option.bind_eq_bind, Option.bind_eq_some_iff] at found
  obtain ⟨foundRecord, isFound, found⟩ := found
  obtain ⟨rfl, rfl⟩ := Prod.mk.injEq _ _ _ _ ▸ Option.some.inj found
  have inApp : setting.inApp activity = some number := by
    rw [tracks.inApp_eq activity, isRecord]
    exact isNumber
  have isAccount : manager.accounts number = some foundRecord.account :=
    congrArg (Option.map AppRecord.account) isFound
  refine ⟨inApp, isAccount, ?_⟩
  rw [Setting.hasApp, inApp, Option.bind_some, tracks.stopped number,
    isAccount]
  rfl

/-- The end of an application's activity. -/
theorem Tracks.leaveApp
    (tracks :
      Tracks aims setting lists counted aimed excused manager)
    (token : Nat) :
    Tracks aims setting lists counted aimed excused
      (manager.leaveApp token) := by
  unfold TaskStackManager.leaveApp
  split
  · rename_i app appRecord found
    obtain ⟨_, isAccount, _⟩ := tracks.of_getAppRecord found
    have leftAccount :
        manager.accounts app =
          some (appRecord.deleteActivity token).account := by
      rw [AppRecord.deleteActivity_account]
      exact isAccount
    dsimp only
    split
    · exact
        tracks.frame rfl rfl (setApp_accounts leftAccount) rfl
          ⟨rfl, rfl⟩ rfl
          fun isAim => (tracks.ready isAim).onBoard
    · exact tracks.stopApp leftAccount
  · exact tracks

/-- Handlers are removed. -/
theorem Tracks.removeTask
    (tracks :
      Tracks aims setting lists counted aimed excused manager)
    (event : PendEvent) :
    Tracks aims setting lists counted aimed excused
      { manager with
        mPendTask := manager.mPendTask.removeTask event } := by
  refine tracks.frame rfl rfl rfl rfl ⟨rfl, rfl⟩ rfl ?_
  intro isAim handler member
  exact (tracks.ready isAim).onBoard handler
    (List.mem_of_mem_filter member)

/-- The report that an activity is resumed. -/
private theorem Settled.reportResumed
    (settled : Settled aims setting manager)
    (token : Nat) :
    Spec True (manager.reportResumed token) (Settled aims setting) := by
  unfold TaskStackManager.reportResumed
  split
  · split
    · exact settled
    · refine (settled.triggerResumed (Or.inl ⟨token, rfl⟩)).bind ?_
      intro waited waitedSettled
      exact waitedSettled.triggerResumed (Or.inr ⟨token, rfl⟩)
  · exact settled

/-- The report that an activity is destroyed. -/
private theorem Settled.reportDestroyed
    {token : Nat}
    (settled : Settled aims setting manager)
    (balanced :
      aims.counts →
      setting.hasApp token = true →
      Balanced setting manager.lists
        (setting.deleteActivity manager.lists token)) :
    Spec True (manager.reportDestroyed token) (Settled aims setting) := by
  unfold TaskStackManager.reportDestroyed
  cases isRecord : manager.activities token with
  | none =>
      rw [TaskStackManager.setStatus, isRecord]
      trivial
  | some record =>
      have known : (setting.placed token).isSome = true := by
        rw [settled.tracks.placed token, isRecord]
        rfl
      refine (settled.tracks.setStatus_destroyed token).bind ?_
      intro destroyed destroyedTracks
      have destroyedSettled :=
        settled.of_fewer destroyedTracks fun _ member => member
      split
      · rename_i app appRecord found
        obtain ⟨_, _, hasApp⟩ := destroyedTracks.of_getAppRecord found
        have deletes :
            ∀ middle : TaskStackManager,
              Settled aims setting middle →
              middle.lists = manager.lists →
              Spec True
                (do
                  let manager ← middle.deleteActivity token
                  let manager ← some (manager.leaveApp token)
                  some
                    { manager with
                      mActivityMap := manager.mActivityMap.erase token })
                (Settled aims setting) := by
          intro middle middleSettled sameLists
          have deleted :=
            middleSettled.deleteActivity (fun _ => known) fun isAim => by
              rw [sameLists]
              exact balanced isAim hasApp
          refine deleted.orFail.bind ?_
          rintro next ⟨nextSettled, _⟩
          have leftSettled :=
            nextSettled.of_fewer (nextSettled.tracks.leaveApp token)
              fun _ member => member
          exact leftSettled.setActivityMap _
        dsimp only
        split
        · exact deletes _ destroyedSettled destroyedTracks.sameLists
        · have removedSettled :=
            destroyedSettled.of_fewer
              (destroyedSettled.tracks.removeTask
                (.activityWaitResume token))
              fun _ member => member
          exact deletes _ removedSettled destroyedTracks.sameLists
      · exact destroyedSettled.setActivityMap _

/-- `reportActivityStatus`. -/
theorem Settled.reportActivityStatus
    {token : Nat}
    {status : Status}
    (settled : Settled aims setting manager)
    (keeps :
      token ∈ manager.mActivityMap →
      (manager.mPendTask.firstPending
        (PendEvent.activityStatusReport status token)).isSome = true →
      ∀ record,
        manager.activities token = some record →
        ReportKeeps aims status record)
    (balancedError :
      aims.counts →
      token ∈ manager.mActivityMap →
      status = Status.error →
      (manager.mPendTask.firstPending
        (PendEvent.activityStatusReport status token)).isSome = true →
      Balanced setting manager.lists
        (setting.deleteActivity manager.lists token))
    (balancedDestroyed :
      aims.counts →
      token ∈ manager.mActivityMap →
      status = Status.destroyed →
      setting.hasApp token = true →
      Balanced setting manager.lists
        (setting.deleteActivity manager.lists token)) :
    Spec True (manager.reportActivityStatus token status)
      (Settled aims setting) := by
  unfold TaskStackManager.reportActivityStatus
  split
  · rename_i isKnown
    have triggered :=
      settled.triggerStatusReport (keeps isKnown)
        fun isPending isAim isError =>
          balancedError isAim isKnown isError isPending
    refine triggered.bind ?_
    rintro middle ⟨middleSettled, sameLists⟩
    split
    · exact middleSettled.reportResumed token
    · split
      · rename_i isDestroyed
        have notError : status ≠ Status.error := by
          rw [isDestroyed]
          decide
        apply middleSettled.reportDestroyed
        intro isAim hasApp
        rw [sameLists notError]
        exact balancedDestroyed isAim isKnown isDestroyed hasApp
      · exact middleSettled
  · exact settled

/-- `checkTimeout` for one task. -/
theorem Settled.timeout
    {serial : Nat}
    (settled : Settled aims setting manager)
    (keeps :
      ∀ task,
        manager.dueTask serial = some task →
        TimeoutKeeps aims setting manager task) :
    Spec True (manager.timeout serial) (Settled aims setting) := by
  refine Spec.bind_known (fun mustNotFail => absurd trivial mustNotFail) ?_
  intro task isDue
  apply (settled.markDone serial).timeoutTask
  · intro isAim
    rw [dueTask, Option.map_eq_some_iff] at isDue
    obtain ⟨handler, isHandler, isTask⟩ := isDue
    have onBoard := List.mem_of_find?_eq_some isHandler
    rw [← isTask]
    exact (settled.tracks.ready isAim).onBoard handler onBoard
  · have taskKeeps := keeps task isDue
    cases task with
    | lifeCycle activity =>
        exact taskKeeps
    | waitResume resumeActivity willStopActivity =>
        exact taskKeeps
    | delayDestroy willDestroyActivity waitResumeActivity =>
        trivial

end TaskStackManager

end ActivityManager
