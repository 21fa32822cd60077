import ActivityManager.LifecycleRequests
import ActivityManager.TaskManagerMachine

/-!
# The records of activities, step by step

Everything that the service does to activity records, their applications and
their tasks on the board consists of a few primitive steps.  `recordStep?`
performs one of them.  The operations of the task manager, the reports of the
clients, timeouts and the death of a process are runs of this machine, with
`relist` where they change the lists of tasks; what all of its runs keep, they
keep as well.
-/

namespace ActivityManager

/-- The primitive steps. -/
inductive RecordAction where
  /-- The constructor of an activity, with its entry in `mActivityMap`. -/
  | createActivity (name : String) (targetTask : Nat) (intent : Intent)
  | setAppThread (activity app : Nat)
  /-- `lifecycleTransition` after its event. -/
  | turn (activity : Nat) (toStatus : Status)
  | setIntent (activity : Nat) (intent : Intent)
  /-- `turnToActivity` pretends that the top is paused. -/
  | restart (activity : Nat)
  | commit (task : PendTask)
  /-- A task that waits for another activity is triggered or times out. -/
  | complete (serial : Nat) (task : PendTask)
  /-- The status that a pending lifecycle task gets with a report. -/
  | statusReport (token : Nat) (status : Status)
  /-- A lifecycle task times out. -/
  | giveUp (serial activity : Nat)
  | abnormalExit (activity : Nat)
  /-- The start of a report that an activity is destroyed, and its end. -/
  | reportDestroyed (token : Nat)
  | activityGone (token : Nat)
  | setForeground (app : Nat) (isForeground : Bool)
  | stopApplication (app : Nat)
  | markStopped (app : Nat)
  /-- `mActivityMap` loses an activity of a process that died. -/
  | forget (token : Nat)
  | attachApplication (packageName : String) (systemui : Bool) (pid : Nat)
  | deleteAppInfo (app : Nat)
  | clockAdvances (ms : Nat)
  | holdTasks (tasks : List Nat)
  | relist (lists : TaskLists)

/-- A task that waits for another activity to be resumed. -/
def PendTask.isWait : PendTask → Bool
  | .lifeCycle _ => false
  | .waitResume _ _ => true
  | .delayDestroy _ _ => true

namespace TaskStackManager

/-- `std::make_shared<ActivityRecord>` and the entry in `mActivityMap`. -/
def createActivity
    (manager : TaskStackManager)
    (name : String)
    (targetTask : Nat)
    (intent : Intent) : TaskStackManager :=
  let record :=
    ActivityRecord.fresh name manager.nextActivity none targetTask intent
  { manager.setRecord manager.nextActivity record with
    mActivityMap := manager.nextActivity :: manager.mActivityMap
    nextActivity := manager.nextActivity + 1 }

/-- `ActivityRecord::setAppThread`. -/
def setAppThread
    (manager : TaskStackManager)
    (activity app : Nat) : Option TaskStackManager := do
  let record ← manager.activities activity
  some (manager.setRecord activity { record with mApp := some app })

/-- A task is on the board under a serial number, and not done. -/
def isPending
    (manager : TaskStackManager)
    (serial : Nat)
    (task : PendTask) : Bool :=
  manager.mPendTask.mTasklist.any fun handler =>
    handler.serial = serial ∧ handler.mIsDone = false ∧
      handler.mTask = task

/-- A pending task is done. -/
def done
    (manager : TaskStackManager)
    (serial : Nat) : TaskStackManager :=
  { manager with mPendTask := manager.mPendTask.markDone serial }

/-- A wait is over. -/
def complete
    (manager : TaskStackManager)
    (serial : Nat)
    (task : PendTask) : Option TaskStackManager :=
  if manager.isPending serial task ∧ task.isWait then
    some (manager.done serial)
  else
    none

/-- What `ActivityLifeCycleTask::execute` stores for a report. -/
def storeReport
    (record : ActivityRecord)
    (status : Status) : ActivityRecord :=
  if status = Status.error then record.reportError
  else record.setStatus status

/-- The start of `ActivityLifeCycleTask::execute`, if a task is pending. -/
def statusReport
    (manager : TaskStackManager)
    (token : Nat)
    (status : Status) : Option TaskStackManager :=
  if token ∈ manager.mActivityMap then
    match manager.mPendTask.firstPending
        (PendEvent.activityStatusReport status token) with
    | some handler => do
        let record ← manager.activities token
        some
          ((manager.done handler.serial).setRecord token
            (storeReport record status))
    | none =>
        some manager
  else
    some manager

/-- `ActivityLifeCycleTask::timeout`, before its activity is deleted. -/
def giveUp
    (manager : TaskStackManager)
    (serial activity : Nat) : Option TaskStackManager :=
  if manager.isPending serial (.lifeCycle activity) then do
    let record ← manager.activities activity
    if record.mStatus = record.mTargetStatus then
      some (manager.done serial)
    else
      (manager.done serial).abnormalExit activity
  else
    none

/--
The start of a report that an activity is destroyed.  The tasks that wait for
an activity to be resumed are removed unless it belongs to the SystemUI.
-/
def startDestroyed
    (manager : TaskStackManager)
    (token : Nat) : Option TaskStackManager :=
  if token ∈ manager.mActivityMap then do
    let manager ← manager.setStatus token Status.destroyed
    match manager.getAppRecord token with
    | some (_, appRecord) =>
        if appRecord.mIsSystemUI then
          some manager
        else
          some
            { manager with
              mPendTask :=
                manager.mPendTask.removeTask
                  (PendEvent.activityWaitResume token) }
    | none =>
        some manager
  else
    none

/-- The end of that report. -/
def activityGone
    (manager : TaskStackManager)
    (token : Nat) : TaskStackManager :=
  let left := manager.leaveApp token
  { left with mActivityMap := left.mActivityMap.erase token }

/-- Perform a primitive step. -/
def recordStep?
    (manager : TaskStackManager) :
    RecordAction → Option TaskStackManager
  | .createActivity name targetTask intent =>
      some (manager.createActivity name targetTask intent)
  | .setAppThread activity app =>
      manager.setAppThread activity app
  | .turn activity toStatus =>
      manager.turn activity toStatus
  | .setIntent activity intent =>
      manager.setIntent activity intent
  | .restart activity =>
      manager.setStatus activity Status.paused
  | .commit task =>
      if task.isWait then some (manager.commit task) else none
  | .complete serial task =>
      manager.complete serial task
  | .statusReport token status =>
      manager.statusReport token status
  | .giveUp serial activity =>
      manager.giveUp serial activity
  | .abnormalExit activity =>
      manager.abnormalExit activity
  | .reportDestroyed token =>
      manager.startDestroyed token
  | .activityGone token =>
      some (manager.activityGone token)
  | .setForeground app isForeground =>
      (manager.apps app).map fun record =>
        manager.setAppForeground app record isForeground
  | .stopApplication app =>
      (manager.apps app).map (manager.stopApp app)
  | .markStopped app =>
      (manager.apps app).map (manager.markStopped app)
  | .forget token =>
      some { manager with mActivityMap := manager.mActivityMap.erase token }
  | .attachApplication packageName systemui pid =>
      some (manager.attachApplication packageName systemui pid)
  | .deleteAppInfo app =>
      manager.deleteAppInfo app
  | .clockAdvances ms =>
      some
        { manager with
          mPendTask :=
            { manager.mPendTask with
              clock := manager.mPendTask.clock + ms } }
  | .holdTasks tasks =>
      some { manager with heldTasks := tasks }
  | .relist lists =>
      some (manager.setLists lists)

/-! ## What the primitive steps change -/

/-- What `turn` does. -/
structure Turned
    (manager next : TaskStackManager)
    (activity : Nat)
    (toStatus : Status)
    (record : ActivityRecord)
    (transition : LifecycleTransition) : Prop where
  isRecord : manager.activities activity = some record
  turned :
    record.lifecycleTransition? (record.mApp.bind manager.apps) toStatus =
      some transition
  activities :
    next.activities =
      Function.update manager.activities activity
        (some transition.activity)
  apps :
    next.apps =
      match record.mApp, transition.app with
      | some app, some appRecord =>
          Function.update manager.apps app (some appRecord)
      | _, _ =>
          manager.apps
  mPendTask :
    next.mPendTask =
      if transition.commits then
        manager.mPendTask.commitTask (.lifeCycle activity) requestTimeoutMs
      else
        manager.mPendTask
  mActivityMap : next.mActivityMap = manager.mActivityMap
  lists : next.lists = manager.lists
  heldTasks : next.heldTasks = manager.heldTasks
  nextNumbers :
    next.nextActivity = manager.nextActivity ∧
      next.nextApp = manager.nextApp

variable {manager next : TaskStackManager} {activity : Nat}

/-- A turn that does not go wrong. -/
theorem turn_cases
    {toStatus : Status}
    (isNext : manager.turn activity toStatus = some next) :
    ∃ record transition,
      Turned manager next activity toStatus record transition := by
  unfold turn at isNext
  cases isRecord : manager.activities activity with
  | none =>
      simp [isRecord] at isNext
  | some record =>
      cases turned :
          record.lifecycleTransition? (record.mApp.bind manager.apps)
            toStatus with
      | none =>
          simp [isRecord, turned] at isNext
      | some transition =>
          refine ⟨record, transition, ?_⟩
          simp only [isRecord, turned, Option.bind_eq_bind,
            Option.bind_some, Option.some.injEq] at isNext
          subst isNext
          refine ⟨isRecord, turned, ?_, ?_, ?_, ?_, ?_, ?_, ?_⟩ <;>
            cases transition.commits <;>
            cases record.mApp <;>
            cases transition.app <;>
            simp [commit, setRecord, setApp]

/-- `setStatus` on a record. -/
theorem setStatus_cases
    {status : Status}
    (isNext : manager.setStatus activity status = some next) :
    ∃ record,
      manager.activities activity = some record ∧
        next = manager.setRecord activity (record.setStatus status) := by
  unfold setStatus at isNext
  cases isRecord : manager.activities activity with
  | none =>
      simp [isRecord] at isNext
  | some record =>
      simp only [isRecord, Option.bind_eq_bind, Option.bind_some,
        Option.some.injEq] at isNext
      exact ⟨record, rfl, isNext.symm⟩

/-- The end of an activity whose application is known. -/
def exitApp
    (manager : TaskStackManager)
    (activity app : Nat)
    (record : ActivityRecord)
    (appRecord : AppRecord) : TaskStackManager :=
  { manager.setRecord activity (record.setStatus Status.destroyed) with
    calls :=
      manager.calls ++ [Call.removeWindowToken record.mToken] }.stopApp
    app (appRecord.deleteActivity activity)

/-- `abnormalExit` on a record. -/
theorem abnormalExit_cases
    (isNext : manager.abnormalExit activity = some next) :
    ∃ record,
      manager.activities activity = some record ∧
        ((record.mApp.bind manager.apps = none ∧
            next =
              manager.setRecord activity
                (record.setStatus Status.destroyed)) ∨
          ∃ app appRecord,
            record.mApp = some app ∧
              manager.apps app = some appRecord ∧
              next = manager.exitApp activity app record appRecord) := by
  unfold abnormalExit at isNext
  cases isRecord : manager.activities activity with
  | none =>
      simp [setStatus, isRecord] at isNext
  | some record =>
      refine ⟨record, rfl, ?_⟩
      have opened :
          (manager.setRecord activity
              (record.setStatus Status.destroyed)).activities activity =
            some (record.setStatus Status.destroyed) :=
        Function.update_self _ _ _
      rw [setStatus, isRecord] at isNext
      simp only [Option.bind_eq_bind, Option.bind_some, opened] at isNext
      split at isNext
      · rename_i app isApp
        split at isNext
        · rename_i appRecord isAppRecord
          exact Or.inr
            ⟨app, appRecord, isApp, isAppRecord,
              (Option.some.inj isNext).symm⟩
        · rename_i noRecord
          refine Or.inl ⟨?_, (Option.some.inj isNext).symm⟩
          rw [show record.mApp = some app from isApp]
          exact noRecord
      · rename_i noApp
        refine Or.inl ⟨?_, (Option.some.inj isNext).symm⟩
        rw [show record.mApp = none from noApp]
        rfl

/-- The end of an activity cannot go wrong. -/
theorem exists_abnormalExit
    {record : ActivityRecord}
    (isRecord : manager.activities activity = some record) :
    ∃ final, manager.abnormalExit activity = some final := by
  have opened :
      (manager.setRecord activity
          (record.setStatus Status.destroyed)).activities activity =
        some (record.setStatus Status.destroyed) :=
    Function.update_self _ _ _
  rw [abnormalExit, setStatus, isRecord]
  simp only [Option.bind_eq_bind, Option.bind_some, opened]
  split
  · split
    · exact ⟨_, rfl⟩
    · exact ⟨_, rfl⟩
  · exact ⟨_, rfl⟩

/-- `setAppThread` on a record. -/
theorem setAppThread_cases
    {app : Nat}
    (isNext : manager.setAppThread activity app = some next) :
    ∃ record,
      manager.activities activity = some record ∧
        next =
          manager.setRecord activity { record with mApp := some app } := by
  unfold setAppThread at isNext
  cases isRecord : manager.activities activity with
  | none =>
      simp [isRecord] at isNext
  | some record =>
      simp only [isRecord, Option.bind_eq_bind, Option.bind_some,
        Option.some.injEq] at isNext
      exact ⟨record, rfl, isNext.symm⟩

/-- `setIntent` on a record. -/
theorem setIntent_cases
    {intent : Intent}
    (isNext : manager.setIntent activity intent = some next) :
    ∃ record,
      manager.activities activity = some record ∧
        next = manager.setRecord activity (record.setIntent intent) := by
  unfold setIntent at isNext
  cases isRecord : manager.activities activity with
  | none =>
      simp [isRecord] at isNext
  | some record =>
      simp only [isRecord, Option.bind_eq_bind, Option.bind_some,
        Option.some.injEq] at isNext
      exact ⟨record, rfl, isNext.symm⟩

/-- Only waits are committed by themselves. -/
theorem commit_cases
    {task : PendTask}
    (isNext : manager.recordStep? (.commit task) = some next) :
    task.isWait = true ∧ next = manager.commit task := by
  rw [recordStep?] at isNext
  split at isNext
  · rename_i isWait
    exact ⟨isWait, (Option.some.inj isNext).symm⟩
  · cases isNext

/-- A wait that is over. -/
theorem complete_cases
    {serial : Nat}
    {task : PendTask}
    (isNext : manager.complete serial task = some next) :
    manager.isPending serial task = true ∧
      task.isWait = true ∧
      next = manager.done serial := by
  unfold complete at isNext
  split at isNext
  · rename_i isWait
    exact ⟨isWait.1, isWait.2, (Option.some.inj isNext).symm⟩
  · cases isNext

/-- A report meets a pending task, or nothing happens. -/
theorem statusReport_cases
    {token : Nat}
    {status : Status}
    (isNext : manager.statusReport token status = some next) :
    next = manager ∨
      ∃ handler record,
        token ∈ manager.mActivityMap ∧
          manager.mPendTask.firstPending
              (PendEvent.activityStatusReport status token) =
            some handler ∧
          manager.activities token = some record ∧
          next =
            (manager.done handler.serial).setRecord token
              (storeReport record status) := by
  unfold statusReport at isNext
  split at isNext
  · rename_i known
    split at isNext
    · rename_i handler isFirst
      cases isRecord : manager.activities token with
      | none =>
          simp [isRecord] at isNext
      | some record =>
          simp only [isRecord, Option.bind_eq_bind, Option.bind_some,
            Option.some.injEq] at isNext
          exact Or.inr
            ⟨handler, record, known, isFirst, rfl, isNext.symm⟩
    · exact Or.inl (Option.some.inj isNext).symm
  · exact Or.inl (Option.some.inj isNext).symm

/-- A lifecycle task times out, early or late. -/
theorem giveUp_cases
    {serial : Nat}
    (isNext : manager.giveUp serial activity = some next) :
    manager.isPending serial (.lifeCycle activity) = true ∧
      ∃ record,
        manager.activities activity = some record ∧
          ((record.mStatus = record.mTargetStatus ∧
              next = manager.done serial) ∨
            (record.mStatus ≠ record.mTargetStatus ∧
              (manager.done serial).abnormalExit activity =
                some next)) := by
  unfold giveUp at isNext
  split at isNext
  · rename_i isPending
    cases isRecord : manager.activities activity with
    | none =>
        simp [isRecord] at isNext
    | some record =>
        simp only [isRecord, Option.bind_eq_bind,
          Option.bind_some] at isNext
        refine ⟨isPending, record, rfl, ?_⟩
        split at isNext
        · rename_i isThere
          exact Or.inl ⟨isThere, (Option.some.inj isNext).symm⟩
        · rename_i notThere
          exact Or.inr ⟨notThere, isNext⟩
  · cases isNext

/-- The start of a report that an activity is destroyed. -/
theorem startDestroyed_cases
    {token : Nat}
    (isNext : manager.startDestroyed token = some next) :
    token ∈ manager.mActivityMap ∧
      ∃ record board,
        manager.activities token = some record ∧
          (board = manager.mPendTask ∨
            board =
              manager.mPendTask.removeTask
                (PendEvent.activityWaitResume token)) ∧
          next =
            { manager.setRecord token
                (record.setStatus Status.destroyed) with
              mPendTask := board } := by
  unfold startDestroyed at isNext
  split at isNext
  · rename_i known
    refine ⟨known, ?_⟩
    cases isDestroyed : manager.setStatus token Status.destroyed with
    | none =>
        rw [isDestroyed] at isNext
        cases isNext
    | some destroyed =>
        obtain ⟨record, isRecord, isSet⟩ := setStatus_cases isDestroyed
        subst isSet
        rw [isDestroyed, Option.bind_eq_bind, Option.bind_some] at isNext
        split at isNext
        · split at isNext
          · exact
              ⟨record, _, isRecord, Or.inl rfl,
                (Option.some.inj isNext).symm⟩
          · exact
              ⟨record, _, isRecord, Or.inr rfl,
                (Option.some.inj isNext).symm⟩
        · exact
            ⟨record, _, isRecord, Or.inl rfl,
              (Option.some.inj isNext).symm⟩
  · cases isNext

/-- An application loses an activity, and ends if that was its last. -/
theorem leaveApp_cases
    (manager : TaskStackManager)
    (token : Nat) :
    (manager.getAppRecord token = none ∧
        manager.leaveApp token = manager) ∨
      ∃ app appRecord,
        manager.getAppRecord token = some (app, appRecord) ∧
          ((((appRecord.deleteActivity token).checkActiveStatus = true) ∧
              manager.leaveApp token =
                manager.setApp app (appRecord.deleteActivity token)) ∨
            (((appRecord.deleteActivity token).checkActiveStatus = false) ∧
              manager.leaveApp token =
                manager.stopApp app
                  (appRecord.deleteActivity token))) := by
  cases isApp : manager.getAppRecord token with
  | none =>
      refine Or.inl ⟨rfl, ?_⟩
      rw [leaveApp, isApp]
  | some found =>
      obtain ⟨app, appRecord⟩ := found
      refine Or.inr ⟨app, appRecord, rfl, ?_⟩
      cases isActive :
          (appRecord.deleteActivity token).checkActiveStatus with
      | true =>
          exact Or.inl ⟨rfl, by simp [leaveApp, isApp, isActive]⟩
      | false =>
          exact Or.inr ⟨rfl, by simp [leaveApp, isApp, isActive]⟩

/-- Leaving concerns the application only. -/
theorem leaveApp_frame
    (manager : TaskStackManager)
    (token : Nat) :
    (manager.leaveApp token).activities = manager.activities ∧
      (manager.leaveApp token).mPendTask = manager.mPendTask ∧
      (manager.leaveApp token).mActivityMap = manager.mActivityMap := by
  rcases leaveApp_cases manager token with
    ⟨_, left⟩ | ⟨app, appRecord, _, ⟨_, left⟩ | ⟨_, left⟩⟩
  · rw [left]
    exact ⟨rfl, rfl, rfl⟩
  · rw [left]
    exact ⟨rfl, rfl, rfl⟩
  · rw [left]
    exact ⟨rfl, rfl, rfl⟩

/-- The record of a process goes once it is stopped. -/
theorem deleteAppInfo_cases
    {app : Nat}
    (isNext : manager.deleteAppInfo app = some next) :
    ∃ record,
      manager.apps app = some record ∧
        record.mStatus = .appStopped ∧
        next =
          { manager with apps := Function.update manager.apps app none } := by
  unfold deleteAppInfo at isNext
  cases isRecord : manager.apps app with
  | none =>
      simp [isRecord] at isNext
  | some record =>
      simp only [isRecord, Option.bind_eq_bind, Option.bind_some] at isNext
      split at isNext
      · rename_i isStopped
        exact ⟨record, rfl, isStopped, (Option.some.inj isNext).symm⟩
      · cases isNext

end TaskStackManager

/-- The steps that create an activity or forget one. -/
def RecordAction.changesMap : RecordAction → Bool
  | .createActivity _ _ _ => true
  | .activityGone _ => true
  | .forget _ => true
  | _ => false

namespace TaskStackManager

variable {manager next : TaskStackManager} {action : RecordAction}

/-- Only these change the activities that the service knows. -/
theorem recordStep?_mActivityMap
    (isNext : manager.recordStep? action = some next)
    (keeps : action.changesMap = false) :
    next.mActivityMap = manager.mActivityMap := by
  cases action with
  | createActivity _ _ _ =>
      cases keeps
  | activityGone _ =>
      cases keeps
  | forget _ =>
      cases keeps
  | setAppThread activity app =>
      obtain ⟨_, _, isSet⟩ := setAppThread_cases isNext
      rw [isSet]
      rfl
  | turn activity toStatus =>
      obtain ⟨_, _, turned⟩ := turn_cases isNext
      exact turned.mActivityMap
  | setIntent activity intent =>
      obtain ⟨_, _, isSet⟩ := setIntent_cases isNext
      rw [isSet]
      rfl
  | restart activity =>
      obtain ⟨_, _, isSet⟩ := setStatus_cases isNext
      rw [isSet]
      rfl
  | commit task =>
      obtain ⟨_, isCommitted⟩ := commit_cases isNext
      rw [isCommitted]
      rfl
  | complete serial task =>
      obtain ⟨_, _, isDone⟩ := complete_cases isNext
      rw [isDone]
      rfl
  | statusReport token status =>
      rcases statusReport_cases isNext with
        isSame | ⟨_, _, _, _, _, isStored⟩
      · rw [isSame]
      · rw [isStored]
        rfl
  | giveUp serial activity =>
      obtain ⟨_, _, _, ⟨_, isDone⟩ | ⟨_, exited⟩⟩ := giveUp_cases isNext
      · rw [isDone]
        rfl
      · obtain ⟨_, _, hasEnded | ⟨_, _, _, _, hasEnded⟩⟩ :=
          abnormalExit_cases exited
        · rw [hasEnded.2]
          rfl
        · rw [hasEnded]
          rfl
  | abnormalExit activity =>
      obtain ⟨_, _, hasEnded | ⟨_, _, _, _, hasEnded⟩⟩ :=
        abnormalExit_cases isNext
      · rw [hasEnded.2]
        rfl
      · rw [hasEnded]
        rfl
  | reportDestroyed token =>
      obtain ⟨_, _, _, _, _, isStarted⟩ := startDestroyed_cases isNext
      rw [isStarted]
      rfl
  | setForeground app isForeground =>
      obtain ⟨_, _, isSet⟩ := Option.map_eq_some_iff.mp isNext
      rw [← isSet]
      rfl
  | stopApplication app =>
      obtain ⟨_, _, isSet⟩ := Option.map_eq_some_iff.mp isNext
      rw [← isSet]
      rfl
  | markStopped app =>
      obtain ⟨_, _, isSet⟩ := Option.map_eq_some_iff.mp isNext
      rw [← isSet]
      rfl
  | attachApplication packageName systemui pid =>
      rw [← Option.some.inj isNext]
      rfl
  | deleteAppInfo app =>
      obtain ⟨_, _, _, isDeleted⟩ := deleteAppInfo_cases isNext
      rw [isDeleted]
  | clockAdvances ms =>
      rw [← Option.some.inj isNext]
  | holdTasks tasks =>
      rw [← Option.some.inj isNext]
  | relist lists =>
      rw [← Option.some.inj isNext]
      rfl

end TaskStackManager

end ActivityManager
