import ActivityManager.Library.PartialProgram
import ActivityManager.LifecycleRequests
import ActivityManager.TaskManagerMachine

/-!
# Rules for the task manager

Three things are said about the operations of the task manager: that they do
not go wrong, that the foreground counters are right, and which activities are
to be resumed.  `Tracks` says all three of a state in the middle of an
operation, each only where it is an aim, so that one walk through an operation
serves them all.  This module has one rule for each primitive step.
-/

namespace ActivityManager

open PartialProgram

/-! ## What is tracked -/

/-- What a proof keeps track of. -/
structure Aims where
  /-- No operation goes wrong. -/
  safe : Prop
  /-- The counters of foreground activities are right. -/
  counts : Prop
  /-- Only some activities are to be resumed. -/
  targets : Prop

/-- What no operation of the task manager changes. -/
structure Setting where
  /-- The task and the application of every activity. -/
  placed : Nat → Option (Nat × Option Nat)
  /-- Whether an application is stopped, if it has a record. -/
  stopped : Nat → Option Bool
  heldTasks : List Nat
  nextActivity : Nat
  nextApp : Nat

namespace Setting

/-- The task of an activity. -/
def inTask
    (setting : Setting)
    (activity : Nat) : Option Nat :=
  (setting.placed activity).map Prod.fst

/-- The application of an activity. -/
def inApp
    (setting : Setting)
    (activity : Nat) : Option Nat :=
  (setting.placed activity).bind Prod.snd

/-- An application with a record that is not stopped. -/
def running
    (setting : Setting)
    (app : Nat) : Bool :=
  setting.stopped app == some false

/-- An activity whose application has a record. -/
def hasApp
    (setting : Setting)
    (activity : Nat) : Bool :=
  ((setting.inApp activity).bind setting.stopped).isSome

/-- The task of an activity that `getTask` finds. -/
def getTask
    (setting : Setting)
    (lists : TaskLists)
    (activity : Nat) : Option Nat :=
  (setting.inTask activity).filter fun task =>
    task ∈ lists.mAllTasks ∨
      lists.mHomeTask = some task ∨
      task ∈ setting.heldTasks

/-- What `deleteActivity` does to the lists. -/
def deleteActivity
    (setting : Setting)
    (lists : TaskLists)
    (activity : Nat) : TaskLists :=
  match setting.getTask lists activity with
  | some task => lists.deleteActivity task activity
  | none => lists

/-- How many of some activities are an application's. -/
def countIn
    (setting : Setting)
    (app : Nat)
    (activities : List Nat) : Nat :=
  activities.countP fun activity => setting.inApp activity = some app

theorem countIn_cons_of_inApp
    {setting : Setting}
    {activity app : Nat}
    (inApp : setting.inApp activity = some app)
    (activities : List Nat) :
    setting.countIn app (activity :: activities) =
      setting.countIn app activities + 1 := by
  simp [countIn, inApp]

theorem countIn_cons_of_ne
    {setting : Setting}
    {activity app : Nat}
    (notIn : setting.inApp activity ≠ some app)
    (activities : List Nat) :
    setting.countIn app (activity :: activities) =
      setting.countIn app activities := by
  simp [countIn, notIn]

end Setting

/-- The activities that a task on the board refers to. -/
def PendTask.activities : PendTask → List Nat
  | .lifeCycle activity => [activity]
  | .waitResume resumeActivity willStopActivity =>
      [resumeActivity, willStopActivity]
  | .delayDestroy willDestroyActivity waitResumeActivity =>
      [willDestroyActivity, waitResumeActivity]

/--
An activity that is to be resumed is one of `aimed`, and on its way or there;
`excused` lists the statuses that a report in progress may leave instead.
-/
def AimedRecord
    (aimed : List Nat)
    (excused : Nat → Status → Prop)
    (activity : Nat)
    (record : ActivityRecord) : Prop :=
  0 ≤ record.mStatus ∧
    (record.mStatus ≠ Status.destroyed →
      record.mTargetStatus = Status.resumed →
      activity ∈ aimed ∧
        (record.isTransitional = true ∨
          record.mStatus = Status.resumed ∨
          excused activity record.mStatus))

/-- No report is in progress. -/
def noExcuse (_ : Nat) (_ : Status) : Prop :=
  False

namespace TaskStackManager

/-- The accounts of all applications. -/
def accounts
    (manager : TaskStackManager)
    (app : Nat) : Option Account :=
  (manager.apps app).map AppRecord.account

theorem accounts_eq_account
    {manager : TaskStackManager}
    {app : Nat}
    {record : AppRecord}
    (isRecord : manager.apps app = some record) :
    manager.accounts app = some record.account := by
  rw [accounts, isRecord]
  rfl

/-- The setting of a state. -/
def setting (manager : TaskStackManager) : Setting where
  placed activity :=
    (manager.activities activity).map fun record =>
      (record.mInTask, record.mApp)
  stopped app := (manager.accounts app).map Account.isStopped
  heldTasks := manager.heldTasks
  nextActivity := manager.nextActivity
  nextApp := manager.nextApp

/--
The counters of running applications count their activities in a list; who
has one there has been told so.
-/
def Counted
    (setting : Setting)
    (counted : List Nat)
    (manager : TaskStackManager) : Prop :=
  ∀ app account,
    manager.accounts app = some account →
    account.isStopped = false →
    account.count = setting.countIn app counted ∧
      (0 < setting.countIn app counted →
        manager.told app =
          [.setForegroundApplication account.pid true,
            .pushForeground account.pid])

/-- Nothing that an operation may go through is missing. -/
structure Ready
    (setting : Setting)
    (manager : TaskStackManager) : Prop where
  legal :
    ∀ activity record,
      manager.activities activity = some record →
      record.IsLegal
  alive :
    ∀ activity task app,
      setting.placed activity = some (task, app) →
      ∃ number,
        app = some number ∧
          (manager.accounts number).isSome = true
  onBoard :
    ∀ handler ∈ manager.mPendTask.mTasklist,
      ∀ activity ∈ handler.mTask.activities,
        (setting.placed activity).isSome = true

/-- What is known of a state in the middle of an operation. -/
structure Tracks
    (aims : Aims)
    (setting : Setting)
    (lists : TaskLists)
    (counted aimed : List Nat)
    (excused : Nat → Status → Prop)
    (manager : TaskStackManager) : Prop where
  sameLists : manager.lists = lists
  sameSetting : manager.setting = setting
  counts : aims.counts → Counted setting counted manager
  targets :
    aims.targets →
    ∀ activity record,
      manager.activities activity = some record →
      AimedRecord aimed excused activity record
  ready : aims.safe → Ready setting manager

end TaskStackManager

/-! ## Records that are to be resumed -/

namespace AimedRecord

variable
  {aimed more : List Nat}
  {excused weaker : Nat → Status → Prop}
  {activity : Nat}
  {record : ActivityRecord}

/-- More activities and more excuses. -/
theorem mono
    (isAimed : AimedRecord aimed excused activity record)
    (included : activity ∈ aimed → activity ∈ more)
    (implies :
      ∀ status,
        excused activity status →
        weaker activity status) :
    AimedRecord more weaker activity record := by
  refine ⟨isAimed.1, ?_⟩
  intro alive wanted
  obtain ⟨isMember, onItsWay⟩ := isAimed.2 alive wanted
  exact ⟨included isMember,
    onItsWay.imp_right (Or.imp_right (implies _))⟩

/-- An activity that is not to be resumed. -/
theorem of_other_target
    (notNegative : 0 ≤ record.mStatus)
    (notWanted : record.mTargetStatus ≠ Status.resumed) :
    AimedRecord aimed excused activity record :=
  ⟨notNegative, fun _ wanted => absurd wanted notWanted⟩

end AimedRecord

/-- Statuses stay nonnegative. -/
theorem lifecycleTransition?_notNegative
    {record : ActivityRecord}
    {app : Option AppRecord}
    {toStatus : Status}
    {transition : LifecycleTransition}
    (notNegative : 0 ≤ record.mStatus)
    (turned :
      record.lifecycleTransition? app toStatus = some transition) :
    0 ≤ transition.activity.mStatus := by
  obtain ⟨_, _, status, _⟩ :=
    ActivityRecord.lifecycleTransition?_frame turned
  rcases status with isSame | ⟨turn, isTransitional⟩
  · rw [isSame]
    exact notNegative
  · rw [isTransitional]
    cases turn <;> decide

/-- After a request to resume, an activity is on its way or there. -/
theorem aimedRecord_resumed
    {record : ActivityRecord}
    {app : Option AppRecord}
    {transition : LifecycleTransition}
    {aimed : List Nat}
    {excused : Nat → Status → Prop}
    {activity : Nat}
    (notNegative : 0 ≤ record.mStatus)
    (turned :
      record.lifecycleTransition? app Status.resumed =
        some transition) :
    AimedRecord (activity :: aimed) excused activity
      transition.activity := by
  refine ⟨lifecycleTransition?_notNegative notNegative turned, ?_⟩
  intro alive _
  refine ⟨List.mem_cons_self, ?_⟩
  rcases ActivityRecord.lifecycleTransition?_resumed notNegative turned with
    transitional | resumed | destroyed
  · exact Or.inl transitional
  · exact Or.inr (Or.inl resumed)
  · exact absurd destroyed alive

/-- After another request, an activity is not to be resumed any more. -/
theorem aimedRecord_other
    {record : ActivityRecord}
    {app : Option AppRecord}
    {toStatus : Status}
    {transition : LifecycleTransition}
    {aimed others : List Nat}
    {excused noLonger : Nat → Status → Prop}
    {activity : Nat}
    (isAimed : AimedRecord aimed excused activity record)
    (requested :
      toStatus = Status.paused ∨ toStatus = Status.destroyed)
    (harmless :
      ∀ status,
        excused activity status →
        toStatus = Status.destroyed ∧ status ≠ Status.init)
    (turned :
      record.lifecycleTransition? app toStatus = some transition) :
    AimedRecord others noLonger activity transition.activity := by
  obtain ⟨notNegative, wantedOnItsWay⟩ := isAimed
  have isOther : toStatus ≠ Status.resumed := by
    rcases requested with isPaused | isDestroyed
    · rw [isPaused]
      decide
    · rw [isDestroyed]
      decide
  have isRequest : toStatus ∈ requestedStatuses := by
    rcases requested with isPaused | isDestroyed
    · rw [isPaused]
      decide
    · rw [isDestroyed]
      decide
  have stays := lifecycleTransition?_notNegative notNegative turned
  by_cases destroyed : record.mStatus = Status.destroyed
  · have remains :=
      ActivityRecord.lifecycleTransition?_destroyed isRequest destroyed
        turned
    exact ⟨stays, fun alive => absurd remains alive⟩
  · refine AimedRecord.of_other_target stays ?_
    by_cases wanted : record.mTargetStatus = Status.resumed
    · obtain ⟨_, onItsWay⟩ := wantedOnItsWay destroyed wanted
      have turns :
          record.isTransitional = false →
          turnTo? record.mStatus toStatus ≠ some .none := by
        intro between noCommand
        have answered :=
          ActivityRecord.settledFor_of_noCommand isRequest notNegative
            between noCommand
        rcases onItsWay with transitional | resumed | isExcused
        · rw [between] at transitional
          exact Bool.false_ne_true transitional
        · rw [resumed] at answered
          rcases requested with isPaused | isDestroyed
          · rw [isPaused] at answered
            exact absurd answered (by decide)
          · rw [isDestroyed] at answered
            exact absurd answered (by decide)
        · obtain ⟨isDestroyed, notInit⟩ := harmless _ isExcused
          rw [isDestroyed] at answered
          simp [settledFor] at answered destroyed notInit
          exact notInit (answered.resolve_left destroyed)
      rw [ActivityRecord.lifecycleTransition?_target turned turns]
      exact isOther
    · obtain ⟨_, _, _, target, _⟩ :=
        ActivityRecord.lifecycleTransition?_frame turned
      rcases target with isSame | isRequested
      · rw [isSame]
        exact wanted
      · rw [isRequested]
        exact isOther

/-! ## Steps that change one part -/

namespace TaskStackManager

@[simp] theorem setRecord_accounts
    (manager : TaskStackManager)
    (activity : Nat)
    (record : ActivityRecord) :
    (manager.setRecord activity record).accounts = manager.accounts := by
  rfl

/-- A record that stays where it is. -/
theorem setRecord_setting
    {manager : TaskStackManager}
    {activity : Nat}
    {old new : ActivityRecord}
    (isRecord : manager.activities activity = some old)
    (samePlace : new.mInTask = old.mInTask ∧ new.mApp = old.mApp) :
    (manager.setRecord activity new).setting = manager.setting := by
  have samePlaces :
      (fun other =>
        (Function.update manager.activities activity (some new) other).map
          fun record : ActivityRecord => (record.mInTask, record.mApp)) =
        fun other =>
          (manager.activities other).map fun record =>
            (record.mInTask, record.mApp) := by
    funext other
    by_cases isActivity : other = activity
    · subst isActivity
      rw [Function.update_self, isRecord, Option.map_some,
        Option.map_some, samePlace.1, samePlace.2]
    · rw [Function.update_of_ne isActivity]
  simp only [setting, setRecord_accounts]
  simp only [setRecord, samePlaces]

/-- The setting depends on the accounts, not on the records behind them. -/
theorem setting_congr
    {manager other : TaskStackManager}
    (sameRecords : other.activities = manager.activities)
    (sameAccounts : other.accounts = manager.accounts)
    (sameHeld : other.heldTasks = manager.heldTasks)
    (sameNext :
      other.nextActivity = manager.nextActivity ∧
        other.nextApp = manager.nextApp) :
    other.setting = manager.setting := by
  simp only [setting, sameRecords, sameAccounts, sameHeld, sameNext]

/-- An application record with the same account. -/
theorem setApp_accounts
    {manager : TaskStackManager}
    {app : Nat}
    {new : AppRecord}
    (sameAccount : manager.accounts app = some new.account) :
    (manager.setApp app new).accounts = manager.accounts := by
  funext other
  by_cases isApp : other = app
  · subst isApp
    rw [sameAccount]
    simp [accounts, setApp]
  · simp [accounts, setApp, isApp]

namespace Tracks

variable
  {aims : Aims}
  {setting : Setting}
  {lists : TaskLists}
  {counted aimed : List Nat}
  {excused : Nat → Status → Prop}
  {manager : TaskStackManager}

/-- Record lookups are part of the setting. -/
theorem placed
    (tracks :
      Tracks aims setting lists counted aimed excused manager)
    (activity : Nat) :
    setting.placed activity =
      (manager.activities activity).map fun record =>
        (record.mInTask, record.mApp) := by
  rw [← tracks.sameSetting]
  rfl

/-- Which applications are stopped is part of the setting. -/
theorem stopped
    (tracks :
      Tracks aims setting lists counted aimed excused manager)
    (app : Nat) :
    setting.stopped app =
      (manager.accounts app).map Account.isStopped := by
  rw [← tracks.sameSetting]
  rfl

/-- A placed activity has a record. -/
theorem exists_record
    (tracks :
      Tracks aims setting lists counted aimed excused manager)
    {activity : Nat}
    (known : (setting.placed activity).isSome = true) :
    ∃ record, manager.activities activity = some record := by
  rw [tracks.placed activity, Option.isSome_map,
    Option.isSome_iff_exists] at known
  exact known

/-- More activities may be resumed, for more reasons. -/
theorem reaim
    {more : List Nat}
    {weaker : Nat → Status → Prop}
    (tracks :
      Tracks aims setting lists counted aimed excused manager)
    (included : ∀ activity ∈ aimed, activity ∈ more)
    (implies :
      ∀ activity status,
        activity ∈ aimed →
        excused activity status →
        weaker activity status) :
    Tracks aims setting lists counted more weaker manager where
  sameLists := tracks.sameLists
  sameSetting := tracks.sameSetting
  counts := tracks.counts
  targets isAim activity record isRecord := by
    obtain ⟨notNegative, onItsWay⟩ :=
      tracks.targets isAim activity record isRecord
    refine ⟨notNegative, ?_⟩
    intro alive wanted
    obtain ⟨isAimed, reason⟩ := onItsWay alive wanted
    exact ⟨included activity isAimed,
      reason.imp_right
        (Or.imp_right (implies activity _ isAimed))⟩
  ready := tracks.ready

/-- Other activities, with as many of each running application. -/
theorem recount
    {others : List Nat}
    (tracks :
      Tracks aims setting lists counted aimed excused manager)
    (sameCount :
      aims.counts →
      ∀ app,
        setting.running app = true →
        setting.countIn app others = setting.countIn app counted) :
    Tracks aims setting lists others aimed excused manager where
  sameLists := tracks.sameLists
  sameSetting := tracks.sameSetting
  counts isAim app account isAccount notStopped := by
    have running : setting.running app = true := by
      rw [Setting.running, tracks.stopped app, isAccount]
      simp [notStopped]
    rw [sameCount isAim app running]
    exact tracks.counts isAim app account isAccount notStopped
  targets := tracks.targets
  ready := tracks.ready

/-- What the rules say depends on a part of the state only. -/
theorem frame
    {other : TaskStackManager}
    (tracks :
      Tracks aims setting lists counted aimed excused manager)
    (sameLists : other.lists = manager.lists)
    (sameRecords : other.activities = manager.activities)
    (sameAccounts : other.accounts = manager.accounts)
    (sameHeld : other.heldTasks = manager.heldTasks)
    (sameNext :
      other.nextActivity = manager.nextActivity ∧
        other.nextApp = manager.nextApp)
    (sameTold : other.told = manager.told)
    (onBoard :
      aims.safe →
      ∀ handler ∈ other.mPendTask.mTasklist,
        ∀ activity ∈ handler.mTask.activities,
          (setting.placed activity).isSome = true) :
    Tracks aims setting lists counted aimed excused other where
  sameLists := sameLists.trans tracks.sameLists
  sameSetting :=
    (setting_congr sameRecords sameAccounts sameHeld sameNext).trans
      tracks.sameSetting
  counts isAim app account isAccount running := by
    rw [sameAccounts] at isAccount
    rw [sameTold]
    exact tracks.counts isAim app account isAccount running
  targets isAim := by
    rw [sameRecords]
    exact tracks.targets isAim
  ready isAim :=
    { legal := by
        rw [sameRecords]
        exact (tracks.ready isAim).legal
      alive := by
        rw [sameAccounts]
        exact (tracks.ready isAim).alive
      onBoard := onBoard isAim }

/-- A commit, of a task about known activities. -/
theorem commit
    (tracks :
      Tracks aims setting lists counted aimed excused manager)
    (task : PendTask)
    (known :
      aims.safe →
      ∀ activity ∈ task.activities,
        (setting.placed activity).isSome = true) :
    Tracks aims setting lists counted aimed excused
      (manager.commit task) := by
  refine tracks.frame rfl rfl rfl rfl ⟨rfl, rfl⟩ rfl ?_
  intro isAim handler member
  rw [TaskStackManager.commit, TaskBoard.commitTask_mTasklist,
    List.mem_append, List.mem_singleton] at member
  rcases member with onBoard | isNew
  · exact (tracks.ready isAim).onBoard handler onBoard
  · subst isNew
    exact known isAim

/-- A handler is marked. -/
theorem markDone
    (tracks :
      Tracks aims setting lists counted aimed excused manager)
    (serial : Nat) :
    Tracks aims setting lists counted aimed excused
      { manager with
        mPendTask := manager.mPendTask.markDone serial } := by
  refine tracks.frame rfl rfl rfl rfl ⟨rfl, rfl⟩ rfl ?_
  intro isAim handler member
  simp only [TaskBoard.markDone, List.mem_map] at member
  obtain ⟨before, onBoard, isHandler⟩ := member
  have sameTask : handler.mTask = before.mTask := by
    rw [← isHandler]
    split <;> rfl
  rw [sameTask]
  exact (tracks.ready isAim).onBoard before onBoard

/-- Other lists. -/
theorem setLists
    (tracks :
      Tracks aims setting lists counted aimed excused manager)
    (others : TaskLists) :
    Tracks aims setting others counted aimed excused
      (manager.setLists others) where
  sameLists := rfl
  sameSetting := tracks.sameSetting
  counts := tracks.counts
  targets := tracks.targets
  ready isAim :=
    { legal := (tracks.ready isAim).legal
      alive := (tracks.ready isAim).alive
      onBoard := (tracks.ready isAim).onBoard }

/-- One record changes, at its place. -/
theorem setRecord
    {others : List Nat}
    {weaker : Nat → Status → Prop}
    {activity : Nat}
    {old new : ActivityRecord}
    (tracks :
      Tracks aims setting lists counted aimed excused manager)
    (isRecord : manager.activities activity = some old)
    (samePlace : new.mInTask = old.mInTask ∧ new.mApp = old.mApp)
    (legal : aims.safe → new.IsLegal)
    (itself :
      aims.targets →
      AimedRecord others weaker activity new)
    (theOthers :
      aims.targets →
      ∀ other record,
        other ≠ activity →
        AimedRecord aimed excused other record →
        AimedRecord others weaker other record) :
    Tracks aims setting lists counted others weaker
      (manager.setRecord activity new) where
  sameLists := tracks.sameLists
  sameSetting :=
    (setRecord_setting isRecord samePlace).trans tracks.sameSetting
  counts := tracks.counts
  targets isAim other record isOther := by
    by_cases isActivity : other = activity
    · subst isActivity
      simp only [TaskStackManager.setRecord, Function.update_self,
        Option.some.injEq] at isOther
      rw [← isOther]
      exact itself isAim
    · simp only [TaskStackManager.setRecord,
        Function.update_of_ne isActivity] at isOther
      exact theOthers isAim other record isActivity
        (tracks.targets isAim other record isOther)
  ready isAim :=
    { legal := by
        intro other record isOther
        by_cases isActivity : other = activity
        · subst isActivity
          simp only [TaskStackManager.setRecord, Function.update_self,
            Option.some.injEq] at isOther
          rw [← isOther]
          exact legal isAim
        · simp only [TaskStackManager.setRecord,
            Function.update_of_ne isActivity] at isOther
          exact (tracks.ready isAim).legal other record isOther
      alive := (tracks.ready isAim).alive
      onBoard := (tracks.ready isAim).onBoard }

/-- A new intent. -/
theorem setIntent
    {activity : Nat}
    (tracks :
      Tracks aims setting lists counted aimed excused manager)
    (known :
      aims.safe →
      (setting.placed activity).isSome = true)
    (intent : Intent) :
    Spec (¬ aims.safe) (manager.setIntent activity intent)
      (Tracks aims setting lists counted aimed excused) := by
  refine Spec.bind_known ?_ ?_
  · intro mustNotFail
    obtain ⟨record, isRecord⟩ :=
      tracks.exists_record (known (not_not.mp mustNotFail))
    rw [isRecord]
    rfl
  · intro record isRecord
    rw [Spec.some_iff]
    apply tracks.setRecord isRecord
    · exact ⟨rfl, rfl⟩
    · intro isAim
      have legal := (tracks.ready isAim).legal activity record isRecord
      exact ⟨legal.status, legal.target⟩
    · intro isAim
      exact tracks.targets isAim activity record isRecord
    · intro _ _ _ _ isAimed
      exact isAimed

/-- The command part of `lifecycleTransition`. -/
theorem turn
    {others : List Nat}
    {weaker : Nat → Status → Prop}
    {activity : Nat}
    {toStatus : Status}
    (tracks :
      Tracks aims setting lists counted aimed excused manager)
    (known :
      aims.safe →
      (setting.placed activity).isSome = true)
    (requested : aims.safe → 0 ≤ toStatus ∧ toStatus ≤ 12)
    (itself :
      aims.targets →
      ∀ record app transition,
        manager.activities activity = some record →
        record.lifecycleTransition? app toStatus = some transition →
        AimedRecord others weaker activity transition.activity)
    (theOthers :
      aims.targets →
      ∀ other record,
        other ≠ activity →
        AimedRecord aimed excused other record →
        AimedRecord others weaker other record) :
    Spec (¬ aims.safe) (manager.turn activity toStatus)
      (Tracks aims setting lists counted others weaker) := by
  refine Spec.bind_known ?_ ?_
  · intro mustNotFail
    obtain ⟨record, isRecord⟩ :=
      tracks.exists_record (known (not_not.mp mustNotFail))
    rw [isRecord]
    rfl
  · intro record isRecord
    refine Spec.bind_known ?_ ?_
    · intro mustNotFail
      have ready := tracks.ready (not_not.mp mustNotFail)
      obtain ⟨transition, turned, _⟩ :=
        (ready.legal activity record isRecord).lifecycleTransition?
          (requested (not_not.mp mustNotFail))
          (record.mApp.bind manager.apps)
      rw [turned]
      rfl
    · intro transition turned
      obtain ⟨inTask, inApp, _, _, sameAccount⟩ :=
        ActivityRecord.lifecycleTransition?_frame turned
      have turnedRecord :
          Tracks aims setting lists counted others weaker
            (manager.setRecord activity transition.activity) := by
        apply tracks.setRecord isRecord
        · exact ⟨inTask, inApp⟩
        · intro isAim
          have legal :=
            (tracks.ready isAim).legal activity record isRecord
          obtain ⟨same, turnedSame, isLegal⟩ :=
            legal.lifecycleTransition? (requested isAim)
              (record.mApp.bind manager.apps)
          rw [turned] at turnedSame
          rw [Option.some.inj turnedSame]
          exact isLegal
        · intro isAim
          exact itself isAim record _ transition isRecord turned
        · exact theOthers
      have knownActivity :
          (setting.placed activity).isSome = true := by
        rw [tracks.placed activity, isRecord]
        rfl
      have turnedApp :
          ∀ final,
            Tracks aims setting lists counted others weaker final →
            Spec (¬ aims.safe)
              (some
                (if transition.commits then
                  final.commit (.lifeCycle activity)
                else
                  final))
              (Tracks aims setting lists counted others weaker) := by
        intro final finalTracks
        rw [Spec.some_iff]
        split
        · apply finalTracks.commit
          intro _ other member
          rw [PendTask.activities, List.mem_singleton] at member
          rw [member]
          exact knownActivity
        · exact finalTracks
      dsimp only
      apply turnedApp
      split
      · rename_i app appRecord isApp isAppRecord
        have account :
            manager.accounts app = some appRecord.account := by
          rw [isAppRecord, isApp] at sameAccount
          simpa [accounts] using sameAccount.symm
        refine turnedRecord.frame rfl rfl ?_ rfl ⟨rfl, rfl⟩ rfl ?_
        · exact setApp_accounts account
        · intro isAim
          exact (turnedRecord.ready isAim).onBoard
      · exact turnedRecord.frame rfl rfl rfl rfl ⟨rfl, rfl⟩ rfl
          fun isAim => (turnedRecord.ready isAim).onBoard

/-! ## Lifecycle requests -/

/-- A request without an event. -/
theorem lifecycleTransitionFrom_eq_turn
    {activity : Nat}
    {toStatus : Status}
    (noEvent :
      ∀ record,
        manager.activities activity = some record →
        ¬ (record.mTargetStatus = Status.resumed ∧
          toStatus > Status.resumed ∧
          record.mStatus < Status.resuming))
    (fuel : Nat) :
    lifecycleTransitionFrom (fuel + 1) manager activity toStatus =
      manager.turn activity toStatus := by
  unfold lifecycleTransitionFrom
  cases isRecord : manager.activities activity with
  | none =>
      rw [TaskStackManager.turn, isRecord]
      rfl
  | some record =>
      rw [Option.bind_eq_bind, Option.bind_some,
        if_neg (noEvent record isRecord)]
      rfl

/-- A request to resume triggers no event. -/
theorem lifecycleTransition_resumed
    (manager : TaskStackManager)
    (activity : Nat) :
    manager.lifecycleTransition activity Status.resumed =
      manager.turn activity Status.resumed := by
  apply lifecycleTransitionFrom_eq_turn
  intro _ _
  simp

/-- The activity behind a resumed one is stopped, if it still wants to pause. -/
theorem executeWaitResume
    (tracks :
      Tracks aims setting lists counted aimed excused manager)
    {willStopActivity : Nat}
    (known :
      aims.safe →
      (setting.placed willStopActivity).isSome = true)
    (fuel : Nat) :
    Spec (¬ aims.safe)
      (TaskStackManager.executeWaitResume
        (lifecycleTransitionFrom (fuel + 1)) manager willStopActivity)
      (Tracks aims setting lists counted aimed excused) := by
  refine Spec.bind_known ?_ ?_
  · intro mustNotFail
    obtain ⟨record, isRecord⟩ :=
      tracks.exists_record (known (not_not.mp mustNotFail))
    rw [isRecord]
    rfl
  · intro record isRecord
    split
    · rename_i wantsToPause
      have noEvent :
          ∀ found,
            manager.activities willStopActivity = some found →
            ¬ (found.mTargetStatus = Status.resumed ∧
              Status.stopped > Status.resumed ∧
              found.mStatus < Status.resuming) := by
        intro found isFound
        rw [isRecord] at isFound
        rw [← Option.some.inj isFound]
        simp [wantsToPause]
      rw [lifecycleTransitionFrom_eq_turn noEvent fuel]
      apply tracks.turn known
      · exact fun _ => by decide
      · intro isAim found app transition isFound turned
        rw [isRecord] at isFound
        have sameRecord := Option.some.inj isFound
        subst sameRecord
        have notNegative :=
          (tracks.targets isAim willStopActivity record isRecord).1
        obtain ⟨_, _, status, target, _⟩ :=
          ActivityRecord.lifecycleTransition?_frame turned
        apply AimedRecord.of_other_target
        · rcases status with isSame | ⟨turn, isTransitional⟩
          · rw [isSame]
            exact notNegative
          · rw [isTransitional]
            cases turn <;> decide
        · rcases target with isSame | isRequested
          · rw [isSame, wantsToPause]
            decide
          · rw [isRequested]
            decide
      · intro _ _ _ _ isAimed
        exact isAimed
    · exact tracks

/-- The event of an activity that will not be resumed. -/
theorem triggerWaitResume
    (tracks :
      Tracks aims setting lists counted aimed excused manager)
    (activity fuel : Nat) :
    Spec (¬ aims.safe)
      (TaskStackManager.triggerWaitResume
        (lifecycleTransitionFrom (fuel + 1)) manager activity)
      (Tracks aims setting lists counted aimed excused) := by
  unfold TaskStackManager.triggerWaitResume
  split
  · rename_i handler isFirst
    have onBoard : handler ∈ manager.mPendTask.mTasklist :=
      List.mem_of_find?_eq_some isFirst
    dsimp only
    split
    · rename_i resumeActivity willStopActivity isTask
      apply (tracks.markDone handler.serial).executeWaitResume
      intro isAim
      apply (tracks.ready isAim).onBoard handler onBoard
      rw [isTask]
      simp [PendTask.activities]
    · exact tracks.markDone handler.serial
  · exact tracks

/-- A request to resume. -/
theorem resume
    {activity : Nat}
    (tracks :
      Tracks aims setting lists counted aimed excused manager)
    (known :
      aims.safe →
      (setting.placed activity).isSome = true)
    (onlyThis :
      ∀ other status,
        excused other status →
        other = activity) :
    Spec (¬ aims.safe)
      (manager.lifecycleTransition activity Status.resumed)
      (Tracks aims setting lists counted (activity :: aimed)
        noExcuse) := by
  rw [lifecycleTransition_resumed]
  apply tracks.turn known
  · exact fun _ => by decide
  · intro isAim found app transition isFound turned
    exact aimedRecord_resumed
      (tracks.targets isAim activity found isFound).1 turned
  · intro _ other found isOther isAimed
    apply isAimed.mono
    · exact List.mem_cons_of_mem activity
    · intro status isExcused
      exact absurd (onlyThis other status isExcused) isOther

/-- A request to pause or to destroy. -/
theorem leave
    {activity : Nat}
    {toStatus : Status}
    (tracks :
      Tracks aims setting lists counted aimed excused manager)
    (known :
      aims.safe →
      (setting.placed activity).isSome = true)
    (requested :
      toStatus = Status.paused ∨ toStatus = Status.destroyed)
    (harmless :
      ∀ status,
        excused activity status →
        toStatus = Status.destroyed ∧ status ≠ Status.init) :
    Spec (¬ aims.safe)
      (manager.lifecycleTransition activity toStatus)
      (Tracks aims setting lists counted
        (aimed.filter (· != activity)) excused) := by
  have legal : 0 ≤ toStatus ∧ toStatus ≤ 12 := by
    rcases requested with isPaused | isDestroyed
    · rw [isPaused]
      decide
    · rw [isDestroyed]
      decide
  have turned :
      ∀ middle,
        Tracks aims setting lists counted aimed excused middle →
        Spec (¬ aims.safe) (middle.turn activity toStatus)
          (Tracks aims setting lists counted
            (aimed.filter (· != activity)) excused) := by
    intro middle middleTracks
    apply middleTracks.turn known fun _ => legal
    · intro isAim found app transition isFound turned
      exact aimedRecord_other
        (middleTracks.targets isAim activity found isFound) requested
        harmless turned
    · intro _ other found isOther isAimed
      apply isAimed.mono
      · intro member
        exact List.mem_filter.mpr ⟨member, by simpa using isOther⟩
      · exact fun _ isExcused => isExcused
  refine Spec.bind_known ?_ ?_
  · intro mustNotFail
    obtain ⟨record, isRecord⟩ :=
      tracks.exists_record (known (not_not.mp mustNotFail))
    rw [isRecord]
    rfl
  · intro record isRecord
    dsimp only
    split
    · exact (tracks.triggerWaitResume activity 0).bind turned
    · exact turned manager tracks

/-- A request to pause. -/
theorem pause
    {activity : Nat}
    (tracks :
      Tracks aims setting lists counted aimed noExcuse manager)
    (known :
      aims.safe →
      (setting.placed activity).isSome = true) :
    Spec (¬ aims.safe)
      (manager.lifecycleTransition activity Status.paused)
      (Tracks aims setting lists counted
        (aimed.filter (· != activity)) noExcuse) := by
  apply tracks.leave known
  · exact Or.inl rfl
  · exact fun _ isExcused => isExcused.elim

/-- A request to destroy. -/
theorem destroy
    {activity : Nat}
    (tracks :
      Tracks aims setting lists counted aimed excused manager)
    (known :
      aims.safe →
      (setting.placed activity).isSome = true)
    (harmless :
      ∀ status,
        excused activity status →
        status ≠ Status.init) :
    Spec (¬ aims.safe)
      (manager.lifecycleTransition activity Status.destroyed)
      (Tracks aims setting lists counted
        (aimed.filter (· != activity)) excused) := by
  apply tracks.leave known
  · exact Or.inr rfl
  · exact fun status isExcused => ⟨rfl, harmless status isExcused⟩

/-! ## Foreground -/

/-- The application of an activity, in the setting. -/
theorem inApp_eq
    (tracks :
      Tracks aims setting lists counted aimed excused manager)
    (activity : Nat) :
    setting.inApp activity =
      (manager.activities activity).bind ActivityRecord.mApp := by
  rw [Setting.inApp, tracks.placed activity]
  cases manager.activities activity <;> rfl

/-- `setForeground` reaches the application's record, if there is one. -/
theorem setActivityForeground_eq
    (tracks :
      Tracks aims setting lists counted aimed excused manager)
    (activity : Nat)
    (isForeground : Bool) :
    manager.setActivityForeground activity isForeground =
      (setting.inApp activity).bind fun app =>
        (manager.apps app).map fun record =>
          manager.setAppForeground app record isForeground := by
  rw [tracks.inApp_eq activity]
  unfold setActivityForeground
  cases manager.activities activity with
  | none =>
      rfl
  | some record =>
      simp only [Option.bind_eq_bind, Option.bind_some]
      cases record.mApp with
      | none =>
          rfl
      | some app =>
          simp only [Option.bind_some]
          cases manager.apps app <;> rfl

/-- An application that is told changes its own counter only. -/
theorem setAppForeground
    {others : List Nat}
    {app : Nat}
    {record : AppRecord}
    {isForeground : Bool}
    (tracks :
      Tracks aims setting lists counted aimed excused manager)
    (isRecord : manager.apps app = some record)
    (sameOthers :
      ∀ number,
        number ≠ app →
        setting.countIn number others = setting.countIn number counted)
    (running :
      aims.counts →
      record.mStatus ≠ .appStopped →
      (record.setForeground isForeground).1.mForegroundActivityCnt =
          setting.countIn app others ∧
        (0 < setting.countIn app others →
          (if (record.setForeground isForeground).2.isEmpty then
              manager.told app
            else
              (record.setForeground isForeground).2) =
            [.setForegroundApplication record.mPid true,
              .pushForeground record.mPid])) :
    Tracks aims setting lists others aimed excused
      (manager.setAppForeground app record isForeground) := by
  have accountApp :
      (manager.setAppForeground app record isForeground).accounts app =
        some (record.setForeground isForeground).1.account := by
    simp [accounts, TaskStackManager.setAppForeground, setApp]
  have accountOther :
      ∀ number,
        number ≠ app →
        (manager.setAppForeground app record
          isForeground).accounts number = manager.accounts number := by
    intro number isOther
    simp [accounts, TaskStackManager.setAppForeground, setApp, isOther]
  have toldApp :
      (manager.setAppForeground app record isForeground).told app =
        if (record.setForeground isForeground).2.isEmpty then
          manager.told app
        else
          (record.setForeground isForeground).2 := by
    simp only [TaskStackManager.setAppForeground]
    split <;> simp
  have toldOther :
      ∀ number,
        number ≠ app →
        (manager.setAppForeground app record isForeground).told number =
          manager.told number := by
    intro number isOther
    simp only [TaskStackManager.setAppForeground]
    split <;> simp [isOther]
  have sameSetting :
      (manager.setAppForeground app record isForeground).setting =
        setting := by
    have sameStopped :
        ∀ number,
          ((manager.setAppForeground app record
              isForeground).accounts number).map Account.isStopped =
            (manager.accounts number).map Account.isStopped := by
      intro number
      by_cases isApp : number = app
      · subst isApp
        rw [accountApp]
        simp [accounts, isRecord, AppRecord.account]
      · rw [accountOther number isApp]
    rw [← tracks.sameSetting]
    unfold TaskStackManager.setting
    simp only [sameStopped]
    rfl
  refine ⟨tracks.sameLists, sameSetting, ?_, tracks.targets, ?_⟩
  · intro isAim number account isAccount isRunning
    by_cases isApp : number = app
    · subst isApp
      rw [accountApp] at isAccount
      have same := Option.some.inj isAccount
      subst same
      have notStopped : record.mStatus ≠ .appStopped := by
        intro stopped
        rw [AppRecord.setForeground_stopped stopped] at isRunning
        simp [AppRecord.account, stopped] at isRunning
      rw [toldApp]
      simpa [AppRecord.account] using running isAim notStopped
    · rw [accountOther number isApp] at isAccount
      rw [toldOther number isApp, sameOthers number isApp]
      exact tracks.counts isAim number account isAccount isRunning
  · intro isAim
    have ready := tracks.ready isAim
    refine ⟨ready.legal, ?_, ready.onBoard⟩
    intro activity task inApp isPlaced
    obtain ⟨number, isNumber, alive⟩ :=
      ready.alive activity task inApp isPlaced
    refine ⟨number, isNumber, ?_⟩
    by_cases isApp : number = app
    · rw [isApp, accountApp]
      rfl
    · rw [accountOther number isApp]
      exact alive

/-- One more activity of an application is in the foreground. -/
theorem enterApp
    {activity app : Nat}
    {record : AppRecord}
    (tracks :
      Tracks aims setting lists counted aimed excused manager)
    (inApp : setting.inApp activity = some app)
    (isRecord : manager.apps app = some record) :
    Tracks aims setting lists (activity :: counted) aimed excused
      (manager.setAppForeground app record true) := by
  apply tracks.setAppForeground isRecord
  · intro number isOther
    refine Setting.countIn_cons_of_ne ?_ counted
    rw [inApp]
    exact fun same => isOther (Option.some.inj same).symm
  · intro isAim notStopped
    have more := Setting.countIn_cons_of_inApp inApp counted
    obtain ⟨count, told⟩ :=
      tracks.counts isAim app record.account
        (accounts_eq_account isRecord)
        (by simpa [AppRecord.account] using notStopped)
    simp only [AppRecord.account] at count told
    rw [more]
    by_cases isZero : record.mForegroundActivityCnt = 0
    · rw [AppRecord.setForeground_first notStopped isZero]
      have noneYet : setting.countIn app counted = 0 := by
        omega
      simp [noneYet]
    · rw [AppRecord.setForeground_more notStopped isZero]
      have already : 0 < setting.countIn app counted := by
        omega
      simp [count, told already]

/-- One activity less of an application is in the foreground. -/
theorem exitApp
    {activity app : Nat}
    {record : AppRecord}
    (tracks :
      Tracks aims setting lists (activity :: counted) aimed excused
        manager)
    (inApp : setting.inApp activity = some app)
    (isRecord : manager.apps app = some record) :
    Tracks aims setting lists counted aimed excused
      (manager.setAppForeground app record false) := by
  apply tracks.setAppForeground isRecord
  · intro number isOther
    refine (Setting.countIn_cons_of_ne ?_ counted).symm
    rw [inApp]
    exact fun same => isOther (Option.some.inj same).symm
  · intro isAim notStopped
    have more := Setting.countIn_cons_of_inApp inApp counted
    obtain ⟨count, told⟩ :=
      tracks.counts isAim app record.account
        (accounts_eq_account isRecord)
        (by simpa [AppRecord.account] using notStopped)
    simp only [AppRecord.account, more] at count told
    by_cases isOne : record.mForegroundActivityCnt = 1
    · rw [AppRecord.setForeground_last notStopped isOne]
      have noneLeft : setting.countIn app counted = 0 := by
        omega
      simp [noneLeft]
    · rw [AppRecord.setForeground_fewer notStopped isOne]
      refine ⟨?_, fun _ => ?_⟩
      · simp only
        omega
      · simpa using told (by omega)

/-- An application is told, or it is lost. -/
theorem setActivityForeground_cases
    (tracks :
      Tracks aims setting lists counted aimed excused manager)
    (activity : Nat)
    (isForeground : Bool) :
    (∃ app record,
      setting.inApp activity = some app ∧
        manager.apps app = some record ∧
        manager.setActivityForeground activity isForeground =
          some (manager.setAppForeground app record isForeground)) ∨
      (manager.setActivityForeground activity isForeground = none ∧
        ∀ app,
          setting.inApp activity = some app →
          manager.accounts app = none) := by
  rw [tracks.setActivityForeground_eq activity isForeground]
  cases inApp : setting.inApp activity with
  | none =>
      refine Or.inr ⟨rfl, ?_⟩
      intro app isApp
      exact absurd isApp.symm (Option.some_ne_none app)
  | some app =>
      cases isRecord : manager.apps app with
      | none =>
          refine Or.inr ⟨by simp [isRecord], ?_⟩
          intro other isOther
          rw [← Option.some.inj isOther, accounts, isRecord]
          rfl
      | some record =>
          exact Or.inl ⟨app, record, rfl, isRecord, by simp [isRecord]⟩

/-- The activity of a lost application is not counted. -/
private theorem countIn_lost
    {activity number : Nat}
    (tracks :
      Tracks aims setting lists counted aimed excused manager)
    (lost :
      ∀ app,
        setting.inApp activity = some app →
        manager.accounts app = none)
    (isRunning : setting.running number = true)
    (activities : List Nat) :
    setting.countIn number (activity :: activities) =
      setting.countIn number activities := by
  refine Setting.countIn_cons_of_ne ?_ activities
  intro inApp
  rw [Setting.running, tracks.stopped number, lost number inApp]
    at isRunning
  exact absurd isRunning (by simp)

/-- `setForeground(true)`, skipping lost applications. -/
theorem enterOrSkip
    (tracks :
      Tracks aims setting lists counted aimed excused manager)
    (activity : Nat) :
    Tracks aims setting lists (activity :: counted) aimed excused
      ((manager.setActivityForeground activity true).getD manager) := by
  rcases tracks.setActivityForeground_cases activity true with
    ⟨app, record, inApp, isRecord, isTold⟩ | ⟨isSkipped, lost⟩
  · rw [isTold]
    exact tracks.enterApp inApp isRecord
  · rw [isSkipped]
    apply tracks.recount
    intro _ number isRunning
    exact tracks.countIn_lost lost isRunning counted

/-- `setForeground(false)`, skipping lost applications. -/
theorem exitOrSkip
    {activity : Nat}
    (tracks :
      Tracks aims setting lists (activity :: counted) aimed excused
        manager) :
    Tracks aims setting lists counted aimed excused
      ((manager.setActivityForeground activity false).getD manager) := by
  rcases tracks.setActivityForeground_cases activity false with
    ⟨app, record, inApp, isRecord, isTold⟩ | ⟨isSkipped, lost⟩
  · rw [isTold]
    exact tracks.exitApp inApp isRecord
  · rw [isSkipped]
    apply tracks.recount
    intro _ number isRunning
    exact (tracks.countIn_lost lost isRunning counted).symm

/-- Applications of known activities are there to be told. -/
private theorem setActivityForeground_isSome
    {activity : Nat}
    (tracks :
      Tracks aims setting lists counted aimed excused manager)
    (known :
      aims.safe →
      (setting.placed activity).isSome = true)
    (isForeground : Bool)
    (isAim : aims.safe) :
    (manager.setActivityForeground activity isForeground).isSome =
      true := by
  have isPlaced := known isAim
  rw [Option.isSome_iff_exists] at isPlaced
  obtain ⟨⟨task, app⟩, isPlaced⟩ := isPlaced
  obtain ⟨number, isNumber, alive⟩ :=
    (tracks.ready isAim).alive activity task app isPlaced
  rcases tracks.setActivityForeground_cases activity isForeground with
    ⟨_, _, _, _, isTold⟩ | ⟨_, lost⟩
  · rw [isTold]
    rfl
  · have inApp : setting.inApp activity = some number := by
      rw [Setting.inApp, isPlaced]
      exact isNumber
    rw [lost number inApp] at alive
    exact absurd alive (by simp)

/-- `setForeground(true)` on the application of an activity. -/
theorem enter
    {activity : Nat}
    (tracks :
      Tracks aims setting lists counted aimed excused manager)
    (known :
      aims.safe →
      (setting.placed activity).isSome = true) :
    Spec (¬ aims.safe) (manager.setActivityForeground activity true)
      (Tracks aims setting lists (activity :: counted) aimed
        excused) := by
  have entered := tracks.enterOrSkip activity
  cases isTold : manager.setActivityForeground activity true with
  | none =>
      intro isAim
      have isSome := tracks.setActivityForeground_isSome known true isAim
      rw [isTold] at isSome
      exact absurd isSome (by simp)
  | some final =>
      rw [isTold] at entered
      exact entered

/-- `setForeground(false)` on the application of an activity. -/
theorem exit
    {activity : Nat}
    (tracks :
      Tracks aims setting lists (activity :: counted) aimed excused
        manager)
    (known :
      aims.safe →
      (setting.placed activity).isSome = true) :
    Spec (¬ aims.safe) (manager.setActivityForeground activity false)
      (Tracks aims setting lists counted aimed excused) := by
  have left := tracks.exitOrSkip
  cases isTold : manager.setActivityForeground activity false with
  | none =>
      intro isAim
      have isSome :=
        tracks.setActivityForeground_isSome known false isAim
      rw [isTold] at isSome
      exact absurd isSome (by simp)
  | some final =>
      rw [isTold] at left
      exact left

/-- A list of activities enters the foreground. -/
theorem enterAll
    (tracks :
      Tracks aims setting lists counted aimed excused manager)
    (activities : List Nat) :
    Tracks aims setting lists (activities.reverse ++ counted) aimed
      excused (setForegroundAll true activities manager) := by
  induction activities generalizing counted manager with
  | nil =>
      exact tracks
  | cons activity rest inductionHypothesis =>
      have later := inductionHypothesis (tracks.enterOrSkip activity)
      simpa [setForegroundAll, List.append_assoc] using later

/-- A list of activities leaves the foreground. -/
theorem exitAll
    {activities : List Nat}
    (tracks :
      Tracks aims setting lists (activities ++ counted) aimed excused
        manager) :
    Tracks aims setting lists counted aimed excused
      (setForegroundAll false activities manager) := by
  induction activities generalizing manager with
  | nil =>
      exact tracks
  | cons activity rest inductionHypothesis =>
      rw [List.cons_append] at tracks
      exact inductionHypothesis tracks.exitOrSkip

/-- `ActivityStack::setForeground(true)`. -/
theorem enterStack
    (tracks :
      Tracks aims setting lists counted aimed excused manager)
    (task : Nat) :
    Tracks aims setting lists (lists.stackOf task ++ counted) aimed
      excused (manager.setStackForeground task true) := by
  have entered := tracks.enterAll (lists.stackOf task).reverse
  rw [List.reverse_reverse] at entered
  rw [setStackForeground, tracks.sameLists]
  exact entered

/-- `ActivityStack::setForeground(false)`. -/
theorem exitStack
    {task : Nat}
    (tracks :
      Tracks aims setting lists (lists.stackOf task ++ counted) aimed
        excused manager) :
    Tracks aims setting lists counted aimed excused
      (manager.setStackForeground task false) := by
  rw [setStackForeground, tracks.sameLists]
  apply exitAll
  apply tracks.recount
  intro _ app _
  simp [Setting.countIn, List.countP_append]

end Tracks

end TaskStackManager

end ActivityManager
