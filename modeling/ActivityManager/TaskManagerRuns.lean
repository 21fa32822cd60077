import ActivityManager.TaskManagerConditions

/-!
# Runs of the task manager

`Sound` holds of a new task manager, and every step that is `Permitted` for
the aims keeps it.  The results about whole runs follow by choosing the aims.
-/

namespace ActivityManager

open PartialProgram
open StepSystem (Reachable)

/-- Numbers of activities and applications that are in use are below the next. -/
structure Setting.Bounded (setting : Setting) : Prop where
  activities :
    ∀ activity place,
      setting.placed activity = some place →
      activity < setting.nextActivity
  apps :
    ∀ activity app,
      setting.inApp activity = some app →
      app < setting.nextApp
  records :
    ∀ app,
      (setting.stopped app).isSome = true →
      app < setting.nextApp

namespace TaskStackManager

variable
  {aims : Aims}
  {setting : Setting}
  {manager : TaskStackManager}

/-- A settled state that can name new activities and applications. -/
structure Sound
    (aims : Aims)
    (manager : TaskStackManager) : Prop where
  bounded : manager.setting.Bounded
  settled : Settled aims manager.setting manager

/-- Operations keep the setting. -/
theorem Sound.of_settled
    (bounded : setting.Bounded)
    (settled : Settled aims setting manager) :
    Sound aims manager := by
  have sameSetting := settled.tracks.sameSetting
  subst sameSetting
  exact ⟨bounded, settled⟩

/-- The manager of a new service. -/
theorem Sound.start
    (aims : Aims)
    (now : Nat) :
    Sound aims (start now) where
  bounded :=
    { activities := fun _ _ isPlaced =>
        absurd isPlaced.symm (Option.some_ne_none _)
      apps := fun _ _ inApp =>
        absurd inApp.symm (Option.some_ne_none _)
      records := fun _ hasRecord =>
        absurd hasRecord Bool.false_ne_true }
  settled :=
    { wellStacked :=
        { distinctTasks := List.nodup_nil
          notEmpty := fun _ listed => absurd listed List.not_mem_nil
          distinct := fun _ => List.nodup_nil
          owned := fun _ _ member => absurd member List.not_mem_nil }
      tracks :=
        { sameLists := rfl
          sameSetting := rfl
          counts := fun _ _ _ isAccount =>
            absurd isAccount.symm (Option.some_ne_none _)
          targets := fun _ _ _ isRecord =>
            absurd isRecord.symm (Option.some_ne_none _)
          ready := fun _ =>
            { legal := fun _ _ isRecord =>
                absurd isRecord.symm (Option.some_ne_none _)
              alive := fun _ _ _ isPlaced =>
                absurd isPlaced.symm (Option.some_ne_none _)
              onBoard := fun _ member =>
                absurd member List.not_mem_nil } } }

/-- The task of an activity with a record. -/
theorem inTask_of_record
    {activity : Nat}
    {record : ActivityRecord}
    (isRecord : manager.activities activity = some record) :
    manager.setting.inTask activity = some record.mInTask := by
  simp [Setting.inTask, setting, isRecord]

/-! ## Steps that change the setting -/

/-- A count depends on the activities in the list. -/
private theorem countIn_congr
    {other : Setting}
    {activities : List Nat}
    (sameApps :
      ∀ activity ∈ activities,
        other.inApp activity = setting.inApp activity)
    (app : Nat) :
    other.countIn app activities = setting.countIn app activities := by
  unfold Setting.countIn
  apply List.countP_congr
  intro activity member
  rw [sameApps activity member]

/-- Activities of the foreground are in use. -/
private theorem Sound.lt_nextActivity
    (sound : Sound aims manager)
    {task activity : Nat}
    (onStack : activity ∈ manager.lists.stackOf task) :
    activity < manager.nextActivity := by
  have known :=
    placed_of_stacked sound.settled.wellStacked task onStack
  rw [Option.isSome_iff_exists] at known
  obtain ⟨place, isPlaced⟩ := known
  exact sound.bounded.activities activity place isPlaced

/-- The setting places a new activity in its task and application. -/
private theorem placed_newActivity
    (manager : TaskStackManager)
    (name : String)
    (app targetTask : Nat)
    (intent : Intent) :
    (manager.newActivity name app targetTask intent).setting.placed =
      Function.update manager.setting.placed manager.nextActivity
        (some (targetTask, some app)) := by
  funext activity
  by_cases isNew : activity = manager.nextActivity
  · subst isNew
    simp [TaskStackManager.setting, TaskStackManager.newActivity,
      setRecord, ActivityRecord.fresh]
  · simp [TaskStackManager.setting, TaskStackManager.newActivity,
      setRecord, isNew]

/-- A record is the new one, or it was there before. -/
private theorem newActivity_cases
    {name : String}
    {app targetTask activity : Nat}
    {intent : Intent}
    {record : ActivityRecord}
    (isRecord :
      (manager.newActivity name app targetTask intent).activities activity =
        some record) :
    record.mStatus = .init ∧ record.mTargetStatus = .init ∨
      manager.activities activity = some record := by
  by_cases isNew : activity = manager.nextActivity
  · subst isNew
    left
    have isFresh :
        ActivityRecord.fresh name manager.nextActivity (some app)
          targetTask intent = record := by
      simpa [TaskStackManager.newActivity, setRecord] using isRecord
    rw [← isFresh]
    exact ⟨rfl, rfl⟩
  · right
    simpa [TaskStackManager.newActivity, setRecord, isNew] using isRecord

/-- A new activity takes the next number and a known application. -/
private theorem bounded_newActivity
    {app : Nat}
    (bounded : manager.setting.Bounded)
    (isApp : (manager.setting.stopped app).isSome = true)
    (name : String)
    (targetTask : Nat)
    (intent : Intent) :
    (manager.newActivity name app targetTask intent).setting.Bounded := by
  have placed := placed_newActivity manager name app targetTask intent
  refine ⟨?_, ?_, bounded.records⟩
  · intro activity place isPlaced
    rw [placed] at isPlaced
    by_cases isNew : activity = manager.nextActivity
    · rw [isNew]
      exact Nat.lt_succ_self _
    · rw [Function.update_of_ne isNew] at isPlaced
      exact Nat.lt_succ_of_lt (bounded.activities activity place isPlaced)
  · intro activity number inApp
    rw [Setting.inApp, placed] at inApp
    by_cases isNew : activity = manager.nextActivity
    · rw [isNew, Function.update_self] at inApp
      rw [← Option.some.inj inApp]
      exact bounded.records app isApp
    · rw [Function.update_of_ne isNew] at inApp
      exact bounded.apps activity number inApp

/-- A new activity can be asked like the others. -/
private theorem Ready.newActivity
    {app : Nat}
    (ready : Ready manager.setting manager)
    (alive : (manager.accounts app).isSome = true)
    (name : String)
    (targetTask : Nat)
    (intent : Intent) :
    Ready (manager.newActivity name app targetTask intent).setting
      (manager.newActivity name app targetTask intent) := by
  have placed := placed_newActivity manager name app targetTask intent
  refine ⟨?_, ?_, ?_⟩
  · intro activity record isRecord
    rcases newActivity_cases isRecord with ⟨isStatus, isTarget⟩ | isOld
    · refine ⟨?_, ?_⟩
      · rw [isStatus]
        decide
      · rw [isTarget]
        decide
    · exact ready.legal activity record isOld
  · intro activity task number isPlaced
    rw [placed] at isPlaced
    by_cases isNew : activity = manager.nextActivity
    · rw [isNew, Function.update_self] at isPlaced
      have isApp : some app = number :=
        congrArg Prod.snd (Option.some.inj isPlaced)
      exact ⟨app, isApp.symm, alive⟩
    · rw [Function.update_of_ne isNew] at isPlaced
      exact ready.alive activity task number isPlaced
  · intro handler onBoard activity member
    have known := ready.onBoard handler onBoard activity member
    rw [placed]
    by_cases isNew : activity = manager.nextActivity
    · rw [isNew, Function.update_self]
      rfl
    · rw [Function.update_of_ne isNew]
      exact known

/-- A new activity. -/
theorem Sound.newActivity
    {app : Nat}
    (sound : Sound aims manager)
    (alive : (manager.accounts app).isSome = true)
    (name : String)
    (targetTask : Nat)
    (intent : Intent) :
    Sound aims (manager.newActivity name app targetTask intent) := by
  have settled := sound.settled
  have placed := placed_newActivity manager name app targetTask intent
  have isApp : (manager.setting.stopped app).isSome = true := by
    rw [settled.tracks.stopped, Option.isSome_map]
    exact alive
  have onStackOther :
      ∀ task,
        ∀ activity ∈ manager.lists.stackOf task,
          activity ≠ manager.nextActivity :=
    fun task activity onStack =>
      Nat.ne_of_lt (sound.lt_nextActivity onStack)
  refine
    ⟨bounded_newActivity sound.bounded isApp name targetTask intent,
      ⟨?_, rfl, rfl, ?_, ?_, ?_⟩⟩
  · have wellStacked := settled.wellStacked
    refine
      ⟨wellStacked.distinctTasks, wellStacked.notEmpty,
        wellStacked.distinct, ?_⟩
    intro task activity onStack
    rw [Setting.inTask, placed,
      Function.update_of_ne (onStackOther task activity onStack)]
    exact wellStacked.owned task activity onStack
  · intro isAim number account isAccount notStopped
    have sameCount :
        (manager.newActivity name app targetTask intent).setting.countIn
            number manager.lists.foreground =
          manager.setting.countIn number manager.lists.foreground := by
      apply countIn_congr
      intro activity member
      obtain ⟨active, _, onStack⟩ :=
        TaskLists.exists_active_of_mem member
      rw [Setting.inApp, placed,
        Function.update_of_ne (onStackOther active activity onStack)]
      rfl
    have counted :=
      settled.tracks.counts isAim number account isAccount notStopped
    rw [← sameCount] at counted
    exact counted
  · intro isAim activity record isRecord
    rcases newActivity_cases isRecord with ⟨isStatus, isTarget⟩ | isOld
    · apply AimedRecord.of_other_target
      · rw [isStatus]
        decide
      · rw [isTarget]
        decide
    · exact settled.tracks.targets isAim activity record isOld
  · intro isAim
    exact (settled.tracks.ready isAim).newActivity alive name targetTask intent

/-- A new application. -/
theorem Sound.attachApplication
    (sound : Sound aims manager)
    (packageName : String)
    (systemui : Bool)
    (pid : Nat) :
    Sound aims (manager.attachApplication packageName systemui pid) := by
  have settled := sound.settled
  have accountOther :
      ∀ app,
        app ≠ manager.nextApp →
        (manager.attachApplication packageName systemui pid).accounts
            app = manager.accounts app := by
    intro app isOther
    simp [accounts, TaskStackManager.attachApplication, setApp, isOther]
  have accountNew :
      (manager.attachApplication packageName systemui pid).accounts
          manager.nextApp =
        some (AppRecord.attached packageName systemui pid).account := by
    simp [accounts, TaskStackManager.attachApplication, setApp]
  have notNew :
      ∀ activity,
        manager.setting.inApp activity ≠ some manager.nextApp := by
    intro activity inApp
    exact Nat.lt_irrefl _
      (sound.bounded.apps activity manager.nextApp inApp)
  refine
    ⟨⟨?_, ?_, ?_⟩, ⟨settled.wellStacked, rfl, rfl, ?_, ?_, ?_⟩⟩
  · exact sound.bounded.activities
  · intro activity app inApp
    exact Nat.lt_succ_of_lt (sound.bounded.apps activity app inApp)
  · intro app hasRecord
    by_cases isNew : app = manager.nextApp
    · rw [isNew]
      exact Nat.lt_succ_self _
    · apply Nat.lt_succ_of_lt
      apply sound.bounded.records
      simp only [TaskStackManager.setting, accountOther app isNew]
        at hasRecord
      exact hasRecord
  · intro isAim app account isAccount notStopped
    by_cases isNew : app = manager.nextApp
    · subst isNew
      have noneIn :
          manager.setting.countIn manager.nextApp
            manager.lists.foreground = 0 := by
        rw [Setting.countIn, List.countP_eq_zero]
        intro activity _
        simpa using notNew activity
      rw [accountNew] at isAccount
      rw [← Option.some.inj isAccount]
      refine ⟨?_, ?_⟩
      · exact (congrArg Int.ofNat noneIn).symm
      · intro isPositive
        exact absurd noneIn (Nat.ne_of_gt isPositive)
    · rw [accountOther app isNew] at isAccount
      exact settled.tracks.counts isAim app account isAccount notStopped
  · exact settled.tracks.targets
  · intro isAim
    have ready := settled.tracks.ready isAim
    refine ⟨ready.legal, ?_, ready.onBoard⟩
    intro activity task app isPlaced
    obtain ⟨number, isNumber, alive⟩ :=
      ready.alive activity task app isPlaced
    refine ⟨number, isNumber, ?_⟩
    by_cases isNew : number = manager.nextApp
    · rw [isNew, accountNew]
      rfl
    · rw [accountOther number isNew]
      exact alive

/-- An application whose record changes to a stopped one, or to none. -/
private theorem Sound.dropApp
    {next : TaskStackManager}
    (sound : Sound aims manager)
    (app : Nat)
    (sameLists : next.lists = manager.lists)
    (sameRecords : next.activities = manager.activities)
    (sameNext :
      next.nextActivity = manager.nextActivity ∧
        next.nextApp = manager.nextApp)
    (sameTold : next.told = manager.told)
    (sameBoard : next.mPendTask = manager.mPendTask)
    (accountOther :
      ∀ number,
        number ≠ app →
        next.accounts number = manager.accounts number)
    (stopped :
      ∀ account,
        next.accounts app = some account →
        account.isStopped = true)
    (noNewRecord :
      (next.accounts app).isSome = true →
      (manager.accounts app).isSome = true)
    (alive :
      aims.safe →
      (manager.accounts app).isSome = true →
      (next.accounts app).isSome = true) :
    Sound aims next := by
  have settled := sound.settled
  have samePlaced : next.setting.placed = manager.setting.placed := by
    simp only [TaskStackManager.setting, sameRecords]
  have sameInTask : next.setting.inTask = manager.setting.inTask := by
    funext activity
    rw [Setting.inTask, Setting.inTask, samePlaced]
  have sameInApp :
      ∀ activity,
        next.setting.inApp activity = manager.setting.inApp activity := by
    intro activity
    rw [Setting.inApp, Setting.inApp, samePlaced]
  refine ⟨⟨?_, ?_, ?_⟩, ⟨?_, rfl, rfl, ?_, ?_, ?_⟩⟩
  · intro activity place isPlaced
    rw [samePlaced] at isPlaced
    have bound := sound.bounded.activities activity place isPlaced
    exact Nat.lt_of_lt_of_eq bound sameNext.1.symm
  · intro activity number inApp
    rw [sameInApp] at inApp
    have bound := sound.bounded.apps activity number inApp
    exact Nat.lt_of_lt_of_eq bound sameNext.2.symm
  · intro number hasRecord
    have hadRecord :
        (manager.setting.stopped number).isSome = true := by
      simp only [TaskStackManager.setting, Option.isSome_map]
        at hasRecord ⊢
      by_cases isApp : number = app
      · rw [isApp] at hasRecord ⊢
        exact noNewRecord hasRecord
      · rw [accountOther number isApp] at hasRecord
        exact hasRecord
    have bound := sound.bounded.records number hadRecord
    exact Nat.lt_of_lt_of_eq bound sameNext.2.symm
  · rw [sameInTask, sameLists]
    exact settled.wellStacked
  · intro isAim number account isAccount notStopped
    by_cases isApp : number = app
    · subst isApp
      rw [stopped account isAccount] at notStopped
      exact absurd notStopped.symm Bool.false_ne_true
    · rw [accountOther number isApp] at isAccount
      rw [sameLists, sameTold,
        countIn_congr (fun activity _ => sameInApp activity) number]
      exact settled.tracks.counts isAim number account isAccount
        notStopped
  · rw [sameLists, sameRecords]
    exact settled.tracks.targets
  · intro isAim
    have ready := settled.tracks.ready isAim
    refine ⟨?_, ?_, ?_⟩
    · rw [sameRecords]
      exact ready.legal
    · intro activity task number isPlaced
      rw [samePlaced] at isPlaced
      obtain ⟨other, isOther, isAlive⟩ :=
        ready.alive activity task number isPlaced
      refine ⟨other, isOther, ?_⟩
      by_cases isApp : other = app
      · rw [isApp] at isAlive ⊢
        exact alive isAim isAlive
      · rw [accountOther other isApp]
        exact isAlive
    · rw [sameBoard, samePlaced]
      exact ready.onBoard

/-- The death of a process, before its activities are deleted. -/
private theorem Sound.markStopped
    {app : Nat}
    {record : AppRecord}
    (sound : Sound aims manager)
    (isRecord : manager.apps app = some record) :
    Sound aims (manager.markStopped app record) := by
  have accountApp :
      (manager.markStopped app record).accounts app =
        some
          { record.account with isStopped := true } := by
    simp [accounts, TaskStackManager.markStopped, setApp,
      AppRecord.account]
  refine
    sound.dropApp app rfl rfl ⟨rfl, rfl⟩ rfl rfl ?_ ?_ ?_ ?_
  · intro number isOther
    simp [accounts, TaskStackManager.markStopped, setApp, isOther]
  · intro account isAccount
    rw [accountApp] at isAccount
    rw [← Option.some.inj isAccount]
  · intro _
    rw [accounts, isRecord]
    rfl
  · intro _ _
    rw [accountApp]
    rfl

/-- The death of a process. -/
private theorem Sound.procAppTerminated
    {app : Nat}
    (sound : Sound aims manager)
    (balanced :
      aims.counts →
      ∀ record,
        manager.apps app = some record →
        BalancedAll (manager.markStopped app record).setting
          record.mExistActivity manager.lists) :
    Spec True (manager.procAppTerminated app) (Sound aims) := by
  unfold TaskStackManager.procAppTerminated
  cases isRecord : manager.apps app with
  | none =>
      trivial
  | some record =>
      have marked := sound.markStopped isRecord
      rw [Option.bind_eq_bind, Option.bind_some]
      refine
        (marked.settled.tracks.abnormalExitAll
          record.mExistActivity).bind ?_
      intro exited exitedTracks
      have exitedSettled :
          Settled aims (manager.markStopped app record).setting exited := by
        apply Settled.of_tracks exitedTracks marked.settled.wellStacked
          rfl
        intro activity member
        simpa using member
      refine (exitedSettled.deleteAll ?_).mono ?_
      · intro isAim
        rw [exitedTracks.sameLists]
        exact balanced isAim record isRecord
      · exact fun final finalSettled =>
          Sound.of_settled marked.bounded finalSettled

/-- A destroyed record. -/
private theorem Sound.deleteAppInfo
    {app : Nat}
    (sound : Sound aims manager)
    (notSafe : ¬ aims.safe) :
    Spec True (manager.deleteAppInfo app) (Sound aims) := by
  unfold TaskStackManager.deleteAppInfo
  cases isRecord : manager.apps app with
  | none =>
      trivial
  | some record =>
      rw [Option.bind_eq_bind, Option.bind_some]
      split
      · rw [Spec.some_iff]
        refine
          sound.dropApp app rfl rfl ⟨rfl, rfl⟩ rfl rfl ?_ ?_ ?_ ?_
        · intro number isOther
          simp [accounts, isOther]
        · intro account isAccount
          simp [accounts] at isAccount
        · intro _
          rw [accounts, isRecord]
          rfl
        · exact fun isAim => absurd isAim notSafe
      · trivial

/-- Other tasks are held, or time passes. -/
private theorem Sound.holdTasks
    (sound : Sound aims manager)
    (tasks : List Nat) :
    Sound aims { manager with heldTasks := tasks } where
  bounded :=
    { activities := sound.bounded.activities
      apps := sound.bounded.apps
      records := sound.bounded.records }
  settled :=
    { wellStacked := sound.settled.wellStacked
      tracks :=
        { sameLists := rfl
          sameSetting := rfl
          counts := sound.settled.tracks.counts
          targets := sound.settled.tracks.targets
          ready := fun isAim =>
            { legal := (sound.settled.tracks.ready isAim).legal
              alive := (sound.settled.tracks.ready isAim).alive
              onBoard := (sound.settled.tracks.ready isAim).onBoard } } }

private theorem Sound.clockAdvances
    (sound : Sound aims manager)
    (ms : Nat) :
    Sound aims
      { manager with
        mPendTask :=
          { manager.mPendTask with
            clock := manager.mPendTask.clock + ms } } where
  bounded := sound.bounded
  settled :=
    { wellStacked := sound.settled.wellStacked
      tracks :=
        sound.settled.tracks.frame rfl rfl rfl rfl ⟨rfl, rfl⟩ rfl
          fun isAim => (sound.settled.tracks.ready isAim).onBoard }

/-! ## Steps -/

/-- A new activity is started and pushed. -/
theorem Sound.pushNewActivity
    {app : Nat}
    (sound : Sound aims manager)
    (starts : manager.canStart app = true)
    (name : String)
    (targetStack : Nat)
    (intent : Intent)
    (startFlag : Nat) :
    Spec (¬ aims.safe)
      ((manager.newActivity name app targetStack intent).pushNewActivity
        targetStack manager.nextActivity startFlag)
      (Sound aims) := by
  have alive : (manager.accounts app).isSome = true := by
    rw [accounts, Option.isSome_map]
    rw [canStart, Option.any_eq_true] at starts
    obtain ⟨record, isRecord, _⟩ := starts
    rw [isRecord]
    rfl
  have started := sound.newActivity alive name targetStack intent
  have inTask :
      (manager.newActivity name app targetStack intent).setting.inTask
          manager.nextActivity = some targetStack := by
    simp [Setting.inTask, TaskStackManager.setting,
      TaskStackManager.newActivity, setRecord, ActivityRecord.fresh]
  have isNew :
      manager.nextActivity ∉
        (manager.newActivity name app targetStack intent).lists.stackOf
          targetStack :=
    fun onStack => Nat.lt_irrefl _ (sound.lt_nextActivity onStack)
  refine (started.settled.pushNewActivity inTask isNew startFlag).mono ?_
  exact fun final finalSettled =>
    Sound.of_settled started.bounded finalSettled

/-- A permitted operation keeps sound states, and does not go wrong. -/
theorem Sound.operation
    {action : ManagerAction}
    (sound : Sound aims manager)
    (isOperation : action.isOperation = true)
    (permitted : Permitted aims manager action) :
    Spec (¬ aims.safe) (manager.step? action) (Sound aims) := by
  have bounded := sound.bounded
  have settled := sound.settled
  have ofSettled :
      ∀ final,
        Settled aims manager.setting final →
        Sound aims final :=
    fun final finalSettled => Sound.of_settled bounded finalSettled
  cases action with
  | pushNewActivity name app targetStack intent startFlag =>
      rw [step?]
      split
      · rename_i canStart
        exact sound.pushNewActivity canStart name targetStack intent
          startFlag
      · rename_i cannotStart
        exact fun isAim => cannotStart (permitted.provided isAim)
  | turnToActivity targetStack activity intent startFlag =>
      obtain ⟨listed, onStack, clearsOrTop⟩ :=
        of_decide_eq_true permitted.addressed
      exact (settled.turnToActivity listed onStack clearsOrTop
        intent).mono ofSettled
  | switchTaskToActive targetStack intent =>
      have listed := of_decide_eq_true permitted.addressed
      exact (settled.switchTaskToActive listed intent).mono ofSettled
  | moveTaskToBackground targetStack =>
      have moved := settled.moveTaskToBackground targetStack
      rw [step?]
      cases result : manager.moveTaskToBackground targetStack with
      | none =>
          rw [result] at moved
          exact moved
      | some final =>
          rw [result] at moved
          exact ofSettled final.1 moved
  | finishActivity activity =>
      have provided :
          aims.safe →
          ∃ record,
            manager.activities activity = some record ∧
              activity ∈ manager.lists.stackOf record.mInTask := by
        intro isAim
        have checked := permitted.provided isAim
        rw [isProvided, Option.any_eq_true] at checked
        obtain ⟨record, isRecord, onStack⟩ := checked
        exact ⟨record, isRecord, of_decide_eq_true onStack⟩
      refine (settled.finishActivity ?_ ?_).mono ofSettled
      · intro isAim
        obtain ⟨record, _, onStack⟩ := provided isAim
        exact placed_of_stacked settled.wellStacked _ onStack
      · intro isAim task inTask
        obtain ⟨record, isRecord, onStack⟩ := provided isAim
        rw [inTask_of_record isRecord] at inTask
        rw [← Option.some.inj inTask]
        exact onStack
  | deleteActivity activity =>
      refine (settled.deleteActivity ?_ ?_).mono ?_
      · intro isAim
        rw [setting, Option.isSome_map]
        exact permitted.provided isAim
      · intro isAim
        exact (Setting.deletesEvenly_iff_balanced settled.wellStacked).mp
          (permitted.balanced isAim)
      · exact fun final deleted => ofSettled final deleted.1
  | reportActivityStatus token status =>
      exact absurd isOperation Bool.false_ne_true
  | timeout serial =>
      exact absurd isOperation Bool.false_ne_true
  | clockAdvances ms =>
      exact absurd isOperation Bool.false_ne_true
  | attachApplication packageName systemui pid =>
      exact absurd isOperation Bool.false_ne_true
  | procAppTerminated app =>
      exact absurd isOperation Bool.false_ne_true
  | deleteAppInfo app =>
      exact absurd isOperation Bool.false_ne_true
  | holdTasks tasks =>
      exact absurd isOperation Bool.false_ne_true

/-- Every permitted step keeps sound states. -/
theorem Sound.step
    {action : ManagerAction}
    (sound : Sound aims manager)
    (permitted : Permitted aims manager action) :
    Spec True (manager.step? action) (Sound aims) := by
  have settled := sound.settled
  have ofSettled :
      ∀ final,
        Settled aims manager.setting final →
        Sound aims final :=
    fun final finalSettled =>
      Sound.of_settled sound.bounded finalSettled
  cases action with
  | pushNewActivity name app targetStack intent startFlag =>
      exact (sound.operation rfl permitted).orFail
  | turnToActivity targetStack activity intent startFlag =>
      exact (sound.operation rfl permitted).orFail
  | switchTaskToActive targetStack intent =>
      exact (sound.operation rfl permitted).orFail
  | moveTaskToBackground targetStack =>
      exact (sound.operation rfl permitted).orFail
  | finishActivity activity =>
      exact (sound.operation rfl permitted).orFail
  | deleteActivity activity =>
      exact (sound.operation rfl permitted).orFail
  | reportActivityStatus token status =>
      refine (settled.reportActivityStatus ?_ ?_ ?_).mono ofSettled
      · exact permitted.reportKeeps
      · intro isAim isKnown isError isPending
        exact permitted.reportBalanced settled.wellStacked isAim isKnown
          (Or.inl ⟨isError, isPending⟩)
      · intro isAim isKnown isDestroyed hasApp
        exact permitted.reportBalanced settled.wellStacked isAim isKnown
          (Or.inr ⟨isDestroyed, hasApp⟩)
  | timeout serial =>
      have keeps := permitted.timeoutKeeps settled.wellStacked
      exact (settled.timeout keeps).mono ofSettled
  | clockAdvances ms =>
      exact sound.clockAdvances ms
  | attachApplication packageName systemui pid =>
      exact sound.attachApplication packageName systemui pid
  | procAppTerminated app =>
      refine sound.procAppTerminated ?_
      intro isAim record isRecord
      have checked := permitted.balanced isAim
      rw [isBalanced, isRecord] at checked
      exact Setting.deletesAllEvenly_balanced
        (sound.markStopped isRecord).settled.wellStacked checked
  | deleteAppInfo app =>
      exact sound.deleteAppInfo fun isAim =>
        Bool.false_ne_true (permitted.provided isAim)
  | holdTasks tasks =>
      exact sound.holdTasks tasks

/-- Every state that permitted steps reach is sound. -/
theorem Sound.of_reachable
    {allowed : TaskStackManager → ManagerAction → Prop}
    {now : Nat}
    (permits :
      ∀ manager action,
        allowed manager action →
        Permitted aims manager action)
    (reachable :
      Reachable TaskStackManager.step? allowed
        (TaskStackManager.start now) manager) :
    Sound aims manager := by
  refine reachable.invariant ?_ ?_
  · exact Sound.start aims now
  · intro state action next sound isAllowed stepped
    exact (sound.step (permits state action isAllowed)).of_result stepped

end TaskStackManager

end ActivityManager
