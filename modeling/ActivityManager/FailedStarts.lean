import ActivityManager.ProcessDeath
import ActivityManager.RequestRoutes

/-!
# Requests for activities that fail

`startActivity` fails before it changes anything.  But it tells the SystemUI
about every request for a standard application, the failed ones included: the
activities of the SystemUI are stopped and leave the foreground.
-/

namespace ActivityManager

open StepSystem (Reachable run?)

namespace TaskStackManager

variable
  {manager next : TaskStackManager}
  {activity : Nat}

/-! ## What requests and the foreground do to the counters -/

/-- `lifecycleTransition` consists of turns and of waits that are done. -/
theorem lifecycleTransitionFrom_induct
    {motive : TaskStackManager → Prop}
    (turns :
      ∀ middle other toStatus final,
        motive middle →
        middle.turn other toStatus = some final →
        motive final)
    (waitsDone :
      ∀ middle serial, motive middle → motive (middle.done serial))
    {fuel : Nat}
    {toStatus : Status}
    (holds : motive manager)
    (isNext :
      lifecycleTransitionFrom fuel manager activity toStatus =
        some next) :
    motive next := by
  induction fuel generalizing manager next activity toStatus with
  | zero =>
      cases isNext
  | succ fuel inductionHypothesis =>
      obtain ⟨record, _, isNext⟩ := Option.bind_eq_some_iff.mp isNext
      dsimp only at isNext
      split at isNext
      · obtain ⟨middle, isMiddle, isNext⟩ :=
          Option.bind_eq_some_iff.mp isNext
        refine turns middle activity toStatus next ?_ isNext
        unfold triggerWaitResume at isMiddle
        split at isMiddle
        · rename_i handler _
          have done := waitsDone manager handler.serial holds
          dsimp only at isMiddle
          split at isMiddle
          · obtain ⟨stopped, _, isMiddle⟩ :=
              Option.bind_eq_some_iff.mp isMiddle
            split at isMiddle
            · exact inductionHypothesis done isMiddle
            · rw [← Option.some.inj isMiddle]
              exact done
          · rw [← Option.some.inj isMiddle]
            exact done
        · rw [← Option.some.inj isMiddle]
          exact holds
      · exact turns manager activity toStatus next holds isNext

/-- A request after its event keeps the accounts. -/
theorem turn_accounts
    {toStatus : Status}
    (isNext : manager.turn activity toStatus = some next) :
    next.accounts = manager.accounts := by
  unfold accounts
  funext app
  rcases turn_apps isNext with isSame | ⟨changed, old, listed, isOld, isSet⟩
  · rw [isSame]
  · rw [isSet]
    by_cases isApp : app = changed
    · rw [isApp, Function.update_self, isOld]
      exact congrArg some (old.addActivity_account listed)
    · rw [Function.update_of_ne isApp]

/-- A request keeps the accounts. -/
theorem lifecycleTransition_accounts
    {toStatus : Status}
    (isNext :
      manager.lifecycleTransition activity toStatus = some next) :
    next.accounts = manager.accounts := by
  refine
    lifecycleTransitionFrom_induct
      (motive := fun middle => middle.accounts = manager.accounts)
      ?_ ?_ rfl isNext
  · intro middle other status final same turned
    exact (turn_accounts turned).trans same
  · intro middle serial same
    exact same

/-- The application of an activity is counted. -/
theorem setActivityForeground_cases
    {isForeground : Bool}
    (isNext :
      manager.setActivityForeground activity isForeground = some next) :
    ∃ app old,
      manager.getAppRecord activity = some (app, old) ∧
        next = manager.setAppForeground app old isForeground := by
  obtain ⟨record, isRecord, isNext⟩ := Option.bind_eq_some_iff.mp isNext
  obtain ⟨app, isApp, isNext⟩ := Option.bind_eq_some_iff.mp isNext
  obtain ⟨old, isOld, isNext⟩ := Option.bind_eq_some_iff.mp isNext
  refine ⟨app, old, ?_, (Option.some.inj isNext).symm⟩
  simp [getAppRecord, isRecord, isApp, isOld]

/-- An activity's application has a record. -/
theorem apps_of_getAppRecord
    {app : Nat}
    {old : AppRecord}
    (isApp : manager.getAppRecord activity = some (app, old)) :
    manager.apps app = some old := by
  obtain ⟨record, _, isApp⟩ := Option.bind_eq_some_iff.mp isApp
  obtain ⟨number, _, isApp⟩ := Option.bind_eq_some_iff.mp isApp
  obtain ⟨found, isFound, isPair⟩ := Option.bind_eq_some_iff.mp isApp
  cases isPair
  exact isFound

end TaskStackManager

/-- Every application stays, stopped or not, and no counter grows. -/
structure Lowers (before after : Nat → Option Account) : Prop where
  noneComes : ∀ app, before app = none → after app = none
  isLower :
    ∀ app old,
      before app = some old →
      ∃ new,
        after app = some new ∧
          new.isStopped = old.isStopped ∧
          new.count ≤ old.count

theorem Lowers.refl (accounts : Nat → Option Account) :
    Lowers accounts accounts where
  noneComes _ isNone := isNone
  isLower _ old isOld := ⟨old, isOld, rfl, Int.le_refl _⟩

theorem Lowers.trans
    {first second third : Nat → Option Account}
    (former : Lowers first second)
    (latter : Lowers second third) :
    Lowers first third where
  noneComes app isNone := latter.noneComes app (former.noneComes app isNone)
  isLower app old isOld := by
    obtain ⟨middle, isMiddle, sameFirst, fewerFirst⟩ :=
      former.isLower app old isOld
    obtain ⟨new, isNew, sameSecond, fewerSecond⟩ :=
      latter.isLower app middle isMiddle
    exact
      ⟨new, isNew, sameSecond.trans sameFirst,
        Int.le_trans fewerSecond fewerFirst⟩

/-- An application has left the foreground once more, if it runs. -/
def LowersOne (before after : Nat → Option Account) : Prop :=
  ∃ app old new,
    before app = some old ∧
      after app = some new ∧
      (old.isStopped = false → new.count < old.count)

/-- What is lowered does not come back. -/
theorem LowersOne.before
    {first second third : Nat → Option Account}
    (former : LowersOne first second)
    (latter : Lowers second third) :
    LowersOne first third := by
  obtain ⟨app, old, middle, isOld, isMiddle, isLess⟩ := former
  obtain ⟨new, isNew, _, fewer⟩ := latter.isLower app middle isMiddle
  exact
    ⟨app, old, new, isOld, isNew,
      fun runs => Int.lt_of_le_of_lt fewer (isLess runs)⟩

theorem LowersOne.after
    {first second third : Nat → Option Account}
    (former : Lowers first second)
    (latter : LowersOne second third) :
    LowersOne first third := by
  obtain ⟨app, middle, new, isMiddle, isNew, isLess⟩ := latter
  cases isOld : first app with
  | none =>
      rw [former.noneComes app isOld] at isMiddle
      cases isMiddle
  | some old =>
      obtain ⟨found, isFound, sameStopped, fewer⟩ :=
        former.isLower app old isOld
      rw [isMiddle, Option.some.injEq] at isFound
      subst isFound
      exact
        ⟨app, old, new, isOld, isNew, fun runs =>
          Int.lt_of_lt_of_le (isLess (sameStopped.trans runs)) fewer⟩

/-- The counter after `setForeground`. -/
theorem AppRecord.setForeground_account
    (app : AppRecord)
    (isForegroundActivity : Bool) :
    (app.setForeground isForegroundActivity).1.account =
      if app.mStatus = .appStopped then
        app.account
      else
        { app.account with
          count :=
            app.account.count +
              if isForegroundActivity then 1 else -1 } := by
  unfold AppRecord.setForeground
  cases isForegroundActivity <;> dsimp only <;> split_ifs <;> rfl

namespace TaskStackManager

/-- One application is counted. -/
theorem setAppForeground_accounts
    (manager : TaskStackManager)
    (app : Nat)
    (record : AppRecord)
    (isForeground : Bool) :
    (manager.setAppForeground app record isForeground).accounts =
      Function.update manager.accounts app
        (some (record.setForeground isForeground).1.account) := by
  funext other
  unfold accounts
  by_cases isApp : other = app
  · simp [isApp, setAppForeground, setApp]
  · simp [isApp, setAppForeground, setApp]

/-- A hidden activity leaves the foreground of its application. -/
theorem hideActivity_lowers
    (isNext :
      SystemUIManager.hideActivity activity manager = some next) :
    Lowers manager.accounts next.accounts ∧
      LowersOne manager.accounts next.accounts := by
  obtain ⟨stopped, isStopped, isNext⟩ := Option.bind_eq_some_iff.mp isNext
  obtain ⟨app, old, isApp, isSet⟩ := setActivityForeground_cases isNext
  have isOld : manager.accounts app = some old.account := by
    rw [← lifecycleTransition_accounts isStopped, accounts,
      apps_of_getAppRecord isApp]
    rfl
  have changed :
      next.accounts =
        Function.update manager.accounts app
          (some (old.setForeground false).1.account) := by
    rw [isSet, setAppForeground_accounts,
      lifecycleTransition_accounts isStopped]
  rw [changed]
  have isNew := old.setForeground_account false
  refine
    ⟨⟨?_, ?_⟩, app, old.account, _, isOld, Function.update_self _ _ _, ?_⟩
  · intro other isNone
    by_cases isThis : other = app
    · rw [isThis, isOld] at isNone
      cases isNone
    · rw [Function.update_of_ne isThis]
      exact isNone
  · intro other account isAccount
    by_cases isThis : other = app
    · rw [isThis, isOld, Option.some.injEq] at isAccount
      subst isAccount
      refine ⟨_, by rw [isThis, Function.update_self], ?_⟩
      rw [isNew]
      split
      · exact ⟨rfl, Int.le_refl _⟩
      · refine ⟨rfl, ?_⟩
        dsimp only
        rw [if_neg Bool.false_ne_true]
        omega
    · exact
        ⟨account, by rw [Function.update_of_ne isThis]; exact isAccount,
          rfl, Int.le_refl _⟩
  · intro runs
    have notStopped : old.mStatus ≠ .appStopped := by
      simpa [AppRecord.account] using runs
    rw [isNew, if_neg notStopped]
    dsimp only
    rw [if_neg Bool.false_ne_true]
    omega

/-- A loop of operations that lower counters. -/
theorem forEach_lowers
    {operate : Nat → TaskStackManager → Option TaskStackManager}
    {lowersOne : Nat → Prop}
    (lowers :
      ∀ element middle final,
        operate element middle = some final →
        Lowers middle.accounts final.accounts ∧
          (lowersOne element →
            LowersOne middle.accounts final.accounts))
    {elements : List Nat}
    (isNext : forEach operate elements manager = some next) :
    Lowers manager.accounts next.accounts ∧
      ((∃ element ∈ elements, lowersOne element) →
        LowersOne manager.accounts next.accounts) := by
  induction elements generalizing manager with
  | nil =>
      rw [← Option.some.inj isNext]
      exact ⟨.refl _, fun ⟨_, member, _⟩ => absurd member List.not_mem_nil⟩
  | cons element rest inductionHypothesis =>
      obtain ⟨middle, isMiddle, isNext⟩ :=
        Option.bind_eq_some_iff.mp isNext
      obtain ⟨first, firstOne⟩ := lowers element manager middle isMiddle
      obtain ⟨later, laterOne⟩ := inductionHypothesis isNext
      refine ⟨first.trans later, ?_⟩
      rintro ⟨lowered, member, isLowered⟩
      rcases List.mem_cons.mp member with isFirst | isLater
      · rw [isFirst] at isLowered
        exact (firstOne isLowered).before later
      · exact .after first (laterOne ⟨lowered, isLater, isLowered⟩)

/-- The event lowers a counter for every activity that is listed. -/
theorem onStartActivity_lowersOne
    {systemUI : SystemUIManager}
    (isNext : systemUI.onStartActivity manager = some next)
    (isListed :
      ∃ task ∈ systemUI.mSystemUITasks, systemUI.mStack task ≠ []) :
    LowersOne manager.accounts next.accounts := by
  refine (forEach_lowers ?_ isNext).2 isListed
  intro task middle final isFinal
  have hides :
      ∀ activity before after,
        SystemUIManager.hideActivity activity before = some after →
        Lowers before.accounts after.accounts ∧
          (True → LowersOne before.accounts after.accounts) := by
    intro activity before after hidden
    exact (hideActivity_lowers hidden).imp_right fun one _ => one
  obtain ⟨lowers, lowersOne⟩ := forEach_lowers hides isFinal
  refine ⟨lowers, fun notEmpty => lowersOne ?_⟩
  obtain ⟨activity, member⟩ := List.exists_mem_of_ne_nil _ notEmpty
  exact ⟨activity, member, trivial⟩

/-- Nothing happens where nothing is listed. -/
theorem onStartActivity_of_nil
    {systemUI : SystemUIManager}
    (noneListed :
      ∀ task ∈ systemUI.mSystemUITasks, systemUI.mStack task = []) :
    systemUI.onStartActivity manager = some manager := by
  unfold SystemUIManager.onStartActivity
  generalize systemUI.mSystemUITasks = tasks at noneListed
  induction tasks with
  | nil =>
      rfl
  | cons task rest inductionHypothesis =>
      rw [forEach, noneListed task List.mem_cons_self]
      exact inductionHypothesis fun other member =>
        noneListed other (List.mem_cons_of_mem task member)

end TaskStackManager

/-! ## No process that is there is stopped -/

/-- What happens to a record does not stop its process. -/
def NotStops (old new : AppRecord) : Prop :=
  new.mStatus = .appStopped → old.mStatus = .appStopped

theorem AppRecord.stopApplication_notStops (app : AppRecord) :
    NotStops app app.stopApplication.1 := by
  unfold NotStops AppRecord.stopApplication
  split
  · exact fun isStopped => absurd isStopped nofun
  · exact id

namespace TaskStackManager

/-- Only the record of a process that is ending may be stopped. -/
def StoppedOnly
    (manager : TaskStackManager)
    (ending : Option Nat) : Prop :=
  ∀ app record,
    manager.apps app = some record →
    record.mStatus = .appStopped →
    ending = some app

namespace StoppedOnly

variable
  {manager next : TaskStackManager}
  {activity : Nat}
  {ending : Option Nat}

/-- The records do not change. -/
theorem of_eq
    (before : manager.StoppedOnly ending)
    (sameApps : next.apps = manager.apps) :
    next.StoppedOnly ending := by
  unfold StoppedOnly
  rw [sameApps]
  exact before

/-- No record is stopped. -/
theorem kept
    {related : AppRecord → AppRecord → Prop}
    (before : manager.StoppedOnly ending)
    (sameApps : AppsKept related manager.apps next.apps)
    (notStops : ∀ old new, related old new → NotStops old new) :
    next.StoppedOnly ending := by
  intro app new isNew isStopped
  obtain ⟨old, isOld, isRelated⟩ := sameApps.exists_before isNew
  exact before app old isOld (notStops old new isRelated isStopped)

/-- One record changes. -/
theorem change
    {app : Nat}
    {old new : AppRecord}
    (before : manager.StoppedOnly ending)
    (isOld : manager.apps app = some old)
    (isChanged :
      next.apps = Function.update manager.apps app (some new))
    (notStops : NotStops old new) :
    next.StoppedOnly ending := by
  intro other record isRecord isStopped
  rw [isChanged] at isRecord
  by_cases isApp : other = app
  · rw [isApp, Function.update_self, Option.some.injEq] at isRecord
    subst isRecord
    rw [isApp]
    exact before app old isOld (notStops isStopped)
  · rw [Function.update_of_ne isApp] at isRecord
    exact before other record isRecord isStopped

theorem abnormalExit
    (before : manager.StoppedOnly ending)
    (isNext : manager.abnormalExit activity = some next) :
    next.StoppedOnly ending := by
  obtain ⟨record, _, ⟨_, hasEnded⟩ | ⟨app, old, _, isOld, hasEnded⟩⟩ :=
    abnormalExit_cases isNext
  · subst hasEnded
    exact before.of_eq rfl
  · subst hasEnded
    exact before.change isOld rfl
      (old.deleteActivity activity).stopApplication_notStops

/-- Of the primitive steps only one stops a process. -/
theorem recordStep
    {action : RecordAction}
    (before : manager.StoppedOnly ending)
    (isNext : manager.recordStep? action = some next)
    (ends : ∀ app, action = .markStopped app → ending = some app) :
    next.StoppedOnly ending := by
  cases action with
  | createActivity name targetTask intent =>
      rw [← Option.some.inj isNext]
      exact before.of_eq rfl
  | setAppThread activity app =>
      obtain ⟨_, _, isSet⟩ := setAppThread_cases isNext
      rw [isSet]
      exact before.of_eq rfl
  | turn activity toStatus =>
      rcases turn_apps isNext with
        isSame | ⟨app, old, listed, isOld, isChanged⟩
      · exact before.of_eq isSame
      · exact before.change isOld isChanged id
  | setIntent activity intent =>
      obtain ⟨_, _, isSet⟩ := setIntent_cases isNext
      rw [isSet]
      exact before.of_eq rfl
  | restart activity =>
      obtain ⟨_, _, isSet⟩ := setStatus_cases isNext
      rw [isSet]
      exact before.of_eq rfl
  | commit task =>
      obtain ⟨_, isCommitted⟩ := commit_cases isNext
      rw [isCommitted]
      exact before.of_eq rfl
  | complete serial task =>
      obtain ⟨_, _, isDone⟩ := complete_cases isNext
      rw [isDone]
      exact before.of_eq rfl
  | statusReport token status =>
      rcases statusReport_cases isNext with
        isSame | ⟨_, _, _, _, _, isStored⟩
      · rw [isSame]
        exact before
      · rw [isStored]
        exact before.of_eq rfl
  | giveUp serial activity =>
      have done : (manager.done serial).StoppedOnly ending :=
        before.of_eq rfl
      obtain ⟨_, _, _, ⟨_, isDone⟩ | ⟨_, exited⟩⟩ := giveUp_cases isNext
      · rw [isDone]
        exact done
      · exact done.abnormalExit exited
  | abnormalExit activity =>
      exact before.abnormalExit isNext
  | reportDestroyed token =>
      obtain ⟨_, _, _, _, _, isStarted⟩ := startDestroyed_cases isNext
      rw [isStarted]
      exact before.of_eq rfl
  | activityGone token =>
      rw [← Option.some.inj isNext]
      rcases leaveApp_cases manager token with
        ⟨_, left⟩ | ⟨app, old, isApp, ⟨_, left⟩ | ⟨_, left⟩⟩
      · rw [activityGone, left]
        exact before.of_eq rfl
      · rw [activityGone, left]
        exact before.change (apps_of_getAppRecord isApp) rfl id
      · rw [activityGone, left]
        exact before.change (apps_of_getAppRecord isApp) rfl
          (old.deleteActivity token).stopApplication_notStops
  | setForeground app isForeground =>
      obtain ⟨old, isOld, isSet⟩ := Option.map_eq_some_iff.mp isNext
      rw [← isSet]
      have sameStatus := old.setForeground_mStatus isForeground
      exact before.change isOld rfl
        fun isStopped => sameStatus.symm.trans isStopped
  | stopApplication app =>
      obtain ⟨old, isOld, isSet⟩ := Option.map_eq_some_iff.mp isNext
      rw [← isSet]
      exact before.change isOld rfl old.stopApplication_notStops
  | markStopped app =>
      obtain ⟨old, isOld, isSet⟩ := Option.map_eq_some_iff.mp isNext
      rw [← isSet]
      intro other record isRecord isStopped
      by_cases isApp : other = app
      · rw [isApp]
        exact ends app rfl
      · refine before other record ?_ isStopped
        simpa [markStopped, setApp, isApp] using isRecord
  | forget token =>
      rw [← Option.some.inj isNext]
      exact before.of_eq rfl
  | attachApplication packageName systemui pid =>
      rw [← Option.some.inj isNext]
      intro other record isRecord isStopped
      by_cases isApp : other = manager.nextApp
      · have isNew :
            AppRecord.attached packageName systemui pid = record := by
          simpa [attachApplication, setApp, isApp] using isRecord
        rw [← isNew] at isStopped
        cases isStopped
      · refine before other record ?_ isStopped
        simpa [attachApplication, setApp, isApp] using isRecord
  | deleteAppInfo app =>
      obtain ⟨_, _, _, isDeleted⟩ := deleteAppInfo_cases isNext
      rw [isDeleted]
      intro other record isRecord isStopped
      by_cases isApp : other = app
      · simp [isApp] at isRecord
      · refine before other record ?_ isStopped
        simpa [isApp] using isRecord
  | clockAdvances ms =>
      rw [← Option.some.inj isNext]
      exact before.of_eq rfl
  | holdTasks tasks =>
      rw [← Option.some.inj isNext]
      exact before.of_eq rfl
  | relist lists =>
      rw [← Option.some.inj isNext]
      exact before.of_eq rfl

end StoppedOnly

end TaskStackManager

namespace ActivityManagerInner

variable
  {inner next : ActivityManagerInner}
  {parts : TaskStackManager.Parts}
  {ending : Option Nat}

/-- A quiet run stops only the process that is ending. -/
theorem Quiet.stoppedOnly
    (quiet : Quiet parts inner next)
    (before : inner.manager.StoppedOnly ending)
    (ends :
      ∀ middle app,
        parts.isPart middle (.markStopped app) → ending = some app) :
    next.manager.StoppedOnly ending := by
  refine quiet.moves.invariant before ?_
  intro middle action after kept isPart isNext
  refine kept.recordStep isNext ?_
  intro app isMark
  rw [isMark] at isPart
  exact ends middle app isPart

/-- The operations stop none. -/
theorem Quiet.own_stoppedOnly
    (quiet : Quiet ownParts inner next)
    (before : inner.manager.StoppedOnly ending) :
    next.manager.StoppedOnly ending :=
  quiet.stoppedOnly before fun _ _ isOwn => isOwn.elim

/-- A process that is asked to stop is not stopped yet. -/
theorem Quiet.stopping_stoppedOnly
    (quiet : Quiet stoppingParts inner next)
    (before : inner.manager.StoppedOnly ending) :
    next.manager.StoppedOnly ending := by
  refine quiet.stoppedOnly before ?_
  rintro middle app (isOwn | ⟨_, isStop⟩)
  · exact isOwn.elim
  · cases isStop

/-- Services come and go, processes do not. -/
theorem stoppedOnly_of_withServices
    (before : inner.manager.StoppedOnly ending)
    (sameApps :
      AppsKept WithServices inner.manager.apps next.manager.apps) :
    next.manager.StoppedOnly ending := by
  refine before.kept sameApps ?_
  intro old new same isStopped
  rw [same] at isStopped
  exact isStopped

/-- A request for an activity stops none. -/
theorem ActivityOutcome.stoppedOnly
    {packageInfo : PackageInfo}
    {intent : Intent}
    {spawned : Option Nat}
    {route : Route}
    (outcome :
      inner.ActivityOutcome packageInfo intent spawned next route)
    (before : inner.manager.StoppedOnly ending) :
    next.manager.StoppedOnly ending := by
  cases outcome with
  | rejected quiet =>
      exact quiet.own_stoppedOnly before
  | turned quiet =>
      exact quiet.own_stoppedOnly before
  | hosted _ isCreated quiet =>
      apply quiet.own_stoppedOnly
      apply before.of_eq
      rw [isCreated.manager]
      rfl
  | queued _ _ isCreated submitted quiet =>
      apply quiet.own_stoppedOnly
      apply before.of_eq
      rw [submitted.manager_eq, isCreated.manager]
      rfl

/-- Nor does a request for a service. -/
theorem ServiceOutcome.stoppedOnly
    {serviceName : String}
    {packageInfo : PackageInfo}
    {intent : Intent}
    {request : ServiceRequest}
    {spawned : Option Nat}
    {route : Route}
    (outcome :
      inner.ServiceOutcome serviceName packageInfo intent request spawned
        next route)
    (before : inner.manager.StoppedOnly ending) :
    next.manager.StoppedOnly ending := by
  cases outcome with
  | rejected =>
      exact before
  | found isFound =>
      exact stoppedOnly_of_withServices before
        (requestService_serviced (mem_of_findService isFound).1 _ _).apps
  | created _ _ _ _ =>
      exact stoppedOnly_of_withServices before
        (createService_serviced _ _ _ _ _).apps
  | queued _ _ _ submitted =>
      apply before.of_eq
      rw [submitted.manager_eq]

/-- Nor does a callback of a process that attaches. -/
theorem CallbackOutcome.stoppedOnly
    {e : AppAttachEvent}
    {callback : AttachCallback}
    (outcome : inner.CallbackOutcome e callback next)
    (before : inner.manager.StoppedOnly ending) :
    next.manager.StoppedOnly ending := by
  cases outcome with
  | startActivity _ isSet isAttached quiet =>
      obtain ⟨_, _, isManager⟩ := TaskStackManager.setAppThread_cases isSet
      apply quiet.own_stoppedOnly
      apply before.of_eq
      rw [isAttached.manager, isManager]
      rfl
  | startService _ =>
      exact stoppedOnly_of_withServices before
        (createService_serviced _ _ _ _ _).apps

/-- A process that attaches is running. -/
theorem AttachOutcome.stoppedOnly
    {callerPid : Nat}
    {isSystemUI : Bool}
    (outcome : inner.AttachOutcome callerPid isSystemUI next)
    (before : inner.manager.StoppedOnly ending) :
    next.manager.StoppedOnly ending := by
  cases outcome with
  | known _ =>
      exact before
  | illegal _ =>
      exact before
  | @attached packageName _ _ _ isServed =>
      refine eventTrigger_invariant
        (motive := fun after => after.manager.StoppedOnly ending)
        ?_ (fun _ => id) ?_ isServed
      · intro middle handler after kept _ _ callback
        exact callback.stoppedOnly kept
      · have isAttached :
            inner.manager.recordStep?
                (.attachApplication packageName isSystemUI callerPid) =
              some
                (inner.manager.attachApplication packageName isSystemUI
                  callerPid) :=
          rfl
        exact before.recordStep isAttached nofun

/-- A service that reports may leave its process idle. -/
theorem ReportOutcome.stoppedOnly
    {token : Nat}
    {status : ServiceStatus}
    (outcome : inner.ReportOutcome token status next)
    (before : inner.manager.StoppedOnly ending) :
    next.manager.StoppedOnly ending := by
  cases outcome with
  | ignored =>
      exact before
  | stored _ =>
      exact before
  | unbinded isFound _ =>
      have isStopped :=
        onService_serviced ServiceRecord.keepsKey_stop
          (List.mem_of_find?_eq_some isFound)
      exact stoppedOnly_of_withServices before isStopped.apps
  | @destroyed service _ _ =>
      have kept :
          ({ inner with
              mServices :=
                deleteService inner.mServices
                  token } : ActivityManagerInner).manager.StoppedOnly
            ending :=
        before
      exact (stopIfIdle_quiet _ service.mApp).stopping_stoppedOnly kept

/-- A process that ends takes its record along. -/
theorem ExitOutcome.stoppedOnly
    {pid : Nat}
    (outcome : inner.ExitOutcome pid next)
    (before : inner.manager.StoppedOnly none) :
    next.manager.StoppedOnly none := by
  cases outcome with
  | waiting _ _ =>
      exact before
  | unknown _ _ =>
      exact before
  | @hosted app record exited ended deleted policy _ _ quiet isRecord
      terminated isDeleted _ =>
      have atFirst : inner.manager.StoppedOnly (some app) :=
        fun other record isRecord isStopped =>
          absurd (before other record isRecord isStopped) nofun
      have marked : exited.manager.StoppedOnly (some app) := by
        refine quiet.stoppedOnly atFirst ?_
        rintro middle other
          (isOwn | ⟨_, isMark⟩ | ⟨_, isExit⟩ | ⟨_, isForget⟩)
        · exact isOwn.elim
        · cases isMark
          rfl
        · cases isExit
        · cases isForget
      have swapped :
          (exited.swapServices app record).manager.StoppedOnly
            (some app) :=
        marked.change isRecord rfl id
      have atEnd :=
        stoppedOnly_of_withServices swapped terminated.apps
      rw [deleteAppInfo_cases isDeleted]
      intro other old isOld isStopped
      by_cases isApp : other = app
      · simp [isApp] at isOld
      · have isOldThen : ended.manager.apps other = some old := by
          simpa [isApp] using isOld
        exact absurd
          (Option.some.inj (atEnd other old isOldThen isStopped)).symm
          isApp

/-- Apart from their end, processes are not stopped. -/
theorem step?_stoppedOnly
    {action : InnerAction}
    (before : inner.manager.StoppedOnly none)
    (isNext : inner.step? action = some next) :
    next.manager.StoppedOnly none := by
  cases action with
  | startActivity activityName packageInfo intent caller isOkToLaunch
      spawned =>
      obtain ⟨⟨_, route⟩, isResult, rfl⟩ :=
        Option.map_eq_some_iff.mp isNext
      exact (startActivity_outcome isResult).stoppedOnly before
  | startActivityReal activityName packageInfo intent caller isOkToLaunch
      spawned =>
      obtain ⟨⟨_, route⟩, isResult, rfl⟩ :=
        Option.map_eq_some_iff.mp isNext
      exact (startActivityReal_outcome isResult).stoppedOnly before
  | startService serviceName packageInfo intent spawned =>
      obtain ⟨⟨_, route⟩, isResult, rfl⟩ :=
        Option.map_eq_some_iff.mp isNext
      exact (startServiceReal_outcome isResult).stoppedOnly before
  | bindService serviceName packageInfo intent conn spawned =>
      obtain ⟨⟨_, route⟩, isResult, rfl⟩ :=
        Option.map_eq_some_iff.mp isNext
      exact (startServiceReal_outcome isResult).stoppedOnly before
  | stopService packageInfo serviceName =>
      rw [← Option.some.inj isNext]
      exact stoppedOnly_of_withServices before
        (stopService_serviced inner packageInfo serviceName).apps
  | stopServiceByToken token =>
      obtain ⟨⟨_, isStopped⟩, isResult, rfl⟩ :=
        Option.map_eq_some_iff.mp isNext
      exact stoppedOnly_of_withServices before
        (stopServiceByToken_serviced isResult).apps
  | unbindService conn =>
      rw [← Option.some.inj isNext]
      exact stoppedOnly_of_withServices before
        (unbindAll_serviced conn _ inner).apps
  | publishService token serviceBinder =>
      rw [← Option.some.inj isNext]
      exact stoppedOnly_of_withServices before
        (publishService_serviced inner token serviceBinder).apps
  | reportServiceStatus token status =>
      exact (reportServiceStatus_outcome isNext).stoppedOnly before
  | attachApplication callerPid isSystemUI =>
      exact (attachApplication_outcome isNext).stoppedOnly before
  | childExit pid =>
      exact (childExit_outcome isNext).stoppedOnly before
  | stopApplication app =>
      exact ((stopApplication_quiet inner app).of_result
        isNext).stopping_stoppedOnly before
  | executeLMK freememory maxblock =>
      exact ((executeLMK_quiet inner freememory maxblock).of_result
        isNext).stopping_stoppedOnly before
  | manager action =>
      rw [step?] at isNext
      split at isNext
      · rename_i isApart
        refine
          ((onManager_quiet inner action).of_result isNext).stoppedOnly
            before ?_
        rintro middle other (isOwn | isPart)
        · exact isOwn.elim
        · cases action <;> simp_all [ManagerAction.isApart]
      · cases isNext
  | moveSystemUIToBackground task =>
      exact ((moveSystemUIToBackground_quiet inner task).of_result
        isNext).own_stoppedOnly before
  | finishSystemUIActivity activity =>
      exact ((finishSystemUIActivity_quiet inner activity).of_result
        isNext).own_stoppedOnly before

/-- In no reachable state is a record stopped. -/
theorem stoppedOnly_of_reachable
    {lines : List LmkRow}
    {arena : Int}
    {now : Nat}
    {allowed : ActivityManagerInner → InnerAction → Prop}
    (reachable :
      Reachable step? allowed (ActivityManagerInner.start lines arena now)
        inner) :
    inner.manager.StoppedOnly none := by
  refine reachable.invariant ?_ ?_
  · exact nofun
  · intro state action final before _ isNext
    exact step?_stoppedOnly before isNext

/-! ## Requests that fail -/

variable
  {packageInfo : PackageInfo}
  {intent : Intent}
  {caller spawned : Option Nat}
  {isOkToLaunch : Bool}
  {activityName : String}
  {route : Route}

/-- Only a new task may have been made, which is not listed. -/
structure OnlyTask (inner next : ActivityManagerInner) : Prop where
  same :
    next = { inner with mTag := next.mTag, nextTask := next.nextTask }

/-- A request for a new activity that fails. -/
theorem startNewActivity_failed
    {activityUniqueName : String}
    {plan : StartPlan}
    {task : Option Nat}
    {startFlag : Nat}
    (isResult :
      inner.startNewActivity packageInfo activityUniqueName plan task
        startFlag intent isOkToLaunch spawned = some (next, route))
    (failed : route.isOk = false) :
    next = inner := by
  unfold startNewActivity at isResult
  dsimp only at isResult
  split at isResult
  · obtain ⟨pushed, _, isResult⟩ := Option.bind_eq_some_iff.mp isResult
    rw [Option.some.injEq, Prod.mk.injEq] at isResult
    rw [← isResult.2] at failed
    cases failed
  · split at isResult
    · split at isResult
      · rw [Option.some.injEq, Prod.mk.injEq] at isResult
        rw [← isResult.2] at failed
        cases failed
      · rw [Option.some.injEq, Prod.mk.injEq] at isResult
        exact isResult.1.symm
    · rw [Option.some.injEq, Prod.mk.injEq] at isResult
      exact isResult.1.symm

/-- The search for a task may make one. -/
theorem targetTask_onlyTask
    (inner : ActivityManagerInner)
    (isSystemUI : Bool)
    (plan : StartPlan) :
    OnlyTask inner (inner.targetTask isSystemUI plan).1 := by
  unfold targetTask
  split
  · split
    · exact ⟨rfl⟩
    · exact ⟨rfl⟩
  · exact ⟨rfl⟩

/-- Every failure of `startActivityReal`. -/
theorem startActivityReal_failed
    (isResult :
      inner.startActivityReal activityName packageInfo intent caller
        isOkToLaunch spawned = some (next, route))
    (failed : route.isOk = false) :
    OnlyTask inner next := by
  unfold startActivityReal at isResult
  split at isResult
  · rw [Option.some.injEq, Prod.mk.injEq] at isResult
    rw [← isResult.1]
    exact ⟨rfl⟩
  · rename_i info _
    have arranged :=
      inner.targetTask_onlyTask packageInfo.isSystemUI
        (inner.startPlan packageInfo info intent caller)
    dsimp only at isResult
    obtain ⟨⟨target, startFlag⟩, _, isResult⟩ :=
      Option.bind_eq_some_iff.mp isResult
    dsimp only at isResult
    split at isResult
    · obtain ⟨task, _, isResult⟩ := Option.bind_eq_some_iff.mp isResult
      obtain ⟨turned, _, isResult⟩ := Option.bind_eq_some_iff.mp isResult
      rw [Option.some.injEq, Prod.mk.injEq] at isResult
      rw [← isResult.2] at failed
      cases failed
    · rw [startNewActivity_failed isResult failed]
      exact arranged

/-- Every failure before the event of the SystemUI. -/
theorem startTarget_failed
    (isResult :
      inner.startTarget activityName packageInfo intent caller
        isOkToLaunch spawned = some (next, route))
    (failed : route.isOk = false) :
    OnlyTask inner next := by
  unfold startTarget at isResult
  dsimp only at isResult
  split at isResult
  · obtain ⟨switched, _, isResult⟩ := Option.bind_eq_some_iff.mp isResult
    rw [Option.some.injEq, Prod.mk.injEq] at isResult
    rw [← isResult.2] at failed
    cases failed
  · exact startActivityReal_failed isResult failed

end ActivityManagerInner

/-! ## Intents -/

/-- What the service asks others for when it looks for a target. -/
structure PackageLookups where
  /-- `mActionFilter.getSingleTargetByAction`; empty if there is none. -/
  getSingleTargetByAction : String → String
  /-- `mPm.getPackageInfo`. -/
  getPackageInfo : String → Option PackageInfo

/-- `getPackageAndComponentName`. -/
def getPackageAndComponentName (target : String) : String × String :=
  (String.ofList (target.toList.takeWhile (· != '/')),
    String.ofList (target.toList.dropWhile (· != '/')).tail)

/-- `ActivityManagerInner::intentToSingleTarget`. -/
def PackageLookups.intentToSingleTarget
    (lookups : PackageLookups)
    (intent : Intent) : Option (String × PackageInfo) :=
  let target :=
    if intent.mTarget.isEmpty then
      lookups.getSingleTargetByAction intent.mAction
    else
      intent.mTarget
  let names := getPackageAndComponentName target
  if names.1.isEmpty then
    none
  else
    (lookups.getPackageInfo names.1).map fun packageInfo =>
      (names.2, packageInfo)

namespace ActivityManagerInner

variable
  {inner next : ActivityManagerInner}
  {intent : Intent}
  {caller spawned : Option Nat}
  {isOkToLaunch : Bool}
  {route : Route}

/-- `ActivityManagerInner::startActivity`, from the intent on. -/
def startActivityByIntent
    (inner : ActivityManagerInner)
    (lookups : PackageLookups)
    (intent : Intent)
    (caller : Option Nat)
    (isOkToLaunch : Bool)
    (spawned : Option Nat) : Option (ActivityManagerInner × Route) :=
  match lookups.intentToSingleTarget intent with
  | none =>
      some (inner, .rejected)
  | some (activityName, packageInfo) =>
      inner.startActivity activityName packageInfo intent caller
        isOkToLaunch spawned

/-- The request has changed nothing, and sent no command. -/
structure Unchanged (inner next : ActivityManagerInner) : Prop where
  lists : next.manager.lists = inner.manager.lists
  systemUI : next.systemUI = inner.systemUI
  statuses :
    ∀ activity,
      (next.manager.activities activity).map
          (fun record => (record.mStatus, record.mTargetStatus)) =
        (inner.manager.activities activity).map
          (fun record => (record.mStatus, record.mTargetStatus))
  counters :
    ∀ app,
      (next.manager.apps app).map AppRecord.mForegroundActivityCnt =
        (inner.manager.apps app).map AppRecord.mForegroundActivityCnt
  mActivityMap : next.manager.mActivityMap = inner.manager.mActivityMap
  mAppWaitingAttach : next.mAppWaitingAttach = inner.mAppWaitingAttach
  activityTasks : next.manager.mPendTask = inner.manager.mPendTask
  attachTasks : next.mPendTask = inner.mPendTask
  noCommand :
    next.manager.calls.filter Call.isCommand =
      inner.manager.calls.filter Call.isCommand

/--
The SystemUI hears nothing of the request, or it has no activity on a listed
task: nothing to stop.
-/
def sparesSystemUI
    (inner : ActivityManagerInner)
    (lookups : PackageLookups)
    (intent : Intent) : Bool :=
  match lookups.intentToSingleTarget intent with
  | none =>
      true
  | some (_, packageInfo) =>
      packageInfo.isSystemUI ||
        inner.systemUI.mSystemUITasks.all fun task =>
          (inner.systemUI.mStack task).isEmpty

/-- The service takes over what the task manager has done, and no more. -/
theorem withManager_eq
    {moved : TaskStackManager}
    (isNext : inner.withManager moved = some next) :
    next =
      { inner with
        manager := moved
        mPriorityPolicy := next.mPriorityPolicy } := by
  obtain ⟨policy, _, isNext⟩ := Option.bind_eq_some_iff.mp isNext
  rw [← Option.some.inj isNext]

theorem withManager_manager
    {moved : TaskStackManager}
    (isNext : inner.withManager moved = some next) :
    next.manager = moved :=
  congrArg manager (withManager_eq isNext)

/-- Where the task manager has done nothing, neither has the service. -/
theorem withManager_same (inner : ActivityManagerInner) :
    inner.withManager inner.manager = some inner := by
  simp [withManager, ManagedProcesses.deliver]

/-- A new task does not count as a change. -/
theorem OnlyTask.unchanged
    (onlyTask : OnlyTask inner next) :
    Unchanged inner next := by
  rw [onlyTask.same]
  exact ⟨rfl, rfl, fun _ => rfl, fun _ => rfl, rfl, rfl, rfl, rfl, rfl⟩

/-- A counter that has fallen is a change. -/
theorem Unchanged.not_lowersOne
    (unchanged : Unchanged inner next)
    (noneStopped : inner.manager.StoppedOnly none) :
    ¬ LowersOne inner.manager.accounts next.manager.accounts := by
  rintro ⟨app, old, new, isOld, isNew, isLess⟩
  obtain ⟨oldRecord, isOldRecord, rfl⟩ := Option.map_eq_some_iff.mp isOld
  obtain ⟨newRecord, isNewRecord, rfl⟩ := Option.map_eq_some_iff.mp isNew
  have runs : oldRecord.account.isStopped = false := by
    apply decide_eq_false
    intro isStopped
    exact absurd (noneStopped app oldRecord isOldRecord isStopped) nofun
  have sameCount := unchanged.counters app
  rw [isOldRecord, isNewRecord, Option.map_some, Option.map_some,
    Option.some.injEq] at sameCount
  have fewer :
      newRecord.mForegroundActivityCnt <
        oldRecord.mForegroundActivityCnt :=
    isLess runs
  omega

/--
In every reachable state, a request for an activity that fails changes nothing
exactly if it spares the SystemUI.
-/
theorem startActivity_unchanged_iff
    {lines : List LmkRow}
    {arena : Int}
    {now : Nat}
    {lookups : PackageLookups}
    (reachable :
      Reachable step? (fun _ _ => True)
        (ActivityManagerInner.start lines arena now) inner)
    (isResult :
      inner.startActivityByIntent lookups intent caller isOkToLaunch
        spawned = some (next, route))
    (failed : route.isOk = false) :
    Unchanged inner next ↔ inner.sparesSystemUI lookups intent = true := by
  have noneStopped := stoppedOnly_of_reachable reachable
  unfold startActivityByIntent at isResult
  unfold sparesSystemUI
  cases isTarget : lookups.intentToSingleTarget intent with
  | none =>
      rw [isTarget, Option.some.injEq, Prod.mk.injEq] at isResult
      rw [← isResult.1]
      exact iff_of_true (OnlyTask.mk rfl).unchanged rfl
  | some target =>
      obtain ⟨activityName, packageInfo⟩ := target
      rw [isTarget] at isResult
      dsimp only at isResult ⊢
      obtain ⟨⟨middle, found⟩, isMiddle, isResult⟩ :=
        Option.bind_eq_some_iff.mp isResult
      dsimp only at isResult
      cases isSystemUI : packageInfo.isSystemUI with
      | true =>
          rw [isSystemUI, if_pos rfl, Option.some.injEq,
            Prod.mk.injEq] at isResult
          obtain ⟨isNext, isRoute⟩ := isResult
          rw [← isRoute] at failed
          rw [← isNext]
          exact iff_of_true
            (startTarget_failed isMiddle failed).unchanged rfl
      | false =>
          rw [isSystemUI, if_neg Bool.false_ne_true] at isResult
          obtain ⟨left, isLeft, isResult⟩ :=
            Option.bind_eq_some_iff.mp isResult
          obtain ⟨told, isTold, isResult⟩ :=
            Option.bind_eq_some_iff.mp isResult
          rw [Option.some.injEq, Prod.mk.injEq] at isResult
          obtain ⟨isNext, isRoute⟩ := isResult
          rw [← isRoute] at failed
          have onlyTask := startTarget_failed isMiddle failed
          have sameSystemUI : middle.systemUI = inner.systemUI := by
            rw [onlyTask.same]
          have sameManager : middle.manager = inner.manager := by
            rw [onlyTask.same]
          rw [sameSystemUI, sameManager] at isLeft
          rw [isNext] at isTold
          rw [Bool.false_or, List.all_eq_true]
          constructor
          · intro unchanged task isListed
            by_contra notEmpty
            apply unchanged.not_lowersOne noneStopped
            rw [withManager_manager isTold]
            refine
              TaskStackManager.onStartActivity_lowersOne isLeft
                ⟨task, isListed, ?_⟩
            simpa using notEmpty
          · intro allEmpty
            have notTold :
                inner.systemUI.onStartActivity inner.manager =
                  some inner.manager :=
              TaskStackManager.onStartActivity_of_nil
                fun task isListed =>
                  List.isEmpty_iff.mp (allEmpty task isListed)
            rw [notTold] at isLeft
            rw [← Option.some.inj isLeft, ← sameManager,
              withManager_same] at isTold
            rw [← Option.some.inj isTold]
            exact onlyTask.unchanged

/-- A package of the SystemUI with one activity. -/
def statusBarPackage : PackageInfo where
  packageName := "bar"
  entry := "main"
  appType := "NATIVE"
  isSystemUI := true
  priority := .persistent
  activitiesInfo :=
    [{ name := "main", launchMode := "standard", taskAffinity := "bar" }]
  servicesInfo := []

/-- Two packages, and no filters. -/
def musicAndBar : PackageLookups where
  getSingleTargetByAction _ := ""
  getPackageInfo packageName :=
    if packageName = "music" then some musicPackage
    else if packageName = "bar" then some statusBarPackage
    else none

/-- An activity that the package does not have. -/
def unknownTarget : Intent :=
  { plainIntent with mTarget := "music/none" }

/-- The request for it, in a state. -/
def unknownStart
    (inner : ActivityManagerInner) :
    Option (ActivityManagerInner × Route) :=
  inner.startActivityByIntent musicAndBar unknownTarget none true none

/-- A package that is not installed. -/
def unresolvedTarget : Intent :=
  { plainIntent with mTarget := "news/main" }

/-- The status bar is shown beside a running activity. -/
def barAndMusic : Option ActivityManagerInner :=
  run? step? (start [] 0 0)
    [.startActivity "main" musicPackage plainIntent none true (some 12),
      .attachApplication 12 false,
      .startActivity "main" statusBarPackage plainIntent none true (some 11),
      .attachApplication 11 true]

/-- The intent for a package that is not installed spares the status bar. -/
theorem barAndMusic_unchanged_iff :
    (Unchanged (barAndMusic.get rfl)
        (((barAndMusic.get rfl).startActivityByIntent musicAndBar
          unresolvedTarget none true none).get rfl).1 ↔
      (barAndMusic.get rfl).sparesSystemUI musicAndBar unresolvedTarget =
        true) ∧
      (barAndMusic.get rfl).sparesSystemUI musicAndBar unresolvedTarget =
        true ∧
      (Unchanged (barAndMusic.get rfl)
          ((unknownStart (barAndMusic.get rfl)).get rfl).1 ↔
        (barAndMusic.get rfl).sparesSystemUI musicAndBar unknownTarget =
          true) ∧
      (barAndMusic.get rfl).sparesSystemUI musicAndBar unknownTarget =
        false := by
  have accepted : barAndMusic = some (barAndMusic.get rfl) :=
    (Option.some_get _).symm
  have reachable :
      Reachable step? (fun _ _ => True) (start [] 0 0)
        (barAndMusic.get rfl) :=
    Reachable.of_run?
      (StepSystem.allowedRun_of_forall (fun _ _ => trivial) _ _) accepted
  have isUnresolved :
      (barAndMusic.get rfl).startActivityByIntent musicAndBar
          unresolvedTarget none true none =
        some
          ((((barAndMusic.get rfl).startActivityByIntent musicAndBar
            unresolvedTarget none true none).get rfl).1, .rejected) := by
    rfl
  have isUnknown :
      unknownStart (barAndMusic.get rfl) =
        some
          (((unknownStart (barAndMusic.get rfl)).get rfl).1,
            .rejected) := by
    rfl
  exact
    ⟨startActivity_unchanged_iff reachable isUnresolved rfl, by decide,
      startActivity_unchanged_iff reachable isUnknown rfl, by decide⟩

/-- The status bar is shown. -/
def shownBar : Option ActivityManagerInner :=
  run? step? (start [] 0 0)
    [.startActivity "main" statusBarPackage plainIntent none true (some 11),
      .attachApplication 11 true]

/-- The request fails, and yet the status bar leaves the foreground. -/
theorem shownBar_not_unchanged :
    Reachable step? (fun _ _ => True) (start [] 0 0) (shownBar.get rfl) ∧
      ((unknownStart (shownBar.get rfl)).get rfl).2.isOk = false ∧
      ¬ Unchanged (shownBar.get rfl)
        ((unknownStart (shownBar.get rfl)).get rfl).1 := by
  have accepted : shownBar = some (shownBar.get rfl) :=
    (Option.some_get _).symm
  refine ⟨Reachable.of_run? ?_ accepted, rfl, ?_⟩
  · exact StepSystem.allowedRun_of_forall (fun _ _ => trivial) _ _
  · intro unchanged
    have counters := unchanged.counters 0
    revert counters
    decide

end ActivityManagerInner

end ActivityManager
