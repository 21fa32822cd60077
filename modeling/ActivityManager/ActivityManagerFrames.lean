import ActivityManager.ActivityManagerMachine
import ActivityManager.ForegroundCounting
import ActivityManager.TaskManagerParts

/-!
# What the operations leave alone

Most of what happens to the service happens to the records of activities.  It
keeps the processes, the services and the attach tasks: every application
record stays that of its process, with the services it lists, and an
application that is not running does not run again.
-/

namespace ActivityManager

open StepSystem (Reachable)

/-! ## Application records -/

/-- The record of the same process, which may have been stopped. -/
structure SameProcess (before after : AppRecord) : Prop where
  mPackageName : after.mPackageName = before.mPackageName
  mIsSystemUI : after.mIsSystemUI = before.mIsSystemUI
  mPid : after.mPid = before.mPid
  running :
    after.mStatus = .appRunning →
    before.mStatus = .appRunning

/-- The same process with the same services. -/
structure SameApp (before after : AppRecord) : Prop
    extends SameProcess before after where
  mExistService : after.mExistService = before.mExistService

/-- None comes or goes, and every record stays related to itself. -/
structure AppsKept
    (related : AppRecord → AppRecord → Prop)
    (before after : Nat → Option AppRecord) : Prop where
  isSome_eq : ∀ app, (after app).isSome = (before app).isSome
  isRelated :
    ∀ app old new,
      before app = some old →
      after app = some new →
      related old new

theorem SameProcess.refl (record : AppRecord) :
    SameProcess record record where
  mPackageName := rfl
  mIsSystemUI := rfl
  mPid := rfl
  running := id

theorem SameProcess.trans
    {first second third : AppRecord}
    (former : SameProcess first second)
    (latter : SameProcess second third) :
    SameProcess first third where
  mPackageName := latter.mPackageName.trans former.mPackageName
  mIsSystemUI := latter.mIsSystemUI.trans former.mIsSystemUI
  mPid := latter.mPid.trans former.mPid
  running isRunning := former.running (latter.running isRunning)

theorem SameApp.refl (record : AppRecord) :
    SameApp record record where
  toSameProcess := .refl record
  mExistService := rfl

theorem SameApp.trans
    {first second third : AppRecord}
    (former : SameApp first second)
    (latter : SameApp second third) :
    SameApp first third where
  toSameProcess := former.toSameProcess.trans latter.toSameProcess
  mExistService := latter.mExistService.trans former.mExistService

namespace AppRecord

/-! What activities do to a record. -/

theorem addActivity_sameApp
    (record : AppRecord)
    (activity : Nat) :
    SameApp record (record.addActivity activity) where
  mPackageName := rfl
  mIsSystemUI := rfl
  mPid := rfl
  running := id
  mExistService := rfl

theorem deleteActivity_sameApp
    (record : AppRecord)
    (activity : Nat) :
    SameApp record (record.deleteActivity activity) where
  mPackageName := rfl
  mIsSystemUI := rfl
  mPid := rfl
  running := id
  mExistService := rfl

theorem stopApplication_sameApp (record : AppRecord) :
    SameApp record record.stopApplication.1 := by
  unfold stopApplication
  split
  · exact ⟨⟨rfl, rfl, rfl, nofun⟩, rfl⟩
  · exact .refl record

theorem setForeground_sameApp
    (record : AppRecord)
    (isForeground : Bool) :
    SameApp record (record.setForeground isForeground).1 := by
  have sameStatus := record.setForeground_mStatus isForeground
  refine ⟨⟨?_, ?_, record.setForeground_mPid isForeground, ?_⟩, ?_⟩
  · unfold setForeground
    dsimp only
    split_ifs <;> rfl
  · unfold setForeground
    dsimp only
    split_ifs <;> rfl
  · rw [sameStatus]
    exact id
  · unfold setForeground
    dsimp only
    split_ifs <;> rfl

end AppRecord

namespace AppsKept

variable
  {related : AppRecord → AppRecord → Prop}
  {first second third : Nat → Option AppRecord}
  {app : Nat}
  {old new : AppRecord}

theorem refl
    (isRefl : ∀ record, related record record)
    (apps : Nat → Option AppRecord) :
    AppsKept related apps apps where
  isSome_eq _ := rfl
  isRelated app old new isOld isNew := by
    rw [isOld] at isNew
    rw [← Option.some.inj isNew]
    exact isRefl old

/-- A record comes from the one before. -/
theorem exists_before
    (kept : AppsKept related first second)
    (isNew : second app = some new) :
    ∃ old, first app = some old ∧ related old new := by
  have known := kept.isSome_eq app
  rw [isNew] at known
  obtain ⟨old, isOld⟩ := Option.isSome_iff_exists.mp known.symm
  exact ⟨old, isOld, kept.isRelated app old new isOld isNew⟩

/-- A record has one that comes after it. -/
theorem exists_after
    (kept : AppsKept related first second)
    (isOld : first app = some old) :
    ∃ new, second app = some new ∧ related old new := by
  have known := kept.isSome_eq app
  rw [isOld] at known
  obtain ⟨new, isNew⟩ := Option.isSome_iff_exists.mp known
  exact ⟨new, isNew, kept.isRelated app old new isOld isNew⟩

/-- What related records have in common. -/
theorem map_eq
    {α : Type}
    {field : AppRecord → α}
    (kept : AppsKept related first second)
    (sameField : ∀ old new, related old new → field new = field old)
    (app : Nat) :
    (second app).map field = (first app).map field := by
  cases isNew : second app with
  | none =>
      have known := kept.isSome_eq app
      rw [isNew] at known
      cases isOld : first app with
      | none =>
          rfl
      | some old =>
          rw [isOld] at known
          cases known
  | some new =>
      obtain ⟨old, isOld, isRelated⟩ := kept.exists_before isNew
      rw [isOld, Option.map_some, Option.map_some,
        sameField old new isRelated]

theorem trans
    (isTrans :
      ∀ first second third,
        related first second →
        related second third →
        related first third)
    (former : AppsKept related first second)
    (latter : AppsKept related second third) :
    AppsKept related first third where
  isSome_eq app := (latter.isSome_eq app).trans (former.isSome_eq app)
  isRelated app old new isOld isNew := by
    obtain ⟨middle, isMiddle, toMiddle⟩ := former.exists_after isOld
    exact
      isTrans old middle new toMiddle
        (latter.isRelated app middle new isMiddle isNew)

theorem mono
    {weaker : AppRecord → AppRecord → Prop}
    (kept : AppsKept related first second)
    (implies : ∀ old new, related old new → weaker old new) :
    AppsKept weaker first second where
  isSome_eq := kept.isSome_eq
  isRelated app old new isOld isNew :=
    implies old new (kept.isRelated app old new isOld isNew)

/-- One record changes. -/
theorem update
    (isRefl : ∀ record, related record record)
    (isOld : first app = some old)
    (isRelated : related old new) :
    AppsKept related first (Function.update first app (some new)) := by
  constructor
  · intro other
    by_cases isApp : other = app
    · rw [isApp, Function.update_self, isOld]
      rfl
    · rw [Function.update_of_ne isApp]
  · intro other before after isBefore isAfter
    by_cases isApp : other = app
    · rw [isApp, Function.update_self] at isAfter
      rw [isApp, isOld] at isBefore
      rw [← Option.some.inj isBefore, ← Option.some.inj isAfter]
      exact isRelated
    · rw [Function.update_of_ne isApp, isBefore] at isAfter
      rw [← Option.some.inj isAfter]
      exact isRefl before

end AppsKept

/-- What an updated entry is, and where the others come from. -/
theorem update_some_cases
    {Value : Type}
    {entries : Nat → Option Value}
    {key other : Nat}
    {value found : Value}
    (isFound :
      Function.update entries key (some value) other = some found) :
    (other = key ∧ found = value) ∨
      (other ≠ key ∧ entries other = some found) := by
  by_cases isKey : other = key
  · rw [isKey, Function.update_self, Option.some.injEq] at isFound
    exact Or.inl ⟨isKey, isFound.symm⟩
  · rw [Function.update_of_ne isKey] at isFound
    exact Or.inr ⟨isKey, isFound⟩

/-! ## Records of activities -/

namespace ActivityRecord

/-- The application lists an activity that it is asked to create. -/
structure Lists
    (activity : ActivityRecord)
    (app newApp : Option AppRecord)
    (new : ActivityRecord) : Prop where
  wasInit : activity.mStatus = Status.init
  isCreating : new.mStatus = Status.creating
  listed :
    ∃ appRecord,
      app = some appRecord ∧
        newApp = some (appRecord.addActivity activity.mToken)

/-- What a command does to the application. -/
theorem perform_app
    {activity : ActivityRecord}
    {app : Option AppRecord}
    {turn : TurnTo}
    {effect : LifecycleEffect}
    (performed : activity.perform turn app = some effect) :
    effect.activity.mToken = activity.mToken ∧
      (effect.app = app ∨
        activity.Lists app effect.app effect.activity) := by
  cases turn with
  | none =>
      simp [perform] at performed
  | create =>
      simp only [perform, Option.some.injEq] at performed
      subst effect
      unfold create
      split
      · rename_i wasInit
        cases alive : notStopped app with
        | none =>
            exact ⟨rfl, Or.inl rfl⟩
        | some appRecord =>
            have isApp := (Option.filter_eq_some_iff.mp alive).1
            exact
              ⟨rfl, Or.inr ⟨wasInit, rfl, appRecord, isApp, rfl⟩⟩
      · exact ⟨rfl, Or.inl rfl⟩
  | start =>
      simp only [perform, Option.some.injEq] at performed
      subst effect
      unfold start
      split
      · cases notStopped app <;> exact ⟨rfl, Or.inl rfl⟩
      · exact ⟨rfl, Or.inl rfl⟩
  | resume =>
      simp only [perform, Option.some.injEq] at performed
      subst effect
      unfold resume
      split
      · cases notStopped app <;> exact ⟨rfl, Or.inl rfl⟩
      · exact ⟨rfl, Or.inl rfl⟩
  | pause =>
      simp only [perform, Option.some.injEq] at performed
      subst effect
      unfold pause command
      split <;> exact ⟨rfl, Or.inl rfl⟩
  | stop =>
      simp only [perform, Option.some.injEq] at performed
      subst effect
      unfold stop command
      split <;> exact ⟨rfl, Or.inl rfl⟩
  | destroy =>
      simp only [perform, Option.some.injEq] at performed
      subst effect
      unfold destroy command
      split <;> exact ⟨rfl, Or.inl rfl⟩

/-- What a request does to the application. -/
theorem lifecycleTransition?_app
    {activity : ActivityRecord}
    {app : Option AppRecord}
    {toStatus : Status}
    {transition : LifecycleTransition}
    (turned :
      activity.lifecycleTransition? app toStatus = some transition) :
    transition.activity.mToken = activity.mToken ∧
      (transition.app = app ∨
        activity.Lists app transition.app transition.activity) := by
  rcases lifecycleTransition?_cases turned with
    ⟨_, isRemembered⟩ | ⟨_, _, isSame⟩ |
      ⟨turn, effect, _, _, performed, isCommand⟩
  · subst isRemembered
    exact ⟨rfl, Or.inl rfl⟩
  · subst isSame
    exact ⟨rfl, Or.inl rfl⟩
  · subst isCommand
    obtain ⟨sameToken, isSame | lists⟩ := perform_app performed
    · exact ⟨sameToken, Or.inl isSame⟩
    · exact
        ⟨sameToken,
          Or.inr ⟨lists.wasInit, lists.isCreating, lists.listed⟩⟩

end ActivityRecord

/-- The steps that bring an application record, or take one away. -/
def RecordAction.changesApps : RecordAction → Bool
  | .attachApplication _ _ _ => true
  | .deleteAppInfo _ => true
  | _ => false

namespace TaskStackManager

/-- The application records stay those of their processes. -/
structure SameApps (before after : TaskStackManager) : Prop where
  apps : AppsKept SameApp before.apps after.apps
  nextApp : after.nextApp = before.nextApp

variable {manager next : TaskStackManager}

/-- `turn` lists its activity in an application, or changes none. -/
theorem turn_apps
    {activity : Nat}
    {toStatus : Status}
    (isNext : manager.turn activity toStatus = some next) :
    next.apps = manager.apps ∨
      ∃ app old listed,
        manager.apps app = some old ∧
          next.apps =
            Function.update manager.apps app
              (some (old.addActivity listed)) := by
  obtain ⟨record, transition, turned⟩ := turn_cases isNext
  have changed := turned.apps
  cases inApp : record.mApp with
  | none =>
      rw [inApp] at changed
      exact .inl changed
  | some app =>
      rw [inApp] at changed
      cases isApp : transition.app with
      | none =>
          rw [isApp] at changed
          exact .inl changed
      | some new =>
          rw [isApp] at changed
          obtain ⟨_, isSame | lists⟩ :=
            ActivityRecord.lifecycleTransition?_app turned.turned
          · rw [isApp, inApp] at isSame
            have unchanged :
                Function.update manager.apps app (some new) =
                  manager.apps :=
              Function.update_eq_self_iff.mpr isSame
            exact .inl (changed.trans unchanged)
          · obtain ⟨old, isOld, isNew⟩ := lists.listed
            rw [isApp, Option.some.injEq] at isNew
            rw [inApp] at isOld
            subst isNew
            exact .inr ⟨app, old, _, isOld, changed⟩

namespace SameApps

theorem refl (manager : TaskStackManager) :
    SameApps manager manager where
  apps := .refl SameApp.refl manager.apps
  nextApp := rfl

theorem trans
    {middle : TaskStackManager}
    (former : SameApps manager middle)
    (latter : SameApps middle next) :
    SameApps manager next where
  apps :=
    former.apps.trans (fun _ _ _ => SameApp.trans) latter.apps
  nextApp := latter.nextApp.trans former.nextApp

/-- The applications do not change. -/
theorem of_eq
    (sameApps : next.apps = manager.apps)
    (sameNumber : next.nextApp = manager.nextApp) :
    SameApps manager next where
  apps := by
    rw [sameApps]
    exact .refl SameApp.refl manager.apps
  nextApp := sameNumber

/-- One record changes. -/
theorem change
    {app : Nat}
    {old new : AppRecord}
    (isOld : manager.apps app = some old)
    (same : SameApp old new)
    (isChanged :
      next.apps = Function.update manager.apps app (some new))
    (sameNumber : next.nextApp = manager.nextApp) :
    SameApps manager next where
  apps := by
    rw [isChanged]
    exact .update SameApp.refl isOld same
  nextApp := sameNumber

theorem turn
    {activity : Nat}
    {toStatus : Status}
    (isNext : manager.turn activity toStatus = some next) :
    SameApps manager next := by
  obtain ⟨_, _, turned⟩ := turn_cases isNext
  have sameNumber := turned.nextNumbers.2
  rcases turn_apps isNext with isSame | ⟨app, old, listed, isOld, changed⟩
  · exact .of_eq isSame sameNumber
  · exact .change isOld (old.addActivity_sameApp listed) changed sameNumber

theorem abnormalExit
    {activity : Nat}
    (isNext : manager.abnormalExit activity = some next) :
    SameApps manager next := by
  obtain ⟨record, _, ⟨_, hasEnded⟩ | ⟨app, old, _, isOld, hasEnded⟩⟩ :=
    abnormalExit_cases isNext
  · subst hasEnded
    exact .of_eq rfl rfl
  · subst hasEnded
    have same :=
      (old.deleteActivity_sameApp activity).trans
        (old.deleteActivity activity).stopApplication_sameApp
    exact .change isOld same rfl rfl

/-- An activity leaves its application. -/
theorem leaveApp
    (manager : TaskStackManager)
    (token : Nat) :
    SameApps manager (manager.leaveApp token) := by
  rcases leaveApp_cases manager token with
    ⟨_, left⟩ | ⟨app, old, isApp, ⟨_, left⟩ | ⟨_, left⟩⟩
  · rw [left]
    exact .refl manager
  · obtain ⟨record, _, isApp⟩ := Option.bind_eq_some_iff.mp isApp
    obtain ⟨_, _, isApp⟩ := Option.bind_eq_some_iff.mp isApp
    obtain ⟨_, isOld, isPair⟩ := Option.bind_eq_some_iff.mp isApp
    cases isPair
    rw [left]
    exact .change isOld (old.deleteActivity_sameApp token) rfl rfl
  · obtain ⟨record, _, isApp⟩ := Option.bind_eq_some_iff.mp isApp
    obtain ⟨_, _, isApp⟩ := Option.bind_eq_some_iff.mp isApp
    obtain ⟨_, isOld, isPair⟩ := Option.bind_eq_some_iff.mp isApp
    cases isPair
    rw [left]
    have same :=
      (old.deleteActivity_sameApp token).trans
        (old.deleteActivity token).stopApplication_sameApp
    exact .change isOld same rfl rfl

/-- A primitive step, if it neither brings a record nor takes one. -/
theorem recordStep
    {action : RecordAction}
    (isNext : manager.recordStep? action = some next)
    (keeps : action.changesApps = false) :
    SameApps manager next := by
  cases action with
  | createActivity name targetTask intent =>
      rw [← Option.some.inj isNext]
      exact .of_eq rfl rfl
  | setAppThread activity app =>
      obtain ⟨_, _, isSet⟩ := setAppThread_cases isNext
      subst isSet
      exact .of_eq rfl rfl
  | turn activity toStatus =>
      exact .turn isNext
  | setIntent activity intent =>
      obtain ⟨_, _, isSet⟩ := setIntent_cases isNext
      subst isSet
      exact .of_eq rfl rfl
  | restart activity =>
      obtain ⟨_, _, isSet⟩ := setStatus_cases isNext
      subst isSet
      exact .of_eq rfl rfl
  | commit task =>
      obtain ⟨_, isCommitted⟩ := commit_cases isNext
      rw [isCommitted]
      exact .of_eq rfl rfl
  | complete serial task =>
      obtain ⟨_, _, isDone⟩ := complete_cases isNext
      subst isDone
      exact .of_eq rfl rfl
  | statusReport token status =>
      rcases statusReport_cases isNext with
        isSame | ⟨_, _, _, _, _, isStored⟩
      · rw [isSame]
        exact .refl manager
      · subst isStored
        exact .of_eq rfl rfl
  | giveUp serial activity =>
      obtain ⟨_, _, _, ⟨_, isDone⟩ | ⟨_, exited⟩⟩ := giveUp_cases isNext
      · subst isDone
        exact .of_eq rfl rfl
      · have done : SameApps manager (manager.done serial) :=
          .of_eq rfl rfl
        exact done.trans (.abnormalExit exited)
  | abnormalExit activity =>
      exact .abnormalExit isNext
  | reportDestroyed token =>
      obtain ⟨_, _, _, _, _, isStarted⟩ := startDestroyed_cases isNext
      subst isStarted
      exact .of_eq rfl rfl
  | activityGone token =>
      rw [← Option.some.inj isNext]
      exact (leaveApp manager token).trans (.of_eq rfl rfl)
  | setForeground app isForeground =>
      obtain ⟨old, isOld, isSet⟩ := Option.map_eq_some_iff.mp isNext
      subst isSet
      exact .change isOld (old.setForeground_sameApp isForeground) rfl rfl
  | stopApplication app =>
      obtain ⟨old, isOld, isSet⟩ := Option.map_eq_some_iff.mp isNext
      subst isSet
      exact .change isOld old.stopApplication_sameApp rfl rfl
  | markStopped app =>
      obtain ⟨old, isOld, isSet⟩ := Option.map_eq_some_iff.mp isNext
      subst isSet
      have same :
          SameApp old
            { old with mStatus := .appStopped, mExistActivity := [] } :=
        ⟨⟨rfl, rfl, rfl, fun isRunning => by cases isRunning⟩, rfl⟩
      exact .change isOld same rfl rfl
  | forget token =>
      rw [← Option.some.inj isNext]
      exact .of_eq rfl rfl
  | attachApplication packageName systemui pid =>
      cases keeps
  | deleteAppInfo app =>
      cases keeps
  | clockAdvances ms =>
      rw [← Option.some.inj isNext]
      exact .of_eq rfl rfl
  | holdTasks tasks =>
      rw [← Option.some.inj isNext]
      exact .of_eq rfl rfl
  | relist lists =>
      rw [← Option.some.inj isNext]
      exact .of_eq rfl rfl

/-- A run of such steps. -/
theorem of_reachable
    {isPart : TaskStackManager → RecordAction → Prop}
    (keeps :
      ∀ middle action,
        isPart middle action →
        action.changesApps = false)
    (moves : Reachable recordStep? isPart manager next) :
    SameApps manager next := by
  refine moves.invariant (.refl manager) ?_
  intro middle action after same isPart isNext
  exact same.trans (.recordStep isNext (keeps middle action isPart))

end SameApps

/-! ## Hosts of activities -/

/-- Leaving an application creates no activity. -/
theorem leaveApp_nextActivity
    (manager : TaskStackManager)
    (token : Nat) :
    (manager.leaveApp token).nextActivity = manager.nextActivity := by
  rcases leaveApp_cases manager token with
    ⟨_, left⟩ | ⟨_, _, _, ⟨_, left⟩ | ⟨_, left⟩⟩
  · rw [left]
  · rw [left]
    rfl
  · rw [left]
    rfl

/-- Activities may be forgotten, but keep their applications. -/
structure SameHosts (before after : TaskStackManager) : Prop where
  mApp :
    ∀ token,
      (after.activities token).map ActivityRecord.mApp =
        (before.activities token).map ActivityRecord.mApp
  mActivityMap : after.mActivityMap.Sublist before.mActivityMap
  nextActivity : after.nextActivity = before.nextActivity

namespace SameHosts

theorem refl (manager : TaskStackManager) :
    SameHosts manager manager where
  mApp _ := rfl
  mActivityMap := .refl _
  nextActivity := rfl

theorem trans
    {middle : TaskStackManager}
    (former : SameHosts manager middle)
    (latter : SameHosts middle next) :
    SameHosts manager next where
  mApp token := (latter.mApp token).trans (former.mApp token)
  mActivityMap := latter.mActivityMap.trans former.mActivityMap
  nextActivity := latter.nextActivity.trans former.nextActivity

/-- The records do not change. -/
theorem of_eq
    (sameRecords : next.activities = manager.activities)
    (sameMap : next.mActivityMap.Sublist manager.mActivityMap)
    (sameNumber : next.nextActivity = manager.nextActivity) :
    SameHosts manager next where
  mApp _ := by
    rw [sameRecords]
  mActivityMap := sameMap
  nextActivity := sameNumber

/-- One record changes, and keeps its application. -/
theorem change
    {activity : Nat}
    {old new : ActivityRecord}
    (isOld : manager.activities activity = some old)
    (isChanged :
      next.activities =
        Function.update manager.activities activity (some new))
    (sameApp : new.mApp = old.mApp)
    (sameMap : next.mActivityMap = manager.mActivityMap)
    (sameNumber : next.nextActivity = manager.nextActivity) :
    SameHosts manager next where
  mApp token := by
    rw [isChanged]
    by_cases isActivity : token = activity
    · rw [isActivity, Function.update_self, isOld, Option.map_some,
        Option.map_some, sameApp]
    · rw [Function.update_of_ne isActivity]
  mActivityMap := by
    rw [sameMap]
  nextActivity := sameNumber

theorem abnormalExit
    {activity : Nat}
    (isNext : manager.abnormalExit activity = some next) :
    SameHosts manager next := by
  obtain ⟨record, isRecord, ⟨_, hasEnded⟩ | ⟨_, _, _, _, hasEnded⟩⟩ :=
    abnormalExit_cases isNext
  · subst hasEnded
    exact .change isRecord rfl rfl rfl rfl
  · subst hasEnded
    exact .change isRecord rfl rfl rfl rfl

end SameHosts

end TaskStackManager

end ActivityManager
