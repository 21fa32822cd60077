import ActivityManager.ClientProtocol
import ActivityManager.FailedStarts

/-!
# The activities that applications list

An application lists an activity when it launches it, and takes it off again
when the activity ends.  The primitive steps keep the lists exact: they hold
the live activities of the application, once each.  Of an application whose
process is ending nothing is said, since its list is taken away first.
-/

namespace ActivityManager

/-- The activity that a call launches, if it launches one. -/
def Call.launchedToken : Call → Option Nat
  | .scheduleLaunchActivity _ _ token _ => some token
  | _ => none

/-- The activities that some calls launch. -/
def launches (calls : List Call) : List Nat :=
  calls.filterMap Call.launchedToken

/-- A launch is a lifecycle command. -/
theorem launches_eq_nil
    {calls : List Call}
    (noCommand : ∀ call ∈ calls, call.commandToken = none) :
    launches calls = [] := by
  rw [launches, List.filterMap_eq_nil_iff]
  intro call member
  have isOther := noCommand call member
  cases call <;> first | rfl | cases isOther

namespace ActivityRecord

/-- The same activity, which is not new again. -/
structure SameActivity (old new : ActivityRecord) : Prop where
  mToken : new.mToken = old.mToken
  mApp : new.mApp = old.mApp
  begun : new.mStatus = Status.init → old.mStatus = Status.init

theorem SameActivity.refl (record : ActivityRecord) :
    SameActivity record record where
  mToken := rfl
  mApp := rfl
  begun := id

/-- A status that an activity has once it has begun. -/
theorem setStatus_same
    (record : ActivityRecord)
    {status : Status}
    (notInit : status ≠ Status.init) :
    SameActivity record (record.setStatus status) where
  mToken := rfl
  mApp := rfl
  begun isInit := absurd isInit notInit

/-- A command that is no launch leaves the application alone. -/
theorem perform_launches
    {activity : ActivityRecord}
    {app : Option AppRecord}
    {turn : TurnTo}
    {effect : LifecycleEffect}
    (performed : activity.perform turn app = some effect) :
    (effect.app = app ∧ launches effect.calls = []) ∨
      ∃ appRecord,
        app = some appRecord ∧
          appRecord.mStatus ≠ .appStopped ∧
          effect.app = some (appRecord.addActivity activity.mToken) ∧
          launches effect.calls = [activity.mToken] ∧
          activity.mStatus = Status.init ∧
          effect.activity.mStatus = Status.creating := by
  cases turn with
  | none =>
      simp [perform] at performed
  | create =>
      simp only [perform, Option.some.injEq] at performed
      subst effect
      unfold create
      split
      · rename_i wasInit
        cases alive : notStopped app with
        | none =>
            exact Or.inl ⟨rfl, rfl⟩
        | some appRecord =>
            obtain ⟨isApp, notStopped⟩ :=
              Option.filter_eq_some_iff.mp alive
            exact
              Or.inr
                ⟨appRecord, isApp, of_decide_eq_true notStopped, rfl, rfl,
                  wasInit, rfl⟩
      · exact Or.inl ⟨rfl, rfl⟩
  | start =>
      simp only [perform, Option.some.injEq] at performed
      subst effect
      unfold start
      split
      · cases notStopped app <;> exact Or.inl ⟨rfl, rfl⟩
      · exact Or.inl ⟨rfl, rfl⟩
  | resume =>
      simp only [perform, Option.some.injEq] at performed
      subst effect
      unfold resume
      split
      · cases notStopped app <;> exact Or.inl ⟨rfl, rfl⟩
      · exact Or.inl ⟨rfl, rfl⟩
  | pause =>
      simp only [perform, Option.some.injEq] at performed
      subst effect
      unfold pause command
      split
      · cases notStopped app <;> exact Or.inl ⟨rfl, rfl⟩
      · exact Or.inl ⟨rfl, rfl⟩
  | stop =>
      simp only [perform, Option.some.injEq] at performed
      subst effect
      unfold stop command
      split
      · cases notStopped app <;> exact Or.inl ⟨rfl, rfl⟩
      · exact Or.inl ⟨rfl, rfl⟩
  | destroy =>
      simp only [perform, Option.some.injEq] at performed
      subst effect
      unfold destroy command
      split
      · cases notStopped app <;> exact Or.inl ⟨rfl, rfl⟩
      · exact Or.inl ⟨rfl, rfl⟩

/-- A request leaves an activity the same, and not new again. -/
theorem lifecycleTransition?_same
    {activity : ActivityRecord}
    {app : Option AppRecord}
    {toStatus : Status}
    {transition : LifecycleTransition}
    (turned :
      activity.lifecycleTransition? app toStatus = some transition) :
    SameActivity activity transition.activity := by
  obtain ⟨_, sameApp, _⟩ := lifecycleTransition?_frame turned
  refine ⟨(lifecycleTransition?_app turned).1, sameApp, ?_⟩
  intro isInit
  rcases lifecycleTransition?_cases turned with
    ⟨_, isRemembered⟩ | ⟨_, _, isSame⟩ |
      ⟨turn, effect, _, _, performed, isCommand⟩
  · subst isRemembered
    exact isInit
  · subst isSame
    exact isInit
  · subst isCommand
    obtain ⟨_, _, isSame | isTransitional, _⟩ := perform_frame performed
    · exact isSame.symm.trans isInit
    · have isInit : effect.activity.mStatus = Status.init := isInit
      rw [isTransitional] at isInit
      cases turn with
      | none =>
          cases performed
      | _ =>
          exact absurd isInit (by decide)

/-- So it is with a request. -/
theorem lifecycleTransition?_launches
    {activity : ActivityRecord}
    {app : Option AppRecord}
    {toStatus : Status}
    {transition : LifecycleTransition}
    (turned :
      activity.lifecycleTransition? app toStatus = some transition) :
    (transition.app = app ∧ launches transition.calls = []) ∨
      ∃ appRecord,
        app = some appRecord ∧
          appRecord.mStatus ≠ .appStopped ∧
          transition.app =
            some (appRecord.addActivity activity.mToken) ∧
          launches transition.calls = [activity.mToken] ∧
          activity.mStatus = Status.init ∧
          transition.activity.mStatus = Status.creating := by
  rcases lifecycleTransition?_cases turned with
    ⟨_, isRemembered⟩ | ⟨_, _, isSame⟩ |
      ⟨turn, effect, _, _, performed, isCommand⟩
  · subst isRemembered
    exact Or.inl ⟨rfl, rfl⟩
  · subst isSame
    exact Or.inl ⟨rfl, rfl⟩
  · subst isCommand
    rcases perform_launches performed with isSame | launched
    · exact Or.inl isSame
    · exact Or.inr launched

end ActivityRecord

open ActivityRecord (SameActivity)

/-- An application that lists the same activities. -/
structure SameActivities (old new : AppRecord) : Prop where
  mExistActivity : new.mExistActivity = old.mExistActivity
  stopped : old.mStatus = .appStopped → new.mStatus = .appStopped

theorem SameActivities.refl (record : AppRecord) :
    SameActivities record record where
  mExistActivity := rfl
  stopped := id

namespace TaskStackManager

/-- Every activity is the one that it was before. -/
def SameRecords (before after : TaskStackManager) : Prop :=
  ∀ activity,
    Option.Rel SameActivity (before.activities activity)
      (after.activities activity)

/-- An activity has been given its application. -/
def HasHost
    (manager : TaskStackManager)
    (activity : Nat) : Prop :=
  ∃ record app,
    manager.activities activity = some record ∧ record.mApp = some app

/-- The numbers of the records are their own, and those of applications. -/
structure RecordsNumbered (manager : TaskStackManager) : Prop where
  tokens :
    ∀ activity record,
      manager.activities activity = some record →
      record.mToken = activity
  unused :
    ∀ activity,
      manager.nextActivity ≤ activity →
      manager.activities activity = none
  hosts :
    ∀ activity record app,
      manager.activities activity = some record →
      record.mApp = some app →
      app < manager.nextApp

/--
The lists of the applications whose processes are not ending are exact for
some live activities.
-/
structure ActivitiesListed
    (live : List Nat)
    (manager : TaskStackManager) : Prop where
  numbered : RecordsNumbered manager
  fresh :
    ∀ activity record,
      manager.activities activity = some record →
      record.mStatus = Status.init →
      activity ∈ manager.mActivityMap
  launched : ∀ activity ∈ live, manager.HasHost activity
  distinct :
    ∀ app record,
      manager.apps app = some record →
      record.mExistActivity.Nodup
  listed :
    ∀ app record,
      manager.apps app = some record →
      record.mStatus ≠ .appStopped →
      ∀ activity,
        activity ∈ record.mExistActivity ↔
          activity ∈ live ∧ manager.isHostedBy app activity = true
  begun :
    ∀ app record,
      manager.apps app = some record →
      record.mStatus ≠ .appStopped →
      ∀ activity ∈ record.mExistActivity,
        activity ∈ manager.mActivityMap ∧
          ∀ listed,
            manager.activities activity = some listed →
            listed.mStatus ≠ Status.init

/-- The record of one activity changes, and its application is known. -/
theorem RecordsNumbered.setRecord
    {manager : TaskStackManager}
    {activity : Nat}
    {record changed : ActivityRecord}
    (before : manager.RecordsNumbered)
    (isRecord : manager.activities activity = some record)
    (sameToken : changed.mToken = record.mToken)
    (isHosted :
      ∀ app, changed.mApp = some app → app < manager.nextApp) :
    (manager.setRecord activity changed).RecordsNumbered where
  tokens other found isFound := by
    rcases update_some_cases isFound with ⟨isThis, isSet⟩ | ⟨_, isOld⟩
    · rw [isSet, isThis]
      exact sameToken.trans (before.tokens activity record isRecord)
    · exact before.tokens other found isOld
  unused other isLarge := by
    have isNone := before.unused other isLarge
    have notThis : other ≠ activity := by
      intro isThis
      rw [isThis] at isNone
      exact absurd (isNone.symm.trans isRecord) nofun
    exact (Function.update_of_ne notThis _ _).trans isNone
  hosts other found host isFound isHost := by
    rcases update_some_cases isFound with ⟨_, isSet⟩ | ⟨_, isOld⟩
    · rw [isSet] at isHost
      exact isHosted host isHost
    · exact before.hosts other found host isOld isHost

namespace SameRecords

variable {manager next : TaskStackManager} {activity : Nat}

theorem refl (manager : TaskStackManager) :
    SameRecords manager manager := by
  intro activity
  cases manager.activities activity with
  | none =>
      exact .none
  | some record =>
      exact .some (.refl record)

/-- The records do not change. -/
theorem of_eq
    (isSame : next.activities = manager.activities) :
    SameRecords manager next := by
  unfold SameRecords
  rw [isSame]
  exact refl manager

/-- One record changes. -/
theorem change
    {old new : ActivityRecord}
    (isOld : manager.activities activity = some old)
    (isChanged :
      next.activities =
        Function.update manager.activities activity (some new))
    (same : SameActivity old new) :
    SameRecords manager next := by
  intro other
  rw [isChanged]
  by_cases isThis : other = activity
  · rw [isThis, Function.update_self, isOld]
    exact .some same
  · rw [Function.update_of_ne isThis]
    exact refl manager other

/-- A record comes from the one before. -/
theorem exists_before
    {new : ActivityRecord}
    (same : SameRecords manager next)
    (isNew : next.activities activity = some new) :
    ∃ old,
      manager.activities activity = some old ∧ SameActivity old new := by
  have isSame := same activity
  rw [isNew] at isSame
  generalize manager.activities activity = before at isSame
  cases isSame with
  | some isSame =>
      exact ⟨_, rfl, isSame⟩

/-- A record has one that comes after it. -/
theorem exists_after
    {old : ActivityRecord}
    (same : SameRecords manager next)
    (isOld : manager.activities activity = some old) :
    ∃ new,
      next.activities activity = some new ∧ SameActivity old new := by
  have isSame := same activity
  rw [isOld] at isSame
  generalize next.activities activity = after at isSame
  cases isSame with
  | some isSame =>
      exact ⟨_, rfl, isSame⟩

/-- There is none where there was none. -/
theorem eq_none
    (same : SameRecords manager next)
    (isNone : manager.activities activity = none) :
    next.activities activity = none := by
  cases isNew : next.activities activity with
  | none =>
      rfl
  | some new =>
      obtain ⟨old, isOld, _⟩ := same.exists_before isNew
      exact absurd (isNone.symm.trans isOld) nofun

/-- Activities stay where they are hosted. -/
theorem isHostedBy_eq
    (same : SameRecords manager next)
    (app activity : Nat) :
    next.isHostedBy app activity = manager.isHostedBy app activity := by
  unfold isHostedBy
  cases isOld : manager.activities activity with
  | none =>
      rw [same.eq_none isOld]
  | some old =>
      obtain ⟨new, isNew, isSame⟩ := same.exists_after isOld
      rw [isNew, Option.any_some, Option.any_some, isSame.mApp]

theorem hasHost
    (same : SameRecords manager next)
    (hadHost : manager.HasHost activity) :
    next.HasHost activity := by
  obtain ⟨old, app, isOld, isApp⟩ := hadHost
  obtain ⟨new, isNew, isSame⟩ := same.exists_after isOld
  exact ⟨new, app, isNew, isSame.mApp.trans isApp⟩

/-- The numbers stay. -/
theorem numbered
    (same : SameRecords manager next)
    (before : manager.RecordsNumbered)
    (nextActivity : next.nextActivity = manager.nextActivity)
    (nextApp : next.nextApp = manager.nextApp) :
    next.RecordsNumbered where
  tokens activity new isNew := by
    obtain ⟨old, isOld, isSame⟩ := same.exists_before isNew
    exact isSame.mToken.trans (before.tokens activity old isOld)
  unused activity isLarge := by
    rw [nextActivity] at isLarge
    exact same.eq_none (before.unused activity isLarge)
  hosts activity new app isNew isApp := by
    obtain ⟨old, isOld, isSame⟩ := same.exists_before isNew
    rw [nextApp]
    exact before.hosts activity old app isOld (isSame.mApp ▸ isApp)

end SameRecords

/-! ## Steps that change no list -/

/-- No activity begins, ends or changes its application. -/
structure ListingsKept (before after : TaskStackManager) : Prop where
  records : SameRecords before after
  apps : AppsKept SameActivities before.apps after.apps
  mActivityMap : after.mActivityMap = before.mActivityMap
  nextActivity : after.nextActivity = before.nextActivity
  nextApp : after.nextApp = before.nextApp

namespace ListingsKept

variable {manager next : TaskStackManager} {activity : Nat}

/-- Neither records nor applications change. -/
theorem of_eq
    (sameRecords : next.activities = manager.activities)
    (sameApps : next.apps = manager.apps)
    (sameMap : next.mActivityMap = manager.mActivityMap)
    (nextActivity : next.nextActivity = manager.nextActivity)
    (nextApp : next.nextApp = manager.nextApp) :
    ListingsKept manager next where
  records := .of_eq sameRecords
  apps := by
    rw [sameApps]
    exact .refl SameActivities.refl manager.apps
  mActivityMap := sameMap
  nextActivity := nextActivity
  nextApp := nextApp

theorem refl (manager : TaskStackManager) :
    ListingsKept manager manager :=
  .of_eq rfl rfl rfl rfl rfl

/-- The record of one activity changes. -/
theorem setRecord
    {old new : ActivityRecord}
    (isOld : manager.activities activity = some old)
    (same : SameActivity old new) :
    ListingsKept manager (manager.setRecord activity new) where
  records := .change isOld rfl same
  apps := .refl SameActivities.refl manager.apps
  mActivityMap := rfl
  nextActivity := rfl
  nextApp := rfl

/-- The record of one application changes. -/
theorem setApp
    {app : Nat}
    {old new : AppRecord}
    (isOld : manager.apps app = some old)
    (same : SameActivities old new) :
    ListingsKept manager (manager.setApp app new) where
  records := .of_eq rfl
  apps := .update SameActivities.refl isOld same
  mActivityMap := rfl
  nextActivity := rfl
  nextApp := rfl

/-- Something else changes as well. -/
theorem andThen
    {final : TaskStackManager}
    (kept : ListingsKept manager next)
    (sameRecords : final.activities = next.activities)
    (sameApps : final.apps = next.apps)
    (sameMap : final.mActivityMap = next.mActivityMap)
    (nextActivity : final.nextActivity = next.nextActivity)
    (nextApp : final.nextApp = next.nextApp) :
    ListingsKept manager final where
  records := by
    unfold SameRecords
    rw [sameRecords]
    exact kept.records
  apps := sameApps ▸ kept.apps
  mActivityMap := sameMap.trans kept.mActivityMap
  nextActivity := nextActivity.trans kept.nextActivity
  nextApp := nextApp.trans kept.nextApp

end ListingsKept

namespace ActivitiesListed

variable
  {live : List Nat}
  {manager next : TaskStackManager}
  {activity : Nat}

/-- Exact lists stay exact if nothing changes them. -/
theorem kept
    (listed : ActivitiesListed live manager)
    (kept : ListingsKept manager next) :
    ActivitiesListed live next where
  numbered :=
    kept.records.numbered listed.numbered kept.nextActivity kept.nextApp
  fresh activity new isNew isInit := by
    obtain ⟨old, isOld, same⟩ := kept.records.exists_before isNew
    rw [kept.mActivityMap]
    exact listed.fresh activity old isOld (same.begun isInit)
  launched activity isLive :=
    kept.records.hasHost (listed.launched activity isLive)
  distinct app new isNew := by
    obtain ⟨old, isOld, same⟩ := kept.apps.exists_before isNew
    rw [same.mExistActivity]
    exact listed.distinct app old isOld
  listed app new isNew notStopped activity := by
    obtain ⟨old, isOld, same⟩ := kept.apps.exists_before isNew
    rw [same.mExistActivity, kept.records.isHostedBy_eq]
    exact
      listed.listed app old isOld (fun isStopped =>
        notStopped (same.stopped isStopped)) activity
  begun app new isNew notStopped activity isListed := by
    obtain ⟨old, isOld, same⟩ := kept.apps.exists_before isNew
    rw [same.mExistActivity] at isListed
    obtain ⟨isKnown, notInit⟩ :=
      listed.begun app old isOld (fun isStopped =>
        notStopped (same.stopped isStopped)) activity isListed
    rw [kept.mActivityMap]
    refine ⟨isKnown, ?_⟩
    intro record isRecord isInit
    obtain ⟨before, isBefore, sameRecord⟩ :=
      kept.records.exists_before isRecord
    exact notInit before isBefore (sameRecord.begun isInit)

/-- Which activities of processes that are gone are live does not matter. -/
theorem relive
    {others : List Nat}
    (listed : ActivitiesListed live manager)
    (launched : ∀ activity ∈ others, manager.HasHost activity)
    (agrees :
      ∀ app record,
        manager.apps app = some record →
        record.mStatus ≠ .appStopped →
        ∀ activity,
          manager.isHostedBy app activity = true →
          (activity ∈ others ↔ activity ∈ live)) :
    ActivitiesListed others manager :=
  { listed with
    launched := launched
    listed := by
      intro app record isRecord notStopped activity
      rw [listed.listed app record isRecord notStopped activity]
      constructor
      · rintro ⟨isLive, isHosted⟩
        exact
          ⟨(agrees app record isRecord notStopped activity
            isHosted).mpr isLive, isHosted⟩
      · rintro ⟨isLive, isHosted⟩
        exact
          ⟨(agrees app record isRecord notStopped activity
            isHosted).mp isLive, isHosted⟩ }

/-! ## Activities that begin -/

/-- A new activity is in no list yet. -/
theorem createActivity
    (listed : ActivitiesListed live manager)
    (name : String)
    (targetTask : Nat)
    (intent : Intent) :
    ActivitiesListed live
      (manager.createActivity name targetTask intent) := by
  have isNone :=
    listed.numbered.unused manager.nextActivity (Nat.le_refl _)
  have stays :
      ∀ activity record,
        manager.activities activity = some record →
        (manager.createActivity name targetTask intent).activities
            activity = some record := by
    intro activity record isRecord
    have notNew : activity ≠ manager.nextActivity := by
      intro isNew
      rw [isNew, isNone] at isRecord
      cases isRecord
    exact (Function.update_of_ne notNew _ _).trans isRecord
  have sameHosts :
      ∀ app activity,
        (manager.createActivity name targetTask intent).isHostedBy app
            activity = manager.isHostedBy app activity := by
    intro app activity
    unfold isHostedBy TaskStackManager.createActivity setRecord
    dsimp only
    by_cases isNew : activity = manager.nextActivity
    · rw [isNew, Function.update_self, isNone]
      rfl
    · rw [Function.update_of_ne isNew]
  constructor
  · constructor
    · intro activity record isRecord
      rcases update_some_cases isRecord with ⟨isNew, isFresh⟩ | ⟨_, isOld⟩
      · rw [isFresh, isNew]
        rfl
      · exact listed.numbered.tokens activity record isOld
    · intro activity isLarge
      have isLarge : manager.nextActivity + 1 ≤ activity := isLarge
      have notNew : activity ≠ manager.nextActivity := by omega
      exact
        (Function.update_of_ne notNew _ _).trans
          (listed.numbered.unused activity (by omega))
    · intro activity record app isRecord isApp
      rcases update_some_cases isRecord with ⟨_, isFresh⟩ | ⟨_, isOld⟩
      · rw [isFresh] at isApp
        cases isApp
      · exact listed.numbered.hosts activity record app isOld isApp
  · intro activity record isRecord isInit
    rcases update_some_cases isRecord with ⟨isNew, _⟩ | ⟨_, isOld⟩
    · rw [isNew]
      exact List.mem_cons_self
    · exact
        List.mem_cons_of_mem _
          (listed.fresh activity record isOld isInit)
  · intro activity isLive
    obtain ⟨record, app, isRecord, isApp⟩ :=
      listed.launched activity isLive
    exact ⟨record, app, stays activity record isRecord, isApp⟩
  · exact listed.distinct
  · intro app record isRecord notStopped activity
    rw [sameHosts]
    exact listed.listed app record isRecord notStopped activity
  · intro app record isRecord notStopped activity isListed
    obtain ⟨isKnown, notInit⟩ :=
      listed.begun app record isRecord notStopped activity isListed
    refine ⟨List.mem_cons_of_mem _ isKnown, ?_⟩
    intro found isFound
    obtain ⟨isLive, _⟩ :=
      (listed.listed app record isRecord notStopped activity).mp isListed
    obtain ⟨old, _, isOld, _⟩ := listed.launched activity isLive
    rw [stays activity old isOld] at isFound
    exact Option.some.inj isFound ▸ notInit old isOld

/-- An activity that has waited for its application is in no list, either. -/
theorem setAppThread
    {app : Nat}
    {record : ActivityRecord}
    (listed : ActivitiesListed live manager)
    (isRecord : manager.activities activity = some record)
    (noApp : record.mApp = none)
    (isNumber : app < manager.nextApp) :
    ActivitiesListed live
      (manager.setRecord activity { record with mApp := some app }) := by
  have notLive : activity ∉ live := by
    intro isLive
    obtain ⟨found, host, isFound, isApp⟩ :=
      listed.launched activity isLive
    rw [isRecord, Option.some.injEq] at isFound
    rw [← isFound, noApp] at isApp
    cases isApp
  constructor
  · refine listed.numbered.setRecord isRecord rfl ?_
    intro host isHost
    rw [← Option.some.inj isHost]
    exact isNumber
  · intro other found isFound isInit
    rcases update_some_cases isFound with ⟨isThis, isSet⟩ | ⟨_, isOld⟩
    · rw [isSet] at isInit
      rw [isThis]
      exact listed.fresh activity record isRecord isInit
    · exact listed.fresh other found isOld isInit
  · intro other isLive
    obtain ⟨found, host, isFound, isHost⟩ := listed.launched other isLive
    have notThis : other ≠ activity :=
      fun isThis => notLive (isThis ▸ isLive)
    exact
      ⟨found, host, (Function.update_of_ne notThis _ _).trans isFound,
        isHost⟩
  · exact listed.distinct
  · intro host appRecord isApp notStopped other
    rw [listed.listed host appRecord isApp notStopped other]
    by_cases isThis : other = activity
    · rw [isThis]
      exact
        ⟨fun isLive => absurd isLive.1 notLive,
          fun isLive => absurd isLive.1 notLive⟩
    · unfold isHostedBy setRecord
      dsimp only
      rw [Function.update_of_ne isThis]
  · intro host appRecord isApp notStopped other isListed
    obtain ⟨isKnown, notInit⟩ :=
      listed.begun host appRecord isApp notStopped other isListed
    refine ⟨isKnown, ?_⟩
    intro found isFound
    rcases update_some_cases isFound with ⟨isThis, isSet⟩ | ⟨_, isOld⟩
    · rw [isSet]
      rw [isThis] at notInit
      exact notInit record isRecord
    · exact notInit found isOld

/-- An application lists an activity that it launches. -/
theorem launch
    {app : Nat}
    {record changed : ActivityRecord}
    {old : AppRecord}
    (listed : ActivitiesListed live manager)
    (isRecord : manager.activities activity = some record)
    (wasInit : record.mStatus = Status.init)
    (isApp : record.mApp = some app)
    (isOld : manager.apps app = some old)
    (notStopped : old.mStatus ≠ .appStopped)
    (same : SameActivity record changed)
    (notInit : changed.mStatus ≠ Status.init)
    (isChanged :
      next.activities =
        Function.update manager.activities activity (some changed))
    (isAdded :
      next.apps =
        Function.update manager.apps app
          (some (old.addActivity activity)))
    (sameMap : next.mActivityMap = manager.mActivityMap)
    (nextActivity : next.nextActivity = manager.nextActivity)
    (nextApp : next.nextApp = manager.nextApp) :
    ActivitiesListed (live ++ [activity]) next := by
  have records : SameRecords manager next :=
    .change isRecord isChanged same
  have isHosted : manager.isHostedBy app activity = true := by
    unfold isHostedBy
    rw [isRecord]
    exact decide_eq_true isApp
  have notListed : activity ∉ old.mExistActivity := by
    intro isListed
    exact
      (listed.begun app old isOld notStopped activity isListed).2 record
        isRecord wasInit
  constructor
  · exact records.numbered listed.numbered nextActivity nextApp
  · intro other found isFound isInit
    obtain ⟨before, isBefore, isSame⟩ := records.exists_before isFound
    rw [sameMap]
    exact listed.fresh other before isBefore (isSame.begun isInit)
  · intro other isLive
    apply records.hasHost
    rcases List.mem_append.mp isLive with wasLive | isThis
    · exact listed.launched other wasLive
    · rw [List.mem_singleton.mp isThis]
      exact ⟨record, app, isRecord, isApp⟩
  · intro host appRecord isAppRecord
    rw [isAdded] at isAppRecord
    rcases update_some_cases isAppRecord with ⟨_, isNew⟩ | ⟨_, isSame⟩
    · rw [isNew]
      exact
        (listed.distinct app old isOld).append
          (List.nodup_singleton activity)
          (List.disjoint_singleton.mpr notListed)
    · exact listed.distinct host appRecord isSame
  · intro host appRecord isAppRecord staysThere other
    rw [isAdded] at isAppRecord
    rw [records.isHostedBy_eq, List.mem_append, List.mem_singleton]
    rcases update_some_cases isAppRecord with
      ⟨isThis, isNew⟩ | ⟨notThis, isSame⟩
    · rw [isNew, isThis]
      change other ∈ old.mExistActivity ++ [activity] ↔ _
      rw [List.mem_append, List.mem_singleton,
        listed.listed app old isOld notStopped other]
      constructor
      · rintro (⟨isLive, isHere⟩ | isActivity)
        · exact ⟨Or.inl isLive, isHere⟩
        · exact ⟨Or.inr isActivity, isActivity ▸ isHosted⟩
      · rintro ⟨isLive | isActivity, isHere⟩
        · exact Or.inl ⟨isLive, isHere⟩
        · exact Or.inr isActivity
    · rw [listed.listed host appRecord isSame staysThere other]
      constructor
      · rintro ⟨isLive, isHere⟩
        exact ⟨Or.inl isLive, isHere⟩
      · rintro ⟨isLive | isActivity, isHere⟩
        · exact ⟨isLive, isHere⟩
        · rw [isActivity, isHostedBy, isRecord] at isHere
          have isHost : record.mApp = some host :=
            of_decide_eq_true isHere
          rw [isApp, Option.some.injEq] at isHost
          exact absurd isHost.symm notThis
  · intro host appRecord isAppRecord staysThere other isListed
    rw [isAdded] at isAppRecord
    have wasListed :
        other = activity ∨
          ∃ before,
            manager.apps host = some before ∧
              before.mStatus ≠ .appStopped ∧
              other ∈ before.mExistActivity := by
      rcases update_some_cases isAppRecord with
        ⟨isThis, isNew⟩ | ⟨_, isSame⟩
      · rw [isNew] at isListed
        rcases List.mem_append.mp isListed with wasThere | isActivity
        · exact Or.inr ⟨old, isThis ▸ isOld, notStopped, wasThere⟩
        · exact Or.inl (List.mem_singleton.mp isActivity)
      · exact Or.inr ⟨appRecord, isSame, staysThere, isListed⟩
    rw [sameMap, isChanged]
    rcases wasListed with
      isActivity | ⟨before, isBefore, wasOpen, wasThere⟩
    · rw [isActivity]
      refine ⟨listed.fresh activity record isRecord wasInit, ?_⟩
      intro found isFound
      rw [Function.update_self, Option.some.injEq] at isFound
      rw [← isFound]
      exact notInit
    · obtain ⟨isKnown, wasBegun⟩ :=
        listed.begun host before isBefore wasOpen other wasThere
      refine ⟨isKnown, ?_⟩
      intro found isFound
      rcases update_some_cases isFound with
        ⟨_, isNew⟩ | ⟨_, isSame⟩
      · rw [isNew]
        exact notInit
      · exact wasBegun found isSame

/-! ## Activities that end -/

/-- An activity that ends leaves the list of its application. -/
theorem ends
    (listed : ActivitiesListed live manager)
    (records : SameRecords manager next)
    (apps :
      ∀ app new,
        next.apps app = some new →
        ∃ old,
          manager.apps app = some old ∧
            (old.mStatus = .appStopped → new.mStatus = .appStopped) ∧
            new.mExistActivity =
              if manager.isHostedBy app activity then
                swapRemove (· == activity) old.mExistActivity
              else
                old.mExistActivity)
    (staysKnown :
      ∀ other ∈ manager.mActivityMap,
        other ≠ activity → other ∈ next.mActivityMap)
    (hasEnded :
      ∀ record,
        next.activities activity = some record →
        record.mStatus ≠ Status.init)
    (nextActivity : next.nextActivity = manager.nextActivity)
    (nextApp : next.nextApp = manager.nextApp) :
    ActivitiesListed (live.filter (· ≠ activity)) next := by
  have members :
      ∀ app new,
        next.apps app = some new →
        new.mStatus ≠ .appStopped →
        ∃ old,
          manager.apps app = some old ∧
            old.mStatus ≠ .appStopped ∧
            ∀ other,
              other ∈ new.mExistActivity ↔
                other ≠ activity ∧ other ∈ old.mExistActivity := by
    intro app new isNew notStopped
    obtain ⟨old, isOld, stopped, isLeft⟩ := apps app new isNew
    have wasOpen : old.mStatus ≠ .appStopped :=
      fun isStopped => notStopped (stopped isStopped)
    refine ⟨old, isOld, wasOpen, ?_⟩
    intro other
    rw [isLeft]
    split
    · exact mem_swapRemove_iff (listed.distinct app old isOld)
    · rename_i notHosted
      have notListed : activity ∉ old.mExistActivity := by
        intro isListed
        exact
          notHosted
            ((listed.listed app old isOld wasOpen activity).mp
              isListed).2
      exact
        ⟨fun isListed => ⟨fun isThis => notListed (isThis ▸ isListed),
          isListed⟩, And.right⟩
  constructor
  · exact records.numbered listed.numbered nextActivity nextApp
  · intro other found isFound isInit
    have notThis : other ≠ activity := by
      intro isThis
      rw [isThis] at isFound
      exact hasEnded found isFound isInit
    obtain ⟨before, isBefore, isSame⟩ := records.exists_before isFound
    have wasInit := isSame.begun isInit
    exact
      staysKnown other (listed.fresh other before isBefore wasInit) notThis
  · intro other isLive
    exact
      records.hasHost (listed.launched other (List.mem_filter.mp isLive).1)
  · intro app new isNew
    obtain ⟨old, isOld, _, isLeft⟩ := apps app new isNew
    have distinct := listed.distinct app old isOld
    rw [isLeft]
    split
    · exact swapRemove_nodup distinct _
    · exact distinct
  · intro app new isNew notStopped other
    obtain ⟨old, isOld, wasOpen, isMember⟩ :=
      members app new isNew notStopped
    rw [isMember, listed.listed app old isOld wasOpen other,
      records.isHostedBy_eq, List.mem_filter, decide_eq_true_eq]
    exact
      ⟨fun ⟨notThis, isLive, isHosted⟩ => ⟨⟨isLive, notThis⟩, isHosted⟩,
        fun ⟨⟨isLive, notThis⟩, isHosted⟩ =>
          ⟨notThis, isLive, isHosted⟩⟩
  · intro app new isNew notStopped other isListed
    obtain ⟨old, isOld, wasOpen, isMember⟩ :=
      members app new isNew notStopped
    obtain ⟨notThis, wasListed⟩ := (isMember other).mp isListed
    obtain ⟨isKnown, wasBegun⟩ :=
      listed.begun app old isOld wasOpen other wasListed
    refine ⟨staysKnown other isKnown notThis, ?_⟩
    intro found isFound isInit
    obtain ⟨before, isBefore, isSame⟩ := records.exists_before isFound
    exact wasBegun before isBefore (isSame.begun isInit)

end ActivitiesListed

end TaskStackManager

end ActivityManager
