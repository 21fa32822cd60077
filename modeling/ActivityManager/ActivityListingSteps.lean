import ActivityManager.ActivityListings

/-!
# How the lists of activities change

Whatever the task manager does of its own accord only launches activities.
They end with a report, a timeout or the exit of their process, which are
steps of their own.
-/

namespace ActivityManager

open StepSystem (Reachable)

/--
The primitive steps in which no activity begins or ends, and no process
attaches or exits.
-/
def RecordAction.isPlain : RecordAction → Bool
  | .turn _ _ => true
  | .setIntent _ _ => true
  | .restart _ => true
  | .commit _ => true
  | .complete _ _ => true
  | .reportDestroyed _ => true
  | .setForeground _ _ => true
  | .stopApplication _ => true
  | .clockAdvances _ => true
  | .holdTasks _ => true
  | .relist _ => true
  | _ => false

namespace TaskStackManager

/-- Between two states only some new activities were launched. -/
structure Advances
    (before after : TaskStackManager)
    (started : List Nat) : Prop where
  calls :
    ∃ calls,
      after.calls = before.calls ++ calls ∧ launches calls = started
  records : SameRecords before after
  listed :
    ∀ live,
      ActivitiesListed live before →
      ActivitiesListed (live ++ started) after
  wereNew :
    ∀ activity ∈ started,
      ∃ record,
        before.activities activity = some record ∧
          record.mStatus = Status.init
  stopped :
    ∀ app old,
      before.apps app = some old →
      old.mStatus = .appStopped →
      ∃ new, after.apps app = some new ∧ new.mStatus = .appStopped
  nextActivity : after.nextActivity = before.nextActivity
  nextApp : after.nextApp = before.nextApp

variable
  {live started : List Nat}
  {manager next : TaskStackManager}
  {activity : Nat}

namespace SameRecords

theorem trans
    {middle : TaskStackManager}
    (former : SameRecords manager middle)
    (latter : SameRecords middle next) :
    SameRecords manager next := by
  intro activity
  cases isOld : manager.activities activity with
  | none =>
      rw [latter.eq_none (former.eq_none isOld)]
      exact .none
  | some old =>
      obtain ⟨between, isBetween, first⟩ := former.exists_after isOld
      obtain ⟨new, isNew, second⟩ := latter.exists_after isBetween
      rw [isNew]
      exact
        .some
          ⟨second.mToken.trans first.mToken, second.mApp.trans first.mApp,
            fun isInit => first.begun (second.begun isInit)⟩

end SameRecords

namespace Advances

theorem trans
    {middle : TaskStackManager}
    {others : List Nat}
    (former : Advances manager middle started)
    (latter : Advances middle next others) :
    Advances manager next (started ++ others) where
  calls := by
    obtain ⟨first, isFirst, firstStarted⟩ := former.calls
    obtain ⟨second, isSecond, secondStarted⟩ := latter.calls
    refine ⟨first ++ second, ?_, ?_⟩
    · rw [isSecond, isFirst, List.append_assoc]
    · rw [launches, List.filterMap_append]
      exact congrArg₂ _ firstStarted secondStarted
  records := former.records.trans latter.records
  listed live before := by
    rw [← List.append_assoc]
    exact latter.listed _ (former.listed live before)
  wereNew activity member := by
    rcases List.mem_append.mp member with isFirst | isSecond
    · exact former.wereNew activity isFirst
    · obtain ⟨between, isBetween, isInit⟩ :=
        latter.wereNew activity isSecond
      obtain ⟨old, isOld, same⟩ := former.records.exists_before isBetween
      exact ⟨old, isOld, same.begun isInit⟩
  stopped app old isOld isStopped := by
    obtain ⟨between, isBetween, stillStopped⟩ :=
      former.stopped app old isOld isStopped
    exact latter.stopped app between isBetween stillStopped
  nextActivity := latter.nextActivity.trans former.nextActivity
  nextApp := latter.nextApp.trans former.nextApp

/-- Nothing that matters to the lists happens. -/
theorem of_kept
    {calls : List Call}
    (kept : ListingsKept manager next)
    (isNext : next.calls = manager.calls ++ calls)
    (noCommand : ∀ call ∈ calls, call.commandToken = none) :
    Advances manager next [] where
  calls := ⟨calls, isNext, launches_eq_nil noCommand⟩
  records := kept.records
  listed live before := by
    rw [List.append_nil]
    exact before.kept kept
  wereNew _ member := absurd member List.not_mem_nil
  stopped app old isOld isStopped := by
    obtain ⟨new, isNew, same⟩ := kept.apps.exists_after isOld
    exact ⟨new, isNew, same.stopped isStopped⟩
  nextActivity := kept.nextActivity
  nextApp := kept.nextApp

/-- There is no call, either. -/
theorem of_same
    (kept : ListingsKept manager next)
    (sameCalls : next.calls = manager.calls) :
    Advances manager next [] :=
  .of_kept kept (sameCalls.trans (List.append_nil _).symm) nofun

theorem refl (manager : TaskStackManager) :
    Advances manager manager [] :=
  .of_same (.refl manager) rfl

/-- A request launches its activity, or is nothing to the lists. -/
theorem turn
    {toStatus : Status}
    (numbered : manager.RecordsNumbered)
    (isNext : manager.turn activity toStatus = some next) :
    ∃ started, Advances manager next started := by
  obtain ⟨record, transition, turned⟩ := turn_cases isNext
  have isCalls := turn_calls turned isNext
  have same := ActivityRecord.lifecycleTransition?_same turned.turned
  have isToken := numbered.tokens activity record turned.isRecord
  have isApps := turned.apps
  rcases ActivityRecord.lifecycleTransition?_launches turned.turned with
    ⟨sameApp, noLaunch⟩ |
      ⟨old, isOld, notStopped, isListed, isLaunch, wasInit, isCreating⟩
  · have unchanged : next.apps = manager.apps := by
      rw [isApps, sameApp]
      cases isApp : record.mApp with
      | none =>
          rfl
      | some app =>
          rw [Option.bind_some]
          cases isAppRecord : manager.apps app with
          | none =>
              rfl
          | some appRecord =>
              exact Function.update_eq_self_iff.mpr isAppRecord.symm
    have kept : ListingsKept manager next :=
      { records := .change turned.isRecord turned.activities same
        apps := by
          rw [unchanged]
          exact .refl SameActivities.refl manager.apps
        mActivityMap := turned.mActivityMap
        nextActivity := turned.nextNumbers.1
        nextApp := turned.nextNumbers.2 }
    exact
      ⟨[],
        { calls := ⟨transition.calls, isCalls, noLaunch⟩
          records := kept.records
          listed := by
            intro live before
            rw [List.append_nil]
            exact before.kept kept
          wereNew := fun _ member => absurd member List.not_mem_nil
          stopped := by
            intro app old isOld isStopped
            rw [unchanged]
            exact ⟨old, isOld, isStopped⟩
          nextActivity := kept.nextActivity
          nextApp := kept.nextApp }⟩
  · obtain ⟨app, isApp, isOld⟩ := Option.bind_eq_some_iff.mp isOld
    rw [isToken] at isListed isLaunch
    rw [isApp, isListed] at isApps
    dsimp only at isApps
    have notInit : transition.activity.mStatus ≠ Status.init := by
      rw [isCreating]
      decide
    refine
      ⟨[activity],
        { calls := ⟨transition.calls, isCalls, isLaunch⟩
          records := .change turned.isRecord turned.activities same
          listed := ?_
          wereNew := ?_
          stopped := ?_
          nextActivity := turned.nextNumbers.1
          nextApp := turned.nextNumbers.2 }⟩
    · intro live before
      exact
        before.launch turned.isRecord wasInit isApp isOld notStopped same
          notInit turned.activities isApps turned.mActivityMap
          turned.nextNumbers.1 turned.nextNumbers.2
    · intro other member
      rw [List.mem_singleton.mp member]
      exact ⟨record, turned.isRecord, wasInit⟩
    · intro host before isBefore isStopped
      have notThis : host ≠ app := by
        intro isThis
        rw [isThis, isOld, Option.some.injEq] at isBefore
        exact notStopped (isBefore ▸ isStopped)
      rw [isApps, Function.update_of_ne notThis]
      exact ⟨before, isBefore, isStopped⟩

/-- A plain step launches an activity, or is nothing to the lists. -/
theorem of_step
    {action : RecordAction}
    (numbered : manager.RecordsNumbered)
    (isPlain : action.isPlain = true)
    (isNext : manager.recordStep? action = some next) :
    ∃ started, Advances manager next started := by
  cases action with
  | turn activity toStatus =>
      exact turn numbered isNext
  | setIntent activity intent =>
      obtain ⟨record, isRecord, isSet⟩ := setIntent_cases isNext
      rw [isSet]
      exact
        ⟨[], .of_same (.setRecord isRecord ⟨rfl, rfl, id⟩) rfl⟩
  | restart activity =>
      obtain ⟨record, isRecord, isSet⟩ := setStatus_cases isNext
      rw [isSet]
      have same := record.setStatus_same (by decide : Status.paused ≠ 0)
      exact ⟨[], .of_same (.setRecord isRecord same) rfl⟩
  | commit task =>
      obtain ⟨_, isCommitted⟩ := commit_cases isNext
      rw [isCommitted]
      exact ⟨[], .of_same (.of_eq rfl rfl rfl rfl rfl) rfl⟩
  | complete serial task =>
      obtain ⟨_, _, isDone⟩ := complete_cases isNext
      rw [isDone]
      exact ⟨[], .of_same (.of_eq rfl rfl rfl rfl rfl) rfl⟩
  | reportDestroyed token =>
      obtain ⟨_, record, board, isRecord, _, isStarted⟩ :=
        startDestroyed_cases isNext
      rw [isStarted]
      have same :=
        record.setStatus_same (by decide : Status.destroyed ≠ 0)
      have kept := ListingsKept.setRecord isRecord same
      exact
        ⟨[], .of_same (kept.andThen rfl rfl rfl rfl rfl) rfl⟩
  | setForeground app isForeground =>
      obtain ⟨old, isOld, isSet⟩ := Option.map_eq_some_iff.mp isNext
      have same :
          SameActivities old (old.setForeground isForeground).1 := by
        refine ⟨?_, fun isStopped => ?_⟩
        · unfold AppRecord.setForeground
          dsimp only
          split_ifs <;> rfl
        · rw [old.setForeground_mStatus]
          exact isStopped
      rw [← isSet]
      have kept := ListingsKept.setApp isOld same
      exact
        ⟨[], .of_kept (kept.andThen rfl rfl rfl rfl rfl) rfl
          (setForeground_noCommand old isForeground)⟩
  | stopApplication app =>
      obtain ⟨old, isOld, isSet⟩ := Option.map_eq_some_iff.mp isNext
      have same : SameActivities old old.stopApplication.1 := by
        unfold AppRecord.stopApplication
        split
        · rename_i isRunning
          refine ⟨rfl, fun isStopped => ?_⟩
          rw [isRunning] at isStopped
          cases isStopped
        · exact .refl old
      rw [← isSet]
      have kept := ListingsKept.setApp isOld same
      exact
        ⟨[], .of_kept (kept.andThen rfl rfl rfl rfl rfl) rfl
          (stopApplication_noCommand old)⟩
  | clockAdvances ms =>
      rw [← Option.some.inj isNext]
      exact ⟨[], .of_same (.of_eq rfl rfl rfl rfl rfl) rfl⟩
  | holdTasks tasks =>
      rw [← Option.some.inj isNext]
      exact ⟨[], .of_same (.of_eq rfl rfl rfl rfl rfl) rfl⟩
  | relist lists =>
      rw [← Option.some.inj isNext]
      exact ⟨[], .of_same (.of_eq rfl rfl rfl rfl rfl) rfl⟩
  | _ =>
      cases isPlain

/-- So does a run of plain steps. -/
theorem of_moves
    {isPart : TaskStackManager → RecordAction → Prop}
    (numbered : manager.RecordsNumbered)
    (plain :
      ∀ middle action,
        isPart middle action →
        action.isPlain = true)
    (moves : Reachable recordStep? isPart manager next) :
    ∃ started, Advances manager next started := by
  refine moves.invariant ⟨[], .refl manager⟩ ?_
  rintro middle action after ⟨started, advances⟩ isPart stepped
  have middleNumbered :=
    advances.records.numbered numbered advances.nextActivity
      advances.nextApp
  obtain ⟨others, further⟩ :=
    of_step middleNumbered (plain middle action isPart) stepped
  exact ⟨started ++ others, advances.trans further⟩

end Advances

/-- An activity that is not new, if there is one. -/
def HasBegun
    (manager : TaskStackManager)
    (activity : Nat) : Prop :=
  ∀ record,
    manager.activities activity = some record →
    record.mStatus ≠ Status.init

/--
The lists are exact for what was live, and what has been launched since some
state.  Of some activities it is known that they were not launched.
-/
def ListedSince
    (spared live : List Nat)
    (before after : TaskStackManager) : Prop :=
  ∃ calls,
    after.calls = before.calls ++ calls ∧
      (∀ activity ∈ spared,
        activity ∉ launches calls ∧ after.HasBegun activity) ∧
      ActivitiesListed (live ++ launches calls) after

namespace ListedSince

variable {spared : List Nat}

/-- Nothing has been launched yet. -/
theorem start
    {middle : TaskStackManager}
    {calls : List Call}
    (listed : ActivitiesListed live middle)
    (isMiddle : middle.calls = manager.calls ++ calls)
    (noLaunch : launches calls = [])
    (haveBegun : ∀ activity ∈ spared, middle.HasBegun activity) :
    ListedSince spared live manager middle := by
  refine ⟨calls, isMiddle, ?_, ?_⟩
  · rw [noLaunch]
    exact fun activity member =>
      ⟨List.not_mem_nil, haveBegun activity member⟩
  · rw [noLaunch, List.append_nil]
    exact listed

theorem refl
    (listed : ActivitiesListed live manager) :
    ListedSince [] live manager manager :=
  .start listed (List.append_nil _).symm rfl (by simp)

/-- More activities are launched. -/
theorem advance
    {middle : TaskStackManager}
    (since : ListedSince spared live manager middle)
    (advances : Advances middle next started) :
    ListedSince spared live manager next := by
  obtain ⟨calls, isMiddle, notLaunched, listed⟩ := since
  obtain ⟨more, isNext, areStarted⟩ := advances.calls
  have together : launches (calls ++ more) = launches calls ++ started := by
    rw [launches, List.filterMap_append, ← areStarted]
    rfl
  refine ⟨calls ++ more, ?_, ?_, ?_⟩
  · rw [isNext, isMiddle, List.append_assoc]
  · intro activity isSpared
    obtain ⟨notBefore, hadBegun⟩ := notLaunched activity isSpared
    rw [together, List.mem_append, not_or]
    refine ⟨⟨notBefore, ?_⟩, ?_⟩
    · intro isStarted
      obtain ⟨record, isRecord, wasInit⟩ :=
        advances.wereNew activity isStarted
      exact hadBegun record isRecord wasInit
    · intro record isRecord isInit
      obtain ⟨old, isOld, same⟩ := advances.records.exists_before isRecord
      exact hadBegun old isOld (same.begun isInit)
  · rw [together, ← List.append_assoc]
    exact advances.listed _ listed

/-- The operations of the task manager go on from there. -/
theorem moves
    {middle : TaskStackManager}
    {isPart : TaskStackManager → RecordAction → Prop}
    (since : ListedSince spared live manager middle)
    (plain :
      ∀ between action,
        isPart between action →
        action.isPlain = true)
    (moves : Reachable recordStep? isPart middle next) :
    ListedSince spared live manager next := by
  have ⟨_, _, _, listed⟩ := since
  obtain ⟨started, advances⟩ :=
    Advances.of_moves listed.numbered plain moves
  exact since.advance advances

end ListedSince

/-- What the operations do is plain. -/
theorem IsOwn.isPlain
    {action : RecordAction}
    (isOwn : manager.IsOwn action) :
    action.isPlain = true := by
  cases action <;> first | rfl | exact isOwn.elim

/-! ## Activities that end -/

/-- One activity ends, and nothing else. -/
structure Ends
    (before after : TaskStackManager)
    (activity : Nat) : Prop where
  calls :
    ∃ calls,
      after.calls = before.calls ++ calls ∧ launches calls = []
  records : SameRecords before after
  listed :
    ∀ live,
      ActivitiesListed live before →
      ActivitiesListed (live.filter (· ≠ activity)) after
  stopped :
    ∀ app old,
      before.apps app = some old →
      old.mStatus = .appStopped →
      ∃ new, after.apps app = some new ∧ new.mStatus = .appStopped

/-- A process that is asked to stop is no more stopped than before. -/
theorem stopApplication_stopped
    (record : AppRecord) :
    record.mStatus = .appStopped →
      record.stopApplication.1.mStatus = .appStopped := by
  intro isStopped
  have notRunning : record.mStatus ≠ .appRunning := by
    rw [isStopped]
    nofun
  unfold AppRecord.stopApplication
  rw [if_neg notRunning]
  exact isStopped

/-- And lists the same activities. -/
theorem stopApplication_mExistActivity
    (record : AppRecord) :
    record.stopApplication.1.mExistActivity = record.mExistActivity := by
  unfold AppRecord.stopApplication
  split <;> rfl

/-- What is hosted by an application is hosted by no other. -/
theorem isHostedBy_iff_of_mApp
    {record : ActivityRecord}
    {app : Nat}
    (isRecord : manager.activities activity = some record)
    (isApp : record.mApp = some app)
    (host : Nat) :
    manager.isHostedBy host activity = true ↔ host = app := by
  unfold isHostedBy
  rw [isRecord, Option.any_some, decide_eq_true_eq, isApp,
    Option.some.injEq, eq_comm]

/-- `abnormalExit` ends its activity. -/
theorem Ends.abnormalExit
    (isNext : manager.abnormalExit activity = some next) :
    Ends manager next activity := by
  obtain ⟨record, isRecord, ⟨noApp, hasEnded⟩ |
    ⟨app, old, isApp, isOld, hasEnded⟩⟩ := abnormalExit_cases isNext
  · subst hasEnded
    have notInit : Status.destroyed ≠ Status.init := by decide
    have same := record.setStatus_same notInit
    refine
      { calls := ⟨[], (List.append_nil _).symm, rfl⟩
        records := .change isRecord rfl same
        listed := ?_
        stopped := fun app old isOld isStopped => ⟨old, isOld, isStopped⟩ }
    intro live listed
    refine
      listed.ends (.change isRecord rfl same) ?_ (fun _ member _ => member)
        ?_ rfl rfl
    · intro app new isNew
      have notHosted : manager.isHostedBy app activity = false := by
        rw [Bool.eq_false_iff]
        intro isHosted
        unfold isHostedBy at isHosted
        rw [isRecord] at isHosted
        have isApp : record.mApp = some app := of_decide_eq_true isHosted
        rw [isApp] at noApp
        exact absurd (noApp.symm.trans isNew) nofun
      refine ⟨new, isNew, id, ?_⟩
      rw [notHosted]
      rfl
    · intro found isFound
      rcases update_some_cases isFound with ⟨_, isSet⟩ | ⟨notThis, _⟩
      · rw [isSet]
        exact notInit
      · exact absurd rfl notThis
  · subst hasEnded
    have notInit : Status.destroyed ≠ Status.init := by decide
    have same := record.setStatus_same notInit
    refine
      { calls := ?_
        records := .change isRecord rfl same
        listed := ?_
        stopped := ?_ }
    · refine
        ⟨Call.removeWindowToken record.mToken ::
            (old.deleteActivity activity).stopApplication.2, ?_, ?_⟩
      · exact List.append_assoc ..
      · apply launches_eq_nil
        intro call member
        rcases List.mem_cons.mp member with isRemoval | isStop
        · rw [isRemoval]
          rfl
        · exact stopApplication_noCommand _ call isStop
    · intro live listed
      refine
        listed.ends (.change isRecord rfl same) ?_
          (fun _ member _ => member) ?_ rfl rfl
      · intro host new isNew
        have isHost := isHostedBy_iff_of_mApp isRecord isApp host
        have isNew :
            Function.update manager.apps app
                (some (old.deleteActivity activity).stopApplication.1)
                host =
              some new :=
          isNew
        rcases update_some_cases isNew with
          ⟨isThis, isLeft⟩ | ⟨notThis, isSame⟩
        · rw [isThis, isLeft]
          refine
            ⟨old, isOld,
              stopApplication_stopped (old.deleteActivity activity), ?_⟩
          rw [stopApplication_mExistActivity, if_pos]
          · rfl
          · exact isThis ▸ isHost.mpr isThis
        · refine ⟨new, isSame, id, ?_⟩
          rw [if_neg (fun isHosted => notThis (isHost.mp isHosted))]
      · intro found isFound
        rcases update_some_cases isFound with ⟨_, isSet⟩ | ⟨notThis, _⟩
        · rw [isSet]
          exact notInit
        · exact absurd rfl notThis
    · intro host before isBefore isStopped
      by_cases isThis : host = app
      · rw [isThis, isOld, Option.some.injEq] at isBefore
        subst isBefore
        rw [isThis]
        exact
          ⟨(old.deleteActivity activity).stopApplication.1,
            Function.update_self _ _ _,
            stopApplication_stopped _ isStopped⟩
      · refine ⟨before, ?_, isStopped⟩
        exact (Function.update_of_ne isThis _ _).trans isBefore

/-- The end of a report that an activity is destroyed. -/
theorem ActivitiesListed.activityGone
    (listed : ActivitiesListed live manager)
    (hasEnded :
      ∀ record,
        manager.activities activity = some record →
        record.mStatus ≠ Status.init) :
    ActivitiesListed (live.filter (· ≠ activity))
      (manager.activityGone activity) := by
  obtain ⟨sameRecords, _, sameMap⟩ := leaveApp_frame manager activity
  refine
    listed.ends (.of_eq sameRecords) ?_ ?_ ?_
      (leaveApp_nextActivity manager activity)
      (SameApps.leaveApp manager activity).nextApp
  · intro host new isNew
    have isNew : (manager.leaveApp activity).apps host = some new := isNew
    rcases leaveApp_cases manager activity with
      ⟨noApp, left⟩ | ⟨app, old, isApp, leaves⟩
    · rw [left] at isNew
      refine ⟨new, isNew, id, ?_⟩
      rw [if_neg]
      intro isHosted
      unfold isHostedBy at isHosted
      obtain ⟨record, isRecord, isHost⟩ :=
        (Option.any_eq_true _ _).mp isHosted
      have isHost : record.mApp = some host := of_decide_eq_true isHost
      simp [getAppRecord, isRecord, isHost, isNew] at noApp
    · obtain ⟨record, isRecord, isApp⟩ := Option.bind_eq_some_iff.mp isApp
      obtain ⟨_, isHost, isApp⟩ := Option.bind_eq_some_iff.mp isApp
      obtain ⟨_, isOld, isPair⟩ := Option.bind_eq_some_iff.mp isApp
      cases isPair
      have isHosted := isHostedBy_iff_of_mApp isRecord isHost host
      have isChanged :
          ∃ changed,
            (manager.leaveApp activity).apps =
                Function.update manager.apps app (some changed) ∧
              (old.mStatus = .appStopped →
                changed.mStatus = .appStopped) ∧
              changed.mExistActivity =
                (old.deleteActivity activity).mExistActivity := by
        rcases leaves with ⟨_, left⟩ | ⟨_, left⟩
        · rw [left]
          exact ⟨_, rfl, id, rfl⟩
        · rw [left]
          exact
            ⟨_, rfl, stopApplication_stopped (old.deleteActivity activity),
              stopApplication_mExistActivity _⟩
      obtain ⟨changed, isUpdate, stopped, isLeft⟩ := isChanged
      rw [isUpdate] at isNew
      rcases update_some_cases isNew with
        ⟨isThis, isSet⟩ | ⟨notThis, isSame⟩
      · rw [isThis, isSet]
        refine ⟨old, isOld, stopped, ?_⟩
        rw [isLeft, if_pos]
        · rfl
        · exact isThis ▸ isHosted.mpr isThis
      · refine ⟨new, isSame, id, ?_⟩
        rw [if_neg (fun isHere => notThis (isHosted.mp isHere))]
  · intro other member notThis
    change other ∈ (manager.leaveApp activity).mActivityMap.erase activity
    rw [sameMap]
    exact (List.mem_erase_of_ne notThis).mpr member
  · intro record isRecord
    have isRecord :
        (manager.leaveApp activity).activities activity = some record :=
      isRecord
    rw [sameRecords] at isRecord
    exact hasEnded record isRecord

end TaskStackManager

end ActivityManager
