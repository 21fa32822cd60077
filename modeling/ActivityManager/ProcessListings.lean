import ActivityManager.LiveActivities

/-!
# The lists of processes that come and go

A process that attaches lists no activity.  One that exits is marked first, so
that nothing is launched in it any more; then its activities end, and are
deleted and forgotten one by one.
-/

namespace ActivityManager

namespace TaskStackManager

variable
  {live : List Nat}
  {manager next : TaskStackManager}
  {app : Nat}
  {record : AppRecord}

namespace ActivitiesListed

/-- Only applications come, go, or change what does not matter here. -/
theorem reapp
    (listed : ActivitiesListed live manager)
    (sameRecords : next.activities = manager.activities)
    (sameMap : next.mActivityMap = manager.mActivityMap)
    (nextActivity : next.nextActivity = manager.nextActivity)
    (nextApp : manager.nextApp ≤ next.nextApp)
    (apps :
      ∀ app new,
        next.apps app = some new →
        (∃ old,
          manager.apps app = some old ∧ SameActivities old new) ∨
          new.mExistActivity = [] ∧
            (new.mStatus = .appStopped ∨
              ∀ activity, manager.isHostedBy app activity = false)) :
    ActivitiesListed live next := by
  have sameHosts :
      ∀ app activity,
        next.isHostedBy app activity = manager.isHostedBy app activity :=
    (SameRecords.of_eq sameRecords).isHostedBy_eq
  constructor
  · constructor
    · rw [sameRecords]
      exact listed.numbered.tokens
    · rw [sameRecords, nextActivity]
      exact listed.numbered.unused
    · intro activity record app isRecord isApp
      rw [sameRecords] at isRecord
      have isSmall :=
        listed.numbered.hosts activity record app isRecord isApp
      exact Nat.lt_of_lt_of_le isSmall nextApp
  · rw [sameRecords, sameMap]
    exact listed.fresh
  · intro activity isLive
    exact (SameRecords.of_eq sameRecords).hasHost
      (listed.launched activity isLive)
  · intro app new isNew
    rcases apps app new isNew with ⟨old, isOld, same⟩ | ⟨isEmpty, _⟩
    · rw [same.mExistActivity]
      exact listed.distinct app old isOld
    · rw [isEmpty]
      exact List.nodup_nil
  · intro app new isNew notStopped activity
    rw [sameHosts]
    rcases apps app new isNew with
      ⟨old, isOld, same⟩ | ⟨isEmpty, isStopped | noneHosted⟩
    · rw [same.mExistActivity]
      exact
        listed.listed app old isOld
          (fun isStopped => notStopped (same.stopped isStopped)) activity
    · exact absurd isStopped notStopped
    · rw [isEmpty, noneHosted]
      exact iff_of_false List.not_mem_nil fun isHosted =>
        absurd isHosted.2 Bool.false_ne_true
  · intro app new isNew notStopped activity isListed
    rw [sameRecords, sameMap]
    rcases apps app new isNew with ⟨old, isOld, same⟩ | ⟨isEmpty, _⟩
    · rw [same.mExistActivity] at isListed
      exact
        listed.begun app old isOld
          (fun isStopped => notStopped (same.stopped isStopped)) activity
          isListed
    · rw [isEmpty] at isListed
      exact absurd isListed List.not_mem_nil

/-- A process attaches. -/
theorem attachApplication
    (listed : ActivitiesListed live manager)
    (packageName : String)
    (systemui : Bool)
    (pid : Nat) :
    ActivitiesListed live
      (manager.attachApplication packageName systemui pid) := by
  refine listed.reapp rfl rfl rfl (Nat.le_succ _) ?_
  intro app new isNew
  rcases update_some_cases isNew with ⟨isApp, isAttached⟩ | ⟨_, isOld⟩
  · refine .inr ⟨isAttached ▸ rfl, .inr ?_⟩
    intro activity
    rw [Bool.eq_false_iff]
    intro isHosted
    obtain ⟨record, isRecord, isHost⟩ := (Option.any_eq_true _ _).mp isHosted
    have isSmall :=
      listed.numbered.hosts activity record app isRecord
        (of_decide_eq_true isHost)
    rw [isApp] at isSmall
    exact Nat.lt_irrefl _ isSmall
  · exact .inl ⟨new, isOld, .refl new⟩

/-- The process that exits is marked. -/
theorem markStopped
    (listed : ActivitiesListed live manager)
    (app : Nat)
    (record : AppRecord) :
    ActivitiesListed live (manager.markStopped app record) := by
  refine listed.reapp rfl rfl rfl (Nat.le_refl _) ?_
  intro other new isNew
  rcases update_some_cases isNew with ⟨_, isMarked⟩ | ⟨_, isOld⟩
  · exact .inr ⟨isMarked ▸ rfl, .inl (isMarked ▸ rfl)⟩
  · exact .inl ⟨new, isOld, .refl new⟩

end ActivitiesListed

/-- An activity that has begun is never new again. -/
theorem SameRecords.hasBegun
    {activity : Nat}
    (same : SameRecords manager next)
    (hadBegun : manager.HasBegun activity) :
    next.HasBegun activity := by
  intro record isRecord isInit
  obtain ⟨old, isOld, isSame⟩ := same.exists_before isRecord
  exact hadBegun old isOld (isSame.begun isInit)

/-! ## The two loops of an exit -/

/-- The application counts as stopped. -/
def IsStopped
    (manager : TaskStackManager)
    (app : Nat) : Prop :=
  ∃ record, manager.apps app = some record ∧ record.mStatus = .appStopped

/-- An activity that exits is destroyed. -/
theorem abnormalExit_hasBegun
    {activity : Nat}
    (isNext : manager.abnormalExit activity = some next) :
    next.HasBegun activity := by
  have isDestroyed :
      ∃ record : ActivityRecord,
        next.activities =
          Function.update manager.activities activity
            (some (record.setStatus Status.destroyed)) := by
    obtain ⟨record, _, ⟨_, hasEnded⟩ | ⟨_, _, _, _, hasEnded⟩⟩ :=
      abnormalExit_cases isNext
    · exact ⟨record, hasEnded ▸ rfl⟩
    · exact ⟨record, hasEnded ▸ rfl⟩
  obtain ⟨record, isDestroyed⟩ := isDestroyed
  intro found isFound
  rw [isDestroyed, Function.update_self, Option.some.injEq] at isFound
  rw [← isFound]
  exact (by decide : Status.destroyed ≠ Status.init)

/-- All activities of the first loop have ended after it. -/
structure ExitedAll
    (activities : List Nat)
    (before after : TaskStackManager) : Prop where
  calls :
    ∃ calls,
      after.calls = before.calls ++ calls ∧ launches calls = []
  records : SameRecords before after
  haveBegun : ∀ activity ∈ activities, after.HasBegun activity
  listed :
    ∀ live,
      ActivitiesListed live before →
      ActivitiesListed (live.filter (· ∉ activities)) after
  stopped : ∀ app, before.IsStopped app → after.IsStopped app

/-- The first loop. -/
theorem abnormalExitAll_exitedAll
    {activities : List Nat}
    (isNext : abnormalExitAll activities manager = some next) :
    ExitedAll activities manager next := by
  induction activities generalizing manager with
  | nil =>
      rw [← Option.some.inj isNext]
      exact
        { calls := ⟨[], (List.append_nil _).symm, rfl⟩
          records := .refl manager
          haveBegun := fun _ member => absurd member List.not_mem_nil
          listed := fun live listed => by
            rw [List.filter_eq_self.mpr (by simp)]
            exact listed
          stopped := fun _ => id }
  | cons activity rest inductionHypothesis =>
      obtain ⟨middle, isMiddle, isNext⟩ := Option.bind_eq_some_iff.mp isNext
      have ends := Ends.abnormalExit isMiddle
      have exits := inductionHypothesis isNext
      obtain ⟨first, isFirst, firstNone⟩ := ends.calls
      obtain ⟨second, isSecond, secondNone⟩ := exits.calls
      refine
        { calls := ⟨first ++ second, ?_, ?_⟩
          records := ends.records.trans exits.records
          haveBegun := ?_
          listed := ?_
          stopped := ?_ }
      · rw [isSecond, isFirst, List.append_assoc]
      · rw [launches, List.filterMap_append]
        exact congrArg₂ _ firstNone secondNone
      · intro other member
        rcases List.mem_cons.mp member with isFirst | isRest
        · rw [isFirst]
          exact exits.records.hasBegun (abnormalExit_hasBegun isMiddle)
        · exact exits.haveBegun other isRest
      · intro live listed
        have others := exits.listed _ (ends.listed live listed)
        have together :
            live.filter (· ∉ activity :: rest) =
              (live.filter (· ≠ activity)).filter (· ∉ rest) := by
          rw [List.filter_filter]
          apply List.filter_congr
          intro other _
          rw [← Bool.decide_and, decide_eq_decide, List.mem_cons, not_or,
            and_comm]
        rw [together]
        exact others
      · rintro app ⟨record, isRecord, isStopped⟩
        obtain ⟨new, isNew, newStopped⟩ :=
          ends.stopped app record isRecord isStopped
        exact exits.stopped app ⟨new, isNew, newStopped⟩

/-- An activity of a stopped application is forgotten. -/
theorem ActivitiesListed.forget
    {activity : Nat}
    (listed : ActivitiesListed live manager)
    (hasBegun : manager.HasBegun activity)
    (isHosted : manager.isHostedBy app activity = true)
    (isStopped : manager.IsStopped app) :
    ActivitiesListed live
      { manager with
        mActivityMap := manager.mActivityMap.erase activity } :=
  { listed with
    numbered := { listed.numbered with }
    fresh := by
      intro other record isRecord isInit
      have notThis : other ≠ activity := by
        rintro rfl
        exact hasBegun record isRecord isInit
      exact
        (List.mem_erase_of_ne notThis).mpr
          (listed.fresh other record isRecord isInit)
    begun := by
      intro host found isFound notStopped other isListed
      obtain ⟨isKnown, haveBegun⟩ :=
        listed.begun host found isFound notStopped other isListed
      refine ⟨(List.mem_erase_of_ne ?_).mpr isKnown, haveBegun⟩
      rintro rfl
      -- its application would be a process that has not ended
      obtain ⟨_, isHere⟩ :=
        (listed.listed host found isFound notStopped other).mp isListed
      obtain ⟨record, isRecord, isApp⟩ := (Option.any_eq_true _ _).mp isHosted
      have isSame :=
        (isHostedBy_iff_of_mApp isRecord (of_decide_eq_true isApp)
          host).mp isHere
      obtain ⟨stopped, isStoppedRecord, hasStopped⟩ := isStopped
      rw [isSame, isStoppedRecord, Option.some.injEq] at isFound
      exact notStopped (isFound ▸ hasStopped) }

/-- Between the two loops, and in the second one. -/
structure Exiting
    (app : Nat)
    (activities live : List Nat)
    (before middle : TaskStackManager) : Prop where
  since : ListedSince activities live before middle
  records : SameRecords before middle
  stopped : middle.IsStopped app

/-- The second loop. -/
theorem Exiting.deleteAll
    {before : TaskStackManager}
    {activities deleted : List Nat}
    (exiting : Exiting app activities live before manager)
    (hosted :
      ∀ activity ∈ activities, before.isHostedBy app activity = true)
    (within : ∀ activity ∈ deleted, activity ∈ activities)
    (isNext : TaskStackManager.deleteAll deleted manager = some next) :
    Exiting app activities live before next := by
  induction deleted generalizing manager with
  | nil =>
      rw [← Option.some.inj isNext]
      exact exiting
  | cons activity rest inductionHypothesis =>
      obtain ⟨middle, isMiddle, isNext⟩ := Option.bind_eq_some_iff.mp isNext
      have unmoved : Moved ownParts manager manager.lists manager :=
        .refl manager
      obtain ⟨_, _, moved⟩ :=
        (unmoved.deleted.deleteActivity activity).of_result isMiddle
      obtain ⟨_, _, _, listed⟩ := exiting.since
      obtain ⟨started, advances⟩ :=
        Advances.of_moves listed.numbered (fun _ _ => IsOwn.isPlain)
          moved.moves
      have since := exiting.since.advance advances
      have stopped : middle.IsStopped app := by
        obtain ⟨record, isRecord, isStopped⟩ := exiting.stopped
        exact advances.stopped app record isRecord isStopped
      have records := exiting.records.trans advances.records
      have isSpared := within activity List.mem_cons_self
      have isHosted := hosted activity isSpared
      rw [← records.isHostedBy_eq] at isHosted
      refine
        inductionHypothesis ?_
          (fun other member => within other (List.mem_cons_of_mem _ member))
          isNext
      obtain ⟨all, isAll, areSpared, listed⟩ := since
      exact
        { since :=
            ⟨all, isAll, areSpared,
              listed.forget (areSpared activity isSpared).2 isHosted
                stopped⟩
          records := records
          stopped := stopped }

/-- A process exits: what it has hosted is not live any more. -/
theorem ActivitiesListed.procAppTerminated
    (listed : ActivitiesListed live manager)
    (isRecord : manager.apps app = some record)
    (notStopped : record.mStatus ≠ .appStopped)
    (isNext : manager.procAppTerminated app = some next) :
    ListedSince []
      (live.filter fun activity => !manager.isHostedBy app activity)
      manager next := by
  obtain ⟨found, isFound, isNext⟩ := Option.bind_eq_some_iff.mp isNext
  obtain ⟨exited, isExited, isDeleted⟩ := Option.bind_eq_some_iff.mp isNext
  rw [isRecord, Option.some.injEq] at isFound
  subst isFound
  have exits := abnormalExitAll_exitedAll isExited
  obtain ⟨calls, isCalls, noLaunch⟩ := exits.calls
  have areHosted :
      ∀ activity ∈ record.mExistActivity,
        manager.isHostedBy app activity = true := by
    intro activity isListed
    exact
      ((listed.listed app record isRecord notStopped activity).mp
        isListed).2
  have marked : (manager.markStopped app record).IsStopped app :=
    ⟨_, Function.update_self _ _ _, rfl⟩
  have exiting :
      Exiting app record.mExistActivity
        (live.filter (· ∉ record.mExistActivity)) manager exited := by
    constructor
    · exact
        .start (exits.listed live (listed.markStopped app record)) isCalls
          noLaunch exits.haveBegun
    · exact (SameRecords.of_eq rfl).trans exits.records
    · exact exits.stopped app marked
  have ends := exiting.deleteAll areHosted (fun _ => id) isDeleted
  obtain ⟨all, isAll, _, allListed⟩ := ends.since
  have notListed :
      ∀ activity,
        (!manager.isHostedBy app activity) = true →
        activity ∉ record.mExistActivity := by
    intro activity isElsewhere isListed
    rw [areHosted activity isListed] at isElsewhere
    exact absurd isElsewhere Bool.false_ne_true
  refine ⟨all, isAll, nofun, allListed.relive ?_ ?_⟩
  · intro activity isLive
    apply allListed.launched
    rw [List.mem_append, List.mem_filter] at isLive ⊢
    refine isLive.imp_left fun ⟨wasLive, isElsewhere⟩ => ?_
    exact ⟨wasLive, decide_eq_true (notListed activity isElsewhere)⟩
  · intro host found isFound staysOpen activity isHosted
    have isElsewhere : (!manager.isHostedBy app activity) = true := by
      rw [Bool.not_eq_true', Bool.eq_false_iff]
      intro isHere
      rw [ends.records.isHostedBy_eq] at isHosted
      obtain ⟨old, isOld, isApp⟩ := (Option.any_eq_true _ _).mp isHere
      have isSame :=
        (isHostedBy_iff_of_mApp isOld (of_decide_eq_true isApp) host).mp
          isHosted
      obtain ⟨stopped, isStopped, hasStopped⟩ := ends.stopped
      rw [isSame, isStopped, Option.some.injEq] at isFound
      exact staysOpen (isFound ▸ hasStopped)
    rw [List.mem_append, List.mem_append, List.mem_filter, List.mem_filter,
      decide_eq_true_iff]
    refine or_congr_left (and_congr_right fun _ => ?_)
    exact iff_of_true isElsewhere (notListed activity isElsewhere)

end TaskStackManager

end ActivityManager
