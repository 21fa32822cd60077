import ActivityManager.ApplicationThread
import ActivityManager.Library.EventTraces
import ActivityManager.Library.KeyedList

/-!
# The lives of activities and services

An activity object gets a window, is created, lives, is destroyed and gives
its window back, and a service object is created, lives and is destroyed: the
stages and the events that lead from one to another are automata.  In every
run of a process each object follows its automaton, and the records that the
process keeps say at which stage it is.

Every activity object has the number of its launch.  A launch under a token
that still has a record creates an object that no call ever reaches again: it
is dropped.
-/

namespace ActivityManager

open StepSystem (run? run?_append Reachable)
open EventTrace (eventsOf Follows)

/-! ## Activities -/

/-- The stages of an activity object. -/
inductive ActivityStage where
  | unborn
  /-- It has been attached, and is not created yet. -/
  | opening (mWindow : Bool)
  /-- It is created; `mStatus` was reported last. -/
  | alive (mWindow : Bool) (mStatus : Status)
  | dying (mWindow : Bool)
  /-- It could not be created. -/
  | failed
  | gone
  deriving Repr, DecidableEq

namespace ActivityStage

/-- What may happen next to an activity object. -/
def step? : ActivityStage → ActivityEvent → Option ActivityStage
  | .unborn, .newWindow mWindow =>
      some (.opening mWindow)
  | .opening mWindow, .setIntent _ =>
      some (.opening mWindow)
  | .opening mWindow, .onCreate =>
      some (.alive mWindow Status.creating)
  | .opening mWindow, .removeWindow removed =>
      if removed = mWindow then some .failed else none
  | .alive mWindow mStatus, event =>
      match event with
      | .newWindow _ => none
      | .removeWindow _ => none
      | .onCreate => none
      | .onRestart =>
          if mStatus = Status.stopped then some (.alive mWindow mStatus)
          else none
      | .onDestroy => some (.dying mWindow)
      | .reportActivityStatus status =>
          if Status.created ≤ status ∧ status < Status.destroying then
            some (.alive mWindow status)
          else
            none
      | _ => some (.alive mWindow mStatus)
  | .dying true, .removeWindow true =>
      some (.dying false)
  | .dying false, .reportActivityStatus status =>
      if status = Status.destroyed then some .gone else none
  | .failed, .reportActivityStatus status =>
      if status = Status.error then some .gone else none
  | _, _ =>
      none

end ActivityStage

/-- The events of the activity object of a launch. -/
def ApplicationEvent.ofActivity?
    (serial : Nat) : ApplicationEvent → Option ActivityEvent
  | .activity other _ event => if other = serial then some event else none
  | _ => none

namespace ClientActivity

/-- The stage of an activity object that is alive. -/
def stage (activity : ClientActivity) : ActivityStage :=
  .alive activity.mWindow activity.record.mStatus

end ClientActivity

namespace ApplicationThread

/-- The activity objects that are alive. -/
def activities (thread : ApplicationThread) : List ClientActivity :=
  thread.mExistActivities ++ thread.dropped

/-- The stage of the activity object of a launch. -/
def activityStage
    (thread : ApplicationThread)
    (serial : Nat) : ActivityStage :=
  match thread.activities.find? (·.serial == serial) with
  | some activity => activity.stage
  | none => if serial < thread.launches then .gone else .unborn

end ApplicationThread

/-! ### What handlers do -/

section Handlers

variable (record : ActivityClientRecord) (mWindow : Bool)

/-- A handler that keeps an activity alive. -/
structure KeepsAlive
    (handler : ActivityClientRecord → ClientEffect) : Prop where
  runs :
    ∀ record mWindow,
      run? ActivityStage.step? (.alive mWindow record.mStatus)
          ((handler record).events mWindow true) =
        some (.alive mWindow (handler record).record.mStatus)
  status :
    ∀ record, (handler record).record.mStatus < Status.destroying

theorem onStart_keepsAlive
    (intent : Option Intent) :
    KeepsAlive (·.onStart intent) where
  runs record mWindow := by
    by_cases isCreated : record.mStatus = Status.created
    · cases intent <;>
        simp [ActivityClientRecord.onStart, ActivityClientRecord.report,
          ClientEffect.events, ActivityCallback.events, isCreated, run?,
          ActivityStage.step?]
    · by_cases isStopped : record.mStatus = Status.stopped
      · cases intent <;>
          simp [ActivityClientRecord.onStart, ActivityClientRecord.report,
            ClientEffect.events, ActivityCallback.events, isStopped, run?,
            ActivityStage.step?]
      · cases intent <;>
          simp_all [ActivityClientRecord.onStart,
            ActivityClientRecord.report, ClientEffect.events,
            ActivityCallback.events, run?, ActivityStage.step?]
  status record := by
    simp [ActivityClientRecord.onStart, ActivityClientRecord.report]

theorem onResume_keepsAlive
    (intent : Option Intent) :
    KeepsAlive (·.onResume intent) where
  runs record mWindow := by
    cases intent <;>
      simp [ActivityClientRecord.onResume, ActivityClientRecord.report,
        ClientEffect.events, ActivityCallback.events, run?,
        ActivityStage.step?]
  status record := by
    simp [ActivityClientRecord.onResume, ActivityClientRecord.report]

theorem onPause_keepsAlive :
    KeepsAlive (·.onPause) where
  runs record mWindow := by
    simp [ActivityClientRecord.onPause, ActivityClientRecord.report,
      ClientEffect.events, ActivityCallback.events, run?,
      ActivityStage.step?]
  status record := by
    simp [ActivityClientRecord.onPause, ActivityClientRecord.report]

theorem onStop_keepsAlive :
    KeepsAlive (·.onStop) where
  runs record mWindow := by
    simp [ActivityClientRecord.onStop, ActivityClientRecord.report,
      ClientEffect.events, ActivityCallback.events, run?,
      ActivityStage.step?]
  status record := by
    simp [ActivityClientRecord.onStop, ActivityClientRecord.report]

/-- `onDestroy` ends the life of an activity. -/
theorem onDestroy_ends
    (mStatus : Status) :
    run? ActivityStage.step? (.alive mWindow mStatus)
        (record.onDestroy.events mWindow true) =
      some .gone := by
  cases mWindow <;>
    simp [ActivityClientRecord.onDestroy, ActivityClientRecord.report,
      ClientEffect.events, ActivityCallback.events, run?,
      ActivityStage.step?]

/-- An activity is created, or has gone when its launch is over. -/
theorem onCreate_begins
    (intent : Intent)
    (attached : Bool) :
    run? ActivityStage.step? .unborn
        (.newWindow mWindow ::
          (record.onCreate intent attached).events mWindow attached) =
      some
        (if attached then
          .alive mWindow (record.onCreate intent attached).record.mStatus
        else .gone) := by
  cases attached <;>
    simp [ActivityClientRecord.onCreate, ActivityClientRecord.report,
      ClientEffect.events, ActivityCallback.events, run?,
      ActivityStage.step?]

/-- A clear ends the life of an activity, which is stopped first if need be. -/
theorem clearEvents_ends
    {activity : ClientActivity}
    (notDestroyed : activity.record.mStatus < Status.destroying) :
    run? ActivityStage.step? activity.stage activity.clearEvents =
      some .gone := by
  unfold ClientActivity.clearEvents
  dsimp only
  rw [if_pos notDestroyed, run?_append]
  split
  · rw [ClientActivity.stage, onStop_keepsAlive.runs, Option.bind_some]
    exact onDestroy_ends _ _ _
  · exact onDestroy_ends activity.record _ activity.record.mStatus

end Handlers

/-! ### What the process keeps -/

/-- What the records of a process say about its activity objects. -/
structure ActivitiesKept (thread : ApplicationThread) : Prop where
  tokens : (thread.mExistActivities.map ClientActivity.token).Nodup
  serials : (thread.activities.map ClientActivity.serial).Nodup
  launched :
    ∀ activity ∈ thread.activities, activity.serial < thread.launches
  statuses :
    ∀ activity ∈ thread.mExistActivities,
      activity.record.mStatus < Status.destroying
  follows :
    Follows ActivityStage.step? ApplicationEvent.ofActivity? .unborn
      thread.trace thread.activityStage

namespace ApplicationThread

variable {thread next : ApplicationThread}

/-- What is found in `mExistActivities` under a token. -/
theorem findActivity_mem
    {token : Nat}
    {activity : ClientActivity}
    (isFound : thread.findActivity token = some activity) :
    activity ∈ thread.mExistActivities ∧ activity.token = token :=
  KeyedList.key_of_find? isFound

/-- An object that is alive is at its own stage. -/
theorem activityStage_of_mem
    (kept : ActivitiesKept thread)
    {activity : ClientActivity}
    (isAlive : activity ∈ thread.activities) :
    thread.activityStage activity.serial = activity.stage := by
  have isFound :
      thread.activities.find? (·.serial == activity.serial) =
        some activity :=
    (KeyedList.find?_eq_some_iff kept.serials).mpr ⟨isAlive, rfl⟩
  rw [activityStage, isFound]

/-- A launch of which no object is left. -/
theorem activityStage_of_notAlive
    {serial : Nat}
    (notAlive : ∀ activity ∈ thread.activities, activity.serial ≠ serial) :
    thread.activityStage serial =
      if serial < thread.launches then .gone else .unborn := by
  rw [activityStage, KeyedList.find?_eq_none_iff.mpr notAlive]

/-- The stage of a launch depends on its object only. -/
theorem activityStage_congr
    {serial : Nat}
    (serials : (thread.activities.map ClientActivity.serial).Nodup)
    (nextSerials : (next.activities.map ClientActivity.serial).Nodup)
    (same :
      ∀ activity,
        activity.serial = serial →
        (activity ∈ next.activities ↔ activity ∈ thread.activities))
    (sameLaunch : serial < next.launches ↔ serial < thread.launches) :
    next.activityStage serial = thread.activityStage serial := by
  unfold activityStage
  rw [KeyedList.find?_congr serials nextSerials same]
  split
  · rfl
  · simp only [sameLaunch]

/-- The events that one object leaves behind. -/
theorem eventsOf_ofActivity?
    (serial : Nat)
    (activity : ClientActivity)
    (events : List ActivityEvent) :
    eventsOf ApplicationEvent.ofActivity? serial
        (events.map (.activity activity.serial activity.token)) =
      if activity.serial = serial then events else [] := by
  unfold eventsOf
  rw [List.filterMap_map]
  split
  · rename_i isSerial
    refine (List.filterMap_congr fun event _ => ?_).trans
      List.filterMap_some
    simp [ApplicationEvent.ofActivity?, isSerial]
  · rename_i isOther
    refine List.filterMap_eq_nil_iff.mpr fun event _ => ?_
    simp [ApplicationEvent.ofActivity?, isOther]

/--
Events of one object, alive or not, after which it is at its new stage; the
other objects stay as they are.
-/
theorem follows_of_one
    (kept : ActivitiesKept thread)
    {activity : ClientActivity}
    {events : List ActivityEvent}
    (isTrace :
      next.trace =
        thread.trace ++
          events.map (.activity activity.serial activity.token))
    (runs :
      run? ActivityStage.step? (thread.activityStage activity.serial)
          events =
        some (next.activityStage activity.serial))
    (nextSerials : (next.activities.map ClientActivity.serial).Nodup)
    (others :
      ∀ other,
        other.serial ≠ activity.serial →
        (other ∈ next.activities ↔ other ∈ thread.activities))
    (launches :
      ∀ serial ≠ activity.serial,
        (serial < next.launches ↔ serial < thread.launches)) :
    Follows ActivityStage.step? ApplicationEvent.ofActivity? .unborn
      next.trace next.activityStage := by
  rw [isTrace]
  refine kept.follows.append fun serial => ?_
  rw [eventsOf_ofActivity?]
  by_cases isSerial : activity.serial = serial
  · rw [if_pos isSerial, ← isSerial]
    exact runs
  · rw [if_neg isSerial, run?]
    refine congrArg some (activityStage_congr kept.serials nextSerials ?_
      (launches serial (Ne.symm isSerial))).symm
    intro other isOther
    exact others other fun same => isSerial (same.symm.trans isOther)

/-- Nothing happens to any activity object. -/
theorem kept_of_silent
    (kept : ActivitiesKept thread)
    (sameActivities : next.mExistActivities = thread.mExistActivities)
    (sameDropped : next.dropped = thread.dropped)
    (sameLaunches : next.launches = thread.launches)
    {events : List ApplicationEvent}
    (isTrace : next.trace = thread.trace ++ events)
    (silent :
      ∀ serial, ∀ event ∈ events, event.ofActivity? serial = none) :
    ActivitiesKept next where
  tokens := by
    rw [sameActivities]
    exact kept.tokens
  serials := by
    rw [activities, sameActivities, sameDropped]
    exact kept.serials
  launched := by
    rw [activities, sameActivities, sameDropped, sameLaunches]
    exact kept.launched
  statuses := by
    rw [sameActivities]
    exact kept.statuses
  follows := by
    rw [isTrace]
    refine kept.follows.append_of_silent ?_ fun serial => ?_
    · intro serial
      exact List.filterMap_eq_nil_iff.mpr (silent serial)
    · rw [activityStage, activityStage, activities, activities,
        sameActivities, sameDropped, sameLaunches]

/-- Something happens to an activity, and leaves it at its stage. -/
theorem observe_kept
    (kept : ActivitiesKept thread)
    {activity : ClientActivity}
    (isAlive : activity ∈ thread.mExistActivities)
    {events : List ActivityEvent}
    (runs :
      run? ActivityStage.step? activity.stage events =
        some activity.stage) :
    ActivitiesKept (thread.observe activity events) where
  tokens := kept.tokens
  serials := kept.serials
  launched := kept.launched
  statuses := kept.statuses
  follows := by
    have isStage :=
      activityStage_of_mem kept (List.mem_append_left _ isAlive)
    refine follows_of_one kept rfl ?_ kept.serials
      (fun _ _ => Iff.rfl) fun _ _ => Iff.rfl
    rw [isStage]
    exact runs.trans (congrArg some isStage.symm)

/-! #### A record that changes -/

/-- The records after a handler. -/
def changeRecord
    (activity : ClientActivity)
    (record : ActivityClientRecord)
    (other : ClientActivity) : ClientActivity :=
  if other.token = activity.token then { other with record := record }
  else other

theorem changeRecord_token
    (activity : ClientActivity)
    (record : ActivityClientRecord)
    (other : ClientActivity) :
    (changeRecord activity record other).token = other.token := by
  unfold changeRecord
  split <;> rfl

theorem changeRecord_serial
    (activity : ClientActivity)
    (record : ActivityClientRecord)
    (other : ClientActivity) :
    (changeRecord activity record other).serial = other.serial := by
  unfold changeRecord
  split <;> rfl

/-- The tokens stay. -/
theorem map_changeRecord_token
    (thread : ApplicationThread)
    (activity : ClientActivity)
    (record : ActivityClientRecord) :
    (thread.mExistActivities.map (changeRecord activity record)).map
        ClientActivity.token =
      thread.mExistActivities.map ClientActivity.token := by
  rw [List.map_map]
  exact List.map_congr_left fun other _ =>
    changeRecord_token activity record other

/-- The objects stay. -/
theorem map_changeRecord_serial
    (thread : ApplicationThread)
    (activity : ClientActivity)
    (record : ActivityClientRecord) :
    (thread.mExistActivities.map (changeRecord activity record)).map
        ClientActivity.serial =
      thread.mExistActivities.map ClientActivity.serial := by
  rw [List.map_map]
  exact List.map_congr_left fun other _ =>
    changeRecord_serial activity record other

/-- The handler changes the record of its own activity. -/
theorem mem_map_changeRecord
    (kept : ActivitiesKept thread)
    {activity : ClientActivity}
    (isAlive : activity ∈ thread.mExistActivities)
    (record : ActivityClientRecord)
    {other : ClientActivity} :
    other ∈ thread.mExistActivities.map (changeRecord activity record) ↔
      other = { activity with record := record } ∨
        other ∈ thread.mExistActivities ∧
          other.token ≠ activity.token := by
  rw [List.mem_map]
  constructor
  · rintro ⟨before, wasAlive, isOther⟩
    rw [← isOther, changeRecord]
    split
    · rename_i isToken
      have same : before = activity :=
        List.inj_on_of_nodup_map kept.tokens wasAlive isAlive isToken
      exact .inl (same ▸ rfl)
    · rename_i otherToken
      exact .inr ⟨wasAlive, otherToken⟩
  · rintro (isChanged | ⟨wasAlive, otherToken⟩)
    · refine ⟨activity, isAlive, ?_⟩
      rw [isChanged, changeRecord, if_pos rfl]
    · exact ⟨other, wasAlive, if_neg otherToken⟩

/-- The objects that are alive after a handler. -/
theorem handle_activities
    (thread : ApplicationThread)
    (activity : ClientActivity)
    (effect : ClientEffect) :
    (thread.handle activity effect).activities =
      thread.mExistActivities.map (changeRecord activity effect.record) ++
        thread.dropped := by
  rfl

/-- Objects that are not in a list with the activity are not the activity. -/
theorem mem_changed_iff_of_serial
    (kept : ActivitiesKept thread)
    {activity : ClientActivity}
    (isAlive : activity ∈ thread.mExistActivities)
    (record : ActivityClientRecord)
    {other : ClientActivity}
    (isOther : other.serial ≠ activity.serial) :
    other ∈ thread.mExistActivities.map (changeRecord activity record) ↔
      other ∈ thread.mExistActivities := by
  rw [mem_map_changeRecord kept isAlive]
  constructor
  · rintro (isChanged | ⟨wasAlive, _⟩)
    · exact absurd (congrArg ClientActivity.serial isChanged) isOther
    · exact wasAlive
  · intro wasAlive
    refine .inr ⟨wasAlive, fun sameToken => isOther ?_⟩
    rw [List.inj_on_of_nodup_map kept.tokens wasAlive isAlive sameToken]

/-- A handler that keeps an activity alive. -/
theorem handle_kept
    (kept : ActivitiesKept thread)
    {activity : ClientActivity}
    (isAlive : activity ∈ thread.mExistActivities)
    {handler : ActivityClientRecord → ClientEffect}
    (keepsAlive : KeepsAlive handler) :
    ActivitiesKept (thread.handle activity (handler activity.record)) := by
  have isSame :
      (thread.handle activity (handler activity.record)).activities.map
          ClientActivity.serial =
        thread.activities.map ClientActivity.serial := by
    rw [handle_activities, activities, List.map_append, List.map_append,
      map_changeRecord_serial]
  have serials :
      ((thread.handle activity (handler activity.record)).activities.map
        ClientActivity.serial).Nodup :=
    isSame ▸ kept.serials
  refine ⟨?_, serials, ?_, ?_, ?_⟩
  · exact map_changeRecord_token thread activity _ ▸ kept.tokens
  · intro other isOther
    have member := List.mem_map_of_mem (f := ClientActivity.serial) isOther
    rw [isSame] at member
    obtain ⟨before, wasAlive, sameSerial⟩ := List.mem_map.mp member
    rw [← sameSerial]
    exact kept.launched before wasAlive
  · intro other isOther
    obtain isChanged | ⟨wasAlive, _⟩ :=
      (mem_map_changeRecord kept isAlive _).mp isOther
    · rw [isChanged]
      exact keepsAlive.status activity.record
    · exact kept.statuses other wasAlive
  · refine follows_of_one kept rfl ?_ serials ?_ fun _ _ => Iff.rfl
    · have isChanged :
          { activity with record := (handler activity.record).record } ∈
            (thread.handle activity
              (handler activity.record)).activities :=
        List.mem_append_left _
          ((mem_map_changeRecord kept isAlive _).mpr (.inl rfl))
      rw [activityStage_of_mem kept (List.mem_append_left _ isAlive),
        ClientActivity.stage, keepsAlive.runs, activityStage,
        (KeyedList.find?_eq_some_iff serials).mpr ⟨isChanged, rfl⟩]
      rfl
    · intro other isOther
      rw [handle_activities, activities, List.mem_append, List.mem_append,
        mem_changed_iff_of_serial kept isAlive _ isOther]

/-! #### Activities that come and go -/

/-- The objects that are alive when one of them has been destroyed. -/
theorem mem_eraseP_changeRecord
    (kept : ActivitiesKept thread)
    {activity : ClientActivity}
    (isAlive : activity ∈ thread.mExistActivities)
    (record : ActivityClientRecord)
    {other : ClientActivity} :
    other ∈ (thread.mExistActivities.map
        (changeRecord activity record)).eraseP
          (·.token == activity.token) ↔
      other ∈ thread.mExistActivities ∧
        other.token ≠ activity.token := by
  rw [eraseP_key
    (map_changeRecord_token thread activity record ▸ kept.tokens),
    List.mem_filter, bne_iff_ne, mem_map_changeRecord kept isAlive]
  constructor
  · rintro ⟨isChanged | stays, otherToken⟩
    · rw [isChanged] at otherToken
      exact absurd rfl otherToken
    · exact stays
  · exact fun stays => ⟨.inr stays, stays.2⟩

/-- An object that has a record was not dropped. -/
theorem serial_ne_of_dropped
    (kept : ActivitiesKept thread)
    {activity other : ClientActivity}
    (isAlive : activity ∈ thread.mExistActivities)
    (isDropped : other ∈ thread.dropped) :
    other.serial ≠ activity.serial := by
  intro sameSerial
  have serials := kept.serials
  rw [activities, List.map_append] at serials
  exact List.disjoint_of_nodup_append serials
    (List.mem_map_of_mem isAlive)
    (sameSerial ▸ List.mem_map_of_mem isDropped)

/-- Among the objects with a record the token and the launch agree. -/
theorem token_ne_iff
    (kept : ActivitiesKept thread)
    {activity other : ClientActivity}
    (isAlive : activity ∈ thread.mExistActivities)
    (otherAlive : other ∈ thread.mExistActivities) :
    other.token ≠ activity.token ↔ other.serial ≠ activity.serial := by
  refine not_congr ⟨fun sameToken => ?_, fun sameSerial => ?_⟩
  · rw [List.inj_on_of_nodup_map kept.tokens otherAlive isAlive sameToken]
  · rw [List.inj_on_of_nodup_map kept.serials
      (List.mem_append_left _ otherAlive)
      (List.mem_append_left _ isAlive) sameSerial]

/-- An activity is destroyed, and its record is deleted. -/
theorem onDestroyActivity_kept
    (kept : ActivitiesKept thread)
    (token : Nat) :
    ActivitiesKept (thread.onDestroyActivity token) := by
  unfold onDestroyActivity
  split
  · rename_i activity isFound
    obtain ⟨isAlive, rfl⟩ := findActivity_mem isFound
    let next :=
      (thread.handle activity activity.record.onDestroy).deleteActivity
        activity.token
    have left :
        ∀ other,
          other ∈ next.activities ↔
            other ∈ thread.activities ∧ other.serial ≠ activity.serial := by
      intro other
      constructor
      · intro isOther
        obtain stays | isDropped := List.mem_append.mp isOther
        · obtain ⟨wasAlive, otherToken⟩ :=
            (mem_eraseP_changeRecord kept isAlive _).mp stays
          exact ⟨List.mem_append_left _ wasAlive,
            (token_ne_iff kept isAlive wasAlive).mp otherToken⟩
        · exact ⟨List.mem_append_right _ isDropped,
            serial_ne_of_dropped kept isAlive isDropped⟩
      · rintro ⟨wasAlive, otherSerial⟩
        obtain wasAlive | isDropped := List.mem_append.mp wasAlive
        · exact List.mem_append_left _
            ((mem_eraseP_changeRecord kept isAlive _).mpr
              ⟨wasAlive, (token_ne_iff kept isAlive wasAlive).mpr
                otherSerial⟩)
        · exact List.mem_append_right _ isDropped
    have fewer :
        (next.activities.map ClientActivity.serial).Sublist
          (thread.activities.map ClientActivity.serial) := by
      rw [activities, activities, List.map_append, List.map_append,
        ← map_changeRecord_serial thread activity
          activity.record.onDestroy.record]
      exact (List.eraseP_sublist.map _).append (List.Sublist.refl _)
    have serials := kept.serials.sublist fewer
    refine ⟨?_, serials, ?_, ?_, ?_⟩
    · have tokens := kept.tokens
      rw [← map_changeRecord_token thread activity
        activity.record.onDestroy.record] at tokens
      exact tokens.sublist (List.eraseP_sublist.map ClientActivity.token)
    · intro other isOther
      exact kept.launched other ((left other).mp isOther).1
    · intro other isOther
      exact kept.statuses other
        ((mem_eraseP_changeRecord kept isAlive _).mp isOther).1
    · refine follows_of_one kept rfl ?_ serials ?_ fun _ _ => Iff.rfl
      · rw [activityStage_of_mem kept (List.mem_append_left _ isAlive),
          ClientActivity.stage, onDestroy_ends, activityStage_of_notAlive]
        · exact congrArg some (if_pos
            (kept.launched activity (List.mem_append_left _ isAlive))).symm
        · exact fun other isOther => ((left other).mp isOther).2
      · exact fun other isOther =>
          (left other).trans (and_iff_left isOther)
  · exact kept

/-- The next launch has no object yet. -/
theorem serial_ne_launches
    (kept : ActivitiesKept thread) :
    ∀ other ∈ thread.activities, other.serial ≠ thread.launches :=
  fun other isOther => (kept.launched other isOther).ne

theorem activityStage_launches
    (kept : ActivitiesKept thread) :
    thread.activityStage thread.launches = .unborn := by
  rw [activityStage_of_notAlive (serial_ne_launches kept),
    if_neg (Nat.lt_irrefl _)]

/-- A launch that ends with an object that is alive. -/
theorem launched_kept
    (kept : ActivitiesKept thread)
    {activity : ClientActivity}
    {events : List ActivityEvent}
    (isNew : activity.serial = thread.launches)
    (runs :
      run? ActivityStage.step? .unborn events = some activity.stage)
    (isTrace :
      next.trace =
        thread.trace ++
          events.map (.activity activity.serial activity.token))
    (isNext : next.launches = thread.launches + 1)
    (joins : next.activities.Perm (activity :: thread.activities))
    (tokens : (next.mExistActivities.map ClientActivity.token).Nodup)
    (statuses :
      ∀ other ∈ next.mExistActivities,
        other.record.mStatus < Status.destroying) :
    ActivitiesKept next := by
  have serials : (next.activities.map ClientActivity.serial).Nodup := by
    rw [(joins.map ClientActivity.serial).nodup_iff, List.map_cons,
      List.nodup_cons, isNew]
    refine ⟨fun member => ?_, kept.serials⟩
    obtain ⟨other, isOther, sameSerial⟩ := List.mem_map.mp member
    exact serial_ne_launches kept other isOther sameSerial
  refine ⟨tokens, serials, ?_, statuses, ?_⟩
  · intro other isOther
    rw [isNext]
    obtain isActivity | wasAlive :=
      List.mem_cons.mp (joins.mem_iff.mp isOther)
    · rw [isActivity, isNew]
      exact Nat.lt_succ_self _
    · exact Nat.lt_succ_of_lt (kept.launched other wasAlive)
  · refine follows_of_one kept isTrace ?_ serials ?_ ?_
    · rw [isNew, activityStage_launches kept, runs, ← isNew]
      have isFound :
          next.activities.find? (·.serial == activity.serial) =
            some activity :=
        (KeyedList.find?_eq_some_iff serials).mpr
          ⟨joins.mem_iff.mpr List.mem_cons_self, rfl⟩
      rw [activityStage, isFound]
    · intro other isOther
      rw [joins.mem_iff, List.mem_cons]
      refine or_iff_right fun isActivity => isOther ?_
      rw [isActivity]
    · intro serial isOther
      rw [isNext, Nat.lt_succ_iff_lt_or_eq]
      exact or_iff_left (isNew ▸ isOther)

/-- A launch that ends without an object. -/
theorem failedLaunch_kept
    (kept : ActivitiesKept thread)
    {activity : ClientActivity}
    {events : List ActivityEvent}
    (isNew : activity.serial = thread.launches)
    (runs : run? ActivityStage.step? .unborn events = some .gone) :
    ActivitiesKept
      ({ thread with launches := thread.launches + 1 }.observe activity
        events) where
  tokens := kept.tokens
  serials := kept.serials
  launched other isOther :=
    Nat.lt_succ_of_lt (kept.launched other isOther)
  statuses := kept.statuses
  follows := by
    refine follows_of_one kept rfl ?_ kept.serials
      (fun _ _ => Iff.rfl) ?_
    · rw [isNew, activityStage_launches kept, runs,
        activityStage_of_notAlive]
      · exact congrArg some (if_pos (Nat.lt_succ_self _)).symm
      · exact serial_ne_launches kept
    · intro serial isOther
      refine Nat.lt_succ_iff_lt_or_eq.trans (or_iff_left ?_)
      exact isNew ▸ isOther

theorem onLaunchActivity_kept
    (kept : ActivitiesKept thread)
    (activityName : String)
    (token : Nat)
    (intent : Intent)
    (mWindow attached : Bool) :
    ActivitiesKept
      (thread.onLaunchActivity activityName token intent mWindow
        attached) := by
  unfold onLaunchActivity
  split
  · dsimp only
    have begins :=
      onCreate_begins (ActivityClientRecord.fresh activityName) mWindow
        intent attached
    cases attached with
    | false =>
        exact failedLaunch_kept kept rfl begins
    | true =>
        rw [if_pos rfl] at begins ⊢
        have isCreated :
            ((ActivityClientRecord.fresh activityName).onCreate intent
              true).record.mStatus < Status.destroying := by
          simp [ActivityClientRecord.onCreate, ActivityClientRecord.report]
        unfold addActivity
        split
        · exact
            launched_kept kept rfl begins rfl rfl List.perm_middle
              kept.tokens kept.statuses
        · rename_i notFound
          have isAbsent := KeyedList.find?_eq_none_iff.mp notFound
          refine
            launched_kept kept rfl begins rfl rfl ?_ ?_ ?_
          · exact (List.perm_orderedInsert _ _ _).append_right _
          · rw [((List.perm_orderedInsert _ _ _).map _).nodup_iff,
              List.map_cons, List.nodup_cons]
            refine ⟨fun member => ?_, kept.tokens⟩
            obtain ⟨other, isOther, sameToken⟩ := List.mem_map.mp member
            exact isAbsent other isOther sameToken
          · intro other isOther
            obtain isActivity | wasAlive :=
              (List.mem_orderedInsert _).mp isOther
            · rw [isActivity]
              exact isCreated
            · exact kept.statuses other wasAlive
  · exact kept

/-! #### A clear -/

/-- What the clear of the activities leaves in the trace. -/
def activityClears (thread : ApplicationThread) : List ApplicationEvent :=
  thread.mExistActivities.flatMap fun activity =>
    activity.clearEvents.map (.activity activity.serial activity.token)

/-- What the clear of the services leaves in the trace. -/
def serviceClears (thread : ApplicationThread) : List ApplicationEvent :=
  thread.mApp.mExistServices.flatMap fun record =>
    record.clearEvents.map (.service record.mToken)

/-- Services have no events of activities. -/
theorem serviceClears_silent
    (thread : ApplicationThread)
    (serial : Nat) :
    eventsOf ApplicationEvent.ofActivity? serial thread.serviceClears =
      [] := by
  refine List.filterMap_eq_nil_iff.mpr fun event member => ?_
  obtain ⟨record, _, isClear⟩ := List.mem_flatMap.mp member
  obtain ⟨_, _, isEvent⟩ := List.mem_map.mp isClear
  rw [← isEvent]
  rfl

/-- The objects with a record have different numbers. -/
theorem existing_serials
    (kept : ActivitiesKept thread) :
    (thread.mExistActivities.map ClientActivity.serial).Nodup :=
  kept.serials.sublist
    ((List.sublist_append_left _ _).map ClientActivity.serial)

theorem clearActivityAndService_kept
    (kept : ActivitiesKept thread) :
    ActivitiesKept thread.clearActivityAndService where
  tokens := List.nodup_nil
  serials :=
    kept.serials.sublist
      ((List.sublist_append_right _ _).map ClientActivity.serial)
  launched other isOther :=
    kept.launched other (List.mem_append_right _ isOther)
  statuses := List.forall_mem_nil _
  follows := by
    rw [show
      thread.clearActivityAndService.trace =
        thread.trace ++ thread.activityClears ++ thread.serviceClears
      from rfl, List.append_assoc]
    refine kept.follows.append fun serial => ?_
    have ownEvents :=
      EventTrace.eventsOf_flatMap ClientActivity.serial
        (existing_serials kept)
        (fun activity _ serial =>
          eventsOf_ofActivity? serial activity activity.clearEvents)
        serial
    rw [EventTrace.eventsOf_append, serviceClears_silent, List.append_nil,
      activityClears, ownEvents]
    cases isFound : thread.mExistActivities.find? (·.serial == serial) with
    | some activity =>
        obtain ⟨isAlive, isSerial⟩ := KeyedList.key_of_find? isFound
        rw [← isSerial,
          activityStage_of_mem kept (List.mem_append_left _ isAlive),
          Option.map_some, Option.getD_some,
          clearEvents_ends (kept.statuses activity isAlive),
          activityStage_of_notAlive]
        · exact congrArg some (if_pos
            (kept.launched activity (List.mem_append_left _ isAlive))).symm
        · exact fun other isOther =>
            serial_ne_of_dropped kept isAlive isOther
    | none =>
        refine congrArg some ?_
        simp only [activityStage, activities, List.find?_append, isFound,
          clearActivityAndService, List.nil_append, Option.none_or]
        rfl

/-! #### Steps -/

/-- A handler for a token, which need not have a record. -/
theorem withActivity_kept
    (kept : ActivitiesKept thread)
    (token : Nat)
    {handler : ActivityClientRecord → ClientEffect}
    (keepsAlive : KeepsAlive handler) :
    ActivitiesKept (thread.withActivity token handler) := by
  unfold withActivity
  split
  · rename_i activity isFound
    exact handle_kept kept (findActivity_mem isFound).1 keepsAlive
  · exact kept

/-- An event that an activity that is alive can always have. -/
theorem receive_runs
    (activity : ClientActivity)
    (intent : Intent) :
    run? ActivityStage.step? activity.stage
        (ClientActivity.handleReceiveIntent intent) =
      some activity.stage := by
  unfold ClientActivity.handleReceiveIntent
  split <;> rfl

theorem onCall_kept
    (kept : ActivitiesKept thread)
    (mWindow attached : Bool)
    (call : Call) :
    ActivitiesKept (thread.onCall mWindow attached call) := by
  cases call with
  | scheduleLaunchActivity pid activityName token intent =>
      exact
        onLaunchActivity_kept kept activityName token intent mWindow attached
  | scheduleStartActivity pid token intent =>
      exact withActivity_kept kept token (onStart_keepsAlive intent)
  | scheduleResumeActivity pid token intent =>
      exact withActivity_kept kept token (onResume_keepsAlive intent)
  | schedulePauseActivity pid token =>
      exact withActivity_kept kept token onPause_keepsAlive
  | scheduleStopActivity pid token =>
      exact withActivity_kept kept token onStop_keepsAlive
  | scheduleDestroyActivity pid token =>
      exact onDestroyActivity_kept kept token
  | setForegroundApplication pid isForeground =>
      refine kept_of_silent kept rfl rfl rfl rfl fun serial event member => ?_
      rw [List.mem_singleton.mp member]
      cases isForeground <;> rfl
  | terminateApplication pid =>
      exact
        kept_of_silent kept rfl rfl rfl (List.append_nil _).symm
          fun serial => List.forall_mem_nil _
  | pushForeground pid =>
      exact kept
  | intoBackground pid =>
      exact kept
  | addWindowToken token type =>
      exact kept
  | updateWindowTokenVisibility token visibility =>
      exact kept
  | removeWindowToken token =>
      exact kept

/-- Every action keeps what the records say about the objects. -/
theorem perform_kept
    (kept : ActivitiesKept thread)
    (action : ApplicationAction) :
    ActivitiesKept (thread.perform action) := by
  have noEvents :
      ∀ serial : Nat,
        ∀ event ∈ ([] : List ApplicationEvent),
          event.ofActivity? serial = none :=
    fun serial => List.forall_mem_nil _
  cases action with
  | call call mWindow attached =>
      exact onCall_kept kept mWindow attached call
  | onActivityResult token requestCode resultCode resultData =>
      rw [perform, onActivityResult]
      split
      · rename_i activity isFound
        exact observe_kept kept (findActivity_mem isFound).1 rfl
      · exact kept
  | service call serviceBinder =>
      refine kept_of_silent kept rfl rfl rfl rfl fun serial event member => ?_
      split at member
      · obtain ⟨_, _, isEvent⟩ := List.mem_map.mp member
        rw [← isEvent]
        rfl
      · exact absurd member List.not_mem_nil
  | scheduleReceiveIntent token intent =>
      cases token with
      | activity token =>
          rw [perform, scheduleReceiveIntent]
          split
          · rename_i activity isFound
            exact
              observe_kept kept (findActivity_mem isFound).1
                (receive_runs activity intent)
          · exact kept
      | service token =>
          rw [perform, scheduleReceiveIntent]
          split
          · refine
              kept_of_silent kept rfl rfl rfl rfl fun serial event member => ?_
            rw [List.mem_singleton.mp member]
            rfl
          · exact kept
      | application app =>
          refine
            kept_of_silent kept rfl rfl rfl rfl fun serial event member => ?_
          rw [List.mem_singleton.mp member]
          rfl
  | sigterm =>
      exact
        kept_of_silent (clearActivityAndService_kept kept) rfl rfl rfl
          (List.append_nil _).symm noEvents
  | terminate =>
      exact
        kept_of_silent (clearActivityAndService_kept kept) rfl rfl rfl
          (List.append_nil _).symm noEvents
  | stop =>
      exact
        kept_of_silent kept rfl rfl rfl (List.append_nil _).symm noEvents
  | leaveLoop =>
      refine kept_of_silent kept rfl rfl rfl rfl fun serial event member => ?_
      rw [List.mem_singleton.mp member]
      rfl

/-- A new process has no activity objects. -/
theorem start_kept
    (mActivityMap mServiceMap : List String) :
    ActivitiesKept (.start mActivityMap mServiceMap) where
  tokens := List.nodup_nil
  serials := List.nodup_nil
  launched := List.forall_mem_nil _
  statuses := List.forall_mem_nil _
  follows _ := rfl

end ApplicationThread

end ActivityManager
