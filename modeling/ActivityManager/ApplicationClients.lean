import ActivityManager.ApplicationRuns
import ActivityManager.ClientChannels

/-!
# One client for each activity

The protocol between the service and its clients gives every activity a client
of its own.  An application process serves many of them from one map.  As long
as nothing is launched under a token that has a record, the process and the
clients cannot be told apart: after the same actions the records and the
reports of every token are the same.
-/

namespace ActivityManager

open StepSystem (run? AllowedRun)
open EventTrace (eventsOf)

/-- The status that an activity reports. -/
def ActivityEvent.reported? : ActivityEvent → Option Status
  | .reportActivityStatus status => some status
  | _ => none

/-- The status that is reported for a token. -/
def ApplicationEvent.reported?
    (token : Nat) : ApplicationEvent → Option Status
  | .activity _ other event =>
      if other = token then event.reported? else none
  | _ => none

/-- A launch needs an activity that is registered. -/
def Call.isRegistered
    (mActivityMap : List String) : Call → Bool
  | .scheduleLaunchActivity _ activityName _ _ =>
      activityName ∈ mActivityMap
  | _ => true

/-- The token of a launch. -/
def ApplicationAction.launchedToken : ApplicationAction → Option Nat
  | .call (.scheduleLaunchActivity _ _ token _) _ _ => some token
  | _ => none

namespace ActivityClient

/-- What a clear does to a client. -/
def clear (client : ActivityClient) : ActivityClient × List Status :=
  match client.mExistActivity with
  | some record =>
      ({ mExistActivity := none, lastStatus := Status.destroyed },
        (if Status.started ≤ record.mStatus ∧
            record.mStatus ≤ Status.paused then
          [Status.stopped]
        else
          []) ++
          [Status.destroyed])
  | none =>
      (client, [])

/-- What an action of the process does to the client of a token. -/
def perform
    (mActivityMap : List String)
    (token : Nat)
    (client : ActivityClient) :
    ApplicationAction → ActivityClient × List Status
  | .call call _ attached =>
      if call.commandToken = some token then
        client.handle (call.isRegistered mActivityMap) attached call
      else
        (client, [])
  | .sigterm => client.clear
  | .terminate => client.clear
  | _ => (client, [])

/-- The client of a token, and its reports, after some actions. -/
def performAll
    (mActivityMap : List String)
    (token : Nat) :
    ActivityClient → List ApplicationAction → ActivityClient × List Status
  | client, [] =>
      (client, [])
  | client, action :: rest =>
      let performed := client.perform mActivityMap token action
      let later := performed.1.performAll mActivityMap token rest
      (later.1, performed.2 ++ later.2)

end ActivityClient

namespace ApplicationThread

/-- The statuses that the process reports for a token. -/
def reports
    (thread : ApplicationThread)
    (token : Nat) : List Status :=
  eventsOf ApplicationEvent.reported? token thread.trace

/-- The record of a token. -/
def recordOf
    (thread : ApplicationThread)
    (token : Nat) : Option ActivityClientRecord :=
  (thread.findActivity token).map ClientActivity.record

/-- A launch is for a token without a record. -/
def launchesFresh
    (thread : ApplicationThread)
    (action : ApplicationAction) : Prop :=
  ∀ token ∈ action.launchedToken, thread.findActivity token = none

instance (thread : ApplicationThread) (action : ApplicationAction) :
    Decidable (thread.launchesFresh action) :=
  inferInstanceAs (Decidable (∀ token ∈ action.launchedToken, _))

variable {thread next : ApplicationThread}

/-! ## Reports -/

/-- The reports among the events of one activity. -/
theorem eventsOf_reported?
    (token serial other : Nat)
    (events : List ActivityEvent) :
    eventsOf ApplicationEvent.reported? token
        (events.map (.activity serial other)) =
      if other = token then events.filterMap ActivityEvent.reported?
      else [] := by
  unfold eventsOf
  rw [List.filterMap_map]
  split
  · rename_i isToken
    refine List.filterMap_congr fun event _ => ?_
    simp [ApplicationEvent.reported?, isToken]
  · rename_i isOther
    refine List.filterMap_eq_nil_iff.mpr fun event _ => ?_
    simp [ApplicationEvent.reported?, isOther]

/-- Callbacks are no reports. -/
theorem events_reported?
    (effect : ClientEffect)
    (mWindow attached : Bool) :
    (effect.events mWindow attached).filterMap ActivityEvent.reported? =
      effect.reports := by
  have noReport :
      (effect.callbacks.flatMap
        (·.events mWindow attached)).filterMap ActivityEvent.reported? =
          [] := by
    refine List.filterMap_eq_nil_iff.mpr fun event member => ?_
    obtain ⟨callback, _, isEvent⟩ := List.mem_flatMap.mp member
    cases callback <;>
      simp only [ActivityCallback.events, List.mem_singleton] at isEvent
    case performCreate =>
        split at isEvent <;> rw [List.mem_singleton.mp isEvent] <;> rfl
    case performDestroy =>
        split at isEvent <;> simp at isEvent
        · rcases isEvent with isEvent | isEvent <;> rw [isEvent] <;> rfl
        · rw [isEvent]
          rfl
    all_goals
      rw [isEvent]
      rfl
  rw [ClientEffect.events, List.filterMap_append, noReport,
    List.nil_append, List.filterMap_map]
  exact (List.filterMap_congr fun status _ => rfl).trans
    List.filterMap_some

/-- What is reported when something happens to one activity. -/
theorem reports_observe
    (thread : ApplicationThread)
    (activity : ClientActivity)
    (events : List ActivityEvent)
    (token : Nat) :
    (thread.observe activity events).reports token =
      thread.reports token ++
        if activity.token = token then
          events.filterMap ActivityEvent.reported?
        else [] := by
  rw [reports, observe, EventTrace.eventsOf_append, eventsOf_reported?]
  rfl

/-! ## Records -/

/-- A handler changes the record of its own token. -/
theorem recordOf_handle
    {activity : ClientActivity}
    (isFound : thread.findActivity activity.token = some activity)
    (effect : ClientEffect)
    (token : Nat) :
    (thread.handle activity effect).recordOf token =
      if activity.token = token then some effect.record
      else thread.recordOf token := by
  have sameKey :
      (fun other : ClientActivity => other.token == token) ∘
          changeRecord activity effect.record =
        fun other => other.token == token := by
    funext other
    dsimp only [Function.comp]
    rw [changeRecord_token]
  have found :
      (thread.handle activity effect).findActivity token =
        (thread.findActivity token).map
          (changeRecord activity effect.record) := by
    show
      (thread.mExistActivities.map
        (changeRecord activity effect.record)).find? (·.token == token) = _
    rw [List.find?_map, sameKey]
    rfl
  rw [recordOf, found, Option.map_map, recordOf]
  split
  · rename_i isToken
    rw [← isToken, isFound]
    exact congrArg (some ∘ ClientActivity.record) (if_pos rfl)
  · rename_i isOther
    cases isRecord : thread.findActivity token with
    | none =>
        rfl
    | some other =>
        refine congrArg (some ∘ ClientActivity.record) (if_neg ?_)
        rw [(findActivity_mem isRecord).2]
        exact Ne.symm isOther

/-- Without its record an activity is not found. -/
theorem recordOf_deleteActivity
    (distinct : (thread.mExistActivities.map ClientActivity.token).Nodup)
    (token other : Nat) :
    (thread.deleteActivity token).recordOf other =
      if token = other then none else thread.recordOf other := by
  have left := eraseP_key distinct token
  rw [recordOf, findActivity, deleteActivity]
  dsimp only
  rw [left]
  split
  · rename_i isToken
    rw [KeyedList.find?_eq_none_iff.mpr]
    · rfl
    · intro activity member
      rw [← isToken]
      exact bne_iff_ne.mp (List.mem_filter.mp member).2
  · rename_i isOther
    rw [recordOf, findActivity]
    refine congrArg (Option.map _) (KeyedList.find?_congr distinct
      (distinct.sublist (List.filter_sublist.map _)) ?_)
    intro activity isRecord
    rw [List.mem_filter, bne_iff_ne, isRecord]
    exact and_iff_left (Ne.symm isOther)

/-- A launch under a token without a record adds one. -/
theorem recordOf_addActivity
    (distinct : (thread.mExistActivities.map ClientActivity.token).Nodup)
    {activity : ClientActivity}
    (isFresh : thread.findActivity activity.token = none)
    (token : Nat) :
    (thread.addActivity activity).recordOf token =
      if activity.token = token then some activity.record
      else thread.recordOf token := by
  have isAbsent := KeyedList.find?_eq_none_iff.mp isFresh
  have joins :=
    List.perm_orderedInsert
      (fun first second : ClientActivity => first.token ≤ second.token)
      activity thread.mExistActivities
  have nextDistinct :
      ((thread.mExistActivities.orderedInsert
        (fun first second => first.token ≤ second.token)
          activity).map ClientActivity.token).Nodup := by
    rw [(joins.map ClientActivity.token).nodup_iff, List.map_cons,
      List.nodup_cons]
    refine ⟨fun member => ?_, distinct⟩
    obtain ⟨other, isOther, sameToken⟩ := List.mem_map.mp member
    exact isAbsent other isOther sameToken
  rw [recordOf, findActivity, addActivity, isFresh]
  dsimp only
  split
  · rename_i isToken
    rw [(KeyedList.find?_eq_some_iff nextDistinct).mpr
      ⟨joins.mem_iff.mpr List.mem_cons_self, isToken⟩]
    rfl
  · rename_i isOther
    rw [recordOf, findActivity]
    refine congrArg (Option.map _) (KeyedList.find?_congr distinct
      nextDistinct fun other isRecord => ?_)
    rw [joins.mem_iff, List.mem_cons]
    refine or_iff_right fun isActivity => isOther ?_
    rw [← isRecord, isActivity]

/-! ## Actions -/

/-- The process does for a token what its client does. -/
structure Mirrors
    (thread next : ApplicationThread)
    (token : Nat)
    (performed : ActivityClient × List Status) : Prop where
  record : performed.1.mExistActivity = next.recordOf token
  reports : next.reports token = thread.reports token ++ performed.2

/-- Neither the process nor the client does anything. -/
theorem mirrors_idle
    {client : ActivityClient}
    {token : Nat}
    (same : client.mExistActivity = thread.recordOf token)
    (sameRecord : next.recordOf token = thread.recordOf token)
    (sameReports : next.reports token = thread.reports token) :
    Mirrors thread next token (client, []) where
  record := same.trans sameRecord.symm
  reports := sameReports.trans (List.append_nil _).symm

/-- A handler that keeps the record. -/
theorem withActivity_mirrors
    {client : ActivityClient}
    {token : Nat}
    (same : client.mExistActivity = thread.recordOf token)
    (handler : ActivityClientRecord → ClientEffect) :
    Mirrors thread (thread.withActivity token handler) token
      (client.withActivity handler true) := by
  unfold withActivity ActivityClient.withActivity
  rw [recordOf] at same
  cases isFound : thread.findActivity token with
  | none =>
      rw [isFound, Option.map_none] at same
      rw [same]
      exact
        mirrors_idle (same.trans (by rw [recordOf, isFound]; rfl)) rfl rfl
  | some activity =>
      obtain ⟨-, isToken⟩ := findActivity_mem isFound
      rw [isFound, Option.map_some] at same
      rw [same]
      constructor
      · dsimp only
        rw [recordOf_handle (isToken ▸ isFound), if_pos isToken, if_pos rfl]
      · dsimp only
        rw [handle, reports_observe, if_pos isToken, events_reported?]
        rfl

/-- A handler for another token. -/
theorem withActivity_other
    (handler : ActivityClientRecord → ClientEffect)
    {token other : Nat}
    (isOther : other ≠ token) :
    (thread.withActivity other handler).recordOf token =
        thread.recordOf token ∧
      (thread.withActivity other handler).reports token =
        thread.reports token := by
  unfold withActivity
  split
  · rename_i activity isFound
    obtain ⟨-, isToken⟩ := findActivity_mem isFound
    constructor
    · rw [recordOf_handle (isToken ▸ isFound), isToken, if_neg isOther]
    · rw [handle, reports_observe, isToken, if_neg isOther, List.append_nil]
      rfl
  · exact ⟨rfl, rfl⟩

/-- A launch, under a token without a record. -/
theorem onLaunchActivity_mirrors
    (kept : ActivitiesKept thread)
    {client : ActivityClient}
    {token : Nat}
    (same : client.mExistActivity = thread.recordOf token)
    (isFresh : thread.findActivity token = none)
    (activityName : String)
    (intent : Intent)
    (mWindow attached : Bool) :
    Mirrors thread
      (thread.onLaunchActivity activityName token intent mWindow attached)
      token
      (client.onLaunchActivity activityName intent
        (activityName ∈ thread.mActivityMap) attached) := by
  unfold onLaunchActivity ActivityClient.onLaunchActivity
  by_cases isRegistered : activityName ∈ thread.mActivityMap
  · rw [if_pos isRegistered, if_pos (decide_eq_true isRegistered)]
    constructor
    · cases attached with
      | false =>
          exact same
      | true =>
          refine Eq.symm ((recordOf_addActivity ?_ ?_ token).trans ?_)
          · exact kept.tokens
          · exact isFresh
          · exact if_pos rfl
    · dsimp only
      have sameTrace :
          ∀ {launched : ApplicationThread} {activity : ClientActivity},
            (if attached then launched.addActivity activity
              else launched).trace = launched.trace := by
        intro launched activity
        split
        · unfold addActivity
          split <;> rfl
        · rfl
      rw [reports, sameTrace, ← reports, reports_observe, if_pos rfl,
        List.filterMap_cons_none rfl, events_reported?]
      rfl
  · rw [if_neg isRegistered, if_neg (by simpa using isRegistered)]
    exact mirrors_idle same rfl rfl

/-- A launch under another token. -/
theorem onLaunchActivity_other
    (kept : ActivitiesKept thread)
    {token other : Nat}
    (isFresh : thread.findActivity other = none)
    (isOther : other ≠ token)
    (activityName : String)
    (intent : Intent)
    (mWindow attached : Bool) :
    let next :=
      thread.onLaunchActivity activityName other intent mWindow attached
    next.recordOf token = thread.recordOf token ∧
      next.reports token = thread.reports token := by
  dsimp only
  unfold onLaunchActivity
  split
  · dsimp only
    have noReport :
        ∀ activity events,
          activity.token = other →
          ({ thread with launches := thread.launches + 1 }.observe activity
            events).reports token = thread.reports token := by
      intro activity events isActivity
      rw [reports_observe, isActivity, if_neg isOther, List.append_nil]
      rfl
    cases attached with
    | false =>
        exact ⟨rfl, noReport _ _ rfl⟩
    | true =>
        constructor
        · refine (recordOf_addActivity ?_ ?_ token).trans ?_
          · exact kept.tokens
          · exact isFresh
          · exact if_neg isOther
        · rw [if_pos rfl]
          unfold addActivity
          split <;> exact noReport _ _ rfl
  · exact ⟨rfl, rfl⟩

/-- An activity is destroyed. -/
theorem onDestroyActivity_mirrors
    (kept : ActivitiesKept thread)
    {client : ActivityClient}
    {token : Nat}
    (same : client.mExistActivity = thread.recordOf token) :
    Mirrors thread (thread.onDestroyActivity token) token
      (client.withActivity (·.onDestroy) false) := by
  unfold onDestroyActivity ActivityClient.withActivity
  rw [recordOf] at same
  cases isFound : thread.findActivity token with
  | none =>
      rw [isFound, Option.map_none] at same
      rw [same]
      exact
        mirrors_idle (same.trans (by rw [recordOf, isFound]; rfl)) rfl rfl
  | some activity =>
      obtain ⟨-, isToken⟩ := findActivity_mem isFound
      rw [isFound, Option.map_some] at same
      rw [same]
      constructor
      · dsimp only
        rw [recordOf_deleteActivity, if_pos rfl]
        · exact if_neg Bool.false_ne_true
        · exact map_changeRecord_token thread activity _ ▸ kept.tokens
      · exact
          (reports_observe _ activity _ token).trans
            (by rw [if_pos isToken, events_reported?]; rfl)

/-- Another activity is destroyed. -/
theorem onDestroyActivity_other
    (kept : ActivitiesKept thread)
    {token other : Nat}
    (isOther : other ≠ token) :
    (thread.onDestroyActivity other).recordOf token =
        thread.recordOf token ∧
      (thread.onDestroyActivity other).reports token =
        thread.reports token := by
  unfold onDestroyActivity
  split
  · rename_i activity isFound
    obtain ⟨-, isToken⟩ := findActivity_mem isFound
    constructor
    · rw [recordOf_deleteActivity, if_neg isOther,
        recordOf_handle (isToken ▸ isFound), isToken, if_neg isOther]
      exact map_changeRecord_token thread activity _ ▸ kept.tokens
    · exact
        (reports_observe _ activity _ token).trans
          (by rw [isToken, if_neg isOther, List.append_nil]; rfl)
  · exact ⟨rfl, rfl⟩

/-! ### A clear -/

/-- What an activity reports in a clear. -/
theorem clearEvents_reported?
    {activity : ClientActivity}
    (notDestroyed : activity.record.mStatus < Status.destroying) :
    activity.clearEvents.filterMap ActivityEvent.reported? =
      (if Status.started ≤ activity.record.mStatus ∧
          activity.record.mStatus ≤ Status.paused then
        [Status.stopped]
      else
        []) ++
        [Status.destroyed] := by
  unfold ClientActivity.clearEvents
  dsimp only
  rw [if_pos notDestroyed, List.filterMap_append, events_reported?,
    events_reported?]
  split <;> rfl

/-- Services report nothing about activities. -/
theorem serviceClears_reported?
    (thread : ApplicationThread)
    (token : Nat) :
    eventsOf ApplicationEvent.reported? token thread.serviceClears =
      [] := by
  refine List.filterMap_eq_nil_iff.mpr fun event member => ?_
  obtain ⟨record, _, isClear⟩ := List.mem_flatMap.mp member
  obtain ⟨_, _, isEvent⟩ := List.mem_map.mp isClear
  rw [← isEvent]
  rfl

theorem clearActivityAndService_mirrors
    (kept : ActivitiesKept thread)
    {client : ActivityClient}
    {token : Nat}
    (same : client.mExistActivity = thread.recordOf token) :
    Mirrors thread thread.clearActivityAndService token client.clear := by
  have ownReports :=
    EventTrace.eventsOf_flatMap ClientActivity.token kept.tokens
      (fun activity _ other =>
        eventsOf_reported? other activity.serial activity.token
          activity.clearEvents)
      token
  have isTrace :
      thread.clearActivityAndService.reports token =
        thread.reports token ++
          ((thread.findActivity token).map fun activity =>
            activity.clearEvents.filterMap
              ActivityEvent.reported?).getD [] := by
    rw [reports, show
      thread.clearActivityAndService.trace =
        thread.trace ++ thread.activityClears ++ thread.serviceClears
      from rfl, EventTrace.eventsOf_append, EventTrace.eventsOf_append,
      serviceClears_reported?, List.append_nil, activityClears, ownReports]
    rfl
  unfold ActivityClient.clear
  rw [recordOf] at same
  cases isFound : thread.findActivity token with
  | none =>
      rw [isFound, Option.map_none] at same
      rw [same]
      rw [isFound, Option.map_none, Option.getD_none,
        List.append_nil] at isTrace
      exact mirrors_idle (same.trans (by rw [recordOf, isFound]; rfl))
        (by rw [recordOf, recordOf, isFound]; rfl) isTrace
  | some activity =>
      rw [isFound, Option.map_some] at same
      rw [same]
      rw [isFound, Option.map_some, Option.getD_some,
        clearEvents_reported?
          (kept.statuses activity (findActivity_mem isFound).1)] at isTrace
      exact ⟨rfl, isTrace⟩

/-! ### Steps -/

/-- Nothing happens to activities. -/
theorem mirrors_apart
    {client : ActivityClient}
    {token : Nat}
    (same : client.mExistActivity = thread.recordOf token)
    (sameActivities : next.mExistActivities = thread.mExistActivities)
    {events : List ApplicationEvent}
    (isTrace : next.trace = thread.trace ++ events)
    (noReport : ∀ event ∈ events, event.reported? token = none) :
    Mirrors thread next token (client, []) := by
  have silent :
      eventsOf ApplicationEvent.reported? token events = [] :=
    List.filterMap_eq_nil_iff.mpr noReport
  refine mirrors_idle same ?_ ?_
  · rw [recordOf, findActivity, sameActivities]
    rfl
  · rw [reports, isTrace, EventTrace.eventsOf_append, silent,
      List.append_nil]
    rfl

/-- A call, for the token or for another one. -/
theorem onCall_mirrors
    (kept : ActivitiesKept thread)
    {client : ActivityClient}
    {token : Nat}
    (same : client.mExistActivity = thread.recordOf token)
    {call : Call}
    {mWindow attached : Bool}
    (isFresh : thread.launchesFresh (.call call mWindow attached)) :
    Mirrors thread (thread.onCall mWindow attached call) token
      (client.perform thread.mActivityMap token
        (.call call mWindow attached)) := by
  have handled :
      ∀ other (handler : ActivityClientRecord → ClientEffect),
        Mirrors thread (thread.withActivity other handler) token
          (if some other = some token then client.withActivity handler true
          else (client, [])) := by
    intro other handler
    split
    · rename_i isToken
      rw [Option.some_inj.mp isToken]
      exact withActivity_mirrors same handler
    · rename_i isOther
      obtain ⟨sameRecord, sameReports⟩ :=
        withActivity_other handler fun isToken =>
          isOther (congrArg some isToken)
      exact mirrors_idle same sameRecord sameReports
  cases call with
  | scheduleLaunchActivity pid activityName other intent =>
      rw [ActivityClient.perform, Call.commandToken]
      split
      · rename_i isToken
        cases isToken
        exact
          onLaunchActivity_mirrors kept same (isFresh _ rfl) activityName
            intent mWindow attached
      · rename_i isOther
        obtain ⟨sameRecord, sameReports⟩ :=
          onLaunchActivity_other kept (isFresh _ rfl)
            (fun isToken => isOther (congrArg some isToken)) activityName
            intent mWindow attached
        exact mirrors_idle same sameRecord sameReports
  | scheduleStartActivity pid other intent =>
      exact handled other (·.onStart intent)
  | scheduleResumeActivity pid other intent =>
      exact handled other (·.onResume intent)
  | schedulePauseActivity pid other =>
      exact handled other (·.onPause)
  | scheduleStopActivity pid other =>
      exact handled other (·.onStop)
  | scheduleDestroyActivity pid other =>
      rw [ActivityClient.perform, Call.commandToken]
      split
      · rename_i isToken
        cases isToken
        exact onDestroyActivity_mirrors kept same
      · rename_i isOther
        obtain ⟨sameRecord, sameReports⟩ :=
          onDestroyActivity_other kept fun isToken =>
            isOther (congrArg some isToken)
        exact mirrors_idle same sameRecord sameReports
  | setForegroundApplication pid isForeground =>
      refine mirrors_apart same rfl rfl fun event member => ?_
      rw [List.mem_singleton.mp member]
      cases isForeground <;> rfl
  | terminateApplication pid =>
      exact mirrors_idle same rfl rfl
  | pushForeground pid =>
      exact mirrors_idle same rfl rfl
  | intoBackground pid =>
      exact mirrors_idle same rfl rfl
  | addWindowToken other type =>
      exact mirrors_idle same rfl rfl
  | updateWindowTokenVisibility other visibility =>
      exact mirrors_idle same rfl rfl
  | removeWindowToken other =>
      exact mirrors_idle same rfl rfl

/-- Events of an activity that are no reports. -/
theorem observe_mirrors
    {client : ActivityClient}
    {token : Nat}
    (same : client.mExistActivity = thread.recordOf token)
    (activity : ClientActivity)
    {events : List ActivityEvent}
    (noReport : events.filterMap ActivityEvent.reported? = []) :
    Mirrors thread (thread.observe activity events) token (client, []) := by
  refine mirrors_idle same rfl ?_
  rw [reports_observe, noReport, ite_self, List.append_nil]

/-- Every action does to the records what it does to the clients. -/
theorem perform_mirrors
    (kept : ActivitiesKept thread)
    {client : ActivityClient}
    {token : Nat}
    (same : client.mExistActivity = thread.recordOf token)
    {action : ApplicationAction}
    (isFresh : thread.launchesFresh action) :
    Mirrors thread (thread.perform action) token
      (client.perform thread.mActivityMap token action) := by
  cases action with
  | call call mWindow attached =>
      exact onCall_mirrors kept same isFresh
  | onActivityResult other requestCode resultCode resultData =>
      rw [perform, onActivityResult]
      split
      · exact observe_mirrors same _ rfl
      · exact mirrors_idle same rfl rfl
  | service call serviceBinder =>
      refine mirrors_apart same rfl rfl fun event member => ?_
      split at member
      · obtain ⟨_, _, isEvent⟩ := List.mem_map.mp member
        rw [← isEvent]
        rfl
      · exact absurd member List.not_mem_nil
  | scheduleReceiveIntent other intent =>
      cases other with
      | activity other =>
          rw [perform, scheduleReceiveIntent]
          split
          · refine observe_mirrors same _ ?_
            unfold ClientActivity.handleReceiveIntent
            split <;> rfl
          · exact mirrors_idle same rfl rfl
      | service other =>
          rw [perform, scheduleReceiveIntent]
          split
          · refine mirrors_apart same rfl rfl fun event member => ?_
            rw [List.mem_singleton.mp member]
            rfl
          · exact mirrors_idle same rfl rfl
      | application app =>
          refine mirrors_apart same rfl rfl fun event member => ?_
          rw [List.mem_singleton.mp member]
          rfl
  | sigterm =>
      obtain ⟨sameRecord, sameReports⟩ :=
        clearActivityAndService_mirrors kept same
      exact ⟨sameRecord, sameReports⟩
  | terminate =>
      obtain ⟨sameRecord, sameReports⟩ :=
        clearActivityAndService_mirrors kept same
      exact ⟨sameRecord, sameReports⟩
  | stop =>
      exact mirrors_idle same rfl rfl
  | leaveLoop =>
      refine mirrors_apart same rfl rfl fun event member => ?_
      rw [List.mem_singleton.mp member]
      rfl

/-- The registered activities stay. -/
theorem perform_mActivityMap
    (thread : ApplicationThread)
    (action : ApplicationAction) :
    (thread.perform action).mActivityMap = thread.mActivityMap := by
  have handled :
      ∀ token handler,
        (thread.withActivity token handler).mActivityMap =
          thread.mActivityMap := by
    intro token handler
    unfold withActivity
    split <;> rfl
  cases action with
  | call call mWindow attached =>
      cases call with
      | scheduleLaunchActivity pid activityName token intent =>
          rw [perform, onCall, onLaunchActivity]
          split
          · dsimp only
            split
            · unfold addActivity
              split <;> rfl
            · rfl
          · rfl
      | scheduleStartActivity pid token intent =>
          exact handled token _
      | scheduleResumeActivity pid token intent =>
          exact handled token _
      | schedulePauseActivity pid token =>
          exact handled token _
      | scheduleStopActivity pid token =>
          exact handled token _
      | scheduleDestroyActivity pid token =>
          rw [perform, onCall, onDestroyActivity]
          split <;> rfl
      | _ =>
          rfl
  | onActivityResult token requestCode resultCode resultData =>
      rw [perform, onActivityResult]
      split <;> rfl
  | scheduleReceiveIntent token intent =>
      cases token <;> rw [perform, scheduleReceiveIntent] <;>
        try split <;> rfl
  | _ =>
      rfl

/-! ## Runs -/

/-- The clients stay in step with the process in a run. -/
theorem performAll_mirrors
    {actions : List ApplicationAction}
    (kept : ActivitiesKept thread)
    {client : ActivityClient}
    {token : Nat}
    (same : client.mExistActivity = thread.recordOf token)
    (fresh : AllowedRun step? launchesFresh thread actions)
    (accepted : run? step? thread actions = some next) :
    Mirrors thread next token
      (client.performAll thread.mActivityMap token actions) := by
  induction actions generalizing thread client with
  | nil =>
      rw [run?, Option.some.injEq] at accepted
      rw [accepted]
      exact mirrors_idle (accepted ▸ same) rfl rfl
  | cons action rest inductionHypothesis =>
      rw [run?] at accepted
      obtain ⟨isFresh, restFresh⟩ := fresh
      cases isStep : thread.step? action with
      | none =>
          rw [isStep] at accepted
          cases accepted
      | some middle =>
          rw [isStep] at accepted restFresh
          have isPerformed : thread.perform action = middle :=
            step?_eq_some isStep
          have first := perform_mirrors kept same isFresh
          rw [isPerformed] at first
          have sameMap : middle.mActivityMap = thread.mActivityMap := by
            rw [← isPerformed, perform_mActivityMap]
          have later :=
            inductionHypothesis (isPerformed ▸ perform_kept kept action)
              first.record restFresh accepted
          rw [sameMap] at later
          constructor
          · exact later.record
          · rw [later.reports, first.reports, List.append_assoc]
            rfl

/--
A process that never launches an activity under a token in use is, for every
token, the client that the protocol gives to it: after any run it has the same
record and has sent the same reports.
-/
theorem refinesClients_of_run
    (mActivityMap mServiceMap : List String)
    (actions : List ApplicationAction)
    (thread : ApplicationThread)
    (fresh :
      AllowedRun step? launchesFresh (start mActivityMap mServiceMap)
        actions)
    (accepted :
      run? step? (start mActivityMap mServiceMap) actions = some thread)
    (token : Nat) :
    let client :=
      ActivityClient.unknown.performAll mActivityMap token actions
    client.1.mExistActivity = thread.recordOf token ∧
      client.2 = thread.reports token := by
  have mirrored :
      Mirrors (start mActivityMap mServiceMap) thread token
        (ActivityClient.unknown.performAll mActivityMap token actions) :=
    performAll_mirrors (start_kept _ _) rfl fresh accepted
  exact ⟨mirrored.record, mirrored.reports.symm⟩

/-- Two activities, one of which is destroyed before the process ends. -/
def twoActivities : List ApplicationAction :=
  [.call (.scheduleLaunchActivity 1 "main" 7 ⟨"app/main", "", "", 0⟩) true
      true,
    .call (.scheduleLaunchActivity 1 "main" 8 ⟨"app/main", "", "", 0⟩) true
      true,
    .call (.scheduleStartActivity 1 8 none) true true,
    .call (.scheduleDestroyActivity 1 7) true true,
    .sigterm]

theorem refinesClients_of_run_twoActivities :
    ∃ thread,
      run? step? (start ["main"] []) twoActivities = some thread ∧
        (ActivityClient.unknown.performAll ["main"] 8
          twoActivities).2 = thread.reports 8 ∧
        thread.reports 8 =
          [Status.created, Status.started, Status.stopped,
            Status.destroyed] := by
  have fresh :
      AllowedRun step? launchesFresh (start ["main"] []) twoActivities := by
    decide
  obtain ⟨thread, accepted⟩ :
      ∃ thread,
        run? step? (start ["main"] []) twoActivities = some thread :=
    ⟨_, rfl⟩
  have refined :=
    refinesClients_of_run ["main"] [] twoActivities thread fresh accepted 8
  exact ⟨thread, accepted, refined.2, refined.2.symm⟩

end ApplicationThread

end ActivityManager
