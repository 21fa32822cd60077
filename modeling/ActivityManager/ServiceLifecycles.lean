import ActivityManager.ApplicationLifecycles

/-!
# The lives of services

A service object is created with its first request, and is destroyed once.
While it lives it may be bound: it is asked for a binder, publishes it, and
hands it to every connection until it is unbound.  Its record is deleted with
it, so a token can be used again.
-/

namespace ActivityManager

open StepSystem (run? run?_append)
open EventTrace (eventsOf Follows)

/-- Whether a service is bound, and with which binder. -/
inductive ServiceBinding where
  | unbound
  /-- It has returned a binder that is not published yet. -/
  | asked (serviceBinder : Option Nat)
  | bound (serviceBinder : Option Nat)
  deriving Repr, DecidableEq

/-- The stages of a service. -/
inductive ServiceStage where
  | absent
  | alive (binding : ServiceBinding)
  | dying
  deriving Repr, DecidableEq

namespace ServiceStage

/-- What may happen next to a service that is alive. -/
def stepAlive? :
    ServiceBinding → ServiceEvent → Option ServiceStage
  | binding, .setIntent _ =>
      some (.alive binding)
  | binding, .onStartCommand _ =>
      some (.alive binding)
  | binding, .onReceiveIntent _ =>
      some (.alive binding)
  | .unbound, .onBind _ serviceBinder =>
      some (.alive (.asked serviceBinder))
  | .asked serviceBinder, .report (.publishService _ published) =>
      if published = serviceBinder then
        some (.alive (.bound serviceBinder))
      else
        none
  | .bound serviceBinder, .onServiceConnected _ connected =>
      if serviceBinder = some connected then
        some (.alive (.bound serviceBinder))
      else
        none
  | .bound _, .onUnbind =>
      some (.alive .unbound)
  | binding, .report (.reportServiceStatus _ status) =>
      if status < ServiceStatus.destroying then some (.alive binding)
      else none
  | _, .onDestroy =>
      some .dying
  | _, _ =>
      none

/-- What may happen next to a service. -/
def step? : ServiceStage → ServiceEvent → Option ServiceStage
  | .absent, .onCreate =>
      some (.alive .unbound)
  | .alive binding, event =>
      stepAlive? binding event
  | .dying, .report (.reportServiceStatus _ status) =>
      if status = ServiceStatus.destroyed then some .absent else none
  | _, _ =>
      none

end ServiceStage

/-- The events of the service of a token. -/
def ApplicationEvent.ofService?
    (token : Nat) : ApplicationEvent → Option ServiceEvent
  | .service other event => if other = token then some event else none
  | _ => none

namespace ServiceClientRecord

/-- Whether the service is bound. -/
def binding (record : ServiceClientRecord) : ServiceBinding :=
  if record.mIsBinded then .bound record.mServiceBinder else .unbound

/-- A record of the list: its service is created, and not yet destroyed. -/
def IsCreated (record : ServiceClientRecord) : Prop :=
  record.mStatus ≠ ServiceStatus.creating ∧
    record.mStatus < ServiceStatus.destroying

variable (record : ServiceClientRecord)

/-- A service that is alive starts. -/
theorem onStart_runs
    (intent : Intent) :
    run? ServiceStage.step? (.alive record.binding)
        [.setIntent intent, .onStartCommand intent,
          .report (.reportServiceStatus record.mToken
            ServiceStatus.started)] =
      some (.alive record.onStart.record.binding) := by
  have same : record.onStart.record.binding = record.binding := by
    rfl
  rw [same]
  cases record.binding <;>
    simp [run?, ServiceStage.step?, ServiceStage.stepAlive?]

/-- A service that is alive is bound. -/
theorem onBind_runs
    (intent : Intent)
    (conn : Nat)
    (serviceBinder : Option Nat) :
    run? ServiceStage.step? (.alive record.binding)
        ((.setIntent intent :: record.bindEvents intent conn serviceBinder)
          ++ [.report (.reportServiceStatus record.mToken
            ServiceStatus.binded)]) =
      some (.alive (record.onBind serviceBinder).record.binding) := by
  cases isBinded : record.mIsBinded with
  | true =>
      cases isBinder : record.mServiceBinder <;>
        simp [binding, bindEvents, onBind, isBinded, isBinder, run?,
          ServiceStage.step?, ServiceStage.stepAlive?]
  | false =>
      cases serviceBinder <;>
        simp [binding, bindEvents, onBind, isBinded, run?,
          ServiceStage.step?, ServiceStage.stepAlive?]

/-- A service that is alive is unbound, if it was bound. -/
theorem onUnbind_runs :
    run? ServiceStage.step? (.alive record.binding) record.onUnbindEvents =
      some (.alive record.onUnbind.record.binding) := by
  unfold onUnbindEvents onUnbind
  split
  · cases isBinded : record.mIsBinded <;>
      simp [binding, isBinded, run?, ServiceStage.step?,
        ServiceStage.stepAlive?]
  · rfl

/-- A service that is alive is destroyed. -/
theorem onDestroy_runs
    (binding : ServiceBinding) :
    run? ServiceStage.step? (.alive binding) record.onDestroyEvents =
      some .absent := by
  cases binding <;>
    simp [onDestroyEvents, run?, ServiceStage.step?,
      ServiceStage.stepAlive?]

end ServiceClientRecord

/-! ## The list of services -/

namespace Application

variable {mApp opened : Application}

/-- A record is found under its own token after its handler. -/
theorem findService_handle
    (mApp : Application)
    {effect : ServiceClientEffect}
    {record : ServiceClientRecord}
    (isFound : mApp.findService effect.record.mToken = some record)
    (token : Nat) :
    (mApp.handle effect).1.findService token =
      if token = effect.record.mToken then some effect.record
      else mApp.findService token := by
  have sameKey :
      (fun record : ServiceClientRecord => record.mToken == token) ∘
          (fun record =>
            if record.mToken = effect.record.mToken then effect.record
            else record) =
        fun record => record.mToken == token := by
    funext record
    dsimp only [Function.comp]
    split
    · rename_i isToken
      rw [isToken]
    · rfl
  rw [findService, handle]
  dsimp only
  rw [List.find?_map, sameKey]
  split
  · rename_i isToken
    rw [← findService, isToken, isFound]
    exact congrArg some (if_pos (mToken_of_findService isFound))
  · rename_i isOther
    rw [← findService]
    cases isRecord : mApp.findService token with
    | none =>
        rfl
    | some other =>
        refine congrArg some (if_neg ?_)
        rw [mToken_of_findService isRecord]
        exact isOther

/-- Another service is found as before when one is added. -/
theorem findService_addService
    (mApp : Application)
    (record : ServiceClientRecord)
    (token : Nat) :
    (mApp.addService record).findService token =
      (mApp.findService token).or
        (if record.mToken = token then some record else none) := by
  rw [findService, addService]
  dsimp only
  rw [List.find?_append, ← findService, List.find?_singleton]
  simp only [beq_iff_eq]

/-- The other records stay, in some order. -/
theorem deleteService_perm
    (distinct : mApp.tokens.Nodup)
    (token : Nat) :
    (mApp.deleteService token).mExistServices.Perm
      (mApp.mExistServices.filter (·.mToken != token)) :=
  swapRemove_key distinct token

/-- No service is found under a token after its record is deleted. -/
theorem findService_deleteService
    (distinct : mApp.tokens.Nodup)
    (token other : Nat) :
    (mApp.deleteService token).findService other =
      if other = token then none else mApp.findService other := by
  have left := deleteService_perm distinct token
  have mem_left :
      ∀ record,
        record ∈ (mApp.deleteService token).mExistServices ↔
          record ∈ mApp.mExistServices ∧ record.mToken ≠ token := by
    intro record
    rw [left.mem_iff, List.mem_filter, bne_iff_ne]
  have nextDistinct :
      ((mApp.deleteService token).mExistServices.map
        ServiceClientRecord.mToken).Nodup := by
    rw [(left.map ServiceClientRecord.mToken).nodup_iff]
    exact distinct.sublist (List.filter_sublist.map _)
  split
  · rename_i isToken
    refine KeyedList.find?_eq_none_iff.mpr fun record member => ?_
    rw [isToken]
    exact ((mem_left record).mp member).2
  · rename_i isOther
    refine KeyedList.find?_congr distinct nextDistinct
      fun record isRecord => ?_
    rw [mem_left]
    exact and_iff_left (isRecord ▸ isOther)

/-- The stage of a service. -/
def stage
    (mApp : Application)
    (token : Nat) : ServiceStage :=
  match mApp.findService token with
  | some record => .alive record.binding
  | none => .absent

/-- Every record of the list is of a service that was created. -/
def AllCreated (mApp : Application) : Prop :=
  ∀ record ∈ mApp.mExistServices, record.IsCreated

/-- A service that is asked to start, from its stage before. -/
theorem openService_runs
    (created : mApp.AllCreated)
    {serviceName : String}
    {token : Nat}
    {record : ServiceClientRecord}
    (isOpen : mApp.openService serviceName token = some (opened, record)) :
    opened.findService token = some record ∧
      (∀ other ≠ token,
        opened.findService other = mApp.findService other) ∧
      (∀ other ∈ opened.mExistServices,
        other.mToken ≠ token → other ∈ mApp.mExistServices) ∧
      run? ServiceStage.step? (mApp.stage token) record.createEvents =
        some (.alive record.binding) := by
  unfold openService at isOpen
  split at isOpen
  · rename_i found isFound
    rw [Option.some.injEq, Prod.mk.injEq] at isOpen
    rw [← isOpen.1, ← isOpen.2]
    have isCreated := created found (List.mem_of_find?_eq_some isFound)
    refine ⟨isFound, fun _ _ => rfl, fun _ member _ => member, ?_⟩
    rw [stage, isFound, ServiceClientRecord.createEvents,
      if_neg isCreated.1]
    rfl
  · rename_i notFound
    dsimp only at isOpen
    split at isOpen
    · rw [Option.some.injEq, Prod.mk.injEq] at isOpen
      rw [← isOpen.1, ← isOpen.2]
      refine ⟨?_, fun other isOther => ?_, fun other member isOther => ?_, ?_⟩
      · rw [findService_addService, notFound, Option.none_or]
        exact if_pos rfl
      · rw [findService_addService, if_neg, Option.or_none]
        exact Ne.symm isOther
      · obtain isOld | isNew := List.mem_append.mp member
        · exact isOld
        · rw [List.mem_singleton.mp isNew] at isOther
          exact absurd rfl isOther
      · rw [stage, notFound]
        simp [ServiceClientRecord.createEvents, ServiceClientRecord.fresh,
          ServiceClientRecord.binding, run?, ServiceStage.step?,
          ServiceStage.stepAlive?]
    · cases isOpen

end Application

/-! ## What the process keeps -/

/-- What the records of a process say about its services. -/
structure ServicesKept (thread : ApplicationThread) : Prop where
  distinct : thread.mApp.tokens.Nodup
  created : thread.mApp.AllCreated
  follows :
    Follows ServiceStage.step? ApplicationEvent.ofService? .absent
      thread.trace thread.mApp.stage

namespace ApplicationThread

variable {thread next : ApplicationThread}

/-- The events that one service leaves behind. -/
theorem eventsOf_ofService?
    (token other : Nat)
    (events : List ServiceEvent) :
    eventsOf ApplicationEvent.ofService? other
        (events.map (.service token)) =
      if token = other then events else [] := by
  unfold eventsOf
  rw [List.filterMap_map]
  split
  · rename_i isToken
    refine (List.filterMap_congr fun event _ => ?_).trans
      List.filterMap_some
    simp [ApplicationEvent.ofService?, isToken]
  · rename_i isOther
    refine List.filterMap_eq_nil_iff.mpr fun event _ => ?_
    simp [ApplicationEvent.ofService?, isOther]

/-- Events of one service; the others stay as they are. -/
theorem services_of_one
    (kept : ServicesKept thread)
    {token : Nat}
    {events : List ServiceEvent}
    (isTrace :
      next.trace = thread.trace ++ events.map (.service token))
    (runs :
      run? ServiceStage.step? (thread.mApp.stage token) events =
        some (next.mApp.stage token))
    (others :
      ∀ other ≠ token,
        next.mApp.findService other = thread.mApp.findService other)
    (distinct : next.mApp.tokens.Nodup)
    (created : next.mApp.AllCreated) :
    ServicesKept next where
  distinct := distinct
  created := created
  follows := by
    rw [isTrace]
    refine kept.follows.append fun other => ?_
    rw [eventsOf_ofService?]
    split
    · rename_i isToken
      rw [← isToken]
      exact runs
    · rename_i isOther
      rw [Application.stage, Application.stage,
        others other (Ne.symm isOther)]
      rfl

/-- Nothing happens to any service. -/
theorem services_of_silent
    (kept : ServicesKept thread)
    (sameApp : next.mApp = thread.mApp)
    {events : List ApplicationEvent}
    (isTrace : next.trace = thread.trace ++ events)
    (silent :
      ∀ token, ∀ event ∈ events, event.ofService? token = none) :
    ServicesKept next where
  distinct := by
    rw [sameApp]
    exact kept.distinct
  created := by
    rw [sameApp]
    exact kept.created
  follows := by
    rw [isTrace, sameApp]
    exact
      kept.follows.append_of_silent
        (fun token => List.filterMap_eq_nil_iff.mpr (silent token))
        fun _ => rfl

/-- A service that is there, or comes to life, serves a request. -/
theorem services_of_open
    (kept : ServicesKept thread)
    {serviceName : String}
    {token : Nat}
    {opened : Application}
    {record : ServiceClientRecord}
    {effect : ServiceClientEffect}
    {events : List ServiceEvent}
    (isOpen :
      thread.mApp.openService serviceName token = some (opened, record))
    (sameToken : effect.record.mToken = record.mToken)
    (runs :
      run? ServiceStage.step? (.alive record.binding) events =
        some (.alive effect.record.binding))
    (isCreated : effect.record.IsCreated) :
    ServicesKept
      { thread with
        mApp := (opened.handle effect).1
        trace :=
          thread.trace ++
            (record.createEvents ++ events).map (.service token) } := by
  obtain ⟨isToken, _, distinct⟩ := Application.openService_tokens isOpen
  obtain ⟨isFound, others, isOld, createRuns⟩ :=
    Application.openService_runs kept.created isOpen
  have isEffect : effect.record.mToken = token := sameToken.trans isToken
  have found :=
    Application.findService_handle opened (isEffect ▸ isFound)
  refine services_of_one kept rfl ?_ ?_ ?_ ?_
  · rw [run?_append, createRuns, Option.bind_some, runs]
    dsimp only
    rw [Application.stage, found token, if_pos isEffect.symm]
  · intro other isOther
    dsimp only
    rw [found other, if_neg (isEffect ▸ isOther), others other isOther]
  · dsimp only
    rw [Application.handle_tokens]
    exact distinct kept.distinct
  · intro other member
    obtain ⟨before, wasThere, isOther⟩ := List.mem_map.mp member
    rw [← isOther]
    split
    · exact isCreated
    · rename_i notToken
      exact kept.created before
        (isOld before wasThere (isEffect ▸ notToken))

/-- A service that is alive is unbound. -/
theorem services_of_unbind
    (kept : ServicesKept thread)
    {token : Nat}
    {record : ServiceClientRecord}
    (isFound : thread.mApp.findService token = some record) :
    ServicesKept
      { thread with
        mApp := (thread.mApp.handle record.onUnbind).1
        trace :=
          thread.trace ++ record.onUnbindEvents.map (.service token) } := by
  have isToken := Application.mToken_of_findService isFound
  have isCreated :=
    kept.created record (List.mem_of_find?_eq_some isFound)
  have sameToken : record.onUnbind.record.mToken = token := by
    rw [← isToken, ServiceClientRecord.onUnbind]
    split <;> rfl
  have found :=
    Application.findService_handle thread.mApp (sameToken ▸ isFound)
  refine services_of_one kept rfl ?_ ?_ ?_ ?_
  · dsimp only
    rw [Application.stage, isFound, Application.stage, found token,
      if_pos sameToken.symm]
    exact record.onUnbind_runs
  · intro other isOther
    dsimp only
    rw [found other, if_neg (sameToken ▸ isOther)]
  · dsimp only
    rw [Application.handle_tokens]
    exact kept.distinct
  · intro other member
    obtain ⟨before, wasThere, isOther⟩ := List.mem_map.mp member
    rw [← isOther]
    split
    · rw [ServiceClientRecord.onUnbind]
      split
      · exact ⟨by simp, by simp⟩
      · exact isCreated
    · exact kept.created before wasThere

/-- A service that is alive is stopped. -/
theorem services_of_stop
    (kept : ServicesKept thread)
    {token : Nat}
    {record : ServiceClientRecord}
    (isFound : thread.mApp.findService token = some record) :
    ServicesKept
      { thread with
        mApp :=
          (thread.mApp.handle record.onDestroy).1.deleteService token
        trace :=
          thread.trace ++ record.onDestroyEvents.map (.service token) } := by
  have isRecord := Application.mToken_of_findService isFound
  have isToken : record.onDestroy.record.mToken = token := isRecord
  have distinct :
      (thread.mApp.handle record.onDestroy).1.tokens.Nodup := by
    rw [Application.handle_tokens]
    exact kept.distinct
  have found :=
    Application.findService_handle thread.mApp (isToken ▸ isFound)
  have left :=
    Application.findService_deleteService distinct token
  have deleted := Application.deleteService_perm distinct token
  refine services_of_one kept rfl ?_ ?_ ?_ ?_
  · dsimp only
    rw [Application.stage, isFound, Application.stage, left token,
      if_pos rfl]
    exact record.onDestroy_runs record.binding
  · intro other isOther
    dsimp only
    rw [left other, if_neg isOther, found other, if_neg (isToken ▸ isOther)]
  · exact
      (deleted.map ServiceClientRecord.mToken).nodup_iff.mpr
        (distinct.sublist (List.filter_sublist.map _))
  · intro other member
    obtain ⟨wasThere, otherToken⟩ :=
      List.mem_filter.mp (deleted.mem_iff.mp member)
    obtain ⟨before, isBefore, isOther⟩ := List.mem_map.mp wasThere
    rw [← isOther] at otherToken ⊢
    split at otherToken
    · rename_i sameToken
      rw [isToken] at otherToken
      exact absurd rfl (bne_iff_ne.mp otherToken)
    · rename_i notToken
      rw [if_neg notToken]
      exact kept.created before isBefore

/-- A call about a service keeps what the records say. -/
theorem onService_kept
    (kept : ServicesKept thread)
    (serviceBinder : Option Nat)
    (call : ServiceCall) :
    ServicesKept (thread.onService serviceBinder call) := by
  have unchanged :
      ServicesKept { thread with trace := thread.trace ++ [] } :=
    services_of_silent kept rfl rfl fun _ => List.forall_mem_nil _
  cases call with
  | scheduleStartService pid serviceName token intent =>
      rw [onService, Application.onCall, Application.onStartService,
        Application.callEvents]
      cases isOpen : thread.mApp.openService serviceName token with
      | none =>
          exact unchanged
      | some opened =>
          exact
            services_of_open kept isOpen rfl
              (opened.2.onStart_runs intent)
              ⟨by simp [ServiceClientRecord.onStart],
                by simp [ServiceClientRecord.onStart]⟩
  | scheduleBindService pid serviceName token intent conn =>
      rw [onService, Application.onCall, Application.onBindService,
        Application.callEvents]
      cases isOpen : thread.mApp.openService serviceName token with
      | none =>
          exact unchanged
      | some opened =>
          have served :=
            services_of_open kept isOpen rfl
              (opened.2.onBind_runs intent conn serviceBinder)
              ⟨by simp [ServiceClientRecord.onBind],
                by simp [ServiceClientRecord.onBind]⟩
          rw [← List.append_assoc] at served
          exact served
  | scheduleUnbindService pid token =>
      rw [onService, Application.onCall, Application.onUnbindService,
        Application.callEvents]
      cases isFound : thread.mApp.findService token with
      | none =>
          exact unchanged
      | some record =>
          exact services_of_unbind kept isFound
  | scheduleStopService pid token =>
      rw [onService, Application.onCall, Application.onStopService,
        Application.callEvents]
      cases isFound : thread.mApp.findService token with
      | none =>
          exact unchanged
      | some record =>
          exact services_of_stop kept isFound
  | onServiceConnected conn binder =>
      exact unchanged
  | onServiceDisconnected conn binder =>
      exact unchanged

/-- Activities have no events of services. -/
theorem activityClears_silent
    (thread : ApplicationThread)
    (token : Nat) :
    eventsOf ApplicationEvent.ofService? token thread.activityClears =
      [] := by
  refine List.filterMap_eq_nil_iff.mpr fun event member => ?_
  obtain ⟨activity, _, isClear⟩ := List.mem_flatMap.mp member
  obtain ⟨_, _, isEvent⟩ := List.mem_map.mp isClear
  rw [← isEvent]
  rfl

/-- A clear destroys every service. -/
theorem services_of_clear
    (kept : ServicesKept thread) :
    ServicesKept thread.clearActivityAndService where
  distinct := List.nodup_nil
  created := List.forall_mem_nil _
  follows := by
    rw [show
      thread.clearActivityAndService.trace =
        thread.trace ++ thread.activityClears ++ thread.serviceClears
      from rfl, List.append_assoc]
    refine kept.follows.append fun token => ?_
    have ownEvents :=
      EventTrace.eventsOf_flatMap ServiceClientRecord.mToken kept.distinct
        (fun record _ other =>
          eventsOf_ofService? record.mToken other record.clearEvents)
        token
    rw [EventTrace.eventsOf_append, activityClears_silent, List.nil_append,
      serviceClears, ownEvents, Application.stage,
      Application.findService]
    cases isFound :
        thread.mApp.mExistServices.find? (·.mToken == token) with
    | some record =>
        have isCreated :=
          kept.created record (List.mem_of_find?_eq_some isFound)
        rw [Option.map_some, Option.getD_some,
          ServiceClientRecord.clearEvents, if_pos isCreated.2]
        exact record.onDestroy_runs record.binding
    | none =>
        rfl

/-- Something happens to an activity. -/
theorem services_of_observe
    (kept : ServicesKept thread)
    (activity : ClientActivity)
    (events : List ActivityEvent) :
    ServicesKept (thread.observe activity events) := by
  refine services_of_silent kept rfl rfl fun token event member => ?_
  obtain ⟨_, _, isEvent⟩ := List.mem_map.mp member
  rw [← isEvent]
  rfl

/-- The records of activities do not matter here. -/
theorem services_congr
    (kept : ServicesKept thread)
    (sameApp : next.mApp = thread.mApp)
    (sameTrace : next.trace = thread.trace) :
    ServicesKept next :=
  services_of_silent kept sameApp
    (sameTrace.trans (List.append_nil _).symm)
    fun _ => List.forall_mem_nil _

theorem services_of_handle
    (kept : ServicesKept thread)
    (activity : ClientActivity)
    (effect : ClientEffect) :
    ServicesKept (thread.handle activity effect) := by
  refine services_of_observe ?_ activity _
  exact services_congr kept rfl rfl

theorem services_of_withActivity
    (kept : ServicesKept thread)
    (token : Nat)
    (handler : ActivityClientRecord → ClientEffect) :
    ServicesKept (thread.withActivity token handler) := by
  unfold withActivity
  split
  · exact services_of_handle kept _ _
  · exact kept

theorem services_of_launch
    (kept : ServicesKept thread)
    (activityName : String)
    (token : Nat)
    (intent : Intent)
    (mWindow attached : Bool) :
    ServicesKept
      (thread.onLaunchActivity activityName token intent mWindow
        attached) := by
  unfold onLaunchActivity
  split
  · dsimp only
    have launched :
        ∀ activity events,
          ServicesKept
            ({ thread with launches := thread.launches + 1 }.observe
              activity events) := by
      intro activity events
      refine services_of_observe ?_ activity events
      exact services_congr kept rfl rfl
    split
    · unfold addActivity
      split <;> exact services_congr (launched _ _) rfl rfl
    · exact launched _ _
  · exact kept

theorem services_of_onCall
    (kept : ServicesKept thread)
    (mWindow attached : Bool)
    (call : Call) :
    ServicesKept (thread.onCall mWindow attached call) := by
  cases call with
  | scheduleLaunchActivity pid activityName token intent =>
      exact
        services_of_launch kept activityName token intent mWindow attached
  | scheduleStartActivity pid token intent =>
      rw [onCall]
      exact services_of_withActivity kept token _
  | scheduleResumeActivity pid token intent =>
      rw [onCall]
      exact services_of_withActivity kept token _
  | schedulePauseActivity pid token =>
      rw [onCall]
      exact services_of_withActivity kept token _
  | scheduleStopActivity pid token =>
      rw [onCall]
      exact services_of_withActivity kept token _
  | scheduleDestroyActivity pid token =>
      rw [onCall, onDestroyActivity]
      split
      · exact services_congr (services_of_handle kept _ _) rfl rfl
      · exact kept
  | setForegroundApplication pid isForeground =>
      refine services_of_silent kept rfl rfl fun token event member => ?_
      rw [List.mem_singleton.mp member]
      cases isForeground <;> rfl
  | terminateApplication pid =>
      exact services_congr kept rfl rfl
  | pushForeground pid =>
      exact kept
  | intoBackground pid =>
      exact kept
  | addWindowToken token type =>
      exact kept
  | updateWindowTokenVisibility token visibility =>
      exact kept
  | removeWindowToken token =>
      exact kept

/-- Every action keeps what the records say about the services. -/
theorem services_of_perform
    (kept : ServicesKept thread)
    (action : ApplicationAction) :
    ServicesKept (thread.perform action) := by
  cases action with
  | call call mWindow attached =>
      exact services_of_onCall kept mWindow attached call
  | onActivityResult token requestCode resultCode resultData =>
      rw [perform, onActivityResult]
      split
      · exact services_of_observe kept _ _
      · exact kept
  | service call serviceBinder =>
      exact onService_kept kept serviceBinder call
  | scheduleReceiveIntent token intent =>
      cases token with
      | activity token =>
          rw [perform, scheduleReceiveIntent]
          split
          · exact services_of_observe kept _ _
          · exact kept
      | service token =>
          rw [perform, scheduleReceiveIntent]
          split
          · rename_i record isFound
            have runs :
                run? ServiceStage.step? (thread.mApp.stage token)
                    [.onReceiveIntent intent] =
                  some (thread.mApp.stage token) := by
              rw [Application.stage, isFound]
              cases record.binding <;> rfl
            refine services_of_one kept ?_ runs (fun _ _ => rfl)
              kept.distinct kept.created
            rfl
          · exact kept
      | application app =>
          refine services_of_silent kept rfl rfl fun token event member => ?_
          rw [List.mem_singleton.mp member]
          rfl
  | sigterm =>
      exact services_congr (services_of_clear kept) rfl rfl
  | terminate =>
      exact services_congr (services_of_clear kept) rfl rfl
  | stop =>
      exact services_congr kept rfl rfl
  | leaveLoop =>
      refine services_of_silent kept rfl rfl fun token event member => ?_
      rw [List.mem_singleton.mp member]
      rfl

/-- A new process has no services. -/
theorem services_of_start
    (mActivityMap mServiceMap : List String) :
    ServicesKept (.start mActivityMap mServiceMap) where
  distinct := List.nodup_nil
  created := List.forall_mem_nil _
  follows _ := rfl

end ApplicationThread

end ActivityManager
