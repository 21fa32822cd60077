import ActivityManager.ServiceNumbers

/-!
# What holds of every service

A step operates on some of the services, takes some from the list, and puts
new ones behind the others.  What a new service has, and every operation
keeps, is true of every service of the list after any step.
-/

namespace ActivityManager

namespace ServiceRecord

/-- The operation keeps the property of a record. -/
def Keeps
    (property : ServiceRecord → Prop)
    (operate : ServiceRecord → Option AppRecord → ServiceEffect) : Prop :=
  ∀ service app,
    property service →
    property (operate service app).service

/-- Every operation on services keeps the property of a record. -/
structure Lasts (property : ServiceRecord → Prop) : Prop where
  start : ∀ intent, Keeps property (ServiceRecord.start intent)
  stop : Keeps property ServiceRecord.stop
  bind : ∀ conn intent, Keeps property (ServiceRecord.bind conn intent)
  unbind : ∀ conn, Keeps property (ServiceRecord.unbind conn)
  abnormalExit : Keeps property ServiceRecord.abnormalExit
  publish :
    ∀ service serviceBinder,
      property service →
      property { service with mServiceBinder := serviceBinder }
  /-- No other status is stored while the service is listed. -/
  report :
    ∀ service status,
      status < ServiceStatus.destroying →
      property service →
      property { service with mStatus := status }

end ServiceRecord

namespace ActivityManagerInner

/-! ## Steps without services -/

end ActivityManagerInner

/-- The steps that have nothing to do with services. -/
def InnerAction.sparesServices : InnerAction → Bool
  | .startActivity .. => true
  | .startActivityReal .. => true
  | .stopApplication _ => true
  | .executeLMK .. => true
  | .manager _ => true
  | .moveSystemUIToBackground _ => true
  | .finishSystemUIActivity _ => true
  | _ => false

namespace ActivityManagerInner

variable {inner next : ActivityManagerInner}

/-- A task that is queued makes no call. -/
theorem Submitted.calls_eq
    {processName : String}
    {callback : AttachCallback}
    {spawned : Option Nat}
    {pid : Nat}
    (submitted :
      inner.Submitted processName callback spawned next pid) :
    next.calls = inner.calls := by
  cases submitted with
  | behind _ =>
      exact enqueue_calls _ _
  | first _ _ =>
      exact enqueue_calls _ _

/-- Requests for activities leave the services alone. -/
theorem ActivityOutcome.sparesServices
    {packageInfo : PackageInfo}
    {intent : Intent}
    {spawned : Option Nat}
    {route : Route}
    (outcome :
      inner.ActivityOutcome packageInfo intent spawned next route) :
    next.mServices = inner.mServices ∧ next.calls = inner.calls := by
  cases outcome with
  | rejected quiet =>
      exact ⟨quiet.mServices, quiet.calls⟩
  | turned quiet =>
      exact ⟨quiet.mServices, quiet.calls⟩
  | hosted _ isCreated quiet =>
      exact
        ⟨quiet.mServices.trans isCreated.mServices,
          quiet.calls.trans isCreated.calls⟩
  | queued _ _ isCreated submitted quiet =>
      constructor
      · rw [quiet.mServices, submitted.mServices_eq, isCreated.mServices]
      · rw [quiet.calls, submitted.calls_eq, isCreated.calls]

/-- Such steps leave them alone, and make no calls about them. -/
theorem step?_sparesServices
    {action : InnerAction}
    (spares : action.sparesServices = true)
    (isNext : inner.step? action = some next) :
    next.mServices = inner.mServices ∧ next.calls = inner.calls := by
  have quietly :
      ∀ {parts : TaskStackManager.Parts},
        Quiet parts inner next →
        next.mServices = inner.mServices ∧ next.calls = inner.calls :=
    fun quiet => ⟨quiet.mServices, quiet.calls⟩
  cases action with
  | startActivity activityName packageInfo intent caller isOkToLaunch
      spawned =>
      obtain ⟨⟨_, route⟩, isResult, rfl⟩ :=
        Option.map_eq_some_iff.mp isNext
      exact (startActivity_outcome isResult).sparesServices
  | startActivityReal activityName packageInfo intent caller isOkToLaunch
      spawned =>
      obtain ⟨⟨_, route⟩, isResult, rfl⟩ :=
        Option.map_eq_some_iff.mp isNext
      exact (startActivityReal_outcome isResult).sparesServices
  | stopApplication app =>
      exact quietly ((stopApplication_quiet inner app).of_result isNext)
  | executeLMK freememory maxblock =>
      exact
        quietly
          ((executeLMK_quiet inner freememory maxblock).of_result isNext)
  | manager action =>
      rw [step?] at isNext
      split at isNext
      · exact quietly ((onManager_quiet inner action).of_result isNext)
      · cases isNext
  | moveSystemUIToBackground task =>
      have quiet : Quiet ownParts inner next :=
        (moveSystemUIToBackground_quiet inner task).of_result isNext
      exact quietly quiet
  | finishSystemUIActivity activity =>
      have quiet : Quiet ownParts inner next :=
        (finishSystemUIActivity_quiet inner activity).of_result isNext
      exact quietly quiet
  | _ =>
      cases spares

/-- Of an exit, the services notice the loop over those of the process. -/
theorem childExit_services
    {pid : Nat}
    (isNext : inner.childExit pid = some next) :
    ∃ tokens middle,
      middle.mServices = inner.mServices ∧
        middle.calls = inner.calls ∧
        next.mServices = (terminateServices tokens middle).mServices ∧
        next.calls = (terminateServices tokens middle).calls := by
  cases isFound : inner.findAppInfo pid with
  | some app =>
      obtain ⟨exited, record, deleted, policy, _, quiet, _, isDeleted, _,
        isNext⟩ := childExit_steps isFound isNext
      rw [isNext, deleteAppInfo_cases isDeleted]
      exact
        ⟨record.mExistService, exited.swapServices app record,
          quiet.mServices, quiet.calls, rfl, rfl⟩
  | none =>
      refine ⟨[], inner, rfl, rfl, ?_⟩
      cases childExit_outcome isNext with
      | hosted isHosted =>
          rw [isFound] at isHosted
          cases isHosted
      | waiting _ _ =>
          exact ⟨rfl, rfl⟩
      | unknown _ _ =>
          exact ⟨rfl, rfl⟩

/-! ## All services -/

/-- The property is true of every service of the list. -/
def EachService
    (property : ServiceRecord → Prop)
    (inner : ActivityManagerInner) : Prop :=
  ∀ service ∈ inner.mServices, property service

variable {property : ServiceRecord → Prop}

namespace EachService

/-- Fewer services have it, too. -/
theorem fewer
    (holds : EachService property inner)
    (subset : next.mServices ⊆ inner.mServices) :
    EachService property next :=
  fun service isListed => holds service (subset isListed)

/-- Nothing happens to the services. -/
theorem of_same
    (holds : EachService property inner)
    (sameServices : next.mServices = inner.mServices) :
    EachService property next :=
  holds.fewer (sameServices ▸ List.Subset.refl _)

/-- A record of the list is replaced by another with the property. -/
theorem setService
    {changed : ServiceRecord}
    (holds : EachService property inner)
    (hasChanged : property changed) :
    EachService property
      { inner with
        mServices :=
          ActivityManager.setService inner.mServices changed } := by
  intro service isListed
  obtain ⟨old, wasListed, isService⟩ := List.mem_map.mp isListed
  rw [← isService]
  split
  · exact hasChanged
  · exact holds old wasListed

/-- One of the services is operated on. -/
theorem onService
    {operate : ServiceRecord → Option AppRecord → ServiceEffect}
    {service : ServiceRecord}
    (keeps : ServiceRecord.Keeps property operate)
    (holds : EachService property inner)
    (isListed : service ∈ inner.mServices) :
    EachService property (inner.onService operate service) :=
  (holds.setService (keeps service _ (holds service isListed))).of_same rfl

variable (lasts : ServiceRecord.Lasts property)

include lasts

theorem requestService
    {service : ServiceRecord}
    (holds : EachService property inner)
    (isListed : service ∈ inner.mServices)
    (intent : Intent)
    (request : ServiceRequest) :
    EachService property
      (inner.requestService service intent request) := by
  cases request with
  | start =>
      exact holds.onService (lasts.start intent) isListed
  | bind conn =>
      exact holds.onService (lasts.bind conn intent) isListed

/-- A new service that has it comes behind the others. -/
theorem createService
    {service : ServiceRecord}
    (holds : EachService property inner)
    (isNew : property service)
    (policy : ProcessPriorityPolicy)
    (intent : Intent)
    (request : ServiceRequest) :
    EachService property
      (inner.createService policy service intent request) := by
  refine requestService lasts ?_ ?_ intent request
  · intro other isListed
    rcases List.mem_append.mp isListed with isOld | isLast
    · exact holds other isOld
    · rw [List.mem_singleton.mp isLast]
      exact isNew
  · exact List.mem_append_right _ (List.mem_singleton_self service)

theorem stopServiceReal
    {service : ServiceRecord}
    (holds : EachService property inner)
    (isListed : service ∈ inner.mServices) :
    EachService property (inner.stopServiceReal service) := by
  unfold ActivityManagerInner.stopServiceReal
  split
  · exact holds.onService lasts.stop isListed
  · exact holds

theorem unbindAll
    (holds : EachService property inner)
    (conn : Nat)
    (tokens : List Nat) :
    EachService property
      (ActivityManagerInner.unbindAll conn tokens inner) := by
  induction tokens generalizing inner with
  | nil =>
      exact holds
  | cons token rest inductionHypothesis =>
      apply inductionHypothesis
      split
      · rename_i service isFound
        exact
          holds.onService (lasts.unbind conn) (mem_of_getService isFound).1
      · exact holds

/-- The services of a process that exits. -/
theorem terminateServices
    (holds : EachService property inner)
    (tokens : List Nat) :
    EachService property
      (ActivityManagerInner.terminateServices tokens inner) := by
  induction tokens generalizing inner with
  | nil =>
      exact holds
  | cons token rest inductionHypothesis =>
      apply inductionHypothesis
      split
      · rename_i service isFound
        have exited :=
          holds.onService lasts.abnormalExit (mem_of_getService isFound).1
        exact exited.fewer fun other isLeft => mem_of_mem_swapRemove isLeft
      · exact holds

/-- A status that is reported is stored, or its service is gone. -/
theorem reportServiceStatus
    {token : Nat}
    {status : ServiceStatus}
    (distinct : (inner.mServices.map ServiceRecord.mToken).Nodup)
    (holds : EachService property inner)
    (isNext : inner.reportServiceStatus token status = some next) :
    EachService property next := by
  have stored :
      ∀ middle : ActivityManagerInner,
        EachService property middle →
        status < ServiceStatus.destroying →
        EachService property (middle.setServiceStatus token status) := by
    intro middle holds isLess service isListed
    obtain ⟨old, wasListed, isService⟩ := List.mem_map.mp isListed
    rw [← isService]
    split
    · exact lasts.report old status isLess (holds old wasListed)
    · exact holds old wasListed
  unfold ActivityManagerInner.reportServiceStatus at isNext
  split at isNext
  · rename_i service isFound
    obtain ⟨_, _, isNext⟩ := Option.bind_eq_some_iff.mp isNext
    split at isNext
    · rename_i isLegal
      rw [← Option.some.inj isNext]
      refine stored inner holds ?_
      rcases isLegal with isLegal | isLegal | isLegal
      all_goals
        rw [isLegal]
        decide
    · split at isNext
      · rename_i isUnbinded
        rw [← Option.some.inj isNext]
        refine stored _ ?_ ?_
        · split
          · exact holds
          · exact holds.onService lasts.stop (mem_of_getService isFound).1
        · rw [isUnbinded]
          decide
      · split at isNext
        · rw [← Option.some.inj isNext]
          have idle :=
            stopIfIdle_quiet
              { inner with
                mServices := deleteService inner.mServices token }
              service.mApp
          intro other isListed
          obtain ⟨old, wasLeft, isOther⟩ := List.mem_map.mp isListed
          rw [idle.mServices] at wasLeft
          obtain ⟨wasListed, notToken⟩ :=
            List.mem_filter.mp
              ((swapRemove_key distinct token).mem_iff.mp wasLeft)
          rw [if_neg (by simpa using notToken)] at isOther
          rw [← isOther]
          exact holds old wasListed
        · rw [← Option.some.inj isNext]
          exact holds
  · rw [← Option.some.inj isNext]
    exact holds

/-- A callback may put a new service behind the others. -/
theorem runCallback
    {e : AppAttachEvent}
    {callback : AttachCallback}
    (outcome : inner.CallbackOutcome e callback next)
    (holds : EachService property inner)
    (isNew :
      ∀ serviceName priority,
        property
          (.fresh serviceName inner.nextToken priority e.mAppRecord)) :
    EachService property next ∧ inner.nextToken ≤ next.nextToken := by
  cases outcome with
  | startActivity _ _ isAttached quiet =>
      refine
        ⟨holds.of_same (quiet.mServices.trans isAttached.mServices), ?_⟩
      rw [quiet.nextToken, isAttached.nextToken]
  | startService _ =>
      refine ⟨holds.createService lasts (isNew _ _) _ _ _, ?_⟩
      rw [(createService_serviced _ _ _ _ _).nextToken]
      exact Nat.le_succ _

theorem childExit
    {pid : Nat}
    (holds : EachService property inner)
    (isNext : inner.childExit pid = some next) :
    EachService property next := by
  obtain ⟨tokens, middle, sameServices, _, isServices, _⟩ :=
    childExit_services isNext
  have ended := (holds.of_same sameServices).terminateServices lasts tokens
  exact ended.of_same isServices

/-- The numbers of the services that a step may create are new. -/
theorem step
    {action : InnerAction}
    (numbered : ServicesNumbered inner)
    (holds : EachService property inner)
    (isNew :
      ∀ serviceName token priority app,
        inner.nextToken ≤ token →
        property (.fresh serviceName token priority app))
    (isNext : inner.step? action = some next) :
    EachService property next := by
  have request :
      ∀ {serviceName packageInfo intent request spawned route},
        inner.ServiceOutcome serviceName packageInfo intent request spawned
          next route →
        EachService property next := by
    intro serviceName packageInfo intent request spawned route outcome
    cases outcome with
    | rejected =>
        exact holds
    | found isFound =>
        exact
          holds.requestService lasts (mem_of_findService isFound).1 _ _
    | created _ _ _ _ =>
        exact
          holds.createService lasts
            (isNew _ _ _ _ (Nat.le_refl inner.nextToken)) _ _ _
    | queued _ _ _ submitted =>
        exact holds.of_same submitted.mServices_eq
  cases action with
  | startService serviceName packageInfo intent spawned =>
      obtain ⟨⟨_, route⟩, isResult, rfl⟩ :=
        Option.map_eq_some_iff.mp isNext
      exact request (startServiceReal_outcome isResult)
  | bindService serviceName packageInfo intent conn spawned =>
      obtain ⟨⟨_, route⟩, isResult, rfl⟩ :=
        Option.map_eq_some_iff.mp isNext
      exact request (startServiceReal_outcome isResult)
  | stopService packageInfo serviceName =>
      rw [← Option.some.inj isNext]
      rcases stopService_cases inner packageInfo serviceName with
        isSame | ⟨service, isListed, isStopped⟩
      · rw [isSame]
        exact holds
      · rw [isStopped]
        exact holds.stopServiceReal lasts isListed
  | stopServiceByToken token =>
      obtain ⟨⟨_, isStopped⟩, isResult, rfl⟩ :=
        Option.map_eq_some_iff.mp isNext
      rcases stopServiceByToken_cases isResult with
        isSame | ⟨service, isListed, isNext⟩
      · rw [isSame]
        exact holds
      · rw [isNext]
        exact holds.stopServiceReal lasts isListed
  | unbindService conn =>
      rw [← Option.some.inj isNext]
      exact holds.unbindAll lasts conn _
  | publishService token serviceBinder =>
      rw [← Option.some.inj isNext, ActivityManagerInner.publishService]
      split
      · rename_i service isFound
        exact
          holds.setService
            (lasts.publish service serviceBinder
              (holds service (mem_of_getService isFound).1))
      · exact holds
  | reportServiceStatus token status =>
      exact holds.reportServiceStatus lasts numbered.distinct isNext
  | childExit pid =>
      exact holds.childExit lasts isNext
  | attachApplication callerPid isSystemUI =>
      cases attachApplication_outcome isNext with
      | known _ =>
          exact holds
      | illegal _ =>
          exact holds
      | attached _ _ isServed =>
          refine
            (eventTrigger_invariant
              (motive := fun after =>
                EachService property after ∧
                  inner.nextToken ≤ after.nextToken)
              ?_ (fun _ => id) ?_ isServed).1
          · intro middle handler after ⟨holds, isLater⟩ _ _ outcome
            obtain ⟨holds, isNotLess⟩ :=
              runCallback lasts outcome (holds.of_same rfl)
                fun serviceName priority =>
                  isNew serviceName _ priority _ isLater
            exact ⟨holds, Nat.le_trans isLater isNotLess⟩
          · exact ⟨holds.of_same rfl, Nat.le_refl _⟩
  | _ =>
      exact holds.of_same (step?_sparesServices rfl isNext).1

end EachService

end ActivityManagerInner

end ActivityManager
