import ActivityManager.QueuedRequests

/-!
# The numbers of services

A service has a token of its own, and belongs to an application that has
attached.  Steps take services from the list, or add new ones behind the
others; a service never changes into another.
-/

namespace ActivityManager

/-- What is left of distinct elements is distinct. -/
theorem nodup_of_subperm
    {α : Type}
    {fewer elements : List α}
    (distinct : elements.Nodup)
    (subperm : fewer.Subperm elements) :
    fewer.Nodup := by
  obtain ⟨kept, permuted, sublist⟩ := subperm
  exact permuted.nodup_iff.mp (distinct.sublist sublist)

/-- A part of a list is mapped to a part of its images. -/
theorem subperm_filterMap
    {α β : Type}
    {fewer elements : List α}
    (subperm : fewer.Subperm elements)
    (image : α → Option β) :
    (fewer.filterMap image).Subperm (elements.filterMap image) := by
  obtain ⟨kept, permuted, sublist⟩ := subperm
  exact
    ⟨kept.filterMap image, permuted.filterMap image,
      sublist.filterMap image⟩

namespace ActivityManagerInner

/-- The tokens tell services apart, and so will those to come. -/
structure ServicesNumbered (inner : ActivityManagerInner) : Prop where
  distinct : (inner.mServices.map ServiceRecord.mToken).Nodup
  used : ∀ service ∈ inner.mServices, service.mToken < inner.nextToken
  hosted :
    ∀ service ∈ inner.mServices, service.mApp < inner.manager.nextApp

/-- Services are taken from the list, and none comes. -/
structure FewerServices (before after : ActivityManagerInner) : Prop where
  keys :
    (after.mServices.map ServiceRecord.key).Subperm
      (before.mServices.map ServiceRecord.key)
  nextToken : after.nextToken = before.nextToken
  nextApp : before.manager.nextApp ≤ after.manager.nextApp

variable {inner next : ActivityManagerInner}

/-- The services that are left keep their numbers. -/
theorem FewerServices.numbered
    (fewer : FewerServices inner next)
    (before : ServicesNumbered inner) :
    ServicesNumbered next := by
  have origin :
      ∀ service ∈ next.mServices,
        ∃ old ∈ inner.mServices, old.key = service.key := by
    intro service isListed
    have isKey := fewer.keys.subset (List.mem_map_of_mem isListed)
    exact List.mem_map.mp isKey
  constructor
  · have distinct := before.distinct
    rw [tokens_of_keys] at distinct ⊢
    obtain ⟨kept, permuted, sublist⟩ := fewer.keys
    exact
      (permuted.map Prod.fst).nodup_iff.mp
        (distinct.sublist (sublist.map Prod.fst))
  · intro service isListed
    obtain ⟨old, wasListed, sameKey⟩ := origin service isListed
    have sameToken : old.mToken = service.mToken :=
      congrArg Prod.fst sameKey
    rw [fewer.nextToken, ← sameToken]
    exact before.used old wasListed
  · intro service isListed
    obtain ⟨old, wasListed, sameKey⟩ := origin service isListed
    have sameApp : old.mApp = service.mApp :=
      congrArg (fun key => key.2.2) sameKey
    rw [← sameApp]
    exact Nat.lt_of_lt_of_le (before.hosted old wasListed) fewer.nextApp

namespace FewerServices

theorem trans
    {middle : ActivityManagerInner}
    (former : FewerServices inner middle)
    (latter : FewerServices middle next) :
    FewerServices inner next where
  keys := latter.keys.trans former.keys
  nextToken := latter.nextToken.trans former.nextToken
  nextApp := former.nextApp.trans latter.nextApp

/-- The same services. -/
theorem of_same
    (sameServices : next.mServices = inner.mServices)
    (sameToken : next.nextToken = inner.nextToken)
    (nextApp : inner.manager.nextApp ≤ next.manager.nextApp) :
    FewerServices inner next where
  keys := by
    rw [sameServices]
  nextToken := sameToken
  nextApp := nextApp

end FewerServices

theorem Quiet.fewerServices
    {parts : TaskStackManager.Parts}
    (quiet : Quiet parts inner next)
    (areRoutine : parts.AreRoutine) :
    FewerServices inner next :=
  .of_same quiet.mServices quiet.nextToken
    (quiet.sameProcesses areRoutine).nextApp.ge

theorem Serviced.fewerServices
    (serviced : Serviced inner next)
    (before : ServicesNumbered inner) :
    FewerServices inner next where
  keys := by
    rw [serviced.keys before.distinct]
  nextToken := serviced.nextToken
  nextApp := serviced.sameProcesses.nextApp.ge

theorem Submitted.fewerServices
    {name : String}
    {callback : AttachCallback}
    {spawned : Option Nat}
    {pid : Nat}
    (submitted : inner.Submitted name callback spawned next pid) :
    FewerServices inner next := by
  cases submitted with
  | behind _ =>
      refine .of_same (enqueue_mServices _ _) (enqueue_nextToken _ _) ?_
      rw [enqueue_manager]
  | first _ _ =>
      refine .of_same (enqueue_mServices _ _) (enqueue_nextToken _ _) ?_
      rw [enqueue_manager]
      rfl

/-- A deleted service takes its key along. -/
theorem deleteService_fewerServices
    (before : ServicesNumbered inner)
    (token : Nat) :
    FewerServices inner
      { inner with mServices := deleteService inner.mServices token } where
  keys :=
    (deleteService_keys before.distinct token).subperm.trans
      List.filter_sublist.subperm
  nextToken := rfl
  nextApp := Nat.le_refl _

theorem ReportOutcome.fewerServices
    {token : Nat}
    {status : ServiceStatus}
    (outcome : inner.ReportOutcome token status next)
    (before : ServicesNumbered inner) :
    FewerServices inner next := by
  cases outcome with
  | ignored =>
      exact .of_same rfl rfl (Nat.le_refl _)
  | stored _ =>
      exact
        (setServiceStatus_serviced inner token status).fewerServices before
  | unbinded isFound _ =>
      have stopped :=
        onService_serviced ServiceRecord.keepsKey_stop
          (mem_of_getService isFound).1
      exact
        (stopped.trans
          (setServiceStatus_serviced _ token status)).fewerServices before
  | @destroyed service _ _ =>
      have deleted := deleteService_fewerServices before token
      have idle :=
        stopIfIdle_quiet
          { inner with mServices := deleteService inner.mServices token }
          service.mApp
      have fewer :=
        deleted.trans (idle.fewerServices stoppingParts_areRoutine)
      exact
        fewer.trans
          ((setServiceStatus_serviced _ token status).fewerServices
            (fewer.numbered before))

theorem ExitOutcome.fewerServices
    {pid : Nat}
    (outcome : inner.ExitOutcome pid next)
    (before : ServicesNumbered inner) :
    FewerServices inner next := by
  cases outcome with
  | @hosted app record exited ended deleted policy _ _ quiet isRecord
      terminated isDeleted _ =>
      have swapped : FewerServices inner (exited.swapServices app record) :=
        (quiet.fewerServices partsOf_procAppTerminated_areRoutine).trans
          (.of_same rfl rfl (Nat.le_refl _))
      have distinct := (swapped.numbered before).distinct
      have ended : FewerServices (exited.swapServices app record) ended :=
        { keys :=
            (terminated.keys distinct).subperm.trans
              List.filter_sublist.subperm
          nextToken := terminated.nextToken
          nextApp := terminated.sameProcesses.nextApp.ge }
      refine swapped.trans (ended.trans ?_)
      rw [deleteAppInfo_cases isDeleted]
      exact .of_same rfl rfl (Nat.le_refl _)
  | waiting _ _ =>
      exact .of_same rfl rfl (Nat.le_refl _)
  | unknown _ _ =>
      exact .of_same rfl rfl (Nat.le_refl _)

/-! ## New services -/

/-- A new service comes behind the others. -/
theorem createService_keys
    {app : Nat}
    (before : ServicesNumbered inner)
    (policy : ProcessPriorityPolicy)
    (serviceName : String)
    (priority : ProcessPriority)
    (intent : Intent)
    (request : ServiceRequest)
    (isHosted : app < inner.manager.nextApp) :
    (inner.createService policy
        (.fresh serviceName inner.nextToken priority app) intent
        request).mServices.map ServiceRecord.key =
      inner.mServices.map ServiceRecord.key ++
        [(inner.nextToken, serviceName, app)] ∧
      ServicesNumbered
        (inner.createService policy
          (.fresh serviceName inner.nextToken priority app) intent
          request) := by
  have serviced :=
    createService_serviced inner policy
      (.fresh serviceName inner.nextToken priority app) intent request
  have added :
      ServicesNumbered
        ({ inner with mPriorityPolicy := policy }.addService
          (.fresh serviceName inner.nextToken priority app)) := by
    constructor
    · change ((inner.mServices ++ [_]).map ServiceRecord.mToken).Nodup
      rw [List.map_append, List.nodup_append]
      refine ⟨before.distinct, List.nodup_singleton _, ?_⟩
      intro token member other isNew
      obtain ⟨service, isListed, rfl⟩ := List.mem_map.mp member
      rw [List.mem_singleton.mp isNew]
      exact Nat.ne_of_lt (before.used service isListed)
    · intro service isListed
      rcases List.mem_append.mp isListed with isOld | isNew
      · exact Nat.lt_succ_of_lt (before.used service isOld)
      · rw [List.mem_singleton.mp isNew]
        exact Nat.lt_succ_self _
    · intro service isListed
      rcases List.mem_append.mp isListed with isOld | isNew
      · exact before.hosted service isOld
      · rw [List.mem_singleton.mp isNew]
        exact isHosted
  refine ⟨?_, (serviced.fewerServices added).numbered added⟩
  rw [serviced.keys added.distinct]
  exact List.map_append

/-- A callback adds the service that its task demands, if any. -/
theorem CallbackOutcome.keys
    {e : AppAttachEvent}
    {handler : TaskTimeoutHandler AppAttachTask}
    (outcome : inner.CallbackOutcome e handler.mTask.mCallback next)
    (before : ServicesNumbered inner)
    (isHosted : e.mAppRecord < inner.manager.nextApp) :
    ServicesNumbered next ∧
      ∃ added,
        next.mServices.map ServiceRecord.key =
          inner.mServices.map ServiceRecord.key ++ added ∧
          added.map Prod.snd =
            handler.mTask.demand.toList.map fun demand =>
              (demand.serviceName, e.mAppRecord) := by
  unfold AppAttachTask.demand
  generalize handler.mTask.mCallback = callback at outcome ⊢
  cases outcome with
  | startActivity _ isSet isAttached quiet =>
      obtain ⟨_, _, isManager⟩ := TaskStackManager.setAppThread_cases isSet
      have sameServices :=
        quiet.mServices.trans isAttached.mServices
      have fewer : FewerServices inner next := by
        refine .of_same sameServices
          (quiet.nextToken.trans isAttached.nextToken) ?_
        rw [quiet.own_sameProcesses.nextApp, isAttached.manager, isManager]
        exact Nat.le_refl _
      refine ⟨fewer.numbered before, [], ?_, rfl⟩
      rw [List.append_nil, sameServices]
  | startService _ =>
      obtain ⟨keys, numbered⟩ :=
        createService_keys before _ _ _ _ _ isHosted
      exact ⟨numbered, _, keys, rfl⟩

/-- The services of a process that attaches come behind the others. -/
theorem eventTrigger_keys
    {e : AppAttachEvent}
    {packageName : String}
    {handlers : List (TaskTimeoutHandler AppAttachTask)}
    (before : ServicesNumbered inner)
    (isHosted : e.mAppRecord < inner.manager.nextApp)
    (isNext :
      eventTrigger e packageName handlers inner = some next) :
    ServicesNumbered next ∧
      ∃ added,
        next.mServices.map ServiceRecord.key =
          inner.mServices.map ServiceRecord.key ++ added ∧
          added.map Prod.snd =
            ((handlers.filter (·.pendingFor e)).filterMap
              (·.mTask.demand)).map fun demand =>
                (demand.serviceName, e.mAppRecord) := by
  induction handlers generalizing inner with
  | nil =>
      rw [← Option.some.inj isNext]
      exact ⟨before, [], (List.append_nil _).symm, rfl⟩
  | cons handler rest inductionHypothesis =>
      rw [eventTrigger] at isNext
      split at isNext
      · rename_i isPending
        obtain ⟨after, isAfter, isNext⟩ :=
          Option.bind_eq_some_iff.mp isNext
        have outcome := runCallback_outcome isAfter
        have served :
            ServicesNumbered (inner.serve e packageName handler) :=
          { before with }
        obtain ⟨numbered, first, isFirst, firstName⟩ :=
          outcome.keys served isHosted
        have stillHosted : e.mAppRecord < after.manager.nextApp := by
          rw [outcome.sameProcesses.nextApp]
          exact isHosted
        obtain ⟨allNumbered, others, areOthers, otherNames⟩ :=
          inductionHypothesis numbered stillHosted isNext
        refine ⟨allNumbered, first ++ others, ?_, ?_⟩
        · rw [areOthers, isFirst, List.append_assoc]
          rfl
        · rw [List.map_append, firstName, otherNames,
            List.filter_cons_of_pos isPending, ← List.map_append]
          refine congrArg _ ?_
          cases isDemand : handler.mTask.demand with
          | none =>
              simp [isDemand]
          | some demand =>
              simp [isDemand]
      · rename_i notPending
        rw [List.filter_cons_of_neg notPending]
        exact inductionHypothesis before isHosted isNext

/-- The record of an application that attaches has a new number. -/
theorem attach_numbered
    (before : ServicesNumbered inner)
    (packageName : String)
    (isSystemUI : Bool)
    (pid : Nat) :
    ServicesNumbered
      ((inner.deleteAppWaitingAttach pid).addAppInfo packageName isSystemUI
        pid) where
  distinct := before.distinct
  used := before.used
  hosted service isListed := Nat.lt_succ_of_lt (before.hosted service isListed)

/-- Every step keeps the numbers of the services. -/
theorem ServicesNumbered.step
    {action : InnerAction}
    (before : ServicesNumbered inner)
    (bounded : ∀ app ∈ inner.mAppList, app < inner.manager.nextApp)
    (isNext : inner.step? action = some next) :
    ServicesNumbered next := by
  cases step?_outcome isNext with
  | activity outcome =>
      cases outcome with
      | rejected quiet =>
          exact (quiet.fewerServices ownParts_areRoutine).numbered before
      | turned quiet =>
          exact (quiet.fewerServices ownParts_areRoutine).numbered before
      | hosted _ isCreated quiet =>
          have created : FewerServices inner _ :=
            .of_same isCreated.mServices isCreated.nextToken
              (isCreated.manager ▸ Nat.le_refl _)
          exact
            (created.trans
              (quiet.fewerServices ownParts_areRoutine)).numbered before
      | queued _ _ isCreated submitted quiet =>
          have created : FewerServices inner _ :=
            .of_same isCreated.mServices isCreated.nextToken
              (isCreated.manager ▸ Nat.le_refl _)
          exact
            ((created.trans submitted.fewerServices).trans
              (quiet.fewerServices ownParts_areRoutine)).numbered before
  | service _ outcome =>
      cases outcome with
      | rejected =>
          exact before
      | found isFound =>
          exact
            ((requestService_serviced (mem_of_findService isFound).1 _
              _).fewerServices before).numbered before
      | created _ isAlive _ _ =>
          exact
            (createService_keys before _ _ _ _ _
              (bounded _ (List.mem_of_find?_eq_some isAlive))).2
      | queued _ _ _ submitted =>
          exact submitted.fewerServices.numbered before
  | serviced serviced =>
      exact (serviced.fewerServices before).numbered before
  | reported outcome =>
      exact (outcome.fewerServices before).numbered before
  | attached outcome =>
      cases outcome with
      | known _ =>
          exact before
      | @attached packageName _ _ _ isServed =>
          exact
            (eventTrigger_keys (attach_numbered before packageName _ _)
              (Nat.lt_succ_self _) isServed).1
      | illegal _ =>
          exact before
  | exited outcome =>
      exact (outcome.fewerServices before).numbered before
  | quiet areRoutine quiet =>
      exact (quiet.fewerServices areRoutine).numbered before

/-- A new service of the system has none of its own. -/
theorem ServicesNumbered.start
    (lines : List LmkRow)
    (arena : Int)
    (now : Nat) :
    ServicesNumbered (start lines arena now) where
  distinct := List.nodup_nil
  used _ member := absurd member List.not_mem_nil
  hosted _ member := absurd member List.not_mem_nil

end ActivityManagerInner

end ActivityManager
