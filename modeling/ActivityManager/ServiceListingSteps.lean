import ActivityManager.ServiceListings

/-!
# How the lists of services change

The reports of the clients and the processes that attach and exit change the
lists of services, too.  Every step keeps the lists exact that starts no listed
service, binds none that has only its flags left, and deletes none that is
listed.
-/

namespace ActivityManager

namespace ActivityManagerInner

variable {inner next : ActivityManagerInner} {service : ServiceRecord}

namespace ServicesListed

/-! ## Reports and processes -/

theorem setServiceStatus
    (before : ServicesListed inner)
    (token : Nat)
    (status : ServiceStatus) :
    ServicesListed (inner.setServiceStatus token status) := by
  refine before.setRecords fun other _ => ?_
  split <;> exact ⟨rfl, rfl⟩

/-- A report deletes a service only if it is destroyed. -/
theorem report
    {token : Nat}
    {status : ServiceStatus}
    (before : ServicesListed inner)
    (tokens : (inner.mServices.map ServiceRecord.mToken).Nodup)
    (notListed :
      status = ServiceStatus.destroyed →
      ∀ service,
        getService inner.mServices token = some service →
        ∀ record,
          inner.manager.apps service.mApp = some record →
          token ∉ record.mExistService)
    (outcome : inner.ReportOutcome token status next) :
    ServicesListed next := by
  cases outcome with
  | ignored =>
      exact before
  | stored _ =>
      exact before.setServiceStatus token status
  | unbinded isFound _ =>
      have stopped := before.stop tokens (mem_of_getService isFound).1
      exact stopped.setServiceStatus token status
  | @destroyed service isFound isDestroyed =>
      obtain ⟨isListed, isToken⟩ := mem_of_getService isFound
      have free := notListed isDestroyed service isFound
      subst isToken
      have deleted := before.deleteService tokens isListed free
      have idle :=
        stopIfIdle_quiet
          { inner with
            mServices :=
              ActivityManager.deleteService inner.mServices
                service.mToken }
          service.mApp
      exact
        (deleted.quiet stoppingParts_areRoutine idle).setServiceStatus _
          status

/-- A process that attaches lists no service yet. -/
theorem addAppInfo
    (before : ServicesListed inner)
    (numbered : ServicesNumbered inner)
    (packageName : String)
    (isSystemUI : Bool)
    (pid : Nat) :
    ServicesListed
      ((inner.deleteAppWaitingAttach pid).addAppInfo packageName isSystemUI
        pid) := by
  constructor
  · intro app record isRecord
    rcases update_some_cases isRecord with ⟨_, isNew⟩ | ⟨_, isOld⟩
    · rw [isNew]
      exact List.nodup_nil
    · exact before.distinct app record isOld
  · intro app record isRecord token
    rcases update_some_cases isRecord with ⟨isApp, isNew⟩ | ⟨_, isOld⟩
    · rw [isNew]
      refine iff_of_false List.not_mem_nil ?_
      rintro ⟨service, isListed, _, isHosted, _⟩
      have isSmall := numbered.hosted service isListed
      rw [isHosted, isApp] at isSmall
      exact Nat.lt_irrefl _ isSmall
    · exact before.listed app record isOld token

/-- A callback may create a service. -/
theorem runCallback
    {e : AppAttachEvent}
    {callback : AttachCallback}
    (before : ServicesListed inner)
    (numbered : ServicesNumbered inner)
    (outcome : inner.CallbackOutcome e callback next) :
    ServicesListed next := by
  cases outcome with
  | @startActivity _ _ _ _ _ _ _ attached _ _ isSet isAttached quiet =>
      obtain ⟨_, _, isManager⟩ := TaskStackManager.setAppThread_cases isSet
      have attaches : ServicesListed attached := by
        refine before.of_eq ?_ isAttached.mServices
        rw [isAttached.manager, isManager]
        rfl
      exact attaches.quiet ownParts_areRoutine quiet
  | startService _ =>
      exact before.createService numbered _ _ _ _ _

/-- So may all the callbacks of an attach. -/
theorem attached
    {e : AppAttachEvent}
    {packageName : String}
    {handlers : List (TaskTimeoutHandler AppAttachTask)}
    (before : ServicesListed inner)
    (numbered : ServicesNumbered inner)
    (isHosted : e.mAppRecord < inner.manager.nextApp)
    (isNext :
      eventTrigger e packageName handlers inner = some next) :
    ServicesListed next := by
  have runs :
      ServicesListed next ∧
        ServicesNumbered next ∧ e.mAppRecord < next.manager.nextApp := by
    refine
      eventTrigger_invariant
        (motive := fun middle =>
          ServicesListed middle ∧
            ServicesNumbered middle ∧
            e.mAppRecord < middle.manager.nextApp)
        ?_ (fun _ => id) ⟨before, numbered, isHosted⟩ isNext
    rintro middle handler after ⟨listed, numbered, isHosted⟩ _ _ outcome
    have serves : ServicesListed (middle.serve e packageName handler) :=
      listed.of_eq rfl rfl
    have served : ServicesNumbered (middle.serve e packageName handler) :=
      ⟨numbered.distinct, numbered.used, numbered.hosted⟩
    refine
      ⟨serves.runCallback served outcome, (outcome.keys served isHosted).1,
        ?_⟩
    rw [outcome.sameProcesses.nextApp]
    exact isHosted
  exact runs.1

/-- One service of a process that exits is gone, the others stay. -/
theorem terminateService_spec
    (distinct : (inner.mServices.map ServiceRecord.mToken).Nodup)
    (isListed : service ∈ inner.mServices) :
    let exited := inner.onService ServiceRecord.abnormalExit service
    let services :=
      ActivityManager.deleteService exited.mServices service.mToken
    (∀ other,
      other ≠ service.mApp →
      exited.manager.apps other = inner.manager.apps other) ∧
      (services.map ServiceRecord.mToken).Nodup ∧
        ∀ other,
          other ∈ services ↔
            other ∈ inner.mServices ∧ other.mToken ≠ service.mToken := by
  intro exited services
  have serviced : Serviced inner exited :=
    onService_serviced ServiceRecord.keepsKey_abnormalExit isListed
  have stillDistinct := distinct
  rw [← serviced.tokens] at stillDistinct
  have left := swapRemove_key stillDistinct service.mToken
  refine ⟨?_, ?_, ?_⟩
  · intro other isOther
    change (inner.onService _ service).manager.apps other = _
    unfold ActivityManagerInner.onService
    dsimp only
    split
    · exact Function.update_of_ne isOther _ _
    · rfl
  · exact
      (left.map _).nodup_iff.mpr
        (stillDistinct.sublist (List.filter_sublist.map _))
  · intro other
    refine left.mem_iff.trans ?_
    rw [List.mem_filter, bne_iff_ne]
    refine and_congr_left fun notThis => ?_
    constructor
    · intro isExited
      obtain ⟨old, wasListed, isOther⟩ := List.mem_map.mp isExited
      split at isOther
      · rw [← isOther] at notThis
        exact absurd rfl notThis
      · exact isOther ▸ wasListed
    · intro wasListed
      refine List.mem_map.mpr ⟨other, wasListed, ?_⟩
      exact if_neg notThis

/-- So it is with all services of the process. -/
theorem terminateServices_spec
    {app : Nat}
    {tokens : List Nat}
    (distinct : (inner.mServices.map ServiceRecord.mToken).Nodup)
    (areHosted :
      ∀ service ∈ inner.mServices,
        service.mToken ∈ tokens →
        service.mApp = app) :
    (∀ other,
      other ≠ app →
      (terminateServices tokens inner).manager.apps other =
        inner.manager.apps other) ∧
      ∀ service,
        service ∈ (terminateServices tokens inner).mServices ↔
          service ∈ inner.mServices ∧ service.mToken ∉ tokens := by
  induction tokens generalizing inner with
  | nil =>
      exact
        ⟨fun _ _ => rfl, fun service =>
          (and_iff_left List.not_mem_nil).symm⟩
  | cons token rest inductionHypothesis =>
      rw [terminateServices]
      cases isFound : getService inner.mServices token with
      | some found =>
          obtain ⟨isListed, isToken⟩ := mem_of_getService isFound
          subst isToken
          have isHosted := areHosted found isListed List.mem_cons_self
          obtain ⟨sameApps, stillDistinct, isLeft⟩ :=
            terminateService_spec distinct isListed
          obtain ⟨laterApps, areLeft⟩ :=
            @inductionHypothesis
              { inner.onService ServiceRecord.abnormalExit found with
                mServices := _ }
              stillDistinct (fun service isThere isRest =>
                areHosted service ((isLeft service).mp isThere).1
                  (List.mem_cons_of_mem _ isRest))
          constructor
          · intro other isOther
            refine (laterApps other isOther).trans ?_
            exact sameApps other (isHosted ▸ isOther)
          · intro service
            refine (areLeft service).trans ?_
            refine (and_congr_left' (isLeft service)).trans ?_
            rw [List.mem_cons, not_or, and_assoc]
      | none =>
          obtain ⟨sameApps, areLeft⟩ :=
            inductionHypothesis distinct fun service isThere isRest =>
              areHosted service isThere (List.mem_cons_of_mem _ isRest)
          refine ⟨sameApps, fun service => (areLeft service).trans ?_⟩
          refine and_congr_right fun isThere => ?_
          rw [List.mem_cons, not_or, and_iff_right]
          intro isToken
          have notFound := List.find?_eq_none.mp isFound service isThere
          exact notFound (beq_iff_eq.mpr isToken)

/-- An exit takes the services that are listed, and the list. -/
theorem childExit
    {pid : Nat}
    (before : ServicesListed inner)
    (tokens : (inner.mServices.map ServiceRecord.mToken).Nodup)
    (isNext : inner.childExit pid = some next) :
    ServicesListed next := by
  cases isFound : inner.findAppInfo pid with
  | some app =>
      obtain ⟨exited, record, deleted, policy, _, quiet, isRecord, isDeleted,
        _, isNext⟩ := childExit_steps isFound isNext
      have exits : ServicesListed exited :=
        before.quiet partsOf_procAppTerminated_areRoutine quiet
      have exitedTokens := tokens
      rw [← quiet.mServices] at exitedTokens
      have swappedTokens :
          ((exited.swapServices app record).mServices.map
            ServiceRecord.mToken).Nodup :=
        exitedTokens
      have areHosted :
          ∀ service ∈ (exited.swapServices app record).mServices,
            service.mToken ∈ record.mExistService →
            service.mApp = app := by
        intro service isListed isThere
        obtain ⟨other, otherListed, sameToken, isHosted, _⟩ :=
          (exits.listed app record isRecord service.mToken).mp isThere
        rw [← isHosted]
        exact
          congrArg ServiceRecord.mApp
            (eq_of_mToken_eq exitedTokens isListed otherListed
              sameToken.symm)
      obtain ⟨sameApps, areLeft⟩ :=
        terminateServices_spec swappedTokens areHosted
      have isOther :
          ∀ other found,
            next.manager.apps other = some found →
            other ≠ app ∧ exited.manager.apps other = some found := by
        intro other found isFound
        rw [isNext, deleteAppInfo_cases isDeleted] at isFound
        have isFound :
            Function.update
                (terminateServices record.mExistService
                  (exited.swapServices app record)).manager.apps
                app none other =
              some found :=
          isFound
        by_cases isApp : other = app
        · rw [isApp, Function.update_self] at isFound
          cases isFound
        · rw [Function.update_of_ne isApp, sameApps other isApp] at isFound
          exact
            ⟨isApp, (Function.update_of_ne isApp _ _).symm.trans isFound⟩
      have sameServices :
          next.mServices =
            (terminateServices record.mExistService
              (exited.swapServices app record)).mServices := by
        rw [isNext, deleteAppInfo_cases isDeleted]
      constructor
      · intro other found isFound
        exact exits.distinct other found (isOther other found isFound).2
      · intro other found isFound token
        obtain ⟨notApp, wasFound⟩ := isOther other found isFound
        rw [exits.listed other found wasFound, sameServices]
        constructor
        · rintro ⟨service, isListed, isToken, isHosted, isEngaged⟩
          refine
            ⟨service, (areLeft service).mpr ⟨isListed, ?_⟩, isToken,
              isHosted, isEngaged⟩
          intro isThere
          exact
            notApp
              (isHosted.symm.trans (areHosted service isListed isThere))
        · rintro ⟨service, isLeft, isState⟩
          exact ⟨service, ((areLeft service).mp isLeft).1, isState⟩
  | none =>
      cases childExit_outcome isNext with
      | hosted isHosted =>
          rw [isFound] at isHosted
          cases isHosted
      | waiting _ _ =>
          exact before.of_eq rfl rfl
      | unknown _ _ =>
          exact before

end ServicesListed

/-! ## Every step -/

/-- The service that a request starts or binds, if it is there already. -/
def requestedService
    (inner : ActivityManagerInner)
    (serviceName : String)
    (packageInfo : PackageInfo) : Option ServiceRecord :=
  if packageInfo.servicesInfo.any (·.name == serviceName) then
    findService inner.manager.apps inner.mServices
      packageInfo.servicePackageName serviceName
  else
    none

/-- The application of a service lists it. -/
def listsService
    (inner : ActivityManagerInner)
    (service : ServiceRecord) : Bool :=
  (inner.manager.apps service.mApp).any fun record =>
    service.mToken ∈ record.mExistService

/--
A service may be started that is not listed, and bound that is listed or has no
flags.
-/
def allowsRequest
    (inner : ActivityManagerInner)
    (service : ServiceRecord) : ServiceRequest → Bool
  | .start => !inner.listsService service
  | .bind _ => inner.listsService service || !service.isAlive

/--
A service that is found allows the request for it, and none is reported to be
destroyed that is listed.
-/
def keepsServicesListed
    (inner : ActivityManagerInner) : InnerAction → Bool
  | .startService serviceName packageInfo _ _ =>
      (inner.requestedService serviceName packageInfo).all fun service =>
        inner.allowsRequest service .start
  | .bindService serviceName packageInfo _ conn _ =>
      (inner.requestedService serviceName packageInfo).all fun service =>
        inner.allowsRequest service (.bind conn)
  | .reportServiceStatus token status =>
      status ≠ ServiceStatus.destroyed ||
        (getService inner.mServices token).all fun service =>
          !inner.listsService service
  | _ => true

/-- A service that is engaged has flags. -/
def EngagedAreAlive (inner : ActivityManagerInner) : Prop :=
  EachService
    (fun service => service.isEngaged = true → service.isAlive = true)
    inner

end ActivityManagerInner

/-- Every operation that lists a service sets a flag. -/
theorem ServiceRecord.lasts_engaged :
    Lasts fun service =>
      service.isEngaged = true → service.isAlive = true where
  start intent service app holds := by
    unfold start
    split
    · exact fun _ => by simp [isAlive, StartFlag.unknow]
    · exact holds
  stop service app holds := by
    unfold stop
    split
    · exact nofun
    · exact holds
  bind conn intent service app holds := by
    unfold bind
    split
    · exact fun _ => by simp [isAlive, StartFlag.unknow]
    · exact holds
  unbind conn service app holds := by
    unfold unbind
    split
    · dsimp only
      split
      · intro isEngaged
        rw [Bool.and_eq_true] at isEngaged
        exact isEngaged.2
      · exact holds
    · exact holds
  abnormalExit _ _ _ := nofun
  publish _ _ holds := holds
  report _ _ _ holds := holds

namespace ActivityManagerInner

variable {inner next : ActivityManagerInner} {service : ServiceRecord}

/-- What a process lists are the services that are engaged. -/
theorem ServicesListed.listsService_eq
    {record : AppRecord}
    (listed : ServicesListed inner)
    (tokens : (inner.mServices.map ServiceRecord.mToken).Nodup)
    (isListed : service ∈ inner.mServices)
    (isRecord : inner.manager.apps service.mApp = some record) :
    inner.listsService service = service.isEngaged := by
  have listing := listed.listing tokens isListed isRecord
  rw [listsService, isRecord, Option.any_some, Bool.eq_iff_iff,
    decide_eq_true_iff]
  exact listing.listed

/-- A request does nothing, or looks for the service. -/
theorem startServiceReal_requested
    {serviceName : String}
    {packageInfo : PackageInfo}
    {intent : Intent}
    {request : ServiceRequest}
    {spawned : Option Nat}
    {route : Route}
    (isResult :
      inner.startServiceReal serviceName packageInfo intent request
        spawned = some (next, route)) :
    next = inner ∨
      inner.requestedService serviceName packageInfo =
        findService inner.manager.apps inner.mServices
          packageInfo.servicePackageName serviceName := by
  unfold startServiceReal at isResult
  split at isResult
  · exact .inl (Prod.mk.inj (Option.some.inj isResult)).1.symm
  · rename_i info isDeclared
    refine .inr (if_pos ?_)
    rw [List.any_eq_true, ← List.find?_isSome, isDeclared]
    rfl

/-- A request for a service, which is listed or not as it must be. -/
theorem ServicesListed.startServiceReal
    {serviceName : String}
    {packageInfo : PackageInfo}
    {intent : Intent}
    {request : ServiceRequest}
    {spawned : Option Nat}
    {route : Route}
    (before : ServicesListed inner)
    (numbered : ServicesNumbered inner)
    (alive : EngagedAreAlive inner)
    (keeps :
      (inner.requestedService serviceName packageInfo).all
        (inner.allowsRequest · request) = true)
    (isResult :
      inner.startServiceReal serviceName packageInfo intent request
        spawned = some (next, route)) :
    ServicesListed next := by
  rcases startServiceReal_requested isResult with isSame | isRequested
  · rw [isSame]
    exact before
  · cases startServiceReal_outcome isResult with
    | rejected =>
        exact before
    | @found service isFound =>
        obtain ⟨isListed, _, isHosted⟩ := mem_of_findService isFound
        rw [isRequested, isFound, Option.all_some] at keeps
        refine
          before.requestService numbered.distinct isListed intent request ?_
        intro record isRecord
        have isAlive := alive service isListed
        have same :=
          before.listsService_eq numbered.distinct isListed isRecord
        cases request with
        | start =>
            rw [allowsRequest, same, Bool.not_eq_true'] at keeps
            exact keeps
        | bind conn =>
            rw [allowsRequest, same] at keeps
            cases isEngaged : service.isEngaged with
            | true =>
                exact (isAlive isEngaged).symm
            | false =>
                rw [isEngaged, Bool.false_or, Bool.not_eq_true'] at keeps
                exact keeps.symm
    | created _ _ _ _ =>
        exact before.createService numbered _ _ _ _ _
    | queued _ _ _ submitted =>
        refine before.of_eq ?_ submitted.mServices_eq
        rw [submitted.manager_eq]

/-- A request for an activity is nothing to the services. -/
theorem ServicesListed.activity
    {packageInfo : PackageInfo}
    {intent : Intent}
    {spawned : Option Nat}
    {route : Route}
    (before : ServicesListed inner)
    (outcome :
      inner.ActivityOutcome packageInfo intent spawned next route) :
    ServicesListed next := by
  have areRoutine := ownParts_areRoutine
  cases outcome with
  | rejected quiet =>
      exact before.quiet areRoutine quiet
  | turned quiet =>
      exact before.quiet areRoutine quiet
  | @hosted created _ _ _ _ _ isCreated quiet =>
      have creates : ServicesListed created := by
        refine before.of_eq ?_ isCreated.mServices
        rw [isCreated.manager]
        rfl
      exact creates.quiet areRoutine quiet
  | @queued created queue _ _ _ _ _ _ _ _ isCreated submitted quiet =>
      have queues : ServicesListed queue := by
        refine before.of_eq ?_ ?_
        · rw [submitted.manager_eq, isCreated.manager]
          rfl
        · rw [submitted.mServices_eq, isCreated.mServices]
      exact queues.quiet areRoutine quiet

/-- What holds of the services in every run that keeps them listed. -/
structure ServicesKept (inner : ActivityManagerInner) : Prop where
  numbered : ServicesNumbered inner
  alive : EngagedAreAlive inner
  listed : ServicesListed inner

theorem ServicesKept.start
    (lines : List LmkRow)
    (arena : Int)
    (now : Nat) :
    ServicesKept (start lines arena now) where
  numbered := .start lines arena now
  alive _ isListed := absurd isListed List.not_mem_nil
  listed := .start lines arena now

/-- Every step that is careful with them keeps the lists exact. -/
theorem ServicesKept.step
    {action : InnerAction}
    (before : ServicesKept inner)
    (bounded : ∀ app ∈ inner.mAppList, app < inner.manager.nextApp)
    (keeps : inner.keepsServicesListed action = true)
    (isNext : inner.step? action = some next) :
    ServicesKept next := by
  obtain ⟨numbered, alive, listed⟩ := before
  have tokens := numbered.distinct
  refine
    ⟨numbered.step bounded isNext,
      EachService.step ServiceRecord.lasts_engaged numbered alive
        (fun _ _ _ _ _ => nofun) isNext, ?_⟩
  cases action with
  | startService serviceName packageInfo intent spawned =>
      obtain ⟨⟨_, route⟩, isResult, rfl⟩ :=
        Option.map_eq_some_iff.mp isNext
      exact listed.startServiceReal numbered alive keeps isResult
  | bindService serviceName packageInfo intent conn spawned =>
      obtain ⟨⟨_, route⟩, isResult, rfl⟩ :=
        Option.map_eq_some_iff.mp isNext
      exact listed.startServiceReal numbered alive keeps isResult
  | stopService packageInfo serviceName =>
      rw [← Option.some.inj isNext]
      rcases stopService_cases inner packageInfo serviceName with
        isSame | ⟨service, isListed, isStopped⟩
      · rw [isSame]
        exact listed
      · rw [isStopped]
        exact listed.stopServiceReal tokens isListed
  | stopServiceByToken token =>
      obtain ⟨⟨_, isStopped⟩, isResult, rfl⟩ :=
        Option.map_eq_some_iff.mp isNext
      rcases stopServiceByToken_cases isResult with
        isSame | ⟨service, isListed, isNext⟩
      · rw [isSame]
        exact listed
      · rw [isNext]
        exact listed.stopServiceReal tokens isListed
  | unbindService conn =>
      rw [← Option.some.inj isNext]
      exact listed.unbindAll tokens conn _
  | publishService token serviceBinder =>
      rw [← Option.some.inj isNext, ActivityManagerInner.publishService]
      split
      · rename_i service isFound
        refine listed.setRecords fun other otherListed => ?_
        split
        · rename_i isThis
          rw [eq_of_mToken_eq tokens otherListed
            (mem_of_getService isFound).1 isThis]
          exact ⟨rfl, rfl⟩
        · exact ⟨rfl, rfl⟩
      · exact listed
  | reportServiceStatus token status =>
      refine listed.report tokens ?_ (reportServiceStatus_outcome isNext)
      intro isDestroyed service isFound record isRecord isThere
      rw [keepsServicesListed, isDestroyed, isFound, Option.all_some,
        listsService, isRecord, Option.any_some,
        (mem_of_getService isFound).2, decide_eq_true isThere] at keeps
      exact absurd keeps (by decide)
  | attachApplication callerPid isSystemUI =>
      cases attachApplication_outcome isNext with
      | known _ =>
          exact listed
      | @attached packageName _ _ _ isServed =>
          exact
            (listed.addAppInfo numbered packageName isSystemUI
              callerPid).attached
              (attach_numbered numbered packageName isSystemUI callerPid)
              (Nat.lt_succ_self _) isServed
      | illegal _ =>
          exact listed
  | childExit pid =>
      exact listed.childExit tokens isNext
  | startActivity activityName packageInfo intent caller isOkToLaunch
      spawned =>
      obtain ⟨⟨_, route⟩, isResult, rfl⟩ :=
        Option.map_eq_some_iff.mp isNext
      exact listed.activity (startActivity_outcome isResult)
  | startActivityReal activityName packageInfo intent caller isOkToLaunch
      spawned =>
      obtain ⟨⟨_, route⟩, isResult, rfl⟩ :=
        Option.map_eq_some_iff.mp isNext
      exact listed.activity (startActivityReal_outcome isResult)
  | stopApplication app =>
      exact
        listed.quiet stoppingParts_areRoutine
          ((stopApplication_quiet inner app).of_result isNext)
  | executeLMK freememory maxblock =>
      exact
        listed.quiet stoppingParts_areRoutine
          ((executeLMK_quiet inner freememory maxblock).of_result isNext)
  | manager action =>
      rw [step?] at isNext
      split at isNext
      · rename_i isApart
        exact
          listed.quiet (partsOf_areRoutine isApart)
            ((onManager_quiet inner action).of_result isNext)
      · cases isNext
  | moveSystemUIToBackground task =>
      exact
        listed.quiet ownParts_areRoutine
          ((moveSystemUIToBackground_quiet inner task).of_result isNext)
  | finishSystemUIActivity activity =>
      exact
        listed.quiet ownParts_areRoutine
          ((finishSystemUIActivity_quiet inner activity).of_result isNext)

end ActivityManagerInner

end ActivityManager
