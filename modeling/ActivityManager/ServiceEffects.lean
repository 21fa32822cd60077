import ActivityManager.RequestOutcomes

/-!
# What the operations on services leave alone

An operation on a service changes its record, the services that its
application lists, and nothing else.  In particular the records of the list
stay the services they are.
-/

namespace ActivityManager

/-- Only the services that an application lists may differ. -/
def WithServices (old new : AppRecord) : Prop :=
  new = { old with mExistService := new.mExistService }

theorem WithServices.refl (record : AppRecord) :
    WithServices record record :=
  rfl

theorem WithServices.trans
    {first second third : AppRecord}
    (former : WithServices first second)
    (latter : WithServices second third) :
    WithServices first third := by
  unfold WithServices at former latter ⊢
  rw [latter, former]

theorem WithServices.sameProcess
    {old new : AppRecord}
    (same : WithServices old new) :
    SameProcess old new := by
  rw [same]
  exact ⟨rfl, rfl, rfl, id⟩

namespace ServiceRecord

/-- What never changes in a service. -/
def key (service : ServiceRecord) : Nat × String × Nat :=
  (service.mToken, service.mServiceName, service.mApp)

/-- An operation keeps what the service is, and whose it is. -/
def KeepsKey
    (operate : ServiceRecord → Option AppRecord → ServiceEffect) :
    Prop :=
  ∀ service app,
    (operate service app).service.key = service.key ∧
      ∀ new,
        (operate service app).app = some new →
        ∃ old, app = some old ∧ WithServices old new

theorem keepsKey_start (intent : Intent) :
    KeepsKey (start intent) := by
  intro service app
  cases app with
  | none =>
      exact ⟨rfl, nofun⟩
  | some old =>
      refine ⟨rfl, ?_⟩
      intro new isNew
      rw [← Option.some.inj isNew]
      exact ⟨old, rfl, rfl⟩

theorem keepsKey_stop :
    KeepsKey stop := by
  intro service app
  cases app with
  | none =>
      exact ⟨rfl, nofun⟩
  | some old =>
      refine ⟨rfl, ?_⟩
      intro new isNew
      rw [← Option.some.inj isNew]
      exact ⟨old, rfl, rfl⟩

theorem keepsKey_bind
    (conn : Nat)
    (intent : Intent) :
    KeepsKey (bind conn intent) := by
  intro service app
  cases app with
  | none =>
      exact ⟨rfl, nofun⟩
  | some old =>
      refine ⟨rfl, ?_⟩
      intro new isNew
      rw [← Option.some.inj isNew]
      refine ⟨old, rfl, ?_⟩
      split <;> rfl

theorem keepsKey_unbind (conn : Nat) :
    KeepsKey (unbind conn) := by
  intro service app
  unfold unbind
  split
  · cases app with
    | none =>
        exact ⟨rfl, nofun⟩
    | some old =>
        refine ⟨rfl, ?_⟩
        intro new isNew
        rw [← Option.some.inj isNew]
        refine ⟨old, rfl, ?_⟩
        split <;> rfl
  · refine ⟨rfl, ?_⟩
    intro new isNew
    exact ⟨new, isNew, rfl⟩

theorem keepsKey_abnormalExit :
    KeepsKey abnormalExit := by
  intro service app
  refine ⟨rfl, ?_⟩
  intro new isNew
  obtain ⟨old, isOld, isNew⟩ := Option.map_eq_some_iff.mp isNew
  rw [← isNew]
  exact ⟨old, isOld, rfl⟩

end ServiceRecord

open ServiceRecord (KeepsKey)

/-- A service that is found is listed. -/
theorem mem_of_getService
    {services : List ServiceRecord}
    {token : Nat}
    {service : ServiceRecord}
    (isFound : getService services token = some service) :
    service ∈ services ∧ service.mToken = token := by
  unfold getService at isFound
  have isToken := List.find?_some isFound
  exact ⟨List.mem_of_find?_eq_some isFound, beq_iff_eq.mp isToken⟩

/-- So is one that is found by its name. -/
theorem mem_of_findService
    {apps : Nat → Option AppRecord}
    {services : List ServiceRecord}
    {packageName serviceName : String}
    {service : ServiceRecord}
    (isFound :
      findService apps services packageName serviceName = some service) :
    service ∈ services ∧
      service.mServiceName = serviceName ∧
      service.getPackageName apps = some packageName := by
  unfold findService at isFound
  have isMeant := List.find?_some isFound
  exact ⟨List.mem_of_find?_eq_some isFound, of_decide_eq_true isMeant⟩

/-- A changed record has the token it had. -/
theorem setService_tokens
    (services : List ServiceRecord)
    (changed : ServiceRecord) :
    (setService services changed).map ServiceRecord.mToken =
      services.map ServiceRecord.mToken := by
  rw [setService, List.map_map]
  apply List.map_congr_left
  intro service _
  dsimp only [Function.comp]
  split
  · rename_i isChanged
    exact isChanged.symm
  · rfl

/-- Tokens tell services apart. -/
theorem eq_of_mToken_eq
    {services : List ServiceRecord}
    {service other : ServiceRecord}
    (distinct : (services.map ServiceRecord.mToken).Nodup)
    (isListed : service ∈ services)
    (otherListed : other ∈ services)
    (sameToken : service.mToken = other.mToken) :
    service = other :=
  List.inj_on_of_nodup_map distinct isListed otherListed sameToken

/-- With distinct tokens, the records stay the services they are. -/
theorem setService_keys
    {services : List ServiceRecord}
    {service changed : ServiceRecord}
    (distinct : (services.map ServiceRecord.mToken).Nodup)
    (isListed : service ∈ services)
    (sameKey : changed.key = service.key) :
    (setService services changed).map ServiceRecord.key =
      services.map ServiceRecord.key := by
  rw [setService, List.map_map]
  apply List.map_congr_left
  intro other otherListed
  dsimp only [Function.comp]
  split
  · rename_i isChanged
    have sameToken : changed.mToken = service.mToken :=
      congrArg Prod.fst sameKey
    rw [sameKey,
      eq_of_mToken_eq distinct otherListed isListed
        (isChanged.trans sameToken)]
  · rfl

namespace ActivityManagerInner

/--
Only services change, each of which stays the one it is, and what
applications list of them.
-/
structure Serviced (before after : ActivityManagerInner) : Prop where
  manager :
    after.manager =
      { before.manager with apps := after.manager.apps }
  apps :
    AppsKept WithServices before.manager.apps after.manager.apps
  tokens :
    after.mServices.map ServiceRecord.mToken =
      before.mServices.map ServiceRecord.mToken
  keys :
    (before.mServices.map ServiceRecord.mToken).Nodup →
    after.mServices.map ServiceRecord.key =
      before.mServices.map ServiceRecord.key
  mPriorityPolicy : after.mPriorityPolicy = before.mPriorityPolicy
  mAppList : after.mAppList = before.mAppList
  mAppWaitingAttach : after.mAppWaitingAttach = before.mAppWaitingAttach
  mPendTask : after.mPendTask = before.mPendTask
  nextToken : after.nextToken = before.nextToken
  served : after.served = before.served

variable {inner next : ActivityManagerInner} {service : ServiceRecord}

namespace Serviced

theorem refl (inner : ActivityManagerInner) :
    Serviced inner inner where
  manager := rfl
  apps := .refl WithServices.refl _
  tokens := rfl
  keys _ := rfl
  mPriorityPolicy := rfl
  mAppList := rfl
  mAppWaitingAttach := rfl
  mPendTask := rfl
  nextToken := rfl
  served := rfl

theorem trans
    {middle : ActivityManagerInner}
    (former : Serviced inner middle)
    (latter : Serviced middle next) :
    Serviced inner next where
  manager := by
    rw [latter.manager, former.manager]
  apps := former.apps.trans (fun _ _ _ => WithServices.trans) latter.apps
  tokens := latter.tokens.trans former.tokens
  keys distinct := by
    have middleDistinct := distinct
    rw [← former.tokens] at middleDistinct
    exact (latter.keys middleDistinct).trans (former.keys distinct)
  mPriorityPolicy := latter.mPriorityPolicy.trans former.mPriorityPolicy
  mAppList := latter.mAppList.trans former.mAppList
  mAppWaitingAttach :=
    latter.mAppWaitingAttach.trans former.mAppWaitingAttach
  mPendTask := latter.mPendTask.trans former.mPendTask
  nextToken := latter.nextToken.trans former.nextToken
  served := latter.served.trans former.served

end Serviced

/-- An operation on a service of the list. -/
theorem onService_serviced
    {operate : ServiceRecord → Option AppRecord → ServiceEffect}
    (keeps : KeepsKey operate)
    (isListed : service ∈ inner.mServices) :
    Serviced inner (inner.onService operate service) := by
  obtain ⟨sameKey, sameApp⟩ :=
    keeps service (inner.manager.apps service.mApp)
  have keptApps :
      (inner.onService operate service).manager =
          { inner.manager with
            apps := (inner.onService operate service).manager.apps } ∧
        AppsKept WithServices inner.manager.apps
          (inner.onService operate service).manager.apps := by
    unfold onService
    dsimp only
    split
    · rename_i new isNew
      obtain ⟨old, isOld, same⟩ := sameApp new isNew
      exact ⟨rfl, .update WithServices.refl isOld same⟩
    · exact ⟨rfl, .refl WithServices.refl _⟩
  exact
    { manager := keptApps.1
      apps := keptApps.2
      tokens := setService_tokens _ _
      keys := fun distinct => setService_keys distinct isListed sameKey
      mPriorityPolicy := rfl
      mAppList := rfl
      mAppWaitingAttach := rfl
      mPendTask := rfl
      nextToken := rfl
      served := rfl }

theorem requestService_serviced
    (isListed : service ∈ inner.mServices)
    (intent : Intent)
    (request : ServiceRequest) :
    Serviced inner (inner.requestService service intent request) := by
  cases request with
  | start =>
      exact onService_serviced (ServiceRecord.keepsKey_start intent)
        isListed
  | bind conn =>
      exact onService_serviced (ServiceRecord.keepsKey_bind conn intent)
        isListed

theorem stopServiceReal_serviced
    (isListed : service ∈ inner.mServices) :
    Serviced inner (inner.stopServiceReal service) := by
  unfold stopServiceReal
  split
  · exact onService_serviced ServiceRecord.keepsKey_stop isListed
  · exact .refl inner

/-- A request by name stops a service that is listed, or nothing. -/
theorem stopService_cases
    (inner : ActivityManagerInner)
    (packageInfo : PackageInfo)
    (serviceName : String) :
    (inner.stopService packageInfo serviceName).1 = inner ∨
      ∃ service ∈ inner.mServices,
        (inner.stopService packageInfo serviceName).1 =
          inner.stopServiceReal service := by
  unfold stopService
  split
  · rename_i service isFound
    exact .inr ⟨service, (mem_of_findService isFound).1, rfl⟩
  · exact .inl rfl

/-- So does a request by token. -/
theorem stopServiceByToken_cases
    {token : Nat}
    {isStopped : Bool}
    (isNext :
      inner.stopServiceByToken token = some (next, isStopped)) :
    next = inner ∨
      ∃ service ∈ inner.mServices, next = inner.stopServiceReal service := by
  unfold stopServiceByToken at isNext
  split at isNext
  · rename_i service isFound
    obtain ⟨_, _, isNext⟩ := Option.bind_eq_some_iff.mp isNext
    rw [Option.some.injEq, Prod.mk.injEq] at isNext
    exact .inr ⟨service, (mem_of_getService isFound).1, isNext.1.symm⟩
  · rw [Option.some.injEq, Prod.mk.injEq] at isNext
    exact .inl isNext.1.symm

theorem stopService_serviced
    (inner : ActivityManagerInner)
    (packageInfo : PackageInfo)
    (serviceName : String) :
    Serviced inner (inner.stopService packageInfo serviceName).1 := by
  rcases stopService_cases inner packageInfo serviceName with
    isSame | ⟨service, isListed, isStopped⟩
  · rw [isSame]
    exact .refl inner
  · rw [isStopped]
    exact stopServiceReal_serviced isListed

theorem stopServiceByToken_serviced
    {token : Nat}
    {isStopped : Bool}
    (isNext :
      inner.stopServiceByToken token = some (next, isStopped)) :
    Serviced inner next := by
  rcases stopServiceByToken_cases isNext with
    isSame | ⟨service, isListed, isNext⟩
  · rw [isSame]
    exact .refl inner
  · rw [isNext]
    exact stopServiceReal_serviced isListed

theorem unbindAll_serviced
    (conn : Nat)
    (tokens : List Nat)
    (inner : ActivityManagerInner) :
    Serviced inner (unbindAll conn tokens inner) := by
  induction tokens generalizing inner with
  | nil =>
      exact .refl inner
  | cons token rest inductionHypothesis =>
      rw [unbindAll]
      refine Serviced.trans ?_ (inductionHypothesis _)
      split
      · rename_i service isFound
        exact onService_serviced (ServiceRecord.keepsKey_unbind conn)
          (mem_of_getService isFound).1
      · exact .refl inner

/-- The records change, and stay the services they are. -/
theorem Serviced.of_records
    {services : List ServiceRecord}
    (tokens :
      services.map ServiceRecord.mToken =
        inner.mServices.map ServiceRecord.mToken)
    (keys :
      (inner.mServices.map ServiceRecord.mToken).Nodup →
      services.map ServiceRecord.key =
        inner.mServices.map ServiceRecord.key) :
    Serviced inner { inner with mServices := services } :=
  { Serviced.refl inner with
    tokens := tokens
    keys := keys }

theorem publishService_serviced
    (inner : ActivityManagerInner)
    (token : Nat)
    (serviceBinder : Option Nat) :
    Serviced inner (inner.publishService token serviceBinder) := by
  unfold publishService
  split
  · rename_i service isFound
    exact .of_records (setService_tokens _ _)
      (fun distinct =>
        setService_keys distinct (mem_of_getService isFound).1 rfl)
  · exact .refl inner

theorem setServiceStatus_serviced
    (inner : ActivityManagerInner)
    (token : Nat)
    (status : ServiceStatus) :
    Serviced inner (inner.setServiceStatus token status) := by
  apply Serviced.of_records
  · rw [List.map_map]
    apply List.map_congr_left
    intro service _
    dsimp only [Function.comp]
    split <;> rfl
  · intro _
    rw [List.map_map]
    apply List.map_congr_left
    intro service _
    dsimp only [Function.comp]
    split <;> rfl

/-- What a report about a service does. -/
inductive ReportOutcome
    (inner : ActivityManagerInner)
    (token : Nat)
    (status : ServiceStatus) :
    ActivityManagerInner → Prop where
  | ignored :
      ReportOutcome inner token status inner
  | stored
      {service : ServiceRecord} :
      getService inner.mServices token = some service →
      ReportOutcome inner token status
        (inner.setServiceStatus token status)
  | unbinded
      {service : ServiceRecord} :
      getService inner.mServices token = some service →
      service.isAlive = false →
      ReportOutcome inner token status
        ((inner.onService ServiceRecord.stop service).setServiceStatus
          token status)
  | destroyed
      {service : ServiceRecord} :
      getService inner.mServices token = some service →
      status = ServiceStatus.destroyed →
      ReportOutcome inner token status
        (({ inner with
            mServices :=
              deleteService inner.mServices token }.stopIfIdle
          service.mApp).setServiceStatus token status)

theorem reportServiceStatus_outcome
    {token : Nat}
    {status : ServiceStatus}
    (isNext : inner.reportServiceStatus token status = some next) :
    inner.ReportOutcome token status next := by
  unfold reportServiceStatus at isNext
  split at isNext
  · rename_i service isFound
    obtain ⟨_, _, isNext⟩ := Option.bind_eq_some_iff.mp isNext
    split at isNext
    · rw [← Option.some.inj isNext]
      exact .stored isFound
    · split at isNext
      · rw [← Option.some.inj isNext]
        split
        · exact .stored isFound
        · rename_i notAlive
          exact .unbinded isFound (Bool.not_eq_true _ ▸ notAlive)
      · split at isNext
        · rename_i isDestroyed
          rw [← Option.some.inj isNext]
          exact .destroyed isFound isDestroyed
        · rw [← Option.some.inj isNext]
          exact .ignored
  · rw [← Option.some.inj isNext]
    exact .ignored

end ActivityManagerInner

end ActivityManager
