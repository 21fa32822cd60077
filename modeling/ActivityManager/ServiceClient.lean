import ActivityManager.ServiceRecord

/-!
# Services in the client

The application process keeps a `ServiceClientRecord` for every service that
runs in it.  Its handlers run the service's callbacks, of which only the binder
that `onBind` returns matters here, and send reports to the server.
-/

namespace ActivityManager

/-- The calls about services from a client to the server. -/
inductive ServiceReport where
  | reportServiceStatus (token : Nat) (status : ServiceStatus)
  | publishService (token : Nat) (serviceBinder : Option Nat)
  deriving Repr, DecidableEq

/-- `ServiceClientRecord`, with the fields of its `Service`. -/
structure ServiceClientRecord where
  mServiceName : String
  mToken : Nat
  mStatus : ServiceStatus
  mStartFlag : StartFlag
  mServiceBinder : Option Nat
  mIsBinded : Bool
  deriving Repr, DecidableEq

/-- What a handler leaves behind. -/
structure ServiceClientEffect where
  record : ServiceClientRecord
  reports : List ServiceReport
  deriving Repr, DecidableEq

namespace ServiceClientRecord

/-- The constructor of `ServiceClientRecord`, with a new service. -/
def fresh
    (name : String)
    (token : Nat) : ServiceClientRecord where
  mServiceName := name
  mToken := token
  mStatus := ServiceStatus.creating
  mStartFlag := .unknow
  mServiceBinder := none
  mIsBinded := false

/-- The report of `onCreate`, which runs with the first request. -/
def createReports
    (record : ServiceClientRecord) : List ServiceReport :=
  if record.mStatus = ServiceStatus.creating then
    [.reportServiceStatus record.mToken ServiceStatus.created]
  else
    []

/-- `ServiceClientRecord::onStart`. -/
def onStart (record : ServiceClientRecord) : ServiceClientEffect where
  record :=
    { record with
      mStatus := ServiceStatus.started
      mStartFlag := { record.mStartFlag with started := true } }
  reports :=
    record.createReports ++
      [.reportServiceStatus record.mToken ServiceStatus.started]

/--
`ServiceClientRecord::onBind`.  The service is bound once, and publishes the
binder that its callback returns.
-/
def onBind
    (serviceBinder : Option Nat)
    (record : ServiceClientRecord) : ServiceClientEffect where
  record :=
    { record with
      mStatus := ServiceStatus.binded
      mStartFlag := { record.mStartFlag with binded := true }
      mServiceBinder :=
        if record.mIsBinded then record.mServiceBinder
        else serviceBinder
      mIsBinded := true }
  reports :=
    record.createReports ++
      (if record.mIsBinded then []
        else [.publishService record.mToken serviceBinder]) ++
      [.reportServiceStatus record.mToken ServiceStatus.binded]

/-- `ServiceClientRecord::onUnbind`. -/
def onUnbind (record : ServiceClientRecord) : ServiceClientEffect :=
  if record.mStartFlag.binded then
    { record :=
        { record with
          mStatus := ServiceStatus.unbinded
          mIsBinded := false }
      reports :=
        [.reportServiceStatus record.mToken ServiceStatus.unbinded] }
  else
    { record := record, reports := [] }

/-- `ServiceClientRecord::onDestroy`. -/
def onDestroy (record : ServiceClientRecord) : ServiceClientEffect where
  record := { record with mStatus := ServiceStatus.destroyed }
  reports := [.reportServiceStatus record.mToken ServiceStatus.destroyed]

end ServiceClientRecord

/-- The part of `Application` that is about services. -/
structure Application where
  /-- The names in `mServiceMap`. -/
  mServiceMap : List String
  mExistServices : List ServiceClientRecord
  deriving Repr, DecidableEq

namespace Application

/-- `Application::findService`. -/
def findService
    (mApp : Application)
    (token : Nat) : Option ServiceClientRecord :=
  mApp.mExistServices.find? (·.mToken == token)

/-- `Application::addService`. -/
def addService
    (mApp : Application)
    (record : ServiceClientRecord) : Application :=
  { mApp with mExistServices := mApp.mExistServices ++ [record] }

/-- `Application::deleteService`. -/
def deleteService
    (mApp : Application)
    (token : Nat) : Application :=
  { mApp with
    mExistServices := swapRemove (·.mToken == token) mApp.mExistServices }

/-- A record of the application runs a handler. -/
def handle
    (mApp : Application)
    (effect : ServiceClientEffect) : Application × List ServiceReport :=
  ({ mApp with
      mExistServices :=
        mApp.mExistServices.map fun record =>
          if record.mToken = effect.record.mToken then effect.record
          else record },
    effect.reports)

/-- The record of the service, which is created if it has to be. -/
def openService
    (mApp : Application)
    (serviceName : String)
    (token : Nat) : Option (Application × ServiceClientRecord) :=
  match mApp.findService token with
  | some record =>
      some (mApp, record)
  | none =>
      let record := ServiceClientRecord.fresh serviceName token
      if serviceName ∈ mApp.mServiceMap then
        some (mApp.addService record, record)
      else
        none

/-- `ApplicationThreadStub::onStartService`. -/
def onStartService
    (mApp : Application)
    (serviceName : String)
    (token : Nat) : Application × List ServiceReport :=
  match mApp.openService serviceName token with
  | some (mApp, record) => mApp.handle record.onStart
  | none => (mApp, [])

/-- `ApplicationThreadStub::onBindService`. -/
def onBindService
    (mApp : Application)
    (serviceName : String)
    (token : Nat)
    (serviceBinder : Option Nat) : Application × List ServiceReport :=
  match mApp.openService serviceName token with
  | some (mApp, record) => mApp.handle (record.onBind serviceBinder)
  | none => (mApp, [])

/-- `ApplicationThreadStub::onUnbindService`. -/
def onUnbindService
    (mApp : Application)
    (token : Nat) : Application × List ServiceReport :=
  match mApp.findService token with
  | some record => mApp.handle record.onUnbind
  | none => (mApp, [])

/-- `ApplicationThreadStub::onStopService`. -/
def onStopService
    (mApp : Application)
    (token : Nat) : Application × List ServiceReport :=
  match mApp.findService token with
  | some record =>
      let (mApp, reports) := mApp.handle record.onDestroy
      (mApp.deleteService token, reports)
  | none => (mApp, [])

/-- What the application does with a call of the server. -/
def onCall
    (mApp : Application)
    (serviceBinder : Option Nat) :
    ServiceCall → Application × List ServiceReport
  | .scheduleStartService _ serviceName token _ =>
      mApp.onStartService serviceName token
  | .scheduleBindService _ serviceName token _ _ =>
      mApp.onBindService serviceName token serviceBinder
  | .scheduleUnbindService _ token =>
      mApp.onUnbindService token
  | .scheduleStopService _ token =>
      mApp.onStopService token
  | _ =>
      (mApp, [])

/-- The services that are alive. -/
def tokens (mApp : Application) : List Nat :=
  mApp.mExistServices.map ServiceClientRecord.mToken

end Application

namespace ServiceCall

/-- The call goes to the client and brings the service to life if need be. -/
def engages (token : Nat) : ServiceCall → Bool
  | .scheduleStartService _ _ service _ => service = token
  | .scheduleBindService _ _ service _ _ => service = token
  | _ => false

/-- The call makes the client destroy the service. -/
def stops (token : Nat) : ServiceCall → Bool
  | .scheduleStopService _ service => service = token
  | _ => false

/-- The call goes to an application, and not to a connection. -/
def isCommand : ServiceCall → Bool
  | .onServiceConnected _ _ => false
  | .onServiceDisconnected _ _ => false
  | _ => true

end ServiceCall

/-- The service was destroyed. -/
def ServiceReport.ends
    (token : Nat) : ServiceReport → Bool
  | .reportServiceStatus service status =>
      service = token && status = ServiceStatus.destroyed
  | .publishService _ _ => false

/-- The reports say that the service was destroyed. -/
def ServiceReport.anyEnds
    (reports : List ServiceReport)
    (token : Nat) : Bool :=
  reports.any (ends token)

/-! ## What the handlers do to the services that are alive -/

namespace Application

variable {mApp next : Application} {reports : List ServiceReport}

theorem mem_tokens_iff
    (mApp : Application)
    (token : Nat) :
    token ∈ mApp.tokens ↔ (mApp.findService token).isSome = true := by
  simp [tokens, findService]

/-- A record that is found has the token. -/
theorem mToken_of_findService
    {token : Nat}
    {record : ServiceClientRecord}
    (isFound : mApp.findService token = some record) :
    record.mToken = token := by
  unfold findService at isFound
  have isToken := List.find?_some isFound
  exact beq_iff_eq.mp isToken

/-- Handlers keep the tokens. -/
theorem handle_tokens
    (mApp : Application)
    (effect : ServiceClientEffect) :
    (mApp.handle effect).1.tokens = mApp.tokens := by
  rw [handle, tokens, tokens, List.map_map]
  apply List.map_congr_left
  intro record _
  dsimp only [Function.comp]
  split
  · rename_i isChanged
    exact isChanged.symm
  · rfl

/-- What there is of a service that is asked to start. -/
theorem openService_tokens
    {serviceName : String}
    {token : Nat}
    {record : ServiceClientRecord}
    (isOpen :
      mApp.openService serviceName token = some (next, record)) :
    record.mToken = token ∧
      (∀ other,
        other ∈ next.tokens ↔ other ∈ mApp.tokens ∨ other = token) ∧
      (mApp.tokens.Nodup → next.tokens.Nodup) := by
  unfold openService at isOpen
  split at isOpen
  · rename_i found isFound
    rw [Option.some.injEq, Prod.mk.injEq] at isOpen
    rw [← isOpen.1, ← isOpen.2]
    refine ⟨mToken_of_findService isFound, fun other => ?_, id⟩
    have isAlive : token ∈ mApp.tokens := by
      rw [mem_tokens_iff, isFound]
      rfl
    refine ⟨Or.inl, ?_⟩
    rintro (wasAlive | isToken)
    · exact wasAlive
    · rw [isToken]
      exact isAlive
  · rename_i notFound
    dsimp only at isOpen
    split at isOpen
    · rw [Option.some.injEq, Prod.mk.injEq] at isOpen
      rw [← isOpen.1, ← isOpen.2]
      have isAdded :
          (mApp.addService
            (ServiceClientRecord.fresh serviceName token)).tokens =
            mApp.tokens ++ [token] := by
        simp [addService, tokens, ServiceClientRecord.fresh]
      have notAlive : token ∉ mApp.tokens := by
        rw [mem_tokens_iff, notFound]
        exact Bool.false_ne_true
      refine ⟨rfl, fun other => ?_, fun distinct => ?_⟩
      · rw [isAdded, List.mem_append, List.mem_singleton]
      · rw [isAdded, ← List.concat_eq_append]
        exact List.Nodup.concat notAlive distinct
    · cases isOpen

/-- The application has the service of the call, or can create it. -/
def serves (mApp : Application) : ServiceCall → Bool
  | .scheduleStartService _ serviceName token _ =>
      (mApp.openService serviceName token).isSome
  | .scheduleBindService _ serviceName token _ _ =>
      (mApp.openService serviceName token).isSome
  | _ => true

/--
What a call does to the services that are alive.  A service is reported to be
destroyed only if it was alive.
-/
structure Obeys
    (mApp next : Application)
    (reports : List ServiceReport)
    (call : ServiceCall) : Prop where
  distinct : mApp.tokens.Nodup → next.tokens.Nodup
  alive :
    mApp.tokens.Nodup →
    ∀ token,
      token ∈ next.tokens ↔
        (token ∈ mApp.tokens ∨ call.engages token = true) ∧
          call.stops token = false
  ended :
    ∀ token,
      ServiceReport.anyEnds reports token = true ↔
        call.stops token = true ∧ token ∈ mApp.tokens

/-- A handler that leaves the services alive that are. -/
theorem obeys_of_tokens
    {call : ServiceCall}
    (sameTokens : next.tokens = mApp.tokens)
    (neverEngages : ∀ token, call.engages token = false)
    (neverStops : ∀ token, call.stops token = true → token ∉ mApp.tokens)
    (neverEnds : ∀ token, ServiceReport.anyEnds reports token = false) :
    Obeys mApp next reports call where
  distinct distinct := by
    rwa [sameTokens]
  alive _ token := by
    rw [sameTokens, neverEngages token]
    constructor
    · intro isAlive
      refine ⟨.inl isAlive, ?_⟩
      cases isStopped : call.stops token with
      | false =>
          rfl
      | true =>
          exact absurd isAlive (neverStops token isStopped)
    · rintro ⟨isAlive | isEngaged, _⟩
      · exact isAlive
      · exact absurd isEngaged Bool.false_ne_true
  ended token := by
    rw [neverEnds token]
    exact
      iff_of_false Bool.false_ne_true fun ⟨isStopped, isAlive⟩ =>
        neverStops token isStopped isAlive

/-- A handler of a service that is alive, or comes to life. -/
theorem obeys_of_open
    {serviceName : String}
    {token : Nat}
    {opened : Application}
    {record : ServiceClientRecord}
    {effect : ServiceClientEffect}
    {call : ServiceCall}
    (isOpen :
      mApp.openService serviceName token = some (opened, record))
    (engages : ∀ other, call.engages other = decide (token = other))
    (neverStops : ∀ other, call.stops other = false)
    (neverEnds :
      ∀ other, ServiceReport.anyEnds effect.reports other = false) :
    Obeys mApp (opened.handle effect).1 (opened.handle effect).2
      call := by
  obtain ⟨_, alive, distinct⟩ := openService_tokens isOpen
  constructor
  · rw [handle_tokens]
    exact distinct
  · intro _ other
    rw [handle_tokens, alive, engages, neverStops, decide_eq_true_iff,
      eq_comm (a := token)]
    exact (and_iff_left rfl).symm
  · intro other
    rw [neverStops, handle]
    dsimp only
    rw [neverEnds]
    exact iff_of_false Bool.false_ne_true fun ⟨isStopped, _⟩ =>
      Bool.false_ne_true isStopped

/-- No report of `onStart` is about an end. -/
theorem onStart_neverEnds
    (record : ServiceClientRecord)
    (token : Nat) :
    ServiceReport.anyEnds record.onStart.reports token = false := by
  unfold ServiceReport.anyEnds ServiceClientRecord.onStart
    ServiceClientRecord.createReports
  split <;> simp [ServiceReport.ends]

theorem onBind_neverEnds
    (serviceBinder : Option Nat)
    (record : ServiceClientRecord)
    (token : Nat) :
    ServiceReport.anyEnds (record.onBind serviceBinder).reports token =
      false := by
  unfold ServiceReport.anyEnds ServiceClientRecord.onBind
    ServiceClientRecord.createReports
  dsimp only
  split <;> split <;> simp [ServiceReport.ends]

theorem onUnbind_neverEnds
    (record : ServiceClientRecord)
    (token : Nat) :
    ServiceReport.anyEnds record.onUnbind.reports token = false := by
  unfold ServiceReport.anyEnds ServiceClientRecord.onUnbind
  split <;> simp [ServiceReport.ends]

/-- The service is destroyed, and is no longer alive. -/
theorem onStopService_obeys
    (mApp : Application)
    (pid token : Nat) :
    Obeys mApp (mApp.onStopService token).1 (mApp.onStopService token).2
      (.scheduleStopService pid token) := by
  unfold onStopService
  split
  · rename_i record isFound
    have isToken := mToken_of_findService isFound
    have isAlive : token ∈ mApp.tokens := by
      rw [mem_tokens_iff, isFound]
      rfl
    have handled := mApp.handle_tokens record.onDestroy
    generalize isHandled : mApp.handle record.onDestroy = result at handled
    have left :
        mApp.tokens.Nodup →
        ((result.1.deleteService token).tokens).Perm
          (mApp.tokens.filter (· != token)) := by
      intro distinct
      rw [← handled] at distinct ⊢
      have removed :=
        (swapRemove_key distinct token).map ServiceClientRecord.mToken
      refine removed.trans (.of_eq ?_)
      rw [tokens, List.filter_map]
      rfl
    constructor
    · intro distinct
      rw [(left distinct).nodup_iff]
      exact distinct.filter _
    · intro distinct other
      rw [(left distinct).mem_iff, List.mem_filter, bne_iff_ne]
      simp [ServiceCall.engages, ServiceCall.stops, eq_comm]
    · intro other
      dsimp only
      rw [← isHandled]
      simp only [handle, ServiceClientRecord.onDestroy,
        ServiceReport.anyEnds, ServiceReport.ends, ServiceCall.stops,
        List.any_cons, List.any_nil, isToken, Bool.or_false,
        decide_true, Bool.and_true, decide_eq_true_iff]
      constructor
      · intro isOther
        rw [← isOther]
        exact ⟨rfl, isAlive⟩
      · exact And.left
  · rename_i notFound
    have notAlive : token ∉ mApp.tokens := by
      rw [mem_tokens_iff, notFound]
      exact Bool.false_ne_true
    refine obeys_of_tokens rfl (fun _ => rfl) ?_ fun _ => rfl
    intro other isStopped
    rw [← of_decide_eq_true isStopped]
    exact notAlive

/-- What the application does with a call for which it has the service. -/
theorem onCall_obeys
    {call : ServiceCall}
    (isServed : mApp.serves call = true)
    (serviceBinder : Option Nat) :
    Obeys mApp (mApp.onCall serviceBinder call).1
      (mApp.onCall serviceBinder call).2 call := by
  cases call with
  | scheduleStartService pid serviceName token intent =>
      obtain ⟨⟨opened, record⟩, isOpen⟩ :=
        Option.isSome_iff_exists.mp isServed
      rw [onCall, onStartService, isOpen]
      exact obeys_of_open isOpen (fun _ => rfl) (fun _ => rfl)
        (onStart_neverEnds record)
  | scheduleBindService pid serviceName token intent conn =>
      obtain ⟨⟨opened, record⟩, isOpen⟩ :=
        Option.isSome_iff_exists.mp isServed
      rw [onCall, onBindService, isOpen]
      exact obeys_of_open isOpen (fun _ => rfl) (fun _ => rfl)
        (onBind_neverEnds serviceBinder record)
  | scheduleUnbindService pid token =>
      rw [onCall, onUnbindService]
      split
      · rename_i record isFound
        exact
          obeys_of_tokens (mApp.handle_tokens record.onUnbind)
            (fun _ => rfl) nofun (onUnbind_neverEnds record)
      · exact obeys_of_tokens rfl (fun _ => rfl) nofun fun _ => rfl
  | scheduleStopService pid token =>
      exact mApp.onStopService_obeys pid token
  | onServiceConnected conn serviceBinder =>
      exact obeys_of_tokens rfl (fun _ => rfl) nofun fun _ => rfl
  | onServiceDisconnected conn serviceBinder =>
      exact obeys_of_tokens rfl (fun _ => rfl) nofun fun _ => rfl

end Application

end ActivityManager
