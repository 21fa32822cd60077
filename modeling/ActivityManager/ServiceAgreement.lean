import ActivityManager.RequestRoutes
import ActivityManager.ServiceClient
import ActivityManager.ServiceNumbers

/-!
# Services in the server and in the client

One application runs, and the server lists its services.  Calls of the server
to the application and the reports of the application are two queues; a
request, the next call and the next report come in any order.  A service that
the server has told the application to stop is listed until the report about
its end arrives.  When both queues are empty the two sides have the same
services, unless a request has reached such a service meanwhile.

The run ends where the application is told to terminate.
-/

namespace ActivityManager

open StepSystem (run? Reachable)

/-- What the call may do to services. -/
def ServiceCall.Concerns
    (engaged stopped : Nat → Prop)
    (call : ServiceCall) : Prop :=
  ∀ token,
    (call.engages token = true → engaged token) ∧
      (call.stops token = true → stopped token)

namespace ServiceRecord

/-- No service at all. -/
def noService (_ : Nat) : Prop :=
  False

variable (service : ServiceRecord) (app : Option AppRecord)

theorem start_concerns (intent : Intent) :
    ∀ call ∈ (service.start intent app).calls,
      call.Concerns (· = service.mToken) noService := by
  intro call isCalled token
  unfold start at isCalled
  split at isCalled
  · rw [List.mem_singleton] at isCalled
    subst isCalled
    exact ⟨fun isToken => (of_decide_eq_true isToken).symm, nofun⟩
  · exact absurd isCalled List.not_mem_nil

/-- A service that has published its binder is not asked again. -/
theorem bind_concerns
    (conn : Nat)
    (intent : Intent) :
    ∀ call ∈ (service.bind conn intent app).calls,
      call.Concerns
        (fun token =>
          token = service.mToken ∧ service.mServiceBinder = none)
        noService := by
  intro call isCalled token
  unfold bind at isCalled
  split at isCalled
  · dsimp only at isCalled
    split at isCalled
    · rw [List.mem_singleton] at isCalled
      subst isCalled
      exact ⟨nofun, nofun⟩
    · rename_i noBinder
      rw [List.mem_singleton] at isCalled
      subst isCalled
      exact
        ⟨fun isToken => ⟨(of_decide_eq_true isToken).symm, noBinder⟩,
          nofun⟩
  · exact absurd isCalled List.not_mem_nil

/-- The connections are not the client. -/
theorem disconnectAll_concerns :
    ∀ call ∈ service.disconnectAll,
      call.Concerns noService noService := by
  intro call isCalled token
  obtain ⟨conn, _, isCall⟩ := List.mem_map.mp isCalled
  subst isCall
  exact ⟨nofun, nofun⟩

theorem stop_concerns :
    ∀ call ∈ (service.stop app).calls,
      call.Concerns noService (· = service.mToken) := by
  intro call isCalled token
  have others :
      call ∈ service.disconnectAll →
      (call.engages token = true → noService token) ∧
        (call.stops token = true → token = service.mToken) := by
    intro isOther
    have harmless := service.disconnectAll_concerns call isOther token
    exact ⟨harmless.1, fun isStopped => (harmless.2 isStopped).elim⟩
  unfold stop at isCalled
  split at isCalled
  · rcases List.mem_append.mp isCalled with isOther | isCalled
    · exact others isOther
    · rw [List.mem_singleton] at isCalled
      subst isCalled
      exact ⟨nofun, fun isToken => (of_decide_eq_true isToken).symm⟩
  · exact others isCalled

theorem unbind_concerns (conn : Nat) :
    ∀ call ∈ (service.unbind conn app).calls,
      call.Concerns noService noService := by
  intro call isCalled token
  unfold unbind at isCalled
  split at isCalled
  · dsimp only at isCalled
    split at isCalled
    · rcases List.mem_cons.mp isCalled with isCall | isCalled
      · subst isCall
        exact ⟨nofun, nofun⟩
      · split at isCalled
        · rw [List.mem_singleton] at isCalled
          subst isCalled
          exact ⟨nofun, nofun⟩
        · exact absurd isCalled List.not_mem_nil
    · rw [List.mem_singleton] at isCalled
      subst isCalled
      exact ⟨nofun, nofun⟩
  · exact absurd isCalled List.not_mem_nil

end ServiceRecord

open ServiceRecord (noService)

namespace ActivityManagerInner

/-- The tokens of the services that the server lists. -/
def tokens (inner : ActivityManagerInner) : List Nat :=
  inner.mServices.map ServiceRecord.mToken

/-- Calls are made, each about services that it may concern. -/
def MakesCalls
    (engaged stopped : Nat → Prop)
    (inner next : ActivityManagerInner) : Prop :=
  ∃ called,
    next.calls = inner.calls ++ called ∧
      ∀ call ∈ called, call.Concerns engaged stopped

/--
The services stay those they are, and their application runs if it did; the
calls are about services that are listed.
-/
structure Traffic
    (engaged stopped : Nat → Prop)
    (inner next : ActivityManagerInner) : Prop where
  keys :
    inner.tokens.Nodup →
    next.mServices.map ServiceRecord.key =
      inner.mServices.map ServiceRecord.key
  nextToken : next.nextToken = inner.nextToken
  mAppList : next.mAppList = inner.mAppList
  statuses : SameStatuses inner.manager.apps next.manager.apps
  nextApp : next.manager.nextApp = inner.manager.nextApp
  calls : MakesCalls engaged stopped inner next

variable
  {engaged stopped : Nat → Prop}
  {inner next : ActivityManagerInner}
  {service : ServiceRecord}

theorem MakesCalls.none
    (sameCalls : next.calls = inner.calls) :
    MakesCalls engaged stopped inner next :=
  ⟨[], by rw [sameCalls, List.append_nil], nofun⟩

theorem MakesCalls.trans
    {middle : ActivityManagerInner}
    (former : MakesCalls engaged stopped inner middle)
    (latter : MakesCalls engaged stopped middle next) :
    MakesCalls engaged stopped inner next := by
  obtain ⟨first, firstCalls, firstConcern⟩ := former
  obtain ⟨second, secondCalls, secondConcern⟩ := latter
  refine ⟨first ++ second, ?_, ?_⟩
  · rw [secondCalls, firstCalls, List.append_assoc]
  · intro call isCalled
    rcases List.mem_append.mp isCalled with isFirst | isSecond
    · exact firstConcern call isFirst
    · exact secondConcern call isSecond

namespace Traffic

theorem of_serviced
    (serviced : Serviced inner next)
    (calls : MakesCalls engaged stopped inner next) :
    Traffic engaged stopped inner next where
  keys := serviced.keys
  nextToken := serviced.nextToken
  mAppList := serviced.mAppList
  statuses := serviced.apps.mono fun _ _ same => same.sameStatus
  nextApp := serviced.sameProcesses.nextApp
  calls := calls

theorem refl (inner : ActivityManagerInner) :
    Traffic engaged stopped inner inner :=
  .of_serviced (.refl inner) (.none rfl)

/-- An operation on a service of the list. -/
theorem onService
    {operate : ServiceRecord → Option AppRecord → ServiceEffect}
    (keeps : ServiceRecord.KeepsKey operate)
    (isListed : service ∈ inner.mServices)
    (concerns :
      ∀ app, ∀ call ∈ (operate service app).calls,
        call.Concerns engaged stopped) :
    Traffic engaged stopped inner (inner.onService operate service) :=
  .of_serviced (onService_serviced keeps isListed)
    ⟨_, rfl, concerns _⟩

theorem stopServiceReal
    (isListed : service ∈ inner.mServices) :
    Traffic noService (· ∈ inner.tokens) inner
      (inner.stopServiceReal service) := by
  unfold ActivityManagerInner.stopServiceReal
  split
  · refine .onService ServiceRecord.keepsKey_stop isListed ?_
    intro app call isCalled token
    have concerns := service.stop_concerns app call isCalled token
    refine ⟨concerns.1, fun isStopped => ?_⟩
    rw [concerns.2 isStopped]
    exact List.mem_map_of_mem isListed
  · exact .refl inner

/-- `unbind` concerns no service of the client. -/
theorem unbindAll
    (conn : Nat)
    (tokens : List Nat)
    (inner : ActivityManagerInner) :
    Traffic noService noService inner
      (ActivityManagerInner.unbindAll conn tokens inner) := by
  refine .of_serviced (unbindAll_serviced conn tokens inner) ?_
  induction tokens generalizing inner with
  | nil =>
      exact .none rfl
  | cons token rest inductionHypothesis =>
      rw [ActivityManagerInner.unbindAll]
      refine MakesCalls.trans ?_ (inductionHypothesis _)
      split
      · rename_i service isFound
        exact ⟨_, rfl, service.unbind_concerns _ conn⟩
      · exact .none rfl

end Traffic

/-! ## Requests and reports -/

/-- A service comes behind the others, and is asked for at once. -/
structure NewService
    (inner next : ActivityManagerInner)
    (app : Nat) : Prop where
  numbered : next.ServicesNumbered
  keys :
    ∃ serviceName,
      next.mServices.map ServiceRecord.key =
        inner.mServices.map ServiceRecord.key ++
          [(inner.nextToken, serviceName, app)]
  nextToken : next.nextToken = inner.nextToken + 1
  mAppList : next.mAppList = inner.mAppList
  statuses : SameStatuses inner.manager.apps next.manager.apps
  nextApp : next.manager.nextApp = inner.manager.nextApp
  calls :
    ∃ call,
      next.calls = inner.calls ++ [call] ∧
        call.isCommand = true ∧
          ∀ token,
            call.engages token = decide (inner.nextToken = token) ∧
              call.stops token = false

/-- What a new service does not change. -/
theorem createService_newService
    {app : Nat}
    {record : AppRecord}
    (before : ServicesNumbered inner)
    (isRecord : inner.manager.apps app = some record)
    (isHosted : app < inner.manager.nextApp)
    (policy : ProcessPriorityPolicy)
    (serviceName : String)
    (priority : ProcessPriority)
    (intent : Intent)
    (request : ServiceRequest) :
    NewService inner
      (inner.createService policy
        (.fresh serviceName inner.nextToken priority app) intent request)
      app := by
  obtain ⟨keys, numbered⟩ :=
    createService_keys before policy serviceName priority intent request
      isHosted
  have serviced :=
    createService_serviced inner policy
      (.fresh serviceName inner.nextToken priority app) intent request
  exact
    { numbered := numbered
      keys := ⟨serviceName, keys⟩
      nextToken := serviced.nextToken
      mAppList := serviced.mAppList
      statuses := serviced.apps.mono fun _ _ same => same.sameStatus
      nextApp := serviced.sameProcesses.nextApp
      calls := by
        cases request with
        | start =>
            refine
              ⟨.scheduleStartService record.mPid serviceName
                inner.nextToken intent, ?_, rfl, fun _ => ⟨rfl, rfl⟩⟩
            simp [createService, addService, requestService,
              ActivityManagerInner.onService, ServiceRecord.fresh,
              ServiceRecord.start, isRecord]
        | bind conn =>
            refine
              ⟨.scheduleBindService record.mPid serviceName
                inner.nextToken intent conn, ?_, rfl,
                fun _ => ⟨rfl, rfl⟩⟩
            simp [createService, addService, requestService,
              ActivityManagerInner.onService, ServiceRecord.fresh,
              ServiceRecord.bind, isRecord] }

/-- The service that a request finds is asked, unless it has published. -/
def Asks
    (inner : ActivityManagerInner)
    (serviceName : String)
    (packageInfo : PackageInfo)
    (request : ServiceRequest)
    (token : Nat) : Prop :=
  ∃ service,
    findService inner.manager.apps inner.mServices
        packageInfo.servicePackageName serviceName =
      some service ∧
    service.mToken = token ∧
      (request = .start ∨ service.mServiceBinder = none)

/-- A request to start a service, or to bind it. -/
theorem startServiceReal_traffic
    {app : Nat}
    {serviceName : String}
    {packageInfo : PackageInfo}
    {intent : Intent}
    {request : ServiceRequest}
    {spawned : Option Nat}
    {route : Route}
    (before : ServicesNumbered inner)
    (alone : inner.mAppList = [app])
    (isHosted : app < inner.manager.nextApp)
    (isResult :
      inner.startServiceReal serviceName packageInfo intent request
        spawned = some (next, route)) :
    Traffic (inner.Asks serviceName packageInfo request) noService inner
        next ∨
      NewService inner next app := by
  cases startServiceReal_outcome isResult with
  | rejected =>
      exact .inl (.refl inner)
  | found isFound =>
      have isListed := (mem_of_findService isFound).1
      refine .inl ?_
      cases request with
      | start =>
          refine .onService (ServiceRecord.keepsKey_start intent) isListed
            ?_
          intro app call isCalled token
          have concerns :=
            ServiceRecord.start_concerns _ app intent call isCalled token
          exact
            ⟨fun engages =>
              ⟨_, isFound, (concerns.1 engages).symm, .inl rfl⟩,
              concerns.2⟩
      | bind conn =>
          refine .onService (ServiceRecord.keepsKey_bind conn intent)
            isListed ?_
          intro app call isCalled token
          have concerns :=
            ServiceRecord.bind_concerns _ app conn intent call isCalled
              token
          refine ⟨fun engages => ?_, concerns.2⟩
          obtain ⟨isToken, noBinder⟩ := concerns.1 engages
          exact ⟨_, isFound, isToken.symm, .inr noBinder⟩
  | created notFound isAlive isApp isRaised =>
      have isListed := List.mem_of_find?_eq_some isAlive
      rw [alone, List.mem_singleton] at isListed
      subst isListed
      exact
        .inr (createService_newService before isApp isHosted _ _ _ _ _)
  | queued isDeclared notFound noneAlive submitted =>
      refine .inl ?_
      cases submitted with
      | behind isWaiting =>
          exact
            { keys := fun _ => by rw [enqueue_mServices]
              nextToken := enqueue_nextToken _ _
              mAppList := enqueue_mAppList _ _
              statuses := .of_eq (by rw [enqueue_manager])
              nextApp := by rw [enqueue_manager]
              calls := .none (enqueue_calls _ _) }
      | first noneWaits isSpawned =>
          exact
            { keys := fun _ => by rw [enqueue_mServices]; rfl
              nextToken := enqueue_nextToken _ _
              mAppList := enqueue_mAppList _ _
              statuses := .of_eq (by rw [enqueue_manager]; rfl)
              nextApp := by rw [enqueue_manager]; rfl
              calls := .none (enqueue_calls _ _) }

/-- `setServiceStatus` makes no calls. -/
theorem Traffic.setServiceStatus
    {middle : ActivityManagerInner}
    (traffic : Traffic engaged stopped inner middle)
    (token : Nat)
    (status : ServiceStatus) :
    Traffic engaged stopped inner
      (middle.setServiceStatus token status) := by
  have serviced := setServiceStatus_serviced middle token status
  exact
    { keys := by
        intro distinct
        have sameKeys := traffic.keys distinct
        refine (serviced.keys ?_).trans sameKeys
        rw [tokens_of_keys, sameKeys, ← tokens_of_keys]
        exact distinct
      nextToken := serviced.nextToken.trans traffic.nextToken
      mAppList := serviced.mAppList.trans traffic.mAppList
      statuses := traffic.statuses
      nextApp := traffic.nextApp
      calls := traffic.calls }

/-- A report that no service is destroyed by. -/
theorem reportServiceStatus_traffic
    {token : Nat}
    {status : ServiceStatus}
    (notDestroyed : status ≠ ServiceStatus.destroyed)
    (isNext : inner.reportServiceStatus token status = some next) :
    Traffic noService (· ∈ inner.tokens) inner next := by
  cases reportServiceStatus_outcome isNext with
  | ignored =>
      exact .refl inner
  | stored isFound =>
      exact Traffic.setServiceStatus (.refl inner) token status
  | unbinded isFound notAlive =>
      apply Traffic.setServiceStatus
      have isListed := (mem_of_getService isFound).1
      refine .onService ServiceRecord.keepsKey_stop isListed ?_
      intro app call isCalled other
      have concerns :=
        ServiceRecord.stop_concerns _ app call isCalled other
      refine ⟨concerns.1, fun isStopped => ?_⟩
      rw [concerns.2 isStopped]
      exact List.mem_map_of_mem isListed
  | destroyed isFound isDestroyed =>
      exact absurd isDestroyed notDestroyed

theorem publishService_traffic
    (inner : ActivityManagerInner)
    (token : Nat)
    (serviceBinder : Option Nat) :
    Traffic noService noService inner
      (inner.publishService token serviceBinder) := by
  refine
    .of_serviced (publishService_serviced inner token serviceBinder)
      (.none ?_)
  unfold publishService
  split <;> rfl

/-- A service is taken from the list, and nobody is called. -/
structure Removed
    (inner next : ActivityManagerInner)
    (token : Nat) : Prop where
  keys :
    (next.mServices.map ServiceRecord.key).Perm
      ((inner.mServices.map ServiceRecord.key).filter (·.1 != token))
  nextToken : next.nextToken = inner.nextToken
  mAppList : next.mAppList = inner.mAppList
  nextApp : next.manager.nextApp = inner.manager.nextApp
  calls : next.calls = inner.calls

/-- A report that a service was destroyed. -/
theorem reportServiceStatus_removed
    {token : Nat}
    (distinct : inner.tokens.Nodup)
    (isNext :
      inner.reportServiceStatus token ServiceStatus.destroyed =
        some next) :
    Removed inner next token := by
  unfold reportServiceStatus at isNext
  split at isNext
  · rename_i service isFound
    obtain ⟨_, _, isNext⟩ := Option.bind_eq_some_iff.mp isNext
    rw [if_neg (by decide), if_neg (by decide), if_pos rfl,
      Option.some.injEq] at isNext
    have deleted := deleteService_keys distinct token
    have quiet :=
      stopIfIdle_quiet
        { inner with mServices := deleteService inner.mServices token }
        service.mApp
    have serviced :=
      setServiceStatus_serviced
        ({ inner with
            mServices :=
              deleteService inner.mServices token }.stopIfIdle
          service.mApp)
        token ServiceStatus.destroyed
    rw [← isNext]
    exact
      { keys := by
          rw [serviced.keys ?_, quiet.mServices]
          · exact deleted
          · rw [quiet.mServices, tokens_of_keys,
              (deleted.map Prod.fst).nodup_iff]
            refine List.Nodup.sublist
              (List.filter_sublist.map Prod.fst) ?_
            rwa [← tokens_of_keys]
        nextToken := serviced.nextToken.trans quiet.nextToken
        mAppList := serviced.mAppList.trans quiet.mAppList
        nextApp :=
          (quiet.sameProcesses stoppingParts_areRoutine).nextApp
        calls := quiet.calls }
  · rename_i notFound
    rw [← Option.some.inj isNext]
    refine ⟨?_, rfl, rfl, rfl, rfl⟩
    rw [List.filter_eq_self.mpr]
    intro key isKey
    obtain ⟨service, isListed, isKey⟩ := List.mem_map.mp isKey
    have others := List.find?_eq_none.mp notFound service isListed
    subst isKey
    simpa [ServiceRecord.key] using others

end ActivityManagerInner

/-! ## Both sides -/

/-- The service, an application, and what is on its way between them. -/
structure ServiceSystem where
  inner : ActivityManagerInner
  mApp : Application
  commands : List ServiceCall
  reports : List ServiceReport

/-- What can happen to them. -/
inductive ServiceSystemAction where
  | request (action : InnerAction)
  /-- With what `onBind` of the service returns, if it is called. -/
  | deliverCommand (serviceBinder : Option Nat)
  | deliverReport

/-- The requests about services. -/
def InnerAction.isAboutServices : InnerAction → Bool
  | .startService .. => true
  | .bindService .. => true
  | .stopService .. => true
  | .stopServiceByToken .. => true
  | .unbindService .. => true
  | _ => false

/-- The report is a step of the server. -/
def ServiceReport.action : ServiceReport → InnerAction
  | .reportServiceStatus token status => .reportServiceStatus token status
  | .publishService token serviceBinder =>
      .publishService token serviceBinder

namespace ServiceSystem

/-- An application without services. -/
def start
    (inner : ActivityManagerInner)
    (mServiceMap : List String) : ServiceSystem where
  inner := inner
  mApp := { mServiceMap := mServiceMap, mExistServices := [] }
  commands := []
  reports := []

/-- The server has done something; its calls are on their way. -/
def withInner
    (system : ServiceSystem)
    (next : ActivityManagerInner) : ServiceSystem :=
  { system with
    inner := next
    commands :=
      system.commands ++
        (next.calls.drop system.inner.calls.length).filter
          ServiceCall.isCommand }

/-- Perform one step. -/
def step?
    (app : Nat)
    (system : ServiceSystem) :
    ServiceSystemAction → Option ServiceSystem
  | .request action =>
      if action.isAboutServices then
        (system.inner.step? action).map system.withInner
      else
        none
  | .deliverCommand serviceBinder =>
      match system.commands with
      | [] => none
      | call :: rest =>
          let (mApp, reports) := system.mApp.onCall serviceBinder call
          some
            { system with
              mApp := mApp
              commands := rest
              reports := system.reports ++ reports }
  | .deliverReport =>
      match system.reports with
      | [] => none
      | report :: rest => do
          let next ← system.inner.step? report.action
          if isRunning (next.manager.apps app) then
            some ({ system with reports := rest }.withInner next)
          else
            none

/-- A stop is on its way to the client, or the report of its end back. -/
def isStopping
    (system : ServiceSystem)
    (token : Nat) : Bool :=
  system.commands.any (ServiceCall.stops token) ||
    ServiceReport.anyEnds system.reports token

/-- The service that the request finds is not about to end. -/
def findsLasting
    (system : ServiceSystem)
    (serviceName : String)
    (packageInfo : PackageInfo)
    (isAsked : ServiceRecord → Bool) : Bool :=
  (findService system.inner.manager.apps system.inner.mServices
    packageInfo.servicePackageName serviceName).all fun service =>
      !(isAsked service && system.isStopping service.mToken)

/--
No request asks a client for a service that is about to end, and the client
has the services that it is asked for.
-/
def isLasting (system : ServiceSystem) : ServiceSystemAction → Bool
  | .request (.startService serviceName packageInfo _ _) =>
      system.findsLasting serviceName packageInfo fun _ => true
  | .request (.bindService serviceName packageInfo _ _ _) =>
      system.findsLasting serviceName packageInfo fun service =>
        service.mServiceBinder.isNone
  | .deliverCommand _ =>
      system.commands.head?.all system.mApp.serves
  | _ => true

/-- The condition, for the steps of a run. -/
def Lasting
    (system : ServiceSystem)
    (action : ServiceSystemAction) : Prop :=
  system.isLasting action = true

instance decidableLasting
    (system : ServiceSystem)
    (action : ServiceSystemAction) :
    Decidable (system.Lasting action) :=
  inferInstanceAs (Decidable (_ = true))

/-- A call on its way brings the service to life if need be. -/
def isEngaged
    (system : ServiceSystem)
    (token : Nat) : Bool :=
  system.commands.any (ServiceCall.engages token)

/--
What holds of the two sides and the queues.  A service that the server lists,
and of whose end no report is on its way, is one that is alive or about to be.
-/
structure Agreement
    (app : Nat)
    (system : ServiceSystem) : Prop where
  numbered : system.inner.ServicesNumbered
  alone : system.inner.mAppList = [app]
  isHosted : app < system.inner.manager.nextApp
  hosts : ∀ service ∈ system.inner.mServices, service.mApp = app
  distinct : system.mApp.tokens.Nodup
  agrees :
    ∀ token,
      token ∈ system.inner.tokens ∧
          ServiceReport.anyEnds system.reports token = false ↔
        token ∈ system.mApp.tokens ∨ system.isEngaged token = true
  ordered :
    system.commands.Pairwise fun former latter =>
      ∀ token, former.stops token = true → latter.engages token = false
  used :
    ∀ token, system.isStopping token = true →
      token < system.inner.nextToken

variable
  {app : Nat}
  {system final : ServiceSystem}
  {next : ActivityManagerInner}
  {engaged stopped : Nat → Prop}

/-- Nothing is on its way. -/
theorem Agreement.quiescent
    (agreement : Agreement app system)
    (noCommand : system.commands = [])
    (noReport : system.reports = [])
    (token : Nat) :
    token ∈ system.mApp.tokens ↔
      ∃ service ∈ system.inner.mServices,
        service.mApp = app ∧ service.mToken = token := by
  have agrees := agreement.agrees token
  rw [isEngaged, noCommand, noReport] at agrees
  have listed :
      token ∈ system.inner.tokens ↔
        ∃ service ∈ system.inner.mServices,
          service.mApp = app ∧ service.mToken = token := by
    rw [ActivityManagerInner.tokens, List.mem_map]
    constructor
    · rintro ⟨service, isListed, isToken⟩
      exact
        ⟨service, isListed, agreement.hosts service isListed, isToken⟩
    · rintro ⟨service, isListed, _, isToken⟩
      exact ⟨service, isListed, isToken⟩
  rw [← listed]
  constructor
  · intro isAlive
    exact (agrees.mpr (.inl isAlive)).1
  · intro isListed
    exact (agrees.mp ⟨isListed, rfl⟩).resolve_right Bool.false_ne_true

/-- The commands that come with the calls of a step. -/
theorem withInner_commands
    {called : List ServiceCall}
    (isCalled : next.calls = system.inner.calls ++ called) :
    (system.withInner next).commands =
      system.commands ++ called.filter ServiceCall.isCommand := by
  rw [withInner, isCalled, List.drop_left]

@[simp] theorem withInner_inner
    (system : ServiceSystem)
    (next : ActivityManagerInner) :
    (system.withInner next).inner = next :=
  rfl

@[simp] theorem withInner_mApp
    (system : ServiceSystem)
    (next : ActivityManagerInner) :
    (system.withInner next).mApp = system.mApp :=
  rfl

@[simp] theorem withInner_reports
    (system : ServiceSystem)
    (next : ActivityManagerInner) :
    (system.withInner next).reports = system.reports :=
  rfl

/-- Nothing does both. -/
theorem not_stops_of_engages
    {call : ServiceCall}
    {token : Nat}
    (engages : call.engages token = true)
    (other : Nat) :
    call.stops other = false := by
  cases call <;> first | rfl | cases engages

/-- The keys of the services have everything that the sides agree on. -/
theorem hosts_of_keys
    {services : List ServiceRecord} :
    (∀ service ∈ services, service.mApp = app) ↔
      ∀ key ∈ services.map ServiceRecord.key, key.2.2 = app := by
  simp [ServiceRecord.key]

/--
The server makes calls about services that it lists, and asks for none that is
about to end.
-/
theorem Agreement.traffic
    (before : Agreement app system)
    (traffic :
      ActivityManagerInner.Traffic engaged stopped system.inner next)
    (asksLasting :
      ∀ token,
        engaged token →
        token ∈ system.inner.tokens ∧ system.isStopping token = false)
    (stopsListed :
      ∀ token, stopped token → token ∈ system.inner.tokens)
    (exclusive : (∀ token, ¬ engaged token) ∨ ∀ token, ¬ stopped token) :
    Agreement app (system.withInner next) := by
  obtain ⟨called, isCalled, concerns⟩ := traffic.calls
  have sent := withInner_commands isCalled
  have sameKeys := traffic.keys before.numbered.distinct
  have sameTokens : next.tokens = system.inner.tokens := by
    rw [ActivityManagerInner.tokens, ActivityManagerInner.tokens_of_keys,
      sameKeys, ← ActivityManagerInner.tokens_of_keys]
    rfl
  have engages :
      ∀ call ∈ called.filter ServiceCall.isCommand, ∀ token,
        call.engages token = true → engaged token :=
    fun call isSent token =>
      (concerns call (List.mem_filter.mp isSent).1 token).1
  have stops :
      ∀ call ∈ called.filter ServiceCall.isCommand, ∀ token,
        call.stops token = true → stopped token :=
    fun call isSent token =>
      (concerns call (List.mem_filter.mp isSent).1 token).2
  have fewer : system.inner.FewerServices next :=
    { keys := by rw [sameKeys]
      nextToken := traffic.nextToken
      nextApp := traffic.nextApp.ge }
  generalize called.filter ServiceCall.isCommand = commands at *
  constructor
  · exact fewer.numbered before.numbered
  · exact traffic.mAppList.trans before.alone
  · exact traffic.nextApp.symm ▸ before.isHosted
  · exact hosts_of_keys.mpr (sameKeys ▸ hosts_of_keys.mp before.hosts)
  · exact before.distinct
  · intro token
    have agrees := before.agrees token
    rw [isEngaged, sent, List.any_append, Bool.or_eq_true, ← or_assoc]
    rw [isEngaged] at agrees
    refine ⟨fun isLive => .inl (agrees.mp (sameTokens ▸ isLive)), ?_⟩
    rintro (isKnown | isNew)
    · exact sameTokens.symm ▸ agrees.mpr isKnown
    · obtain ⟨call, isSent, isAsked⟩ := List.any_eq_true.mp isNew
      obtain ⟨isListed, isLasting⟩ :=
        asksLasting token (engages call isSent token isAsked)
      refine ⟨sameTokens.symm ▸ isListed, ?_⟩
      exact (Bool.or_eq_false_iff.mp isLasting).2
  · rw [sent, List.pairwise_append]
    refine ⟨before.ordered, ?_, ?_⟩
    · refine List.pairwise_of_forall_mem_list ?_
      intro former isFormer latter isLatter token isStopped
      rcases exclusive with neverAsks | neverStops
      · refine Bool.eq_false_iff.mpr fun isAsked => ?_
        exact neverAsks token (engages latter isLatter token isAsked)
      · exact absurd (stops former isFormer token isStopped)
          (neverStops token)
    · intro former isFormer latter isLatter token isStopped
      refine Bool.eq_false_iff.mpr fun isAsked => ?_
      have isLasting :=
        (asksLasting token (engages latter isLatter token isAsked)).2
      have noStop := (Bool.or_eq_false_iff.mp isLasting).1
      exact absurd isStopped (List.any_eq_false.mp noStop former isFormer)
  · intro token isStopping
    rw [ServiceSystem.isStopping, sent, List.any_append, Bool.or_assoc,
      Bool.or_eq_true, Bool.or_eq_true] at isStopping
    rw [withInner_inner,
      traffic.nextToken]
    rcases isStopping with wasStopping | isNew | hasEnded
    · refine before.used token ?_
      rw [ServiceSystem.isStopping, wasStopping, Bool.true_or]
    · obtain ⟨call, isSent, isStopped⟩ := List.any_eq_true.mp isNew
      have isListed := stopsListed token (stops call isSent token isStopped)
      obtain ⟨service, isService, isToken⟩ := List.mem_map.mp isListed
      rw [← isToken]
      exact before.numbered.used service isService
    · refine before.used token ?_
      rw [ServiceSystem.isStopping, Bool.or_eq_true]
      exact .inr hasEnded

/-- The server creates a service, and asks for it. -/
theorem Agreement.newService
    (before : Agreement app system)
    (created :
      ActivityManagerInner.NewService system.inner next app) :
    Agreement app (system.withInner next) := by
  obtain ⟨call, isCalled, isCommand, concerns⟩ := created.calls
  obtain ⟨serviceName, keys⟩ := created.keys
  have sent := withInner_commands isCalled
  rw [List.filter_singleton, isCommand, cond_true] at sent
  have isAdded :
      next.tokens = system.inner.tokens ++ [system.inner.nextToken] := by
    rw [ActivityManagerInner.tokens, ActivityManagerInner.tokens_of_keys,
      keys, List.map_append, ← ActivityManagerInner.tokens_of_keys]
    rfl
  have notStopping :
      system.isStopping system.inner.nextToken = false :=
    Bool.eq_false_iff.mpr fun isStopping =>
      Nat.lt_irrefl _ (before.used _ isStopping)
  obtain ⟨noStop, noEnd⟩ := Bool.or_eq_false_iff.mp notStopping
  constructor
  · exact created.numbered
  · exact created.mAppList.trans before.alone
  · exact created.nextApp.symm ▸ before.isHosted
  · refine hosts_of_keys.mpr ?_
    rw [withInner_inner, keys]
    intro key isKey
    rcases List.mem_append.mp isKey with wasKey | isNew
    · exact hosts_of_keys.mp before.hosts key wasKey
    · rw [List.mem_singleton.mp isNew]
  · exact before.distinct
  · intro token
    have agrees := before.agrees token
    rw [isEngaged, sent, List.any_append, Bool.or_eq_true, ← or_assoc]
    rw [isEngaged] at agrees
    have isAsked :
        [call].any (ServiceCall.engages token) = true ↔
          token = system.inner.nextToken := by
      rw [List.any_cons, List.any_nil, Bool.or_false, (concerns token).1,
        decide_eq_true_iff, eq_comm]
    rw [isAsked, withInner_mApp, ← agrees, withInner_inner,
      withInner_reports, isAdded, List.mem_append, List.mem_singleton]
    constructor
    · rintro ⟨wasListed | isNew, notEnded⟩
      · exact .inl ⟨wasListed, notEnded⟩
      · exact .inr isNew
    · rintro (⟨wasListed, notEnded⟩ | isNew)
      · exact ⟨.inl wasListed, notEnded⟩
      · rw [isNew]
        exact ⟨.inr rfl, noEnd⟩
  · rw [sent, List.pairwise_append]
    refine ⟨before.ordered, List.pairwise_singleton _ _, ?_⟩
    intro former isFormer latter isLatter token isStopped
    rw [List.mem_singleton] at isLatter
    subst isLatter
    rw [(concerns token).1, decide_eq_false_iff_not]
    intro isNew
    rw [isNew] at noStop
    exact absurd isStopped (List.any_eq_false.mp noStop former isFormer)
  · intro token isStopping
    rw [ServiceSystem.isStopping, sent, List.any_append, List.any_cons,
      List.any_nil, (concerns token).2, Bool.or_false,
      Bool.or_false] at isStopping
    rw [withInner_inner,
      created.nextToken]
    exact Nat.lt_succ_of_lt (before.used token isStopping)

/-- A report that ends no service is on its way no longer. -/
theorem Agreement.dropReport
    {report : ServiceReport}
    {rest : List ServiceReport}
    (before : Agreement app system)
    (isReports : system.reports = report :: rest)
    (neverEnds : ∀ token, report.ends token = false) :
    Agreement app { system with reports := rest } := by
  have sameEnds :
      ∀ token,
        ServiceReport.anyEnds rest token =
          ServiceReport.anyEnds system.reports token := by
    intro token
    rw [isReports, ServiceReport.anyEnds, ServiceReport.anyEnds,
      List.any_cons, neverEnds, Bool.false_or]
  exact
    { numbered := before.numbered
      alone := before.alone
      isHosted := before.isHosted
      hosts := before.hosts
      distinct := before.distinct
      agrees := by
        intro token
        dsimp only
        rw [sameEnds]
        exact before.agrees token
      ordered := before.ordered
      used := by
        intro token isStopping
        refine before.used token ?_
        rw [isStopping.symm, ServiceSystem.isStopping,
          ServiceSystem.isStopping, sameEnds] }

/-- The server learns that a service was destroyed. -/
theorem Agreement.removed
    {token : Nat}
    {rest : List ServiceReport}
    (before : Agreement app system)
    (isReports :
      system.reports =
        .reportServiceStatus token ServiceStatus.destroyed :: rest)
    (removed :
      ActivityManagerInner.Removed system.inner next token) :
    Agreement app ({ system with reports := rest }.withInner next) := by
  have fewer : system.inner.FewerServices next :=
    { keys := removed.keys.subperm.trans List.filter_sublist.subperm
      nextToken := removed.nextToken
      nextApp := removed.nextApp.ge }
  have sent :
      ({ system with reports := rest }.withInner next).commands =
        system.commands := by
    have isCalled : next.calls = system.inner.calls ++ [] := by
      rw [removed.calls, List.append_nil]
    exact (withInner_commands isCalled).trans (List.append_nil _)
  have ends :
      ∀ other,
        ServiceReport.anyEnds system.reports other =
          (decide (token = other) ||
            ServiceReport.anyEnds rest other) := by
    intro other
    rw [isReports, ServiceReport.anyEnds, List.any_cons]
    simp [ServiceReport.ends, ServiceReport.anyEnds]
  have isLeft :
      ∀ other,
        other ∈ next.tokens ↔
          other ∈ system.inner.tokens ∧ token ≠ other := by
    intro other
    rw [ActivityManagerInner.tokens, ActivityManagerInner.tokens,
      ActivityManagerInner.tokens_of_keys,
      ActivityManagerInner.tokens_of_keys,
      (removed.keys.map Prod.fst).mem_iff]
    constructor
    · intro isLeft
      obtain ⟨key, isKey, isOther⟩ := List.mem_map.mp isLeft
      obtain ⟨wasKey, notToken⟩ := List.mem_filter.mp isKey
      subst isOther
      exact
        ⟨List.mem_map_of_mem wasKey, (bne_iff_ne.mp notToken).symm⟩
    · rintro ⟨wasListed, notToken⟩
      obtain ⟨key, wasKey, isOther⟩ := List.mem_map.mp wasListed
      subst isOther
      refine List.mem_map_of_mem (List.mem_filter.mpr ⟨wasKey, ?_⟩)
      exact bne_iff_ne.mpr notToken.symm
  constructor
  · exact fewer.numbered before.numbered
  · exact removed.mAppList.trans before.alone
  · exact removed.nextApp.symm ▸ before.isHosted
  · refine hosts_of_keys.mpr fun key isKey => ?_
    exact
      hosts_of_keys.mp before.hosts key
        (List.mem_filter.mp (removed.keys.subset isKey)).1
  · exact before.distinct
  · intro other
    have agrees := before.agrees other
    rw [isEngaged, sent]
    rw [isEngaged, ends, Bool.or_eq_false_iff,
      decide_eq_false_iff_not] at agrees
    refine Iff.trans ?_ agrees
    rw [withInner_inner, isLeft]
    exact and_assoc
  · rw [sent]
    exact before.ordered
  · intro other isStopping
    rw [ServiceSystem.isStopping, sent] at isStopping
    rw [withInner_inner, removed.nextToken]
    refine before.used other ?_
    rw [ServiceSystem.isStopping, ends]
    rcases Bool.or_eq_true_iff.mp isStopping with isStopped | hasEnded
    · rw [isStopped, Bool.true_or]
    · exact Bool.or_eq_true_iff.mpr
        (.inr (Bool.or_eq_true_iff.mpr (.inr hasEnded)))

/-- The client does what a call says. -/
theorem Agreement.command
    {call : ServiceCall}
    {rest : List ServiceCall}
    {mApp : Application}
    {reports : List ServiceReport}
    (before : Agreement app system)
    (isCommands : system.commands = call :: rest)
    (obeys : Application.Obeys system.mApp mApp reports call) :
    Agreement app
      { system with
        mApp := mApp
        commands := rest
        reports := system.reports ++ reports } := by
  have ordered := before.ordered
  rw [isCommands, List.pairwise_cons] at ordered
  have engagedBefore :
      ∀ token,
        system.isEngaged token =
          (call.engages token || rest.any (ServiceCall.engages token)) := by
    intro token
    rw [isEngaged, isCommands, List.any_cons]
  have endsAfter :
      ∀ token,
        ServiceReport.anyEnds (system.reports ++ reports) token =
          (ServiceReport.anyEnds system.reports token ||
            ServiceReport.anyEnds reports token) :=
    fun token => List.any_append
  constructor
  · exact before.numbered
  · exact before.alone
  · exact before.isHosted
  · exact before.hosts
  · exact obeys.distinct before.distinct
  · intro token
    have agrees := before.agrees token
    have alive := obeys.alive before.distinct token
    have ended := obeys.ended token
    have laterEngages := ordered.1
    rw [engagedBefore] at agrees
    dsimp only [isEngaged]
    rw [endsAfter, alive]
    cases isStopped : call.stops token with
    | true =>
        have notAsked : rest.any (ServiceCall.engages token) = false :=
          List.any_eq_false.mpr fun latter isLatter =>
            Bool.eq_false_iff.mp
              (laterEngages latter isLatter token isStopped)
        have notEngages : call.engages token = false :=
          Bool.eq_false_iff.mpr fun engages =>
            absurd (not_stops_of_engages engages token)
              (Bool.eq_false_iff.not.mpr (not_not.mpr isStopped))
        rw [notEngages, notAsked, Bool.false_or,
          or_iff_left Bool.false_ne_true] at agrees
        rw [isStopped, eq_self_iff_true, true_and] at ended
        rw [notAsked, Bool.or_eq_false_iff, ← and_assoc, agrees, ← ended]
        simp
    | false =>
        rw [isStopped] at ended
        have notEnded : ServiceReport.anyEnds reports token = false :=
          Bool.eq_false_iff.mpr fun hasEnded =>
            Bool.false_ne_true (ended.mp hasEnded).1
        rw [notEnded, Bool.or_false, agrees, Bool.or_eq_true]
        simp only [and_true, or_assoc]
  · exact ordered.2
  · intro token isStopping
    rw [ServiceSystem.isStopping, endsAfter] at isStopping
    rcases Bool.or_eq_true_iff.mp isStopping with isStopped | hasEnded
    · refine before.used token ?_
      rw [ServiceSystem.isStopping, isCommands, List.any_cons, isStopped,
        Bool.or_true, Bool.true_or]
    · rcases Bool.or_eq_true_iff.mp hasEnded with hadEnded | isNew
      · refine before.used token ?_
        rw [ServiceSystem.isStopping, hadEnded, Bool.or_true]
      · have wasAlive := ((obeys.ended token).mp isNew).2
        have isListed := ((before.agrees token).mpr (.inl wasAlive)).1
        obtain ⟨service, isService, isToken⟩ := List.mem_map.mp isListed
        rw [← isToken]
        exact before.numbered.used service isService

/-- What a request finds is not about to end. -/
theorem lasts_of_findsLasting
    {serviceName : String}
    {packageInfo : PackageInfo}
    {isAsked : ServiceRecord → Bool}
    {request : ServiceRequest}
    (lasting :
      system.findsLasting serviceName packageInfo isAsked = true)
    (asks :
      ∀ service : ServiceRecord,
        request = .start ∨ service.mServiceBinder = none →
        isAsked service = true)
    (token : Nat)
    (isEngaged :
      system.inner.Asks serviceName packageInfo request token) :
    token ∈ system.inner.tokens ∧ system.isStopping token = false := by
  obtain ⟨service, isFound, isToken, isNeeded⟩ := isEngaged
  have isListed := (mem_of_findService isFound).1
  refine ⟨isToken ▸ List.mem_map_of_mem isListed, ?_⟩
  rw [findsLasting, isFound, Option.all_some, asks service isNeeded,
    Bool.true_and, isToken, Bool.not_eq_true'] at lasting
  exact lasting

/-- A request for a service that lasts. -/
theorem Agreement.startServiceReal
    {serviceName : String}
    {packageInfo : PackageInfo}
    {intent : Intent}
    {request : ServiceRequest}
    {spawned : Option Nat}
    {route : Route}
    {isAsked : ServiceRecord → Bool}
    (before : Agreement app system)
    (lasting :
      system.findsLasting serviceName packageInfo isAsked = true)
    (asks :
      ∀ service : ServiceRecord,
        request = .start ∨ service.mServiceBinder = none →
        isAsked service = true)
    (isResult :
      system.inner.startServiceReal serviceName packageInfo intent request
        spawned = some (next, route)) :
    Agreement app (system.withInner next) := by
  rcases ActivityManagerInner.startServiceReal_traffic before.numbered
      before.alone before.isHosted isResult with traffic | created
  · exact
      before.traffic traffic (lasts_of_findsLasting lasting asks)
        (fun _ => False.elim) (.inr fun _ => id)
  · exact before.newService created

/-- A request to stop a service asks for none. -/
theorem Agreement.stops
    (before : Agreement app system)
    (traffic :
      ActivityManagerInner.Traffic noService
        (· ∈ system.inner.tokens) system.inner next) :
    Agreement app (system.withInner next) :=
  before.traffic traffic (fun _ => False.elim) (fun _ => id)
    (.inl fun _ => id)

/-- Requests. -/
theorem Agreement.request
    {action : InnerAction}
    (before : Agreement app system)
    (lasting : system.isLasting (.request action) = true)
    (isNext : system.step? app (.request action) = some final) :
    Agreement app final := by
  rw [step?] at isNext
  split at isNext
  · rename_i isAbout
    obtain ⟨next, isServed, isFinal⟩ := Option.map_eq_some_iff.mp isNext
    subst isFinal
    cases action with
    | startService serviceName packageInfo intent spawned =>
        obtain ⟨⟨after, route⟩, isResult, isAfter⟩ :=
          Option.map_eq_some_iff.mp isServed
        subst isAfter
        exact before.startServiceReal lasting (fun _ _ => rfl) isResult
    | bindService serviceName packageInfo intent conn spawned =>
        obtain ⟨⟨after, route⟩, isResult, isAfter⟩ :=
          Option.map_eq_some_iff.mp isServed
        subst isAfter
        refine before.startServiceReal lasting ?_ isResult
        rintro service (isStart | noBinder)
        · cases isStart
        · rw [noBinder]
          rfl
    | stopService packageInfo serviceName =>
        rw [← Option.some.inj isServed]
        apply before.stops
        rcases ActivityManagerInner.stopService_cases _ packageInfo
            serviceName with
          isSame | ⟨service, isListed, isStopped⟩
        · rw [isSame]
          exact .refl _
        · rw [isStopped]
          exact .stopServiceReal isListed
    | stopServiceByToken token =>
        obtain ⟨⟨after, isStopped⟩, isResult, isAfter⟩ :=
          Option.map_eq_some_iff.mp isServed
        subst isAfter
        apply before.stops
        rcases ActivityManagerInner.stopServiceByToken_cases isResult with
          isSame | ⟨service, isListed, isNext⟩
        · rw [isSame]
          exact .refl _
        · rw [isNext]
          exact .stopServiceReal isListed
    | unbindService conn =>
        rw [← Option.some.inj isServed]
        exact
          before.traffic (.unbindAll conn _ _) (fun _ => False.elim)
            (fun _ => False.elim) (.inl fun _ => id)
    | _ =>
        cases isAbout
  · cases isNext

/-- Calls that arrive. -/
theorem Agreement.deliverCommand
    {serviceBinder : Option Nat}
    (before : Agreement app system)
    (lasting : system.isLasting (.deliverCommand serviceBinder) = true)
    (isNext :
      system.step? app (.deliverCommand serviceBinder) = some final) :
    Agreement app final := by
  rw [step?] at isNext
  split at isNext
  · cases isNext
  · rename_i call rest isCommands
    have isServed : system.mApp.serves call = true := by
      rw [isLasting, isCommands, List.head?_cons, Option.all_some]
        at lasting
      exact lasting
    rw [← Option.some.inj isNext]
    exact
      before.command isCommands
        (Application.onCall_obeys isServed serviceBinder)

/-- Reports that arrive. -/
theorem Agreement.deliverReport
    (before : Agreement app system)
    (isNext : system.step? app .deliverReport = some final) :
    Agreement app final := by
  rw [step?] at isNext
  split at isNext
  · cases isNext
  · rename_i report rest isReports
    obtain ⟨next, isServed, isNext⟩ := Option.bind_eq_some_iff.mp isNext
    split at isNext
    · rw [← Option.some.inj isNext]
      cases report with
      | reportServiceStatus token status =>
          by_cases isDestroyed : status = ServiceStatus.destroyed
          · subst isDestroyed
            exact
              before.removed isReports
                (ActivityManagerInner.reportServiceStatus_removed
                  before.numbered.distinct isServed)
          · have neverEnds :
                ∀ other,
                  (ServiceReport.reportServiceStatus token status).ends
                    other = false := by
              intro other
              rw [ServiceReport.ends, decide_eq_false isDestroyed,
                Bool.and_false]
            exact
              (before.dropReport isReports neverEnds).stops
                (ActivityManagerInner.reportServiceStatus_traffic
                  isDestroyed isServed)
      | publishService token serviceBinder =>
          rw [← Option.some.inj isServed]
          exact
            (before.dropReport isReports fun _ => rfl).traffic
              (ActivityManagerInner.publishService_traffic _ _ _)
              (fun _ => False.elim) (fun _ => False.elim)
              (.inl fun _ => id)
    · cases isNext

/-! ## Every run -/

/-- The application is the only one, and has no services. -/
structure HostsAlone
    (inner : ActivityManagerInner)
    (app : Nat) : Prop where
  alone : inner.mAppList = [app]
  isHosted : app < inner.manager.nextApp
  noService : inner.mServices = []

theorem HostsAlone.agreement
    {inner : ActivityManagerInner}
    (hosts : HostsAlone inner app)
    (mServiceMap : List String) :
    Agreement app (start inner mServiceMap) where
  numbered :=
    { distinct := by
        rw [start, hosts.noService]
        exact List.nodup_nil
      used := by
        rw [start, hosts.noService]
        exact nofun
      hosted := by
        rw [start, hosts.noService]
        exact nofun }
  alone := hosts.alone
  isHosted := hosts.isHosted
  hosts := by
    rw [start, hosts.noService]
    exact nofun
  distinct := List.nodup_nil
  agrees token := by
    rw [start, ActivityManagerInner.tokens, hosts.noService]
    exact
      iff_of_false (fun ⟨isListed, _⟩ => List.not_mem_nil isListed)
        (Or.rec List.not_mem_nil Bool.false_ne_true)
  ordered := List.Pairwise.nil
  used _ isStopping := absurd isStopping Bool.false_ne_true

/--
In every run in which no request asks the client for a service that is about
to end, and the client can create the services that it is asked for: whenever
nothing is on its way, the services alive in the client are those that the
server lists for the application.
-/
theorem sameServices_of_reachable
    (inner : ActivityManagerInner)
    (app : Nat)
    (mServiceMap : List String)
    (hosts : HostsAlone inner app)
    (system : ServiceSystem)
    (reachable :
      Reachable (step? app) Lasting (start inner mServiceMap) system)
    (noCommand : system.commands = [])
    (noReport : system.reports = [])
    (token : Nat) :
    token ∈ system.mApp.tokens ↔
      ∃ service ∈ system.inner.mServices,
        service.mApp = app ∧ service.mToken = token := by
  have agreement : Agreement app system := by
    refine reachable.invariant (hosts.agreement mServiceMap) ?_
    intro middle action after before lasting isNext
    cases action with
    | request action =>
        exact before.request lasting isNext
    | deliverCommand serviceBinder =>
        exact before.deliverCommand lasting isNext
    | deliverReport =>
        exact before.deliverReport isNext
  exact agreement.quiescent noCommand noReport token

/-- An application that has attached with an activity. -/
def hosting : Option ActivityManagerInner :=
  run? ActivityManagerInner.step? (.start [] 0 0)
    [.startActivity "main" ActivityManagerInner.musicPackage
      ActivityManagerInner.plainIntent none true (some 11),
      .attachApplication 11 false]

/-- It hosts services from then on. -/
theorem hosting_hostsAlone : HostsAlone (hosting.get rfl) 0 where
  alone := by decide
  isHosted := by decide
  noService := by decide

/-- A request for the service of the package. -/
def startPlayer : ServiceSystemAction :=
  .request
    (.startService "player" ActivityManagerInner.musicPackage
      ActivityManagerInner.plainIntent none)

/-- A service is started and stopped, and then started again. -/
def renewedService : Option ServiceSystem :=
  run? (step? 0) (start (hosting.get rfl) ["player"])
    [startPlayer, .deliverCommand none, .deliverReport, .deliverReport,
      .request (.stopService ActivityManagerInner.musicPackage "player"),
      .deliverCommand none, .deliverReport, startPlayer,
      .deliverCommand none, .deliverReport, .deliverReport]

/-- Both sides have the new one after that. -/
theorem renewedService_sameServices :
    (1 ∈ (renewedService.get rfl).mApp.tokens ↔
      ∃ service ∈ (renewedService.get rfl).inner.mServices,
        service.mApp = 0 ∧ service.mToken = 1) ∧
      1 ∈ (renewedService.get rfl).mApp.tokens := by
  have accepted : renewedService = some (renewedService.get rfl) :=
    (Option.some_get _).symm
  have same :=
    sameServices_of_reachable (hosting.get rfl) 0 ["player"]
      hosting_hostsAlone _ (Reachable.of_run? (by decide) accepted)
      (by decide) (by decide) 1
  exact ⟨same, by decide⟩

/-- A service is started again before its end is known. -/
def restartedService : Option ServiceSystem :=
  run? (step? 0) (start (hosting.get rfl) ["player"])
    [startPlayer, .deliverCommand none, .deliverReport, .deliverReport,
      .request (.stopService ActivityManagerInner.musicPackage "player"),
      startPlayer, .deliverCommand none, .deliverCommand none,
      .deliverReport, .deliverReport, .deliverReport]

/-- Nothing is on its way, and only the client has the service. -/
theorem restartedService_not_sameServices :
    Reachable (step? 0) (fun _ _ => True)
        (start (hosting.get rfl) ["player"]) (restartedService.get rfl) ∧
      (restartedService.get rfl).commands = [] ∧
      (restartedService.get rfl).reports = [] ∧
      ¬ (0 ∈ (restartedService.get rfl).mApp.tokens ↔
        ∃ service ∈ (restartedService.get rfl).inner.mServices,
          service.mApp = 0 ∧ service.mToken = 0) := by
  have accepted : restartedService = some (restartedService.get rfl) :=
    (Option.some_get _).symm
  refine
    ⟨Reachable.of_run?
        (StepSystem.allowedRun_of_forall (fun _ _ => trivial) _ _)
        accepted,
      by decide, by decide, ?_⟩
  decide

end ServiceSystem

end ActivityManager
