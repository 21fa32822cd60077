import ActivityManager.UniqueProcess

/-!
# Connections that are unbound

`unbindService` goes through all services of the list, and each decides by its
own flag and its own connections what to do.  A service that is bound tells the
connection that it is gone, whether it has that connection or not.
-/

namespace ActivityManager

open StepSystem (run?)

/-- The call tells the connection that a service is gone. -/
def ServiceCall.disconnects (conn : Nat) : ServiceCall → Bool
  | .onServiceDisconnected other _ => other = conn
  | _ => false

/-- The call goes to a connection, and not to an application. -/
def ServiceCall.isToConnection : ServiceCall → Bool
  | .onServiceConnected _ _ => true
  | .onServiceDisconnected _ _ => true
  | _ => false

/--
What a service may do when a connection is unbound: it tells that connection
if it has it, and nobody else; the others stay.
-/
structure TouchesOwn
    (conn : Nat)
    (service : ServiceRecord)
    (effect : ServiceEffect) : Prop where
  notified :
    effect.calls.filter (·.disconnects conn) =
      if conn ∈ service.mConnectRecord then
        [.onServiceDisconnected conn service.mServiceBinder]
      else
        []
  unchanged :
    conn ∉ service.mConnectRecord →
    effect.service = service ∧
      ∀ call ∈ effect.calls, call.isToConnection = true
  others :
    (effect.service.mConnectRecord.filter (· != conn)).Perm
      (service.mConnectRecord.filter (· != conn))
  noOther :
    ∀ call ∈ effect.calls,
      call.isToConnection = true →
      call.disconnects conn = true

/-- Deleting a connection leaves the others. -/
theorem swapRemove_others
    (conn : Nat)
    (connections : List Nat) :
    ((swapRemove (· == conn) connections).filter (· != conn)).Perm
      (connections.filter (· != conn)) := by
  refine ((swapRemove_perm (· == conn) connections).filter _).trans ?_
  refine .of_eq ?_
  induction connections with
  | nil =>
      rfl
  | cons first rest inductionHypothesis =>
      by_cases isConn : first = conn
      · simp [isConn]
      · simp [isConn, inductionHypothesis]

namespace ServiceRecord

variable (conn : Nat) (service : ServiceRecord) (app : Option AppRecord)

/-- A service that is not bound does nothing. -/
theorem unbind_of_not_binded
    (notBinded : service.mStartFlag.binded = false) :
    service.unbind conn app =
      { service := service, app := app, calls := [] } := by
  rw [unbind, notBinded]
  rfl

/-- A service that is bound tells the connection, before anything else. -/
theorem unbind_of_binded
    (isBinded : service.mStartFlag.binded = true) :
    ∃ commands,
      (service.unbind conn app).calls =
          .onServiceDisconnected conn service.mServiceBinder ::
            commands ∧
        (∀ call ∈ commands, call.isToConnection = false) ∧
        (service.unbind conn app).service.mConnectRecord =
          swapRemove (· == conn) service.mConnectRecord := by
  rw [unbind, isBinded, if_pos rfl]
  cases app with
  | none =>
      exact ⟨[], rfl, nofun, rfl⟩
  | some appRecord =>
      refine ⟨_, rfl, ?_, rfl⟩
      intro call isCalled
      split at isCalled
      · rw [List.mem_singleton] at isCalled
        rw [isCalled]
        rfl
      · exact absurd isCalled List.not_mem_nil

/-- A call that goes to no connection disconnects none. -/
private theorem not_disconnects
    {call : ServiceCall}
    (isCommand : call.isToConnection = false) :
    call.disconnects conn = false := by
  cases call <;> first | rfl | cases isCommand

/-- The connection is told if and only if the service is bound. -/
theorem unbind_notified :
    (service.unbind conn app).calls.filter (·.disconnects conn) =
      if service.mStartFlag.binded then
        [.onServiceDisconnected conn service.mServiceBinder]
      else
        [] := by
  cases isBinded : service.mStartFlag.binded with
  | false =>
      rw [unbind_of_not_binded conn service app isBinded]
      rfl
  | true =>
      obtain ⟨commands, isCalled, areCommands, _⟩ :=
        unbind_of_binded conn service app isBinded
      have notDisconnecting :
          commands.filter (·.disconnects conn) = [] := by
        refine List.filter_eq_nil_iff.mpr fun call isCommand => ?_
        rw [not_disconnects conn (areCommands call isCommand)]
        exact Bool.false_ne_true
      rw [isCalled, List.filter_cons, notDisconnecting]
      simp [ServiceCall.disconnects]

/-- Each service does what it may if it is bound to those that it has. -/
theorem unbind_touchesOwn_iff :
    TouchesOwn conn service (service.unbind conn app) ↔
      (service.mStartFlag.binded = true ↔
        conn ∈ service.mConnectRecord) := by
  constructor
  · intro touches
    have notified := touches.notified
    rw [unbind_notified] at notified
    by_cases isBinded : service.mStartFlag.binded = true
    · by_cases isHeld : conn ∈ service.mConnectRecord
      · exact iff_of_true isBinded isHeld
      · rw [if_pos isBinded, if_neg isHeld] at notified
        cases notified
    · by_cases isHeld : conn ∈ service.mConnectRecord
      · rw [if_neg isBinded, if_pos isHeld] at notified
        cases notified
      · exact iff_of_false isBinded isHeld
  · intro agrees
    cases isBinded : service.mStartFlag.binded with
    | false =>
        have notHeld : conn ∉ service.mConnectRecord := fun isHeld =>
          Bool.false_ne_true (isBinded.symm.trans (agrees.mpr isHeld))
        rw [unbind_of_not_binded conn service app isBinded]
        exact
          { notified := (if_neg notHeld).symm
            unchanged := fun _ => ⟨rfl, nofun⟩
            others := .refl _
            noOther := nofun }
    | true =>
        have isHeld := agrees.mp isBinded
        obtain ⟨commands, isCalled, areCommands, left⟩ :=
          unbind_of_binded conn service app isBinded
        exact
          { notified := by
              rw [unbind_notified, if_pos isBinded, if_pos isHeld]
            unchanged := fun notHeld => absurd isHeld notHeld
            others := by
              rw [left]
              exact swapRemove_others conn service.mConnectRecord
            noOther := by
              rw [isCalled]
              intro call isCall isToConnection
              rcases List.mem_cons.mp isCall with isFirst | isCommand
              · rw [isFirst]
                exact decide_eq_true rfl
              · rw [areCommands call isCommand] at isToConnection
                exact absurd isToConnection Bool.false_ne_true }

/-- Of the application only the pid matters to the record and the calls. -/
theorem unbind_congr
    {first second : Option AppRecord}
    (samePid :
      first.map AppRecord.mPid = second.map AppRecord.mPid) :
    (service.unbind conn first).service =
        (service.unbind conn second).service ∧
      (service.unbind conn first).calls =
        (service.unbind conn second).calls := by
  unfold unbind
  split
  · cases first with
    | none =>
        cases second with
        | none =>
            exact ⟨rfl, rfl⟩
        | some record =>
            cases samePid
    | some record =>
        cases second with
        | none =>
            cases samePid
        | some other =>
            rw [Option.map_some, Option.map_some,
              Option.some.injEq] at samePid
            dsimp only
            rw [samePid]
            exact ⟨rfl, rfl⟩
  · exact ⟨rfl, rfl⟩

end ServiceRecord

namespace ActivityManagerInner

variable {inner : ActivityManagerInner}

/-- What a service of the list does when a connection is unbound. -/
def unbound
    (inner : ActivityManagerInner)
    (conn : Nat)
    (service : ServiceRecord) : ServiceEffect :=
  service.unbind conn (inner.manager.apps service.mApp)

/-- A service whose token no other has is found and changed. -/
theorem setService_append
    {former latter : List ServiceRecord}
    {service changed : ServiceRecord}
    (distinct :
      ((former ++ service :: latter).map ServiceRecord.mToken).Nodup)
    (sameToken : changed.mToken = service.mToken) :
    getService (former ++ service :: latter) service.mToken =
        some service ∧
      setService (former ++ service :: latter) changed =
        former ++ changed :: latter := by
  rw [List.map_append, List.map_cons, List.nodup_append,
    List.nodup_cons] at distinct
  obtain ⟨_, ⟨notLater, _⟩, apart⟩ := distinct
  have notFormer :
      ∀ other ∈ former, other.mToken ≠ service.mToken :=
    fun other isFormer =>
      apart _ (List.mem_map_of_mem isFormer) _ List.mem_cons_self
  have notLatter :
      ∀ other ∈ latter, other.mToken ≠ service.mToken := by
    intro other isLatter same
    rw [← same] at notLater
    exact notLater (List.mem_map_of_mem isLatter)
  have keeps :
      ∀ services : List ServiceRecord,
        (∀ other ∈ services, other.mToken ≠ service.mToken) →
        setService services changed = services := by
    intro services areOthers
    refine (List.map_congr_left fun other isOther => ?_).trans
      (List.map_id services)
    rw [sameToken, if_neg (areOthers other isOther)]
    rfl
  constructor
  · unfold getService
    rw [List.find?_append, List.find?_eq_none.mpr ?_, Option.none_or,
      List.find?_cons, beq_self_eq_true]
    intro other isFormer
    simpa using notFormer other isFormer
  · have changes :
        setService (service :: latter) changed = changed :: latter := by
      rw [setService, List.map_cons, if_pos sameToken.symm]
      exact congrArg _ (keeps latter notLatter)
    have splits :
        setService (former ++ service :: latter) changed =
          setService former changed ++
            setService (service :: latter) changed :=
      List.map_append
    rw [splits, keeps former notFormer, changes]

/-- The loop, from some service on. -/
theorem unbindAll_eq
    {before : ActivityManagerInner}
    (conn : Nat)
    (former latter : List ServiceRecord)
    (isList : inner.mServices = former ++ latter)
    (distinct : (inner.mServices.map ServiceRecord.mToken).Nodup)
    (samePids :
      ∀ app,
        (inner.manager.apps app).map AppRecord.mPid =
          (before.manager.apps app).map AppRecord.mPid) :
    (unbindAll conn (latter.map ServiceRecord.mToken) inner).mServices =
        former ++
          latter.map (fun service =>
            (before.unbound conn service).service) ∧
      (unbindAll conn (latter.map ServiceRecord.mToken) inner).calls =
        inner.calls ++
          latter.flatMap fun service =>
            (before.unbound conn service).calls := by
  induction latter generalizing inner former with
  | nil =>
      rw [List.map_nil, unbindAll, isList]
      simp
  | cons service rest inductionHypothesis =>
      have sameKey :=
        (ServiceRecord.keepsKey_unbind conn service
          (inner.manager.apps service.mApp)).1
      have sameToken := congrArg Prod.fst sameKey
      have listed := isList ▸ distinct
      obtain ⟨isFound, isChanged⟩ := setService_append listed sameToken
      obtain ⟨sameService, sameCalls⟩ :=
        service.unbind_congr conn (samePids service.mApp)
      have isListed : service ∈ inner.mServices := by
        rw [isList]
        exact List.mem_append_right _ List.mem_cons_self
      have serviced :=
        onService_serviced (ServiceRecord.keepsKey_unbind conn) isListed
      have nextList :
          (inner.onService (ServiceRecord.unbind conn)
              service).mServices =
            (former ++ [(before.unbound conn service).service]) ++
              rest := by
        rw [List.append_assoc, List.singleton_append]
        refine Eq.trans ?_ (isChanged.trans ?_)
        · rw [onService, isList]
        · rw [sameService]
          rfl
      have nextPids :
          ∀ app,
            ((inner.onService (ServiceRecord.unbind conn)
                service).manager.apps app).map AppRecord.mPid =
              (before.manager.apps app).map AppRecord.mPid := by
        intro app
        rw [← samePids app]
        exact
          serviced.apps.map_eq
            (fun _ _ same => same.sameProcess.mPid) app
      have nextDistinct :
          ((inner.onService (ServiceRecord.unbind conn)
            service).mServices.map ServiceRecord.mToken).Nodup := by
        rw [serviced.tokens]
        exact distinct
      obtain ⟨services, calls⟩ :=
        inductionHypothesis _ nextList nextDistinct nextPids
      rw [List.map_cons, unbindAll, isList, isFound]
      dsimp only
      refine ⟨?_, ?_⟩
      · rw [services, List.append_assoc]
        rfl
      · rw [calls, List.flatMap_cons, ← List.append_assoc]
        refine congrArg (· ++ _) ?_
        rw [onService]
        exact congrArg (inner.calls ++ ·) sameCalls

/-- What `unbindService` may do, service by service. -/
structure UnbindsOwn
    (conn : Nat)
    (inner next : ActivityManagerInner)
    (effect : ServiceRecord → ServiceEffect) : Prop where
  mServices :
    next.mServices =
      inner.mServices.map fun service => (effect service).service
  calls :
    next.calls =
      inner.calls ++
        inner.mServices.flatMap fun service => (effect service).calls
  touches :
    ∀ service ∈ inner.mServices, TouchesOwn conn service (effect service)

/--
Unbinding a connection touches only the services that have it, if and only if
these are the services that are bound.
-/
theorem unbindService_unbindsOwn_iff
    (inner : ActivityManagerInner)
    (conn : Nat)
    (distinct : (inner.mServices.map ServiceRecord.mToken).Nodup) :
    UnbindsOwn conn inner (inner.unbindService conn)
        (inner.unbound conn) ↔
      ∀ service ∈ inner.mServices,
        service.mStartFlag.binded = true ↔
          conn ∈ service.mConnectRecord := by
  obtain ⟨services, calls⟩ :=
    unbindAll_eq conn [] inner.mServices rfl distinct fun _ => rfl
  constructor
  · intro unbinds service isListed
    exact
      (service.unbind_touchesOwn_iff conn _).mp
        (unbinds.touches service isListed)
  · intro agrees
    exact
      { mServices := services
        calls := calls
        touches := fun service isListed =>
          (service.unbind_touchesOwn_iff conn _).mpr
            (agrees service isListed) }

/-- Two connections are bound to a service each. -/
def twoConnections : Option ActivityManagerInner :=
  run? step? (start [] 0 0)
    [.bindService "player" musicPackage plainIntent 1 (some 11),
      .attachApplication 11 false,
      .bindService "sync" musicPackage plainIntent 2 none]

/-- A connection that nobody has bound is told by both. -/
theorem twoConnections_unbindsOwn_iff :
    UnbindsOwn 3 (twoConnections.get rfl)
        ((twoConnections.get rfl).unbindService 3)
        ((twoConnections.get rfl).unbound 3) ↔
      ∀ service ∈ (twoConnections.get rfl).mServices,
        service.mStartFlag.binded = true ↔
          3 ∈ service.mConnectRecord :=
  unbindService_unbindsOwn_iff _ 3 (by decide)

/-- The first connection is told by the service of the second, too. -/
theorem twoConnections_not_unbindsOwn :
    ¬ UnbindsOwn 1 (twoConnections.get rfl)
        ((twoConnections.get rfl).unbindService 1)
        ((twoConnections.get rfl).unbound 1) := by
  intro unbinds
  have isListed :
      ∃ service ∈ (twoConnections.get rfl).mServices,
        service.mStartFlag.binded = true ∧
          1 ∉ service.mConnectRecord := by
    decide
  obtain ⟨service, isListed, isBinded, notHeld⟩ := isListed
  have touches := unbinds.touches service isListed
  exact
    notHeld
      (((service.unbind_touchesOwn_iff 1 _).mp touches).mp isBinded)

end ActivityManagerInner

end ActivityManager
