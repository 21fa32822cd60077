import ActivityManager.ServiceAgreement
import ActivityManager.ServiceConnections
import ActivityManager.ServiceInvariants

/-!
# Services that are stopped more than once

`stopServiceReal` is guarded by the status of the service, but no status that
is stored while a service is listed closes the guard.  A service is stopped
each time that it is asked to stop, by a request or by a report that it is
unbound while nothing keeps it alive.
-/

namespace ActivityManager

open StepSystem (run? Reachable AllowedRun)

open ActivityManagerInner (musicPackage plainIntent)

namespace ServiceRecord

/-- The guard of `stopServiceReal` is open; connections are there once. -/
structure IsStoppable (service : ServiceRecord) : Prop where
  mStatus : service.mStatus < ServiceStatus.destroying
  mConnectRecord : service.mConnectRecord.Nodup

/-- It is so for a new service. -/
theorem IsStoppable.fresh
    (serviceName : String)
    (token : Nat)
    (priority : ProcessPriority)
    (app : Nat) :
    IsStoppable (.fresh serviceName token priority app) where
  mStatus :=
    show ServiceStatus.creating < ServiceStatus.destroying from by decide
  mConnectRecord := List.nodup_nil

/-- Whatever happens to a service that is listed, it stays so. -/
theorem isStoppable_lasts : Lasts IsStoppable where
  start intent service app stoppable := by
    unfold ServiceRecord.start
    split <;> exact ⟨stoppable.mStatus, stoppable.mConnectRecord⟩
  stop service app stoppable := by
    unfold ServiceRecord.stop
    split <;> exact ⟨stoppable.mStatus, stoppable.mConnectRecord⟩
  bind conn intent service app stoppable := by
    unfold ServiceRecord.bind
    split
    · refine ⟨stoppable.mStatus, ?_⟩
      dsimp only
      split
      · exact stoppable.mConnectRecord
      · rename_i notHeld
        refine List.nodup_append.mpr
          ⟨stoppable.mConnectRecord, List.nodup_singleton conn, ?_⟩
        intro held isHeld other isConn same
        rw [List.mem_singleton.mp isConn] at same
        exact notHeld (same ▸ isHeld)
    · exact stoppable
  unbind conn service app stoppable := by
    have left := swapRemove_nodup stoppable.mConnectRecord (· == conn)
    unfold ServiceRecord.unbind
    split
    · dsimp only
      split <;> exact ⟨stoppable.mStatus, left⟩
    · exact stoppable
  abnormalExit _ _ stoppable :=
    ⟨stoppable.mStatus, stoppable.mConnectRecord⟩
  publish _ _ stoppable :=
    ⟨stoppable.mStatus, stoppable.mConnectRecord⟩
  report _ _ isLess stoppable :=
    ⟨isLess, stoppable.mConnectRecord⟩

end ServiceRecord

/-- The calls of `stop`: to all connections, and to the application. -/
def ServiceRecord.stopCalls
    (service : ServiceRecord)
    (pid : Nat) : List ServiceCall :=
  service.disconnectAll ++ [.scheduleStopService pid service.mToken]

namespace ActivityManagerInner

variable {inner next : ActivityManagerInner}

/-! ## What a step stops -/

/--
The service that a step asks to stop.  One that is reported to be unbound is
asked if its `mStartFlag` is `F_UNKNOW`.
-/
def askedToStop
    (inner : ActivityManagerInner) : InnerAction → Option ServiceRecord
  | .stopService packageInfo serviceName =>
      findService inner.manager.apps inner.mServices
        packageInfo.servicePackageName serviceName
  | .stopServiceByToken token =>
      getService inner.mServices token
  | .reportServiceStatus token status =>
      if status = ServiceStatus.unbinded then
        (getService inner.mServices token).filter fun service =>
          !service.isAlive
      else
        none
  | _ =>
      none

/-- The service was stopped, and nothing else was called. -/
def StopCalls
    (service : ServiceRecord)
    (inner next : ActivityManagerInner) : Prop :=
  ∃ pid, next.calls = inner.calls ++ service.stopCalls pid

/-- `stop` of a service whose application is there. -/
theorem onService_stopCalls
    {service : ServiceRecord}
    {packageName : String}
    (isNamed :
      service.getPackageName inner.manager.apps = some packageName) :
    StopCalls service inner (inner.onService ServiceRecord.stop service) := by
  obtain ⟨record, isRecord, _⟩ := Option.map_eq_some_iff.mp isNamed
  refine ⟨record.mPid, ?_⟩
  rw [onService, isRecord]
  rfl

/-- The guard is open. -/
theorem stopServiceReal_stopCalls
    {service : ServiceRecord}
    {packageName : String}
    (stoppable : service.IsStoppable)
    (isNamed :
      service.getPackageName inner.manager.apps = some packageName) :
    StopCalls service inner (inner.stopServiceReal service) := by
  rw [stopServiceReal, if_pos stoppable.mStatus]
  exact onService_stopCalls isNamed

/-- A service that is asked to stop is stopped. -/
theorem step?_asked
    {action : InnerAction}
    {service : ServiceRecord}
    (stoppable : EachService ServiceRecord.IsStoppable inner)
    (isAsked : inner.askedToStop action = some service)
    (isNext : inner.step? action = some next) :
    service ∈ inner.mServices ∧ StopCalls service inner next := by
  cases action with
  | stopService packageInfo serviceName =>
      obtain ⟨isListed, _, isNamed⟩ := mem_of_findService isAsked
      refine ⟨isListed, ?_⟩
      rw [← Option.some.inj isNext, stopService]
      rw [askedToStop] at isAsked
      rw [isAsked]
      exact stopServiceReal_stopCalls (stoppable service isListed) isNamed
  | stopServiceByToken token =>
      have isListed := (mem_of_getService isAsked).1
      refine ⟨isListed, ?_⟩
      obtain ⟨_, isResult, rfl⟩ := Option.map_eq_some_iff.mp isNext
      rw [askedToStop] at isAsked
      rw [stopServiceByToken, isAsked] at isResult
      obtain ⟨packageName, isNamed, isResult⟩ :=
        Option.bind_eq_some_iff.mp isResult
      rw [← Option.some.inj isResult]
      exact stopServiceReal_stopCalls (stoppable service isListed) isNamed
  | reportServiceStatus token status =>
      rw [askedToStop] at isAsked
      split at isAsked
      · rename_i isUnbinded
        obtain ⟨isFound, notAlive⟩ := Option.filter_eq_some_iff.mp isAsked
        refine ⟨(mem_of_getService isFound).1, ?_⟩
        rw [step?, reportServiceStatus, isFound] at isNext
        obtain ⟨packageName, isNamed, isNext⟩ :=
          Option.bind_eq_some_iff.mp isNext
        rw [isUnbinded, if_neg (by decide), if_pos rfl,
          if_neg (by simpa using notAlive), Option.some.injEq] at isNext
        rw [← isNext]
        exact onService_stopCalls isNamed
      · cases isAsked
  | _ =>
      cases isAsked

/-- Calls are made, and none of them stops a service. -/
def StopsNone (inner next : ActivityManagerInner) : Prop :=
  ∃ called,
    next.calls = inner.calls ++ called ∧
      ∀ call ∈ called, ∀ token, call.stops token = false

namespace StopsNone

theorem of_same (sameCalls : next.calls = inner.calls) :
    StopsNone inner next :=
  ⟨[], by rw [sameCalls, List.append_nil], nofun⟩

theorem trans
    {middle : ActivityManagerInner}
    (former : StopsNone inner middle)
    (latter : StopsNone middle next) :
    StopsNone inner next := by
  obtain ⟨first, isFirst, firstStops⟩ := former
  obtain ⟨second, isSecond, secondStops⟩ := latter
  refine ⟨first ++ second, ?_, ?_⟩
  · rw [isSecond, isFirst, List.append_assoc]
  · intro call isCalled
    rcases List.mem_append.mp isCalled with member | member
    · exact firstStops call member
    · exact secondStops call member

/-- Calls that may stop no service. -/
theorem of_makesCalls
    {engaged : Nat → Prop}
    (makes : MakesCalls engaged ServiceRecord.noService inner next) :
    StopsNone inner next := by
  obtain ⟨called, isCalled, concern⟩ := makes
  refine ⟨called, isCalled, fun call member token => ?_⟩
  exact Bool.eq_false_iff.mpr (concern call member token).2

/-- The first request of a service, or another one. -/
theorem requestService
    (service : ServiceRecord)
    (intent : Intent)
    (request : ServiceRequest) :
    StopsNone inner (inner.requestService service intent request) := by
  cases request with
  | start =>
      exact of_makesCalls ⟨_, rfl, service.start_concerns _ intent⟩
  | bind conn =>
      exact of_makesCalls ⟨_, rfl, service.bind_concerns _ conn intent⟩

/-- A callback has no more than such a request. -/
theorem callback
    {e : AppAttachEvent}
    {callback : AttachCallback}
    (outcome : inner.CallbackOutcome e callback next) :
    StopsNone inner next := by
  cases outcome with
  | startActivity _ _ isAttached quiet =>
      exact of_same (quiet.calls.trans isAttached.calls)
  | startService _ =>
      exact .requestService _ _ _

/-- Services of a process that exits are not told to stop. -/
theorem terminateServices
    (tokens : List Nat)
    (inner : ActivityManagerInner) :
    StopsNone inner (terminateServices tokens inner) := by
  induction tokens generalizing inner with
  | nil =>
      exact of_same rfl
  | cons token rest inductionHypothesis =>
      rw [ActivityManagerInner.terminateServices]
      refine StopsNone.trans ?_ (inductionHypothesis _)
      split
      · rename_i service _
        exact of_makesCalls ⟨_, rfl, service.disconnectAll_concerns⟩
      · exact of_same rfl

theorem childExit
    {pid : Nat}
    (isNext : inner.childExit pid = some next) :
    StopsNone inner next := by
  obtain ⟨tokens, middle, _, sameCalls, _, isCalls⟩ :=
    childExit_services isNext
  have ended :=
    (StopsNone.of_same sameCalls).trans (terminateServices tokens middle)
  exact ended.trans (of_same isCalls)

end StopsNone

/-- A request for a service stops none. -/
theorem ServiceOutcome.stopsNone
    {serviceName : String}
    {packageInfo : PackageInfo}
    {intent : Intent}
    {request : ServiceRequest}
    {spawned : Option Nat}
    {route : Route}
    (outcome :
      inner.ServiceOutcome serviceName packageInfo intent request spawned
        next route) :
    StopsNone inner next := by
  cases outcome with
  | rejected =>
      exact .of_same rfl
  | found _ =>
      exact .requestService _ _ _
  | created _ _ _ _ =>
      exact .requestService _ _ _
  | queued _ _ _ submitted =>
      exact .of_same submitted.calls_eq

/-- Such a report makes no call at all. -/
theorem reportServiceStatus_calls
    {token : Nat}
    {status : ServiceStatus}
    (notAsked :
      inner.askedToStop (.reportServiceStatus token status) = none)
    (isNext : inner.reportServiceStatus token status = some next) :
    next.calls = inner.calls := by
  unfold reportServiceStatus at isNext
  split at isNext
  · rename_i service isFound
    obtain ⟨_, _, isNext⟩ := Option.bind_eq_some_iff.mp isNext
    split at isNext
    · rw [← Option.some.inj isNext]
      rfl
    · split at isNext
      · rename_i isUnbinded
        rw [askedToStop, if_pos isUnbinded, isFound] at notAsked
        have isAlive : service.isAlive = true := by
          simpa using notAsked
        rw [if_pos isAlive] at isNext
        rw [← Option.some.inj isNext]
        rfl
      · split at isNext
        · rw [← Option.some.inj isNext]
          exact (stopIfIdle_quiet _ _).calls
        · rw [← Option.some.inj isNext]
  · rw [← Option.some.inj isNext]

/-- A step that asks no service to stop stops none. -/
theorem step?_notAsked
    {action : InnerAction}
    (notAsked : inner.askedToStop action = none)
    (isNext : inner.step? action = some next) :
    StopsNone inner next := by
  cases action with
  | startService serviceName packageInfo intent spawned =>
      obtain ⟨⟨_, route⟩, isResult, rfl⟩ :=
        Option.map_eq_some_iff.mp isNext
      exact (startServiceReal_outcome isResult).stopsNone
  | bindService serviceName packageInfo intent conn spawned =>
      obtain ⟨⟨_, route⟩, isResult, rfl⟩ :=
        Option.map_eq_some_iff.mp isNext
      exact (startServiceReal_outcome isResult).stopsNone
  | stopService packageInfo serviceName =>
      rw [askedToStop] at notAsked
      rw [← Option.some.inj isNext, stopService, notAsked]
      exact .of_same rfl
  | stopServiceByToken token =>
      obtain ⟨_, isResult, rfl⟩ := Option.map_eq_some_iff.mp isNext
      rw [askedToStop] at notAsked
      rw [stopServiceByToken, notAsked] at isResult
      rw [← Option.some.inj isResult]
      exact .of_same rfl
  | unbindService conn =>
      rw [← Option.some.inj isNext]
      exact .of_makesCalls (Traffic.unbindAll conn _ inner).calls
  | publishService token serviceBinder =>
      rw [← Option.some.inj isNext]
      exact
        .of_makesCalls (publishService_traffic inner token serviceBinder).calls
  | reportServiceStatus token status =>
      exact .of_same (reportServiceStatus_calls notAsked isNext)
  | attachApplication callerPid isSystemUI =>
      cases attachApplication_outcome isNext with
      | known _ =>
          exact .of_same rfl
      | illegal _ =>
          exact .of_same rfl
      | attached _ _ isServed =>
          refine
            eventTrigger_invariant
              (motive := fun after => StopsNone inner after)
              ?_ (fun _ => id) ?_ isServed
          · intro middle handler after former _ _ outcome
            have latter := StopsNone.callback outcome
            exact former.trans latter
          · exact .of_same rfl
  | childExit pid =>
      exact .childExit isNext
  | _ =>
      exact .of_same (step?_sparesServices rfl isNext).2

end ActivityManagerInner

/-! ## Runs -/

/-- The service with what was asked of it and done about stopping. -/
structure StopRun where
  inner : ActivityManagerInner
  /-- The tokens of the services that were asked to stop. -/
  asked : List Nat
  /-- The calls because of that, with the tokens of the services. -/
  stopCalls : List (Nat × ServiceCall)

namespace StopRun

/-- Nothing was asked of a new service. -/
def start
    (lines : List LmkRow)
    (arena : Int)
    (now : Nat) : StopRun where
  inner := .start lines arena now
  asked := []
  stopCalls := []

/-- The service that is asked to stop makes the calls of the step. -/
def withStep
    (run : StopRun)
    (service : Option ServiceRecord)
    (next : ActivityManagerInner) : StopRun where
  inner := next
  asked := run.asked ++ service.toList.map ServiceRecord.mToken
  stopCalls :=
    run.stopCalls ++
      service.toList.flatMap fun service =>
        (next.calls.drop run.inner.calls.length).map
          (service.mToken, ·)

/-- Perform one step. -/
def step?
    (run : StopRun)
    (action : InnerAction) : Option StopRun :=
  (run.inner.step? action).map
    (run.withStep (run.inner.askedToStop action))

/-- The pids are new. -/
def Permitted
    (run : StopRun)
    (action : InnerAction) : Prop :=
  run.inner.Permitted action

instance decidablePermitted
    (run : StopRun)
    (action : InnerAction) :
    Decidable (run.Permitted action) :=
  inferInstanceAs (Decidable (_ = true))

/-- No service is asked to stop that was asked before. -/
def AsksOnce
    (run : StopRun)
    (action : InnerAction) : Prop :=
  ∀ service ∈ run.inner.askedToStop action, service.mToken ∉ run.asked

/-- The call is made in stopping the service, to the connection. -/
def disconnects
    (token conn : Nat)
    (call : Nat × ServiceCall) : Bool :=
  call.1 = token && call.2.disconnects conn

/--
An application is told at most once to stop a service, and a connection at
most once that the service is stopped.
-/
structure StopsOnce (run : StopRun) : Prop where
  scheduled : ∀ token, run.inner.calls.countP (·.stops token) ≤ 1
  disconnected :
    ∀ token conn, run.stopCalls.countP (disconnects token conn) ≤ 1

/-- A service is stopped as often as it is asked to. -/
structure StopsAsAsked (run : StopRun) : Prop where
  distinct : run.inner.DistinctProcesses
  numbered : run.inner.ServicesNumbered
  stoppable : run.inner.EachService ServiceRecord.IsStoppable
  scheduled :
    ∀ token,
      run.inner.calls.countP (·.stops token) = run.asked.count token
  disconnected :
    ∀ token conn,
      run.stopCalls.countP (disconnects token conn) ≤
        run.asked.count token

variable {run next : StopRun}

theorem StopsAsAsked.start
    (lines : List LmkRow)
    (arena : Int)
    (now : Nat) :
    StopsAsAsked (start lines arena now) where
  distinct := .start lines arena now
  numbered := .start lines arena now
  stoppable _ isListed := absurd isListed List.not_mem_nil
  scheduled _ := rfl
  disconnected _ _ := Nat.le_refl 0

/-- `stop` of a service, counted. -/
theorem countP_stops
    (service : ServiceRecord)
    (pid token : Nat) :
    (service.stopCalls pid).countP (ServiceCall.stops token) =
      [service.mToken].count token := by
  have noneOther :
      service.disconnectAll.countP (ServiceCall.stops token) = 0 := by
    refine List.countP_eq_zero.mpr fun call isCalled => ?_
    exact (service.disconnectAll_concerns call isCalled token).2
  rw [ServiceRecord.stopCalls, List.countP_append, noneOther,
    Nat.zero_add, List.countP_singleton, List.count_singleton]
  rfl

/-- A connection is told once, if the service has it. -/
theorem countP_disconnects
    {service : ServiceRecord}
    (stoppable : service.IsStoppable)
    (pid token conn : Nat) :
    ((service.stopCalls pid).map (service.mToken, ·)).countP
        (disconnects token conn) ≤
      [service.mToken].count token := by
  by_cases isToken : service.mToken = token
  · have told :
        (service.stopCalls pid).countP (ServiceCall.disconnects conn) =
          service.mConnectRecord.count conn := by
      rw [ServiceRecord.stopCalls, List.countP_append,
        ServiceRecord.disconnectAll, List.countP_map]
      rfl
    have held := List.nodup_iff_count_le_one.mp stoppable.mConnectRecord conn
    rw [List.countP_map, isToken]
    simpa [disconnects, Function.comp_def, ← isToken, told] using held
  · rw [List.countP_map]
    refine le_of_eq_of_le (List.countP_eq_zero.mpr ?_) (Nat.zero_le _)
    intro call _
    simp [disconnects, isToken]

/-- Every step stops what is asked to stop. -/
theorem StopsAsAsked.step
    {action : InnerAction}
    (before : run.StopsAsAsked)
    (isPermitted : run.Permitted action)
    (isNext : run.step? action = some next) :
    next.StopsAsAsked := by
  obtain ⟨stepped, isStepped, isNext⟩ := Option.map_eq_some_iff.mp isNext
  subst isNext
  have distinct := before.distinct.step isPermitted isStepped
  have numbered := before.numbered.step before.distinct.bounded isStepped
  have stoppable :=
    before.stoppable.step ServiceRecord.isStoppable_lasts before.numbered
      (fun serviceName token priority app _ =>
        .fresh serviceName token priority app) isStepped
  cases isAsked : run.inner.askedToStop action with
  | none =>
      obtain ⟨called, isCalled, stopsNone⟩ :=
        ActivityManagerInner.step?_notAsked isAsked isStepped
      refine ⟨distinct, numbered, stoppable, fun token => ?_, ?_⟩
      · have none :
            called.countP (ServiceCall.stops token) = 0 := by
          refine List.countP_eq_zero.mpr fun call member => ?_
          rw [stopsNone call member token]
          exact Bool.false_ne_true
        change stepped.calls.countP _ = (run.asked ++ []).count token
        rw [isCalled, List.countP_append, none, List.append_nil]
        exact before.scheduled token
      · intro token conn
        change (run.stopCalls ++ []).countP _ ≤ (run.asked ++ []).count token
        rw [List.append_nil, List.append_nil]
        exact before.disconnected token conn
  | some service =>
      obtain ⟨isListed, pid, isCalled⟩ :=
        ActivityManagerInner.step?_asked before.stoppable isAsked isStepped
      refine ⟨distinct, numbered, stoppable, fun token => ?_, ?_⟩
      · change
          stepped.calls.countP _ =
            (run.asked ++ [service.mToken]).count token
        rw [isCalled, List.countP_append, countP_stops,
          before.scheduled token, List.count_append]
      · intro token conn
        have isMade :
            (run.withStep (some service) stepped).stopCalls =
              run.stopCalls ++
                (service.stopCalls pid).map (service.mToken, ·) := by
          simp [withStep, isCalled]
        change _ ≤ (run.asked ++ [service.mToken]).count token
        rw [isMade, List.countP_append, List.count_append]
        exact
          Nat.add_le_add (before.disconnected token conn)
            (countP_disconnects (before.stoppable service isListed) pid
              token conn)

/-- So a service is stopped once as long as it is asked once. -/
theorem StopsAsAsked.stopsOnce_iff (asAsked : run.StopsAsAsked) :
    run.StopsOnce ↔ run.asked.Nodup := by
  rw [List.nodup_iff_count_le_one]
  constructor
  · intro once token
    rw [← asAsked.scheduled token]
    exact once.scheduled token
  · intro once
    constructor
    · intro token
      rw [asAsked.scheduled token]
      exact once token
    · intro token conn
      exact Nat.le_trans (asAsked.disconnected token conn) (once token)

/-- A step may ask a service again. -/
theorem asked_nodup_iff
    {action : InnerAction}
    (isNext : run.step? action = some next) :
    next.asked.Nodup ↔ run.asked.Nodup ∧ run.AsksOnce action := by
  obtain ⟨stepped, _, isNext⟩ := Option.map_eq_some_iff.mp isNext
  subst isNext
  unfold AsksOnce withStep
  cases run.inner.askedToStop action with
  | none =>
      simp
  | some service =>
      rw [List.nodup_append_comm]
      change (service.mToken :: run.asked).Nodup ↔ _
      rw [List.nodup_cons, and_comm]
      simp

/-- No service is asked twice in a run whose steps ask none again. -/
theorem asked_nodup_iff_allowedRun
    {actions : List InnerAction}
    {last : StopRun}
    (accepted : run? step? run actions = some last) :
    last.asked.Nodup ↔
      run.asked.Nodup ∧ AllowedRun step? AsksOnce run actions := by
  induction actions generalizing run with
  | nil =>
      rw [← Option.some.inj accepted]
      exact (and_iff_left trivial).symm
  | cons action rest inductionHypothesis =>
      rw [run?] at accepted
      cases isNext : run.step? action with
      | none =>
          rw [isNext] at accepted
          cases accepted
      | some next =>
          rw [isNext] at accepted
          rw [inductionHypothesis accepted, asked_nodup_iff isNext,
            AllowedRun, isNext, and_assoc]

/--
In every run each service is stopped at most once, and its connections are
told so at most once, if and only if no service is asked to stop that was
asked before.
-/
theorem stopsOnce_iff_asksOnce
    (lines : List LmkRow)
    (arena : Int)
    (now : Nat)
    {actions : List InnerAction}
    {last : StopRun}
    (permitted :
      AllowedRun step? Permitted (start lines arena now) actions)
    (accepted : run? step? (start lines arena now) actions = some last) :
    last.StopsOnce ↔
      AllowedRun step? AsksOnce (start lines arena now) actions := by
  have asAsked : last.StopsAsAsked := by
    refine
      (Reachable.of_run? permitted accepted).invariant
        (.start lines arena now) ?_
    intro middle action after before isPermitted isNext
    exact before.step isPermitted isNext
  rw [asAsked.stopsOnce_iff, asked_nodup_iff_allowedRun accepted]
  exact and_iff_right List.nodup_nil

/-- A service is bound, and then stopped. -/
def stopPlayer : List InnerAction :=
  [.bindService "player" musicPackage plainIntent 1 (some 11),
    .attachApplication 11 false,
    .stopService musicPackage "player"]

/-- That is one stop, as long as nobody asks again. -/
theorem stopPlayer_stopsOnce_iff :
    ((run? step? (start [] 0 0) stopPlayer).get rfl).StopsOnce ↔
      AllowedRun step? AsksOnce (start [] 0 0) stopPlayer :=
  stopsOnce_iff_asksOnce [] 0 0 (by decide) (Option.some_get _).symm

/-- The service is stopped again before it has reported that it has ended. -/
def stopPlayerAgain : Option StopRun :=
  run? step? (start [] 0 0)
    (stopPlayer ++ [.stopServiceByToken 0])

/-- The application is told again, and so is the connection. -/
theorem stopPlayerAgain_not_stopsOnce :
    ¬ (stopPlayerAgain.get rfl).StopsOnce ∧
      (stopPlayerAgain.get rfl).stopCalls.countP (disconnects 0 1) =
        2 := by
  refine ⟨?_, by decide⟩
  intro once
  exact absurd (once.scheduled 0) (by decide)

end StopRun

end ActivityManager
