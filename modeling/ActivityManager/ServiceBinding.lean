import ActivityManager.ServiceConnections
import Mathlib.Data.List.Induction

/-!
# The bookkeeping of bound connections

A service is started and bound any number of times, by any connections, in any
order.  The flags of its record and the list `mConnectRecord` then say what a
reader finds in the history of the calls alone: who bound it and has not since
unbound it, and whether it was ever started.

A run is a list of calls to one `ServiceRecord`.  Between two calls the binder
and the status of the service may change, as clients report them, and so may
the record of its application, which stays alive.
-/

namespace ActivityManager

/-- What happens to a service whose application is alive. -/
inductive BindingCall where
  | start (intent : Intent)
  | bind
      (conn : Nat)
      (intent : Intent)
  | unbind (conn : Nat)
  /-- The client reports, or the application record changes elsewhere. -/
  | changed
      (mServiceBinder : Option Nat)
      (mStatus : ServiceStatus)
      (app : AppRecord)
  deriving DecidableEq

namespace BindingCall

/-- Make a call to a service and its application. -/
def perform
    (service : ServiceRecord)
    (app : Option AppRecord) : BindingCall → ServiceEffect
  | .start intent =>
      service.start intent app
  | .bind conn intent =>
      service.bind conn intent app
  | .unbind conn =>
      service.unbind conn app
  | .changed mServiceBinder mStatus appRecord =>
      { service :=
          { service with
            mServiceBinder := mServiceBinder
            mStatus := mStatus }
        app := some appRecord
        calls := [] }

/-- A call that starts the service. -/
def isStart : BindingCall → Bool
  | .start _ => true
  | _ => false

/-- A call by which a connection binds the service. -/
def bindsTo (conn : Nat) : BindingCall → Bool
  | .bind other _ => other == conn
  | _ => false

end BindingCall

/-- A command to the client that nobody is bound any more. -/
def ServiceCall.isUnbindRequest : ServiceCall → Bool
  | .scheduleUnbindService _ _ => true
  | _ => false

/-- Make the calls one after the other. -/
def performAll
    (effect : ServiceEffect)
    (calls : List BindingCall) : ServiceEffect :=
  calls.foldl
    (fun effect call => call.perform effect.service effect.app) effect

/-- A service that was just created in an application that is alive. -/
def createdIn
    (name : String)
    (token : Nat)
    (priority : ProcessPriority)
    (app : Nat)
    (appRecord : AppRecord) : ServiceEffect where
  service := .fresh name token priority app
  app := some appRecord
  calls := []

/-! ## What the history says -/

/-- The service was started. -/
def WasStarted (history : List BindingCall) : Prop :=
  ∃ call ∈ history, call.isStart = true

/-- The connection bound the service and has not since unbound it. -/
def IsBound
    (history : List BindingCall)
    (conn : Nat) : Prop :=
  ∃ earlier call later,
    history = earlier ++ call :: later ∧
      call.bindsTo conn = true ∧
      .unbind conn ∉ later

theorem wasStarted_snoc
    (history : List BindingCall)
    (call : BindingCall) :
    WasStarted (history ++ [call]) ↔
      WasStarted history ∨ call.isStart = true := by
  constructor
  · rintro ⟨found, member, isStart⟩
    rcases List.mem_append.mp member with isEarlier | isLast
    · exact Or.inl ⟨found, isEarlier, isStart⟩
    · rw [List.mem_singleton] at isLast
      rw [isLast] at isStart
      exact Or.inr isStart
  · rintro (⟨found, member, isStart⟩ | isStart)
    · exact ⟨found, List.mem_append_left _ member, isStart⟩
    · exact
        ⟨call, List.mem_append_right _ (List.mem_singleton_self call), isStart⟩

/-- The last call decides, or what it leaves alone was so before. -/
theorem isBound_snoc
    (history : List BindingCall)
    (call : BindingCall)
    (conn : Nat) :
    IsBound (history ++ [call]) conn ↔
      call.bindsTo conn = true ∨
        (call ≠ .unbind conn ∧ IsBound history conn) := by
  constructor
  · rintro ⟨earlier, binding, later, shape, binds, notUnbound⟩
    rcases List.eq_nil_or_concat later with rfl | ⟨front, last, rfl⟩
    · have isLast : call = binding :=
        List.singleton_inj.mp (List.append_inj' shape rfl).2
      exact Or.inl (isLast ▸ binds)
    · rw [List.concat_eq_append] at shape notUnbound
      rw [← List.cons_append, ← List.append_assoc] at shape
      obtain ⟨isEarlier, isLast⟩ := List.append_inj' shape rfl
      rw [List.mem_append, not_or, List.mem_singleton] at notUnbound
      refine
        Or.inr ⟨?_, earlier, binding, front, isEarlier, binds, notUnbound.1⟩
      rw [List.singleton_inj.mp isLast]
      exact fun isUnbind => notUnbound.2 isUnbind.symm
  · rintro (binds | ⟨isOther, earlier, binding, later, shape, binds, kept⟩)
    · exact ⟨history, call, [], rfl, binds, List.not_mem_nil⟩
    · refine ⟨earlier, binding, later ++ [call], ?_, binds, ?_⟩
      · rw [shape, List.append_assoc, List.cons_append]
      · rw [List.mem_append, not_or, List.mem_singleton]
        exact ⟨kept, fun isUnbind => isOther isUnbind.symm⟩

/-! ## The record agrees with the history -/

/-- What the record of a service says about the calls so far. -/
structure Bookkept
    (history : List BindingCall)
    (service : ServiceRecord) : Prop where
  distinct : service.mConnectRecord.Nodup
  bound :
    ∀ conn, conn ∈ service.mConnectRecord ↔ IsBound history conn
  binded :
    service.mStartFlag.binded = true ↔ service.mConnectRecord ≠ []
  started :
    service.mStartFlag.started = true ↔ WasStarted history

variable
  {history : List BindingCall}
  {service : ServiceRecord}

/-- A record that nobody called yet. -/
theorem bookkept_fresh
    (name : String)
    (token : Nat)
    (priority : ProcessPriority)
    (app : Nat) :
    Bookkept [] (.fresh name token priority app) where
  distinct := List.nodup_nil
  bound conn := by
    constructor
    · exact fun member => absurd member List.not_mem_nil
    · rintro ⟨earlier, call, later, shape, -⟩
      exact absurd shape (by simp)
  binded := by
    simp [ServiceRecord.fresh, StartFlag.unknow]
  started := by
    simp [ServiceRecord.fresh, StartFlag.unknow, WasStarted]

namespace Bookkept

/-- A call that is about no connection leaves the connections alone. -/
theorem isBound_of_other
    (kept : Bookkept history service)
    {call : BindingCall}
    (notBind : ∀ conn, call.bindsTo conn = false)
    (notUnbind : ∀ conn, call ≠ .unbind conn)
    (conn : Nat) :
    conn ∈ service.mConnectRecord ↔ IsBound (history ++ [call]) conn := by
  rw [isBound_snoc, notBind conn, kept.bound conn]
  simp [notUnbind conn]

/-- `ServiceRecord::start` sets its flag. -/
theorem start
    (kept : Bookkept history service)
    (intent : Intent)
    (appRecord : AppRecord) :
    Bookkept (history ++ [.start intent])
      (service.start intent (some appRecord)).service where
  distinct := kept.distinct
  bound := kept.isBound_of_other (fun _ => rfl) nofun
  binded := kept.binded
  started := by
    rw [wasStarted_snoc]
    simp [ServiceRecord.start, BindingCall.isStart]

/-- `ServiceRecord::bind` adds a connection that is not there yet. -/
theorem bind
    (kept : Bookkept history service)
    (conn : Nat)
    (intent : Intent)
    (appRecord : AppRecord) :
    Bookkept (history ++ [.bind conn intent])
      (service.bind conn intent (some appRecord)).service := by
  have bound :
      ∀ other,
        other ∈ (service.bind conn intent
            (some appRecord)).service.mConnectRecord ↔
          other = conn ∨ other ∈ service.mConnectRecord := by
    intro other
    simp only [ServiceRecord.bind]
    split
    case isTrue isKnown =>
      refine ⟨Or.inr, ?_⟩
      rintro (isConn | member)
      · exact isConn ▸ isKnown
      · exact member
    case isFalse =>
      rw [List.mem_append, List.mem_singleton, or_comm]
  constructor
  case distinct =>
    simp only [ServiceRecord.bind]
    split
    case isTrue =>
      exact kept.distinct
    case isFalse isNew =>
      exact List.nodup_append_comm.mp
        (List.nodup_cons.mpr ⟨isNew, kept.distinct⟩)
  case bound =>
    intro other
    rw [bound, isBound_snoc, kept.bound]
    simp only [BindingCall.bindsTo, beq_iff_eq, eq_comm (a := conn), ne_eq,
      reduceCtorEq, not_false_eq_true, true_and]
  case binded =>
    refine iff_of_true rfl ?_
    exact List.ne_nil_of_mem ((bound conn).mpr (Or.inl rfl))
  case started =>
    rw [wasStarted_snoc]
    simpa [ServiceRecord.bind, BindingCall.isStart] using kept.started

/--
`ServiceRecord::unbind` takes the connection away and clears the flag with
the last one.  A foreign connection takes nothing away.
-/
theorem unbind
    (kept : Bookkept history service)
    (conn : Nat)
    (appRecord : AppRecord) :
    Bookkept (history ++ [.unbind conn])
      (service.unbind conn (some appRecord)).service := by
  have started :
      (service.unbind conn (some appRecord)).service.mStartFlag.started =
        service.mStartFlag.started := by
    rw [ServiceRecord.unbind]
    split <;> rfl
  have left :
      (service.unbind conn (some appRecord)).service.mConnectRecord =
        swapRemove (· == conn) service.mConnectRecord := by
    by_cases isBinded : service.mStartFlag.binded = true
    · rw [ServiceRecord.unbind, if_pos isBinded]
    · have isEmpty : service.mConnectRecord = [] := by
        by_contra isBound
        exact isBinded (kept.binded.mpr isBound)
      rw [ServiceRecord.unbind, if_neg isBinded, isEmpty]
      rfl
  constructor
  case distinct =>
    rw [left]
    exact swapRemove_nodup kept.distinct _
  case bound =>
    intro other
    rw [left, mem_swapRemove_iff kept.distinct, isBound_snoc, kept.bound]
    simp [BindingCall.bindsTo, eq_comm]
  case binded =>
    by_cases isBinded : service.mStartFlag.binded = true
    · rw [ServiceRecord.unbind, if_pos isBinded]
      simp
    · rw [ServiceRecord.unbind, if_neg isBinded]
      exact kept.binded
  case started =>
    rw [started, kept.started, wasStarted_snoc]
    simp [BindingCall.isStart]

/-- What is reported about a service leaves its connections alone. -/
theorem changed
    (kept : Bookkept history service)
    (mServiceBinder : Option Nat)
    (mStatus : ServiceStatus)
    (app : AppRecord) :
    Bookkept (history ++ [.changed mServiceBinder mStatus app])
      { service with
        mServiceBinder := mServiceBinder
        mStatus := mStatus } where
  distinct := kept.distinct
  bound := kept.isBound_of_other (fun _ => rfl) nofun
  binded := kept.binded
  started := by
    rw [wasStarted_snoc]
    simpa [BindingCall.isStart] using kept.started

/-- Every call keeps the books, and the application. -/
theorem perform
    (kept : Bookkept history service)
    (appRecord : AppRecord)
    (call : BindingCall) :
    Bookkept (history ++ [call])
        (call.perform service (some appRecord)).service ∧
      (call.perform service (some appRecord)).app.isSome = true := by
  cases call with
  | start intent =>
      exact ⟨kept.start intent appRecord, rfl⟩
  | bind conn intent =>
      exact ⟨kept.bind conn intent appRecord, rfl⟩
  | unbind conn =>
      refine ⟨kept.unbind conn appRecord, ?_⟩
      simp only [BindingCall.perform, ServiceRecord.unbind]
      split <;> rfl
  | changed mServiceBinder mStatus app =>
      exact ⟨kept.changed mServiceBinder mStatus app, rfl⟩

/-- A service is alive if and only if it was started or somebody is bound. -/
theorem isAlive_iff
    (kept : Bookkept history service) :
    service.isAlive = true ↔
      WasStarted history ∨ ∃ conn, IsBound history conn := by
  have someBound :
      service.mConnectRecord ≠ [] ↔ ∃ conn, IsBound history conn := by
    rw [← List.isEmpty_eq_false_iff, List.isEmpty_eq_false_iff_exists_mem]
    exact exists_congr kept.bound
  rw [← someBound, ← kept.binded, ← kept.started]
  rcases service with ⟨_, _, _, _, _, ⟨started, binded⟩, _, _, _⟩
  cases started <;> cases binded <;>
    simp [ServiceRecord.isAlive, StartFlag.unknow]

/-- Only `ServiceRecord::unbind` asks the client to unbind. -/
theorem isUnbind_of_isUnbindRequest
    {call : BindingCall}
    {appRecord : AppRecord}
    {sent : ServiceCall}
    (isSent : sent ∈ (call.perform service (some appRecord)).calls)
    (isRequest : sent.isUnbindRequest = true) :
    ∃ conn, call = .unbind conn := by
  cases call with
  | start intent =>
      rw [List.mem_singleton.mp isSent] at isRequest
      cases isRequest
  | bind conn intent =>
      simp only [BindingCall.perform, ServiceRecord.bind] at isSent
      split at isSent
      all_goals
        rw [List.mem_singleton.mp isSent] at isRequest
        cases isRequest
  | unbind conn =>
      exact ⟨conn, rfl⟩
  | changed mServiceBinder mStatus app =>
      exact absurd isSent List.not_mem_nil

/-- It does so when it takes the last connection away. -/
theorem unbind_isUnbindRequest_iff
    (kept : Bookkept history service)
    (appRecord : AppRecord)
    (conn : Nat) :
    (∃ sent ∈ (service.unbind conn (some appRecord)).calls,
        sent.isUnbindRequest = true) ↔
      service.mConnectRecord ≠ [] ∧
        (service.unbind conn (some appRecord)).service.mConnectRecord =
          [] := by
  rw [← kept.binded, ServiceRecord.unbind]
  by_cases isBinded : service.mStartFlag.binded = true
  · rw [if_pos isBinded]
    by_cases noneLeft :
        swapRemove (· == conn) service.mConnectRecord = []
    · simp [isBinded, noneLeft, ServiceCall.isUnbindRequest]
    · simp [isBinded, noneLeft, ServiceCall.isUnbindRequest]
  · rw [if_neg isBinded]
    simp [isBinded]

/-- The client is asked to unbind when the last connection goes. -/
theorem isUnbindRequest_iff
    (kept : Bookkept history service)
    (appRecord : AppRecord)
    (call : BindingCall) :
    (∃ sent ∈ (call.perform service (some appRecord)).calls,
        sent.isUnbindRequest = true) ↔
      ∃ conn,
        call = .unbind conn ∧
          service.mConnectRecord ≠ [] ∧
          (call.perform service
            (some appRecord)).service.mConnectRecord = [] := by
  constructor
  · rintro ⟨sent, isSent, isRequest⟩
    obtain ⟨conn, rfl⟩ := isUnbind_of_isUnbindRequest isSent isRequest
    exact
      ⟨conn, rfl,
        (kept.unbind_isUnbindRequest_iff appRecord conn).mp
          ⟨sent, isSent, isRequest⟩⟩
  · rintro ⟨conn, rfl, lastGoes⟩
    exact (kept.unbind_isUnbindRequest_iff appRecord conn).mpr lastGoes

end Bookkept

/-- After any calls the books agree with the history of the calls. -/
theorem performAll_bookkept
    (name : String)
    (token : Nat)
    (priority : ProcessPriority)
    (app : Nat)
    (appRecord : AppRecord)
    (history : List BindingCall) :
    let final :=
      performAll (createdIn name token priority app appRecord) history
    Bookkept history final.service ∧ final.app.isSome = true := by
  induction history using List.reverseRecOn with
  | nil =>
      exact ⟨bookkept_fresh name token priority app, rfl⟩
  | append_singleton history call inductionHypothesis =>
      obtain ⟨kept, isSome⟩ := inductionHypothesis
      obtain ⟨alive, isAlive⟩ := Option.isSome_iff_exists.mp isSome
      have performed := kept.perform alive call
      rw [← isAlive] at performed
      simpa only [performAll, List.foldl_append, List.foldl_cons,
        List.foldl_nil] using performed

/--
However a service is started, bound and unbound while its application is
alive: its connections are distinct, and they are those that bound it and have
not since unbound it; `F_BINDED` is set if and only if there are some, and
`F_STARTED` if and only if the service was started; the next call asks the
client to unbind if and only if it takes the last connection away; and the
service is not alive if and only if it was never started and nobody is bound.
-/
theorem serviceRecord_bookkept
    (name : String)
    (token : Nat)
    (priority : ProcessPriority)
    (app : Nat)
    (appRecord : AppRecord)
    (history : List BindingCall) :
    let final :=
      performAll (createdIn name token priority app appRecord) history
    final.service.mConnectRecord.Nodup ∧
      (∀ conn,
        conn ∈ final.service.mConnectRecord ↔ IsBound history conn) ∧
      (final.service.mStartFlag.binded = true ↔
        final.service.mConnectRecord ≠ []) ∧
      (final.service.mStartFlag.started = true ↔ WasStarted history) ∧
      (∀ call : BindingCall,
        (∃ sent ∈ (call.perform final.service final.app).calls,
            sent.isUnbindRequest = true) ↔
          ∃ conn,
            call = .unbind conn ∧
              final.service.mConnectRecord ≠ [] ∧
              (call.perform final.service
                final.app).service.mConnectRecord = []) ∧
      (final.service.isAlive = false ↔
        ¬WasStarted history ∧ ∀ conn, ¬IsBound history conn) := by
  intro final
  obtain ⟨kept, isSome⟩ :=
    performAll_bookkept name token priority app appRecord history
  obtain ⟨alive, isAlive⟩ := Option.isSome_iff_exists.mp isSome
  refine
    ⟨kept.distinct, kept.bound, kept.binded, kept.started, ?_, ?_⟩
  · intro call
    rw [show final.app = some alive from isAlive]
    exact kept.isUnbindRequest_iff alive call
  · rw [← Bool.not_eq_true, kept.isAlive_iff, not_or, not_exists]

end ActivityManager
