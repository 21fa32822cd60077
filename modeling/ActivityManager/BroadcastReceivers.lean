import ActivityManager.AppRecord
import Mathlib.Logic.Function.Basic

/-!
# Receivers of broadcasts

The server keeps a list of receivers for each action and hands a broadcast to
the receivers of its action, in the order of their registration.
`unregisterReceiver` goes through all actions and takes a receiver out of each
list once, so a receiver that registered twice under one action is still
there afterwards.  Receivers are named by numbers, one for each binder.
-/

namespace ActivityManager

/-- `mReceivers`, a map from actions to lists of receivers. -/
abbrev Receivers := String → Option (List Nat)

/-- A receiver is handed an intent. -/
structure Delivery where
  receiver : Nat
  intent : Intent
  deriving Repr, DecidableEq

namespace Receivers

/-- No receiver is registered. -/
def empty : Receivers :=
  fun _ => none

/-- The receivers of an action, in the order of their registration. -/
def registered
    (mReceivers : Receivers)
    (action : String) : List Nat :=
  (mReceivers action).getD []

/-- `ActivityManagerInner::registerReceiver`. -/
def registerReceiver
    (mReceivers : Receivers)
    (action : String)
    (receiver : Nat) : Receivers :=
  match mReceivers action with
  | some receivers =>
      Function.update mReceivers action (some (receivers ++ [receiver]))
  | none =>
      Function.update mReceivers action (some [receiver])

/--
`ActivityManagerInner::unregisterReceiver`: the search in a list stops at the
first match, and an action without receivers is erased.
-/
def unregisterReceiver
    (mReceivers : Receivers)
    (receiver : Nat) : Receivers :=
  fun action =>
    (mReceivers action).bind fun receivers =>
      let left := receivers.erase receiver
      if left.isEmpty then none else some left

/-- `ActivityManagerInner::sendBroadcast`, the calls of `receiveBroadcast`. -/
def sendBroadcast
    (mReceivers : Receivers)
    (intent : Intent) : List Delivery :=
  (mReceivers.registered intent.mAction).map (⟨·, intent⟩)

end Receivers

/-- A call to the server about broadcasts. -/
inductive BroadcastCall where
  | registerReceiver
      (action : String)
      (receiver : Nat)
  | unregisterReceiver (receiver : Nat)
  | sendBroadcast (intent : Intent)
  deriving Repr, DecidableEq

namespace BroadcastCall

/-- What a call does to the receivers. -/
def perform
    (mReceivers : Receivers) : BroadcastCall → Receivers
  | .registerReceiver action receiver =>
      mReceivers.registerReceiver action receiver
  | .unregisterReceiver receiver =>
      mReceivers.unregisterReceiver receiver
  | .sendBroadcast _ =>
      mReceivers

/-- What a call delivers. -/
def deliveries
    (mReceivers : Receivers) : BroadcastCall → List Delivery
  | .sendBroadcast intent =>
      mReceivers.sendBroadcast intent
  | _ =>
      []

/-- A call that registers the receiver. -/
def registers (receiver : Nat) : BroadcastCall → Bool
  | .registerReceiver _ other => other == receiver
  | _ => false

end BroadcastCall

namespace Receivers

/-- The receivers after some calls. -/
def performAll
    (mReceivers : Receivers)
    (calls : List BroadcastCall) : Receivers :=
  calls.foldl BroadcastCall.perform mReceivers

/-- What some calls deliver, one after the other. -/
def deliveries : Receivers → List BroadcastCall → List Delivery
  | _, [] =>
      []
  | mReceivers, call :: rest =>
      call.deliveries mReceivers ++
        deliveries (call.perform mReceivers) rest

variable (mReceivers : Receivers)

/-- The receiver registered with no action more than once. -/
def AtMostOnce (receiver : Nat) : Prop :=
  ∀ action, (mReceivers.registered action).count receiver ≤ 1

/-- The receiver is registered with no action. -/
def IsAbsent (receiver : Nat) : Prop :=
  ∀ action, receiver ∉ mReceivers.registered action

/-! ## One call -/

variable (receiver : Nat)

@[simp] theorem registered_registerReceiver
    (action other : String) :
    (mReceivers.registerReceiver action receiver).registered other =
      if other = action then mReceivers.registered action ++ [receiver]
      else mReceivers.registered other := by
  by_cases isAction : other = action
  · rw [if_pos isAction, isAction, registered, registered, registerReceiver]
    cases mReceivers action with
    | none =>
        simp
    | some receivers =>
        simp
  · rw [if_neg isAction, registered, registered, registerReceiver]
    cases mReceivers action with
    | none =>
        simp [isAction]
    | some receivers =>
        simp [isAction]

@[simp] theorem registered_unregisterReceiver (action : String) :
    (mReceivers.unregisterReceiver receiver).registered action =
      (mReceivers.registered action).erase receiver := by
  rw [registered, registered, unregisterReceiver]
  cases mReceivers action with
  | none =>
      rfl
  | some receivers =>
      simp only [Option.bind_some, Option.getD_some]
      split
      case isTrue isEmpty =>
        exact (List.isEmpty_iff.mp isEmpty).symm
      case isFalse =>
        rfl

/-- No action is left without receivers. -/
theorem unregisterReceiver_ne_nil (action : String) :
    mReceivers.unregisterReceiver receiver action ≠ some [] := by
  intro isEmpty
  rw [unregisterReceiver, Option.bind_eq_some_iff] at isEmpty
  obtain ⟨receivers, -, left⟩ := isEmpty
  dsimp only at left
  split at left
  case isTrue =>
    cases left
  case isFalse someLeft =>
    exact someLeft (List.isEmpty_iff.mpr (Option.some.inj left))

/-- A receiver is absent afterwards if it was there at most once. -/
theorem isAbsent_unregisterReceiver_iff :
    (mReceivers.unregisterReceiver receiver).IsAbsent receiver ↔
      mReceivers.AtMostOnce receiver := by
  refine forall_congr' fun action => ?_
  rw [registered_unregisterReceiver, ← List.count_eq_zero,
    List.count_erase_self]
  omega

/-- The other receivers keep their registrations and their order. -/
theorem unregisterReceiver_others (action : String) :
    ((mReceivers.unregisterReceiver receiver).registered action).filter
        (· ≠ receiver) =
      (mReceivers.registered action).filter (· ≠ receiver) := by
  rw [registered_unregisterReceiver]
  induction mReceivers.registered action with
  | nil =>
      rfl
  | cons first rest inductionHypothesis =>
      by_cases isFirst : first = receiver
      · simp [isFirst]
      · rw [List.erase_cons_tail (by simpa using isFirst)]
        simpa [isFirst] using inductionHypothesis

/-- A broadcast reaches the receivers of its action. -/
theorem mem_sendBroadcast (intent : Intent) :
    (∃ delivery ∈ mReceivers.sendBroadcast intent,
        delivery.receiver = receiver) ↔
      receiver ∈ mReceivers.registered intent.mAction := by
  simp [sendBroadcast]

variable {mReceivers receiver}

/-- Only its registration brings a receiver back. -/
theorem IsAbsent.perform
    (isAbsent : mReceivers.IsAbsent receiver)
    {call : BroadcastCall}
    (notRegisters : call.registers receiver = false) :
    (call.perform mReceivers).IsAbsent receiver := by
  intro action
  cases call with
  | registerReceiver registered other =>
      have isOther : receiver ≠ other := by
        rintro rfl
        simp [BroadcastCall.registers] at notRegisters
      rw [BroadcastCall.perform, registered_registerReceiver]
      split
      · simpa [isOther] using isAbsent registered
      · exact isAbsent action
  | unregisterReceiver other =>
      rw [BroadcastCall.perform, registered_unregisterReceiver]
      exact fun member => isAbsent action (List.mem_of_mem_erase member)
  | sendBroadcast intent =>
      exact isAbsent action

/-! ## Runs -/

/-- An absent receiver is handed nothing until it registers. -/
theorem IsAbsent.deliveries
    (isAbsent : mReceivers.IsAbsent receiver)
    (later : List BroadcastCall)
    (notRegisters : ∀ call ∈ later, call.registers receiver = false) :
    ∀ delivery ∈ mReceivers.deliveries later,
      delivery.receiver ≠ receiver := by
  induction later generalizing mReceivers with
  | nil =>
      exact nofun
  | cons call rest inductionHypothesis =>
      obtain ⟨notFirst, notRest⟩ := List.forall_mem_cons.mp notRegisters
      intro delivery isDelivered
      rcases List.mem_append.mp isDelivered with isFirst | isRest
      · cases call with
        | registerReceiver action other =>
            exact absurd isFirst List.not_mem_nil
        | unregisterReceiver other =>
            exact absurd isFirst List.not_mem_nil
        | sendBroadcast intent =>
            intro isReceiver
            exact isAbsent intent.mAction
              ((mReceivers.mem_sendBroadcast receiver intent).mp
                ⟨delivery, isFirst, isReceiver⟩)
      · exact
          inductionHypothesis (isAbsent.perform notFirst) notRest delivery
            isRest

/-- A registration leaves every listed action a receiver. -/
theorem registerReceiver_ne_nil
    {action : String}
    (nonempty : ∀ other, mReceivers other ≠ some [])
    (other : String) :
    mReceivers.registerReceiver action receiver other ≠ some [] := by
  have someReceiver :
      ∀ receivers : List Nat,
        Function.update mReceivers action
          (some (receivers ++ [receiver])) other ≠ some [] := by
    intro receivers
    by_cases isAction : other = action
    · simp [isAction]
    · rw [Function.update_of_ne isAction]
      exact nonempty other
  rw [registerReceiver]
  cases mReceivers action with
  | none =>
      exact someReceiver []
  | some receivers =>
      exact someReceiver receivers

/-- After any calls every listed action has a receiver. -/
theorem performAll_ne_nil
    (history : List BroadcastCall)
    (action : String) :
    empty.performAll history action ≠ some [] := by
  have kept :
      ∀ mReceivers : Receivers,
        (∀ action, mReceivers action ≠ some []) →
        mReceivers.performAll history action ≠ some [] := by
    induction history with
    | nil =>
        exact fun mReceivers nonempty => nonempty action
    | cons call rest inductionHypothesis =>
        intro mReceivers nonempty
        refine inductionHypothesis (call.perform mReceivers) ?_
        cases call with
        | registerReceiver registered receiver =>
            exact registerReceiver_ne_nil nonempty
        | unregisterReceiver receiver =>
            exact mReceivers.unregisterReceiver_ne_nil receiver
        | sendBroadcast intent =>
            exact nonempty
  exact kept empty (fun _ => nofun)

/--
The receiver is silent after it is unregistered, whatever calls follow, until
it registers again; the registrations of the others are as before, in order;
and every listed action has a receiver.
-/
structure Unregisters
    (mReceivers : Receivers)
    (receiver : Nat) : Prop where
  silent :
    ∀ later : List BroadcastCall,
      (∀ call ∈ later, call.registers receiver = false) →
      ∀ delivery ∈
          (mReceivers.unregisterReceiver receiver).deliveries later,
        delivery.receiver ≠ receiver
  others :
    ∀ action,
      ((mReceivers.unregisterReceiver receiver).registered action).filter
          (· ≠ receiver) =
        (mReceivers.registered action).filter (· ≠ receiver)
  listed :
    ∀ action, mReceivers.unregisterReceiver receiver action ≠ some []

/--
After any calls, a receiver is properly unregistered if and only if it is
registered with no action more than once; and every listed action has a
receiver.
-/
theorem unregisters_iff
    (history : List BroadcastCall)
    (receiver : Nat) :
    ((empty.performAll history).Unregisters receiver ↔
        (empty.performAll history).AtMostOnce receiver) ∧
      ∀ action, empty.performAll history action ≠ some [] := by
  refine ⟨?_, performAll_ne_nil history⟩
  rw [← isAbsent_unregisterReceiver_iff]
  constructor
  · intro unregisters action member
    -- A broadcast of the action would reach the receiver.
    let intent : Intent :=
      { mTarget := "", mAction := action, mData := "", mFlag := 0 }
    obtain ⟨delivery, isDelivered, isReceiver⟩ :=
      (mem_sendBroadcast _ receiver intent).mpr member
    have notRegisters :
        ∀ call ∈ [BroadcastCall.sendBroadcast intent],
          call.registers receiver = false := by
      simp [BroadcastCall.registers]
    exact
      unregisters.silent _ notRegisters delivery
        (List.mem_append_left _ isDelivered) isReceiver
  · intro isAbsent
    exact
      { silent := isAbsent.deliveries
        others := unregisterReceiver_others _ receiver
        listed := unregisterReceiver_ne_nil _ receiver }

/-- A receiver registers twice under one action, and is still there. -/
theorem registered_twice_not_unregisters :
    ¬(empty.performAll
        [.registerReceiver "battery" 1,
          .registerReceiver "battery" 1]).Unregisters 1 := by
  intro unregisters
  let intent : Intent :=
    { mTarget := "", mAction := "battery", mData := "", mFlag := 0 }
  exact
    unregisters.silent [.sendBroadcast intent] (by decide) ⟨1, intent⟩
      (by decide) rfl

end Receivers

end ActivityManager
