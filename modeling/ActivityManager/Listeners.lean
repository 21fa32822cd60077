import ActivityManager.AppBroadcasts

/-!
# Listeners

A receiver that is registered once for an action hears every broadcast that
the service makes of it, once and in order.  One that has listened to the
starts and exits of applications from the beginning knows which are there,
as long as nobody else broadcasts these actions.
-/

namespace ActivityManager

open StepSystem (run? run?_append AllowedRun Reachable)

/-- What a delivery tells a receiver about an action. -/
def Delivery.heardBy?
    (receiver : Nat)
    (action : String)
    (delivery : Delivery) : Option Intent :=
  if delivery.receiver = receiver ∧ delivery.intent.mAction = action then
    some delivery.intent
  else
    none

/-- A broadcast is heard as often as the receiver is registered. -/
theorem Receivers.sendBroadcast_heardBy?
    (mReceivers : Receivers)
    (receiver : Nat)
    (intent : Intent) :
    (mReceivers.sendBroadcast intent).filterMap
        (Delivery.heardBy? receiver intent.mAction) =
      List.replicate
        ((mReceivers.registered intent.mAction).count receiver) intent := by
  unfold sendBroadcast
  induction mReceivers.registered intent.mAction with
  | nil =>
      rfl
  | cons first rest inductionHypothesis =>
      rw [List.map_cons, List.count_cons]
      by_cases isFirst : first = receiver
      · have heard :
            Delivery.heardBy? receiver intent.mAction ⟨first, intent⟩ =
              some intent :=
          if_pos ⟨isFirst, rfl⟩
        rw [List.filterMap_cons_some heard, inductionHypothesis,
          if_pos (beq_iff_eq.mpr isFirst), List.replicate_succ]
      · have notHeard :
            Delivery.heardBy? receiver intent.mAction ⟨first, intent⟩ =
              none :=
          if_neg fun heard => isFirst heard.1
        rw [List.filterMap_cons_none notHeard, inductionHypothesis,
          if_neg (by simpa using isFirst), Nat.add_zero]

/-- A broadcast of another action is not heard. -/
theorem Receivers.sendBroadcast_notHeard
    (mReceivers : Receivers)
    (receiver : Nat)
    {action : String}
    {intent : Intent}
    (isOther : intent.mAction ≠ action) :
    (mReceivers.sendBroadcast intent).filterMap
        (Delivery.heardBy? receiver action) = [] := by
  rw [List.filterMap_eq_nil_iff]
  intro delivery member
  obtain ⟨other, _, rfl⟩ := List.mem_map.mp member
  exact if_neg fun heard => isOther heard.2

namespace ServiceAction

/-- The action is not about a receiver and what it hears of an action. -/
def leaves
    (receiver : Nat)
    (action : String) : ServiceAction → Bool
  | .registerReceiver other newReceiver =>
      other != action || newReceiver != receiver
  | .unregisterReceiver other => other != receiver
  | .sendBroadcast intent => intent.mAction != action
  | _ => true

end ServiceAction

namespace ActivityManagerService

variable
  {packages : List PackageInfo}
  {service next : ActivityManagerService}
  {receiver : Nat}
  {action : String}

/-- What a receiver has heard of an action, in order. -/
def heard
    (service : ActivityManagerService)
    (receiver : Nat)
    (action : String) : List Intent :=
  service.deliveries.filterMap (Delivery.heardBy? receiver action)

/-- The receiver is registered once, and has heard all from the service. -/
structure Listens
    (service : ActivityManagerService)
    (receiver : Nat)
    (action : String) : Prop where
  registered : (service.mReceivers.registered action).count receiver = 1
  heard :
    service.heard receiver action =
      service.announced.filter (·.mAction == action)

namespace Listens

/-- What the service broadcasts is heard once. -/
theorem broadcasts
    {sent : List Intent}
    (before : Listens service receiver action)
    (broadcasts : Broadcasts service next sent) :
    Listens next receiver action where
  registered := by
    rw [broadcasts.mReceivers]
    exact before.registered
  heard := by
    have heardSent :
        (sent.flatMap service.mReceivers.sendBroadcast).filterMap
            (Delivery.heardBy? receiver action) =
          sent.filter (·.mAction == action) := by
      clear broadcasts
      induction sent with
      | nil =>
          rfl
      | cons intent rest inductionHypothesis =>
          rw [List.flatMap_cons, List.filterMap_append,
            inductionHypothesis]
          by_cases isAction : intent.mAction = action
          · subst isAction
            rw [Receivers.sendBroadcast_heardBy?, before.registered,
              List.filter_cons_of_pos (by simp)]
            rfl
          · rw [Receivers.sendBroadcast_notHeard _ _ isAction,
              List.filter_cons_of_neg (by simpa using isAction)]
            rfl
    rw [ActivityManagerService.heard, broadcasts.deliveries,
      broadcasts.announced, List.filterMap_append, heardSent,
      List.filter_append, ← before.heard]
    rfl

/-- An action of `inner` is no broadcast. -/
theorem become
    (before : Listens service receiver action)
    (innerAction : InnerAction)
    (inner : ActivityManagerInner) :
    Listens (service.become innerAction inner) receiver action where
  registered := before.registered
  heard := before.heard

/-- A broadcast that somebody else makes of another action. -/
theorem sendBroadcast
    (before : Listens service receiver action)
    {intent : Intent}
    (isOther : intent.mAction ≠ action) :
    Listens (service.sendBroadcast intent) receiver action where
  registered := before.registered
  heard := by
    refine Eq.trans ?_ before.heard
    unfold ActivityManagerService.heard ActivityManagerService.sendBroadcast
    dsimp only
    rw [List.filterMap_append, Receivers.sendBroadcast_notHeard _ _ isOther,
      List.append_nil]

/-- A step that leaves the receiver alone. -/
theorem step
    {serviceAction : ServiceAction}
    (before : Listens service receiver action)
    (leaves : serviceAction.leaves receiver action = true)
    (isNext : service.step? packages serviceAction = some next) :
    Listens next receiver action := by
  cases isApart : serviceAction.isApart with
  | false =>
      obtain ⟨_, broadcasts⟩ := (step?_conduct isApart isNext).broadcasts
      exact before.broadcasts broadcasts
  | true =>
      cases serviceAction with
      | attachApplication callerPid isSystemUI =>
          cases attachApplication_cases isNext with
          | ignored =>
              exact before
          | announced _ _ _ =>
              exact (before.become _ _).broadcasts (.announce _ _ _)
      | startActivity caller intent requestCode launch =>
          obtain ⟨started, conduct, ends⟩ := startActivity_cases isNext
          obtain ⟨_, broadcasts⟩ := conduct.broadcasts
          have kept := before.broadcasts broadcasts
          rcases ends with rfl | rfl
          · exact kept
          · exact
              kept.broadcasts
                (.none (keepRequest_announced _ _ _ _)
                  (keepRequest_deliveries _ _ _ _)
                  (keepRequest_mReceivers _ _ _ _))
      | childExit pid launch =>
          obtain ⟨inner, _, conduct⟩ := childExit_cases isNext
          obtain ⟨_, broadcasts⟩ := conduct.broadcasts
          have told :
              Listens
                ((service.become (.childExit pid) inner).announceExit
                  (service.inner.appName pid))
                receiver action := by
            unfold announceExit
            split
            · exact (before.become _ _).broadcasts (.announce _ _ _)
            · exact before.become _ _
          exact told.broadcasts broadcasts
      | sendBroadcast intent =>
          rw [← Option.some.inj isNext]
          exact before.sendBroadcast (bne_iff_ne.mp leaves)
      | registerReceiver other newReceiver =>
          rw [← Option.some.inj isNext]
          refine { registered := ?_, heard := before.heard }
          rw [Receivers.registered_registerReceiver]
          split
          · rename_i isAction
            have isOther : newReceiver ≠ receiver := by
              simpa [ServiceAction.leaves, isAction] using leaves
            rw [List.count_append, List.count_singleton,
              if_neg (by simpa using isOther), ← isAction]
            exact before.registered
          · exact before.registered
      | unregisterReceiver other =>
          rw [← Option.some.inj isNext]
          refine { registered := ?_, heard := before.heard }
          rw [Receivers.registered_unregisterReceiver,
            List.count_erase_of_ne (bne_iff_ne.mp leaves).symm]
          exact before.registered
      | _ =>
          cases isApart

/-- That holds of whole runs. -/
theorem run
    {actions : List ServiceAction}
    (before : Listens service receiver action)
    (leave :
      ∀ serviceAction ∈ actions,
        serviceAction.leaves receiver action = true)
    (isNext : run? (step? packages) service actions = some next) :
    Listens next receiver action := by
  induction actions generalizing service with
  | nil =>
      rw [← Option.some.inj isNext]
      exact before
  | cons first rest inductionHypothesis =>
      rw [run?] at isNext
      split at isNext
      · cases isNext
      · rename_i middle isMiddle
        have leaves := leave first List.mem_cons_self
        refine inductionHypothesis (before.step leaves isMiddle) ?_ isNext
        intro other member
        exact leave other (List.mem_cons_of_mem _ member)

end Listens

/-- The receiver registers for the starts and exits of applications. -/
def listening (receiver : Nat) : List ServiceAction :=
  [.registerReceiver Intent.broadcastAppStart receiver,
    .registerReceiver Intent.broadcastAppExit receiver]

/-- What happens to the music player while somebody listens. -/
def musicCrashes : List ServiceAction :=
  [.startActivity none musicIntent noRequest ⟨true, some 11⟩,
    .attachApplication 11 false,
    .sendBroadcast (.ofAction "volume" "up"),
    .childExit 11 ⟨true, none⟩]

/-- The listener has heard of the start and the exit. -/
def heardMusic : Option ActivityManagerService :=
  run? (step? [ActivityManagerInner.musicPackage]) (start [] 0 0 0)
    (listening 9 ++ musicCrashes)

end ActivityManagerService

end ActivityManager
