import ActivityManager.ServiceConduct

/-!
# Runs of the interface

Every step of the interface is a run of `ActivityManagerInner`, so whatever
holds of all its runs holds at the interface too, under the same assumptions
about its surroundings.
-/

namespace ActivityManager

open StepSystem (run? AllowedRun Reachable)
open PartialProgram (Spec)

namespace ServiceAction

/--
A process attaches or exits, an activity may ask for a result, or it is about
broadcasts.
-/
def isApart : ServiceAction → Bool
  | .attachApplication _ _ => true
  | .startActivity _ _ _ _ => true
  | .childExit _ _ => true
  | .sendBroadcast _ => true
  | .registerReceiver _ _ => true
  | .unregisterReceiver _ => true
  | _ => false

end ServiceAction

namespace ActivityManagerService

variable
  {packages : List PackageInfo}
  {service next : ActivityManagerService}

/-- The functions of the interface that have nothing apart. -/
theorem step?_conduct
    {action : ServiceAction}
    (notApart : action.isApart = false)
    (isNext : service.step? packages action = some next) :
    Conduct service next := by
  cases action with
  | attachApplication callerPid isSystemUI =>
      cases notApart
  | startActivity caller intent requestCode launch =>
      cases notApart
  | childExit pid launch =>
      cases notApart
  | stopActivity intent resultCode =>
      exact
        ((stopActivity_conduct service intent resultCode).map
          fun _ conduct => conduct).of_result isNext
  | stopApplication token =>
      exact
        ((stopApplication_conduct service token).map
          fun _ conduct => conduct).of_result isNext
  | finishActivity token resultCode resultData =>
      exact
        ((finishActivity_conduct service token resultCode resultData).map
          fun _ conduct => conduct).of_result isNext
  | moveActivityTaskToBackground token nonRoot =>
      exact
        ((moveActivityTaskToBackground_conduct service token nonRoot).map
          fun _ conduct => conduct).of_result isNext
  | reportActivityStatus token status =>
      exact (reportActivityStatus_conduct service token status).of_result
        isNext
  | requestService intent request launch =>
      exact
        ((requestService_conduct service packages intent request launch).map
          fun _ conduct => conduct).of_result isNext
  | stopService intent =>
      exact
        ((stopService_conduct service packages intent).map
          fun _ conduct => conduct).of_result isNext
  | stopServiceByToken token =>
      exact (act_conduct rfl).of_result isNext
  | unbindService conn =>
      exact (act_conduct rfl).of_result isNext
  | publishService token serviceBinder =>
      exact (act_conduct rfl).of_result isNext
  | reportServiceStatus token status =>
      exact (act_conduct rfl).of_result isNext
  | postIntent intent =>
      exact
        ((postIntent_conduct service intent).map
          fun _ conduct => conduct).of_result isNext
  | sendBroadcast intent =>
      cases notApart
  | registerReceiver action receiver =>
      cases notApart
  | unregisterReceiver receiver =>
      cases notApart
  | systemReady launches =>
      exact (systemReady_conduct service packages launches).of_result isNext
  | timeout serial =>
      exact (act_conduct rfl).of_result isNext
  | clockAdvances ms =>
      exact (act_conduct rfl).of_result isNext
  | executeLMK freememory maxblock =>
      exact (act_conduct rfl).of_result isNext
  | holdTasks tasks =>
      exact (act_conduct rfl).of_result isNext

/-! ## The steps that are apart -/

/-- What becomes of a process that attaches. -/
inductive Attached
    (service : ActivityManagerService)
    (callerPid : Nat)
    (isSystemUI : Bool) :
    ActivityManagerService → Prop where
  | ignored :
      Attached service callerPid isSystemUI service
  | announced
      {packageName : String}
      {inner : ActivityManagerInner} :
      service.inner.findAppInfo callerPid = none →
      service.inner.getAttachingAppName callerPid = some packageName →
      service.inner.step? (.attachApplication callerPid isSystemUI) =
        some inner →
      Attached service callerPid isSystemUI
        ((service.become (.attachApplication callerPid isSystemUI)
          inner).announce Intent.broadcastAppStart packageName)

theorem attachApplication_cases
    {callerPid : Nat}
    {isSystemUI : Bool}
    (isNext : service.attachApplication callerPid isSystemUI = some next) :
    Attached service callerPid isSystemUI next := by
  unfold attachApplication at isNext
  split at isNext
  · rw [← Option.some.inj isNext]
    exact .ignored
  · rename_i notKnown
    split at isNext
    · rename_i packageName isWaiting
      obtain ⟨attached, isAttached, ends⟩ :=
        Option.bind_eq_some_iff.mp isNext
      obtain ⟨inner, isInner, rfl⟩ := Option.map_eq_some_iff.mp isAttached
      rw [← Option.some.inj ends]
      exact .announced notKnown isWaiting isInner
    · rw [← Option.some.inj isNext]
      exact .ignored

/-- A process exits, and then the home activity may start. -/
theorem childExit_cases
    {pid : Nat}
    {launch : Launch}
    (isNext : service.childExit packages pid launch = some next) :
    ∃ inner,
      service.inner.step? (.childExit pid) = some inner ∧
        Conduct
          ((service.become (.childExit pid) inner).announceExit
            (service.inner.appName pid))
          next := by
  obtain ⟨exited, isExited, ends⟩ := Option.bind_eq_some_iff.mp isNext
  obtain ⟨inner, isInner, rfl⟩ := Option.map_eq_some_iff.mp isExited
  refine ⟨inner, isInner, ?_⟩
  unfold restartHome at ends
  split at ends
  · exact
      ((startActivity_conduct _ packages _ _ launch).map
        fun _ conduct => conduct).of_result ends
  · rw [← Option.some.inj ends]
    exact .refl _

/-- A request for an activity. -/
theorem startActivity_cases
    {caller : Option Nat}
    {intent : Intent}
    {requestCode : Int}
    {launch : Launch}
    (isNext :
      (service.startActivity packages caller intent requestCode
        launch).map Prod.fst = some next) :
    ∃ started,
      Conduct service started ∧
        (next = started ∨
          next =
            started.keepRequest service.inner caller requestCode) := by
  obtain ⟨result, isResult, rfl⟩ := Option.map_eq_some_iff.mp isNext
  exact
    (startActivity_spec service packages caller intent requestCode
      launch).of_result isResult

/-! ## The interface refines `ActivityManagerInner` -/

/-- Every step is a run of `inner`. -/
theorem step?_performs
    {action : ServiceAction}
    (isNext : service.step? packages action = some next) :
    ∃ actions, Performs service next actions := by
  cases isApart : action.isApart with
  | false =>
      obtain ⟨actions, performs, _⟩ :=
        (step?_conduct isApart isNext).performs
      exact ⟨actions, performs⟩
  | true =>
      cases action with
      | attachApplication callerPid isSystemUI =>
          cases attachApplication_cases isNext with
          | ignored =>
              exact ⟨[], .none rfl rfl⟩
          | announced _ _ isInner =>
              exact ⟨_, (Performs.one isInner).trans (.none rfl rfl)⟩
      | startActivity caller intent requestCode launch =>
          obtain ⟨started, conduct, ends⟩ := startActivity_cases isNext
          obtain ⟨actions, performs, _⟩ := conduct.performs
          rcases ends with rfl | rfl
          · exact ⟨actions, performs⟩
          · exact
              ⟨_, performs.trans
                (.none (keepRequest_history _ _ _ _)
                  (keepRequest_inner _ _ _ _))⟩
      | childExit pid launch =>
          obtain ⟨inner, isInner, conduct⟩ := childExit_cases isNext
          obtain ⟨actions, performs, _⟩ := conduct.performs
          have told :
              Performs (service.become (.childExit pid) inner)
                ((service.become (.childExit pid) inner).announceExit
                  (service.inner.appName pid)) [] := by
            unfold announceExit
            split <;> exact .none rfl rfl
          exact ⟨_, ((Performs.one isInner).trans told).trans performs⟩
      | sendBroadcast intent =>
          rw [← Option.some.inj isNext]
          exact ⟨[], .none rfl rfl⟩
      | registerReceiver action receiver =>
          rw [← Option.some.inj isNext]
          exact ⟨[], .none rfl rfl⟩
      | unregisterReceiver receiver =>
          rw [← Option.some.inj isNext]
          exact ⟨[], .none rfl rfl⟩
      | _ =>
          cases isApart

/-- The actions of `inner` that a step performs. -/
def performed
    (packages : List PackageInfo)
    (service : ActivityManagerService)
    (action : ServiceAction) : List InnerAction :=
  match service.step? packages action with
  | some next => next.history.drop service.history.length
  | none => []

/-- Each action of `inner` is one that its surroundings allow. -/
def Allows
    (packages : List PackageInfo)
    (allowed : ActivityManagerInner → InnerAction → Prop)
    (service : ActivityManagerService)
    (action : ServiceAction) : Prop :=
  AllowedRun ActivityManagerInner.step? allowed service.inner
    (service.performed packages action)

instance decidableAllows
    (packages : List PackageInfo)
    (allowed : ActivityManagerInner → InnerAction → Prop)
    [∀ inner action, Decidable (allowed inner action)]
    (service : ActivityManagerService)
    (action : ServiceAction) :
    Decidable (Allows packages allowed service action) :=
  inferInstanceAs (Decidable (AllowedRun _ _ _ _))

/-- A step is an allowed run of `inner`. -/
theorem Allows.exists_run
    {allowed : ActivityManagerInner → InnerAction → Prop}
    {action : ServiceAction}
    (isAllowed : Allows packages allowed service action)
    (isNext : service.step? packages action = some next) :
    ∃ actions,
      AllowedRun ActivityManagerInner.step? allowed service.inner actions ∧
        run? ActivityManagerInner.step? service.inner actions =
          some next.inner := by
  obtain ⟨actions, performs⟩ := step?_performs isNext
  refine ⟨actions, ?_, performs.runs⟩
  have isPerformed : service.performed packages action = actions := by
    rw [performed, isNext]
    dsimp only
    rw [performs.history, List.drop_left]
  rw [← isPerformed]
  exact isAllowed

/--
The interface refines `ActivityManagerInner`: what its calls reach, together
with the processes and the surroundings, is reached by steps of
`ActivityManagerInner` that are allowed.
-/
theorem inner_reachable
    (packages : List PackageInfo)
    (allowed : ActivityManagerInner → InnerAction → Prop)
    (initial service : ActivityManagerService)
    (reachable :
      Reachable (step? packages) (Allows packages allowed) initial
        service) :
    Reachable ActivityManagerInner.step? allowed initial.inner
      service.inner := by
  refine Reachable.of_simulation inner ?_ reachable
  intro state action next isAllowed isNext
  exact isAllowed.exists_run isNext

/-- An intent for the music player. -/
def musicIntent : Intent where
  mTarget := "music/main"
  mAction := ""
  mData := ""
  mFlag := 0

/-- The music player starts, and its process crashes. -/
def crashedMusic : Option ActivityManagerService :=
  run? (step? [ActivityManagerInner.musicPackage]) (start [] 0 0 0)
    [.startActivity none musicIntent noRequest ⟨true, some 11⟩,
      .attachApplication 11 false,
      .requestService { musicIntent with mTarget := "music/player" } .start
        ⟨true, none⟩,
      .childExit 11 ⟨true, none⟩]

/-- Its pids are those of new processes, and so `inner` permits its run. -/
theorem crashedMusic_inner_reachable :
    Reachable ActivityManagerInner.step? ActivityManagerInner.Permitted
      (ActivityManagerInner.start [] 0 0) (crashedMusic.get rfl).inner := by
  have accepted : crashedMusic = some (crashedMusic.get rfl) :=
    (Option.some_get _).symm
  exact
    inner_reachable [ActivityManagerInner.musicPackage]
      ActivityManagerInner.Permitted (start [] 0 0 0) _
      (Reachable.of_run? (by decide) accepted)

end ActivityManagerService

end ActivityManager
