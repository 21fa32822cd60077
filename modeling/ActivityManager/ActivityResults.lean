import ActivityManager.ServiceRuns

/-!
# Results of activities

An activity that finishes hands its result to the activity that has started
it, if that asked for one.  No application receives a result that its activity
has not asked for.
-/

namespace ActivityManager

open StepSystem (run? run?_invariant)

namespace ActivityManagerService

variable
  {packages : List PackageInfo}
  {service next : ActivityManagerService}
  {actions : List ServiceAction}

/-- A caller has asked for an activity, with a request code. -/
def HasAsked
    (actions : List ServiceAction)
    (caller : Nat)
    (requestCode : Int) : Prop :=
  ∃ intent launch,
    .startActivity (some caller) intent requestCode launch ∈ actions

/-- What is asked stays asked. -/
theorem HasAsked.append
    {caller : Nat}
    {requestCode : Int}
    (hasAsked : HasAsked actions caller requestCode)
    (action : ServiceAction) :
    HasAsked (actions ++ [action]) caller requestCode := by
  obtain ⟨intent, launch, member⟩ := hasAsked
  exact ⟨intent, launch, List.mem_append_left _ member⟩

/-- The requests that are kept, and the results that answer them. -/
structure KeepsRequests
    (actions : List ServiceAction)
    (service : ActivityManagerService) : Prop where
  requests :
    ∀ activity caller,
      service.mCaller activity = some caller →
      HasAsked actions caller (service.mRequestCode activity)
  results :
    ∀ result ∈ service.results,
      result.requestCode ≠ noRequest ∧
        HasAsked actions result.mToken result.requestCode

namespace KeepsRequests

/-- The functions of the interface answer requests that are kept. -/
theorem conduct
    (before : KeepsRequests actions service)
    (conduct : Conduct service next) :
    KeepsRequests actions next where
  requests activity caller isCaller := by
    obtain ⟨wasCaller, sameCode⟩ := conduct.requests activity caller isCaller
    rw [sameCode]
    exact before.requests activity caller wasCaller
  results := by
    obtain ⟨results, isNext, areAnswers⟩ := conduct.results
    intro result member
    rw [isNext] at member
    obtain isOld | isNew := List.mem_append.mp member
    · exact before.results result isOld
    · obtain ⟨isAsked, activity, isCaller, isCode⟩ :=
        areAnswers result isNew
      refine ⟨isAsked, ?_⟩
      rw [← isCode]
      exact before.requests activity result.mToken isCaller

theorem append
    (before : KeepsRequests actions service)
    (action : ServiceAction) :
    KeepsRequests (actions ++ [action]) service where
  requests activity caller isCaller :=
    (before.requests activity caller isCaller).append action
  results result member :=
    ⟨(before.results result member).1,
      (before.results result member).2.append action⟩

/-- The arguments of a request are those of its action. -/
theorem keepRequest
    {caller : Option Nat}
    {requestCode : Int}
    (before : KeepsRequests actions service)
    (asked :
      ∀ activity,
        caller = some activity → HasAsked actions activity requestCode)
    (inner : ActivityManagerInner) :
    KeepsRequests actions
      (service.keepRequest inner caller requestCode) where
  requests activity callActivity isCaller := by
    unfold ActivityManagerService.keepRequest at isCaller ⊢
    dsimp only at isCaller ⊢
    split at isCaller
    · rename_i sameNumber
      rw [if_pos sameNumber]
      exact before.requests activity callActivity isCaller
    · rename_i newNumber
      rw [if_neg newNumber]
      dsimp only at isCaller ⊢
      by_cases isNew : activity = inner.manager.nextActivity
      · rw [isNew, Function.update_self] at isCaller
        rw [isNew, Function.update_self]
        exact asked callActivity isCaller
      · rw [Function.update_of_ne isNew] at isCaller
        rw [Function.update_of_ne isNew]
        exact before.requests activity callActivity isCaller
  results := by
    rw [keepRequest_results]
    exact before.results

/-- Processes have nothing to do with it. -/
theorem of_same
    (before : KeepsRequests actions service)
    (sameCaller : next.mCaller = service.mCaller)
    (sameCode : next.mRequestCode = service.mRequestCode)
    (sameResults : next.results = service.results) :
    KeepsRequests actions next where
  requests := by
    rw [sameCaller, sameCode]
    exact before.requests
  results := by
    rw [sameResults]
    exact before.results

/-- Every step keeps the requests. -/
theorem step
    {action : ServiceAction}
    (before : KeepsRequests actions service)
    (isNext : service.step? packages action = some next) :
    KeepsRequests (actions ++ [action]) next := by
  have later := before.append action
  cases isApart : action.isApart with
  | false =>
      exact later.conduct (step?_conduct isApart isNext)
  | true =>
      cases action with
      | attachApplication callerPid isSystemUI =>
          cases attachApplication_cases isNext with
          | ignored =>
              exact later
          | announced _ _ _ =>
              exact later.of_same rfl rfl rfl
      | startActivity caller intent requestCode launch =>
          obtain ⟨started, conduct, ends⟩ := startActivity_cases isNext
          have kept := later.conduct conduct
          rcases ends with rfl | rfl
          · exact kept
          · refine kept.keepRequest ?_ _
            rintro activity rfl
            exact
              ⟨intent, launch,
                List.mem_append_right _ (List.mem_singleton_self _)⟩
      | childExit pid launch =>
          obtain ⟨inner, _, conduct⟩ := childExit_cases isNext
          refine KeepsRequests.conduct ?_ conduct
          unfold announceExit
          split <;> exact later.of_same rfl rfl rfl
      | sendBroadcast intent =>
          rw [← Option.some.inj isNext]
          exact later.of_same rfl rfl rfl
      | registerReceiver action receiver =>
          rw [← Option.some.inj isNext]
          exact later.of_same rfl rfl rfl
      | unregisterReceiver receiver =>
          rw [← Option.some.inj isNext]
          exact later.of_same rfl rfl rfl
      | _ =>
          cases isApart

end KeepsRequests

/--
In every run, whoever receives a result has asked for it: its activity has
started an activity with the request code of the result, and that code is not
`NO_REQUEST`.
-/
theorem results_of_run
    (packages : List PackageInfo)
    (lines : List LmkRow)
    (arena : Int)
    (now : Nat)
    (mRunMode : Int)
    (actions : List ServiceAction)
    (service : ActivityManagerService)
    (accepted :
      run? (step? packages) (start lines arena now mRunMode) actions =
        some service) :
    ∀ result ∈ service.results,
      result.requestCode ≠ noRequest ∧
        HasAsked actions result.mToken result.requestCode := by
  have kept : KeepsRequests actions service := by
    refine run?_invariant ?_ ?_ accepted
    · exact
        { requests := by
            intro activity caller isCaller
            cases isCaller
          results := List.forall_mem_nil _ }
    · intro former middle action after before isNext
      exact before.step isNext
  exact kept.results

/-- A package with an activity that others ask for pictures. -/
def galleryPackage : PackageInfo :=
  { ActivityManagerInner.musicPackage with
    packageName := "gallery"
    entry := "pick"
    activitiesInfo :=
      [{ name := "pick", launchMode := "standard", taskAffinity := "" }]
    servicesInfo := [] }

/-- The music player asks for a picture, and the gallery picks one. -/
def pickActions : List ServiceAction :=
  [.startActivity none musicIntent noRequest ⟨true, some 11⟩,
    .attachApplication 11 false,
    .startActivity (some 0) { musicIntent with mTarget := "gallery/pick" }
      7 ⟨true, some 12⟩,
    .attachApplication 12 false,
    .finishActivity 1 3 (some musicIntent)]

/-- The music player has got it. -/
def pickedPicture : Option ActivityManagerService :=
  run? (step? [ActivityManagerInner.musicPackage, galleryPackage])
    (start [] 0 0 0) pickActions

/-- It receives one result, which it has asked for. -/
theorem pickedPicture_results :
    (pickedPicture.get rfl).results.length = 1 ∧
      ∀ result ∈ (pickedPicture.get rfl).results,
        result.requestCode ≠ noRequest ∧
          HasAsked pickActions result.mToken result.requestCode := by
  have accepted : pickedPicture = some (pickedPicture.get rfl) :=
    (Option.some_get _).symm
  have asked :=
    results_of_run [ActivityManagerInner.musicPackage, galleryPackage] [] 0
      0 0 pickActions _ accepted
  exact ⟨by decide, asked⟩

end ActivityManagerService

end ActivityManager
