import ActivityManager.ActivityManagerService
import ActivityManager.ListedApplications

/-!
# What the interface does to the service

Whatever the interface is asked for, it performs some actions of
`ActivityManagerInner`, hands out some results and broadcasts some names.
`Conduct` collects what all of its functions have in common; only a process
that attaches or exits is apart.
-/

namespace ActivityManager

open StepSystem (run? run?_append Reachable)
open PartialProgram (Spec)

namespace ActivityManagerService

/-- `inner` performs some actions, and the history has them. -/
structure Performs
    (service next : ActivityManagerService)
    (actions : List InnerAction) : Prop where
  history : next.history = service.history ++ actions
  runs :
    run? ActivityManagerInner.step? service.inner actions =
      some next.inner

namespace Performs

variable
  {service middle next : ActivityManagerService}
  {actions later : List InnerAction}

/-- Nothing is done to `inner`. -/
theorem none
    (sameHistory : next.history = service.history)
    (sameInner : next.inner = service.inner) :
    Performs service next [] where
  history := sameHistory.trans (List.append_nil _).symm
  runs := congrArg some sameInner.symm

/-- One action. -/
theorem one
    {action : InnerAction}
    {inner : ActivityManagerInner}
    (isNext : service.inner.step? action = some inner) :
    Performs service (service.become action inner) [action] where
  history := rfl
  runs := by
    simp only [run?, isNext]
    rfl

/-- One after the other. -/
theorem trans
    (former : Performs service middle actions)
    (latter : Performs middle next later) :
    Performs service next (actions ++ later) where
  history := by
    rw [latter.history, former.history, List.append_assoc]
  runs := by
    rw [run?_append, former.runs, Option.bind_some, latter.runs]

end Performs

/-- Some intents have been broadcast, to those who are registered. -/
structure Broadcasts
    (service next : ActivityManagerService)
    (sent : List Intent) : Prop where
  announced : next.announced = service.announced ++ sent
  deliveries :
    next.deliveries =
      service.deliveries ++ sent.flatMap service.mReceivers.sendBroadcast
  mReceivers : next.mReceivers = service.mReceivers

namespace Broadcasts

variable
  {service middle next : ActivityManagerService}
  {sent later : List Intent}

/-- Nothing is broadcast. -/
theorem none
    (sameAnnounced : next.announced = service.announced)
    (sameDeliveries : next.deliveries = service.deliveries)
    (sameReceivers : next.mReceivers = service.mReceivers) :
    Broadcasts service next [] where
  announced := sameAnnounced.trans (List.append_nil _).symm
  deliveries := sameDeliveries.trans (List.append_nil _).symm
  mReceivers := sameReceivers

/-- One broadcast of the service itself. -/
theorem announce
    (service : ActivityManagerService)
    (action mData : String) :
    Broadcasts service (service.announce action mData)
      [.ofAction action mData] where
  announced := rfl
  deliveries := by
    rw [List.flatMap_singleton]
    rfl
  mReceivers := rfl

/-- One after the other. -/
theorem trans
    (former : Broadcasts service middle sent)
    (latter : Broadcasts middle next later) :
    Broadcasts service next (sent ++ later) where
  announced := by
    rw [latter.announced, former.announced, List.append_assoc]
  deliveries := by
    rw [latter.deliveries, former.deliveries, former.mReceivers,
      List.append_assoc, List.flatMap_append]
  mReceivers := latter.mReceivers.trans former.mReceivers

end Broadcasts

/-- A result for a caller that has asked for it. -/
structure Answers
    (service : ActivityManagerService)
    (result : ActivityResult) : Prop where
  isAsked : result.requestCode ≠ noRequest
  request :
    ∃ activity,
      service.mCaller activity = some result.mToken ∧
        service.mRequestCode activity = result.requestCode

/-- What the functions of the interface have in common. -/
structure Conduct (service next : ActivityManagerService) : Prop where
  performs :
    ∃ actions,
      Performs service next actions ∧
        ∀ action ∈ actions, action.isOrdinary = true
  broadcasts :
    ∃ names : List String,
      Broadcasts service next
        (names.map (Intent.ofAction Intent.broadcastTopActivity))
  results :
    ∃ results : List ActivityResult,
      next.results = service.results ++ results ∧
        ∀ result ∈ results, service.Answers result
  mRunMode : next.mRunMode = service.mRunMode
  requests :
    ∀ activity caller,
      next.mCaller activity = some caller →
      service.mCaller activity = some caller ∧
        next.mRequestCode activity = service.mRequestCode activity

namespace Conduct

variable {service middle next : ActivityManagerService}

/-- Nothing happens that matters here. -/
theorem of_same
    (sameInner : next.inner = service.inner)
    (sameHistory : next.history = service.history)
    (silent : Broadcasts service next [])
    (sameResults : next.results = service.results)
    (sameMode : next.mRunMode = service.mRunMode)
    (sameCaller : next.mCaller = service.mCaller)
    (sameCode : next.mRequestCode = service.mRequestCode) :
    Conduct service next where
  performs := ⟨[], .none sameHistory sameInner, List.forall_mem_nil _⟩
  broadcasts := ⟨[], silent⟩
  results :=
    ⟨[], sameResults.trans (List.append_nil _).symm, List.forall_mem_nil _⟩
  mRunMode := sameMode
  requests activity _ isCaller :=
    ⟨sameCaller ▸ isCaller, congrFun sameCode activity⟩

theorem refl (service : ActivityManagerService) :
    Conduct service service :=
  .of_same rfl rfl (.none rfl rfl rfl) rfl rfl rfl rfl

theorem trans
    (former : Conduct service middle)
    (latter : Conduct middle next) :
    Conduct service next where
  performs := by
    obtain ⟨first, firstPerforms, firstOrdinary⟩ := former.performs
    obtain ⟨second, secondPerforms, secondOrdinary⟩ := latter.performs
    refine ⟨first ++ second, firstPerforms.trans secondPerforms, ?_⟩
    intro action member
    obtain inFirst | inSecond := List.mem_append.mp member
    · exact firstOrdinary action inFirst
    · exact secondOrdinary action inSecond
  broadcasts := by
    obtain ⟨first, isFirst⟩ := former.broadcasts
    obtain ⟨second, isSecond⟩ := latter.broadcasts
    refine ⟨first ++ second, ?_⟩
    rw [List.map_append]
    exact isFirst.trans isSecond
  results := by
    obtain ⟨first, isFirst, firstAnswers⟩ := former.results
    obtain ⟨second, isSecond, secondAnswers⟩ := latter.results
    refine ⟨first ++ second, ?_, ?_⟩
    · rw [isSecond, isFirst, List.append_assoc]
    · intro result member
      obtain inFirst | inSecond := List.mem_append.mp member
      · exact firstAnswers result inFirst
      · obtain ⟨isAsked, activity, isCaller, isCode⟩ :=
          secondAnswers result inSecond
        obtain ⟨wasCaller, sameCode⟩ :=
          former.requests activity result.mToken isCaller
        exact ⟨isAsked, activity, wasCaller, sameCode.symm.trans isCode⟩
  mRunMode := latter.mRunMode.trans former.mRunMode
  requests activity caller isCaller := by
    obtain ⟨wasCaller, sameCode⟩ :=
      latter.requests activity caller isCaller
    obtain ⟨atFirst, sameFirst⟩ :=
      former.requests activity caller wasCaller
    exact ⟨atFirst, sameCode.trans sameFirst⟩

end Conduct

/-! ## The parts of the interface -/

variable {service next : ActivityManagerService}

/-- An ordinary action of `inner`. -/
theorem act_conduct
    {action : InnerAction}
    (isOrdinary : action.isOrdinary = true) :
    Spec True (service.act action) (Conduct service) := by
  unfold act
  cases isNext : service.inner.step? action with
  | none =>
      trivial
  | some inner =>
      exact
        { performs :=
            ⟨[action], .one isNext, by
              intro other member
              rw [List.mem_singleton.mp member]
              exact isOrdinary⟩
          broadcasts := ⟨[], .none rfl rfl rfl⟩
          results := ⟨[], (List.append_nil _).symm, List.forall_mem_nil _⟩
          mRunMode := rfl
          requests := fun _ _ isCaller => ⟨isCaller, rfl⟩ }

/-- A broadcast of the name of an activity. -/
theorem announceTop_conduct
    (service : ActivityManagerService)
    (name : String) :
    Conduct service
      (service.announce Intent.broadcastTopActivity name) where
  performs := ⟨[], .none rfl rfl, List.forall_mem_nil _⟩
  broadcasts := ⟨[name], .announce service _ name⟩
  results := ⟨[], (List.append_nil _).symm, List.forall_mem_nil _⟩
  mRunMode := rfl
  requests _ _ isCaller := ⟨isCaller, rfl⟩

/-- A result is sent to the caller of an activity, or to nobody. -/
theorem sendResult_conduct
    (service : ActivityManagerService)
    (activity : Nat)
    (resultCode : Int)
    (resultData : Intent) :
    Conduct service
      (service.sendResult activity resultCode resultData) := by
  unfold sendResult
  split
  · rename_i callActivity isCaller
    have isRequest : service.mCaller activity = some callActivity :=
      (Option.filter_eq_some_iff.mp isCaller).1
    split
    · rename_i isAsked
      unfold onResult
      split
      · split
        · exact
            { performs := ⟨[], .none rfl rfl, List.forall_mem_nil _⟩
              broadcasts := ⟨[], .none rfl rfl rfl⟩
              results := ⟨_, rfl, by
                intro result member
                rw [List.mem_singleton.mp member]
                exact ⟨isAsked, activity, isRequest, rfl⟩⟩
              mRunMode := rfl
              requests := fun _ _ isCaller => ⟨isCaller, rfl⟩ }
        · exact .refl service
      · exact .refl service
    · exact .refl service
  · exact .refl service

theorem finish_conduct
    (service : ActivityManagerService)
    (isSystemUI : Bool)
    (activity : Nat) :
    Spec True (service.finish isSystemUI activity) (Conduct service) := by
  unfold finish
  split <;> exact act_conduct rfl

theorem moveTask_conduct
    (service : ActivityManagerService)
    (isSystemUI : Bool)
    (task : Nat) :
    Spec True (service.moveTask isSystemUI task) (Conduct service) := by
  unfold moveTask
  split <;> exact act_conduct rfl

/-! ## Calls about activities -/

theorem finishActivity_conduct
    (service : ActivityManagerService)
    (token : Nat)
    (resultCode : Int)
    (resultData : Option Intent) :
    Spec True (service.finishActivity token resultCode resultData)
      fun result => Conduct service result.1 := by
  unfold finishActivity
  split
  · have told :
        Conduct service
          (service.sendResultData token resultCode resultData) := by
      cases resultData with
      | none =>
          exact .refl service
      | some data =>
          exact sendResult_conduct service token resultCode data
    refine Spec.bind_any fun app => ?_
    refine (finish_conduct _ _ token).bind fun finished conduct => ?_
    exact told.trans conduct
  · exact .refl service

theorem stopPackage_conduct
    (service : ActivityManagerService)
    (app : Nat)
    (record : AppRecord)
    (mFlag : Nat) :
    Spec True (service.stopPackage app record mFlag) (Conduct service) := by
  have moves :
      Spec True (service.movePackage record) (Conduct service) := by
    unfold movePackage
    split
    · split
      · exact moveTask_conduct service _ _
      · exact .refl service
    · exact .refl service
  refine moves.bind fun moved conduct => ?_
  split
  · exact (act_conduct rfl).mono fun stopped => conduct.trans
  · exact conduct

theorem stopActivity_conduct
    (service : ActivityManagerService)
    (intent : Intent)
    (resultCode : Int) :
    Spec True (service.stopActivity intent resultCode)
      fun result => Conduct service result.1 := by
  unfold stopActivity
  split
  · exact .refl service
  · dsimp only
    split
    · refine Spec.bind_any fun record => ?_
      split
      · exact
          (stopPackage_conduct service _ record _).bind
            fun stopped conduct => conduct
      · refine Spec.bind_any fun found => ?_
        split
        · refine (finish_conduct _ _ _).bind fun finished conduct => ?_
          exact
            (sendResult_conduct service _ resultCode intent).trans conduct
        · exact .refl service
    · exact .refl service

theorem stopApplication_conduct
    (service : ActivityManagerService)
    (token : ComponentToken) :
    Spec True (service.stopApplication token)
      fun result => Conduct service result.1 := by
  cases token with
  | activity activity =>
      rw [stopApplication]
      split
      · refine Spec.bind_any fun app => ?_
        have moves :
            Spec True (service.moveActiveTask activity app.2.mIsSystemUI)
              (Conduct service) := by
          unfold moveActiveTask
          split
          · split
            · exact moveTask_conduct service _ _
            · exact .refl service
          · exact .refl service
        refine moves.bind fun moved conduct => ?_
        exact
          (act_conduct rfl).bind fun stopped stops => conduct.trans stops
      · exact .refl service
  | service token =>
      rw [stopApplication]
      split
      · split
        · exact (act_conduct rfl).map fun stopped conduct => conduct
        · exact .refl service
      · exact .refl service

theorem moveActivityTaskToBackground_conduct
    (service : ActivityManagerService)
    (token : Nat)
    (nonRoot : Bool) :
    Spec True (service.moveActivityTaskToBackground token nonRoot)
      fun result => Conduct service result.1 := by
  unfold moveActivityTaskToBackground
  split
  · split
    · split
      · refine Spec.bind_any fun app => ?_
        exact
          (moveTask_conduct service _ _).bind fun moved conduct => conduct
      · exact .refl service
    · exact .refl service
  · exact .refl service

theorem reportActivityStatus_conduct
    (service : ActivityManagerService)
    (token : Nat)
    (status : Status) :
    Spec True (service.reportActivityStatus token status)
      (Conduct service) := by
  unfold reportActivityStatus
  split
  · refine Spec.bind_any fun triggered => ?_
    dsimp only
    split
    · rename_i name _
      exact
        (act_conduct rfl).mono fun reported =>
          (announceTop_conduct service name).trans
    · exact act_conduct rfl
  · exact .refl service

/-! ## Components that start -/

/-- An ordinary action that has been performed. -/
theorem become_conduct
    {action : InnerAction}
    {inner : ActivityManagerInner}
    (isOrdinary : action.isOrdinary = true)
    (isNext : service.inner.step? action = some inner) :
    Conduct service (service.become action inner) := by
  have acted : Spec True (service.act action) (Conduct service) :=
    act_conduct isOrdinary
  rw [act, isNext] at acted
  exact acted

section

variable
  (service : ActivityManagerService)
  (before : ActivityManagerInner)
  (caller : Option Nat)
  (requestCode : Int)

@[simp] theorem keepRequest_inner :
    (service.keepRequest before caller requestCode).inner =
      service.inner := by
  unfold keepRequest
  dsimp only
  split <;> rfl

@[simp] theorem keepRequest_history :
    (service.keepRequest before caller requestCode).history =
      service.history := by
  unfold keepRequest
  dsimp only
  split <;> rfl

@[simp] theorem keepRequest_announced :
    (service.keepRequest before caller requestCode).announced =
      service.announced := by
  unfold keepRequest
  dsimp only
  split <;> rfl

@[simp] theorem keepRequest_deliveries :
    (service.keepRequest before caller requestCode).deliveries =
      service.deliveries := by
  unfold keepRequest
  dsimp only
  split <;> rfl

@[simp] theorem keepRequest_mReceivers :
    (service.keepRequest before caller requestCode).mReceivers =
      service.mReceivers := by
  unfold keepRequest
  dsimp only
  split <;> rfl

@[simp] theorem keepRequest_results :
    (service.keepRequest before caller requestCode).results =
      service.results := by
  unfold keepRequest
  dsimp only
  split <;> rfl

end

/-- A new activity without a caller waits for no result. -/
theorem keepRequest_conduct
    (service : ActivityManagerService)
    (before : ActivityManagerInner)
    (requestCode : Int) :
    Conduct service (service.keepRequest before none requestCode) := by
  unfold keepRequest
  dsimp only
  split
  · exact .refl service
  · exact
      { performs := ⟨[], .none rfl rfl, List.forall_mem_nil _⟩
        broadcasts := ⟨[], .none rfl rfl rfl⟩
        results := ⟨[], (List.append_nil _).symm, List.forall_mem_nil _⟩
        mRunMode := rfl
        requests := by
          intro activity caller isCaller
          dsimp only at isCaller ⊢
          by_cases isNew : activity = before.manager.nextActivity
          · rw [isNew, Function.update_self] at isCaller
            cases isCaller
          · rw [Function.update_of_ne isNew] at isCaller
            rw [Function.update_of_ne isNew]
            exact ⟨isCaller, rfl⟩ }

/-- A request for an activity, before its arguments are kept. -/
theorem startActivity_spec
    (service : ActivityManagerService)
    (packages : List PackageInfo)
    (caller : Option Nat)
    (intent : Intent)
    (requestCode : Int)
    (launch : Launch) :
    Spec True
      (service.startActivity packages caller intent requestCode launch)
      fun result =>
        ∃ started,
          Conduct service started ∧
            (result.1 = started ∨
              result.1 =
                started.keepRequest service.inner caller requestCode) := by
  unfold startActivity
  split
  · exact ⟨service, .refl service, .inl rfl⟩
  · rename_i activityName packageInfo _
    cases isStarted :
        service.inner.startActivity activityName packageInfo intent caller
          launch.isOkToLaunch launch.spawned with
    | none =>
        trivial
    | some started =>
        refine ⟨_, become_conduct rfl ?_, .inr rfl⟩
        rw [ActivityManagerInner.step?, isStarted]
        rfl

/-- A request of the service itself. -/
theorem startActivity_conduct
    (service : ActivityManagerService)
    (packages : List PackageInfo)
    (intent : Intent)
    (requestCode : Int)
    (launch : Launch) :
    Spec True
      (service.startActivity packages none intent requestCode launch)
      fun result => Conduct service result.1 := by
  refine (startActivity_spec service packages none intent requestCode
    launch).mono ?_
  rintro result ⟨started, conduct, same | isKept⟩
  · rw [same]
    exact conduct
  · rw [isKept]
    exact conduct.trans (keepRequest_conduct started _ requestCode)

theorem startServiceReal_conduct
    (service : ActivityManagerService)
    (serviceName : String)
    (packageInfo : PackageInfo)
    (intent : Intent)
    (launch : Launch)
    (request : ServiceRequest) :
    Spec True
      (service.startServiceReal serviceName packageInfo intent launch
        request)
      fun result => Conduct service result.1 := by
  cases request with
  | start =>
      rw [startServiceReal]
      cases isStarted :
          service.inner.startServiceReal serviceName packageInfo intent
            .start launch.spawned with
      | none =>
          trivial
      | some started =>
          refine become_conduct rfl ?_
          rw [ActivityManagerInner.step?, isStarted]
          rfl
  | bind conn =>
      rw [startServiceReal]
      cases isStarted :
          service.inner.startServiceReal serviceName packageInfo intent
            (.bind conn) launch.spawned with
      | none =>
          trivial
      | some started =>
          refine become_conduct rfl ?_
          rw [ActivityManagerInner.step?, isStarted]
          rfl

theorem requestService_conduct
    (service : ActivityManagerService)
    (packages : List PackageInfo)
    (intent : Intent)
    (request : ServiceRequest)
    (launch : Launch) :
    Spec True (service.requestService packages intent request launch)
      fun result => Conduct service result.1 := by
  unfold requestService
  split
  · exact .refl service
  · exact startServiceReal_conduct service _ _ intent launch request

theorem stopService_conduct
    (service : ActivityManagerService)
    (packages : List PackageInfo)
    (intent : Intent) :
    Spec True (service.stopService packages intent)
      fun result => Conduct service result.1 := by
  unfold stopService
  split
  · exact .refl service
  · exact become_conduct rfl rfl

theorem postIntent_conduct
    (service : ActivityManagerService)
    (intent : Intent) :
    Spec True (service.postIntent intent)
      fun result => Conduct service result.1 := by
  refine Spec.bind_any fun posted => ?_
  exact .of_same rfl rfl (.none rfl rfl rfl) rfl rfl rfl rfl

theorem startComponent_conduct
    (service : ActivityManagerService)
    (type : ComponentType)
    (intent : Intent)
    (component : String × PackageInfo)
    (launch : Launch) :
    Spec True (service.startComponent type intent component launch)
      (Conduct service) := by
  cases type with
  | activity =>
      refine (act_conduct rfl).bind fun started conduct => ?_
      exact conduct.trans (keepRequest_conduct started _ noRequest)
  | service =>
      exact
        (startServiceReal_conduct service _ _ intent launch .start).map
          fun started conduct => conduct

theorem startComponents_conduct
    (type : ComponentType)
    (intent : Intent)
    (launches : Nat → Launch)
    (components : List ((String × PackageInfo) × Nat))
    (service : ActivityManagerService) :
    Spec True (startComponents type intent launches components service)
      (Conduct service) := by
  induction components generalizing service with
  | nil =>
      exact .refl service
  | cons component rest inductionHypothesis =>
      rw [startComponents]
      refine (startComponent_conduct service type intent _ _).bind
        fun started conduct => ?_
      exact (inductionHypothesis started).mono fun final => conduct.trans

theorem broadcastIntent_conduct
    (service : ActivityManagerService)
    (packages : List PackageInfo)
    (type : ComponentType)
    (intent : Intent)
    (launches : Nat → Launch) :
    Spec True (service.broadcastIntent packages type intent launches)
      (Conduct service) := by
  unfold broadcastIntent
  split
  · exact .refl service
  · exact startComponents_conduct type intent launches _ service

theorem broadcastBoot_conduct
    (service : ActivityManagerService)
    (packages : List PackageInfo)
    (action : String)
    (launches : ComponentType → Nat → Launch) :
    Spec True (service.broadcastBoot packages action launches)
      (Conduct service) := by
  refine (broadcastIntent_conduct service packages _ _ _).bind
    fun served conduct => ?_
  exact
    (broadcastIntent_conduct served packages _ _ _).mono
      fun final => conduct.trans

theorem startFirst_conduct
    (service : ActivityManagerService)
    (packages : List PackageInfo)
    (launches : BootLaunches) :
    Spec True (service.startFirst packages launches) (Conduct service) := by
  have guides :
      Spec True
        (service.startBootGuide packages launches.isComplete launches.guide)
        fun result => Conduct service result.1 := by
    unfold startBootGuide
    split
    · exact .refl service
    · exact startActivity_conduct service packages _ _ _
  refine guides.bind ?_
  rintro ⟨guided, isGuided⟩ conduct
  dsimp only
  split
  · exact conduct
  · exact
      (startActivity_conduct guided packages _ _ _).map
        fun shown shows => conduct.trans shows

theorem systemReady_conduct
    (service : ActivityManagerService)
    (packages : List PackageInfo)
    (launches : BootLaunches) :
    Spec True (service.systemReady packages launches)
      (Conduct service) := by
  unfold systemReady
  split
  · exact .refl service
  · refine (broadcastBoot_conduct service packages _ _).bind
      fun ready isReady => ?_
    refine (startFirst_conduct ready packages launches).bind
      fun shown isShown => ?_
    exact
      (broadcastBoot_conduct shown packages _ _).mono fun final isFinal =>
        isReady.trans (isShown.trans isFinal)

end ActivityManagerService

end ActivityManager
