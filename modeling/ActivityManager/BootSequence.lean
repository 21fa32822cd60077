import ActivityManager.HomeRestart
import ActivityManager.Library.KeyedList

/-!
# What the boot starts

When the system is ready, the service starts every component that declares
`ACTION_BOOT_READY`, then the boot guide or the home activity, and then every
component that declares `ACTION_BOOT_COMPLETED`.  A component that does not
start keeps none of the others from it.
-/

namespace ActivityManager

/-! ## Components that declare an action -/

/-- The names of the packages name them, and can be spliced. -/
structure IsDatabase (packages : List PackageInfo) : Prop where
  distinct : (packages.map PackageInfo.packageName).Nodup
  named : ∀ packageInfo ∈ packages, packageInfo.packageName ≠ ""
  noSlash :
    ∀ packageInfo ∈ packages, '/' ∉ packageInfo.packageName.toList

/-- The components that declare an action, in the order of the packages. -/
def declarers
    (packages : List PackageInfo)
    (type : ComponentType)
    (action : String) : List (String × PackageInfo) :=
  packages.flatMap fun packageInfo =>
    (packageInfo.components type).flatMap fun component =>
      (component.2.filter (· = action)).map fun _ =>
        (component.1, packageInfo)

variable
  {packages : List PackageInfo}
  {type : ComponentType}
  {action : String}

/-- They are in the packages. -/
theorem mem_of_mem_declarers
    {component : String × PackageInfo}
    (declares : component ∈ declarers packages type action) :
    component.2 ∈ packages := by
  obtain ⟨packageInfo, member, inPackage⟩ := List.mem_flatMap.mp declares
  obtain ⟨_, -, inComponent⟩ := List.mem_flatMap.mp inPackage
  obtain ⟨_, -, isComponent⟩ := List.mem_map.mp inComponent
  rw [← isComponent]
  exact member

/-- They are where the action occurs. -/
theorem occurrences_eq_declarers :
    IntentAction.occurrences packages action type =
      (declarers packages type action).map fun component =>
        (component.2.packageName, component.1) := by
  simp only [IntentAction.occurrences, declarers, List.map_flatMap,
    List.map_map, Function.comp_def]

namespace PackageLookups

/-- A package of a database is found by its name. -/
theorem getPackageInfo_of_mem
    (isDatabase : IsDatabase packages)
    {packageInfo : PackageInfo}
    (member : packageInfo ∈ packages) :
    (ofPackages packages type).getPackageInfo packageInfo.packageName =
      some packageInfo :=
  (KeyedList.find?_eq_some_iff isDatabase.distinct).mpr ⟨member, rfl⟩

/-- A component that declares an action is found by its target. -/
theorem lookUp_declarer
    (isDatabase : IsDatabase packages)
    {component : String × PackageInfo}
    (declares : component ∈ declarers packages type action) :
    (ofPackages packages type).lookUp
        (componentNameSplice component.2.packageName component.1) =
      some component := by
  have member := mem_of_mem_declarers declares
  have notEmpty : ¬component.2.packageName.isEmpty = true := by
    rw [String.isEmpty_iff]
    exact isDatabase.named _ member
  rw [lookUp_splice _ (isDatabase.noSlash _ member), if_neg notEmpty,
    getPackageInfo_of_mem isDatabase member]
  rfl

/-- An intent for an action leads to all that declare it. -/
theorem intentToMultiTarget_ofAction
    (isDatabase : IsDatabase packages)
    (type : ComponentType)
    (action mData : String) :
    (ofPackages packages type).intentToMultiTarget
        (IntentAction.getMultiTargetByAction packages · type)
        (Intent.ofAction action mData) =
      some (declarers packages type action) := by
  have isFound :
      ∀ components : List (String × PackageInfo),
        (∀ component ∈ components,
          component ∈ declarers packages type action) →
        (components.map fun component =>
            componentNameSplice component.2.packageName
              component.1).mapM (ofPackages packages type).lookUp =
          some components := by
    intro components declare
    induction components with
    | nil =>
        rfl
    | cons component rest inductionHypothesis =>
        have first :=
          lookUp_declarer isDatabase (declare component List.mem_cons_self)
        have others :=
          inductionHypothesis fun other member =>
            declare other (List.mem_cons_of_mem _ member)
        rw [List.map_cons, List.mapM_cons, first, others]
        rfl
  rw [intentToMultiTarget, if_pos (by rfl)]
  dsimp only [Intent.ofAction]
  rw [IntentAction.getMultiTargetByAction_eq, occurrences_eq_declarers,
    List.map_map]
  exact isFound _ fun _ declares => declares

/-- An intent for an action leads to the first that declares it. -/
theorem intentToSingleTarget_ofAction
    (isDatabase : IsDatabase packages)
    (type : ComponentType)
    (action mData : String) :
    (ofPackages packages type).intentToSingleTarget
        (Intent.ofAction action mData) =
      (declarers packages type action).head? :=
  intentToSingleTarget_eq_head?
    (intentToMultiTarget_ofAction isDatabase type action mData)

end PackageLookups

/-! ## Starts -/

namespace ActivityManagerService

variable
  {service ready next : ActivityManagerService}
  {launches : BootLaunches}

/-- The step that starts one component. -/
def startOf
    (intent : Intent)
    (component : String × PackageInfo)
    (launch : Launch) : ComponentType → InnerAction
  | .activity =>
      .startActivityReal component.1 component.2 intent none
        launch.isOkToLaunch launch.spawned
  | .service =>
      .startService component.1 component.2 intent launch.spawned

/-- Each component that declares an action is started once for it. -/
def startsOf
    (packages : List PackageInfo)
    (action : String)
    (launches : ComponentType → Nat → Launch)
    (type : ComponentType) : List InnerAction :=
  (declarers packages type action).zipIdx.map fun entry =>
    startOf (Intent.ofAction action "") entry.1 (launches type entry.2) type

/-- The services come before the activities. -/
def bootStarts
    (packages : List PackageInfo)
    (action : String)
    (launches : ComponentType → Nat → Launch) : List InnerAction :=
  startsOf packages action launches .service ++
    startsOf packages action launches .activity

/-- The first activity that declares an action is requested. -/
def firstStart
    (packages : List PackageInfo)
    (action : String)
    (launch : Launch) : List InnerAction :=
  ((declarers packages .activity action).head?.map fun component =>
    .startActivity component.1 component.2 (Intent.ofAction action "") none
      launch.isOkToLaunch launch.spawned).toList

/-- What is requested to be seen first. -/
inductive ShowsFirst
    (packages : List PackageInfo)
    (launches : BootLaunches)
    (ready : ActivityManagerService) : List InnerAction → Prop where
  | home :
      launches.isComplete = true →
      ShowsFirst packages launches ready
        (firstStart packages Intent.actionHome launches.home)
  | guide :
      launches.isComplete = false →
      (ready.startBootGuide packages false launches.guide).map Prod.snd =
        some true →
      ShowsFirst packages launches ready
        (firstStart packages Intent.actionBootGuide launches.guide)
  | noGuide :
      launches.isComplete = false →
      (ready.startBootGuide packages false launches.guide).map Prod.snd =
        some false →
      ShowsFirst packages launches ready
        (firstStart packages Intent.actionBootGuide launches.guide ++
          firstStart packages Intent.actionHome launches.home)

/-- One component. -/
theorem startComponent_performs
    {intent : Intent}
    {component : String × PackageInfo}
    {launch : Launch}
    (isNext :
      service.startComponent type intent component launch = some next) :
    Performs service next [startOf intent component launch type] := by
  cases type with
  | activity =>
      obtain ⟨started, isStarted, ends⟩ := Option.bind_eq_some_iff.mp isNext
      obtain ⟨inner, isInner, rfl⟩ := Option.map_eq_some_iff.mp isStarted
      rw [← Option.some.inj ends]
      exact
        (Performs.one isInner).trans
          (.none (keepRequest_history _ _ _ _) (keepRequest_inner _ _ _ _))
  | service =>
      obtain ⟨result, isResult, rfl⟩ := Option.map_eq_some_iff.mp isNext
      obtain ⟨⟨inner, route⟩, isInner, ends⟩ :=
        Option.bind_eq_some_iff.mp isResult
      rw [← Option.some.inj ends]
      refine Performs.one ?_
      rw [ActivityManagerInner.step?, isInner]
      rfl

/-- All of them, one after the other. -/
theorem startComponents_performs
    {intent : Intent}
    {starts : Nat → Launch}
    {components : List ((String × PackageInfo) × Nat)}
    (isNext :
      startComponents type intent starts components service = some next) :
    Performs service next
      (components.map fun entry =>
        startOf intent entry.1 (starts entry.2) type) := by
  induction components generalizing service with
  | nil =>
      rw [← Option.some.inj isNext]
      exact .none rfl rfl
  | cons component rest inductionHypothesis =>
      obtain ⟨started, isStarted, isNext⟩ :=
        Option.bind_eq_some_iff.mp isNext
      exact
        (startComponent_performs isStarted).trans
          (inductionHypothesis isNext)

/-- `broadcastIntent` for an action. -/
theorem broadcastIntent_performs
    {starts : ComponentType → Nat → Launch}
    (isDatabase : IsDatabase packages)
    (isNext :
      service.broadcastIntent packages type (Intent.ofAction action "")
        (starts type) = some next) :
    Performs service next (startsOf packages action starts type) := by
  unfold broadcastIntent at isNext
  rw [PackageLookups.intentToMultiTarget_ofAction isDatabase] at isNext
  exact startComponents_performs isNext

/-- The services and the activities that declare an action of the boot. -/
theorem broadcastBoot_performs
    {starts : ComponentType → Nat → Launch}
    (isDatabase : IsDatabase packages)
    (isNext : service.broadcastBoot packages action starts = some next) :
    Performs service next (bootStarts packages action starts) := by
  obtain ⟨served, isServed, isNext⟩ := Option.bind_eq_some_iff.mp isNext
  exact
    (broadcastIntent_performs isDatabase isServed).trans
      (broadcastIntent_performs isDatabase isNext)

/-- A request for the first activity that declares an action. -/
theorem startActivity_performs
    {launch : Launch}
    {isOk : Bool}
    (isDatabase : IsDatabase packages)
    (isNext :
      service.startActivity packages none (Intent.ofAction action "")
        noRequest launch = some (next, isOk)) :
    Performs service next (firstStart packages action launch) := by
  unfold startActivity at isNext
  rw [PackageLookups.intentToSingleTarget_ofAction isDatabase] at isNext
  unfold firstStart
  cases isFirst : (declarers packages .activity action).head? with
  | none =>
      rw [isFirst] at isNext
      rw [← (Prod.mk.inj (Option.some.inj isNext)).1]
      exact .none rfl rfl
  | some component =>
      rw [isFirst] at isNext
      obtain ⟨⟨inner, route⟩, isInner, ends⟩ :=
        Option.bind_eq_some_iff.mp isNext
      rw [← (Prod.mk.inj (Option.some.inj ends)).1]
      have isStep :
          service.inner.step?
              (.startActivity component.1 component.2
                (Intent.ofAction action "") none launch.isOkToLaunch
                launch.spawned) =
            some inner := by
        rw [ActivityManagerInner.step?, isInner]
        rfl
      exact
        (Performs.one isStep).trans
          (.none (keepRequest_history _ _ _ _) (keepRequest_inner _ _ _ _))

/-- The boot guide, or else home. -/
theorem startFirst_performs
    (isDatabase : IsDatabase packages)
    (isNext : ready.startFirst packages launches = some next) :
    ∃ actions,
      ShowsFirst packages launches ready actions ∧
        Performs ready next actions := by
  obtain ⟨⟨guided, isGuided⟩, isStarted, ends⟩ :=
    Option.bind_eq_some_iff.mp isNext
  dsimp only at ends
  cases isComplete : launches.isComplete with
  | true =>
      rw [startBootGuide, if_pos isComplete] at isStarted
      obtain ⟨rfl, rfl⟩ := Prod.mk.inj (Option.some.inj isStarted)
      rw [if_neg Bool.false_ne_true] at ends
      obtain ⟨⟨shown, isOk⟩, isShown, rfl⟩ :=
        Option.map_eq_some_iff.mp ends
      exact ⟨_, .home isComplete, startActivity_performs isDatabase isShown⟩
  | false =>
      rw [isComplete] at isStarted
      have isResult :
          (ready.startBootGuide packages false launches.guide).map
              Prod.snd =
            some isGuided := by
        rw [isStarted]
        rfl
      have guide :
          Performs ready guided
            (firstStart packages Intent.actionBootGuide launches.guide) :=
        startActivity_performs isDatabase isStarted
      cases isGuided with
      | true =>
          rw [if_pos rfl] at ends
          rw [← Option.some.inj ends]
          exact ⟨_, .guide isComplete isResult, guide⟩
      | false =>
          rw [if_neg Bool.false_ne_true] at ends
          obtain ⟨⟨shown, isOk⟩, isShown, rfl⟩ :=
            Option.map_eq_some_iff.mp ends
          exact
            ⟨_, .noGuide isComplete isResult,
              guide.trans (startActivity_performs isDatabase isShown)⟩

/-- A package with a service for each stage of the boot. -/
def syncPackage : PackageInfo :=
  { ActivityManagerInner.musicPackage with
    packageName := "sync"
    activitiesInfo := []
    servicesInfo :=
      [{ name := "mail"
         priority := .low
         actions := [Intent.actionBootReady] },
        { name := "news"
          priority := .low
          actions := [Intent.actionBootCompleted] }] }

/-- The setup is complete, and all processes get a pid. -/
def plainLaunches : BootLaunches where
  isComplete := true
  ready _ i := ⟨true, some (20 + i)⟩
  guide := ⟨true, none⟩
  home := ⟨true, some 11⟩
  completed _ i := ⟨true, some (30 + i)⟩

/-- The boot, with one home screen. -/
def bootedHome : Option ActivityManagerService :=
  (start [] 0 0 0).systemReady [homePackage, syncPackage] plainLaunches

end ActivityManagerService

end ActivityManager
