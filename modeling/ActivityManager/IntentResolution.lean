import ActivityManager.FailedStarts

/-!
# From intents to targets

An intent names its target, or an action that some components of the packages
declare.  `IntentAction` searches all packages twice over: for the first
component of an action, and for all of them.  A target is the package and the
component with a '/' between; the service splits it at the first one.

The package manager is outside; `getAllPackageInfo` and `getPackageInfo`
return the same packages.
-/

namespace ActivityManager

/-- `IntentAction::ComponentType`. -/
inductive ComponentType where
  | activity
  | service
  deriving Repr, DecidableEq

/-- The names and the actions of the components of a type. -/
def PackageInfo.components
    (packageInfo : PackageInfo) :
    ComponentType → List (String × List String)
  | .activity =>
      packageInfo.activitiesInfo.map fun activity =>
        (activity.name, activity.actions)
  | .service =>
      packageInfo.servicesInfo.map fun service =>
        (service.name, service.actions)

/-- `COMPONENT_NAME_SPLICE`. -/
def componentNameSplice (packageName componentName : String) : String :=
  packageName ++ "/" ++ componentName

namespace IntentAction

variable
  (allPackages : List PackageInfo)
  (action : String)
  (type : ComponentType)

/-- `IntentAction::getSingleTargetByAction`; the loops end at a match. -/
def getSingleTargetByAction : Option String :=
  allPackages.findSome? fun packageInfo =>
    (packageInfo.components type).findSome? fun component =>
      component.2.findSome? fun a =>
        if a = action then
          some (componentNameSplice packageInfo.packageName component.1)
        else
          none

/-- `IntentAction::getMultiTargetByAction`, the targets that are pushed. -/
def getMultiTargetByAction : List String :=
  allPackages.foldl
    (fun targetlist packageInfo =>
      (packageInfo.components type).foldl
        (fun targetlist component =>
          component.2.foldl
            (fun targetlist a =>
              if a = action then
                targetlist ++
                  [componentNameSplice packageInfo.packageName component.1]
              else
                targetlist)
            targetlist)
        targetlist)
    []

/--
The package and the component of each occurrence of the action, in the order
of the packages.
-/
def occurrences : List (String × String) :=
  allPackages.flatMap fun packageInfo =>
    (packageInfo.components type).flatMap fun component =>
      (component.2.filter (· = action)).map fun _ =>
        (packageInfo.packageName, component.1)

variable {allPackages action type} in
/-- Each occurrence is in one of the packages. -/
theorem package_of_mem_occurrences
    {packageName componentName : String}
    (occurs :
      (packageName, componentName) ∈ occurrences allPackages action type) :
    ∃ packageInfo ∈ allPackages, packageInfo.packageName = packageName := by
  obtain ⟨packageInfo, member, inPackage⟩ := List.mem_flatMap.mp occurs
  obtain ⟨component, -, inComponent⟩ := List.mem_flatMap.mp inPackage
  obtain ⟨a, -, isNames⟩ := List.mem_map.mp inComponent
  exact ⟨packageInfo, member, congrArg Prod.fst isNames⟩

/-! ## The two searches -/

/-- A loop that appends to a list what it finds for each element. -/
theorem foldl_append
    {α β : Type}
    (found : α → List β)
    (elements : List α)
    (pushed : List β) :
    elements.foldl (fun pushed element => pushed ++ found element) pushed =
      pushed ++ elements.flatMap found := by
  induction elements generalizing pushed with
  | nil =>
      simp
  | cons first rest inductionHypothesis =>
      rw [List.foldl_cons, inductionHypothesis, List.flatMap_cons,
        List.append_assoc]

/-- The innermost loop pushes a target for each occurrence of the action. -/
theorem foldl_actions
    (target : String)
    (actions targetlist : List String) :
    actions.foldl
        (fun targetlist a =>
          if a = action then targetlist ++ [target] else targetlist)
        targetlist =
      targetlist ++ (actions.filter (· = action)).map fun _ => target := by
  induction actions generalizing targetlist with
  | nil =>
      simp
  | cons first rest inductionHypothesis =>
      rw [List.foldl_cons, inductionHypothesis]
      by_cases isAction : first = action
      · simp [isAction]
      · simp [isAction]

/-- All targets are listed, one for each occurrence of the action. -/
theorem getMultiTargetByAction_eq :
    getMultiTargetByAction allPackages action type =
      (occurrences allPackages action type).map fun names =>
        componentNameSplice names.1 names.2 := by
  simp only [getMultiTargetByAction, foldl_actions, foldl_append,
    List.nil_append, occurrences, List.map_flatMap, List.map_map,
    Function.comp_def]

/-- The innermost loop stops at the first occurrence of the action. -/
theorem findSome?_actions
    (target : String)
    (actions : List String) :
    (actions.findSome? fun a => if a = action then some target else none) =
      ((actions.filter (· = action)).map fun _ => target).head? := by
  induction actions with
  | nil =>
      rfl
  | cons first rest inductionHypothesis =>
      by_cases isAction : first = action
      · simp [isAction]
      · simpa [isAction] using inductionHypothesis

/-- The single target is the first of all. -/
theorem getSingleTargetByAction_eq :
    getSingleTargetByAction allPackages action type =
      (getMultiTargetByAction allPackages action type).head? := by
  rw [getMultiTargetByAction_eq]
  simp only [getSingleTargetByAction, findSome?_actions, occurrences,
    List.map_flatMap, List.map_map, List.head?_flatMap, Function.comp_def]

end IntentAction

/-! ## Splitting a target -/

/-- A package name without a '/' and any component are found again. -/
theorem getPackageAndComponentName_splice
    {packageName : String}
    (noSlash : '/' ∉ packageName.toList)
    (componentName : String) :
    getPackageAndComponentName
        (componentNameSplice packageName componentName) =
      (packageName, componentName) := by
  have isPackage :
      ∀ letter ∈ packageName.toList, (letter != '/') = true := by
    intro letter member
    rw [bne_iff_ne]
    exact fun isSlash => noSlash (isSlash ▸ member)
  have spelled :
      (componentNameSplice packageName componentName).toList =
        packageName.toList ++ '/' :: componentName.toList := by
    simp [componentNameSplice]
  rw [getPackageAndComponentName, spelled,
    List.takeWhile_append_of_pos isPackage,
    List.dropWhile_append_of_pos isPackage,
    List.takeWhile_cons_of_neg (by simp),
    List.dropWhile_cons_of_neg (by simp), List.append_nil, List.tail_cons,
    String.ofList_toList, String.ofList_toList]

/-! ## The service -/

namespace PackageLookups

/-- What `IntentAction` and the package manager answer. -/
def ofPackages
    (allPackages : List PackageInfo)
    (type : ComponentType) : PackageLookups where
  getSingleTargetByAction action :=
    (IntentAction.getSingleTargetByAction allPackages action type).getD ""
  getPackageInfo packageName :=
    allPackages.find? (·.packageName == packageName)

/-- One target of `intentToMultiTarget`. -/
def lookUp
    (lookups : PackageLookups)
    (target : String) : Option (String × PackageInfo) :=
  let names := getPackageAndComponentName target
  if names.1.isEmpty then
    none
  else
    (lookups.getPackageInfo names.1).map fun packageInfo =>
      (names.2, packageInfo)

/-- `ActivityManagerInner::intentToMultiTarget`. -/
def intentToMultiTarget
    (lookups : PackageLookups)
    (getMultiTargetByAction : String → List String)
    (intent : Intent) : Option (List (String × PackageInfo)) :=
  let targetlist :=
    if intent.mTarget.isEmpty then
      getMultiTargetByAction intent.mAction
    else
      [intent.mTarget]
  targetlist.mapM lookups.lookUp

variable
  {allPackages : List PackageInfo}
  {type : ComponentType}
  {intent : Intent}

/-- The single target of an intent is looked up as each of several is. -/
theorem intentToSingleTarget_eq_lookUp
    (lookups : PackageLookups)
    (intent : Intent) :
    lookups.intentToSingleTarget intent =
      lookups.lookUp
        (if intent.mTarget.isEmpty then
          lookups.getSingleTargetByAction intent.mAction
        else
          intent.mTarget) :=
  rfl

/-- A spliced target is looked up by its package. -/
theorem lookUp_splice
    (lookups : PackageLookups)
    {packageName : String}
    (noSlash : '/' ∉ packageName.toList)
    (componentName : String) :
    lookups.lookUp (componentNameSplice packageName componentName) =
      if packageName.isEmpty then
        none
      else
        (lookups.getPackageInfo packageName).map (componentName, ·) := by
  rw [lookUp, getPackageAndComponentName_splice noSlash]

/-- A spliced target is never empty. -/
theorem splice_isEmpty (packageName componentName : String) :
    (componentNameSplice packageName componentName).isEmpty = false := by
  rw [Bool.eq_false_iff, ne_eq, String.isEmpty_iff]
  intro isEmpty
  have letters := congrArg String.toList isEmpty
  simp [componentNameSplice] at letters

/-- An intent that names its target is looked up by it. -/
theorem intentToSingleTarget_explicit
    (lookups : PackageLookups)
    (packageName componentName : String) :
    lookups.intentToSingleTarget
        { intent with
          mTarget := componentNameSplice packageName componentName } =
      lookups.lookUp (componentNameSplice packageName componentName) := by
  rw [intentToSingleTarget_eq_lookUp]
  dsimp only
  rw [splice_isEmpty]
  rfl

/-- An intent by action is looked up by the first target of the action. -/
theorem intentToSingleTarget_byAction
    (byAction : intent.mTarget = "") :
    (ofPackages allPackages type).intentToSingleTarget intent =
      (ofPackages allPackages type).lookUp
        ((IntentAction.getMultiTargetByAction allPackages intent.mAction
          type).head?.getD "") := by
  rw [intentToSingleTarget_eq_lookUp, byAction,
    ← IntentAction.getSingleTargetByAction_eq]
  rfl

/-- Where several targets are found, the single target is the first. -/
theorem intentToSingleTarget_eq_head?
    {found : List (String × PackageInfo)}
    (isFound :
      (ofPackages allPackages type).intentToMultiTarget
        (IntentAction.getMultiTargetByAction allPackages · type) intent =
          some found) :
    (ofPackages allPackages type).intentToSingleTarget intent =
      found.head? := by
  have first :
      ∀ targetlist : List String,
        targetlist.mapM (ofPackages allPackages type).lookUp = some found →
        (ofPackages allPackages type).lookUp (targetlist.head?.getD "") =
          found.head? := by
    intro targetlist isFound
    cases targetlist with
    | nil =>
        rw [List.mapM_nil] at isFound
        rw [← Option.some.inj isFound]
        rfl
    | cons target rest =>
        rw [List.mapM_cons] at isFound
        obtain ⟨one, isOne, isFound⟩ := Option.bind_eq_some_iff.mp isFound
        obtain ⟨others, -, isFound⟩ := Option.bind_eq_some_iff.mp isFound
        rw [← Option.some.inj isFound]
        exact isOne
  rw [intentToMultiTarget] at isFound
  by_cases byAction : intent.mTarget = ""
  · rw [intentToSingleTarget_byAction byAction]
    rw [if_pos (String.isEmpty_iff.mpr byAction)] at isFound
    exact first _ isFound
  · have isExplicit : ¬intent.mTarget.isEmpty = true := by
      rw [String.isEmpty_iff]
      exact byAction
    rw [if_neg isExplicit] at isFound
    rw [intentToSingleTarget_eq_lookUp, if_neg isExplicit]
    exact first [intent.mTarget] isFound

end PackageLookups

open IntentAction PackageLookups in
/--
The ways to a target agree, for all packages and every action: the single
target is the first of all, and there is one if and only if there are any; all
targets are those of the occurrences of the action, in order; a target is
split where it was spliced; and an intent by action leads to the package and
the component that an intent naming the first match leads to, or nowhere.
-/
theorem intentPaths_agree
    (allPackages : List PackageInfo)
    (noSlash :
      ∀ packageInfo ∈ allPackages, '/' ∉ packageInfo.packageName.toList)
    (action : String)
    (type : ComponentType) :
    ((getSingleTargetByAction allPackages action type).isSome = true ↔
        getMultiTargetByAction allPackages action type ≠ []) ∧
      getSingleTargetByAction allPackages action type =
        (getMultiTargetByAction allPackages action type).head? ∧
      getMultiTargetByAction allPackages action type =
        (occurrences allPackages action type).map
          (fun names => componentNameSplice names.1 names.2) ∧
      (∀ packageName componentName,
        '/' ∉ packageName.toList →
        getPackageAndComponentName
            (componentNameSplice packageName componentName) =
          (packageName, componentName)) ∧
      ∀ intent : Intent,
        intent.mTarget = "" →
        intent.mAction = action →
        match (occurrences allPackages action type).head? with
        | some (packageName, componentName) =>
            (ofPackages allPackages type).intentToSingleTarget intent =
                (ofPackages allPackages type).intentToSingleTarget
                  { intent with
                    mTarget :=
                      componentNameSplice packageName componentName } ∧
              (ofPackages allPackages type).intentToSingleTarget intent =
                if packageName.isEmpty then
                  none
                else
                  ((ofPackages allPackages type).getPackageInfo
                    packageName).map (componentName, ·)
        | none =>
            (ofPackages allPackages type).intentToSingleTarget intent =
              none := by
  have isFirst := getSingleTargetByAction_eq allPackages action type
  refine
    ⟨?_, isFirst, getMultiTargetByAction_eq allPackages action type,
      fun _ componentName noSlash =>
        getPackageAndComponentName_splice noSlash componentName, ?_⟩
  · rw [isFirst, List.isSome_head?, ← List.isEmpty_eq_false_iff]
  · intro intent byAction isAction
    have single :
        (ofPackages allPackages type).intentToSingleTarget intent =
          (ofPackages allPackages type).lookUp
            ((getMultiTargetByAction allPackages intent.mAction
              type).head?.getD "") :=
      intentToSingleTarget_byAction byAction
    rw [isAction, getMultiTargetByAction_eq, List.head?_map] at single
    split
    case h_1 packageName componentName isHead =>
      rw [isHead, Option.map_some, Option.getD_some] at single
      obtain ⟨packageInfo, member, isPackage⟩ :=
        package_of_mem_occurrences (List.mem_of_head? isHead)
      have notSlash : '/' ∉ packageName.toList :=
        isPackage ▸ noSlash packageInfo member
      exact
        ⟨single.trans (intentToSingleTarget_explicit _ _ _).symm,
          single.trans (lookUp_splice _ notSlash componentName)⟩
    case h_2 isHead =>
      rw [isHead] at single
      exact single

/-- Two packages declare the action, one of them in two components. -/
def musicAndNews : List PackageInfo :=
  [{ packageName := "com.music"
     entry := "music"
     appType := ""
     isSystemUI := false
     priority := .middle
     activitiesInfo :=
       [{ name := "Player/Main"
          launchMode := "standard"
          taskAffinity := ""
          actions := ["play", "share"] },
        { name := "List"
          launchMode := "standard"
          taskAffinity := ""
          actions := ["share"] }]
     servicesInfo := [] },
   { packageName := "com.news"
     entry := "news"
     appType := ""
     isSystemUI := false
     priority := .middle
     activitiesInfo :=
       [{ name := "Reader"
          launchMode := "standard"
          taskAffinity := ""
          actions := ["share"] }]
     servicesInfo := [] }]

theorem musicAndNews_paths_agree :
    IntentAction.getSingleTargetByAction musicAndNews "share" .activity =
        some "com.music/Player/Main" ∧
      IntentAction.getSingleTargetByAction musicAndNews "share" .activity =
        (IntentAction.getMultiTargetByAction musicAndNews "share"
          .activity).head? :=
  ⟨by decide,
    (intentPaths_agree musicAndNews (by decide) "share" .activity).2.1⟩

end ActivityManager
