import ActivityManager.ComponentRuns

/-!
# Where posted intents go

Activities are named by their package and the component with a '/' between,
as targets are, but services by the component alone.  `postIntent` looks for
both by the whole target, so that it reaches the activities of an application
and misses its services.
-/

namespace ActivityManager

open StepSystem (Reachable run?)

/-! ## Names -/

/-- A target is longer than its component. -/
theorem componentNameSplice_ne
    (packageName componentName : String) :
    componentNameSplice packageName componentName ≠ componentName := by
  intro isSame
  have sameLength := congrArg (fun name => name.toList.length) isSame
  simp only [componentNameSplice, String.toList_append,
    List.length_append] at sameLength
  have isSlash : "/".toList.length = 1 := rfl
  omega

/-- No system target names a component. -/
theorem slash_mem_componentNameSplice
    (packageName componentName : String) :
    '/' ∈ (componentNameSplice packageName componentName).toList := by
  simp [componentNameSplice]

namespace ActivityManagerInner

variable {inner : ActivityManagerInner}

/-- So no component is found as a system target. -/
theorem findSystemTarget_componentNameSplice
    (inner : ActivityManagerInner)
    (packageName componentName : String) :
    inner.findSystemTarget
        (componentNameSplice packageName componentName) =
      some (none, none) := by
  have isOther :
      ∀ targetAlias : String,
        '/' ∉ targetAlias.toList →
        componentNameSplice packageName componentName ≠ targetAlias := by
    intro targetAlias noSlash isAlias
    apply noSlash
    rw [← isAlias]
    exact slash_mem_componentNameSplice packageName componentName
  rw [findSystemTarget, if_neg (isOther _ (by decide)),
    if_neg (isOther _ (by decide)), if_neg (isOther _ (by decide))]

/-- What is kept has the name of its record. -/
theorem activityName_of_lockActivity
    {activity : Nat}
    {name : String}
    (isLocked : inner.lockActivity activity = some name) :
    inner.activityName activity = some name := by
  unfold lockActivity at isLocked
  split at isLocked
  · exact isLocked
  · cases isLocked

end ActivityManagerInner

namespace ComponentRun

variable
  {run : ComponentRun}
  {app : Nat}
  {record : AppRecord}
  {packageName componentName : String}

/-! ## Lookups -/

/-- A live activity of the application has the name. -/
def namesActivity
    (run : ComponentRun)
    (app : Nat)
    (name : String)
    (activity : Nat) : Prop :=
  run.hosts app activity ∧
    run.inner.activityName activity = some name

/-- A service that is engaged in it has. -/
def namesService
    (run : ComponentRun)
    (app : Nat)
    (name : String)
    (service : ServiceRecord) : Prop :=
  run.engages app service ∧ service.mServiceName = name

/-- The name is one of the live activities of the application. -/
def HasActivity
    (run : ComponentRun)
    (app : Nat)
    (name : String) : Prop :=
  ∃ activity, run.namesActivity app name activity

/-- It is one of the services that are engaged in it. -/
def HasService
    (run : ComponentRun)
    (app : Nat)
    (name : String) : Prop :=
  ∃ service, run.namesService app name service

/-- `checkActivity` finds a live activity of the name if there is one. -/
theorem ExactLists.checkActivity_cases
    (exact : run.ExactLists app record)
    (name : String) :
    (run.inner.checkActivity record name = some none ∧
        ¬ run.HasActivity app name) ∨
      ∃ activity,
        run.inner.checkActivity record name = some (some activity) ∧
          run.namesActivity app name activity := by
  rw [ActivityManagerInner.checkActivity,
    findExisting_eq exact.activitiesLock]
  cases isFound :
      record.mExistActivity.find? fun activity =>
        run.inner.lockActivity activity = some name with
  | none =>
      refine .inl ⟨rfl, ?_⟩
      rintro ⟨activity, isHosted, isName⟩
      have isListed := (exact.activities activity).mpr isHosted
      obtain ⟨found, isLocked⟩ :=
        Option.isSome_iff_exists.mp (exact.activitiesLock activity isListed)
      have isFoundName :=
        (ActivityManagerInner.activityName_of_lockActivity
          isLocked).symm.trans isName
      rw [isFoundName] at isLocked
      exact
        List.find?_eq_none.mp isFound activity isListed
          (decide_eq_true isLocked)
  | some activity =>
      refine .inr ⟨activity, rfl, ?_, ?_⟩
      · exact
          (exact.activities activity).mp (List.mem_of_find?_eq_some isFound)
      · have isLocked := List.find?_some isFound
        exact
          ActivityManagerInner.activityName_of_lockActivity
            (of_decide_eq_true isLocked)

/-- `checkService` finds an engaged service of the name if there is one. -/
theorem ExactLists.checkService_cases
    (exact : run.ExactLists app record)
    (distinct : (run.inner.mServices.map ServiceRecord.mToken).Nodup)
    (name : String) :
    (run.inner.checkService record name = some none ∧
        ¬ run.HasService app name) ∨
      ∃ service,
        run.inner.checkService record name =
            some (some service.mToken) ∧
          run.namesService app name service := by
  rw [ActivityManagerInner.checkService,
    findExisting_eq exact.servicesLock]
  cases isFound :
      record.mExistService.find? fun token =>
        run.inner.lockService token = some name with
  | none =>
      refine .inl ⟨rfl, ?_⟩
      rintro ⟨service, isEngaged, isName⟩
      have isListed :=
        (exact.services service.mToken).mpr ⟨service, isEngaged, rfl⟩
      obtain ⟨found, isLocked⟩ :=
        Option.isSome_iff_exists.mp
          (exact.servicesLock service.mToken isListed)
      obtain ⟨other, isOther, isFoundName⟩ :=
        Option.map_eq_some_iff.mp isLocked
      obtain ⟨otherListed, sameToken⟩ := mem_of_getService isOther
      have isSame :=
        eq_of_mToken_eq distinct otherListed isEngaged.1 sameToken
      rw [← isFoundName, isSame, isName] at isLocked
      exact
        List.find?_eq_none.mp isFound service.mToken isListed
          (decide_eq_true isLocked)
  | some token =>
      have isListed := List.mem_of_find?_eq_some isFound
      obtain ⟨service, isEngaged, isToken⟩ :=
        (exact.services token).mp isListed
      have isLocked := List.find?_some isFound
      obtain ⟨other, isOther, isName⟩ :=
        Option.map_eq_some_iff.mp (of_decide_eq_true isLocked)
      obtain ⟨otherListed, sameToken⟩ := mem_of_getService isOther
      have isSame :=
        eq_of_mToken_eq distinct otherListed isEngaged.1
          (sameToken.trans isToken.symm)
      exact
        .inr ⟨service, by rw [isToken], isEngaged, isSame ▸ isName⟩

/-! ## Posts -/

/-- The intent with the target of a component. -/
def aimed
    (intent : Intent)
    (packageName componentName : String) : Intent :=
  { intent with mTarget := componentNameSplice packageName componentName }

/-- What `postIntent` returns where it posts to a component. -/
def posts
    (app : Nat)
    (token : PostToken)
    (intent : Intent) : Option (Int × List PostedIntent) :=
  some (0, [{ app := app, token := token, intent := intent }])

/--
The intent goes to a live activity that its target names; if there is none, to
a service that runs under the name of the component; or else nowhere.
-/
structure ReachesComponent
    (run : ComponentRun)
    (app : Nat)
    (packageName componentName : String)
    (intent : Intent) : Prop where
  toActivity :
    run.HasActivity app (componentNameSplice packageName componentName) →
    ∃ activity,
      run.namesActivity app (componentNameSplice packageName componentName)
          activity ∧
        run.inner.postIntent (aimed intent packageName componentName) =
          posts app (.activity activity)
            (aimed intent packageName componentName)
  toService :
    ¬ run.HasActivity app
        (componentNameSplice packageName componentName) →
    run.HasService app componentName →
    ∃ service,
      run.namesService app componentName service ∧
        run.inner.postIntent (aimed intent packageName componentName) =
          posts app (.service service.mToken)
            (aimed intent packageName componentName)
  nowhere :
    ¬ run.HasActivity app
        (componentNameSplice packageName componentName) →
    ¬ run.HasService app componentName →
    run.inner.postIntent (aimed intent packageName componentName) =
      some (-1, [])

/--
The target is no alias and has a component, which is the name of an activity,
or neither alone nor with its package that of a service.
-/
def NamesPlainly
    (run : ComponentRun)
    (app : Nat)
    (packageName componentName : String) : Prop :=
  let target := componentNameSplice packageName componentName
  if Intent.isSystemTarget target then
    ¬ run.HasActivity app target ∧ ¬ run.HasService app componentName
  else
    componentName.isEmpty = false ∧
      (run.HasActivity app target ∨
        ¬ run.HasService app componentName ∧
          ¬ run.HasService app target)

/-- A system target reaches no component. -/
theorem postIntent_system
    (isSystem :
      Intent.isSystemTarget
        (componentNameSplice packageName componentName) = true)
    (intent : Intent) :
    run.inner.postIntent (aimed intent packageName componentName) =
      some (-1, []) := by
  unfold ActivityManagerInner.postIntent aimed
  dsimp only
  rw [if_pos isSystem,
    ActivityManagerInner.findSystemTarget_componentNameSplice]
  rfl

/-- Any other one is looked up in the application of its package. -/
theorem postIntent_component
    (noSlash : '/' ∉ packageName.toList)
    (isAlive : run.inner.findAppInfoWithAlive packageName = some app)
    (isRecord : run.inner.manager.apps app = some record)
    (notSystem :
      Intent.isSystemTarget
        (componentNameSplice packageName componentName) = false)
    (intent : Intent) :
    run.inner.postIntent (aimed intent packageName componentName) =
      if componentName.isEmpty then
        posts app (.application app)
          (aimed intent packageName componentName)
      else
        (run.inner.checkActivity record
            (componentNameSplice packageName componentName)).bind
          fun
          | some activity =>
              posts app (.activity activity)
                (aimed intent packageName componentName)
          | none =>
              (run.inner.checkService record
                  (componentNameSplice packageName componentName)).bind
                fun
                | some token =>
                    posts app (.service token)
                      (aimed intent packageName componentName)
                | none =>
                    some (-1, []) := by
  have isRunning : record.mStatus = .appRunning := by
    have isFound := List.find?_some isAlive
    rw [isRecord, Option.any_some, decide_eq_true_iff] at isFound
    exact isFound.2
  have schedules :
      ∀ token intent,
        run.inner.scheduleReceiveIntent app token intent =
          [{ app := app, token := token, intent := intent }] := by
    intro token intent
    rw [ActivityManagerInner.scheduleReceiveIntent, isRecord]
    dsimp only
    rw [if_pos]
    rw [isRunning]
    nofun
  unfold ActivityManagerInner.postIntent aimed
  dsimp only
  rw [notSystem, if_neg Bool.false_ne_true,
    ActivityManagerInner.findComponent,
    getPackageAndComponentName_splice noSlash]
  dsimp only
  rw [isAlive]
  dsimp only
  rw [isRecord]
  cases isEmpty : componentName.isEmpty with
  | true =>
      simp [posts, schedules]
  | false =>
      cases isActivity :
          run.inner.checkActivity record
            (componentNameSplice packageName componentName) with
      | none =>
          simp [isActivity]
      | some found =>
          cases found with
          | some activity =>
              simp [isActivity, posts, schedules]
          | none =>
              cases isService :
                  run.inner.checkService record
                    (componentNameSplice packageName componentName) with
              | none =>
                  simp [isActivity, isService]
              | some service =>
                  cases service <;>
                    simp [isActivity, isService, posts, schedules]

/-- Something is posted to one token, or nothing at all. -/
theorem posts_inj
    {token other : PostToken}
    {intent : Intent}
    (isSame : posts app token intent = posts app other intent) :
    token = other := by
  unfold posts at isSame
  injection isSame with isPair
  injection isPair with _ areSame
  injection areSame with isFirst _
  injection isFirst

theorem posts_ne
    (app : Nat)
    (token : PostToken)
    (intent : Intent) :
    posts app token intent ≠ some (-1, []) :=
  nofun

/-- Nothing is reached where everything goes to one application. -/
theorem not_reachesComponent_of_application
    {intent : Intent}
    (isPosted :
      run.inner.postIntent (aimed intent packageName componentName) =
        posts app (.application app)
          (aimed intent packageName componentName)) :
    ¬ run.ReachesComponent app packageName componentName intent := by
  intro reaches
  by_cases hasActivity :
      run.HasActivity app (componentNameSplice packageName componentName)
  · obtain ⟨_, _, isToken⟩ := reaches.toActivity hasActivity
    exact absurd (posts_inj (isPosted.symm.trans isToken)) nofun
  · by_cases hasService : run.HasService app componentName
    · obtain ⟨_, _, isToken⟩ := reaches.toService hasActivity hasService
      exact absurd (posts_inj (isPosted.symm.trans isToken)) nofun
    · have isNothing := reaches.nowhere hasActivity hasService
      exact posts_ne _ _ _ (isPosted.symm.trans isNothing)

/-- Where nothing is posted, nothing must be there to be reached. -/
theorem reachesComponent_iff_of_nothing
    {intent : Intent}
    (isPosted :
      run.inner.postIntent (aimed intent packageName componentName) =
        some (-1, [])) :
    run.ReachesComponent app packageName componentName intent ↔
      ¬ run.HasActivity app
          (componentNameSplice packageName componentName) ∧
        ¬ run.HasService app componentName := by
  constructor
  · intro reaches
    have noActivity :
        ¬ run.HasActivity app
          (componentNameSplice packageName componentName) := by
      intro hasActivity
      obtain ⟨_, _, isToken⟩ := reaches.toActivity hasActivity
      exact posts_ne _ _ _ (isToken.symm.trans isPosted)
    refine ⟨noActivity, ?_⟩
    intro hasService
    obtain ⟨_, _, isToken⟩ := reaches.toService noActivity hasService
    exact posts_ne _ _ _ (isToken.symm.trans isPosted)
  · rintro ⟨noActivity, noService⟩
    exact
      { toActivity := fun hasActivity => absurd hasActivity noActivity
        toService := fun _ hasService => absurd hasService noService
        nowhere := fun _ _ => isPosted }

/-- A service that is found has another name than the component. -/
theorem not_reachesComponent_of_service
    {service : ServiceRecord}
    {intent : Intent}
    (distinct : (run.inner.mServices.map ServiceRecord.mToken).Nodup)
    (noActivity :
      ¬ run.HasActivity app
          (componentNameSplice packageName componentName))
    (isNamed :
      run.namesService app (componentNameSplice packageName componentName)
        service)
    (isPosted :
      run.inner.postIntent (aimed intent packageName componentName) =
        posts app (.service service.mToken)
          (aimed intent packageName componentName)) :
    ¬ run.ReachesComponent app packageName componentName intent := by
  intro reaches
  by_cases hasService : run.HasService app componentName
  · obtain ⟨other, ⟨isEngaged, isName⟩, isToken⟩ :=
      reaches.toService noActivity hasService
    have sameToken := posts_inj (isPosted.symm.trans isToken)
    injection sameToken with sameToken
    have isSame :=
      eq_of_mToken_eq distinct isNamed.1.1 isEngaged.1 sameToken
    rw [← isSame, isNamed.2] at isName
    exact componentNameSplice_ne packageName componentName isName
  · have isNothing := reaches.nowhere noActivity hasService
    exact posts_ne _ _ _ (isPosted.symm.trans isNothing)

/-- With exact lists, plain names are those that reach their components. -/
theorem ExactLists.reachesComponent_iff
    (exact : run.ExactLists app record)
    (distinct : (run.inner.mServices.map ServiceRecord.mToken).Nodup)
    (noSlash : '/' ∉ packageName.toList)
    (isAlive : run.inner.findAppInfoWithAlive packageName = some app)
    (isRecord : run.inner.manager.apps app = some record)
    (intent : Intent) :
    run.ReachesComponent app packageName componentName intent ↔
      run.NamesPlainly app packageName componentName := by
  unfold NamesPlainly
  dsimp only
  cases isSystem :
      Intent.isSystemTarget
        (componentNameSplice packageName componentName) with
  | true =>
      rw [if_pos rfl]
      exact
        reachesComponent_iff_of_nothing (postIntent_system isSystem intent)
  | false =>
      rw [if_neg Bool.false_ne_true]
      have isPosted :=
        postIntent_component noSlash isAlive isRecord isSystem intent
      cases isEmpty : componentName.isEmpty with
      | true =>
          rw [isEmpty, if_pos rfl] at isPosted
          exact
            iff_of_false (not_reachesComponent_of_application isPosted)
              fun plain => absurd plain.1 nofun
      | false =>
          rw [isEmpty, if_neg Bool.false_ne_true] at isPosted
          rw [and_iff_right rfl]
          rcases exact.checkActivity_cases
              (componentNameSplice packageName componentName) with
            ⟨isChecked, noActivity⟩ | ⟨activity, isChecked, isNamed⟩
          · rw [isChecked, Option.bind_some] at isPosted
            rw [or_iff_right noActivity]
            rcases exact.checkService_cases distinct
                (componentNameSplice packageName componentName) with
              ⟨isChecked, noService⟩ | ⟨service, isChecked, isNamed⟩
            · rw [isChecked, Option.bind_some] at isPosted
              rw [reachesComponent_iff_of_nothing isPosted,
                and_iff_right noActivity, and_iff_left noService]
            · rw [isChecked, Option.bind_some] at isPosted
              exact
                iff_of_false
                  (not_reachesComponent_of_service distinct noActivity
                    isNamed isPosted)
                  fun plain => plain.2 ⟨service, isNamed⟩
          · rw [isChecked, Option.bind_some] at isPosted
            have hasActivity :
                run.HasActivity app
                  (componentNameSplice packageName componentName) :=
              ⟨activity, isNamed⟩
            refine iff_of_true ?_ (.inl hasActivity)
            exact
              { toActivity := fun _ => ⟨activity, isNamed, isPosted⟩
                toService := fun noActivity =>
                  absurd hasActivity noActivity
                nowhere := fun noActivity =>
                  absurd hasActivity noActivity }

/-- An application that is found has a record. -/
theorem exists_record_of_alive
    {inner : ActivityManagerInner}
    (isAlive : inner.findAppInfoWithAlive packageName = some app) :
    ∃ record, inner.manager.apps app = some record := by
  have isFound := List.find?_some isAlive
  obtain ⟨record, isRecord, _⟩ := (Option.any_eq_true _ _).mp isFound
  exact ⟨record, isRecord⟩

/--
While the lists are exact, an intent reaches the component that its target
names if and only if an activity is named so, or no service is: services are
looked up by the whole target.
-/
theorem reachesComponent_iff_of_reachable
    (lines : List LmkRow)
    (arena : Int)
    (now : Nat)
    (run : ComponentRun)
    (reachable :
      Reachable step? PermittedListed (start lines arena now) run)
    (packageName : String)
    (noSlash : '/' ∉ packageName.toList)
    (app : Nat)
    (isAlive : run.inner.findAppInfoWithAlive packageName = some app)
    (componentName : String)
    (intent : Intent) :
    run.ReachesComponent app packageName componentName intent ↔
      run.NamesPlainly app packageName componentName := by
  have kept := componentsKept_of_reachable reachable
  obtain ⟨record, isRecord⟩ := exists_record_of_alive isAlive
  exact
    (kept.exactLists isRecord).reachesComponent_iff
      kept.services.numbered.distinct noSlash isAlive isRecord intent

/-- A process with an activity and a service. -/
def musicRun : Option ComponentRun :=
  run? step? (start [] 0 0)
    [.startService "player" ActivityManagerInner.musicPackage
        ActivityManagerInner.plainIntent (some 11),
      .attachApplication 11 false,
      .startActivity "main" ActivityManagerInner.musicPackage
        ActivityManagerInner.plainIntent none true none]

/-- An intent for the activity reaches it. -/
theorem musicRun_reachesComponent :
    (musicRun.get rfl).ReachesComponent 0 "music" "main"
      ActivityManagerInner.plainIntent := by
  have accepted : musicRun = some (musicRun.get rfl) :=
    (Option.some_get _).symm
  have isReached :=
    reachesComponent_iff_of_reachable [] 0 0 _
      (Reachable.of_run? (by decide) accepted) "music" (by decide) 0
      (by decide) "main" ActivityManagerInner.plainIntent
  refine isReached.mpr ⟨by decide, .inl ⟨0, ⟨?_, ?_⟩, ?_⟩⟩
  · decide
  · decide
  · decide

/-- One for the service is posted nowhere. -/
theorem musicRun_misses :
    ¬ ∀ run,
      Reachable step? Permitted (start [] 0 0) run →
      ∀ packageName app componentName intent,
        '/' ∉ packageName.toList →
        run.inner.findAppInfoWithAlive packageName = some app →
        run.ReachesComponent app packageName componentName intent := by
  intro alwaysReaches
  have accepted : musicRun = some (musicRun.get rfl) :=
    (Option.some_get _).symm
  have reaches :=
    alwaysReaches _ (Reachable.of_run? (by decide) accepted) "music" 0
      "player" ActivityManagerInner.plainIntent (by decide) (by decide)
  have isNothing :
      (musicRun.get rfl).inner.postIntent
          (aimed ActivityManagerInner.plainIntent "music" "player") =
        some (-1, []) := by
    decide
  have noService :=
    ((reachesComponent_iff_of_nothing isNothing).mp reaches).2
  apply noService
  have isEngaged :
      ∃ service ∈ (musicRun.get rfl).inner.mServices,
        service.mApp = 0 ∧ service.isEngaged = true ∧
          service.mServiceName = "player" := by
    decide
  obtain ⟨service, isListed, isHosted, isEngaged, isName⟩ := isEngaged
  exact ⟨service, ⟨isListed, isHosted, isEngaged⟩, isName⟩

end ComponentRun

end ActivityManager
