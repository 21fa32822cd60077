import ActivityManager.IdleApplications
import ActivityManager.PostIntent

/-!
# What applications list

In a run that starts no listed service, binds none that has only its flags
left, and is told of no end too early, every application lists its live
activities and the services that are engaged in it, once each.
-/

namespace ActivityManager

open StepSystem (Reachable run?)

/-- The service, with the activities that are live. -/
structure ComponentRun where
  inner : ActivityManagerInner
  /-- They were launched, and have neither been destroyed nor given up. -/
  live : List Nat

namespace ComponentRun

/-- Nothing was launched by a new service. -/
def start
    (lines : List LmkRow)
    (arena : Int)
    (now : Nat) : ComponentRun where
  inner := .start lines arena now
  live := []

/-- What a step ends is not live any more, and what it launches is. -/
def withStep
    (run : ComponentRun)
    (action : InnerAction)
    (next : ActivityManagerInner) : ComponentRun where
  inner := next
  live :=
    run.inner.survivors run.live action ++
      launches
        (next.manager.calls.drop run.inner.manager.calls.length)

/-- Perform one step. -/
def step?
    (run : ComponentRun)
    (action : InnerAction) : Option ComponentRun :=
  (run.inner.step? action).map (run.withStep action)

/-- The pids are new. -/
def Permitted
    (run : ComponentRun)
    (action : InnerAction) : Prop :=
  run.inner.Permitted action

/-- The lists stay exact, too. -/
def PermittedListed
    (run : ComponentRun)
    (action : InnerAction) : Prop :=
  run.inner.Permitted action ∧
    run.inner.keepsServicesListed action = true ∧
    run.inner.renewsListed action = false

instance decidablePermitted
    (run : ComponentRun)
    (action : InnerAction) :
    Decidable (run.Permitted action) :=
  inferInstanceAs (Decidable (_ = true))

instance decidablePermittedListed
    (run : ComponentRun)
    (action : InnerAction) :
    Decidable (run.PermittedListed action) :=
  inferInstanceAs (Decidable (_ ∧ _ ∧ _))

/-! ## The invariant -/

/-- What holds in every such run. -/
structure ComponentsKept (run : ComponentRun) : Prop where
  distinct : run.inner.DistinctProcesses
  awaited : run.inner.AwaitedUnhosted
  noneStopped : run.inner.manager.NoneStopped none
  activities :
    TaskStackManager.ActivitiesListed run.live run.inner.manager
  services : run.inner.ServicesKept

theorem ComponentsKept.start
    (lines : List LmkRow)
    (arena : Int)
    (now : Nat) :
    ComponentsKept (start lines arena now) where
  distinct := .start lines arena now
  awaited := .start lines arena now
  noneStopped _ _ isRecord _ := absurd isRecord nofun
  activities :=
    { numbered :=
        { tokens := fun _ _ isRecord => absurd isRecord nofun
          unused := fun _ _ => rfl
          hosts := fun _ _ _ isRecord _ => absurd isRecord nofun }
      fresh := fun _ _ isRecord _ => absurd isRecord nofun
      launched := fun _ isLive => absurd isLive List.not_mem_nil
      distinct := fun _ _ isRecord => absurd isRecord nofun
      listed := fun _ _ isRecord _ => absurd isRecord nofun
      begun := fun _ _ isRecord _ => absurd isRecord nofun }
  services := .start lines arena now

/-- Every step that is permitted keeps it. -/
theorem ComponentsKept.step
    {run next : ComponentRun}
    {action : InnerAction}
    (before : run.ComponentsKept)
    (isPermitted : run.PermittedListed action)
    (isNext : run.step? action = some next) :
    next.ComponentsKept := by
  obtain ⟨distinct, awaited, noneStopped, activities, services⟩ := before
  obtain ⟨isFresh, keepsListed, notRenewed⟩ := isPermitted
  obtain ⟨after, isAfter, isNext⟩ := Option.map_eq_some_iff.mp isNext
  subst isNext
  have follows :=
    ActivityManagerInner.step?_listsFollow activities noneStopped awaited
      distinct.bounded notRenewed isAfter
  refine
    { distinct := distinct.step isFresh isAfter
      awaited := awaited.step isAfter
      noneStopped := follows.noneStopped
      activities := ?_
      services := services.step distinct.bounded keepsListed isAfter }
  obtain ⟨calls, isCalls, _, listed⟩ := follows.since
  have isLive :
      (run.withStep action after).live =
        run.inner.survivors run.live action ++ launches calls := by
    rw [withStep, isCalls, List.drop_left]
  rw [isLive]
  exact listed

/-- It holds in every state of such a run. -/
theorem componentsKept_of_reachable
    {lines : List LmkRow}
    {arena : Int}
    {now : Nat}
    {run : ComponentRun}
    (reachable :
      Reachable step? PermittedListed (start lines arena now) run) :
    run.ComponentsKept := by
  refine reachable.invariant (.start lines arena now) ?_
  intro middle action after before isPermitted isNext
  exact before.step isPermitted isNext

/-! ## The lists of an application -/

variable
  {run : ComponentRun}
  {app : Nat}
  {record : AppRecord}

/-- The live activities of the application. -/
def hosts
    (run : ComponentRun)
    (app activity : Nat) : Prop :=
  activity ∈ run.live ∧
    run.inner.manager.isHostedBy app activity = true

/-- The services that were started or bound in it, and are so still. -/
def engages
    (run : ComponentRun)
    (app : Nat)
    (service : ServiceRecord) : Prop :=
  service ∈ run.inner.mServices ∧
    service.mApp = app ∧
    service.isEngaged = true

/-- The lists of an application are exact. -/
structure ExactLists
    (run : ComponentRun)
    (app : Nat)
    (record : AppRecord) : Prop where
  activitiesDistinct : record.mExistActivity.Nodup
  activitiesLock :
    ∀ activity ∈ record.mExistActivity,
      (run.inner.lockActivity activity).isSome = true
  activities :
    ∀ activity, activity ∈ record.mExistActivity ↔ run.hosts app activity
  servicesDistinct : record.mExistService.Nodup
  servicesLock :
    ∀ token ∈ record.mExistService,
      (run.inner.lockService token).isSome = true
  services :
    ∀ token,
      token ∈ record.mExistService ↔
        ∃ service, run.engages app service ∧ service.mToken = token
  checkActivity :
    ∀ name, (run.inner.checkActivity record name).isSome = true
  checkService :
    ∀ name, (run.inner.checkService record name).isSome = true
  idle :
    record.checkActiveStatus = false ↔
      (∀ activity, ¬ run.hosts app activity) ∧
        ∀ service, ¬ run.engages app service

/-- All lists are, and applications that become idle are told so. -/
structure ListsExact (run : ComponentRun) : Prop where
  exact :
    ∀ app record,
      run.inner.manager.apps app = some record →
      run.ExactLists app record
  told :
    ∀ action app next,
      run.inner.endedApp action = some app →
      run.step? action = some next →
      next.inner.manager.IdleIsTold app

/-- A known activity has a name. -/
theorem lockActivity_eq
    {inner : ActivityManagerInner}
    {activity : Nat}
    (known : activity ∈ inner.manager.mActivityMap) :
    inner.lockActivity activity = inner.activityName activity := by
  unfold ActivityManagerInner.lockActivity
  rw [if_pos]
  unfold ActivityManagerInner.isKept
  simp [known]

/-- So it is in every such run. -/
theorem ComponentsKept.exactLists
    (kept : run.ComponentsKept)
    (isRecord : run.inner.manager.apps app = some record) :
    run.ExactLists app record := by
  have notStopped := kept.noneStopped app record isRecord nofun
  have activities :=
    kept.activities.listed app record isRecord notStopped
  have services := kept.services.listed.listed app record isRecord
  have activitiesLock :
      ∀ activity ∈ record.mExistActivity,
        (run.inner.lockActivity activity).isSome = true := by
    intro activity isListed
    have known :=
      (kept.activities.begun app record isRecord notStopped activity
        isListed).1
    obtain ⟨found, _, isFound, _⟩ :=
      kept.activities.launched activity ((activities activity).mp isListed).1
    rw [lockActivity_eq known, ActivityManagerInner.activityName, isFound]
    rfl
  have servicesLock :
      ∀ token ∈ record.mExistService,
        (run.inner.lockService token).isSome = true := by
    intro token isListed
    obtain ⟨service, isService, isToken, _⟩ := (services token).mp isListed
    rw [ActivityManagerInner.lockService, Option.isSome_map,
      getService, List.find?_isSome]
    exact ⟨service, isService, beq_iff_eq.mpr isToken⟩
  refine
    { activitiesDistinct :=
        kept.activities.distinct app record isRecord
      activitiesLock := activitiesLock
      activities := activities
      servicesDistinct := kept.services.listed.distinct app record isRecord
      servicesLock := servicesLock
      services := ?_
      checkActivity := ?_
      checkService := ?_
      idle := ?_ }
  · intro token
    rw [services token]
    constructor
    · rintro ⟨service, isListed, isToken, isHosted, isEngaged⟩
      exact ⟨service, ⟨isListed, isHosted, isEngaged⟩, isToken⟩
    · rintro ⟨service, ⟨isListed, isHosted, isEngaged⟩, isToken⟩
      exact ⟨service, isListed, isToken, isHosted, isEngaged⟩
  · intro name
    rw [ActivityManagerInner.checkActivity,
      findExisting_eq activitiesLock]
    rfl
  · intro name
    rw [ActivityManagerInner.checkService, findExisting_eq servicesLock]
    rfl
  · have noActivity :
        record.mExistActivity = [] ↔
          ∀ activity, ¬ run.hosts app activity := by
      rw [List.eq_nil_iff_forall_not_mem]
      exact forall_congr' fun activity => not_congr (activities activity)
    have noService :
        record.mExistService = [] ↔
          ∀ service, ¬ run.engages app service := by
      rw [List.eq_nil_iff_forall_not_mem]
      constructor
      · rintro isEmpty service ⟨isListed, isHosted, isEngaged⟩
        exact
          isEmpty service.mToken
            ((services service.mToken).mpr
              ⟨service, isListed, rfl, isHosted, isEngaged⟩)
      · intro noneEngaged token isListed
        obtain ⟨service, isService, _, isHosted, isEngaged⟩ :=
          (services token).mp isListed
        exact noneEngaged service ⟨isService, isHosted, isEngaged⟩
    rw [← noActivity, ← noService, AppRecord.checkActiveStatus]
    simp

/--
If no listed service is started, none that is not listed is bound while it has
flags, none is reported to be destroyed that is listed, and no report takes a
listed activity back to INIT, then the lists of every application are exact.
-/
theorem listsExact_of_reachable
    (lines : List LmkRow)
    (arena : Int)
    (now : Nat)
    (run : ComponentRun)
    (reachable :
      Reachable step? PermittedListed (start lines arena now) run) :
    run.ListsExact := by
  have kept := componentsKept_of_reachable reachable
  refine ⟨fun _ _ => kept.exactLists, ?_⟩
  intro action app next isEnded isNext
  obtain ⟨after, isAfter, isNext⟩ := Option.map_eq_some_iff.mp isNext
  rw [← isNext]
  exact ActivityManagerInner.step?_told isEnded isAfter

/-- A service is started, bound and stopped beside an activity. -/
def playerRun : Option ComponentRun :=
  run? step? (start [] 0 0)
    [.startService "player" ActivityManagerInner.musicPackage
        ActivityManagerInner.plainIntent (some 11),
      .attachApplication 11 false,
      .bindService "player" ActivityManagerInner.musicPackage
        ActivityManagerInner.plainIntent 5 none,
      .startActivity "main" ActivityManagerInner.musicPackage
        ActivityManagerInner.plainIntent none true none,
      .stopServiceByToken 0,
      .reportServiceStatus 0 ServiceStatus.destroyed]

/-- The lists are exact then. -/
theorem playerRun_listsExact :
    (playerRun.get rfl).ListsExact := by
  have accepted : playerRun = some (playerRun.get rfl) :=
    (Option.some_get _).symm
  exact
    listsExact_of_reachable [] 0 0 _
      (Reachable.of_run? (by decide) accepted)

/-- A service is started twice. -/
def startedTwice : Option ComponentRun :=
  run? step? (start [] 0 0)
    [.startService "player" ActivityManagerInner.musicPackage
        ActivityManagerInner.plainIntent (some 11),
      .attachApplication 11 false,
      .startService "player" ActivityManagerInner.musicPackage
        ActivityManagerInner.plainIntent none]

/-- Its application lists it twice. -/
theorem startedTwice_not_listsExact :
    ¬ ∀ run,
      Reachable step? Permitted (start [] 0 0) run →
      run.ListsExact := by
  intro alwaysExact
  have accepted : startedTwice = some (startedTwice.get rfl) :=
    (Option.some_get _).symm
  have exact :=
    alwaysExact _ (Reachable.of_run? (by decide) accepted)
  have isTwice :
      ∃ record,
        (startedTwice.get rfl).inner.manager.apps 0 = some record ∧
          ¬ record.mExistService.Nodup :=
    ⟨_, rfl, by decide⟩
  obtain ⟨record, isRecord, notDistinct⟩ := isTwice
  exact notDistinct (exact.exact 0 record isRecord).servicesDistinct

end ComponentRun

end ActivityManager
