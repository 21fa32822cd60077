import ActivityManager.ServiceRuns

/-!
# Broadcasts of starts and exits

The service broadcasts `APP_START` when a process attaches and `APP_EXIT` when
it exits.  Whoever has listened from the beginning can tell from these alone
which packages have processes, and how many.
-/

namespace ActivityManager

open StepSystem (run? AllowedRun Reachable)

namespace ActivityManagerInner

variable {inner next : ActivityManagerInner}

/-- The packages of the applications that are listed. -/
def listedNames (inner : ActivityManagerInner) : List String :=
  inner.listed AppRecord.mPackageName

/-- Only processes that attach or exit change them. -/
theorem listedNames_of_run
    {actions : List InnerAction}
    (areOrdinary : ∀ action ∈ actions, action.isOrdinary = true)
    (isNext : run? step? inner actions = some next) :
    next.listedNames = inner.listedNames := by
  induction actions generalizing inner with
  | nil =>
      rw [← Option.some.inj isNext]
  | cons action rest inductionHypothesis =>
      simp only [run?] at isNext
      split at isNext
      · cases isNext
      · rename_i middle isMiddle
        have restOrdinary : ∀ other ∈ rest, other.isOrdinary = true :=
          fun other member =>
            areOrdinary other (List.mem_cons_of_mem _ member)
        rw [inductionHypothesis restOrdinary isNext]
        exact
          (step?_spawns (areOrdinary action List.mem_cons_self)
            isMiddle).listed_eq fun _ _ isSame => isSame.mPackageName

end ActivityManagerInner

namespace Intent

/-- Broadcasts of another action are none of this one. -/
theorem count_ofAction_of_ne
    {action other : String}
    (isOther : other ≠ action)
    (names : List String)
    (packageName : String) :
    (names.map (ofAction other)).count (ofAction action packageName) =
      0 := by
  refine List.count_eq_zero_of_not_mem ?_
  intro member
  obtain ⟨name, _, isSame⟩ := List.mem_map.mp member
  exact isOther (congrArg Intent.mAction isSame)

/-- One broadcast of a package. -/
theorem count_singleton_ofAction
    (action name packageName : String) :
    [ofAction action name].count (ofAction action packageName) =
      [name].count packageName := by
  have isSame :
      ofAction action name = ofAction action packageName ↔
        name = packageName :=
    ⟨congrArg Intent.mData, congrArg (ofAction action)⟩
  simp only [List.count_singleton, beq_iff_eq, isSame]

end Intent

namespace ActivityManagerService

variable
  {packages : List PackageInfo}
  {service next : ActivityManagerService}

/-- How often an action has been broadcast about a package. -/
def timesAnnounced
    (service : ActivityManagerService)
    (action packageName : String) : Nat :=
  service.announced.count (.ofAction action packageName)

/-- A broadcast counts for its own action. -/
theorem announce_timesAnnounced
    (service : ActivityManagerService)
    (action name packageName : String) :
    (service.announce action name).timesAnnounced action packageName =
      service.timesAnnounced action packageName +
        [name].count packageName := by
  unfold timesAnnounced announce
  dsimp only
  rw [List.count_append, Intent.count_singleton_ofAction]

/-- A broadcast does not count for other actions. -/
theorem announce_timesAnnounced_of_ne
    (service : ActivityManagerService)
    {action other : String}
    (isOther : other ≠ action)
    (name packageName : String) :
    (service.announce other name).timesAnnounced action packageName =
      service.timesAnnounced action packageName := by
  have none := Intent.count_ofAction_of_ne isOther [name] packageName
  unfold timesAnnounced announce
  dsimp only
  rw [List.count_append]
  exact congrArg (service.announced.count _ + ·) none

/-- The broadcasts of an exit are those of the name, if there is one. -/
theorem announceExit_timesAnnounced
    (service : ActivityManagerService)
    (name : Option String)
    (packageName : String) :
    (service.announceExit name).timesAnnounced Intent.broadcastAppExit
        packageName =
      service.timesAnnounced Intent.broadcastAppExit packageName +
        name.toList.count packageName := by
  cases name with
  | none =>
      rfl
  | some name =>
      exact service.announce_timesAnnounced _ name packageName

theorem announceExit_timesAnnounced_of_ne
    (service : ActivityManagerService)
    {action : String}
    (isOther : Intent.broadcastAppExit ≠ action)
    (name : Option String)
    (packageName : String) :
    (service.announceExit name).timesAnnounced action packageName =
      service.timesAnnounced action packageName := by
  cases name with
  | none =>
      rfl
  | some name =>
      exact service.announce_timesAnnounced_of_ne isOther name packageName

/-- The functions of the interface only announce top activities. -/
theorem Conduct.timesAnnounced_eq
    {action : String}
    (conduct : Conduct service next)
    (isOther : Intent.broadcastTopActivity ≠ action)
    (packageName : String) :
    next.timesAnnounced action packageName =
      service.timesAnnounced action packageName := by
  obtain ⟨names, broadcasts⟩ := conduct.broadcasts
  unfold timesAnnounced
  rw [broadcasts.announced, List.count_append,
    Intent.count_ofAction_of_ne isOther names, Nat.add_zero]

/-- And the listed applications stay. -/
theorem Conduct.listedNames_eq
    (conduct : Conduct service next) :
    next.inner.listedNames = service.inner.listedNames := by
  obtain ⟨actions, performs, areOrdinary⟩ := conduct.performs
  exact ActivityManagerInner.listedNames_of_run areOrdinary performs.runs

/-- Each start has had its exit, unless the application is listed. -/
def TellsApplications (service : ActivityManagerService) : Prop :=
  ∀ packageName,
    service.timesAnnounced Intent.broadcastAppStart packageName =
      service.timesAnnounced Intent.broadcastAppExit packageName +
        service.inner.listedNames.count packageName

namespace TellsApplications

theorem conduct
    (before : TellsApplications service)
    (conduct : Conduct service next) :
    TellsApplications next := by
  intro packageName
  rw [conduct.timesAnnounced_eq (by decide),
    conduct.timesAnnounced_eq (by decide), conduct.listedNames_eq]
  exact before packageName

/-- A process that attaches is announced. -/
theorem attached
    {callerPid : Nat}
    {isSystemUI : Bool}
    (before : TellsApplications service)
    (distinct : service.inner.DistinctProcesses)
    (isAttached : Attached service callerPid isSystemUI next) :
    TellsApplications next := by
  cases isAttached with
  | ignored =>
      exact before
  | @announced name inner notKnown isWaiting isInner =>
      intro packageName
      have listed :
          inner.listedNames = service.inner.listedNames ++ [name] :=
        (ActivityManagerInner.attachApplication_outcome
          isInner).listed_eq distinct notKnown isWaiting
            fun _ _ isSame => isSame.mPackageName
      have known := before packageName
      rw [announce_timesAnnounced,
        announce_timesAnnounced_of_ne _ (by decide)]
      change
        service.timesAnnounced _ packageName + _ =
          service.timesAnnounced _ packageName +
            inner.listedNames.count packageName
      rw [listed, List.count_append, known]
      exact Nat.add_assoc _ _ _

/-- A process that exits is announced if it had attached. -/
theorem exited
    {pid : Nat}
    {inner : ActivityManagerInner}
    (before : TellsApplications service)
    (distinct : service.inner.DistinctProcesses)
    (isNext : service.inner.step? (.childExit pid) = some inner) :
    TellsApplications
      ((service.become (.childExit pid) inner).announceExit
        (service.inner.appName pid)) := by
  intro packageName
  have outcome := ActivityManagerInner.childExit_outcome isNext
  have listed :
      service.inner.listedNames.Perm
        (inner.listedNames ++ (service.inner.appName pid).toList) :=
    outcome.listed_perm distinct fun _ _ isSame => isSame.mPackageName
  have counted := listed.count_eq packageName
  rw [List.count_append] at counted
  have known := before packageName
  rw [announceExit_timesAnnounced,
    announceExit_timesAnnounced_of_ne _ (by decide)]
  have sameInner :
      ((service.become (.childExit pid) inner).announceExit
        (service.inner.appName pid)).inner = inner := by
    unfold announceExit
    split <;> rfl
  rw [sameInner]
  change
    service.timesAnnounced _ packageName =
      service.timesAnnounced _ packageName + _ + _
  omega

/-- Every step keeps the account. -/
theorem step
    {action : ServiceAction}
    (before : TellsApplications service)
    (distinct : service.inner.DistinctProcesses)
    (isNext : service.step? packages action = some next) :
    TellsApplications next := by
  cases isApart : action.isApart with
  | false =>
      exact before.conduct (step?_conduct isApart isNext)
  | true =>
      cases action with
      | attachApplication callerPid isSystemUI =>
          exact before.attached distinct (attachApplication_cases isNext)
      | startActivity caller intent requestCode launch =>
          obtain ⟨started, conduct, ends⟩ := startActivity_cases isNext
          have kept := before.conduct conduct
          rcases ends with rfl | rfl
          · exact kept
          · intro packageName
            unfold timesAnnounced
            rw [keepRequest_announced, keepRequest_inner]
            exact kept packageName
      | childExit pid launch =>
          obtain ⟨inner, isInner, conduct⟩ := childExit_cases isNext
          exact (before.exited distinct isInner).conduct conduct
      | sendBroadcast intent =>
          rw [← Option.some.inj isNext]
          exact before
      | registerReceiver action receiver =>
          rw [← Option.some.inj isNext]
          exact before
      | unregisterReceiver receiver =>
          rw [← Option.some.inj isNext]
          exact before
      | _ =>
          cases isApart

end TellsApplications

/-- In every run the applications stay distinct, and are told of. -/
theorem toldDistinct_of_reachable
    {lines : List LmkRow}
    {arena mRunMode : Int}
    {now : Nat}
    (reachable :
      Reachable (step? packages)
        (Allows packages ActivityManagerInner.Permitted)
        (start lines arena now mRunMode) service) :
    service.inner.DistinctProcesses ∧ TellsApplications service := by
  refine reachable.invariant ⟨.start lines arena now, ?_⟩ ?_
  · intro packageName
    rfl
  · intro middle action after before isAllowed isNext
    obtain ⟨actions, allowedRun, accepted⟩ := isAllowed.exists_run isNext
    refine ⟨?_, before.2.step before.1 isNext⟩
    refine (Reachable.of_run? allowedRun accepted).invariant before.1 ?_
    intro inner innerAction innerNext distinct isPermitted isInner
    exact distinct.step isPermitted isInner

/--
In every run in which new processes get pids that no process has, as many
starts of each package as exits have been broadcast, and one for each of its
applications that is listed.
-/
theorem tellsApplications_of_reachable
    (packages : List PackageInfo)
    (lines : List LmkRow)
    (arena : Int)
    (now : Nat)
    (mRunMode : Int)
    (service : ActivityManagerService)
    (reachable :
      Reachable (step? packages)
        (Allows packages ActivityManagerInner.Permitted)
        (start lines arena now mRunMode) service) :
    TellsApplications service :=
  (toldDistinct_of_reachable reachable).2

/-- The music player has started and exited. -/
theorem crashedMusic_tellsApplications :
    (crashedMusic.get rfl).timesAnnounced Intent.broadcastAppExit "music" =
        1 ∧
      TellsApplications (crashedMusic.get rfl) := by
  have accepted : crashedMusic = some (crashedMusic.get rfl) :=
    (Option.some_get _).symm
  refine ⟨by decide, ?_⟩
  exact
    tellsApplications_of_reachable [ActivityManagerInner.musicPackage] [] 0
      0 0 _ (Reachable.of_run? (by decide) accepted)

end ActivityManagerService

end ActivityManager
