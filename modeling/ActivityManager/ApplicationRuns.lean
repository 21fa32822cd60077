import ActivityManager.ServiceLifecycles

/-!
# Runs of an application process

A process may get any calls in any order.  In every state of every run each
activity object and each service has lived as its automaton says, and the
records of the process say how far it has come.  A clear, which both ways to
end a process perform, leaves no object behind but the dropped ones.
-/

namespace ActivityManager

open StepSystem (run? Reachable)
open EventTrace (eventsOf)

namespace ApplicationThread

/-- The process comes from a new one by any calls. -/
def IsReachable
    (mActivityMap mServiceMap : List String)
    (thread : ApplicationThread) : Prop :=
  Reachable step? (fun _ _ => True) (start mActivityMap mServiceMap) thread

/-- What has happened to the activity object of a launch. -/
def activityEvents
    (thread : ApplicationThread)
    (serial : Nat) : List ActivityEvent :=
  eventsOf ApplicationEvent.ofActivity? serial thread.trace

/-- What has happened to the services of a token. -/
def serviceEvents
    (thread : ApplicationThread)
    (token : Nat) : List ServiceEvent :=
  eventsOf ApplicationEvent.ofService? token thread.trace

variable
  {mActivityMap mServiceMap : List String}
  {thread next : ApplicationThread}

/-- A step performs its action. -/
theorem step?_eq_some
    {action : ApplicationAction}
    (isNext : thread.step? action = some next) :
    thread.perform action = next := by
  unfold step? at isNext
  split at isNext
  · exact Option.some.inj isNext
  · cases isNext

theorem activitiesKept_of_reachable
    (reachable : IsReachable mActivityMap mServiceMap thread) :
    ActivitiesKept thread := by
  refine Reachable.invariant (start_kept _ _) ?_ reachable
  intro state action next kept _ isNext
  rw [← step?_eq_some isNext]
  exact perform_kept kept action

theorem servicesKept_of_reachable
    (reachable : IsReachable mActivityMap mServiceMap thread) :
    ServicesKept thread := by
  refine Reachable.invariant (services_of_start _ _) ?_ reachable
  intro state action next kept _ isNext
  rw [← step?_eq_some isNext]
  exact services_of_perform kept action

/--
Every activity object lives as its automaton says, and is at the stage that
the records of the process say.
-/
theorem activitiesLive_of_reachable
    (mActivityMap mServiceMap : List String)
    (thread : ApplicationThread)
    (reachable : IsReachable mActivityMap mServiceMap thread)
    (serial : Nat) :
    run? ActivityStage.step? .unborn (thread.activityEvents serial) =
      some (thread.activityStage serial) :=
  (activitiesKept_of_reachable reachable).follows serial

/-- A process with two activities, one of them under a token in use. -/
def busyActions : List ApplicationAction :=
  [.call (.scheduleLaunchActivity 1 "main" 7 ⟨"app/main", "", "", 0⟩) true
      true,
    .call (.scheduleStartActivity 1 7 none) true true,
    .call (.scheduleLaunchActivity 1 "main" 7 ⟨"app/main", "", "", 0⟩) true
      true,
    .service (.scheduleBindService 1 "music" 9 ⟨"app/music", "", "", 0⟩ 4)
      (some 5),
    .call (.terminateApplication 1) true true,
    .terminate]

/-- The process after them. -/
def busy : ApplicationThread :=
  (run? step? (start ["main"] ["music"]) busyActions).getD (start [] [])

/-- It can get there. -/
theorem busy_reachable :
    IsReachable ["main"] ["music"] busy := by
  have accepted :
      run? step? (start ["main"] ["music"]) busyActions = some busy := by
    rfl
  exact
    Reachable.of_run?
      (StepSystem.allowedRun_of_forall (fun _ _ => trivial) _ _) accepted

theorem activitiesLive_of_reachable_busy :
    run? ActivityStage.step? .unborn (busy.activityEvents 0) =
      some .gone :=
  activitiesLive_of_reachable ["main"] ["music"] busy busy_reachable 0

/--
Every service lives as its automaton says, and is at the stage that its record
says.
-/
theorem servicesLive_of_reachable
    (mActivityMap mServiceMap : List String)
    (thread : ApplicationThread)
    (reachable : IsReachable mActivityMap mServiceMap thread)
    (token : Nat) :
    run? ServiceStage.step? .absent (thread.serviceEvents token) =
      some (thread.mApp.stage token) :=
  (servicesKept_of_reachable reachable).follows token

theorem servicesLive_of_reachable_busy :
    run? ServiceStage.step? .absent (busy.serviceEvents 9) =
      some .absent :=
  servicesLive_of_reachable ["main"] ["music"] busy busy_reachable 9

/-! ## The end of a process -/

end ApplicationThread

namespace ActivityStage

/-- Callbacks of an activity run between `onCreate` and `onDestroy`. -/
def lives : ActivityStage → Nat
  | .alive _ _ => 1
  | _ => 0

/-- The windows that an activity has. -/
def windows : ActivityStage → Nat
  | .opening mWindow => if mWindow then 1 else 0
  | .alive mWindow _ => if mWindow then 1 else 0
  | .dying mWindow => if mWindow then 1 else 0
  | _ => 0

theorem step?_lives
    (stage : ActivityStage)
    (event : ActivityEvent)
    (next : ActivityStage)
    (isNext : step? stage event = some next) :
    next.lives + (if event = .onDestroy then 1 else 0) =
      stage.lives + (if event = .onCreate then 1 else 0) := by
  unfold step? at isNext
  split at isNext <;> try split at isNext
  all_goals
    first
    | cases isNext
    | split at isNext <;> cases isNext
  all_goals simp_all [lives]

theorem step?_windows
    (stage : ActivityStage)
    (event : ActivityEvent)
    (next : ActivityStage)
    (isNext : step? stage event = some next) :
    next.windows + (if event = .removeWindow true then 1 else 0) =
      stage.windows + (if event = .newWindow true then 1 else 0) := by
  unfold step? at isNext
  split at isNext <;> try split at isNext
  all_goals
    first
    | cases isNext
    | split at isNext <;> cases isNext
  all_goals simp_all [windows]

end ActivityStage

namespace ServiceStage

/-- A service is created, and not destroyed. -/
def lives : ServiceStage → Nat
  | .alive _ => 1
  | _ => 0

theorem step?_lives
    (stage : ServiceStage)
    (event : ServiceEvent)
    (next : ServiceStage)
    (isNext : step? stage event = some next) :
    next.lives + (if event = .onDestroy then 1 else 0) =
      stage.lives + (if event = .onCreate then 1 else 0) := by
  unfold step? at isNext
  split at isNext
  · cases isNext
    simp [lives]
  · unfold stepAlive? at isNext
    split at isNext
    all_goals
      first
      | cases isNext
      | split at isNext <;> cases isNext
    all_goals simp_all [lives]
  · split at isNext <;> cases isNext
    simp [lives]
  · cases isNext

end ServiceStage

namespace ApplicationThread

variable
  {mActivityMap mServiceMap : List String}
  {thread next : ApplicationThread}

/-- After a clear only dropped objects are alive. -/
theorem clears_activities
    {action : ApplicationAction}
    (clears : action = .sigterm ∨ action = .terminate)
    (isNext : thread.step? action = some next) :
    next.mExistActivities = [] ∧ next.mApp.mExistServices = [] := by
  rw [← step?_eq_some isNext]
  rcases clears with rfl | rfl <;> exact ⟨rfl, rfl⟩

/-- An object that is not alive is not at a stage of its life. -/
theorem activityStage_cases
    {serial : Nat}
    (notAlive : ∀ activity ∈ thread.activities, activity.serial ≠ serial) :
    thread.activityStage serial = .gone ∨
      thread.activityStage serial = .unborn := by
  rw [activityStage_of_notAlive notAlive]
  split
  · exact .inl rfl
  · exact .inr rfl

/-- The process that is busy, before it terminates. -/
def beforeTermination : ApplicationThread :=
  (run? step? (start ["main"] ["music"])
    (busyActions.take 5)).getD (start [] [])

end ApplicationThread

end ActivityManager
