import ActivityManager.TaskListInvariant

/-!
# One resumed activity in every run

Switches pause the old top and resume the new one, while late reports and
timeouts of earlier switches are still to come.  Only the top of the active
task is to be resumed, as long as a timeout does not give up a switch that has
gone on, and reports fit the activity they come from.
-/

namespace ActivityManager

open StepSystem (AllowedRun Reachable run?)

/-- An activity that is resumed or heading there. -/
def ActivityRecord.IsToBeResumed (record : ActivityRecord) : Prop :=
  record.mStatus ≠ Status.destroyed ∧
    record.mTargetStatus = Status.resumed

namespace TaskStackManager

/-- Only the top of the active task is to be resumed. -/
structure SingleResumed (manager : TaskStackManager) : Prop where
  inFront :
    ∀ activity record,
      manager.activities activity = some record →
      record.IsToBeResumed →
      ∃ activeTask,
        manager.lists.getActiveTask = some activeTask ∧
          manager.lists.getTopActivity activeTask = some activity
  atMostOne :
    ∀ first firstRecord second secondRecord,
      manager.activities first = some firstRecord →
      manager.activities second = some secondRecord →
      firstRecord.IsToBeResumed →
      secondRecord.IsToBeResumed →
      first = second

/-- The steps that resume nothing in the background. -/
def KeepsOrder
    (manager : TaskStackManager)
    (action : ManagerAction) : Prop :=
  manager.isAddressed action = true ∧ manager.isInOrder action = true

instance decidableKeepsOrder
    (manager : TaskStackManager)
    (action : ManagerAction) :
    Decidable (manager.KeepsOrder action) :=
  inferInstanceAs (Decidable (_ ∧ _))

/-- The aims of this module. -/
def resumeOne : Aims where
  safe := False
  counts := False
  targets := True

variable {manager : TaskStackManager}

/-- Steps in order are permitted. -/
theorem KeepsOrder.permitted
    {action : ManagerAction}
    (keeps : manager.KeepsOrder action) :
    Permitted resumeOne manager action where
  addressed := keeps.1
  provided := False.elim
  balanced := False.elim
  inOrder _ := keeps.2

/-- The top of the foreground is the top of the active task. -/
private theorem exists_active_of_head
    {lists : TaskLists}
    {activity : Nat}
    (isTop : lists.foreground.head? = some activity) :
    ∃ activeTask,
      lists.getActiveTask = some activeTask ∧
        lists.getTopActivity activeTask = some activity := by
  obtain ⟨activeTask, isActive, _⟩ :=
    TaskLists.exists_active_of_mem (List.mem_of_head? isTop)
  refine ⟨activeTask, isActive, ?_⟩
  rw [TaskLists.foreground_of_active isActive.symm] at isTop
  exact isTop

/-- A sound manager resumes the top of the active task only. -/
theorem Sound.singleResumed
    {aims : Aims}
    (sound : Sound aims manager)
    (isAim : aims.targets) :
    SingleResumed manager := by
  have isTop :
      ∀ activity record,
        manager.activities activity = some record →
        record.IsToBeResumed →
        manager.lists.foreground.head? = some activity := by
    intro activity record isRecord toBeResumed
    have aimed :=
      sound.settled.tracks.targets isAim activity record isRecord
    obtain ⟨alive, wanted⟩ := toBeResumed
    have member := (aimed.2 alive wanted).1
    simpa using member
  refine ⟨?_, ?_⟩
  · intro activity record isRecord toBeResumed
    exact exists_active_of_head
      (isTop activity record isRecord toBeResumed)
  · intro first firstRecord second secondRecord isFirst isSecond
      firstResumed secondResumed
    have firstTop := isTop first firstRecord isFirst firstResumed
    have secondTop := isTop second secondRecord isSecond secondResumed
    rw [firstTop] at secondTop
    exact Option.some.inj secondTop

/-- In every run whose steps keep the order, one activity is resumed. -/
theorem singleResumed_of_reachable
    {now : Nat}
    (reachable :
      Reachable step? KeepsOrder (TaskStackManager.start now) manager) :
    SingleResumed manager := by
  have sound : Sound resumeOne manager :=
    Sound.of_reachable (fun _ _ keeps => keeps.permitted) reachable
  exact sound.singleResumed trivial

/--
A switch goes on, a report of a former top comes late, the wait for a switch
times out while its old activity is in front again, and a process dies.
-/
def switchingBack : Option TaskStackManager :=
  run? step? (TaskStackManager.start 0)
    [.attachApplication "home" false 10,
      .attachApplication "clock" false 11,
      .pushNewActivity "home/Main" 0 0 ⟨"home", "", "", 0⟩ 0,
      .reportActivityStatus 0 Status.created,
      .reportActivityStatus 0 Status.started,
      .pushNewActivity "clock/Main" 1 1 ⟨"clock", "", "", 0⟩ 0,
      .reportActivityStatus 0 Status.resumed,
      .reportActivityStatus 1 Status.created,
      .reportActivityStatus 1 Status.started,
      .switchTaskToActive 0 ⟨"home", "", "", 0⟩,
      .reportActivityStatus 0 Status.paused,
      .clockAdvances 10000,
      .timeout 4,
      .procAppTerminated 1]

theorem switchingBack_singleResumed :
    SingleResumed (switchingBack.get rfl) := by
  have accepted : switchingBack = some (switchingBack.get rfl) :=
    (Option.some_get _).symm
  exact singleResumed_of_reachable
    (Reachable.of_run? (by decide) accepted)

/-- A switch takes longer than the former top is willing to wait. -/
def slowSwitch : List ManagerAction :=
  [.attachApplication "home" false 10,
    .attachApplication "clock" false 11,
    .pushNewActivity "home/Main" 0 0 ⟨"home", "", "", 0⟩ 0,
    .reportActivityStatus 0 Status.created,
    .reportActivityStatus 0 Status.started,
    .reportActivityStatus 0 Status.resumed,
    .pushNewActivity "clock/Main" 1 1 ⟨"clock", "", "", 0⟩ 0,
    .reportActivityStatus 0 Status.paused,
    .clockAdvances 6000,
    .reportActivityStatus 1 Status.created,
    .clockAdvances 6000,
    .timeout 5]

/-- An activity fails to launch. -/
def failedCreation : List ManagerAction :=
  [.attachApplication "home" false 10,
    .attachApplication "clock" false 11,
    .pushNewActivity "home/Main" 0 0 ⟨"home", "", "", 0⟩ 0,
    .pushNewActivity "clock/Main" 1 1 ⟨"clock", "", "", 0⟩ 0,
    .reportActivityStatus 1 Status.error]

/--
An activity that is asked to resume twice is given up for the first request
and reports to the second.
-/
def lateReport : List ManagerAction :=
  [.attachApplication "home" false 10,
    .pushNewActivity "home/Main" 0 0 ⟨"home", "", "", 0⟩ 0,
    .reportActivityStatus 0 Status.created,
    .reportActivityStatus 0 Status.started,
    .clockAdvances 6000,
    .turnToActivity 0 0 ⟨"home", "", "", 0⟩ 0,
    .clockAdvances 6000,
    .timeout 2,
    .reportActivityStatus 0 Status.resumed]

/-- A manager with another activity to be resumed than the one in front. -/
private theorem not_singleResumed
    (activity : Nat)
    {record : ActivityRecord}
    (isRecord : manager.activities activity = some record)
    (alive : record.mStatus ≠ Status.destroyed)
    (wanted : record.mTargetStatus = Status.resumed)
    (notTop : manager.lists.foreground.head? ≠ some activity) :
    ¬ SingleResumed manager := by
  intro single
  obtain ⟨activeTask, isActive, isTop⟩ :=
    single.inFront activity record isRecord ⟨alive, wanted⟩
  apply notTop
  rw [TaskLists.foreground_of_active isActive.symm]
  exact isTop

/-- A run that uses the managers as meant resumes a stray activity. -/
def LeadsAstray (actions : List ManagerAction) : Prop :=
  ∃ manager,
    Reachable step? UsedAsMeant (TaskStackManager.start 0) manager ∧
      run? step? (TaskStackManager.start 0) actions = some manager ∧
      ¬ SingleResumed manager

/-- It is enough to run the actions. -/
private theorem leadsAstray
    {actions : List ManagerAction}
    (used :
      AllowedRun step? UsedAsMeant (TaskStackManager.start 0) actions)
    (isRun :
      (run? step? (TaskStackManager.start 0) actions).isSome = true)
    (notSingle :
      ¬ SingleResumed
        ((run? step? (TaskStackManager.start 0) actions).get isRun)) :
    LeadsAstray actions := by
  have accepted := (Option.some_get isRun).symm
  exact ⟨_, Reachable.of_run? used accepted, accepted, notSingle⟩

/-- Each of the three runs resumes an activity that is not in front. -/
theorem strayRuns_not_singleResumed :
    LeadsAstray slowSwitch ∧
      LeadsAstray failedCreation ∧
      LeadsAstray lateReport := by
  refine ⟨?_, ?_, ?_⟩
  · refine leadsAstray (by decide) (by decide) ?_
    exact not_singleResumed 0
      (Option.some_get (by rfl)).symm (by decide) rfl (by decide)
  · refine leadsAstray (by decide) (by decide) ?_
    exact not_singleResumed 1
      (Option.some_get (by rfl)).symm (by decide) rfl (by decide)
  · refine leadsAstray (by decide) (by decide) ?_
    exact not_singleResumed 0
      (Option.some_get (by rfl)).symm (by decide) rfl (by decide)

end TaskStackManager

end ActivityManager
