import ActivityManager.BackgroundMoves
import ActivityManager.ProcessDeath
import ActivityManager.TaskManagerRuns

/-!
# Activities that cannot be created

The client reports ERROR if it cannot create an activity.  The activity leaves
its stack, but only a report that it is destroyed would take it out of
`mActivityMap` and of its application, and no such report will come.  Its
record is new once more, and whoever waits to stop it launches it again.
-/

namespace ActivityManager

open StepSystem (Reachable run?)

namespace TaskStackManager

/-- Nothing is left of an activity, and it never gets another command. -/
structure GoneForGood
    (manager : TaskStackManager)
    (token : Nat) : Prop where
  offStacks : ∀ task, token ∉ manager.lists.stackOf task
  forgotten : token ∉ manager.mActivityMap
  leftApp :
    ∀ app record,
      manager.apps app = some record →
      token ∉ record.mExistActivity
  silent :
    ∀ later,
      Reachable step? (fun _ _ => True) manager later →
      later.commandsFor token = manager.commandsFor token

variable
  {manager next : TaskStackManager}
  {token : Nat}

/-- A report of an error is only the event of its lifecycle task. -/
theorem reportError_eq
    (known : token ∈ manager.mActivityMap) :
    manager.reportActivityStatus token Status.error =
      manager.eventTrigger
        (.activityStatusReport Status.error token) := by
  have notResumed : ¬ Status.error = Status.resumed := by decide
  have notDestroyed : ¬ Status.error = Status.destroyed := by decide
  rw [reportActivityStatus, if_pos known]
  simp only [if_neg notResumed, if_neg notDestroyed]
  exact Option.bind_fun_some _

/-- Whatever a known activity was doing, a report of an error leaves it. -/
theorem reportError_not_goneForGood
    (known : token ∈ manager.mActivityMap)
    (isNext :
      manager.reportActivityStatus token Status.error = some next) :
    ¬ GoneForGood next token := by
  intro gone
  apply gone.forgotten
  rw [reportError_eq known] at isNext
  rw [eventTrigger_mActivityMap known isNext]
  exact known

/-- The clock, which is being created behind the notes, reports an error. -/
def failedClock : Option TaskStackManager :=
  (notesInFront.get rfl).reportActivityStatus 1 Status.error

/-- It is not gone. -/
theorem failedClock_notGoneForGood :
    ¬ GoneForGood (failedClock.get rfl) 1 := by
  have known : 1 ∈ (notesInFront.get rfl).mActivityMap := by decide
  exact reportError_not_goneForGood known (Option.some_get _).symm

/-- Then the notes are resumed, and the clock can be stopped. -/
def resumedNotes : Option TaskStackManager :=
  run? step? (failedClock.get rfl)
    [.reportActivityStatus 2 Status.created,
      .reportActivityStatus 2 Status.started,
      .reportActivityStatus 2 Status.resumed]

/--
The clock was being created, with its lifecycle task pending.  After its error
it is still known and still listed by its application, and it is launched a
second time once the notes are resumed.
-/
theorem failedClock_launchedTwice :
    Reachable step? (fun _ _ => True) (TaskStackManager.start 0)
        (notesInFront.get rfl) ∧
      (((notesInFront.get rfl).activities 1).any
          (·.mStatus = Status.creating)) = true ∧
      ((notesInFront.get rfl).mPendTask.firstPending
          (PendEvent.activityStatusReport Status.error 1)).isSome = true ∧
      1 ∈ (failedClock.get rfl).mActivityMap ∧
      (((failedClock.get rfl).apps 1).any (1 ∈ ·.mExistActivity)) = true ∧
      Reachable step? (fun _ _ => True) (failedClock.get rfl)
        (resumedNotes.get rfl) ∧
      (resumedNotes.get rfl).commandsFor 1 =
        (failedClock.get rfl).commandsFor 1 ++
          [.scheduleLaunchActivity 11 "Main" 1 ⟨"clock", "", "", 0⟩] ∧
      ¬ GoneForGood (failedClock.get rfl) 1 := by
  have created : notesInFront = some (notesInFront.get rfl) :=
    (Option.some_get _).symm
  have resumed : resumedNotes = some (resumedNotes.get rfl) :=
    (Option.some_get _).symm
  have stillKnown : 1 ∈ (failedClock.get rfl).mActivityMap := by decide
  refine
    ⟨Reachable.of_run? ?_ created, by decide, by decide, stillKnown,
      by decide, Reachable.of_run? ?_ resumed, by decide, ?_⟩
  · exact StepSystem.allowedRun_of_forall (fun _ _ => trivial) _ _
  · exact StepSystem.allowedRun_of_forall (fun _ _ => trivial) _ _
  · exact fun gone => gone.forgotten stillKnown

end TaskStackManager

end ActivityManager
