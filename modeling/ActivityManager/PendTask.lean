import ActivityManager.ActivityRecord
import ActivityManager.TaskBoard

/-!
# The tasks of activities

The tasks that wait on the board for an activity, and the events that complete
them.  Activities are named by their tokens.
-/

namespace ActivityManager

/-- The task classes of activities. -/
inductive PendTask where
  /-- `ActivityLifeCycleTask`. -/
  | lifeCycle (activity : Nat)
  /-- `ActivityWaitResume`. -/
  | waitResume (resumeActivity willStopActivity : Nat)
  /-- `ActivityDelayDestroy`. -/
  | delayDestroy (willDestroyActivity waitResumeActivity : Nat)
  deriving Repr, DecidableEq

/-- The events of these classes. -/
inductive PendEvent where
  | activityStatusReport (status : Status) (token : Nat)
  | activityWaitResume (token : Nat)
  | activityDelayDestroy (token : Nat)
  deriving Repr, DecidableEq

/-- `operator==` of the task classes; all their events trigger one task. -/
instance : BoardLabels PendTask PendEvent where
  equalsLabel
    | .lifeCycle activity, .activityStatusReport _ token =>
        activity == token
    | .waitResume resumeActivity _, .activityWaitResume token =>
        resumeActivity == token
    | .delayDestroy _ waitResumeActivity, .activityDelayDestroy token =>
        waitResumeActivity == token
    | _, _ => false
  mType _ := .onceTrigger

end ActivityManager
