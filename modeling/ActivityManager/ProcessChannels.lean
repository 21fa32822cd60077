import ActivityManager.ActivityHosts
import ActivityManager.ApplicationClients
import ActivityManager.RelaunchedTop

/-!
# The service and its application processes

The service sends the commands for all activities of an application to one
process, which handles them in the order in which they were sent, and reports
for all of them on one channel.  In between the process serves other calls, and
the task manager does anything it may do.  A process may stop to handle its
commands at any time; what it reports when it clears its activities is left
out here.
-/

namespace ActivityManager

/-- What an event of a process reports, and for which token. -/
def ApplicationEvent.report? : ApplicationEvent → Option (Nat × Status)
  | .activity _ token event => event.reported?.map (token, ·)
  | _ => none

/-- Neither a command nor a clear. -/
def ApplicationAction.isApart : ApplicationAction → Bool
  | .call served _ _ => served.commandToken = none
  | .sigterm => false
  | .terminate => false
  | _ => true

/-- The reports of a process, in the order in which they were sent. -/
def ApplicationThread.sent (thread : ApplicationThread) :
    List (Nat × Status) :=
  thread.trace.filterMap ApplicationEvent.report?

/-- The statuses that were reported for a token. -/
def statusesOf
    (token : Nat)
    (reports : List (Nat × Status)) : List Status :=
  (reports.filter (·.1 = token)).map Prod.snd

/-- The commands for the activities of an application. -/
def TaskStackManager.commandsToHost
    (manager : TaskStackManager)
    (app : Nat) : List Call :=
  manager.calls.filter fun call =>
    call.commandToken.bind manager.hostOf = some app

/-- The task manager and the processes of its applications. -/
structure ProcessRun where
  manager : TaskStackManager
  process : Nat → ApplicationThread
  /-- How many of its commands a process has handled. -/
  handled : Nat → Nat
  /-- How many reports of a process the service has handled. -/
  received : Nat → Nat

/-- The steps of the task manager and of the processes. -/
inductive ProcessRunAction where
  /-- Anything but a report. -/
  | manager (action : ManagerAction)
  /-- The next command, and what the window manager answers to a launch. -/
  | processHandles (app : Nat) (mWindow attached : Bool)
  | processActs (app : Nat) (action : ApplicationAction)
  | serverHandles (app : Nat)
  deriving Repr, DecidableEq

namespace ProcessRun

/-- Nothing has been sent yet. -/
def start
    (now : Nat)
    (mActivityMap mServiceMap : Nat → List String) : ProcessRun where
  manager := .start now
  process := fun app => .start (mActivityMap app) (mServiceMap app)
  handled := fun _ => 0
  received := fun _ => 0

variable (run : ProcessRun)

/-- Commands on their way to a process. -/
def toProcess (app : Nat) : List Call :=
  (run.manager.commandsToHost app).drop (run.handled app)

/-- Reports on their way to the service. -/
def toServer (app : Nat) : List (Nat × Status) :=
  (run.process app).sent.drop (run.received app)

/-- The run after the task manager has moved. -/
def withManager (manager : TaskStackManager) : ProcessRun :=
  { run with manager := manager }

/-- The run after a process has moved. -/
def withProcess
    (app : Nat)
    (thread : ApplicationThread) : ProcessRun :=
  { run with process := Function.update run.process app thread }

/-- Perform one step. -/
def step? : ProcessRunAction → Option ProcessRun
  | .manager action =>
      if action.isReport then
        none
      else
        (run.manager.step? action).map run.withManager
  | .processHandles app mWindow attached =>
      match run.toProcess app with
      | call :: _ => do
          let thread ← (run.process app).step? (.call call mWindow attached)
          some
            { run.withProcess app thread with
              handled :=
                Function.update run.handled app (run.handled app + 1) }
      | [] =>
          none
  | .processActs app action =>
      if action.isApart then
        ((run.process app).step? action).map (run.withProcess app)
      else
        none
  | .serverHandles app =>
      match run.toServer app with
      | (token, status) :: _ => do
          let manager ← run.manager.reportActivityStatus token status
          some
            { run.withManager manager with
              received :=
                Function.update run.received app (run.received app + 1) }
      | [] =>
          none

/--
The top of the foreground is relaunched only when it has been started and
nothing is under way.
-/
def relaunchesStarted : ProcessRunAction → Bool
  | .manager (.turnToActivity _ activity _ _) =>
      run.manager.lists.getActiveTask.bind
          run.manager.lists.getTopActivity ≠ some activity ||
        (run.manager.activities activity).all fun record =>
          record.mStatus ∈
            [Status.started, Status.resumed, Status.paused]
  | _ => true

end ProcessRun

/-! ## What a process sends -/

namespace ApplicationThread

variable {thread next : ApplicationThread}

/-- The trace only grows. -/
def Grows (thread next : ApplicationThread) : Prop :=
  ∃ events, next.trace = thread.trace ++ events

/-- Nothing happens. -/
theorem Grows.of_eq
    (sameTrace : next.trace = thread.trace) :
    Grows thread next :=
  ⟨[], sameTrace.trans (List.append_nil _).symm⟩

theorem withActivity_grows
    (thread : ApplicationThread)
    (token : Nat)
    (handler : ActivityClientRecord → ClientEffect) :
    Grows thread (thread.withActivity token handler) := by
  unfold withActivity
  split
  · exact ⟨_, rfl⟩
  · exact .of_eq rfl

theorem onLaunchActivity_grows
    (thread : ApplicationThread)
    (activityName : String)
    (token : Nat)
    (intent : Intent)
    (mWindow attached : Bool) :
    Grows thread
      (thread.onLaunchActivity activityName token intent mWindow
        attached) := by
  unfold onLaunchActivity
  split
  · cases attached with
    | false =>
        exact ⟨_, rfl⟩
    | true =>
        rw [if_pos rfl]
        unfold addActivity
        split <;> exact ⟨_, rfl⟩
  · exact .of_eq rfl

theorem perform_grows
    (thread : ApplicationThread)
    (action : ApplicationAction) :
    Grows thread (thread.perform action) := by
  cases action with
  | call call mWindow attached =>
      cases call with
      | scheduleLaunchActivity pid activityName token intent =>
          exact thread.onLaunchActivity_grows ..
      | scheduleStartActivity pid token intent =>
          exact thread.withActivity_grows ..
      | scheduleResumeActivity pid token intent =>
          exact thread.withActivity_grows ..
      | schedulePauseActivity pid token =>
          exact thread.withActivity_grows ..
      | scheduleStopActivity pid token =>
          exact thread.withActivity_grows ..
      | scheduleDestroyActivity pid token =>
          rw [perform, onCall, onDestroyActivity]
          split
          · exact ⟨_, rfl⟩
          · exact .of_eq rfl
      | setForegroundApplication pid isForeground =>
          exact ⟨_, rfl⟩
      | _ =>
          exact .of_eq rfl
  | onActivityResult token requestCode resultCode resultData =>
      rw [perform, onActivityResult]
      split
      · exact ⟨_, rfl⟩
      · exact .of_eq rfl
  | service call serviceBinder =>
      exact ⟨_, rfl⟩
  | scheduleReceiveIntent token intent =>
      cases token with
      | application app =>
          exact ⟨_, rfl⟩
      | activity token =>
          rw [perform, scheduleReceiveIntent]
          split
          · exact ⟨_, rfl⟩
          · exact .of_eq rfl
      | service token =>
          rw [perform, scheduleReceiveIntent]
          split
          · exact ⟨_, rfl⟩
          · exact .of_eq rfl
  | sigterm =>
      exact ⟨_, List.append_assoc ..⟩
  | terminate =>
      exact ⟨_, List.append_assoc ..⟩
  | stop =>
      exact .of_eq rfl
  | leaveLoop =>
      exact ⟨_, rfl⟩

/-- The reports of a token are among those of the process. -/
theorem statusesOf_sent
    (thread : ApplicationThread)
    (token : Nat) :
    statusesOf token thread.sent = thread.reports token := by
  rw [statusesOf, sent, List.filter_filterMap, List.map_filterMap]
  refine List.filterMap_congr fun event _ => ?_
  cases event with
  | activity serial other event =>
      simp only [ApplicationEvent.report?, ApplicationEvent.reported?]
      cases event.reported? with
      | none =>
          simp
      | some status =>
          by_cases isToken : other = token
          · simp [isToken]
          · simp [isToken]
  | _ =>
      rfl

theorem statusesOf_append
    (token : Nat)
    (first later : List (Nat × Status)) :
    statusesOf token (first ++ later) =
      statusesOf token first ++ statusesOf token later := by
  rw [statusesOf, List.filter_append, List.map_append]
  rfl

/-- What a step sends for a token is what its client answers. -/
theorem step?_sent
    (kept : ActivitiesKept thread)
    {action : ApplicationAction}
    (isFresh : thread.launchesFresh action)
    (isNext : thread.step? action = some next) :
    ∃ reports,
      next.sent = thread.sent ++ reports ∧
        ∀ token (client : ActivityClient),
          client.mExistActivity = thread.recordOf token →
          (client.perform thread.mActivityMap token
              action).1.mExistActivity = next.recordOf token ∧
            statusesOf token reports =
              (client.perform thread.mActivityMap token action).2 := by
  rw [← step?_eq_some isNext]
  obtain ⟨events, isTrace⟩ := thread.perform_grows action
  have isSent :
      (thread.perform action).sent =
        thread.sent ++ events.filterMap ApplicationEvent.report? := by
    rw [sent, isTrace, List.filterMap_append]
    rfl
  refine ⟨_, isSent, ?_⟩
  intro token client same
  have mirrors := perform_mirrors kept same isFresh
  refine ⟨mirrors.record, ?_⟩
  have isReported := mirrors.reports
  rw [← statusesOf_sent, ← statusesOf_sent, isSent, statusesOf_append,
    List.append_cancel_left_eq] at isReported
  exact isReported

end ApplicationThread

/-- Nothing that a process does apart is for a client. -/
theorem ActivityClient.perform_apart
    {action : ApplicationAction}
    (isApart : action.isApart = true)
    (client : ActivityClient)
    (mActivityMap : List String)
    (token : Nat) :
    client.perform mActivityMap token action = (client, []) := by
  cases action with
  | call call mWindow attached =>
      have notCommand : call.commandToken = none := of_decide_eq_true isApart
      refine if_neg ?_
      rw [notCommand]
      exact (Option.some_ne_none _).symm
  | sigterm =>
      cases isApart
  | terminate =>
      cases isApart
  | _ =>
      rfl

/-- It launches nothing. -/
theorem ApplicationThread.launchesFresh_of_isApart
    {action : ApplicationAction}
    (isApart : action.isApart = true)
    (thread : ApplicationThread) :
    thread.launchesFresh action := by
  intro token isLaunched
  cases action with
  | call call mWindow attached =>
      cases call with
      | scheduleLaunchActivity pid activityName token intent =>
          cases isApart
      | _ =>
          cases isLaunched
  | _ =>
      cases isLaunched

end ActivityManager
