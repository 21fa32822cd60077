import ActivityManager.ActivityClientRecord
import ActivityManager.Library.StepSystem
import ActivityManager.PendTask

/-!
# Lifecycle lockstep

One activity, seen from both sides: its record and lifecycle tasks in the
server, its record in the client, and a FIFO channel in each direction.  The
server may be asked for any status at any time.  The two sides take turns all
the same: while a command or its report is under way, the server only
remembers what it was asked for last.
-/

namespace ActivityManager

namespace Call

/-- The lifecycle command that a call gives to the client, if any. -/
def turnTo : Call → TurnTo
  | .scheduleLaunchActivity .. => .create
  | .scheduleStartActivity .. => .start
  | .scheduleResumeActivity .. => .resume
  | .schedulePauseActivity .. => .pause
  | .scheduleStopActivity .. => .stop
  | .scheduleDestroyActivity .. => .destroy
  | _ => .none

/-- Calls that travel on the channel to the client's activities. -/
def isCommand (call : Call) : Bool :=
  call.turnTo != .none

end Call

namespace TurnTo

/-- The status in which the server waits for the command to be done. -/
def transitional : TurnTo → Status
  | .none => Status.init
  | .create => Status.creating
  | .start => Status.starting
  | .resume => Status.resuming
  | .pause => Status.pausing
  | .stop => Status.stopping
  | .destroy => Status.destroying

/-- The statuses of the client in which a command is legal. -/
def legalFrom : TurnTo → List Status
  | .none => []
  | .create => [Status.init]
  | .start => [Status.created, Status.stopped]
  | .resume => [Status.started, Status.paused]
  | .pause => [Status.started, Status.resumed]
  | .stop => [Status.created, Status.started, Status.paused]
  | .destroy => [Status.created, Status.stopped]

end TurnTo

/-- The statuses between two commands. -/
def settledStatuses : List Status :=
  [Status.init, Status.created, Status.started, Status.resumed,
    Status.paused, Status.stopped, Status.destroyed]

/-- The statuses the server asks for. -/
def requestedStatuses : List Status :=
  [Status.resumed, Status.paused, Status.stopped, Status.destroyed]

/--
A settled status answers a request: it is the one asked for, up to what the
table leaves alone.
-/
def settledFor (request status : Status) : Bool :=
  status == request ||
    status == Status.destroyed ||
    (request == Status.paused && status == Status.stopped) ||
    (request == Status.destroyed && status == Status.init)

/-- The parties of one activity and the messages between them. -/
structure Lockstep where
  activity : ActivityRecord
  app : AppRecord
  mPendTask : TaskBoard PendTask
  toClient : List Call
  client : ActivityClient
  toServer : List Status
  /-- Ghost: the last status the server was asked for. -/
  lastRequest : Option Status

/-- The steps of both parties. -/
inductive LockstepAction where
  | lifecycleTransition (toStatus : Status)
  | clientHandles
  | serverHandles
  deriving Repr, DecidableEq

namespace Lockstep

/--
`lifecycleTransition` in the system.  Its event for waiting activities finds
no task here: the board has the lifecycle tasks of one activity only.
-/
def lifecycleTransition?
    (system : Lockstep)
    (toStatus : Status) : Option Lockstep := do
  let transition ←
    system.activity.lifecycleTransition? (some system.app) toStatus
  some { system with
    activity := transition.activity
    app := transition.app.getD system.app
    mPendTask :=
      if transition.commits then
        system.mPendTask.commitTask
          (.lifeCycle system.activity.mToken) requestTimeoutMs
      else
        system.mPendTask
    toClient :=
      system.toClient ++ transition.calls.filter Call.isCommand }

/--
`reportActivityStatus`, as far as the activity is concerned: the event for its
lifecycle task, whose `execute` is inlined, and the special case of a
destroyed activity.
-/
def reportActivityStatus?
    (system : Lockstep)
    (status : Status) : Option Lockstep := do
  let event : PendEvent :=
    .activityStatusReport status system.activity.mToken
  let executed : Lockstep ←
    match system.mPendTask.firstPending event with
    | some handler =>
        let done :=
          { system with
            mPendTask := system.mPendTask.markDone handler.serial }
        if status = Status.error then
          some { done with activity := system.activity.reportError }
        else
          lifecycleTransition?
            { done with activity := system.activity.setStatus status }
            system.activity.mTargetStatus
    | none =>
        some system
  if status = Status.destroyed then
    some { executed with
      activity := executed.activity.setStatus Status.destroyed }
  else
    some executed

/-- Perform one step, if it is possible. -/
def step?
    (system : Lockstep) : LockstepAction → Option Lockstep
  | .lifecycleTransition toStatus =>
      if toStatus ∈ requestedStatuses then
        lifecycleTransition?
          { system with lastRequest := some toStatus }
          toStatus
      else
        none
  | .clientHandles =>
      match system.toClient with
      | call :: rest =>
          let (client, reports) := system.client.handle true true call
          some { system with
            toClient := rest
            client := client
            toServer := system.toServer ++ reports }
      | [] =>
          none
  | .serverHandles =>
      match system.toServer with
      | status :: rest =>
          reportActivityStatus? { system with toServer := rest } status
      | [] =>
          none

/-- A new activity of an application, not launched yet. -/
def start
    (name : String)
    (token task : Nat)
    (intent : Intent)
    (app : AppRecord)
    (now : Nat) : Lockstep where
  activity := ActivityRecord.fresh name token (some app.mPid) task intent
  app := app
  mPendTask := TaskBoard.startWork false now
  toClient := []
  client := ActivityClient.unknown
  toServer := []
  lastRequest := none

/-- The lifecycle tasks that wait for a report. -/
def pendingTasks
    (system : Lockstep) : List (TaskTimeoutHandler PendTask) :=
  system.mPendTask.mTasklist.filter (!·.mIsDone)

end Lockstep

end ActivityManager
