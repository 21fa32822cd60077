import ActivityManager.SystemUIAccounting
import ActivityManager.WaitRelease

/-!
# The task manager and its clients

Every activity has a client, which handles the commands for it in the order
in which they were sent and answers them in that order.  The task manager may
do anything else in between: start, finish and relaunch activities, time out,
or learn that a process has died.
-/

namespace ActivityManager

/-! ## Commands and answers -/

namespace ActivityClient

/-- The status of the client's record, if it has one. -/
def status? (client : ActivityClient) : Option Status :=
  client.mExistActivity.map ActivityClientRecord.mStatus

/-- The activity has been started, and not been stopped since. -/
def isStarted (client : ActivityClient) : Bool :=
  client.status?.any fun status =>
    status ∈ [Status.started, Status.resumed, Status.paused]

end ActivityClient

/-- Before it is created and once it is destroyed, a client has no record. -/
def clientStatus (status : Status) : Option Status :=
  if status = Status.init ∨ status = Status.destroyed then none
  else some status

namespace TurnTo

/--
What a client must be like when it gets a command.  A relaunch resumes what is
resumed already.
-/
def FollowsFrom
    (turn : TurnTo)
    (client : ActivityClient) : Prop :=
  ∃ status,
    client.status? = clientStatus status ∧
      (status ∈ turn.legalFrom ∨
        turn = .resume ∧ status = Status.resumed)

/-- How a client answers a command; it may fail to create an activity. -/
def AnsweredBy
    (turn : TurnTo)
    (status : Status)
    (client : ActivityClient) : Prop :=
  status = turn.transitional + 1 ∧
      client.status? = clientStatus status ∨
    turn = .create ∧
      status = Status.error ∧
      client.status? = Option.none

/-- Every other command is for an activity that the client has a record of. -/
theorem clientStatus_of_legal
    {turn : TurnTo}
    {status : Status}
    (notCreate : turn ≠ .create)
    (legal : status ∈ turn.legalFrom) :
    clientStatus status = some status := by
  have check :
      ∀ other ∈
          [TurnTo.none, .start, .resume, .pause, .stop, .destroy],
        ∀ status ∈ other.legalFrom,
          clientStatus status = some status := by
    decide
  refine check turn ?_ status legal
  cases turn <;> first | exact absurd rfl notCreate | decide

end TurnTo

namespace ActivityClient

variable
  {client : ActivityClient}
  {call : Call}

/-- Resume comes after start. -/
theorem isStarted_of_resume
    (follows : TurnTo.resume.FollowsFrom client) :
    client.isStarted = true := by
  have started :
      TurnTo.resume.legalFrom ⊆
        [Status.started, Status.resumed, Status.paused] := by
    decide
  obtain ⟨status, isStatus, isLegal | ⟨_, isResumed⟩⟩ := follows
  · have known := TurnTo.clientStatus_of_legal (by decide) isLegal
    rw [isStarted, isStatus, known, Option.any_some]
    exact decide_eq_true (started isLegal)
  · rw [isStarted, isStatus, isResumed]
    rfl

/-- A command for an activity that the client knows. -/
theorem withActivity_answered
    {handler : ActivityClientRecord → ClientEffect}
    {keeps : Bool}
    {status : Status}
    (turn : TurnTo)
    (isStatus : client.status? = some status)
    (answers :
      ∀ record,
        (handler record).record.mStatus = turn.transitional + 1 ∧
          (handler record).reports = [turn.transitional + 1])
    (isKept :
      clientStatus (turn.transitional + 1) =
        if keeps then some (turn.transitional + 1) else none) :
    ∃ answer,
      (client.withActivity handler keeps).2 = [answer] ∧
        turn.AnsweredBy answer (client.withActivity handler keeps).1 := by
  obtain ⟨record, isRecord, _⟩ := Option.map_eq_some_iff.mp isStatus
  obtain ⟨left, reports⟩ := answers record
  refine ⟨turn.transitional + 1, ?_, Or.inl ⟨rfl, ?_⟩⟩
  · rw [withActivity, isRecord]
    exact reports
  · rw [withActivity, isRecord, isKept]
    cases keeps with
    | false =>
        rfl
    | true =>
        exact congrArg some left

/-- A new activity is created, or it is not. -/
theorem onLaunchActivity_answered
    (isNew : client.status? = none)
    (activityName : String)
    (intent : Intent)
    (created : Bool) :
    ∃ status,
      (client.onLaunchActivity activityName intent true created).2 =
          [status] ∧
        TurnTo.create.AnsweredBy status
          (client.onLaunchActivity activityName intent true created).1 := by
  cases created with
  | true =>
      exact ⟨Status.created, rfl, Or.inl ⟨rfl, rfl⟩⟩
  | false =>
      exact ⟨Status.error, rfl, Or.inr ⟨rfl, rfl, isNew⟩⟩

/-- A client answers a command that it gets in time, if it answers at all. -/
theorem handle_answered
    (follows : call.turnTo.FollowsFrom client)
    (isCommand : call.turnTo ≠ .none)
    (registered created : Bool) :
    (client.handle registered created call).2 = [] ∨
      ∃ status,
        (client.handle registered created call).2 = [status] ∧
          call.turnTo.AnsweredBy status
            (client.handle registered created call).1 := by
  obtain ⟨status, isStatus, legal⟩ := follows
  have known :
      call.turnTo ≠ .create →
      client.status? = some status := by
    intro notCreate
    rw [isStatus]
    rcases legal with isLegal | ⟨_, isResumed⟩
    · exact TurnTo.clientStatus_of_legal notCreate isLegal
    · rw [isResumed]
      rfl
  cases call with
  | scheduleLaunchActivity pid activityName token intent =>
      cases registered with
      | false =>
          exact Or.inl rfl
      | true =>
          refine Or.inr (onLaunchActivity_answered ?_ _ _ _)
          rw [isStatus]
          rcases legal with isLegal | ⟨isResume, _⟩
          · rw [List.mem_singleton.mp isLegal]
            rfl
          · cases isResume
  | scheduleStartActivity pid token intent =>
      exact Or.inr
        (withActivity_answered .start (known nofun)
          (fun _ => ⟨rfl, rfl⟩) rfl)
  | scheduleResumeActivity pid token intent =>
      exact Or.inr
        (withActivity_answered .resume (known nofun)
          (fun _ => ⟨rfl, rfl⟩) rfl)
  | schedulePauseActivity pid token =>
      exact Or.inr
        (withActivity_answered .pause (known nofun)
          (fun _ => ⟨rfl, rfl⟩) rfl)
  | scheduleStopActivity pid token =>
      exact Or.inr
        (withActivity_answered .stop (known nofun)
          (fun _ => ⟨rfl, rfl⟩) rfl)
  | scheduleDestroyActivity pid token =>
      exact Or.inr
        (withActivity_answered .destroy (known nofun)
          (fun _ => ⟨rfl, rfl⟩) rfl)
  | _ =>
      exact absurd rfl isCommand

end ActivityClient

/-! ## Runs -/

/--
The task manager and its clients.  The commands for an activity are among the
calls of the task manager; its client has handled the first ones.
-/
structure ClientRun where
  manager : TaskStackManager
  handled : Nat → Nat
  client : Nat → ActivityClient
  /-- Reports on their way to the service. -/
  toServer : Nat → List Status

/-- The steps of the task manager and of the clients. -/
inductive ClientRunAction where
  /-- Anything but a report. -/
  | manager (action : ManagerAction)
  /-- The client may not know the activity's class, or fail to create it. -/
  | clientHandles (token : Nat) (registered created : Bool)
  | serverHandles (token : Nat)
  deriving Repr, DecidableEq

/-- Reports come from clients only. -/
def ManagerAction.isReport : ManagerAction → Bool
  | .reportActivityStatus _ _ => true
  | _ => false

namespace TaskStackManager

/-- The `ActivityLifeCycleTask`s of an activity that are pending. -/
def lifeCycleTasks
    (manager : TaskStackManager)
    (token : Nat) : List (TaskTimeoutHandler PendTask) :=
  manager.mPendTask.pending
    (PendEvent.activityStatusReport Status.init token)

end TaskStackManager

namespace ClientRun

/-- Nothing has been sent yet. -/
def start (now : Nat) : ClientRun where
  manager := .start now
  handled := fun _ => 0
  client := fun _ => .unknown
  toServer := fun _ => []

/-- Commands on their way to the client. -/
def toClient
    (run : ClientRun)
    (token : Nat) : List Call :=
  (run.manager.commandsFor token).drop (run.handled token)

/-- Perform one step. -/
def step?
    (run : ClientRun) :
    ClientRunAction → Option ClientRun
  | .manager action =>
      if action.isReport then
        none
      else do
        let manager ← run.manager.step? action
        some { run with manager := manager }
  | .clientHandles token registered created =>
      match run.toClient token with
      | call :: _ =>
          let (client, reports) :=
            (run.client token).handle registered created call
          some
            { run with
              handled :=
                Function.update run.handled token (run.handled token + 1)
              client := Function.update run.client token client
              toServer :=
                Function.update run.toServer token
                  (run.toServer token ++ reports) }
      | [] =>
          none
  | .serverHandles token =>
      match run.toServer token with
      | status :: rest => do
          let manager ← run.manager.reportActivityStatus token status
          some
            { run with
              manager := manager
              toServer := Function.update run.toServer token rest }
      | [] =>
          none

/-! ## The protocol -/

/--
Nothing is asked of a client before it has answered, and none is resumed that
has not been started.
-/
structure KeepsProtocol (run : ClientRun) : Prop where
  oneTask : ∀ token, (run.manager.lifeCycleTasks token).length ≤ 1
  oneMessage :
    ∀ token,
      (run.toClient token).length + (run.toServer token).length ≤ 1
  startedFirst :
    ∀ token call rest,
      run.toClient token = call :: rest →
      call.turnTo = .resume →
      (run.client token).isStarted = true

/--
The top of the foreground is relaunched only when it has been started and
nothing is under way.
-/
def relaunchesStarted
    (run : ClientRun) :
    ClientRunAction → Bool
  | .manager (.turnToActivity _ activity _ _) =>
      run.manager.lists.getActiveTask.bind
          run.manager.lists.getTopActivity ≠ some activity ||
        (run.manager.activities activity).all fun record =>
          record.mStatus ∈
            [Status.started, Status.resumed, Status.paused]
  | _ => true

end ClientRun

end ActivityManager
