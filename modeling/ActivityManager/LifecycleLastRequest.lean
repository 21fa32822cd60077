import ActivityManager.LifecycleLockstep

/-!
# The last request wins

At every moment either nothing is under way and both sides have the same
status, or exactly one command is: first as a message to the client, then as
its report.  The table then always has a legal next command, and following it
takes the activity to the status that was asked for last.
-/

namespace ActivityManager

/-! ## The table -/

/--
Between commands, the table either leaves a request alone because it is
answered, or gives a command that is legal for the client.
-/
private theorem turnTo?_check :
    ∀ status ∈ settledStatuses,
      ∀ request ∈ requestedStatuses,
        ((turnTo? status request).any fun turn =>
          if turn = .none then
            settledFor request status
          else
            turn.legalFrom.contains status) = true := by
  decide

theorem turnTo?_settled
    {status request : Status}
    (settled : status ∈ settledStatuses)
    (requested : request ∈ requestedStatuses) :
    (turnTo? status request = some .none ∧
        settledFor request status = true) ∨
      ∃ turn,
        turnTo? status request = some turn ∧
          turn ≠ .none ∧
          status ∈ turn.legalFrom := by
  have check := turnTo?_check status settled request requested
  cases entry : turnTo? status request with
  | none =>
      simp [entry] at check
  | some turn =>
      simp only [entry, Option.any_some] at check
      by_cases leaves : turn = .none
      · rw [if_pos leaves] at check
        exact Or.inl ⟨by rw [leaves], check⟩
      · rw [if_neg leaves, List.contains_iff_mem] at check
        exact Or.inr ⟨turn, rfl, leaves, check⟩

/-- The commands that the table still gives, one after the other. -/
def commandsLeft : Nat → Status → Status → Nat
  | 0, _, _ =>
      0
  | fuel + 1, status, request =>
      match turnTo? status request with
      | none =>
          0
      | some turn =>
          if turn = .none then
            0
          else
            commandsLeft fuel (turn.transitional + 1) request + 1

/-- No request takes more than three commands. -/
private theorem commandsLeft_check :
    ∀ status ∈ settledStatuses,
      ∀ request ∈ requestedStatuses,
        ((turnTo? status request).all fun turn =>
          turn = .none ||
            commandsLeft 3 (turn.transitional + 1) request <
              commandsLeft 3 status request) = true := by
  decide

theorem commandsLeft_lt
    {status request : Status}
    {turn : TurnTo}
    (settled : status ∈ settledStatuses)
    (requested : request ∈ requestedStatuses)
    (entry : turnTo? status request = some turn)
    (isCommand : turn ≠ .none) :
    commandsLeft 3 (turn.transitional + 1) request <
      commandsLeft 3 status request := by
  have check := commandsLeft_check status settled request requested
  simpa [entry, isCommand] using check

/-- A command that is done leaves the activity between commands. -/
theorem TurnTo.done_settled
    {turn : TurnTo}
    (isCommand : turn ≠ .none) :
    turn.transitional + 1 ∈ settledStatuses := by
  cases turn <;> simp_all [transitional, settledStatuses]

/-- The statuses during commands are the odd ones. -/
theorem TurnTo.transitional_odd
    {turn : TurnTo}
    (isCommand : turn ≠ .none) :
    turn.transitional % 2 = 1 := by
  cases turn <;> simp_all [transitional]

theorem settled_even
    {status : Status}
    (settled : status ∈ settledStatuses) :
    status % 2 = 0 := by
  revert status
  decide

/-! ## The record -/

namespace ActivityRecord

/-- A legal command is sent, whatever the range its function checks for. -/
theorem perform_legal
    {activity : ActivityRecord}
    {app : AppRecord}
    {turn : TurnTo}
    (running : app.mStatus ≠ .appStopped)
    (legal : activity.mStatus ∈ turn.legalFrom) :
    ∃ effect call,
      activity.perform turn (some app) = some effect ∧
        effect.activity.mStatus = turn.transitional ∧
        effect.activity.mToken = activity.mToken ∧
        (effect.app.getD app).mStatus = app.mStatus ∧
        effect.calls.filter Call.isCommand = [call] ∧
        call.turnTo = turn := by
  have appRecord : notStopped (some app) = some app := by
    simp [notStopped, running]
  cases turn with
  | none =>
      simp [TurnTo.legalFrom] at legal
  | create =>
      simp only [TurnTo.legalFrom, List.mem_singleton] at legal
      refine ⟨_, .scheduleLaunchActivity app.mPid
        (nameInPackage activity.mName) activity.mToken activity.mIntent,
        rfl, ?_⟩
      simp [create, legal, appRecord, setStatus, TurnTo.transitional,
        AppRecord.addActivity, Call.isCommand, Call.turnTo,
        List.filter_cons]
  | start =>
      refine ⟨_, .scheduleStartActivity app.mPid activity.mToken
        activity.pendingIntent, rfl, ?_⟩
      simp only [TurnTo.legalFrom, List.mem_cons, List.mem_nil_iff,
        or_false] at legal
      rcases legal with status | status <;>
        simp [start, status, appRecord, setStatus,
          TurnTo.transitional, Call.isCommand, Call.turnTo,
          List.filter_cons]
  | resume =>
      refine ⟨_, .scheduleResumeActivity app.mPid activity.mToken
        activity.pendingIntent, rfl, ?_⟩
      simp only [TurnTo.legalFrom, List.mem_cons, List.mem_nil_iff,
        or_false] at legal
      rcases legal with status | status <;>
        simp [resume, status, appRecord, setStatus,
          TurnTo.transitional, Call.isCommand, Call.turnTo,
          List.filter_cons]
  | pause =>
      refine ⟨_, .schedulePauseActivity app.mPid activity.mToken,
        rfl, ?_⟩
      simp only [TurnTo.legalFrom, List.mem_cons, List.mem_nil_iff,
        or_false] at legal
      rcases legal with status | status <;>
        simp [pause, command, status, appRecord, setStatus,
          TurnTo.transitional, Call.isCommand, Call.turnTo,
          List.filter_cons]
  | stop =>
      refine ⟨_, .scheduleStopActivity app.mPid activity.mToken,
        rfl, ?_⟩
      simp only [TurnTo.legalFrom, List.mem_cons, List.mem_nil_iff,
        or_false] at legal
      rcases legal with status | status | status <;>
        simp [stop, command, status, appRecord, setStatus,
          TurnTo.transitional, Call.isCommand, Call.turnTo,
          List.filter_cons]
  | destroy =>
      refine ⟨_, .scheduleDestroyActivity app.mPid activity.mToken,
        rfl, ?_⟩
      simp only [TurnTo.legalFrom, List.mem_cons, List.mem_nil_iff,
        or_false] at legal
      rcases legal with status | status <;>
        simp [destroy, command, status, appRecord, setStatus,
          TurnTo.transitional, Call.isCommand, Call.turnTo,
          List.filter_cons]

/-- Between commands, a request is left alone or sends a legal command. -/
theorem lifecycleTransition?_settled
    {activity : ActivityRecord}
    {app : AppRecord}
    {request : Status}
    (running : app.mStatus ≠ .appStopped)
    (settled : activity.mStatus ∈ settledStatuses)
    (requested : request ∈ requestedStatuses) :
    (activity.lifecycleTransition? (some app) request =
          some
            { activity := activity
              app := some app
              calls := []
              commits := false } ∧
        settledFor request activity.mStatus = true) ∨
      ∃ turn transition call,
        turnTo? activity.mStatus request = some turn ∧
          turn ≠ .none ∧
          activity.mStatus ∈ turn.legalFrom ∧
          activity.lifecycleTransition? (some app) request =
            some transition ∧
          transition.activity.mStatus = turn.transitional ∧
          transition.activity.mTargetStatus = request ∧
          transition.activity.mToken = activity.mToken ∧
          (transition.app.getD app).mStatus = app.mStatus ∧
          transition.commits = true ∧
          transition.calls.filter Call.isCommand = [call] ∧
          call.turnTo = turn := by
  have between : activity.isTransitional = false := by
    have isEven : ∀ status ∈ settledStatuses, status.tmod 2 ≠ 1 := by
      decide
    simpa [isTransitional] using isEven _ settled
  rcases turnTo?_settled settled requested with
    ⟨entry, answered⟩ | ⟨turn, entry, isCommand, legal⟩
  · refine Or.inl ⟨?_, answered⟩
    simp [lifecycleTransition?, between, entry, perform]
  · obtain ⟨effect, call, performed, status, token, app', calls, turnOf⟩ :=
      perform_legal running legal
    let transition : LifecycleTransition :=
      { activity := { effect.activity with mTargetStatus := request }
        app := effect.app
        calls := effect.calls
        commits := true }
    refine Or.inr ⟨turn, transition, call, entry, isCommand, legal, ?_,
      status, rfl, token, app', rfl, calls, turnOf⟩
    simp [lifecycleTransition?, between, entry, performed, transition]

/-- During a command, a request is only remembered. -/
theorem lifecycleTransition?_transitional
    {activity : ActivityRecord}
    {turn : TurnTo}
    (app : Option AppRecord)
    (isCommand : turn ≠ .none)
    (status : activity.mStatus = turn.transitional)
    (request : Status) :
    activity.lifecycleTransition? app request =
      some
        { activity := { activity with mTargetStatus := request }
          app := app
          calls := []
          commits := false } := by
  have transitional : activity.isTransitional = true := by
    rw [isTransitional, status]
    cases turn <;> first | rfl | exact absurd rfl isCommand
  simp [lifecycleTransition?, transitional]

end ActivityRecord

/-! ## The invariant -/

namespace Lockstep

/-- Nothing is under way. -/
structure Quiet (system : Lockstep) : Prop where
  noCommand : system.toClient = []
  noReport : system.toServer = []
  noTask : system.pendingTasks = []
  settled : system.activity.mStatus ∈ settledStatuses
  agree : system.client.lastStatus = system.activity.mStatus
  known :
    system.client.mExistActivity.isSome = true ↔
      system.activity.mStatus ≠ Status.init ∧
        system.activity.mStatus ≠ Status.destroyed
  answered :
    match system.lastRequest with
    | some request =>
        settledFor request system.activity.mStatus = true
    | none =>
        system.activity.mStatus = Status.init

/-- The command is on its way to the client. -/
structure Commanded
    (system : Lockstep)
    (turn : TurnTo) : Prop where
  command :
    ∃ call, system.toClient = [call] ∧ call.turnTo = turn
  noReport : system.toServer = []
  legal : system.client.lastStatus ∈ turn.legalFrom
  known :
    system.client.mExistActivity.isSome = true ↔ turn ≠ .create

/-- The report is on its way to the server. -/
structure Reported
    (system : Lockstep)
    (turn : TurnTo) : Prop where
  noCommand : system.toClient = []
  report : system.toServer = [turn.transitional + 1]
  agree : system.client.lastStatus = turn.transitional + 1
  known :
    system.client.mExistActivity.isSome = true ↔ turn ≠ .destroy

/-- A command is under way. -/
structure Busy
    (system : Lockstep)
    (turn : TurnTo) : Prop where
  isCommand : turn ≠ .none
  status : system.activity.mStatus = turn.transitional
  oneTask :
    ∃ handler,
      system.pendingTasks = [handler] ∧
        handler.mTask = .lifeCycle system.activity.mToken
  target : system.lastRequest = some system.activity.mTargetStatus
  requested : system.activity.mTargetStatus ∈ requestedStatuses
  message : Commanded system turn ∨ Reported system turn

/-- Both sides take turns. -/
structure Alternating (system : Lockstep) : Prop where
  running : system.app.mStatus ≠ .appStopped
  turns : Quiet system ∨ ∃ turn, Busy system turn

theorem Alternating.start
    (name : String)
    (token task : Nat)
    (intent : Intent)
    {app : AppRecord}
    (running : app.mStatus ≠ .appStopped)
    (now : Nat) :
    Alternating (Lockstep.start name token task intent app now) where
  running := running
  turns :=
    Or.inl
      { noCommand := rfl
        noReport := rfl
        noTask := rfl
        settled := List.mem_cons_self
        agree := rfl
        known := by
          simp [Lockstep.start, ActivityClient.unknown,
            ActivityRecord.fresh]
        answered := rfl }

/-! ## Steps of the server -/

/-- A commit adds the new lifecycle task to the pending ones. -/
private theorem pendingTasks_commit
    {system next : Lockstep}
    {task : PendTask}
    (committed :
      next.mPendTask =
        system.mPendTask.commitTask task requestTimeoutMs)
    (noTask : system.pendingTasks = []) :
    ∃ handler,
      next.pendingTasks = [handler] ∧ handler.mTask = task := by
  refine ⟨system.mPendTask.newHandler task requestTimeoutMs, ?_, rfl⟩
  unfold pendingTasks at noTask ⊢
  rw [committed, TaskBoard.commitTask_mTasklist, List.filter_append,
    noTask]
  rfl

/--
Between commands, with nothing under way, a request is answered already or
puts a command under way.
-/
private theorem lifecycleTransition?_quiet
    {system : Lockstep}
    {request : Status}
    (running : system.app.mStatus ≠ .appStopped)
    (noCommand : system.toClient = [])
    (noReport : system.toServer = [])
    (noTask : system.pendingTasks = [])
    (settled : system.activity.mStatus ∈ settledStatuses)
    (agree : system.client.lastStatus = system.activity.mStatus)
    (known :
      system.client.mExistActivity.isSome = true ↔
        system.activity.mStatus ≠ Status.init ∧
          system.activity.mStatus ≠ Status.destroyed)
    (requested : request ∈ requestedStatuses)
    (remembered : system.lastRequest = some request) :
    ∃ next,
      system.lifecycleTransition? request = some next ∧
        next.app.mStatus = system.app.mStatus ∧
        next.lastRequest = system.lastRequest ∧
        ((Quiet next ∧ next.activity = system.activity) ∨
          ∃ turn,
            turnTo? system.activity.mStatus request = some turn ∧
              Busy next turn ∧
              Commanded next turn ∧
              next.activity.mTargetStatus = request) := by
  rcases ActivityRecord.lifecycleTransition?_settled running settled
      requested with
    ⟨unchanged, answered⟩ |
      ⟨turn, transition, call, entry, isCommand, legal, performed,
        status, target, token, app, commits, calls, turnOf⟩
  · refine ⟨system, ?_, rfl, rfl, Or.inl ⟨?_, rfl⟩⟩
    · simp [Lockstep.lifecycleTransition?, unchanged]
    · exact
        { noCommand := noCommand
          noReport := noReport
          noTask := noTask
          settled := settled
          agree := agree
          known := known
          answered := by
            rw [remembered]
            exact answered }
  · let next : Lockstep :=
      { system with
        activity := transition.activity
        app := transition.app.getD system.app
        mPendTask :=
          system.mPendTask.commitTask
            (.lifeCycle system.activity.mToken) requestTimeoutMs
        toClient := [call] }
    have commanded : Commanded next turn :=
      { command := ⟨call, rfl, turnOf⟩
        noReport := noReport
        legal := by
          have legalClient :
              system.client.lastStatus ∈ turn.legalFrom := by
            rw [agree]
            exact legal
          exact legalClient
        known := by
          refine known.trans ?_
          clear * - legal isCommand
          generalize system.activity.mStatus = status at legal
          cases turn <;>
            simp only [TurnTo.legalFrom, List.mem_cons,
              List.mem_nil_iff, or_false] at legal <;>
            rcases legal with rfl | rfl | rfl <;> simp }
    refine ⟨next, ?_, app, rfl, Or.inr ⟨turn, entry, ?_, commanded, ?_⟩⟩
    · simp [Lockstep.lifecycleTransition?, performed, commits, calls,
        noCommand, next]
    · refine
        { isCommand := isCommand
          status := status
          oneTask := ?_
          target := ?_
          requested := ?_
          message := Or.inl commanded }
      · obtain ⟨handler, pending, task⟩ :=
          pendingTasks_commit
            (show next.mPendTask = system.mPendTask.commitTask
              (.lifeCycle system.activity.mToken) requestTimeoutMs
              from rfl)
            noTask
        exact ⟨handler, pending, by rw [task]; exact congrArg _ token.symm⟩
      · rw [show next.activity.mTargetStatus = request from target]
        exact remembered
      · rw [show next.activity.mTargetStatus = request from target]
        exact requested
    · exact target

/-- The event of a report finds the one pending lifecycle task. -/
private theorem firstPending_report
    {system : Lockstep}
    {handler : TaskTimeoutHandler PendTask}
    (pending : system.pendingTasks = [handler])
    (task : handler.mTask = .lifeCycle system.activity.mToken)
    (status : Status) :
    system.mPendTask.firstPending
      (.activityStatusReport status system.activity.mToken) =
        some handler := by
  have asFilter :
      (fun candidate : TaskTimeoutHandler PendTask =>
        candidate.pendingFor
          (PendEvent.activityStatusReport status
            system.activity.mToken)) =
      fun candidate =>
        !candidate.mIsDone &&
          BoardLabels.equalsLabel candidate.mTask
            (PendEvent.activityStatusReport status
              system.activity.mToken) := by
    rfl
  unfold TaskBoard.firstPending
  rw [← List.head?_filter, asFilter]
  have filtered :
      (system.mPendTask.mTasklist.filter fun candidate =>
        !candidate.mIsDone &&
          BoardLabels.equalsLabel candidate.mTask
            (PendEvent.activityStatusReport status
              system.activity.mToken)) =
        system.pendingTasks.filter fun candidate =>
          BoardLabels.equalsLabel candidate.mTask
            (PendEvent.activityStatusReport status
              system.activity.mToken) := by
    rw [pendingTasks, List.filter_filter]
    congr 1
    funext candidate
    exact Bool.and_comm _ _
  rw [filtered, pending]
  simp [task, BoardLabels.equalsLabel]

/-- Marking the one pending task leaves none. -/
private theorem pendingTasks_markDone
    {system next : Lockstep}
    {handler : TaskTimeoutHandler PendTask}
    (marked :
      next.mPendTask = system.mPendTask.markDone handler.serial)
    (pending : system.pendingTasks = [handler]) :
    next.pendingTasks = [] := by
  unfold pendingTasks at pending ⊢
  rw [marked, List.filter_eq_nil_iff]
  intro after member
  obtain ⟨before, beforeMember, rfl⟩ := List.mem_map.mp member
  by_cases same : before.serial = handler.serial
  · simp [same]
  · rw [if_neg same]
    intro notDone
    have stillPending :
        before ∈ system.mPendTask.mTasklist.filter (!·.mIsDone) :=
      List.mem_filter.mpr ⟨beforeMember, notDone⟩
    rw [pending, List.mem_singleton] at stillPending
    exact same (congrArg _ stillPending)

/-- A destroyed activity gets no further command. -/
private theorem turnTo?_destroyed
    {request : Status}
    {turn : TurnTo}
    (requested : request ∈ requestedStatuses)
    (entry : turnTo? Status.destroyed request = some turn) :
    turn = .none := by
  have check :
      ∀ request ∈ requestedStatuses,
        turnTo? Status.destroyed request = some .none := by
    decide
  rw [check request requested] at entry
  exact (Option.some.inj entry).symm

/--
The server handles a report: the activity settles, or the table's next command
goes out.
-/
private theorem report
    {system : Lockstep}
    {turn : TurnTo}
    (running : system.app.mStatus ≠ .appStopped)
    (busy : Busy system turn)
    (reported : Reported system turn) :
    ∃ next,
      system.step? .serverHandles = some next ∧
        next.app.mStatus = system.app.mStatus ∧
        next.lastRequest = system.lastRequest ∧
        (Quiet next ∨
          ∃ following,
            turnTo? (turn.transitional + 1)
                system.activity.mTargetStatus = some following ∧
              Busy next following ∧
              Commanded next following ∧
              next.activity.mTargetStatus =
                system.activity.mTargetStatus) := by
  obtain ⟨handler, pending, task⟩ := busy.oneTask
  let received : Lockstep := { system with toServer := [] }
  let settledSystem : Lockstep :=
    { received with
      mPendTask := system.mPendTask.markDone handler.serial
      activity := system.activity.setStatus (turn.transitional + 1) }
  have known :
      settledSystem.client.mExistActivity.isSome = true ↔
        settledSystem.activity.mStatus ≠ Status.init ∧
          settledSystem.activity.mStatus ≠ Status.destroyed := by
    refine reported.known.trans ?_
    have isCommand := busy.isCommand
    cases turn <;>
      simp_all [settledSystem, ActivityRecord.setStatus,
        TurnTo.transitional]
  obtain ⟨next, transition, sameApp, sameRequest, outcome⟩ :=
    lifecycleTransition?_quiet
      (show settledSystem.app.mStatus ≠ .appStopped from running)
      reported.noCommand rfl
      (pendingTasks_markDone
        (show settledSystem.mPendTask =
          system.mPendTask.markDone handler.serial from rfl)
        pending)
      (TurnTo.done_settled busy.isCommand)
      reported.agree known busy.requested busy.target
  have notError : turn.transitional + 1 ≠ Status.error := by
    cases turn <;> simp [TurnTo.transitional]
  have found :=
    firstPending_report pending task (turn.transitional + 1)
  have executed :
      system.step? .serverHandles =
        if turn.transitional + 1 = Status.destroyed then
          some { next with
            activity := next.activity.setStatus Status.destroyed }
        else
          some next := by
    simp only [step?, reported.report, reportActivityStatus?, found]
    rw [if_neg notError]
    have sameStep :
        lifecycleTransition?
            { system with
              toServer := []
              mPendTask := system.mPendTask.markDone handler.serial
              activity :=
                system.activity.setStatus (turn.transitional + 1) }
            system.activity.mTargetStatus = some next :=
      transition
    simp only [sameStep, Option.bind_eq_bind, Option.bind_some]
  by_cases isDestroyed : turn.transitional + 1 = Status.destroyed
  · rw [if_pos isDestroyed] at executed
    rcases outcome with
      ⟨quiet, sameActivity⟩ | ⟨following, entry, nextBusy, _, _⟩
    · have unchanged :
          next.activity.setStatus Status.destroyed = next.activity := by
        rw [sameActivity, ← isDestroyed]
        rfl
      rw [unchanged] at executed
      exact ⟨next, executed, sameApp, sameRequest, Or.inl quiet⟩
    · have entryAtDestroyed :
          turnTo? Status.destroyed system.activity.mTargetStatus =
            some following := by
        rw [← isDestroyed]
        exact entry
      exact absurd (turnTo?_destroyed busy.requested entryAtDestroyed)
        nextBusy.isCommand
  · rw [if_neg isDestroyed] at executed
    refine ⟨next, executed, sameApp, sameRequest, ?_⟩
    rcases outcome with ⟨quiet, _⟩ | further
    · exact Or.inl quiet
    · exact Or.inr further

/-! ## Steps of the client -/

/-- A legal command is handled and answered by its report. -/
private theorem handle_command
    {client : ActivityClient}
    {call : Call}
    (isCommand : call.turnTo ≠ .none)
    (known :
      client.mExistActivity.isSome = true ↔ call.turnTo ≠ .create) :
    ∃ after,
      client.handle true true call =
          (after, [call.turnTo.transitional + 1]) ∧
        after.lastStatus = call.turnTo.transitional + 1 ∧
        (after.mExistActivity.isSome = true ↔
          call.turnTo ≠ .destroy) := by
  cases record : client.mExistActivity with
  | none =>
      cases call <;>
        simp_all [Call.turnTo, ActivityClient.handle,
          ActivityClient.onLaunchActivity, ActivityClientRecord.onCreate,
          ActivityClientRecord.report, TurnTo.transitional]
  | some record =>
      cases call <;>
        simp_all [Call.turnTo, ActivityClient.handle,
          ActivityClient.withActivity, ActivityClientRecord.onStart,
          ActivityClientRecord.onResume, ActivityClientRecord.onPause,
          ActivityClientRecord.onStop, ActivityClientRecord.onDestroy,
          ActivityClientRecord.report, TurnTo.transitional]

/-- The client answers the command that is under way. -/
private theorem answer
    {system : Lockstep}
    {turn : TurnTo}
    (busy : Busy system turn)
    (commanded : Commanded system turn) :
    ∃ next,
      system.step? .clientHandles = some next ∧
        next.app = system.app ∧
        next.lastRequest = system.lastRequest ∧
        next.activity = system.activity ∧
        Busy next turn ∧
        Reported next turn := by
  obtain ⟨call, channel, turnOf⟩ := commanded.command
  subst turnOf
  obtain ⟨after, handled, status, known⟩ :=
    handle_command busy.isCommand commanded.known
  let next : Lockstep :=
    { system with
      toClient := []
      client := after
      toServer := [call.turnTo.transitional + 1] }
  have reported : Reported next call.turnTo :=
    { noCommand := rfl
      report := rfl
      agree := status
      known := known }
  refine ⟨next, ?_, rfl, rfl, rfl, ?_, reported⟩
  · simp only [step?, channel, handled, commanded.noReport,
      List.nil_append]
    rfl
  · exact
      { isCommand := busy.isCommand
        status := busy.status
        oneTask := busy.oneTask
        target := busy.target
        requested := busy.requested
        message := Or.inr reported }

/-! ## Runs -/

/-- A request in the middle of a command is remembered. -/
private theorem request_busy
    {system : Lockstep}
    {turn : TurnTo}
    {request : Status}
    (busy : Busy system turn)
    (requested : request ∈ requestedStatuses) :
    ∃ next,
      lifecycleTransition?
          { system with lastRequest := some request } request =
          some next ∧
        next.app = system.app ∧
        Busy next turn := by
  have transition :=
    ActivityRecord.lifecycleTransition?_transitional (some system.app)
      busy.isCommand busy.status request
  refine
    ⟨{ system with
        lastRequest := some request
        activity := { system.activity with mTargetStatus := request } },
      ?_, rfl, ?_⟩
  · simp [Lockstep.lifecycleTransition?, transition]
  · refine
      { isCommand := busy.isCommand
        status := busy.status
        oneTask := busy.oneTask
        target := rfl
        requested := requested
        message := ?_ }
    rcases busy.message with commanded | reported
    · exact Or.inl
        { command := commanded.command
          noReport := commanded.noReport
          legal := commanded.legal
          known := commanded.known }
    · exact Or.inr
        { noCommand := reported.noCommand
          report := reported.report
          agree := reported.agree
          known := reported.known }

/-- Every step keeps the sides taking turns. -/
theorem Alternating.step
    {system next : Lockstep}
    {action : LockstepAction}
    (alternating : Alternating system)
    (stepped : system.step? action = some next) :
    Alternating next := by
  have running := alternating.running
  cases action with
  | lifecycleTransition request =>
      simp only [step?, Option.ite_none_right_eq_some] at stepped
      obtain ⟨requested, stepped⟩ := stepped
      rcases alternating.turns with quiet | ⟨turn, busy⟩
      · obtain ⟨after, transition, sameApp, _, outcome⟩ :=
          lifecycleTransition?_quiet
            (show ({ system with lastRequest := some request } :
              Lockstep).app.mStatus ≠ .appStopped from running)
            quiet.noCommand quiet.noReport quiet.noTask quiet.settled
            quiet.agree quiet.known requested rfl
        rw [transition, Option.some.injEq] at stepped
        subst next
        refine ⟨by rw [sameApp]; exact running, ?_⟩
        rcases outcome with
          ⟨nextQuiet, _⟩ | ⟨turn, _, nextBusy, _, _⟩
        · exact Or.inl nextQuiet
        · exact Or.inr ⟨turn, nextBusy⟩
      · obtain ⟨after, transition, sameApp, nextBusy⟩ :=
          request_busy busy requested
        rw [transition, Option.some.injEq] at stepped
        subst next
        exact ⟨by rw [sameApp]; exact running, Or.inr ⟨turn, nextBusy⟩⟩
  | clientHandles =>
      rcases alternating.turns with quiet | ⟨turn, busy⟩
      · simp [step?, quiet.noCommand] at stepped
      · rcases busy.message with commanded | reported
        · obtain ⟨after, handled, sameApp, _, _, nextBusy, _⟩ :=
            answer busy commanded
          rw [handled, Option.some.injEq] at stepped
          subst next
          exact ⟨by rw [sameApp]; exact running,
            Or.inr ⟨turn, nextBusy⟩⟩
        · simp [step?, reported.noCommand] at stepped
  | serverHandles =>
      rcases alternating.turns with quiet | ⟨turn, busy⟩
      · simp [step?, quiet.noReport] at stepped
      · rcases busy.message with commanded | reported
        · simp [step?, commanded.noReport] at stepped
        · obtain ⟨after, handled, sameApp, _, outcome⟩ :=
            report running busy reported
          rw [handled, Option.some.injEq] at stepped
          subst next
          refine ⟨by rw [sameApp]; exact running, ?_⟩
          rcases outcome with
            nextQuiet | ⟨following, _, nextBusy, _, _⟩
          · exact Or.inl nextQuiet
          · exact Or.inr ⟨following, nextBusy⟩

/-- Deliveries alone: neither side is asked for anything new. -/
def Delivery : LockstepAction → Prop
  | .lifecycleTransition _ => False
  | .clientHandles => True
  | .serverHandles => True

/-- Delivering what is under way settles the activity. -/
private theorem drains_commanded
    {system : Lockstep}
    {turn : TurnTo}
    (running : system.app.mStatus ≠ .appStopped)
    (busy : Busy system turn)
    (commanded : Commanded system turn) :
    ∃ deliveries final,
      (∀ action ∈ deliveries, Delivery action) ∧
        deliveries.length ≤
          2 * (commandsLeft 3 (turn.transitional + 1)
            system.activity.mTargetStatus + 1) ∧
        StepSystem.run? step? system deliveries = some final ∧
        Quiet final ∧
        final.lastRequest = system.lastRequest := by
  obtain ⟨answered, handled, sameApp, sameRequest, sameActivity,
    answeredBusy, reported⟩ := answer busy commanded
  have answeredRunning : answered.app.mStatus ≠ .appStopped := by
    rw [sameApp]
    exact running
  obtain ⟨next, settles, nextApp, nextRequest, outcome⟩ :=
    report answeredRunning answeredBusy reported
  rcases outcome with
    quiet | ⟨following, entry, nextBusy, nextCommanded, target⟩
  · refine ⟨[.clientHandles, .serverHandles], next, ?_, ?_, ?_, quiet,
      nextRequest.trans sameRequest⟩
    · simp [Delivery]
    · simp only [List.length_cons, List.length_nil]
      omega
    · simp [StepSystem.run?, handled, settles]
  · rw [sameActivity] at entry target
    have fewer :=
      commandsLeft_lt (TurnTo.done_settled busy.isCommand)
        busy.requested entry nextBusy.isCommand
    have less :
        commandsLeft 3 (following.transitional + 1)
            next.activity.mTargetStatus <
          commandsLeft 3 (turn.transitional + 1)
            system.activity.mTargetStatus := by
      rw [target]
      exact fewer
    have nextRunning : next.app.mStatus ≠ .appStopped := by
      rw [nextApp]
      exact answeredRunning
    obtain ⟨deliveries, final, areDeliveries, short, runs, quiet,
      finalRequest⟩ :=
        drains_commanded nextRunning nextBusy nextCommanded
    refine ⟨.clientHandles :: .serverHandles :: deliveries, final, ?_,
      ?_, ?_, quiet,
      finalRequest.trans (nextRequest.trans sameRequest)⟩
    · simpa [Delivery] using areDeliveries
    · simp only [List.length_cons]
      omega
    · simpa [StepSystem.run?, handled, settles] using runs
termination_by
  commandsLeft 3 (turn.transitional + 1) system.activity.mTargetStatus
decreasing_by
  exact less

/-- Deliveries settle the activity from wherever it is. -/
private theorem drains
    {system : Lockstep}
    (alternating : Alternating system) :
    ∃ deliveries final,
      (∀ action ∈ deliveries, Delivery action) ∧
        deliveries.length ≤ 8 ∧
        StepSystem.run? step? system deliveries = some final ∧
        Quiet final ∧
        final.lastRequest = system.lastRequest := by
  have running := alternating.running
  have atMostThree :
      ∀ status ∈ settledStatuses,
        ∀ request ∈ requestedStatuses,
          commandsLeft 3 status request ≤ 3 := by
    decide
  rcases alternating.turns with quiet | ⟨turn, busy⟩
  · exact ⟨[], system, by simp, by simp, rfl, quiet, rfl⟩
  · have bound :=
      atMostThree _ (TurnTo.done_settled busy.isCommand)
        _ busy.requested
    rcases busy.message with commanded | reported
    · obtain ⟨deliveries, final, areDeliveries, short, runs, quiet,
        sameRequest⟩ := drains_commanded running busy commanded
      exact ⟨deliveries, final, areDeliveries, by omega, runs, quiet,
        sameRequest⟩
    · obtain ⟨next, settles, nextApp, nextRequest, outcome⟩ :=
        report running busy reported
      rcases outcome with
        quiet | ⟨following, entry, nextBusy, nextCommanded, target⟩
      · exact ⟨[.serverHandles], next, by simp [Delivery], by simp,
          by simp [StepSystem.run?, settles], quiet, nextRequest⟩
      · have fewer :=
          commandsLeft_lt (TurnTo.done_settled busy.isCommand)
            busy.requested entry nextBusy.isCommand
        have nextRunning : next.app.mStatus ≠ .appStopped := by
          rw [nextApp]
          exact running
        obtain ⟨deliveries, final, areDeliveries, short, runs, quiet,
          sameRequest⟩ :=
            drains_commanded nextRunning nextBusy nextCommanded
        rw [target] at short
        refine ⟨.serverHandles :: deliveries, final, ?_, ?_, ?_, quiet,
          sameRequest.trans nextRequest⟩
        · simpa [Delivery] using areDeliveries
        · simp only [List.length_cons]
          omega
        · simpa [StepSystem.run?, settles] using runs

/-! ## What is promised -/

/-- The promises about the two sides of an activity. -/
structure InLockstep (system : Lockstep) : Prop where
  /-- At most one command or report is in flight. -/
  atMostOne :
    system.toClient.length + system.toServer.length ≤ 1
  /-- The status is transitional exactly when one is in flight. -/
  transitionalIff :
    system.activity.mStatus % 2 = 1 ↔
      system.toClient.length + system.toServer.length = 1
  /-- What is in flight matches the status. -/
  commandMatches :
    ∀ call ∈ system.toClient,
      call.turnTo.transitional = system.activity.mStatus
  reportMatches :
    ∀ report ∈ system.toServer,
      report = system.activity.mStatus + 1
  /-- One lifecycle task waits for it, and none waits otherwise. -/
  oneTask :
    system.activity.mStatus % 2 = 1 →
    ∃ handler,
      system.pendingTasks = [handler] ∧
        handler.mTask = .lifeCycle system.activity.mToken
  noTask :
    system.activity.mStatus % 2 = 0 →
    system.pendingTasks = []
  /-- Between commands the two sides agree. -/
  agree :
    system.activity.mStatus % 2 = 0 →
    system.client.lastStatus = system.activity.mStatus
  /-- A command reaches the client in a status in which it is legal. -/
  legal :
    ∀ call ∈ system.toClient,
      system.client.lastStatus ∈ call.turnTo.legalFrom ∧
        (system.client.mExistActivity.isSome = true ↔
          call.turnTo ≠ .create)
  /-- During a command the record heads for the last request. -/
  heading :
    system.activity.mStatus % 2 = 1 →
    system.lastRequest = some system.activity.mTargetStatus
  /-- Between commands the last request is answered. -/
  answered :
    system.activity.mStatus % 2 = 0 →
    match system.lastRequest with
    | some request =>
        settledFor request system.activity.mStatus = true
    | none =>
        system.activity.mStatus = Status.init
  /-- Without new requests, at most eight deliveries answer the last one. -/
  settles :
    ∃ deliveries final,
      (∀ action ∈ deliveries, Delivery action) ∧
        deliveries.length ≤ 8 ∧
        StepSystem.run? step? system deliveries = some final ∧
        final.toClient = [] ∧
        final.toServer = [] ∧
        final.lastRequest = system.lastRequest ∧
        final.client.lastStatus = final.activity.mStatus ∧
        ∀ request,
          system.lastRequest = some request →
          settledFor request final.activity.mStatus = true

/-- The last promise, for both kinds of states. -/
private theorem settles_of_alternating
    {system : Lockstep}
    (alternating : Alternating system) :
    ∃ deliveries final,
      (∀ action ∈ deliveries, Delivery action) ∧
        deliveries.length ≤ 8 ∧
        StepSystem.run? step? system deliveries = some final ∧
        final.toClient = [] ∧
        final.toServer = [] ∧
        final.lastRequest = system.lastRequest ∧
        final.client.lastStatus = final.activity.mStatus ∧
        ∀ request,
          system.lastRequest = some request →
          settledFor request final.activity.mStatus = true := by
  obtain ⟨deliveries, final, areDeliveries, short, runs, quiet,
    sameRequest⟩ := drains alternating
  refine ⟨deliveries, final, areDeliveries, short, runs,
    quiet.noCommand, quiet.noReport, sameRequest, quiet.agree, ?_⟩
  intro request remembered
  have answered := quiet.answered
  rw [sameRequest, remembered] at answered
  exact answered

/-- With nothing under way the promises hold. -/
private theorem Quiet.inLockstep
    {system : Lockstep}
    (alternating : Alternating system)
    (quiet : Quiet system) :
    InLockstep system := by
  have even := settled_even quiet.settled
  have notOdd : ¬ system.activity.mStatus % 2 = 1 := by
    rw [even]
    decide
  constructor
  · simp [quiet.noCommand, quiet.noReport]
  · simp [quiet.noCommand, quiet.noReport, even]
  · simp [quiet.noCommand]
  · simp [quiet.noReport]
  · exact fun odd => absurd odd notOdd
  · exact fun _ => quiet.noTask
  · exact fun _ => quiet.agree
  · simp [quiet.noCommand]
  · exact fun odd => absurd odd notOdd
  · exact fun _ => quiet.answered
  · exact settles_of_alternating alternating

/-- With a command under way the promises hold. -/
private theorem Busy.inLockstep
    {system : Lockstep}
    {turn : TurnTo}
    (alternating : Alternating system)
    (busy : Busy system turn) :
    InLockstep system := by
  have odd : system.activity.mStatus % 2 = 1 := by
    rw [busy.status]
    exact TurnTo.transitional_odd busy.isCommand
  have notEven : ¬ system.activity.mStatus % 2 = 0 := by
    rw [odd]
    decide
  have settles := settles_of_alternating alternating
  rcases busy.message with commanded | reported
  · obtain ⟨call, channel, turnOf⟩ := commanded.command
    constructor
    · simp [channel, commanded.noReport]
    · simp [channel, commanded.noReport, odd]
    · intro sent member
      rw [channel, List.mem_singleton] at member
      rw [member, turnOf, busy.status]
    · simp [commanded.noReport]
    · exact fun _ => busy.oneTask
    · exact fun even => absurd even notEven
    · exact fun even => absurd even notEven
    · intro sent member
      rw [channel, List.mem_singleton] at member
      rw [member, turnOf]
      exact ⟨commanded.legal, commanded.known⟩
    · exact fun _ => busy.target
    · exact fun even => absurd even notEven
    · exact settles
  · constructor
    · simp [reported.noCommand, reported.report]
    · simp [reported.noCommand, reported.report, odd]
    · simp [reported.noCommand]
    · intro sent member
      rw [reported.report, List.mem_singleton] at member
      rw [member, busy.status]
    · exact fun _ => busy.oneTask
    · exact fun even => absurd even notEven
    · exact fun even => absurd even notEven
    · simp [reported.noCommand]
    · exact fun _ => busy.target
    · exact fun even => absurd even notEven
    · exact settles

/--
Whatever is asked for and in whatever order messages are handled, server and
client of an activity stay in lockstep, and the last request wins.
-/
theorem inLockstep_of_reachable
    (name : String)
    (token task : Nat)
    (intent : Intent)
    (app : AppRecord)
    (running : app.mStatus ≠ .appStopped)
    (now : Nat)
    {system : Lockstep}
    (reachable :
      StepSystem.Reachable step? (fun _ _ => True)
        (Lockstep.start name token task intent app now) system) :
    InLockstep system := by
  have alternating : Alternating system := by
    refine reachable.invariant ?_ ?_
    · exact Alternating.start name token task intent running now
    · intro _ _ _ holds _ stepped
      exact holds.step stepped
  rcases alternating.turns with quiet | ⟨turn, busy⟩
  · exact quiet.inLockstep alternating
  · exact busy.inLockstep alternating

/-- An activity is stopped and resumed again while it is being created. -/
def retargetedRun : Option Lockstep :=
  StepSystem.run? step?
    (Lockstep.start "music/Player" 7 1
      { mTarget := "music/Player", mAction := "", mData := "", mFlag := 0 }
      (AppRecord.attached "music" false 40) 0)
    [.lifecycleTransition Status.resumed, .clientHandles,
      .lifecycleTransition Status.stopped, .serverHandles,
      .lifecycleTransition Status.resumed, .clientHandles]

/-- The retargeted activity is in lockstep. -/
theorem retargetedRun_inLockstep :
    InLockstep (retargetedRun.get rfl) := by
  have accepted : retargetedRun = some (retargetedRun.get rfl) :=
    (Option.some_get _).symm
  exact inLockstep_of_reachable _ _ _ _ _ (by decide) _
    (StepSystem.Reachable.of_run?
      (StepSystem.allowedRun_of_forall (fun _ _ => trivial) _ _)
      accepted)

end Lockstep

end ActivityManager
