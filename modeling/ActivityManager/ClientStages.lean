import ActivityManager.ClientChannels
import ActivityManager.ProcessDeath

/-!
# The stages of an activity

An activity waits for nothing, or a command for it is under way: on its way to
the client, or answered, or lost.  The status of its record says which.  A
command of the table takes it from the first stage to the second, and a report
that meets a task takes it back.
-/

namespace ActivityManager

/-! ## One activity -/

/--
A command is on its way to the client, or its answer is on the way back, or
there will be none.
-/
inductive UnderWay
    (turn : TurnTo)
    (client : ActivityClient) :
    List Call → List Status → Prop where
  | lost :
      UnderWay turn client [] []
  | command (call : Call) :
      call.turnTo = turn →
      turn.FollowsFrom client →
      UnderWay turn client [call] []
  | answer (status : Status) :
      turn.AnsweredBy status client →
      UnderWay turn client [] [status]

/--
How far an activity with a status and some pending tasks has come.  A report
of one that is given up on meets no task, if the service knows the activity at
all.
-/
inductive Stage
    (known : Prop)
    (status : Status)
    (tasks : Nat)
    (client : ActivityClient)
    (toClient : List Call)
    (toServer : List Status) : Prop where
  | quiet :
      status ∈ settledStatuses →
      tasks = 0 →
      client.status? = clientStatus status →
      toClient = [] →
      toServer = [] →
      Stage known status tasks client toClient toServer
  | busy (turn : TurnTo) :
      turn ≠ .none →
      status = turn.transitional →
      tasks ≤ 1 →
      UnderWay turn client toClient toServer →
      Stage known status tasks client toClient toServer
  | gone (turn : TurnTo) :
      turn ≠ .none →
      status = Status.destroyed →
      tasks ≤ 1 →
      (known → tasks = 0) →
      UnderWay turn client toClient toServer →
      Stage known status tasks client toClient toServer

/-- There is at most one message. -/
theorem UnderWay.length_le_one
    {turn : TurnTo}
    {client : ActivityClient}
    {toClient : List Call}
    {toServer : List Status}
    (underWay : UnderWay turn client toClient toServer) :
    toClient.length + toServer.length ≤ 1 := by
  cases underWay with
  | lost =>
      exact Nat.zero_le 1
  | command _ _ _ =>
      exact Nat.le_refl 1
  | answer _ _ =>
      exact Nat.le_refl 1

/-- An answer is received, whatever the service makes of it. -/
theorem UnderWay.received
    {turn : TurnTo}
    {client : ActivityClient}
    {toClient : List Call}
    {status : Status}
    {rest : List Status}
    (underWay : UnderWay turn client toClient (status :: rest)) :
    turn.AnsweredBy status client ∧ toClient = [] ∧ rest = [] := by
  cases underWay with
  | answer _ answered =>
      exact ⟨answered, rfl, rfl⟩

/-- A command is handled. -/
theorem UnderWay.handled
    {turn : TurnTo}
    {client : ActivityClient}
    {call : Call}
    {rest : List Call}
    {toServer : List Status}
    (underWay : UnderWay turn client (call :: rest) toServer)
    (isCommand : turn ≠ .none)
    (registered created : Bool) :
    UnderWay turn (client.handle registered created call).1 rest
      (toServer ++ (client.handle registered created call).2) := by
  cases underWay with
  | command _ isTurn follows =>
      subst isTurn
      rcases ActivityClient.handle_answered follows isCommand registered
          created with noAnswer | ⟨status, isAnswer, answered⟩
      · rw [noAnswer]
        exact .lost
      · rw [isAnswer]
        exact .answer status answered

namespace Stage

variable
  {known knownLater : Prop}
  {status : Status}
  {tasks fewer : Nat}
  {client : ActivityClient}
  {toClient : List Call}
  {toServer : List Status}

/-- There is at most one pending task. -/
theorem tasks_le_one
    (stage : Stage known status tasks client toClient toServer) :
    tasks ≤ 1 := by
  cases stage with
  | quiet _ noTask _ _ _ =>
      rw [noTask]
      exact Nat.zero_le 1
  | busy _ _ _ oneTask _ =>
      exact oneTask
  | gone _ _ _ oneTask _ _ =>
      exact oneTask

/-- There is at most one message. -/
theorem length_le_one
    (stage : Stage known status tasks client toClient toServer) :
    toClient.length + toServer.length ≤ 1 := by
  cases stage with
  | quiet _ _ _ noCommand noReport =>
      rw [noCommand, noReport]
      exact Nat.zero_le 1
  | busy _ _ _ _ underWay =>
      exact underWay.length_le_one
  | gone _ _ _ _ _ underWay =>
      exact underWay.length_le_one

/-- A client can follow the command that is on its way to it. -/
theorem follows
    {call : Call}
    {rest : List Call}
    (stage : Stage known status tasks client (call :: rest) toServer) :
    call.turnTo.FollowsFrom client := by
  have ofUnderWay :
      ∀ turn,
        UnderWay turn client (call :: rest) toServer →
        call.turnTo.FollowsFrom client := by
    intro turn underWay
    cases underWay with
    | command _ isTurn follows =>
        rw [isTurn]
        exact follows
  cases stage with
  | quiet _ _ _ noCommand _ =>
      cases noCommand
  | busy turn _ _ _ underWay =>
      exact ofUnderWay turn underWay
  | gone turn _ _ _ _ underWay =>
      exact ofUnderWay turn underWay

/-- Between commands nothing is under way. -/
theorem isQuiet
    (stage : Stage known status tasks client toClient toServer)
    (settled : status ∈ settledStatuses)
    (notDestroyed : status ≠ Status.destroyed) :
    tasks = 0 ∧
      client.status? = clientStatus status ∧
      toClient = [] ∧
      toServer = [] := by
  cases stage with
  | quiet _ noTask agrees noCommand noReport =>
      exact ⟨noTask, agrees, noCommand, noReport⟩
  | busy turn isCommand isStatus _ _ =>
      have isOdd := TurnTo.transitional_odd isCommand
      rw [← isStatus, settled_even settled] at isOdd
      exact absurd isOdd (by decide)
  | gone _ _ isDestroyed _ _ _ =>
      exact absurd isDestroyed notDestroyed

/-- A command that the table gives is legal, and comes between commands. -/
theorem legalCommand
    {record : ActivityRecord}
    {app : Option AppRecord}
    {request : Status}
    {turn : TurnTo}
    {effect : LifecycleEffect}
    (stage :
      Stage known record.mStatus tasks client toClient toServer)
    (asked : request ∈ targetStatuses)
    (between : record.isTransitional = false)
    (entry : turnTo? record.mStatus request = some turn)
    (performed : record.perform turn app = some effect) :
    record.mStatus ∈ settledStatuses ∧
      record.mStatus ≠ Status.destroyed ∧
      record.mStatus ∈ turn.legalFrom := by
  have isCommand : turn ≠ .none := by
    intro isNone
    rw [isNone] at performed
    cases performed
  have settled : record.mStatus ∈ settledStatuses := by
    cases stage with
    | quiet settled _ _ _ _ =>
        exact settled
    | busy under isUnder isStatus _ _ =>
        rw [ActivityRecord.isTransitional, isStatus] at between
        cases under <;> first | exact absurd rfl isUnder | cases between
    | gone _ _ isDestroyed _ _ _ =>
        rw [isDestroyed]
        decide
  have requested : request ∈ requestedStatuses := by
    rcases List.mem_cons.mp asked with isInit | requested
    · have nothing :
          ∀ status ∈ settledStatuses,
            turnTo? status Status.init = some .none := by
        decide
      rw [isInit, nothing _ settled] at entry
      exact absurd (Option.some.inj entry).symm isCommand
    · exact requested
  refine ⟨settled, ?_, ?_⟩
  · intro isDestroyed
    have nothing :
        ∀ request ∈ requestedStatuses,
          turnTo? Status.destroyed request = some .none := by
      decide
    rw [isDestroyed, nothing _ requested] at entry
    exact isCommand (Option.some.inj entry).symm
  · rcases turnTo?_settled settled requested with
      ⟨isNone, _⟩ | ⟨other, isOther, _, legal⟩
    · rw [isNone] at entry
      exact absurd (Option.some.inj entry).symm isCommand
    · rw [isOther] at entry
      rw [← Option.some.inj entry]
      exact legal

/-- Tasks may be done or removed. -/
theorem lessTasks
    (stage : Stage known status tasks client toClient toServer)
    (less : fewer ≤ tasks)
    (knew : knownLater → known) :
    Stage knownLater status fewer client toClient toServer := by
  cases stage with
  | quiet settled noTask agrees noCommand noReport =>
      have stillNone : fewer = 0 := Nat.le_zero.mp (noTask ▸ less)
      exact .quiet settled stillNone agrees noCommand noReport
  | busy turn isCommand isStatus oneTask underWay =>
      exact .busy turn isCommand isStatus (less.trans oneTask) underWay
  | gone turn isCommand isStatus oneTask noTask underWay =>
      refine .gone turn isCommand isStatus (less.trans oneTask) ?_ underWay
      intro isKnown
      exact Nat.le_zero.mp (noTask (knew isKnown) ▸ less)

/-- An activity that nothing was asked of may become known. -/
theorem init
    (stage : Stage known Status.init tasks client toClient toServer) :
    Stage knownLater Status.init tasks client toClient toServer := by
  cases stage with
  | quiet settled noTask agrees noCommand noReport =>
      exact .quiet settled noTask agrees noCommand noReport
  | busy turn isCommand isStatus _ _ =>
      have isOdd := TurnTo.transitional_odd isCommand
      rw [← isStatus] at isOdd
      exact absurd isOdd (by decide)
  | gone _ _ isDestroyed _ _ _ =>
      exact absurd isDestroyed (by decide)

/-- The service gives up on the activity. -/
theorem giveUp
    (stage : Stage known status tasks client toClient toServer)
    (less : fewer ≤ tasks)
    (noTask : knownLater → fewer = 0) :
    Stage knownLater Status.destroyed fewer client toClient toServer := by
  have atMostOne := less.trans stage.tasks_le_one
  cases stage with
  | quiet _ _ _ noCommand noReport =>
      subst noCommand
      subst noReport
      exact .gone .create nofun rfl atMostOne noTask .lost
  | busy turn isCommand _ _ underWay =>
      exact .gone turn isCommand rfl atMostOne noTask underWay
  | gone turn isCommand _ _ _ underWay =>
      exact .gone turn isCommand rfl atMostOne noTask underWay

/-- The client handles a command. -/
theorem handle
    {call : Call}
    {rest : List Call}
    (stage : Stage known status tasks client (call :: rest) toServer)
    (registered created : Bool) :
    Stage known status tasks
      (client.handle registered created call).1 rest
      (toServer ++ (client.handle registered created call).2) := by
  cases stage with
  | quiet _ _ _ noCommand _ =>
      cases noCommand
  | busy turn isCommand isStatus oneTask underWay =>
      exact .busy turn isCommand isStatus oneTask
        (underWay.handled isCommand registered created)
  | gone turn isCommand isStatus oneTask noTask underWay =>
      exact .gone turn isCommand isStatus oneTask noTask
        (underWay.handled isCommand registered created)

/-- A report comes that meets no task. -/
theorem drop
    {reported : Status}
    {rest : List Status}
    (stage :
      Stage known status tasks client toClient (reported :: rest)) :
    Stage known status tasks client toClient rest := by
  cases stage with
  | quiet _ _ _ _ noReport =>
      cases noReport
  | busy turn isCommand isStatus oneTask underWay =>
      obtain ⟨_, noCommand, noMore⟩ := underWay.received
      subst noCommand
      subst noMore
      exact .busy turn isCommand isStatus oneTask .lost
  | gone turn isCommand isStatus oneTask noTask underWay =>
      obtain ⟨_, noCommand, noMore⟩ := underWay.received
      subst noCommand
      subst noMore
      exact .gone turn isCommand isStatus oneTask noTask .lost

/-- A report comes for a task that is pending. -/
theorem report
    {record : ActivityRecord}
    {reported : Status}
    {rest : List Status}
    (stage :
      Stage known record.mStatus tasks client toClient
        (reported :: rest))
    (isKnown : known)
    (isPending : 0 < tasks) :
    Stage knownLater
      (TaskStackManager.storeReport record reported).mStatus 0 client
      toClient rest := by
  cases stage with
  | quiet _ _ _ _ noReport =>
      cases noReport
  | busy turn isCommand isStatus oneTask underWay =>
      obtain ⟨answered, noCommand, noMore⟩ := underWay.received
      rcases answered with
        ⟨isDone, agrees⟩ | ⟨isCreate, isError, isUnknown⟩
      · have settled := TurnTo.done_settled isCommand
        rw [← isDone] at settled
        have notError : reported ≠ Status.error := by
          intro isError
          rw [isError] at settled
          exact absurd settled (by decide)
        rw [TaskStackManager.storeReport, if_neg notError]
        exact .quiet settled rfl agrees noCommand noMore
      · have isInit : record.reportError.mStatus = Status.init := by
          rw [ActivityRecord.reportError, isStatus, isCreate]
          rfl
        rw [TaskStackManager.storeReport, if_pos isError, isInit]
        exact .quiet (by decide) rfl isUnknown noCommand noMore
  | gone _ _ _ _ noTask _ =>
      rw [noTask isKnown] at isPending
      exact absurd isPending (Nat.lt_irrefl 0)

end Stage

/-! ## Commands -/

/-- Among some calls is at most one command, which is for one activity. -/
def Sends
    (turn : TurnTo)
    (token : Nat)
    (calls : List Call) : Prop :=
  ∃ sent : Option Call,
    (∀ call ∈ sent, call.turnTo = turn) ∧
      ∀ other,
        calls.filter (·.commandToken = some other) =
          if other = token then sent.toList else []

namespace Sends

variable
  {turn : TurnTo}
  {token : Nat}

/-- Calls that are no commands. -/
theorem nothing
    {calls : List Call}
    (noCommand : ∀ call ∈ calls, call.commandToken = none) :
    Sends turn token calls := by
  refine ⟨none, nofun, fun other => ?_⟩
  rw [Option.toList_none, ite_self, List.filter_eq_nil_iff]
  intro call member
  simp [noCommand call member]

/-- A command between other calls. -/
theorem command
    (before others : List Call)
    {call : Call}
    (isTurn : call.turnTo = turn)
    (isToken : call.commandToken = some token)
    (noCommand :
      ∀ other ∈ before ++ others, other.commandToken = none) :
    Sends turn token (before ++ call :: others) := by
  refine ⟨some call, ?_, fun receiver => ?_⟩
  · intro sent member
    rw [← Option.mem_some.mp member]
    exact isTurn
  · have nothing :
        (before ++ others).filter (·.commandToken = some receiver) =
          [] := by
      rw [List.filter_eq_nil_iff]
      intro other member
      simp [noCommand other member]
    rw [List.filter_append, List.append_eq_nil_iff] at nothing
    rw [List.filter_append, nothing.1, List.filter_cons, nothing.2]
    by_cases isReceiver : receiver = token
    · simp [isReceiver, isToken]
    · simp [isReceiver, isToken, Ne.symm isReceiver]

end Sends

namespace ActivityRecord

/-- `pause`, `stop` and `destroy` send a command, if they send anything. -/
theorem command_sends
    {inRange : Bool}
    {status : Status}
    {schedule : Nat → Nat → Call}
    {window : Nat → Call}
    {activity : ActivityRecord}
    {app : Option AppRecord}
    {turn : TurnTo}
    (isTurn :
      ∀ pid, (schedule pid activity.mToken).turnTo = turn)
    (isToken :
      ∀ pid,
        (schedule pid activity.mToken).commandToken =
          some activity.mToken)
    (noCommand : (window activity.mToken).commandToken = none) :
    Sends turn activity.mToken
      (command inRange status schedule window activity app).calls := by
  unfold command
  split
  · cases notStopped app with
    | none =>
        exact .nothing (by simp [noCommand])
    | some appRecord =>
        exact .command [] [window activity.mToken]
          (isTurn appRecord.mPid) (isToken appRecord.mPid)
          (by simp [noCommand])
  · exact .nothing nofun

/-- A command is for the activity itself, and there is at most one. -/
theorem perform_sends
    {activity : ActivityRecord}
    {app : Option AppRecord}
    {turn : TurnTo}
    {effect : LifecycleEffect}
    (performed : activity.perform turn app = some effect) :
    Sends turn activity.mToken effect.calls := by
  cases turn with
  | none =>
      cases performed
  | create =>
      rw [perform, Option.some.injEq] at performed
      subst effect
      unfold create
      split
      · cases notStopped app with
        | none =>
            exact .nothing (by simp)
        | some appRecord =>
            exact .command [_] [] rfl rfl (by simp [Call.commandToken])
      · exact .nothing (by simp)
  | start =>
      rw [perform, Option.some.injEq] at performed
      subst effect
      unfold start
      split
      · cases notStopped app with
        | none =>
            exact .nothing (by simp)
        | some appRecord =>
            exact .command [] [] rfl rfl (by simp)
      · exact .nothing (by simp)
  | resume =>
      rw [perform, Option.some.injEq] at performed
      subst effect
      unfold resume
      split
      · cases notStopped app with
        | none =>
            exact .nothing (by simp [Call.commandToken])
        | some appRecord =>
            exact .command [] [_] rfl rfl (by simp [Call.commandToken])
      · exact .nothing (by simp)
  | pause =>
      rw [perform, Option.some.injEq] at performed
      subst effect
      exact command_sends (fun _ => rfl) (fun _ => rfl) rfl
  | stop =>
      rw [perform, Option.some.injEq] at performed
      subst effect
      exact command_sends (fun _ => rfl) (fun _ => rfl) rfl
  | destroy =>
      rw [perform, Option.some.injEq] at performed
      subst effect
      exact command_sends (fun _ => rfl) (fun _ => rfl) rfl

end ActivityRecord

namespace TaskStackManager

variable
  {manager next : TaskStackManager}
  {activity : Nat}

/-- A request adds the calls of its command. -/
theorem turn_calls
    {toStatus : Status}
    {record : ActivityRecord}
    {transition : LifecycleTransition}
    (turned : Turned manager next activity toStatus record transition)
    (isNext : manager.turn activity toStatus = some next) :
    next.calls = manager.calls ++ transition.calls := by
  simp only [turn, turned.isRecord, turned.turned, Option.bind_eq_bind,
    Option.bind_some, Option.some.injEq] at isNext
  rw [← isNext]
  cases transition.commits <;>
    cases record.mApp <;>
    cases transition.app <;>
    rfl

/-- Calls that are no commands. -/
theorem commandsFor_append
    {calls : List Call}
    (isNext : next.calls = manager.calls ++ calls)
    (noCommand : ∀ call ∈ calls, call.commandToken = none)
    (token : Nat) :
    next.commandsFor token = manager.commandsFor token := by
  have nothing :
      calls.filter (·.commandToken = some token) = [] := by
    rw [List.filter_eq_nil_iff]
    intro call member
    simp [noCommand call member]
  rw [commandsFor, isNext, List.filter_append, nothing, List.append_nil]
  rfl

/-! ## Tasks -/

/-- An event meets lifecycle tasks whatever status it is for. -/
theorem lifeCycleTasks_eq
    (manager : TaskStackManager)
    (token : Nat)
    (status : Status) :
    manager.lifeCycleTasks token =
      manager.mPendTask.pending
        (PendEvent.activityStatusReport status token) := by
  rw [lifeCycleTasks, TaskBoard.pending]
  apply List.filter_congr
  intro handler _
  unfold TaskTimeoutHandler.pendingFor
  cases handler.mTask <;> rfl

/-- The board stays. -/
theorem lifeCycleTasks_congr
    (sameBoard : next.mPendTask = manager.mPendTask)
    (token : Nat) :
    next.lifeCycleTasks token = manager.lifeCycleTasks token := by
  rw [lifeCycleTasks, sameBoard]
  rfl

/-- A task that is done is pending no longer. -/
theorem lifeCycleTasks_done_le
    {serial : Nat}
    (isDone : next.mPendTask = manager.mPendTask.markDone serial)
    (token : Nat) :
    (next.lifeCycleTasks token).length ≤
      (manager.lifeCycleTasks token).length := by
  rw [lifeCycleTasks, isDone, TaskBoard.pending_markDone]
  exact List.length_filter_le _ _

/-- Nor is one that is removed. -/
theorem lifeCycleTasks_remove_le
    {event : PendEvent}
    (isRemoved : next.mPendTask = manager.mPendTask.removeTask event)
    (token : Nat) :
    (next.lifeCycleTasks token).length ≤
      (manager.lifeCycleTasks token).length := by
  rw [lifeCycleTasks, isRemoved]
  exact (List.filter_sublist.filter _).length_le

/-- Waits are no lifecycle tasks. -/
theorem lifeCycleTasks_commit_wait
    {task : PendTask}
    (isWait : task.isWait = true)
    (isNext :
      next.mPendTask =
        manager.mPendTask.commitTask task requestTimeoutMs)
    (token : Nat) :
    next.lifeCycleTasks token = manager.lifeCycleTasks token := by
  rw [lifeCycleTasks, isNext, TaskBoard.pending_commitTask]
  · rfl
  · cases task with
    | lifeCycle other =>
        cases isWait
    | waitResume _ _ =>
        rfl
    | delayDestroy _ _ =>
        rfl

/-- A lifecycle task of an activity. -/
theorem lifeCycleTasks_commit
    (isNext :
      next.mPendTask =
        manager.mPendTask.commitTask (.lifeCycle activity)
          requestTimeoutMs)
    (token : Nat) :
    (next.lifeCycleTasks token).length =
      (manager.lifeCycleTasks token).length +
        if token = activity then 1 else 0 := by
  rw [lifeCycleTasks, isNext, TaskBoard.pending,
    TaskBoard.commitTask_mTasklist, List.filter_append,
    List.length_append]
  congr 1
  by_cases isThis : token = activity
  · simp [isThis, TaskTimeoutHandler.pendingFor, TaskBoard.newHandler,
      BoardLabels.equalsLabel]
  · have isOther : activity ≠ token := Ne.symm isThis
    simp [isThis, isOther, TaskTimeoutHandler.pendingFor,
      TaskBoard.newHandler, BoardLabels.equalsLabel]

/-- The only task of an activity is done. -/
theorem lifeCycleTasks_done_eq_nil
    {token : Nat}
    {handler : TaskTimeoutHandler PendTask}
    (isPending : handler ∈ manager.lifeCycleTasks token)
    (oneTask : (manager.lifeCycleTasks token).length ≤ 1) :
    (manager.done handler.serial).lifeCycleTasks token = [] := by
  rw [lifeCycleTasks, done, TaskBoard.pending_markDone,
    List.filter_eq_nil_iff]
  intro other member
  have isOnly : other = handler := by
    obtain ⟨only, isAll⟩ : ∃ only, manager.lifeCycleTasks token = [only] :=
      List.length_eq_one_iff.mp
        (Nat.le_antisymm oneTask (List.length_pos_of_mem isPending))
    have isOther : other ∈ manager.lifeCycleTasks token := member
    rw [isAll, List.mem_singleton] at isPending isOther
    rw [isOther, isPending]
  simp [isOnly]

/-- A report meets the task of its activity. -/
theorem mem_lifeCycleTasks_of_firstPending
    {status : Status}
    {token : Nat}
    {handler : TaskTimeoutHandler PendTask}
    (isFirst :
      manager.mPendTask.firstPending
        (PendEvent.activityStatusReport status token) = some handler) :
    handler ∈ manager.lifeCycleTasks token := by
  rw [TaskBoard.firstPending_eq_head?, ← lifeCycleTasks_eq] at isFirst
  exact List.mem_of_head? isFirst

/-- A lifecycle task that times out is pending. -/
theorem mem_lifeCycleTasks_of_isPending
    {serial : Nat}
    (isPending : manager.isPending serial (.lifeCycle activity) = true) :
    ∃ handler ∈ manager.lifeCycleTasks activity,
      handler.serial = serial := by
  obtain ⟨handler, onBoard, isHandler⟩ := List.any_eq_true.mp isPending
  obtain ⟨isSerial, notDone, isTask⟩ := of_decide_eq_true isHandler
  refine ⟨handler, List.mem_filter.mpr ⟨onBoard, ?_⟩, isSerial⟩
  simp [TaskTimeoutHandler.pendingFor, notDone, isTask,
    BoardLabels.equalsLabel]

end TaskStackManager

end ActivityManager
