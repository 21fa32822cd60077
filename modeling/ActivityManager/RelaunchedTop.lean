import ActivityManager.ClientProtocol

/-!
# Relaunching the top of the foreground

`turnToActivity` pretends that the top is paused and resumes it at once.  If
it has been started and nothing is under way, this is one more command to a
client that can follow it.  Then no client is ever asked for two things at a
time, whatever else happens; otherwise it may be.
-/

namespace ActivityManager

open StepSystem (Reachable run?)

namespace ClientRun

namespace Protocol

variable
  {excused : List Nat}
  {run : ClientRun}
  {next : TaskStackManager}
  {token activity : Nat}

/-! ## Reports -/

/-- A report is taken from its channel, and forgotten. -/
theorem ignored
    {reported : Status}
    {rest : List Status}
    (protocol : Protocol excused run)
    (isHead : run.toServer token = reported :: rest) :
    Protocol excused
      { run with toServer := Function.update run.toServer token rest } := by
  have stage := protocol.stages token
  rw [isHead] at stage
  refine protocol.exchange token rfl ?_ (protocol.inOrder token) ?_
  · intro other isOther
    exact ⟨rfl, rfl, Function.update_of_ne isOther ..⟩
  · dsimp only
    rw [Function.update_self]
    exact stage.drop

/-- A report is taken from its channel, and stored. -/
theorem stored
    {reported : Status}
    {rest : List Status}
    {handler : TaskTimeoutHandler PendTask}
    {record : ActivityRecord}
    (protocol : Protocol [] run)
    (isHead : run.toServer token = reported :: rest)
    (known : token ∈ run.manager.mActivityMap)
    (isFirst :
      run.manager.mPendTask.firstPending
        (PendEvent.activityStatusReport reported token) = some handler)
    (isRecord : run.manager.activities token = some record) :
    Protocol []
      { run with
        manager :=
          (run.manager.done handler.serial).setRecord token
            (TaskStackManager.storeReport record reported)
        toServer := Function.update run.toServer token rest } := by
  have isPending :=
    TaskStackManager.mem_lifeCycleTasks_of_firstPending isFirst
  have stage := protocol.stageOf isRecord
  rw [isHead] at stage
  have isStored :
      (TaskStackManager.storeReport record reported).mToken =
          record.mToken ∧
        (TaskStackManager.storeReport record reported).mTargetStatus =
          record.mTargetStatus := by
    unfold TaskStackManager.storeReport
    split
    · exact ⟨rfl, rfl⟩
    · exact ⟨rfl, rfl⟩
  obtain ⟨isToken, target⟩ := protocol.records token record isRecord
  have noTask :
      (((run.manager.done handler.serial).setRecord token
        (TaskStackManager.storeReport record reported)).lifeCycleTasks
          token).length = 0 := by
    have isDone :=
      TaskStackManager.lifeCycleTasks_done_eq_nil isPending
        stage.tasks_le_one
    exact congrArg List.length isDone
  refine
    (protocol.ignored isHead).change rfl (protocol.used isRecord)
      (isStored.1.trans isToken) (isStored.2 ▸ target)
      (.of_calls (TaskStackManager.lifeCycleTasks_done_le rfl)
        (List.append_nil _).symm nofun (List.Sublist.refl _) rfl)
      (protocol.inOrder token) ?_
  dsimp only [withManager]
  rw [Function.update_self, noTask]
  exact
    stage.report ⟨known, List.not_mem_nil⟩
      (List.length_pos_of_mem isPending)

/-- The event of a report is over. -/
theorem statusReport
    {reported : Status}
    {rest : List Status}
    (protocol : Protocol [] run)
    (isHead : run.toServer token = reported :: rest)
    (known : token ∈ run.manager.mActivityMap)
    (isNext :
      run.manager.eventTrigger (.activityStatusReport reported token) =
        some next) :
    Protocol []
      { run with
        manager := next
        toServer := Function.update run.toServer token rest } := by
  cases isFirst :
      run.manager.mPendTask.firstPending
        (PendEvent.activityStatusReport reported token) with
  | none =>
      rw [TaskStackManager.eventTrigger, isFirst] at isNext
      rw [← Option.some.inj isNext]
      exact protocol.ignored isHead
  | some handler =>
      cases isRecord : run.manager.activities token with
      | none =>
          rw [TaskStackManager.eventTrigger, isFirst] at isNext
          dsimp only at isNext
          rw [TaskStackManager.isLifeCycle_of_firstPending isFirst,
            TaskStackManager.execute] at isNext
          obtain ⟨record, isFound, _⟩ :=
            Option.bind_eq_some_iff.mp isNext
          exact absurd (isRecord.symm.trans isFound) nofun
      | some record =>
          have stored := protocol.stored isHead known isFirst isRecord
          have follows :=
            TaskStackManager.Moved.storeReport isFirst isRecord
              (waiting [] _)
          exact stored.deleted (follows.of_result isNext)

/-- What is left to do once an activity is resumed. -/
theorem reportResumed
    (protocol : Protocol [] run)
    (isNext : run.manager.reportResumed token = some next) :
    Protocol [] (run.withManager next) := by
  have resumed := (waiting [] run.manager).reportResumed token
  exact protocol.moved (resumed.of_result isNext)

/-- What is left to do once an activity is destroyed. -/
theorem reportDestroyed
    (protocol : Protocol [] run)
    (known : token ∈ run.manager.mActivityMap)
    (isNext : run.manager.reportDestroyed token = some next) :
    Protocol [] (run.withManager next) := by
  have excusing : Protocol [token] run :=
    protocol.mono fun _ _ _ => List.not_mem_nil
  have destroyed :=
    (waiting [token] run.manager).deleted.reportDestroyed known
      (fun _ => List.mem_singleton_self token) (fun _ => trivial)
  refine (excusing.deleted (destroyed.of_result isNext)).mono ?_
  intro other isKnown _ isToken
  have isErased :
      next.mActivityMap = run.manager.mActivityMap.erase token :=
    TaskStackManager.reportDestroyed_mActivityMap isNext
  rw [List.mem_singleton.mp isToken] at isKnown
  have stillKnown : token ∈ run.manager.mActivityMap.erase token := by
    rw [← isErased]
    exact isKnown
  exact
    (protocol.numbered.distinct.mem_erase_iff.mp stillKnown).1 rfl

/-- The service handles a report. -/
theorem serverHandles
    {after : ClientRun}
    (protocol : Protocol [] run)
    (isNext : run.step? (.serverHandles token) = some after) :
    Protocol [] after := by
  rw [step?] at isNext
  split at isNext
  · rename_i status rest isHead
    obtain ⟨manager, isManager, isAfter⟩ :=
      Option.bind_eq_some_iff.mp isNext
    rw [← Option.some.inj isAfter]
    unfold TaskStackManager.reportActivityStatus at isManager
    split at isManager
    · rename_i known
      obtain ⟨reported, isReported, isManager⟩ :=
        Option.bind_eq_some_iff.mp isManager
      have handled := protocol.statusReport isHead known isReported
      have stillKnown : token ∈ reported.mActivityMap := by
        rw [TaskStackManager.eventTrigger_mActivityMap known isReported]
        exact known
      split at isManager
      · exact handled.reportResumed isManager
      · split at isManager
        · exact handled.reportDestroyed stillKnown isManager
        · rw [← Option.some.inj isManager]
          exact handled
    · rw [← Option.some.inj isManager]
      exact protocol.ignored isHead
  · cases isNext

/-! ## The end of a process -/

/-- The activities of a process end. -/
theorem abnormalExitAll
    {activities : List Nat}
    (protocol : Protocol excused run)
    (areExcused : ∀ activity ∈ activities, activity ∈ excused)
    (isNext :
      TaskStackManager.abnormalExitAll activities run.manager =
        some next) :
    Protocol excused (run.withManager next) := by
  induction activities generalizing run with
  | nil =>
      rw [← Option.some.inj isNext]
      exact protocol
  | cons activity rest inductionHypothesis =>
      obtain ⟨middle, isMiddle, isNext⟩ :=
        Option.bind_eq_some_iff.mp isNext
      have waits : Waits excused run.manager (.abnormalExit activity) :=
        areExcused activity List.mem_cons_self
      have exited : Protocol excused (run.withManager middle) :=
        protocol.step waits isMiddle
      have restExcused : ∀ other ∈ rest, other ∈ excused := by
        intro other member
        exact areExcused other (List.mem_cons_of_mem _ member)
      have ended := inductionHypothesis exited restExcused isNext
      exact ended

/-- They are deleted and forgotten. -/
theorem deleteAll
    {activities : List Nat}
    (protocol : Protocol excused run)
    (isNext :
      TaskStackManager.deleteAll activities run.manager = some next) :
    Protocol excused (run.withManager next) := by
  have forgets :
      ∀ middle activity,
        (waitingParts excused).isPart middle (.forget activity) :=
    fun _ _ => trivial
  exact
    protocol.deleted
      (((waiting excused run.manager).deleted.deleteAll forgets).of_result
        isNext)

/-- A process has died. -/
theorem procAppTerminated
    {app : Nat}
    (protocol : Protocol [] run)
    (isNext : run.manager.procAppTerminated app = some next) :
    Protocol [] (run.withManager next) := by
  obtain ⟨record, isRecord, ends⟩ := Option.bind_eq_some_iff.mp isNext
  obtain ⟨exited, isExited, isDeleted⟩ :=
    Option.bind_eq_some_iff.mp ends
  have excusing : Protocol record.mExistActivity run :=
    protocol.mono fun _ _ _ => List.not_mem_nil
  have marked :
      Protocol record.mExistActivity
        (run.withManager (run.manager.markStopped app record)) :=
    excusing.frame rfl (.of_same rfl rfl rfl rfl)
  have ended := marked.abnormalExitAll (fun _ member => member) isExited
  have forgotten := ended.deleteAll isDeleted
  refine forgotten.mono ?_
  intro token isKnown _ isListed
  have isErased :=
    TaskStackManager.procAppTerminated_mActivityMap isRecord isNext
  have isKnown : token ∈ next.mActivityMap := isKnown
  rw [isErased,
    TaskStackManager.mem_foldl_erase protocol.numbered.distinct] at isKnown
  exact isKnown.2 isListed

/-! ## Steps -/

/-- The top of the foreground is relaunched, between two commands. -/
theorem relaunch
    {targetStack startFlag : Nat}
    {intent : Intent}
    (protocol : Protocol excused run)
    (isTop :
      run.manager.lists.getActiveTask.bind
        run.manager.lists.getTopActivity = some activity)
    (started :
      (run.manager.activities activity).all fun record =>
        record.mStatus ∈
          [Status.started, Status.resumed, Status.paused])
    (isNext :
      run.manager.turnToActivity targetStack activity intent startFlag =
        some next) :
    Protocol excused (run.withManager next) := by
  unfold TaskStackManager.turnToActivity at isNext
  dsimp only at isNext
  rw [if_pos isTop] at isNext
  obtain ⟨informed, isInformed, later⟩ :=
    Option.bind_eq_some_iff.mp isNext
  obtain ⟨paused, isRestarted, isTurned⟩ :=
    Option.bind_eq_some_iff.mp later
  rw [TaskStackManager.Tracks.lifecycleTransition_resumed] at isTurned
  obtain ⟨record, isRecord, isSet⟩ :=
    TaskStackManager.setIntent_cases isInformed
  obtain ⟨found, isFound, isPretended⟩ :=
    TaskStackManager.setStatus_cases isRestarted
  have isIntent : found = record.setIntent intent := by
    have isStored :
        informed.activities activity = some (record.setIntent intent) := by
      rw [isSet]
      exact Function.update_self ..
    exact Option.some.inj (isFound.symm.trans isStored)
  have isMiddle :
      paused =
        run.manager.setRecord activity
          ((record.setIntent intent).setStatus Status.paused) := by
    rw [isPretended, isIntent, isSet]
    dsimp only [TaskStackManager.setRecord]
    rw [Function.update_idem]
  obtain ⟨pretended, transition, turned⟩ :=
    TaskStackManager.turn_cases isTurned
  have isPretended :
      pretended = (record.setIntent intent).setStatus Status.paused := by
    have isStored :
        paused.activities activity =
          some ((record.setIntent intent).setStatus Status.paused) := by
      rw [isMiddle]
      exact Function.update_self ..
    exact Option.some.inj (turned.isRecord.symm.trans isStored)
  have isPaused : pretended.mStatus = Status.paused := by
    rw [isPretended]
    rfl
  rw [isRecord, Option.all_some, decide_eq_true_eq] at started
  have between :
      record.mStatus ∈ settledStatuses ∧
        record.mStatus ≠ Status.destroyed ∧
        (record.mStatus ∈ TurnTo.resume.legalFrom ∨
          record.mStatus = Status.resumed) := by
    have check :
        ∀ status ∈ [Status.started, Status.resumed, Status.paused],
          status ∈ settledStatuses ∧
            status ≠ Status.destroyed ∧
            (status ∈ TurnTo.resume.legalFrom ∨
              status = Status.resumed) := by
      decide
    exact check _ started
  obtain ⟨settled, notDestroyed, follows⟩ := between
  have resumes : turnTo? Status.paused Status.resumed = some .resume := by
    decide
  rcases ActivityRecord.lifecycleTransition?_cases turned.turned with
    ⟨transitional, _⟩ | ⟨_, entry, _⟩ |
      ⟨turnTo, effect, _, entry, performed, isTransition⟩
  · rw [ActivityRecord.isTransitional, isPaused] at transitional
    exact absurd transitional (by decide)
  · rw [isPaused, resumes] at entry
    cases entry
  · rw [isPaused, resumes, Option.some.injEq] at entry
    subst entry
    refine
      protocol.startCommand isRecord settled notDestroyed
        (isPretended ▸ isMiddle) ?_ isTurned turned performed isTransition
        ?_ ?_ ?_
    · rw [isPretended]
      rfl
    · decide
    · rw [isPaused]
      decide
    · intro agrees
      refine ⟨record.mStatus, agrees, ?_⟩
      exact follows.imp_right fun isResumed => ⟨rfl, isResumed⟩

/-- A step of the task manager that is no report. -/
theorem manager
    {action : ManagerAction}
    (protocol : Protocol [] run)
    (notReport : action.isReport = false)
    (started : run.relaunchesStarted (.manager action) = true)
    (isNext : run.manager.step? action = some next) :
    Protocol [] (run.withManager next) := by
  by_cases isRelaunch :
      ∃ targetStack activity intent startFlag,
        action =
            .turnToActivity targetStack activity intent startFlag ∧
          run.manager.lists.getActiveTask.bind
              run.manager.lists.getTopActivity =
            some activity
  · obtain ⟨targetStack, activity, intent, startFlag, isAction, isTop⟩ :=
      isRelaunch
    subst isAction
    refine protocol.relaunch isTop ?_ isNext
    simpa [relaunchesStarted, isTop] using started
  · by_cases isEnd : ∃ app, action = .procAppTerminated app
    · obtain ⟨app, isAction⟩ := isEnd
      subst isAction
      exact protocol.procAppTerminated isNext
    · have contains :
          ∀ {middle primitive},
            run.manager.IsPart action middle primitive →
            primitive.delays = false →
            primitive.restarts = false →
            (waitingParts []).isPart middle primitive :=
        fun isPart notDelay notRestart =>
          waits_of_isPart notReport (fun app isAction =>
            isEnd ⟨app, isAction⟩) isPart notDelay notRestart
      have moves :=
        TaskStackManager.step?_moves (waitingParts []) run.manager action
          contains
          (fun targetStack activity intent startFlag isAction isTop =>
            absurd
              ⟨targetStack, activity, intent, startFlag, isAction, isTop⟩
              isRelaunch)
          (fun _ _ _ _ _ _ _ => trivial)
      obtain ⟨_, _, moved⟩ := moves.of_result isNext
      exact protocol.moved moved

/-- A step of a run. -/
theorem runStep
    {action : ClientRunAction}
    {after : ClientRun}
    (protocol : Protocol [] run)
    (started : run.relaunchesStarted action = true)
    (isNext : run.step? action = some after) :
    Protocol [] after := by
  cases action with
  | manager action =>
      rw [step?] at isNext
      split at isNext
      · cases isNext
      · rename_i notReport
        obtain ⟨manager, isManager, isAfter⟩ :=
          Option.bind_eq_some_iff.mp isNext
        rw [← Option.some.inj isAfter]
        exact
          protocol.manager (Bool.not_eq_true _ ▸ notReport) started
            isManager
  | clientHandles token registered created =>
      exact protocol.clientHandles isNext
  | serverHandles token =>
      exact protocol.serverHandles isNext

/-- Nothing is under way in the beginning. -/
theorem start (now : Nat) : Protocol [] (ClientRun.start now) where
  numbered :=
    { distinct := List.nodup_nil
      used := fun _ member => absurd member List.not_mem_nil }
  unused _ _ := rfl
  records _ _ isRecord := absurd isRecord nofun
  inOrder _ := Nat.zero_le _
  stages _ := .quiet List.mem_cons_self rfl rfl rfl rfl

/-- What it is for. -/
theorem keepsProtocol
    (protocol : Protocol excused run) :
    KeepsProtocol run where
  oneTask token := (protocol.stages token).tasks_le_one
  oneMessage token := (protocol.stages token).length_le_one
  startedFirst token call rest isHead isResume := by
    have stage := protocol.stages token
    rw [isHead] at stage
    have follows := stage.follows
    rw [isResume] at follows
    exact ActivityClient.isStarted_of_resume follows

end Protocol

/--
In every run in which the top of the foreground is relaunched only between
commands, and once it has been started, the protocol is kept.
-/
theorem keepsProtocol_of_reachable
    (now : Nat)
    (run : ClientRun)
    (reachable :
      Reachable step?
        (fun run action => run.relaunchesStarted action = true)
        (start now) run) :
    KeepsProtocol run := by
  have protocol : Protocol [] run := by
    refine reachable.invariant (.start now) ?_
    intro middle action after before started isNext
    exact before.runStep started isNext
  exact protocol.keepsProtocol

/-- The intent that starts the activity. -/
def playerIntent : Intent where
  mTarget := "music/Player"
  mAction := ""
  mData := ""
  mFlag := 0

/-- An activity is pushed; its client is told to create it. -/
def launchPlayer : List ClientRunAction :=
  [.manager (.attachApplication "music" false 10),
    .manager (.pushNewActivity "music/Player" 0 0 playerIntent 0)]

/-- One command is handled, and its answer. -/
def turnOfClient : List ClientRunAction :=
  [.clientHandles 0 true true, .serverHandles 0]

/-- It is relaunched when it is resumed. -/
def relaunchedRun : Option ClientRun :=
  run? step? (start 0)
    (launchPlayer ++ turnOfClient ++ turnOfClient ++ turnOfClient ++
      [.manager (.turnToActivity 0 0 playerIntent 0)] ++ turnOfClient)

/-- Nothing goes wrong then. -/
theorem relaunchedRun_keepsProtocol :
    KeepsProtocol (relaunchedRun.get rfl) := by
  have accepted : relaunchedRun = some (relaunchedRun.get rfl) :=
    (Option.some_get _).symm
  exact keepsProtocol_of_reachable 0 _
    (Reachable.of_run? (by decide) accepted)

/-- It is relaunched while it is being created. -/
def relaunchedTooEarlyRun : Option ClientRun :=
  run? step? (start 0)
    (launchPlayer ++ [.manager (.turnToActivity 0 0 playerIntent 0)])

/-- Two commands are on their way then, and two tasks wait. -/
theorem relaunchedTooEarlyRun_not_keepsProtocol :
    ¬ ∀ run,
      Reachable step? (fun _ _ => True) (start 0) run →
      KeepsProtocol run := by
  intro keeps
  have accepted :
      relaunchedTooEarlyRun = some (relaunchedTooEarlyRun.get rfl) :=
    (Option.some_get _).symm
  have reachable :
      Reachable step? (fun _ _ => True) (start 0)
        (relaunchedTooEarlyRun.get rfl) :=
    Reachable.of_run?
      (StepSystem.allowedRun_of_forall (fun _ _ => trivial) _ _) accepted
  have isTwo :
      ((relaunchedTooEarlyRun.get rfl).manager.lifeCycleTasks 0).length =
        2 := by
    decide
  have atMostOne := (keeps _ reachable).oneTask 0
  rw [isTwo] at atMostOne
  exact absurd atMostOne (by decide)

end ClientRun

end ActivityManager
