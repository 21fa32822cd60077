import ActivityManager.StartupTasks

/-!
# Requests for services of a process that starts

Such a request is a task on the board.  When its process attaches, the client
receives what the tasks of that process ask for, in the order in which they
were accepted, each once.
-/

namespace ActivityManager

open StepSystem (Reachable run?)

/-- What a request wants from the process of a service. -/
structure ServiceDemand where
  pid : Nat
  serviceName : String
  intent : Intent
  request : ServiceRequest
  deriving Repr, DecidableEq

/-- The demand of a task, if it is about a service. -/
def AppAttachTask.demand (task : AppAttachTask) : Option ServiceDemand :=
  match task.mCallback with
  | .startService serviceName intent _ request =>
      some
        { pid := task.mPid
          serviceName := serviceName
          intent := intent
          request := request }
  | .startActivity .. =>
      none

/-- The demand that a call passes on to a client. -/
def ServiceCall.demand : ServiceCall → Option ServiceDemand
  | .scheduleStartService pid serviceName _ intent =>
      some
        { pid := pid
          serviceName := serviceName
          intent := intent
          request := .start }
  | .scheduleBindService pid serviceName _ intent conn =>
      some
        { pid := pid
          serviceName := serviceName
          intent := intent
          request := .bind conn }
  | _ =>
      none

namespace ActivityManagerInner

variable {inner next : ActivityManagerInner}

/-- The tasks that wait for a process, in the order of the board. -/
def pendingTasks
    (inner : ActivityManagerInner)
    (pid : Nat) : List (TaskTimeoutHandler AppAttachTask) :=
  inner.mPendTask.mTasklist.filter fun handler =>
    !handler.mIsDone && handler.mTask.mPid == pid

/-! ## What the callbacks send -/

/-- A new service passes its first request on, and that is all. -/
theorem createService_calls
    {policy : ProcessPriorityPolicy}
    {app pid : Nat}
    {serviceName : String}
    {priority : ProcessPriority}
    {intent : Intent}
    {request : ServiceRequest}
    (isHosted :
      (inner.manager.apps app).map AppRecord.mPid = some pid) :
    ∃ call,
      (inner.createService policy
        (.fresh serviceName inner.nextToken priority app) intent
        request).calls = inner.calls ++ [call] ∧
        call.demand =
          some
            { pid := pid
              serviceName := serviceName
              intent := intent
              request := request } := by
  obtain ⟨record, isRecord, isPid⟩ := Option.map_eq_some_iff.mp isHosted
  cases request with
  | start =>
      refine
        ⟨.scheduleStartService pid serviceName inner.nextToken intent, ?_,
          rfl⟩
      simp [createService, addService, requestService, onService,
        ServiceRecord.fresh, ServiceRecord.start, isRecord, isPid]
  | bind conn =>
      refine
        ⟨.scheduleBindService pid serviceName inner.nextToken intent conn,
          ?_, rfl⟩
      simp [createService, addService, requestService, onService,
        ServiceRecord.fresh, ServiceRecord.bind, isRecord, isPid]

/-- A callback passes on what its task demands. -/
theorem CallbackOutcome.calls
    {e : AppAttachEvent}
    {handler : TaskTimeoutHandler AppAttachTask}
    (outcome : inner.CallbackOutcome e handler.mTask.mCallback next)
    (isHosted :
      (inner.manager.apps e.mAppRecord).map AppRecord.mPid =
        some e.mPid)
    (samePid : handler.mTask.mPid = e.mPid) :
    ∃ called,
      next.calls = inner.calls ++ called ∧
        called.map ServiceCall.demand =
          handler.mTask.demand.toList.map some := by
  unfold AppAttachTask.demand
  generalize handler.mTask.mCallback = callback at outcome ⊢
  cases outcome with
  | startActivity _ _ isAttached quiet =>
      refine ⟨[], ?_, rfl⟩
      rw [List.append_nil, quiet.calls, isAttached.calls]
  | startService _ =>
      obtain ⟨call, isCalled, isDemand⟩ := createService_calls isHosted
      refine ⟨[call], isCalled, ?_⟩
      rw [List.map_singleton, isDemand, samePid]
      rfl

/-- The pid of a record stays while callbacks run. -/
theorem SameProcesses.isHosted
    {app pid : Nat}
    (same : SameProcesses inner next)
    (isHosted :
      (inner.manager.apps app).map AppRecord.mPid = some pid) :
    (next.manager.apps app).map AppRecord.mPid = some pid := by
  rw [same.mPid_eq]
  exact isHosted

/-- An event passes on what the pending tasks demand, in their order. -/
theorem eventTrigger_calls
    {e : AppAttachEvent}
    {packageName : String}
    {handlers : List (TaskTimeoutHandler AppAttachTask)}
    (isHosted :
      (inner.manager.apps e.mAppRecord).map AppRecord.mPid =
        some e.mPid)
    (isNext :
      eventTrigger e packageName handlers inner = some next) :
    ∃ called,
      next.calls = inner.calls ++ called ∧
        called.map ServiceCall.demand =
          ((handlers.filter (·.pendingFor e)).filterMap
            (·.mTask.demand)).map some := by
  induction handlers generalizing inner with
  | nil =>
      refine ⟨[], ?_, rfl⟩
      rw [List.append_nil, ← Option.some.inj isNext]
  | cons handler rest inductionHypothesis =>
      rw [eventTrigger] at isNext
      split at isNext
      · rename_i isPending
        obtain ⟨after, isAfter, isNext⟩ :=
          Option.bind_eq_some_iff.mp isNext
        have outcome := runCallback_outcome isAfter
        have samePid := (pendingFor_iff.mp isPending).2
        obtain ⟨first, isFirst, firstDemand⟩ :=
          outcome.calls isHosted samePid
        obtain ⟨others, areOthers, otherDemands⟩ :=
          inductionHypothesis (outcome.sameProcesses.isHosted isHosted)
            isNext
        refine ⟨first ++ others, ?_, ?_⟩
        · rw [areOthers, isFirst, List.append_assoc]
          rfl
        · rw [List.map_append, firstDemand, otherDemands,
            List.filter_cons_of_pos isPending, ← List.map_append]
          refine congrArg _ ?_
          cases isDemand : handler.mTask.demand with
          | none =>
              simp [isDemand]
          | some demand =>
              simp [isDemand]
      · rename_i notPending
        rw [List.filter_cons_of_neg notPending]
        exact inductionHypothesis isHosted isNext

/-- Callbacks for services always run to their end. -/
theorem exists_eventTrigger
    {e : AppAttachEvent}
    (packageName : String)
    {handlers : List (TaskTimeoutHandler AppAttachTask)}
    (areServices :
      ∀ handler ∈ handlers,
        handler.pendingFor e = true →
        handler.mTask.demand.isSome = true)
    (isList : inner.mPriorityPolicy.IsList) :
    ∃ next, eventTrigger e packageName handlers inner = some next := by
  induction handlers generalizing inner with
  | nil =>
      exact ⟨inner, rfl⟩
  | cons handler rest inductionHypothesis =>
      have restServices :=
        fun other member =>
          areServices other (List.mem_cons_of_mem handler member)
      rw [eventTrigger]
      split
      · rename_i isPending
        have isService := areServices handler (by simp) isPending
        unfold AppAttachTask.demand at isService
        split at isService
        · rename_i serviceName intent priority request isCallback
          obtain ⟨parts, represents⟩ := isList
          obtain ⟨policy, isAdded, _⟩ :=
            ManagedProcesses.Reads.add ⟨parts, represents, rfl⟩ e.mPid
              false priority
          have stillList :
              ((inner.serve e packageName handler).createService policy
                (.fresh serviceName inner.nextToken priority e.mAppRecord)
                intent request).mPriorityPolicy.IsList := by
            rw [(createService_serviced _ _ _ _ _).mPriorityPolicy]
            exact
              ProcessPriorityPolicy.add_keepsList isAdded
                ⟨parts, represents⟩
          obtain ⟨next, isNext⟩ :=
            inductionHypothesis restServices stillList
          refine ⟨next, ?_⟩
          rw [isCallback, runCallback]
          refine Option.bind_eq_some_iff.mpr ⟨_, ?_, isNext⟩
          exact Option.bind_eq_some_iff.mpr ⟨policy, isAdded, rfl⟩
        · cases isService
      · exact inductionHypothesis restServices isList

/-! ## Tasks stay on the board -/

/-- No task is taken from the board, done or not. -/
def TasksStay (before after : ActivityManagerInner) : Prop :=
  ∀ handler ∈ before.mPendTask.mTasklist,
    ∃ now ∈ after.mPendTask.mTasklist,
      now.serial = handler.serial ∧ now.mTask = handler.mTask

namespace TasksStay

theorem of_board
    (sameBoard : next.mPendTask = inner.mPendTask) :
    TasksStay inner next := by
  intro handler onBoard
  rw [sameBoard]
  exact ⟨handler, onBoard, rfl, rfl⟩

theorem trans
    {middle : ActivityManagerInner}
    (former : TasksStay inner middle)
    (latter : TasksStay middle next) :
    TasksStay inner next := by
  intro handler onBoard
  obtain ⟨then', onMiddle, sameSerial, sameTask⟩ := former handler onBoard
  obtain ⟨now, onNext, stillSerial, stillTask⟩ := latter then' onMiddle
  exact
    ⟨now, onNext, stillSerial.trans sameSerial, stillTask.trans sameTask⟩

end TasksStay

/-- A new task comes behind the others. -/
theorem enqueue_tasksStay
    (inner : ActivityManagerInner)
    (task : AppAttachTask) :
    TasksStay inner (inner.enqueue task) := by
  intro handler onBoard
  rw [enqueue_mTasklist]
  exact ⟨handler, List.mem_append_left _ onBoard, rfl, rfl⟩

theorem Submitted.tasksStay
    {name : String}
    {callback : AttachCallback}
    {spawned : Option Nat}
    {pid : Nat}
    (submitted : inner.Submitted name callback spawned next pid) :
    TasksStay inner next := by
  cases submitted with
  | behind _ =>
      exact enqueue_tasksStay inner _
  | first _ _ =>
      exact enqueue_tasksStay (inner.spawn name pid) _

/-- An event marks tasks. -/
theorem eventTrigger_tasksStay
    {e : AppAttachEvent}
    {packageName : String}
    {handlers : List (TaskTimeoutHandler AppAttachTask)}
    (isNext :
      eventTrigger e packageName handlers inner = some next) :
    TasksStay inner next := by
  intro handler onBoard
  rw [(eventTrigger_board isNext).1, (markAll_frame _ _).2]
  refine ⟨_, List.mem_map_of_mem onBoard, ?_⟩
  split
  · exact ⟨rfl, rfl⟩
  · exact ⟨rfl, rfl⟩

theorem ExitOutcome.tasksStay
    {pid : Nat}
    (outcome : inner.ExitOutcome pid next) :
    TasksStay inner next := by
  cases outcome with
  | hosted _ _ quiet _ terminated isDeleted _ =>
      apply TasksStay.of_board
      rw [deleteAppInfo_cases isDeleted]
      exact terminated.mPendTask.trans quiet.mPendTask
  | waiting _ _ =>
      exact .of_board rfl
  | unknown _ _ =>
      exact .of_board rfl

/-- No step takes a task from the board. -/
theorem step?_tasksStay
    {action : InnerAction}
    (isNext : inner.step? action = some next) :
    TasksStay inner next := by
  cases step?_outcome isNext with
  | activity outcome =>
      cases outcome with
      | rejected quiet =>
          exact .of_board quiet.mPendTask
      | turned quiet =>
          exact .of_board quiet.mPendTask
      | hosted _ isCreated quiet =>
          exact .of_board (quiet.mPendTask.trans isCreated.mPendTask)
      | queued _ _ isCreated submitted quiet =>
          exact
            ((TasksStay.of_board isCreated.mPendTask).trans
              submitted.tasksStay).trans (.of_board quiet.mPendTask)
  | service _ outcome =>
      cases outcome with
      | rejected =>
          exact .of_board rfl
      | found isFound =>
          exact .of_board
            (requestService_serviced (mem_of_findService isFound).1 _
              _).mPendTask
      | created _ _ _ _ =>
          exact .of_board (createService_serviced _ _ _ _ _).mPendTask
      | queued _ _ _ submitted =>
          exact submitted.tasksStay
  | serviced serviced =>
      exact .of_board serviced.mPendTask
  | reported outcome =>
      exact .of_board outcome.sameBoard.1
  | attached outcome =>
      cases outcome with
      | known _ =>
          exact .of_board rfl
      | attached _ _ isServed =>
          have served := eventTrigger_tasksStay isServed
          exact served
      | illegal _ =>
          exact .of_board rfl
  | exited outcome =>
      exact outcome.tasksStay
  | quiet _ quiet =>
      exact .of_board quiet.mPendTask

/-! ## Requests that are accepted -/

/-- A task waits for its process, or was run for it, once. -/
def Followed
    (later : ActivityManagerInner)
    (handler : TaskTimeoutHandler AppAttachTask) : Prop :=
  ((∃ now ∈ later.mPendTask.mTasklist,
      now.serial = handler.serial ∧ now.mTask = handler.mTask ∧
        now.mIsDone = false) ∧
    (handler.mTask.processName, handler.mTask.mPid) ∈
      later.mAppWaitingAttach ∧
    later.served.countP (·.serial == handler.serial) = 0) ∨
  (∃ served ∈ later.served,
      served.serial = handler.serial ∧ served.task = handler.mTask ∧
        later.RunRight served) ∧
    later.served.countP (·.serial == handler.serial) = 1

/-- The task of the last request that was accepted. -/
structure Accepted
    (before after : ActivityManagerInner)
    (processName : String)
    (demand : ServiceDemand)
    (handler : TaskTimeoutHandler AppAttachTask) : Prop where
  board :
    after.mPendTask.mTasklist = before.mPendTask.mTasklist ++ [handler]
  pending : handler.mIsDone = false
  isDemand : handler.mTask.demand = some demand
  isNamed : handler.mTask.processName = processName
  waits : (processName, demand.pid) ∈ after.mAppWaitingAttach

/-- What an attach sends: the demands of the tasks that waited for it. -/
structure SendsDemands
    (before after : ActivityManagerInner)
    (pid : Nat) : Prop where
  calls :
    ∃ called,
      after.calls = before.calls ++ called ∧
        called.map ServiceCall.demand =
          ((before.pendingTasks pid).filterMap
            (·.mTask.demand)).map some
  served :
    after.served.map Served.serial =
      before.served.map Served.serial ++
        (before.pendingTasks pid).map TaskTimeoutHandler.serial
  pending : after.pendingTasks pid = []

/-- No request for a service of a process that starts is lost or repeated. -/
structure RequestsKept (inner : ActivityManagerInner) : Prop where
  accepted :
    ∀ serviceName packageInfo intent request spawned next pid,
      inner.startServiceReal serviceName packageInfo intent request
          spawned =
        some (next, .attaching pid) →
      ∃ handler,
        Accepted inner next packageInfo.servicePackageName
          { pid := pid
            serviceName := serviceName
            intent := intent
            request := request }
          handler
  followed :
    ∀ later,
      Reachable step? PermittedAttached inner later →
      ∀ handler ∈ inner.mPendTask.mTasklist,
        handler.mIsDone = false →
        later.Followed handler
  sent :
    ∀ callerPid isSystemUI next,
      inner.attachApplication callerPid isSystemUI = some next →
      SendsDemands inner next callerPid
  attaches :
    ∀ callerPid isSystemUI,
      (∀ handler ∈ inner.pendingTasks callerPid,
        handler.mTask.demand.isSome = true) →
      ∃ next, inner.attachApplication callerPid isSystemUI = some next

/-- A request that is queued is the last task of the board. -/
theorem Submitted.accepted
    {name serviceName : String}
    {intent : Intent}
    {priority : ProcessPriority}
    {request : ServiceRequest}
    {spawned : Option Nat}
    {pid : Nat}
    (submitted :
      inner.Submitted name
        (.startService serviceName intent priority request) spawned next
        pid) :
    ∃ handler,
      Accepted inner next name
        { pid := pid
          serviceName := serviceName
          intent := intent
          request := request }
        handler := by
  cases submitted with
  | behind isWaiting =>
      refine ⟨_, enqueue_mTasklist inner _, rfl, rfl, rfl, ?_⟩
      rw [enqueue_mAppWaitingAttach]
      exact mem_of_getAttachingAppPid isWaiting
  | first _ _ =>
      refine ⟨_, enqueue_mTasklist (inner.spawn name pid) _, rfl, rfl, rfl,
        ?_⟩
      rw [enqueue_mAppWaitingAttach]
      exact List.mem_append_right _ (List.mem_singleton_self _)

/-- A task that has stayed waits, or was run. -/
theorem TasksMatch.followed
    {handler : TaskTimeoutHandler AppAttachTask}
    (matched : TasksMatch next)
    (stays : TasksStay inner next)
    (onBoard : handler ∈ inner.mPendTask.mTasklist) :
    next.Followed handler := by
  obtain ⟨now, onNext, sameSerial, sameTask⟩ := stays handler onBoard
  have counted := matched.once now onNext
  rw [sameSerial] at counted
  cases isDone : now.mIsDone with
  | false =>
      rw [isDone] at counted
      refine Or.inl ⟨⟨now, onNext, sameSerial, sameTask, isDone⟩, ?_,
        counted⟩
      rw [← sameTask]
      exact matched.waits now onNext isDone
  | true =>
      rw [isDone] at counted
      have wasRun :
          0 < next.served.countP (·.serial == handler.serial) := by
        rw [counted]
        exact Nat.one_pos
      obtain ⟨served, member, isSerial⟩ := List.countP_pos_iff.mp wasRun
      obtain ⟨other, otherOnNext, otherSerial, otherTask⟩ :=
        matched.onBoard served member
      have servedSerial := beq_iff_eq.mp isSerial
      have same : other = now :=
        matched.numbered.eq_of_serial otherOnNext onNext
          (otherSerial.trans (servedSerial.trans sameSerial.symm))
      refine Or.inr ⟨⟨served, member, servedSerial, ?_,
        matched.served served member⟩, counted⟩
      rw [← otherTask, same, sameTask]

/-- No task waits for a process that does not wait to attach. -/
theorem TasksMatch.pendingTasks_eq_nil
    {pid : Nat}
    (matched : TasksMatch inner)
    (notWaiting : ∀ entry ∈ inner.mAppWaitingAttach, entry.2 ≠ pid) :
    inner.pendingTasks pid = [] := by
  refine List.filter_eq_nil_iff.mpr ?_
  intro handler onBoard isPending
  rw [Bool.and_eq_true, Bool.not_eq_true', beq_iff_eq] at isPending
  exact
    notWaiting _ (matched.waits handler onBoard isPending.1) isPending.2

/-- A process of the list does not wait. -/
theorem DistinctProcesses.not_waiting_of_found
    {pid app : Nat}
    (distinct : DistinctProcesses inner)
    (isFound : inner.findAppInfo pid = some app) :
    ∀ entry ∈ inner.mAppWaitingAttach, entry.2 ≠ pid := by
  intro entry waits samePid
  unfold findAppInfo at isFound
  have isMatched := List.find?_some isFound
  obtain ⟨record, isRecord, isPid⟩ :=
    (Option.any_eq_true _ _).mp isMatched
  have attached :
      pid ∈
        inner.mAppList.filterMap fun app =>
          (inner.manager.apps app).map AppRecord.mPid := by
    refine List.mem_filterMap.mpr
      ⟨app, List.mem_of_find?_eq_some isFound, ?_⟩
    rw [isRecord, Option.map_some, of_decide_eq_true isPid]
  have isOther := (List.nodup_append.mp distinct.pids).2.2 pid attached
  exact isOther pid (samePid ▸ List.mem_map_of_mem waits) rfl

/-- Nor does one that no entry is found for. -/
theorem not_waiting_of_none
    {pid : Nat}
    (notFound : inner.getAttachingAppName pid = none) :
    ∀ entry ∈ inner.mAppWaitingAttach, entry.2 ≠ pid := by
  intro entry waits samePid
  have noEntry := Option.map_eq_none_iff.mp notFound
  have notPid := List.find?_eq_none.mp noEntry entry waits
  exact notPid (beq_iff_eq.mpr samePid)

/-- With nothing pending an attach sends nothing. -/
theorem SendsDemands.nothing
    {pid : Nat}
    (noneWaits : inner.pendingTasks pid = []) :
    SendsDemands inner inner pid where
  calls := by
    refine ⟨[], (List.append_nil _).symm, ?_⟩
    rw [noneWaits]
    rfl
  served := by
    rw [noneWaits]
    exact (List.append_nil _).symm
  pending := noneWaits

/-- An attach sends the demands that waited for it. -/
theorem AttachOutcome.sendsDemands
    {callerPid : Nat}
    {isSystemUI : Bool}
    (outcome : inner.AttachOutcome callerPid isSystemUI next)
    (distinct : DistinctProcesses inner)
    (matched : TasksMatch inner) :
    SendsDemands inner next callerPid := by
  cases outcome with
  | known isKnown =>
      exact .nothing
        (matched.pendingTasks_eq_nil
          (distinct.not_waiting_of_found isKnown))
  | @attached packageName _ _ _ isServed =>
      have isHosted :
          (((inner.deleteAppWaitingAttach callerPid).addAppInfo
              packageName isSystemUI callerPid).manager.apps
                inner.manager.nextApp).map AppRecord.mPid =
            some callerPid := by
        simp [addAppInfo, deleteAppWaitingAttach,
          TaskStackManager.attachApplication, TaskStackManager.setApp,
          AppRecord.attached]
      obtain ⟨sameBoard, sameServed⟩ := eventTrigger_board isServed
      refine ⟨eventTrigger_calls isHosted isServed, ?_, ?_⟩
      · rw [sameServed, List.map_append, List.map_map]
        rfl
      · have boardList := markAll_pending matched.numbered
          { mPid := callerPid, mAppRecord := inner.manager.nextApp }
        refine List.filter_eq_nil_iff.mpr ?_
        rw [sameBoard]
        intro settled member isPending
        rw [Bool.and_eq_true, Bool.not_eq_true', beq_iff_eq] at isPending
        have member := boardList ▸ member
        obtain ⟨handler, _, rfl⟩ := List.mem_map.mp member
        have isOther := (not_pendingFor_of_settle isPending.1).2
        rw [(settle_key _ handler).2] at isPending
        exact isOther isPending.2
  | illegal notWaiting =>
      exact .nothing
        (matched.pendingTasks_eq_nil (not_waiting_of_none notWaiting))

/-- An attach that only services wait for comes to its end. -/
theorem exists_attachApplication
    {callerPid : Nat}
    (isSystemUI : Bool)
    (isList : inner.mPriorityPolicy.IsList)
    (areServices :
      ∀ handler ∈ inner.pendingTasks callerPid,
        handler.mTask.demand.isSome = true) :
    ∃ next, inner.attachApplication callerPid isSystemUI = some next := by
  unfold attachApplication
  split
  · exact ⟨inner, rfl⟩
  · split
    · refine exists_eventTrigger _ ?_ isList
      intro handler onBoard isPending
      exact areServices handler (List.mem_filter.mpr ⟨onBoard, isPending⟩)
    · exact ⟨inner, rfl⟩

/--
Whatever happens besides, as long as no process exits before it attaches:
requests for services of processes that start are neither lost nor repeated.
-/
theorem requestsKept_of_reachable
    (lines : List LmkRow)
    (arena : Int)
    (now : Nat)
    (inner : ActivityManagerInner)
    (reachable :
      Reachable step? PermittedAttached (start lines arena now) inner) :
    RequestsKept inner := by
  obtain ⟨distinct, matched⟩ := tasksMatch_of_reachable reachable
  constructor
  · intro serviceName packageInfo intent request spawned next pid isResult
    cases startServiceReal_outcome isResult with
    | queued _ _ _ submitted =>
        exact submitted.accepted
  · intro later isLater handler onBoard _
    have laterMatched := (tasksMatch_of_reachable
      (reachable.trans isLater)).2
    have stays : TasksStay inner later := by
      refine isLater.invariant (.of_board rfl) ?_
      intro middle action after kept _ isNext
      exact kept.trans (step?_tasksStay isNext)
    exact laterMatched.followed stays onBoard
  · intro callerPid isSystemUI next isNext
    exact
      (attachApplication_outcome isNext).sendsDemands distinct matched
  · intro callerPid isSystemUI areServices
    have isList : inner.mPriorityPolicy.IsList := by
      refine reachable.invariant ⟨_, ProcessPriorityPolicy.Represents.empty _⟩ ?_
      intro middle action after isList _ isNext
      exact step?_keepsList isNext isList
    exact exists_attachApplication isSystemUI isList areServices

/-- Two processes start at a time; one service is asked for again. -/
def startingRun : Option ActivityManagerInner :=
  run? step? (start [] 0 0)
    [.startService "player" musicPackage plainIntent (some 11),
      .startService "feed" { musicPackage with
        packageName := "news"
        servicesInfo := [{ name := "feed", priority := .middle }] }
        plainIntent (some 12),
      .bindService "player" musicPackage plainIntent 7 none,
      .attachApplication 12 false]

/-- Nothing is lost there. -/
theorem startingRun_requestsKept :
    RequestsKept (startingRun.get rfl) := by
  have accepted : startingRun = some (startingRun.get rfl) :=
    (Option.some_get _).symm
  exact requestsKept_of_reachable [] 0 0 _
    (Reachable.of_run? (by decide) accepted)

end ActivityManagerInner

end ActivityManager
