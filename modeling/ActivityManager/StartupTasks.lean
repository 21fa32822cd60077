import ActivityManager.ActivityProgress
import ActivityManager.UniqueProcess

/-!
# Tasks that wait for a process

Requests that need a process wait on the board until it attaches.  As long as
no process exits before that, every task on the board that is not done has its
process among those that wait, under the name it was submitted for; it is run
when that process attaches, with its record, and then it is done.
-/

namespace ActivityManager

open StepSystem (Reachable)

namespace ActivityManagerInner

variable {inner next : ActivityManagerInner}

/-! ## The event of a process that attaches -/

/-- Callbacks do not look at the board. -/
theorem CallbackOutcome.sameBoard
    {e : AppAttachEvent}
    {callback : AttachCallback}
    (outcome : inner.CallbackOutcome e callback next) :
    next.mPendTask = inner.mPendTask ∧ next.served = inner.served := by
  cases outcome with
  | startActivity _ _ isAttached quiet =>
      exact
        ⟨quiet.mPendTask.trans isAttached.mPendTask,
          quiet.served.trans isAttached.served⟩
  | startService _ =>
      exact
        ⟨(createService_serviced _ _ _ _ _).mPendTask,
          (createService_serviced _ _ _ _ _).served⟩

/-- The handlers on a board after some of them are done. -/
def markAll
    (handlers : List (TaskTimeoutHandler AppAttachTask))
    (board : TaskBoard AppAttachTask) : TaskBoard AppAttachTask :=
  handlers.foldl
    (fun board handler => board.markDone handler.serial) board

/-- Every pending task of the process is done, in the order of the board. -/
theorem eventTrigger_board
    {e : AppAttachEvent}
    {packageName : String}
    {handlers : List (TaskTimeoutHandler AppAttachTask)}
    (isNext :
      eventTrigger e packageName handlers inner = some next) :
    next.mPendTask =
        markAll (handlers.filter (·.pendingFor e)) inner.mPendTask ∧
      next.served =
        inner.served ++
          (handlers.filter (·.pendingFor e)).map
            (·.servedTo e packageName) := by
  induction handlers generalizing inner with
  | nil =>
      rw [← Option.some.inj isNext]
      exact ⟨rfl, (List.append_nil _).symm⟩
  | cons handler rest inductionHypothesis =>
      rw [eventTrigger] at isNext
      split at isNext
      · rename_i isPending
        obtain ⟨after, isAfter, isNext⟩ :=
          Option.bind_eq_some_iff.mp isNext
        obtain ⟨sameBoard, sameServed⟩ :=
          (runCallback_outcome isAfter).sameBoard
        obtain ⟨marked, served⟩ := inductionHypothesis isNext
        rw [List.filter_cons_of_pos isPending]
        constructor
        · rw [marked, sameBoard]
          rfl
        · rw [served, sameServed, List.map_cons]
          exact List.append_assoc _ _ _
      · rename_i notPending
        rw [List.filter_cons_of_neg notPending]
        exact inductionHypothesis isNext

/-- Marks do not change serial numbers, tasks and deadlines. -/
theorem markAll_frame
    (handlers : List (TaskTimeoutHandler AppAttachTask))
    (board : TaskBoard AppAttachTask) :
    (markAll handlers board).committed = board.committed ∧
      (markAll handlers board).mTasklist =
        board.mTasklist.map fun handler =>
          if handler.serial ∈ handlers.map TaskTimeoutHandler.serial then
            { handler with mIsDone := true }
          else
            handler := by
  induction handlers generalizing board with
  | nil =>
      simp [markAll]
  | cons first rest inductionHypothesis =>
      obtain ⟨sameCount, marked⟩ :=
        inductionHypothesis (board.markDone first.serial)
      constructor
      · exact sameCount
      · change (markAll rest (board.markDone first.serial)).mTasklist = _
        rw [marked, TaskBoard.markDone, List.map_map]
        apply List.map_congr_left
        intro handler _
        by_cases isFirst : handler.serial = first.serial
        · simp [isFirst]
        · simp [isFirst]

/-- A handler after the event for its process, or another one. -/
def settle
    (e : AppAttachEvent)
    (handler : TaskTimeoutHandler AppAttachTask) :
    TaskTimeoutHandler AppAttachTask :=
  if handler.pendingFor e then { handler with mIsDone := true }
  else handler

/-- A handler on the board is among the pending ones if it is pending. -/
theorem serial_mem_pending
    {board : TaskBoard AppAttachTask}
    (numbered : board.Numbered)
    (e : AppAttachEvent)
    {handler : TaskTimeoutHandler AppAttachTask}
    (onBoard : handler ∈ board.mTasklist) :
    handler.serial ∈
        (board.mTasklist.filter (·.pendingFor e)).map
          TaskTimeoutHandler.serial ↔
      handler.pendingFor e = true := by
  constructor
  · intro member
    obtain ⟨other, isPending, sameSerial⟩ := List.mem_map.mp member
    obtain ⟨otherOnBoard, isPending⟩ := List.mem_filter.mp isPending
    rw [numbered.eq_of_serial onBoard otherOnBoard sameSerial.symm]
    exact isPending
  · intro isPending
    exact List.mem_map_of_mem
      (List.mem_filter.mpr ⟨onBoard, isPending⟩)

/-- With numbered handlers, exactly the pending ones are done. -/
theorem markAll_pending
    {board : TaskBoard AppAttachTask}
    (numbered : board.Numbered)
    (e : AppAttachEvent) :
    (markAll (board.mTasklist.filter (·.pendingFor e))
      board).mTasklist = board.mTasklist.map (settle e) := by
  rw [(markAll_frame _ board).2]
  apply List.map_congr_left
  intro handler onBoard
  simp only [serial_mem_pending numbered e onBoard]
  rfl

/-! ## Tasks and the processes they wait for -/

/-- A callback was run with a record of the process that it was meant for. -/
structure RunRight
    (inner : ActivityManagerInner)
    (served : Served) : Prop where
  mPackageName : served.mPackageName = served.task.processName
  app : served.app < inner.manager.nextApp
  record :
    ∀ record,
      inner.manager.apps served.app = some record →
      record.mPackageName = served.task.processName ∧
        record.mPid = served.task.mPid

/-- Tasks that are not done wait for processes that have not attached. -/
structure TasksMatch (inner : ActivityManagerInner) : Prop where
  numbered : inner.mPendTask.Numbered
  waits :
    ∀ handler ∈ inner.mPendTask.mTasklist,
      handler.mIsDone = false →
      (handler.mTask.processName, handler.mTask.mPid) ∈
        inner.mAppWaitingAttach
  queued :
    ∀ entry ∈ inner.mAppWaitingAttach,
      ∃ handler ∈ inner.mPendTask.mTasklist,
        handler.mIsDone = false ∧ handler.mTask.mPid = entry.2
  served : ∀ served ∈ inner.served, inner.RunRight served
  once :
    ∀ handler ∈ inner.mPendTask.mTasklist,
      inner.served.countP (·.serial == handler.serial) =
        if handler.mIsDone then 1 else 0
  onBoard :
    ∀ served ∈ inner.served,
      ∃ handler ∈ inner.mPendTask.mTasklist,
        handler.serial = served.serial ∧ handler.mTask = served.task

/-- The records that remain are about the same processes. -/
theorem TasksMatch.frame
    (before : TasksMatch inner)
    (records :
      ∀ app new,
        next.manager.apps app = some new →
        ∃ old, inner.manager.apps app = some old ∧ SameProcess old new)
    (sameNumber : next.manager.nextApp = inner.manager.nextApp)
    (sameWaiting : next.mAppWaitingAttach = inner.mAppWaitingAttach)
    (sameBoard : next.mPendTask = inner.mPendTask)
    (sameServed : next.served = inner.served) :
    TasksMatch next where
  numbered := by
    rw [sameBoard]
    exact before.numbered
  waits := by
    rw [sameBoard, sameWaiting]
    exact before.waits
  queued := by
    rw [sameBoard, sameWaiting]
    exact before.queued
  served := by
    intro served member
    rw [sameServed] at member
    have isRight := before.served served member
    refine ⟨isRight.mPackageName, ?_, ?_⟩
    · rw [sameNumber]
      exact isRight.app
    · intro new isNew
      obtain ⟨old, isOld, same⟩ := records served.app new isNew
      rw [same.mPackageName, same.mPid]
      exact isRight.record old isOld
  once := by
    rw [sameBoard, sameServed]
    exact before.once
  onBoard := by
    rw [sameBoard, sameServed]
    exact before.onBoard

theorem TasksMatch.sameProcesses
    (before : TasksMatch inner)
    (same : SameProcesses inner next)
    (sameBoard : next.mPendTask = inner.mPendTask)
    (sameServed : next.served = inner.served) :
    TasksMatch next :=
  before.frame (fun _ _ isNew => same.apps.exists_before isNew)
    same.nextApp same.mAppWaitingAttach sameBoard sameServed

/-- No number of the log is that of the next task. -/
theorem TasksMatch.serial_lt
    (before : TasksMatch inner)
    {served : Served}
    (member : served ∈ inner.served) :
    served.serial < inner.mPendTask.committed := by
  obtain ⟨handler, onBoard, sameSerial, _⟩ := before.onBoard served member
  rw [← sameSerial]
  exact before.numbered.used handler.serial (List.mem_map_of_mem onBoard)

/-! ## Tasks that are queued -/

/-- A task is queued for a process that waits, maybe since just now. -/
theorem TasksMatch.enqueue
    {queue : ActivityManagerInner}
    {task : AppAttachTask}
    (before : TasksMatch inner)
    (sameManager : queue.manager = inner.manager)
    (sameBoard : queue.mPendTask = inner.mPendTask)
    (sameServed : queue.served = inner.served)
    (stay :
      ∀ entry ∈ inner.mAppWaitingAttach, entry ∈ queue.mAppWaitingAttach)
    (come :
      ∀ entry ∈ queue.mAppWaitingAttach,
        entry ∈ inner.mAppWaitingAttach ∨ entry.2 = task.mPid)
    (isWaiting :
      (task.processName, task.mPid) ∈ queue.mAppWaitingAttach) :
    TasksMatch (queue.enqueue task) where
  numbered := by
    rw [ActivityManagerInner.enqueue, sameBoard]
    exact before.numbered.commitTask task uintMax
  waits := by
    rw [enqueue_mTasklist, enqueue_mAppWaitingAttach, sameBoard]
    intro handler member notDone
    rcases List.mem_append.mp member with isOld | isNew
    · exact stay _ (before.waits handler isOld notDone)
    · rw [List.mem_singleton.mp isNew]
      exact isWaiting
  queued := by
    rw [enqueue_mTasklist, enqueue_mAppWaitingAttach, sameBoard]
    intro entry waits
    rcases come entry waits with isOld | isNew
    · obtain ⟨handler, onBoard, isQueued⟩ := before.queued entry isOld
      exact ⟨handler, List.mem_append_left _ onBoard, isQueued⟩
    · refine ⟨_, List.mem_append_right _ (List.mem_singleton_self _), rfl, ?_⟩
      exact isNew.symm
  served := by
    rw [enqueue_served, sameServed]
    intro served member
    have isRight := before.served served member
    refine ⟨isRight.mPackageName, ?_, ?_⟩
    · rw [enqueue_manager, sameManager]
      exact isRight.app
    · rw [enqueue_manager, sameManager]
      exact isRight.record
  once := by
    rw [enqueue_mTasklist, enqueue_served, sameBoard, sameServed]
    intro handler member
    rcases List.mem_append.mp member with isOld | isNew
    · exact before.once handler isOld
    · rw [List.mem_singleton.mp isNew]
      refine List.countP_eq_zero.mpr ?_
      intro served member isSerial
      exact absurd (beq_iff_eq.mp isSerial)
        (Nat.ne_of_lt (before.serial_lt member))
  onBoard := by
    rw [enqueue_mTasklist, enqueue_served, sameBoard, sameServed]
    intro served member
    obtain ⟨handler, onBoard, isIt⟩ := before.onBoard served member
    exact ⟨handler, List.mem_append_left _ onBoard, isIt⟩

/-- The process of a name that waits. -/
theorem mem_of_getAttachingAppPid
    {name : String}
    {pid : Nat}
    (isWaiting : inner.getAttachingAppPid name = some pid) :
    (name, pid) ∈ inner.mAppWaitingAttach := by
  obtain ⟨entry, isEntry, isPid⟩ := Option.map_eq_some_iff.mp isWaiting
  have isName := List.find?_some isEntry
  rw [← beq_iff_eq.mp isName, ← isPid]
  exact List.mem_of_find?_eq_some isEntry

/-- The name of a pid that waits. -/
theorem mem_of_getAttachingAppName
    {name : String}
    {pid : Nat}
    (isWaiting : inner.getAttachingAppName pid = some name) :
    (name, pid) ∈ inner.mAppWaitingAttach := by
  obtain ⟨entry, isEntry, isName⟩ := Option.map_eq_some_iff.mp isWaiting
  have isPid := List.find?_some isEntry
  rw [← isName, ← beq_iff_eq.mp isPid]
  exact List.mem_of_find?_eq_some isEntry

theorem Submitted.tasksMatch
    {name : String}
    {callback : AttachCallback}
    {spawned : Option Nat}
    {pid : Nat}
    (submitted : inner.Submitted name callback spawned next pid)
    (before : TasksMatch inner) :
    TasksMatch next := by
  cases submitted with
  | behind isWaiting =>
      exact
        before.enqueue rfl rfl rfl (fun _ => id) (fun _ => Or.inl)
          (mem_of_getAttachingAppPid isWaiting)
  | first _ _ =>
      refine
        before.enqueue rfl rfl rfl (fun _ => List.mem_append_left _) ?_
          (List.mem_append_right _ (List.mem_singleton_self _))
      intro entry waits
      rcases List.mem_append.mp waits with isOld | isNew
      · exact Or.inl isOld
      · rw [List.mem_singleton.mp isNew]
        exact Or.inr rfl

/-! ## The process attaches -/

/-- A task is pending for the process that it waits for. -/
theorem pendingFor_iff
    {e : AppAttachEvent}
    {handler : TaskTimeoutHandler AppAttachTask} :
    handler.pendingFor e = true ↔
      handler.mIsDone = false ∧ handler.mTask.mPid = e.mPid := by
  simp [TaskTimeoutHandler.pendingFor, BoardLabels.equalsLabel]

/-- The event marks a handler, and changes nothing else of it. -/
theorem settle_key
    (e : AppAttachEvent)
    (handler : TaskTimeoutHandler AppAttachTask) :
    (settle e handler).serial = handler.serial ∧
      (settle e handler).mTask = handler.mTask := by
  unfold settle
  split
  · exact ⟨rfl, rfl⟩
  · exact ⟨rfl, rfl⟩

/-- A handler that is not done after the event is for another process. -/
theorem not_pendingFor_of_settle
    {e : AppAttachEvent}
    {handler : TaskTimeoutHandler AppAttachTask}
    (notDone : (settle e handler).mIsDone = false) :
    handler.mIsDone = false ∧ handler.mTask.mPid ≠ e.mPid := by
  unfold settle at notDone
  split at notDone
  · cases notDone
  · rename_i notPending
    refine ⟨notDone, ?_⟩
    intro samePid
    exact notPending (pendingFor_iff.mpr ⟨notDone, samePid⟩)

/-- The marks keep the numbers. -/
theorem markAll_numbered
    {board : TaskBoard AppAttachTask}
    (numbered : board.Numbered)
    (handlers : List (TaskTimeoutHandler AppAttachTask)) :
    (markAll handlers board).Numbered := by
  induction handlers generalizing board with
  | nil =>
      exact numbered
  | cons handler rest inductionHypothesis =>
      exact inductionHypothesis (numbered.markDone handler.serial)

/-- The log of the event has each pending task once. -/
theorem countP_servedTo
    {board : TaskBoard AppAttachTask}
    (numbered : board.Numbered)
    (e : AppAttachEvent)
    (packageName : String)
    {handler : TaskTimeoutHandler AppAttachTask}
    (onBoard : handler ∈ board.mTasklist) :
    ((board.mTasklist.filter (·.pendingFor e)).map
        (·.servedTo e packageName)).countP
        (·.serial == handler.serial) =
      if handler.pendingFor e then 1 else 0 := by
  have shape :
      ((board.mTasklist.filter (·.pendingFor e)).map
          (·.servedTo e packageName)).countP
          (·.serial == handler.serial) =
        ((board.mTasklist.filter (·.pendingFor e)).map
          TaskTimeoutHandler.serial).count handler.serial := by
    rw [List.count, List.countP_map, List.countP_map]
    rfl
  have distinct :
      ((board.mTasklist.filter (·.pendingFor e)).map
        TaskTimeoutHandler.serial).Nodup :=
    numbered.distinct.sublist (List.filter_sublist.map _)
  rw [shape, distinct.count]
  simp only [serial_mem_pending numbered e onBoard]

/-- The process that attaches waited under one name. -/
theorem eq_of_waiting_pid
    {entry other : String × Nat}
    (distinct : DistinctProcesses inner)
    (waits : entry ∈ inner.mAppWaitingAttach)
    (otherWaits : other ∈ inner.mAppWaitingAttach)
    (samePid : entry.2 = other.2) :
    entry = other := by
  have pids := (List.nodup_append.mp distinct.pids).2.1
  exact List.inj_on_of_nodup_map pids waits otherWaits samePid

/-- The processes that still wait when one has attached. -/
theorem mem_deleteAppWaitingAttach
    {pid : Nat}
    {entry : String × Nat}
    (distinct : DistinctProcesses inner) :
    entry ∈ (inner.deleteAppWaitingAttach pid).mAppWaitingAttach ↔
      entry ∈ inner.mAppWaitingAttach ∧ entry.2 ≠ pid := by
  have pids := (List.nodup_append.mp distinct.pids).2.1
  unfold deleteAppWaitingAttach
  rw [(swapRemove_key pids pid).mem_iff, List.mem_filter, bne_iff_ne]

/-- The tasks of the process were submitted for its name. -/
theorem TasksMatch.processName_of_pendingFor
    {e : AppAttachEvent}
    {packageName : String}
    {handler : TaskTimeoutHandler AppAttachTask}
    (matched : TasksMatch inner)
    (distinct : DistinctProcesses inner)
    (isWaiting : inner.getAttachingAppName e.mPid = some packageName)
    (onBoard : handler ∈ inner.mPendTask.mTasklist)
    (isPending : handler.pendingFor e = true) :
    handler.mTask.processName = packageName := by
  obtain ⟨notDone, samePid⟩ := pendingFor_iff.mp isPending
  have sameEntry :
      (handler.mTask.processName, handler.mTask.mPid) =
        (packageName, e.mPid) :=
    eq_of_waiting_pid distinct (matched.waits handler onBoard notDone)
      (mem_of_getAttachingAppName isWaiting) samePid
  exact congrArg Prod.fst sameEntry

/-- What the event of a process does to the tasks that wait. -/
structure TasksRunFor
    (e : AppAttachEvent)
    (packageName : String)
    (isSystemUI : Bool)
    (inner next : ActivityManagerInner) : Prop where
  board :
    next.mPendTask.mTasklist =
      inner.mPendTask.mTasklist.map (settle e)
  served :
    next.served =
      inner.served ++
        (inner.mPendTask.mTasklist.filter (·.pendingFor e)).map
          (·.servedTo e packageName)
  waiting :
    ∀ entry,
      entry ∈ next.mAppWaitingAttach ↔
        entry ∈ inner.mAppWaitingAttach ∧ entry.2 ≠ e.mPid
  number : next.manager.nextApp = inner.manager.nextApp + 1
  records :
    ∀ app new,
      next.manager.apps app = some new →
      ∃ old,
        Function.update inner.manager.apps inner.manager.nextApp
            (some (.attached packageName isSystemUI e.mPid)) app =
          some old ∧
          SameProcess old new

/-- The callbacks change neither the board nor who waits. -/
theorem tasksRunFor_of_eventTrigger
    {e : AppAttachEvent}
    {packageName : String}
    {isSystemUI : Bool}
    (before : TasksMatch inner)
    (distinct : DistinctProcesses inner)
    (isNext :
      eventTrigger e packageName inner.mPendTask.mTasklist
          ((inner.deleteAppWaitingAttach e.mPid).addAppInfo packageName
            isSystemUI e.mPid) =
        some next) :
    TasksRunFor e packageName isSystemUI inner next := by
  obtain ⟨sameBoard, sameServed⟩ := eventTrigger_board isNext
  have same := eventTrigger_sameProcesses isNext
  refine ⟨?_, sameServed, ?_, same.nextApp, ?_⟩
  · rw [sameBoard]
    exact markAll_pending before.numbered e
  · intro entry
    rw [same.mAppWaitingAttach]
    exact mem_deleteAppWaitingAttach distinct
  · exact fun _ _ isNew => same.apps.exists_before isNew

namespace TasksRunFor

variable
  {e : AppAttachEvent}
  {packageName : String}
  {isSystemUI : Bool}

/-- The processes of tasks that are not done still wait. -/
theorem waits
    (ran : TasksRunFor e packageName isSystemUI inner next)
    (before : TasksMatch inner) :
    ∀ handler ∈ next.mPendTask.mTasklist,
      handler.mIsDone = false →
      (handler.mTask.processName, handler.mTask.mPid) ∈
        next.mAppWaitingAttach := by
  rw [ran.board]
  intro settled member notDone
  obtain ⟨handler, onBoard, rfl⟩ := List.mem_map.mp member
  obtain ⟨isPending, isOther⟩ := not_pendingFor_of_settle notDone
  rw [(settle_key e handler).2]
  exact (ran.waiting _).mpr
    ⟨before.waits handler onBoard isPending, isOther⟩

/-- What still waits has a task that is not done. -/
theorem queued
    (ran : TasksRunFor e packageName isSystemUI inner next)
    (before : TasksMatch inner) :
    ∀ entry ∈ next.mAppWaitingAttach,
      ∃ handler ∈ next.mPendTask.mTasklist,
        handler.mIsDone = false ∧ handler.mTask.mPid = entry.2 := by
  rw [ran.board]
  intro entry waits
  obtain ⟨isOld, isOther⟩ := (ran.waiting entry).mp waits
  obtain ⟨handler, onBoard, notDone, samePid⟩ :=
    before.queued entry isOld
  refine ⟨handler, List.mem_map.mpr ⟨handler, onBoard, ?_⟩, notDone,
    samePid⟩
  have notPending : ¬ handler.pendingFor e = true := by
    intro isPending
    rw [pendingFor_iff, samePid] at isPending
    exact isOther isPending.2
  rw [settle, if_neg notPending]

/-- What ran before is right about the records that there are now. -/
theorem runRight_old
    {served : Served}
    (ran : TasksRunFor e packageName isSystemUI inner next)
    (isRight : inner.RunRight served) :
    next.RunRight served := by
  refine ⟨isRight.mPackageName, ?_, ?_⟩
  · rw [ran.number]
    exact Nat.lt_succ_of_lt isRight.app
  · intro new isNew
    obtain ⟨old, isOldRecord, isSame⟩ := ran.records _ new isNew
    rw [Function.update_of_ne (Nat.ne_of_lt isRight.app)] at isOldRecord
    rw [isSame.mPackageName, isSame.mPid]
    exact isRight.record old isOldRecord

/-- The tasks of the process run with its own record. -/
theorem runRight_new
    {handler : TaskTimeoutHandler AppAttachTask}
    (ran : TasksRunFor e packageName isSystemUI inner next)
    (before : TasksMatch inner)
    (distinct : DistinctProcesses inner)
    (isApp : e.mAppRecord = inner.manager.nextApp)
    (isWaiting : inner.getAttachingAppName e.mPid = some packageName)
    (onBoard : handler ∈ inner.mPendTask.mTasklist)
    (isPending : handler.pendingFor e = true) :
    next.RunRight (handler.servedTo e packageName) := by
  obtain ⟨notDone, samePid⟩ := pendingFor_iff.mp isPending
  have isName :=
    before.processName_of_pendingFor distinct isWaiting onBoard isPending
  refine ⟨isName.symm, ?_, ?_⟩
  · rw [ran.number, TaskTimeoutHandler.servedTo, isApp]
    exact Nat.lt_succ_self _
  · intro new isNew
    obtain ⟨old, isOldRecord, isSame⟩ := ran.records _ new isNew
    rw [TaskTimeoutHandler.servedTo, isApp, Function.update_self]
      at isOldRecord
    rw [isSame.mPackageName, isSame.mPid, ← Option.some.inj isOldRecord]
    exact ⟨isName.symm, samePid.symm⟩

/-- Tasks that are done have been run once, the others not at all. -/
theorem once
    (ran : TasksRunFor e packageName isSystemUI inner next)
    (before : TasksMatch inner) :
    ∀ handler ∈ next.mPendTask.mTasklist,
      next.served.countP (·.serial == handler.serial) =
        if handler.mIsDone then 1 else 0 := by
  rw [ran.board, ran.served]
  intro settled member
  obtain ⟨handler, onBoard, rfl⟩ := List.mem_map.mp member
  rw [(settle_key e handler).1, List.countP_append,
    before.once handler onBoard,
    countP_servedTo before.numbered e packageName onBoard]
  by_cases isPending : handler.pendingFor e = true
  · rw [settle, if_pos isPending, if_pos isPending,
      (pendingFor_iff.mp isPending).1]
    rfl
  · rw [settle, if_neg isPending, if_neg isPending]
    rfl

/-- What has run stays on the board. -/
theorem onBoard
    (ran : TasksRunFor e packageName isSystemUI inner next)
    (before : TasksMatch inner) :
    ∀ served ∈ next.served,
      ∃ handler ∈ next.mPendTask.mTasklist,
        handler.serial = served.serial ∧ handler.mTask = served.task := by
  rw [ran.board, ran.served]
  have stays :
      ∀ handler ∈ inner.mPendTask.mTasklist,
        ∃ settled ∈ inner.mPendTask.mTasklist.map (settle e),
          settled.serial = handler.serial ∧
            settled.mTask = handler.mTask :=
    fun handler onBoard =>
      ⟨settle e handler, List.mem_map_of_mem onBoard,
        settle_key e handler⟩
  intro served member
  rcases List.mem_append.mp member with isOld | isNew
  · obtain ⟨handler, onBoard, sameSerial, sameTask⟩ :=
      before.onBoard served isOld
    rw [← sameSerial, ← sameTask]
    exact stays handler onBoard
  · obtain ⟨handler, isPending, rfl⟩ := List.mem_map.mp isNew
    exact stays handler (List.mem_filter.mp isPending).1

end TasksRunFor

/-- The tasks of the process are run with its record, once. -/
theorem TasksMatch.attach
    {e : AppAttachEvent}
    {packageName : String}
    {isSystemUI : Bool}
    (before : TasksMatch inner)
    (distinct : DistinctProcesses inner)
    (isApp : e.mAppRecord = inner.manager.nextApp)
    (isWaiting : inner.getAttachingAppName e.mPid = some packageName)
    (isNext :
      eventTrigger e packageName inner.mPendTask.mTasklist
          ((inner.deleteAppWaitingAttach e.mPid).addAppInfo packageName
            isSystemUI e.mPid) =
        some next) :
    TasksMatch next := by
  have ran := tasksRunFor_of_eventTrigger before distinct isNext
  refine
    ⟨?_, ran.waits before, ran.queued before, ?_, ran.once before,
      ran.onBoard before⟩
  · rw [(eventTrigger_board isNext).1]
    exact markAll_numbered before.numbered _
  · rw [ran.served]
    intro served member
    rcases List.mem_append.mp member with isOld | isNew
    · exact ran.runRight_old (before.served served isOld)
    · obtain ⟨handler, isPending, rfl⟩ := List.mem_map.mp isNew
      obtain ⟨onBoard, isPending⟩ := List.mem_filter.mp isPending
      exact
        ran.runRight_new before distinct isApp isWaiting onBoard isPending

/-! ## Processes that exit -/

/-- A process of the list exits: nothing waited for it. -/
theorem TasksMatch.hosted
    {app pid : Nat}
    {record : AppRecord}
    {exited ended deleted : ActivityManagerInner}
    {policy : ProcessPriorityPolicy}
    (before : TasksMatch inner)
    (quiet :
      Quiet
        (TaskStackManager.partsOf inner.manager (.procAppTerminated app))
        inner exited)
    (isRecord : exited.manager.apps app = some record)
    (terminated :
      Terminated record.mExistService (exited.swapServices app record)
        ended)
    (isDeleted : ended.deleteAppInfo pid app = some deleted) :
    TasksMatch { deleted with mPriorityPolicy := policy } := by
  have same :=
    ((quiet.sameProcesses partsOf_procAppTerminated_areRoutine).trans
      (swapServices_sameProcesses isRecord)).trans
        terminated.sameProcesses
  have isDeletedNow := deleteAppInfo_cases isDeleted
  have sameApps :
      deleted.manager.apps =
        Function.update ended.manager.apps app none := by
    rw [isDeletedNow]
  have sameNumber : deleted.manager.nextApp = ended.manager.nextApp := by
    rw [isDeletedNow]
  have sameWaiting :
      deleted.mAppWaitingAttach = ended.mAppWaitingAttach := by
    rw [isDeletedNow]
  have sameBoard : deleted.mPendTask = ended.mPendTask := by
    rw [isDeletedNow]
  have sameServed : deleted.served = ended.served := by
    rw [isDeletedNow]
  refine before.frame ?_ (sameNumber.trans same.nextApp)
    (sameWaiting.trans same.mAppWaitingAttach)
    (sameBoard.trans (terminated.mPendTask.trans quiet.mPendTask))
    (sameServed.trans (terminated.served.trans quiet.served))
  intro other new isNew
  rw [sameApps] at isNew
  by_cases isApp : other = app
  · rw [isApp, Function.update_self] at isNew
    cases isNew
  · rw [Function.update_of_ne isApp] at isNew
    exact same.apps.exists_before isNew

/-- A pid that no process waits under. -/
def attachedOrGone
    (inner : ActivityManagerInner)
    (pid : Nat) : Bool :=
  (inner.findAppInfo pid).isSome || (inner.getAttachingAppName pid).isNone

/-- No process exits before it has attached. -/
def exitsAttached
    (inner : ActivityManagerInner) :
    InnerAction → Bool
  | .childExit pid => inner.attachedOrGone pid
  | _ => true

/-! ## Steps -/

theorem Quiet.tasksMatch
    {parts : TaskStackManager.Parts}
    (quiet : Quiet parts inner next)
    (areRoutine : parts.AreRoutine)
    (before : TasksMatch inner) :
    TasksMatch next :=
  before.sameProcesses (quiet.sameProcesses areRoutine) quiet.mPendTask
    quiet.served

theorem Serviced.tasksMatch
    (serviced : Serviced inner next)
    (before : TasksMatch inner) :
    TasksMatch next :=
  before.sameProcesses serviced.sameProcesses serviced.mPendTask
    serviced.served

/-- A new arrangement that keeps the applications. -/
theorem Rearranged.tasksMatch
    {manager : TaskStackManager}
    (rearranged : inner.Rearranged next manager)
    (sameApps : manager.apps = inner.manager.apps)
    (sameNumber : manager.nextApp = inner.manager.nextApp)
    (before : TasksMatch inner) :
    TasksMatch next :=
  before.sameProcesses (rearranged.sameProcesses sameApps sameNumber)
    rearranged.mPendTask rearranged.served

/-- A report about a service does not look at the board. -/
theorem ReportOutcome.sameBoard
    {token : Nat}
    {status : ServiceStatus}
    (outcome : inner.ReportOutcome token status next) :
    next.mPendTask = inner.mPendTask ∧ next.served = inner.served := by
  cases outcome with
  | ignored =>
      exact ⟨rfl, rfl⟩
  | stored _ =>
      exact ⟨rfl, rfl⟩
  | unbinded _ _ =>
      exact ⟨rfl, rfl⟩
  | destroyed _ _ =>
      have idle :=
        stopIfIdle_quiet
          { inner with mServices := deleteService inner.mServices token }
      exact ⟨(idle _).mPendTask, (idle _).served⟩

/-- Every step keeps tasks and processes matched. -/
theorem TasksMatch.step
    {action : InnerAction}
    (before : TasksMatch inner)
    (distinct : DistinctProcesses inner)
    (exitsRight : inner.exitsAttached action = true)
    (isNext : inner.step? action = some next) :
    TasksMatch next := by
  cases step?_outcome isNext with
  | activity outcome =>
      cases outcome with
      | rejected quiet =>
          exact quiet.tasksMatch ownParts_areRoutine before
      | turned quiet =>
          exact quiet.tasksMatch ownParts_areRoutine before
      | hosted _ isCreated quiet =>
          exact quiet.tasksMatch ownParts_areRoutine
            (isCreated.tasksMatch rfl rfl before)
      | queued _ _ isCreated submitted quiet =>
          exact quiet.tasksMatch ownParts_areRoutine
            (submitted.tasksMatch (isCreated.tasksMatch rfl rfl before))
  | service _ outcome =>
      cases outcome with
      | rejected =>
          exact before
      | found isFound =>
          exact
            (requestService_serviced (mem_of_findService isFound).1 _
              _).tasksMatch before
      | created _ _ _ _ =>
          exact before.sameProcesses (createService_sameProcesses _ _ _ _ _)
            (createService_serviced _ _ _ _ _).mPendTask
            (createService_serviced _ _ _ _ _).served
      | queued _ _ _ submitted =>
          exact submitted.tasksMatch before
  | serviced serviced =>
      exact serviced.tasksMatch before
  | reported outcome =>
      exact before.sameProcesses outcome.sameProcesses
        outcome.sameBoard.1 outcome.sameBoard.2
  | attached outcome =>
      cases outcome with
      | known _ =>
          exact before
      | attached _ isWaiting isServed =>
          exact before.attach distinct rfl isWaiting isServed
      | illegal _ =>
          exact before
  | exited outcome =>
      cases outcome with
      | hosted _ _ quiet isRecord terminated isDeleted _ =>
          exact before.hosted quiet isRecord terminated isDeleted
      | waiting notFound isWaiting =>
          rw [exitsAttached, attachedOrGone, notFound, isWaiting]
            at exitsRight
          cases exitsRight
      | unknown _ _ =>
          exact before
  | quiet areRoutine quiet =>
      exact quiet.tasksMatch areRoutine before

/-- A new service has no tasks. -/
theorem TasksMatch.start
    (lines : List LmkRow)
    (arena : Int)
    (now : Nat) :
    TasksMatch (start lines arena now) where
  numbered := ⟨List.nodup_nil, fun _ member => absurd member List.not_mem_nil⟩
  waits _ member := absurd member List.not_mem_nil
  queued _ member := absurd member List.not_mem_nil
  served _ member := absurd member List.not_mem_nil
  once _ member := absurd member List.not_mem_nil
  onBoard _ member := absurd member List.not_mem_nil

/-- Pids are as the system promises, and no process exits unattached. -/
def PermittedAttached
    (inner : ActivityManagerInner)
    (action : InnerAction) : Prop :=
  Permitted inner action ∧ inner.exitsAttached action = true

instance decidablePermittedAttached
    (inner : ActivityManagerInner)
    (action : InnerAction) :
    Decidable (PermittedAttached inner action) :=
  inferInstanceAs (Decidable (_ ∧ _))

/-- In every run without such exits the tasks match the processes. -/
theorem tasksMatch_of_reachable
    {lines : List LmkRow}
    {arena : Int}
    {now : Nat}
    (reachable :
      Reachable step? PermittedAttached (start lines arena now) inner) :
    DistinctProcesses inner ∧ TasksMatch inner := by
  refine
    reachable.invariant ⟨.start lines arena now, .start lines arena now⟩ ?_
  rintro middle action after ⟨distinct, matched⟩ isPermitted isNext
  exact
    ⟨distinct.step isPermitted.1 isNext,
      matched.step distinct isPermitted.2 isNext⟩

end ActivityManagerInner

end ActivityManager
