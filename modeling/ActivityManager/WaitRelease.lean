import ActivityManager.ActivityManagerFrames
import ActivityManager.ActivityProgress
import ActivityManager.DeletionRequests
import ActivityManager.TaskManagerRuns

/-!
# Who is released when an activity is resumed

Several tasks may wait for one activity: every switch to it leaves one behind.
The report that it is resumed triggers one `ActivityWaitResume` and one
`ActivityDelayDestroy` only.  The others stay until they time out.
-/

namespace ActivityManager

open StepSystem (Reachable run?)

/-! ## The pending tasks of an event -/

namespace TaskBoard

variable
  {Task Label : Type}
  [BoardLabels Task Label]
  {board : TaskBoard Task}
  {event : Label}

/-- The handlers that an event finds pending, in commit order. -/
def pending
    (board : TaskBoard Task)
    (event : Label) : List (TaskTimeoutHandler Task) :=
  board.mTasklist.filter (·.pendingFor event)

/-- The loop of `eventTrigger` stops at the first of them. -/
theorem firstPending_eq_head?
    (board : TaskBoard Task)
    (event : Label) :
    board.firstPending event = (board.pending event).head? := by
  rw [firstPending, pending, List.head?_filter]

/-- A handler that is done is pending no longer, the others stay. -/
theorem pending_markDone
    (board : TaskBoard Task)
    (event : Label)
    (serial : Nat) :
    (board.markDone serial).pending event =
      (board.pending event).filter (·.serial ≠ serial) := by
  unfold pending markDone
  induction board.mTasklist with
  | nil =>
      rfl
  | cons handler rest inductionHypothesis =>
      dsimp only at inductionHypothesis ⊢
      rw [List.map_cons, List.filter_cons, List.filter_cons,
        inductionHypothesis]
      by_cases isDone : handler.serial = serial
      · cases isPending : handler.pendingFor event with
        | false =>
            simp [isDone, TaskTimeoutHandler.pendingFor]
        | true =>
            simp [isDone, TaskTimeoutHandler.pendingFor]
      · cases isPending : handler.pendingFor event with
        | false =>
            simp [isDone, isPending]
        | true =>
            simp [isDone, isPending]

/-- A commit that the event does not meet. -/
theorem pending_commitTask
    {task : Task}
    (isOther : BoardLabels.equalsLabel task event = false)
    (msLimitedTime : Nat) :
    (board.commitTask task msLimitedTime).pending event =
      board.pending event := by
  unfold pending
  rw [commitTask_mTasklist, List.filter_append]
  simp [TaskTimeoutHandler.pendingFor, newHandler, isOther]

/-- The first pending handler is done. -/
theorem Numbered.pending_markDone_first
    {handler : TaskTimeoutHandler Task}
    {rest : List (TaskTimeoutHandler Task)}
    (numbered : Numbered board)
    (isPending : board.pending event = handler :: rest) :
    (board.markDone handler.serial).pending event = rest := by
  have distinct :
      ((board.pending event).map TaskTimeoutHandler.serial).Nodup :=
    numbered.distinct.sublist (List.filter_sublist.map _)
  rw [isPending, List.map_cons, List.nodup_cons] at distinct
  rw [pending_markDone, isPending, List.filter_cons_of_neg (by simp),
    List.filter_eq_self]
  intro other member
  apply decide_eq_true
  intro sameSerial
  apply distinct.1
  rw [← sameSerial]
  exact List.mem_map_of_mem member

/-- A handler is done that the event does not meet. -/
theorem Numbered.pending_markDone_other
    {handler : TaskTimeoutHandler Task}
    (numbered : Numbered board)
    (onBoard : handler ∈ board.mTasklist)
    (isOther : BoardLabels.equalsLabel handler.mTask event = false) :
    (board.markDone handler.serial).pending event =
      board.pending event := by
  rw [pending_markDone, List.filter_eq_self]
  intro other member
  apply decide_eq_true
  intro sameSerial
  obtain ⟨otherOn, isPending⟩ := List.mem_filter.mp member
  have same := numbered.eq_of_serial otherOn onBoard sameSerial
  rw [same, TaskTimeoutHandler.pendingFor, isOther, Bool.and_false]
    at isPending
  exact Bool.false_ne_true isPending

end TaskBoard

/-! ## The board, step by step -/

/-- What a primitive step does to the board. -/
inductive BoardStep
    (action : RecordAction)
    (board : TaskBoard PendTask) :
    TaskBoard PendTask → Prop where
  | same :
      BoardStep action board board
  | commit
      (task : PendTask) :
      task.isWait = false ∨ action = .commit task →
      BoardStep action board (board.commitTask task requestTimeoutMs)
  | done (serial : Nat) :
      BoardStep action board (board.markDone serial)
  | remove (event : PendEvent) :
      BoardStep action board (board.removeTask event)
  | clock (ms : Nat) :
      BoardStep action board { board with clock := board.clock + ms }

namespace TaskStackManager

variable
  {manager next : TaskStackManager}
  {activity token : Nat}
  {event : PendEvent}

/-- Every primitive step does one of these. -/
theorem recordStep?_board
    {action : RecordAction}
    (isNext : manager.recordStep? action = some next) :
    BoardStep action manager.mPendTask next.mPendTask := by
  cases action with
  | createActivity name targetTask intent =>
      rw [← Option.some.inj isNext]
      exact .same
  | setAppThread activity app =>
      obtain ⟨_, _, isSet⟩ := setAppThread_cases isNext
      rw [isSet]
      exact .same
  | turn activity toStatus =>
      obtain ⟨_, transition, turned⟩ := turn_cases isNext
      rw [turned.mPendTask]
      split
      · exact .commit (.lifeCycle activity) (.inl rfl)
      · exact .same
  | setIntent activity intent =>
      obtain ⟨_, _, isSet⟩ := setIntent_cases isNext
      rw [isSet]
      exact .same
  | restart activity =>
      obtain ⟨_, _, isSet⟩ := setStatus_cases isNext
      rw [isSet]
      exact .same
  | commit task =>
      obtain ⟨_, isCommitted⟩ := commit_cases isNext
      rw [isCommitted]
      exact .commit task (.inr rfl)
  | complete serial task =>
      obtain ⟨_, _, isDone⟩ := complete_cases isNext
      rw [isDone]
      exact .done serial
  | statusReport token status =>
      rcases statusReport_cases isNext with
        isSame | ⟨handler, _, _, _, _, isStored⟩
      · rw [isSame]
        exact .same
      · rw [isStored]
        exact .done handler.serial
  | giveUp serial activity =>
      obtain ⟨_, _, _, ⟨_, isDone⟩ | ⟨_, exited⟩⟩ := giveUp_cases isNext
      · rw [isDone]
        exact .done serial
      · obtain ⟨_, _, hasEnded | ⟨_, _, _, _, hasEnded⟩⟩ :=
          abnormalExit_cases exited
        · rw [hasEnded.2]
          exact .done serial
        · rw [hasEnded]
          exact .done serial
  | abnormalExit activity =>
      obtain ⟨_, _, hasEnded | ⟨_, _, _, _, hasEnded⟩⟩ :=
        abnormalExit_cases isNext
      · rw [hasEnded.2]
        exact .same
      · rw [hasEnded]
        exact .same
  | reportDestroyed token =>
      obtain ⟨_, _, board, _, isBoard, isStarted⟩ :=
        startDestroyed_cases isNext
      rw [isStarted]
      rcases isBoard with isSame | isRemoved
      · rw [isSame]
        exact .same
      · rw [isRemoved]
        exact .remove _
  | activityGone token =>
      obtain ⟨_, sameBoard, _⟩ := leaveApp_frame manager token
      rw [← Option.some.inj isNext]
      rw [activityGone, sameBoard]
      exact .same
  | setForeground app isForeground =>
      obtain ⟨_, _, isSet⟩ := Option.map_eq_some_iff.mp isNext
      rw [← isSet]
      exact .same
  | stopApplication app =>
      obtain ⟨_, _, isSet⟩ := Option.map_eq_some_iff.mp isNext
      rw [← isSet]
      exact .same
  | markStopped app =>
      obtain ⟨_, _, isSet⟩ := Option.map_eq_some_iff.mp isNext
      rw [← isSet]
      exact .same
  | forget token =>
      rw [← Option.some.inj isNext]
      exact .same
  | attachApplication packageName systemui pid =>
      rw [← Option.some.inj isNext]
      exact .same
  | deleteAppInfo app =>
      obtain ⟨_, _, _, isDeleted⟩ := deleteAppInfo_cases isNext
      rw [isDeleted]
      exact .same
  | clockAdvances ms =>
      rw [← Option.some.inj isNext]
      exact .clock ms
  | holdTasks tasks =>
      rw [← Option.some.inj isNext]
      exact .same
  | relist lists =>
      rw [← Option.some.inj isNext]
      exact .same

end TaskStackManager

/-! ## What stays true of the board -/

/-- The numbers tell tasks apart, and no activity waits for itself. -/
structure TidyBoard (board : TaskBoard PendTask) : Prop where
  numbered : board.Numbered
  apart :
    ∀ handler ∈ board.mTasklist,
      ∀ activity, handler.mTask ≠ .delayDestroy activity activity

/-- A task that is done or gone. -/
structure Over
    (board : TaskBoard PendTask)
    (serial : Nat) : Prop where
  used : serial < board.committed
  isDone :
    ∀ handler ∈ board.mTasklist,
      handler.serial = serial →
      handler.mIsDone = true

namespace BoardStep

variable
  {action : RecordAction}
  {board next : TaskBoard PendTask}

/-- Only a commit can make an activity wait for itself. -/
theorem tidy
    (step : BoardStep action board next)
    (before : TidyBoard board)
    (notItself :
      ∀ activity, action ≠ .commit (.delayDestroy activity activity)) :
    TidyBoard next := by
  cases step with
  | same =>
      exact before
  | commit task isKnown =>
      refine ⟨before.numbered.commitTask task _, ?_⟩
      rw [TaskBoard.commitTask_mTasklist]
      intro handler member activity isItself
      rcases List.mem_append.mp member with isOld | isNew
      · exact before.apart handler isOld activity isItself
      · rw [List.mem_singleton.mp isNew] at isItself
        have isTask : task = .delayDestroy activity activity := isItself
        subst isTask
        rcases isKnown with isLifeCycle | isCommit
        · cases isLifeCycle
        · exact notItself activity isCommit
  | done serial =>
      refine ⟨before.numbered.markDone serial, ?_⟩
      intro handler member activity
      obtain ⟨old, onBoard, isKept⟩ := TaskBoard.mem_markDone member
      have sameTask : handler.mTask = old.mTask :=
        congrArg (·.2.1) isKept.1
      rw [sameTask]
      exact before.apart old onBoard activity
  | remove event =>
      refine ⟨before.numbered.removeTask event, ?_⟩
      intro handler member
      exact before.apart handler (List.mem_of_mem_filter member)
  | clock ms =>
      exact
        ⟨⟨before.numbered.distinct, before.numbered.used⟩, before.apart⟩

/-- What is over stays over. -/
theorem staysOver
    {serial : Nat}
    (step : BoardStep action board next)
    (before : Over board serial) :
    Over next serial := by
  cases step with
  | same =>
      exact before
  | commit task isKnown =>
      refine ⟨Nat.lt_succ_of_lt before.used, ?_⟩
      rw [TaskBoard.commitTask_mTasklist]
      intro handler member isSerial
      rcases List.mem_append.mp member with isOld | isNew
      · exact before.isDone handler isOld isSerial
      · rw [List.mem_singleton.mp isNew] at isSerial
        have isNumber : board.committed = serial := isSerial
        exact absurd isNumber (Nat.ne_of_gt before.used)
  | done number =>
      refine ⟨before.used, ?_⟩
      intro handler member isSerial
      obtain ⟨old, onBoard, sameKey, isDone⟩ :=
        TaskBoard.mem_markDone member
      have sameSerial : handler.serial = old.serial :=
        congrArg Prod.fst sameKey
      rw [sameSerial] at isSerial
      exact isDone.mpr (Or.inl (before.isDone old onBoard isSerial))
  | remove event =>
      refine ⟨before.used, ?_⟩
      intro handler member
      exact before.isDone handler (List.mem_of_mem_filter member)
  | clock ms =>
      exact ⟨before.used, before.isDone⟩

/-- A handler with an old number was there before. -/
theorem origin
    {handler : TaskTimeoutHandler PendTask}
    (step : BoardStep action board next)
    (member : handler ∈ next.mTasklist)
    (isOld : handler.serial < board.committed) :
    ∃ before ∈ board.mTasklist, before.key = handler.key := by
  cases step with
  | same =>
      exact ⟨handler, member, rfl⟩
  | commit task isKnown =>
      rw [TaskBoard.commitTask_mTasklist] at member
      rcases List.mem_append.mp member with onBoard | isNew
      · exact ⟨handler, onBoard, rfl⟩
      · rw [List.mem_singleton.mp isNew] at isOld
        exact absurd isOld (Nat.lt_irrefl board.committed)
  | done serial =>
      obtain ⟨before, onBoard, sameKey, _⟩ := TaskBoard.mem_markDone member
      exact ⟨before, onBoard, sameKey.symm⟩
  | remove event =>
      exact ⟨handler, List.mem_of_mem_filter member, rfl⟩
  | clock ms =>
      exact ⟨handler, member, rfl⟩

/-- Numbers are used up. -/
theorem committed_le
    (step : BoardStep action board next) :
    board.committed ≤ next.committed := by
  cases step with
  | commit task isKnown =>
      exact Nat.le_succ board.committed
  | _ =>
      exact Nat.le_refl _

end BoardStep

namespace TaskLists

variable {lists : TaskLists} {inTask : Nat → Option Nat}

/-- An activity is not below itself. -/
theorem notMem_below
    {stack : List Nat}
    (distinct : stack.Nodup)
    (activity : Nat) :
    activity ∉ below stack activity := by
  unfold below
  induction stack with
  | nil =>
      exact List.not_mem_nil
  | cons top rest inductionHypothesis =>
      obtain ⟨notInRest, restDistinct⟩ := List.nodup_cons.mp distinct
      by_cases isTop : top = activity
      · rw [isTop] at notInRest ⊢
        simpa using notInRest
      · rw [List.dropWhile_cons_of_pos (by simpa using isTop)]
        exact inductionHypothesis restDistinct

/-- A finished activity is on no stack. -/
theorem WellStacked.notMem_finishActivity
    {activityTask activity : Nat}
    (wellStacked : lists.WellStacked inTask)
    (isTask : inTask activity = some activityTask)
    (task : Nat) :
    activity ∉ (lists.finishActivity activityTask activity).stackOf task := by
  rw [finishActivity_stackOf]
  by_cases isIt : task = activityTask
  · rw [isIt, Function.update_self]
    exact notMem_below (wellStacked.distinct activityTask) activity
  · rw [Function.update_of_ne isIt]
    intro onStack
    have owned := wellStacked.owned task activity onStack
    exact isIt (Option.some.inj (owned.symm.trans isTask))

/-- The foreground is on a stack. -/
theorem exists_stack_of_foreground
    {activity : Nat}
    (isFirst : lists.foreground.head? = some activity) :
    ∃ task ∈ lists.mAllTasks, activity ∈ lists.stackOf task := by
  obtain ⟨active, isActive, onStack⟩ :=
    exists_active_of_mem (List.mem_of_head? isFirst)
  exact ⟨active, List.mem_of_mem_head? isActive, onStack⟩

end TaskLists

namespace TaskStackManager

variable {aims : Aims} {manager next : TaskStackManager}

/-- An activity is taken from its own task. -/
theorem inTask_of_taskOf
    {activity task : Nat}
    (isTask : manager.taskOf activity = some task) :
    manager.setting.inTask activity = some task := by
  obtain ⟨record, isRecord, inTask⟩ := Option.bind_eq_some_iff.mp isTask
  unfold getTask at inTask
  split at inTask
  · rw [inTask_of_record isRecord, Option.some.inj inTask]
  · cases inTask

/-- It can be taken from a task that is listed. -/
theorem taskOf_of_listed
    {activity task : Nat}
    (inTask : manager.setting.inTask activity = some task)
    (listed : task ∈ manager.lists.mAllTasks) :
    manager.taskOf activity = some task := by
  cases isRecord : manager.activities activity with
  | none =>
      simp [Setting.inTask, setting, isRecord] at inTask
  | some record =>
      rw [inTask_of_record isRecord, Option.some.injEq] at inTask
      rw [taskOf, isRecord, Option.bind_some, getTask, inTask]
      exact if_pos (Or.inl listed)

/-- A finished activity is not in front. -/
theorem Sound.notInFront
    {lists : TaskLists}
    {activity nextActivity : Nat}
    (sound : Sound aims manager)
    (isAfter : manager.ListsAfter lists (.finishActivity activity))
    (isFirst : lists.foreground.head? = some nextActivity) :
    activity ≠ nextActivity := by
  rintro rfl
  obtain ⟨task, listed, onStack⟩ :=
    TaskLists.exists_stack_of_foreground isFirst
  have wellStacked := sound.settled.wellStacked
  simp only [ListsAfter] at isAfter
  cases isTask : manager.taskOf activity with
  | none =>
      rw [isTask] at isAfter
      subst isAfter
      have owned := wellStacked.owned task activity onStack
      rw [taskOf_of_listed owned listed] at isTask
      cases isTask
  | some activityTask =>
      rw [isTask] at isAfter
      subst isAfter
      exact wellStacked.notMem_finishActivity (inTask_of_taskOf isTask)
        task onStack

/-- The primitive steps that make no activity wait for itself. -/
def apartParts
    (before : TaskStackManager)
    (action : ManagerAction) : Parts where
  isPart middle primitive :=
    before.IsPart action middle primitive ∧
      ∀ activity,
        primitive ≠ .commit (.delayDestroy activity activity)
  own isOwn notDelay _ :=
    ⟨Or.inl isOwn, fun activity isItself => by
      rw [isItself] at notDelay
      exact absurd notDelay nofun⟩

/-- Nothing makes an activity wait for itself. -/
theorem Sound.tidy
    {action : ManagerAction}
    (sound : Sound aims manager)
    (tidy : TidyBoard manager.mPendTask)
    (isNext : manager.step? action = some next) :
    TidyBoard next.mPendTask := by
  have moves :=
    step?_moves (apartParts manager action) manager action
      (fun isPart notDelay _ =>
        ⟨isPart, fun activity isItself => by
          rw [isItself] at notDelay
          exact absurd notDelay nofun⟩)
      (fun _ _ _ _ _ _ _ => ⟨Or.inl trivial, fun _ => nofun⟩)
      (by
        intro activity lists isFinish isAfter nextActivity middle isFirst
        subst isFinish
        refine ⟨Or.inl trivial, fun other isItself => ?_⟩
        have apart := sound.notInFront isAfter isFirst
        cases isItself
        exact apart rfl)
  obtain ⟨_, _, moved⟩ := moves.of_result isNext
  refine Reachable.invariant tidy ?_ moved.moves
  intro middle primitive later stillTidy isPart isLater
  exact (recordStep?_board isLater).tidy stillTidy isPart.2

/-- Addressed steps are permitted. -/
theorem permitted_of_isAddressed
    (manager : TaskStackManager)
    (action : ManagerAction)
    (addressed : manager.isAddressed action = true) :
    Permitted noAims manager action where
  addressed := addressed
  provided := False.elim
  balanced := False.elim
  inOrder := False.elim

/-- In every run no activity waits for itself. -/
theorem tidy_of_reachable
    {now : Nat}
    (reachable :
      Reachable step? (fun manager action => manager.isAddressed action = true)
        (TaskStackManager.start now) manager) :
    Sound noAims manager ∧ TidyBoard manager.mPendTask := by
  refine reachable.invariant ?_ ?_
  · refine ⟨Sound.start noAims now, ?_⟩
    exact ⟨⟨List.nodup_nil, nofun⟩, nofun⟩
  · intro state action final before addressed isNext
    obtain ⟨sound, tidy⟩ := before
    have permitted := permitted_of_isAddressed state action addressed
    exact
      ⟨(sound.step permitted).of_result isNext, sound.tidy tidy isNext⟩

/-- What is over stays over, whatever happens. -/
theorem over_of_reachable
    {allowed : TaskStackManager → ManagerAction → Prop}
    {serial : Nat}
    (isOver : Over manager.mPendTask serial)
    (reachable : Reachable step? allowed manager next) :
    Over next.mPendTask serial := by
  refine reachable.invariant isOver ?_
  intro state action final before _ isNext
  obtain ⟨_, _, moved⟩ := (step?_moved state action).of_result isNext
  refine Reachable.invariant before ?_ moved.moves
  intro middle primitive later stillOver _ isLater
  exact (recordStep?_board isLater).staysOver stillOver

/-- It never times out. -/
theorem dueTask_of_over
    {serial : Nat}
    (isOver : Over manager.mPendTask serial) :
    manager.dueTask serial = none := by
  rw [dueTask, Option.map_eq_none_iff, List.find?_eq_none]
  intro handler onBoard isDue
  rw [decide_eq_true_eq] at isDue
  have isDone := isOver.isDone handler onBoard isDue.1
  rw [isDue.2.1] at isDone
  exact Bool.false_ne_true isDone

/-! ## Requests and those who wait -/

end TaskStackManager

/-- The activity whose waiting tasks an event triggers. -/
def PendEvent.waitsFor : PendEvent → Option Nat
  | .activityStatusReport _ _ => none
  | .activityWaitResume token => some token
  | .activityDelayDestroy token => some token

/-- A lifecycle task waits for nothing else. -/
theorem PendEvent.equalsLabel_lifeCycle
    {event : PendEvent}
    {token : Nat}
    (isWait : event.waitsFor = some token)
    (activity : Nat) :
    BoardLabels.equalsLabel (PendTask.lifeCycle activity) event = false := by
  cases event with
  | activityStatusReport status reported =>
      cases isWait
  | activityWaitResume resumed =>
      rfl
  | activityDelayDestroy resumed =>
      rfl

/-- The tasks that wait for an activity stay as they are. -/
structure SameWaits
    (token : Nat)
    (board next : TaskBoard PendTask) : Prop where
  numbered : next.Numbered
  pending :
    ∀ event : PendEvent,
      event.waitsFor = some token →
      next.pending event = board.pending event

namespace SameWaits

variable
  {token : Nat}
  {board middle next : TaskBoard PendTask}

theorem refl (numbered : board.Numbered) : SameWaits token board board where
  numbered := numbered
  pending _ _ := rfl

theorem trans
    (former : SameWaits token board middle)
    (latter : SameWaits token middle next) :
    SameWaits token board next where
  numbered := latter.numbered
  pending event isWait :=
    (latter.pending event isWait).trans (former.pending event isWait)

/-- A lifecycle task is committed. -/
theorem commitLifeCycle
    (numbered : board.Numbered)
    (activity msLimitedTime : Nat) :
    SameWaits token board
      (board.commitTask (.lifeCycle activity) msLimitedTime) where
  numbered := numbered.commitTask _ _
  pending _ isWait :=
    TaskBoard.pending_commitTask
      (PendEvent.equalsLabel_lifeCycle isWait activity) msLimitedTime

/-- A task is done that waits for nothing, or for something else. -/
theorem done
    {handler : TaskTimeoutHandler PendTask}
    (numbered : board.Numbered)
    (onBoard : handler ∈ board.mTasklist)
    (isOther :
      ∀ event : PendEvent,
        event.waitsFor = some token →
        BoardLabels.equalsLabel handler.mTask event = false) :
    SameWaits token board (board.markDone handler.serial) where
  numbered := numbered.markDone _
  pending event isWait :=
    numbered.pending_markDone_other onBoard (isOther event isWait)

end SameWaits

namespace TaskStackManager

variable
  {manager next : TaskStackManager}
  {activity token : Nat}

/-- A request after its event. -/
theorem turn_sameWaits
    {toStatus : Status}
    (numbered : manager.mPendTask.Numbered)
    (isNext : manager.turn activity toStatus = some next) :
    SameWaits token manager.mPendTask next.mPendTask := by
  obtain ⟨_, _, turned⟩ := turn_cases isNext
  rw [turned.mPendTask]
  split
  · exact .commitLifeCycle numbered activity requestTimeoutMs
  · exact .refl numbered

/-- An activity is only stopped if no event comes first. -/
theorem executeWaitResume_sameWaits
    {willStopActivity : Nat}
    {fuel : Nat}
    (numbered : manager.mPendTask.Numbered)
    (isNext :
      executeWaitResume (lifecycleTransitionFrom (fuel + 1)) manager
        willStopActivity = some next) :
    SameWaits token manager.mPendTask next.mPendTask := by
  obtain ⟨record, isRecord, isNext⟩ := Option.bind_eq_some_iff.mp isNext
  split at isNext
  · rename_i isPaused
    rw [Tracks.lifecycleTransitionFrom_eq_turn] at isNext
    · exact turn_sameWaits numbered isNext
    · intro found isFound
      rw [isRecord, Option.some.injEq] at isFound
      subst isFound
      simp [isPaused]
  · rw [← Option.some.inj isNext]
    exact .refl numbered

/-- A request, with or without its event. -/
theorem lifecycleTransition_cases
    {toStatus : Status}
    (isNext :
      manager.lifecycleTransition activity toStatus = some next) :
    ∃ middle,
      (middle = manager ∨
          triggerWaitResume (lifecycleTransitionFrom 1) manager activity =
            some middle) ∧
        middle.turn activity toStatus = some next := by
  obtain ⟨record, _, isNext⟩ := Option.bind_eq_some_iff.mp isNext
  dsimp only at isNext
  split at isNext
  · obtain ⟨middle, isMiddle, isNext⟩ := Option.bind_eq_some_iff.mp isNext
    exact ⟨middle, Or.inr isMiddle, isNext⟩
  · exact ⟨manager, Or.inl rfl, isNext⟩

/-- The event of another activity. -/
theorem triggerWaitResume_sameWaits
    (numbered : manager.mPendTask.Numbered)
    (isOther : activity ≠ token)
    (isNext :
      triggerWaitResume (lifecycleTransitionFrom 1) manager activity =
        some next) :
    SameWaits token manager.mPendTask next.mPendTask := by
  unfold triggerWaitResume at isNext
  split at isNext
  · rename_i handler isFirst
    have onBoard : handler ∈ manager.mPendTask.mTasklist :=
      List.mem_of_find?_eq_some isFirst
    have isLabel := equalsLabel_of_firstPending isFirst
    cases isTask : handler.mTask with
    | lifeCycle other =>
        rw [isTask] at isLabel
        exact absurd isLabel Bool.false_ne_true
    | delayDestroy willDestroyActivity waitResumeActivity =>
        rw [isTask] at isLabel
        exact absurd isLabel Bool.false_ne_true
    | waitResume resumeActivity willStopActivity =>
        rw [isTask] at isLabel isNext
        have isActivity : resumeActivity = activity :=
          beq_iff_eq.mp isLabel
        have done :
            SameWaits token manager.mPendTask
              (manager.mPendTask.markDone handler.serial) := by
          refine .done numbered onBoard ?_
          intro event isWait
          rw [isTask]
          cases event with
          | activityStatusReport status reported =>
              rfl
          | activityWaitResume resumed =>
              have isResumed : resumed = token := Option.some.inj isWait
              refine beq_eq_false_iff_ne.mpr ?_
              rw [isActivity, isResumed]
              exact isOther
          | activityDelayDestroy resumed =>
              rfl
        exact done.trans
          (executeWaitResume_sameWaits done.numbered isNext)
  · rw [← Option.some.inj isNext]
    exact .refl numbered

/-- A request of one activity releases none that wait for another. -/
theorem lifecycleTransition_sameWaits
    {toStatus : Status}
    (numbered : manager.mPendTask.Numbered)
    (isOther : activity ≠ token)
    (isNext :
      manager.lifecycleTransition activity toStatus = some next) :
    SameWaits token manager.mPendTask next.mPendTask := by
  obtain ⟨middle, isMiddle, isNext⟩ := lifecycleTransition_cases isNext
  have before : SameWaits token manager.mPendTask middle.mPendTask := by
    rcases isMiddle with isSame | isTriggered
    · rw [isSame]
      exact .refl numbered
    · exact triggerWaitResume_sameWaits numbered isOther isTriggered
  exact before.trans (turn_sameWaits before.numbered isNext)

/-! ## The three events of a report -/

/-- Whether an activity belongs to the SystemUI, if its application lives. -/
def isSystemUI?
    (manager : TaskStackManager)
    (token : Nat) : Option Bool :=
  (manager.getAppRecord token).map fun app => app.2.mIsSystemUI

/-- Applications that stay what they are. -/
theorem isSystemUI?_congr
    (sameApp :
      (next.activities token).map ActivityRecord.mApp =
        (manager.activities token).map ActivityRecord.mApp)
    (sameApps : SameApps manager next) :
    next.isSystemUI? token = manager.isSystemUI? token := by
  unfold isSystemUI? getAppRecord
  cases isRecord : manager.activities token with
  | none =>
      rw [isRecord, Option.map_none, Option.map_eq_none_iff] at sameApp
      rw [sameApp]
      rfl
  | some record =>
      rw [isRecord, Option.map_some, Option.map_eq_some_iff] at sameApp
      obtain ⟨later, isLater, isApp⟩ := sameApp
      rw [isLater]
      simp only [Option.bind_eq_bind, Option.bind_some, isApp]
      cases record.mApp with
      | none =>
          rfl
      | some app =>
          simp only [Option.bind_some]
          cases isOld : manager.apps app with
          | none =>
              have isGone := sameApps.apps.isSome_eq app
              rw [isOld, Option.isSome_none,
                Option.isSome_eq_false_iff, Option.isNone_iff_eq_none]
                at isGone
              rw [isGone]
          | some old =>
              obtain ⟨new, isNew, same⟩ :=
                sameApps.apps.exists_after isOld
              rw [isNew]
              exact congrArg some same.mIsSystemUI

/-- A request keeps the application of every activity. -/
theorem turn_isSystemUI?
    {toStatus : Status}
    (isNext : manager.turn activity toStatus = some next) :
    next.isSystemUI? token = manager.isSystemUI? token := by
  apply isSystemUI?_congr
  · obtain ⟨record, transition, turned⟩ := turn_cases isNext
    obtain ⟨_, sameApp, _⟩ :=
      ActivityRecord.lifecycleTransition?_frame turned.turned
    rw [turned.activities]
    by_cases isThis : token = activity
    · rw [isThis, Function.update_self, turned.isRecord]
      exact congrArg some sameApp
    · rw [Function.update_of_ne isThis]
  · exact .turn isNext

/-- The report itself: a lifecycle task is done, and no wait. -/
theorem reportStatus_sameWaits
    {reported : Nat}
    (numbered : manager.mPendTask.Numbered)
    (isNext :
      manager.eventTrigger
        (.activityStatusReport Status.resumed reported) = some next) :
    SameWaits token manager.mPendTask next.mPendTask ∧
      next.isSystemUI? token = manager.isSystemUI? token := by
  unfold eventTrigger at isNext
  split at isNext
  · rename_i handler isFirst
    have isTask := isLifeCycle_of_firstPending isFirst
    have done :
        SameWaits token manager.mPendTask
          (manager.mPendTask.markDone handler.serial) := by
      refine .done numbered (List.mem_of_find?_eq_some isFirst) ?_
      intro event isWait
      rw [isTask]
      exact PendEvent.equalsLabel_lifeCycle isWait reported
    rw [isTask] at isNext
    obtain ⟨record, isRecord, isNext⟩ := Option.bind_eq_some_iff.mp isNext
    have isRecordBefore : manager.activities reported = some record :=
      isRecord
    rw [if_neg (by decide), lifecycleTransition,
      Tracks.lifecycleTransitionFrom_eq_turn] at isNext
    · refine
        ⟨done.trans (turn_sameWaits done.numbered isNext),
          (turn_isSystemUI? isNext).trans ?_⟩
      apply isSystemUI?_congr
      · by_cases isThis : token = reported
        · rw [isThis, isRecordBefore]
          simp [setRecord, ActivityRecord.setStatus]
        · simp [setRecord, isThis]
      · exact .of_eq rfl rfl
    · intro found isFound
      simp only [setRecord, Function.update_self, Option.some.injEq]
        at isFound
      subst isFound
      simp [ActivityRecord.setStatus]
  · rw [← Option.some.inj isNext]
    exact ⟨.refl numbered, rfl⟩

/-- An event for those who wait: the first is released, and no other. -/
structure Triggers
    (event : PendEvent)
    (token : Nat)
    (board next : TaskBoard PendTask) : Prop where
  numbered : next.Numbered
  first : next.pending event = (board.pending event).tail
  others :
    ∀ other : PendEvent,
      other.waitsFor = some token →
      other ≠ event →
      next.pending other = board.pending other

/-- Nobody waits. -/
theorem Triggers.of_nil
    {event : PendEvent}
    {board : TaskBoard PendTask}
    (numbered : board.Numbered)
    (isPending : board.pending event = []) :
    Triggers event token board board where
  numbered := numbered
  first := by
    rw [isPending]
    rfl
  others _ _ _ := rfl

/-- One task is done, and no other wait changes. -/
theorem Triggers.of_cons
    {event : PendEvent}
    {board later : TaskBoard PendTask}
    {handler : TaskTimeoutHandler PendTask}
    {rest : List (TaskTimeoutHandler PendTask)}
    (numbered : board.Numbered)
    (isPending : board.pending event = handler :: rest)
    (isWait : event.waitsFor = some token)
    (isOther :
      ∀ other : PendEvent,
        other.waitsFor = some token →
        other ≠ event →
        BoardLabels.equalsLabel handler.mTask other = false)
    (same : SameWaits token (board.markDone handler.serial) later) :
    Triggers event token board later where
  numbered := same.numbered
  first := by
    rw [same.pending event isWait,
      numbered.pending_markDone_first isPending, isPending]
    rfl
  others other isOtherWait isDifferent := by
    have onBoard : handler ∈ board.mTasklist := by
      apply List.mem_of_mem_filter
      rw [← TaskBoard.pending, isPending]
      exact List.mem_cons_self
    rw [same.pending other isOtherWait,
      numbered.pending_markDone_other onBoard
        (isOther other isOtherWait isDifferent)]

/-- An event executes the first task that it finds pending. -/
theorem eventTrigger_cases
    {event : PendEvent}
    (isNext : manager.eventTrigger event = some next) :
    (manager.mPendTask.pending event = [] ∧ next = manager) ∨
      ∃ handler rest,
        manager.mPendTask.pending event = handler :: rest ∧
          BoardLabels.equalsLabel handler.mTask event = true ∧
          (manager.done handler.serial).execute event handler.mTask =
            some next := by
  unfold eventTrigger at isNext
  cases isFirst : manager.mPendTask.firstPending event with
  | none =>
      rw [isFirst] at isNext
      rw [TaskBoard.firstPending_eq_head?, List.head?_eq_none_iff]
        at isFirst
      exact Or.inl ⟨isFirst, (Option.some.inj isNext).symm⟩
  | some handler =>
      rw [isFirst] at isNext
      have isLabel := equalsLabel_of_firstPending isFirst
      rw [TaskBoard.firstPending_eq_head?, List.head?_eq_some_iff]
        at isFirst
      obtain ⟨rest, isPending⟩ := isFirst
      exact Or.inr ⟨handler, rest, isPending, isLabel, isNext⟩

/-- The event for those who will stop an activity. -/
theorem eventTrigger_waitResume
    (numbered : manager.mPendTask.Numbered)
    (isNext :
      manager.eventTrigger (.activityWaitResume token) = some next) :
    Triggers (.activityWaitResume token) token manager.mPendTask
      next.mPendTask := by
  rcases eventTrigger_cases isNext with
    ⟨isPending, isSame⟩ | ⟨handler, rest, isPending, isLabel, executed⟩
  · rw [isSame]
    exact .of_nil numbered isPending
  · cases isTask : handler.mTask with
    | lifeCycle other =>
        rw [isTask] at isLabel
        exact absurd isLabel Bool.false_ne_true
    | delayDestroy willDestroyActivity waitResumeActivity =>
        rw [isTask] at isLabel
        exact absurd isLabel Bool.false_ne_true
    | waitResume resumeActivity willStopActivity =>
        rw [isTask] at executed
        refine .of_cons numbered isPending rfl ?_
          (executeWaitResume_sameWaits (numbered.markDone _) executed)
        intro other isWait isDifferent
        rw [isTask]
        cases other with
        | activityStatusReport status reported =>
            cases isWait
        | activityWaitResume resumed =>
            rw [Option.some.inj isWait] at isDifferent
            exact absurd rfl isDifferent
        | activityDelayDestroy resumed =>
            rfl

/-- The event for the activity that will be destroyed. -/
theorem eventTrigger_delayDestroy
    (numbered : manager.mPendTask.Numbered)
    (apart :
      ∀ handler ∈
        manager.mPendTask.pending (PendEvent.activityDelayDestroy token),
        handler.mTask ≠ .delayDestroy token token)
    (isNext :
      manager.eventTrigger (.activityDelayDestroy token) = some next) :
    Triggers (.activityDelayDestroy token) token manager.mPendTask
      next.mPendTask := by
  rcases eventTrigger_cases isNext with
    ⟨isPending, isSame⟩ | ⟨handler, rest, isPending, isLabel, executed⟩
  · rw [isSame]
    exact .of_nil numbered isPending
  · have notItself := apart handler (by rw [isPending]; exact .head _)
    cases isTask : handler.mTask with
    | lifeCycle other =>
        rw [isTask] at isLabel
        exact absurd isLabel Bool.false_ne_true
    | waitResume resumeActivity willStopActivity =>
        rw [isTask] at isLabel
        exact absurd isLabel Bool.false_ne_true
    | delayDestroy willDestroyActivity waitResumeActivity =>
        rw [isTask] at executed notItself isLabel
        have isToken : waitResumeActivity = token := beq_iff_eq.mp isLabel
        have isOther : willDestroyActivity ≠ token := by
          rintro rfl
          rw [isToken] at notItself
          exact notItself rfl
        refine .of_cons numbered isPending rfl ?_
          (lifecycleTransition_sameWaits (numbered.markDone _) isOther
            executed)
        intro other isWait isDifferent
        rw [isTask]
        cases other with
        | activityStatusReport status reported =>
            cases isWait
        | activityWaitResume resumed =>
            rfl
        | activityDelayDestroy resumed =>
            rw [Option.some.inj isWait] at isDifferent
            exact absurd rfl isDifferent

/-! ## Who is released -/

/-- The tasks that are pending until an activity is resumed. -/
def waitsOn
    (manager : TaskStackManager)
    (token : Nat) : List (TaskTimeoutHandler PendTask) :=
  manager.mPendTask.pending (PendEvent.activityWaitResume token) ++
    manager.mPendTask.pending (PendEvent.activityDelayDestroy token)

/-- None of them is pending afterwards, and so none ever times out. -/
structure ReleasesAll
    (manager : TaskStackManager)
    (token : Nat)
    (next : TaskStackManager) : Prop where
  nonePending :
    ∀ waiting ∈ manager.waitsOn token,
      ∀ handler ∈ next.mPendTask.mTasklist,
        handler.serial = waiting.serial →
        handler.mIsDone = true
  noneTimesOut :
    ∀ waiting ∈ manager.waitsOn token,
      ∀ later,
        Reachable step? (fun _ _ => True) next later →
        later.dueTask waiting.serial = none

/--
At most one task of each kind waits for the activity; nothing waits if the
service does not know the activity, or its application has no record.
-/
def mayReleaseAll
    (manager : TaskStackManager)
    (token : Nat) : Bool :=
  if token ∈ manager.mActivityMap ∧ (manager.isSystemUI? token).isSome then
    (manager.mPendTask.pending
          (PendEvent.activityWaitResume token)).length ≤ 1 ∧
      (manager.mPendTask.pending
          (PendEvent.activityDelayDestroy token)).length ≤ 1
  else
    (manager.waitsOn token).isEmpty

/-- A step keeps the numbers of tasks for those tasks. -/
theorem origin_of_step
    {action : ManagerAction}
    (isNext : manager.step? action = some next) :
    manager.mPendTask.committed ≤ next.mPendTask.committed ∧
      ∀ handler ∈ next.mPendTask.mTasklist,
        handler.serial < manager.mPendTask.committed →
        ∃ before ∈ manager.mPendTask.mTasklist,
          before.key = handler.key := by
  obtain ⟨_, _, moved⟩ := (step?_moved manager action).of_result isNext
  refine Reachable.invariant ?_ ?_ moved.moves
  · exact ⟨Nat.le_refl _, fun handler member _ => ⟨handler, member, rfl⟩⟩
  · intro middle primitive later before _ isLater
    have step := recordStep?_board isLater
    refine ⟨Nat.le_trans before.1 step.committed_le, ?_⟩
    intro handler member isOld
    obtain ⟨old, onBoard, sameKey⟩ :=
      step.origin member (Nat.lt_of_lt_of_le isOld before.1)
    have sameSerial : old.serial = handler.serial :=
      congrArg Prod.fst sameKey
    obtain ⟨first, isFirst, isSame⟩ :=
      before.2 old onBoard (by rw [sameSerial]; exact isOld)
    exact ⟨first, isFirst, isSame.trans sameKey⟩

/-- The events of a standard application, if there is one. -/
theorem reportResumed_cases
    (notSystemUI : manager.isSystemUI? token ≠ some true)
    (isNext : manager.reportResumed token = some next) :
    ((manager.isSystemUI? token).isSome = false ∧ next = manager) ∨
      ((manager.isSystemUI? token).isSome = true ∧
        ∃ middle,
          manager.eventTrigger (.activityWaitResume token) =
              some middle ∧
            middle.eventTrigger (.activityDelayDestroy token) =
              some next) := by
  unfold isSystemUI? at notSystemUI ⊢
  unfold reportResumed at isNext
  cases isApp : manager.getAppRecord token with
  | none =>
      rw [isApp] at isNext
      exact Or.inl ⟨rfl, (Option.some.inj isNext).symm⟩
  | some found =>
      rw [isApp] at isNext notSystemUI
      have isStandard : found.2.mIsSystemUI = false := by
        simpa using notSystemUI
      simp only [isStandard, Bool.false_eq_true, if_false] at isNext
      exact Or.inr ⟨rfl, Option.bind_eq_some_iff.mp isNext⟩

/-- What the report does to those who wait. -/
theorem reportResumed_triggers
    (tidy : TidyBoard manager.mPendTask)
    (notSystemUI : manager.isSystemUI? token ≠ some true)
    (isNext :
      manager.reportActivityStatus token Status.resumed = some next) :
    let waitResume := PendEvent.activityWaitResume token
    let delayDestroy := PendEvent.activityDelayDestroy token
    if token ∈ manager.mActivityMap ∧
        (manager.isSystemUI? token).isSome then
      next.mPendTask.pending waitResume =
          (manager.mPendTask.pending waitResume).tail ∧
        next.mPendTask.pending delayDestroy =
          (manager.mPendTask.pending delayDestroy).tail
    else
      next.mPendTask.pending waitResume =
          manager.mPendTask.pending waitResume ∧
        next.mPendTask.pending delayDestroy =
          manager.mPendTask.pending delayDestroy := by
  dsimp only
  unfold reportActivityStatus at isNext
  by_cases known : token ∈ manager.mActivityMap
  · rw [if_pos known] at isNext
    obtain ⟨reported, isReported, isNext⟩ :=
      Option.bind_eq_some_iff.mp isNext
    rw [if_pos rfl] at isNext
    have reports :
        SameWaits token manager.mPendTask reported.mPendTask ∧
          reported.isSystemUI? token = manager.isSystemUI? token :=
      reportStatus_sameWaits tidy.numbered isReported
    obtain ⟨same, sameApp⟩ := reports
    rw [← sameApp] at notSystemUI ⊢
    rw [← same.pending (.activityWaitResume token) rfl,
      ← same.pending (.activityDelayDestroy token) rfl]
    rcases reportResumed_cases notSystemUI isNext with
      ⟨noApp, isSame⟩ | ⟨hasApp, middle, isMiddle, isNext⟩
    · rw [if_neg (by simp [noApp]), isSame]
      exact ⟨rfl, rfl⟩
    · rw [if_pos ⟨known, hasApp⟩]
      have stops := eventTrigger_waitResume same.numbered isMiddle
      have sameDelays :
          middle.mPendTask.pending
              (PendEvent.activityDelayDestroy token) =
            manager.mPendTask.pending
              (PendEvent.activityDelayDestroy token) :=
        (stops.others (.activityDelayDestroy token) rfl nofun).trans
          (same.pending (.activityDelayDestroy token) rfl)
      have destroys : Triggers (.activityDelayDestroy token) token
          middle.mPendTask next.mPendTask := by
        refine eventTrigger_delayDestroy stops.numbered ?_ isNext
        intro handler member
        rw [sameDelays] at member
        exact tidy.apart handler (List.mem_of_mem_filter member) token
      refine ⟨?_, ?_⟩
      · rw [destroys.others (.activityWaitResume token) rfl nofun,
          stops.first]
      · rw [destroys.first,
          stops.others (.activityDelayDestroy token) rfl nofun]
  · rw [if_neg known] at isNext
    rw [if_neg (fun isThere => known isThere.1), Option.some.inj isNext]
    exact ⟨rfl, rfl⟩

/-- A task is over that is not among the pending ones of its event. -/
theorem over_of_notPending
    {action : ManagerAction}
    {event : PendEvent}
    {waiting : TaskTimeoutHandler PendTask}
    (numbered : manager.mPendTask.Numbered)
    (isNext : manager.step? action = some next)
    (member : waiting ∈ manager.mPendTask.pending event)
    (isEmpty : next.mPendTask.pending event = []) :
    Over next.mPendTask waiting.serial := by
  obtain ⟨onBoard, isPending⟩ := List.mem_filter.mp member
  have isUsed : waiting.serial < manager.mPendTask.committed :=
    numbered.used _ (List.mem_map_of_mem onBoard)
  obtain ⟨moreNumbers, origin⟩ := origin_of_step isNext
  refine ⟨Nat.lt_of_lt_of_le isUsed moreNumbers, ?_⟩
  intro handler handlerOn sameSerial
  by_contra notDone
  obtain ⟨before, beforeOn, sameKey⟩ :=
    origin handler handlerOn (by rw [sameSerial]; exact isUsed)
  have isWaiting : before = waiting :=
    numbered.eq_of_serial beforeOn onBoard
      ((congrArg Prod.fst sameKey).trans sameSerial)
  have sameTask : waiting.mTask = handler.mTask := by
    rw [← isWaiting]
    exact congrArg (·.2.1) sameKey
  have stillPending : handler ∈ next.mPendTask.pending event := by
    refine List.mem_filter.mpr ⟨handlerOn, ?_⟩
    rw [TaskTimeoutHandler.pendingFor, Bool.and_eq_true] at isPending ⊢
    rw [← sameTask, Bool.eq_false_iff.mpr notDone]
    exact ⟨rfl, isPending.2⟩
  rw [isEmpty] at stillPending
  exact absurd stillPending List.not_mem_nil

/-- A task that is pending afterwards is not released. -/
theorem ReleasesAll.notMem
    {event : PendEvent}
    {waiting : TaskTimeoutHandler PendTask}
    (releases : manager.ReleasesAll token next)
    (waits : waiting ∈ manager.waitsOn token) :
    waiting ∉ next.mPendTask.pending event := by
  intro member
  obtain ⟨onBoard, isPending⟩ := List.mem_filter.mp member
  have isDone := releases.nonePending waiting waits waiting onBoard rfl
  rw [TaskTimeoutHandler.pendingFor, isDone, Bool.not_true,
    Bool.false_and] at isPending
  exact Bool.false_ne_true isPending

/-- All are released if the events leave nothing pending, and only then. -/
theorem releasesAll_iff_pending
    {action : ManagerAction}
    (numbered : manager.mPendTask.Numbered)
    (isNext : manager.step? action = some next)
    (fewer :
      ∀ event : PendEvent,
        event.waitsFor = some token →
        next.mPendTask.pending event ⊆ manager.mPendTask.pending event) :
    manager.ReleasesAll token next ↔
      next.mPendTask.pending (PendEvent.activityWaitResume token) = [] ∧
        next.mPendTask.pending (PendEvent.activityDelayDestroy token) =
          [] := by
  constructor
  · intro releases
    constructor
    · rw [List.eq_nil_iff_forall_not_mem]
      intro waiting member
      refine releases.notMem (List.mem_append_left _ ?_) member
      exact fewer _ rfl member
    · rw [List.eq_nil_iff_forall_not_mem]
      intro waiting member
      refine releases.notMem (List.mem_append_right _ ?_) member
      exact fewer _ rfl member
  · rintro ⟨noneStops, noneDestroys⟩
    have isOver :
        ∀ waiting ∈ manager.waitsOn token,
          Over next.mPendTask waiting.serial := by
      intro waiting member
      rcases List.mem_append.mp member with stops | destroys
      · exact over_of_notPending numbered isNext stops noneStops
      · exact over_of_notPending numbered isNext destroys noneDestroys
    refine ⟨fun waiting member => (isOver waiting member).isDone, ?_⟩
    intro waiting member later reachable
    exact dueTask_of_over
      (over_of_reachable (isOver waiting member) reachable)

/-- A list without a second element. -/
private theorem tail_eq_nil_iff
    {α : Type}
    (elements : List α) :
    elements.tail = [] ↔ elements.length ≤ 1 := by
  rw [← List.length_eq_zero_iff, List.length_tail]
  omega

/--
In every reachable state, the report that an activity of a standard
application is resumed releases everyone who waits for it exactly if at most
one task of each kind does.
-/
theorem reportResumed_releasesAll_iff
    {now : Nat}
    (reachable :
      Reachable step?
        (fun manager action => manager.isAddressed action = true)
        (TaskStackManager.start now) manager)
    (notSystemUI : manager.isSystemUI? token ≠ some true)
    (isNext :
      manager.reportActivityStatus token Status.resumed = some next) :
    manager.ReleasesAll token next ↔
      manager.mayReleaseAll token = true := by
  obtain ⟨_, tidy⟩ := tidy_of_reachable reachable
  have triggers := reportResumed_triggers tidy notSystemUI isNext
  dsimp only at triggers
  have stepped :
      manager.step? (.reportActivityStatus token Status.resumed) =
        some next :=
    isNext
  unfold mayReleaseAll
  by_cases isTriggered :
      token ∈ manager.mActivityMap ∧
        (manager.isSystemUI? token).isSome = true
  · rw [if_pos isTriggered] at triggers ⊢
    obtain ⟨stops, destroys⟩ := triggers
    rw [releasesAll_iff_pending tidy.numbered stepped, stops, destroys,
      tail_eq_nil_iff, tail_eq_nil_iff, decide_eq_true_eq]
    intro event isWait
    cases event with
    | activityStatusReport status reported =>
        cases isWait
    | activityWaitResume resumed =>
        rw [Option.some.inj isWait, stops]
        exact fun _ => List.mem_of_mem_tail
    | activityDelayDestroy resumed =>
        rw [Option.some.inj isWait, destroys]
        exact fun _ => List.mem_of_mem_tail
  · rw [if_neg isTriggered] at triggers ⊢
    obtain ⟨stops, destroys⟩ := triggers
    rw [releasesAll_iff_pending tidy.numbered stepped, stops, destroys,
      waitsOn, List.isEmpty_iff, List.append_eq_nil_iff]
    intro event isWait
    cases event with
    | activityStatusReport status reported =>
        cases isWait
    | activityWaitResume resumed =>
        rw [Option.some.inj isWait, stops]
        exact fun _ member => member
    | activityDelayDestroy resumed =>
        rw [Option.some.inj isWait, destroys]
        exact fun _ member => member

/-- A home task, and another one that is about to be resumed. -/
def openingClock : List ManagerAction :=
  [.attachApplication "home" false 10,
    .attachApplication "clock" false 11,
    .pushNewActivity "home/Main" 0 0 ⟨"home", "", "", 0⟩ 0,
    .reportActivityStatus 0 Status.created,
    .reportActivityStatus 0 Status.started,
    .reportActivityStatus 0 Status.resumed,
    .pushNewActivity "clock/Main" 1 1 ⟨"clock", "", "", 0⟩ 0,
    .reportActivityStatus 0 Status.paused,
    .reportActivityStatus 1 Status.created,
    .reportActivityStatus 1 Status.started]

/-- The home task waits for it. -/
def openedClock : Option TaskStackManager :=
  run? step? (TaskStackManager.start 0) openingClock

theorem openedClock_releasesAll_iff :
    (openedClock.get rfl).ReleasesAll 1
        (((openedClock.get rfl).reportActivityStatus 1
          Status.resumed).get rfl) ↔
      (openedClock.get rfl).mayReleaseAll 1 = true := by
  have accepted : openedClock = some (openedClock.get rfl) :=
    (Option.some_get _).symm
  exact reportResumed_releasesAll_iff
    (Reachable.of_run? (by decide) accepted) (by decide)
    (Option.some_get _).symm

/-- Back home and to the clock again, before it has answered. -/
def reopenedClock : Option TaskStackManager :=
  run? step? (TaskStackManager.start 0)
    (openingClock ++
      [.switchTaskToActive 0 ⟨"home", "", "", 0⟩,
        .switchTaskToActive 1 ⟨"clock", "", "", 0⟩])

/-- Two tasks wait for the clock, and one of them goes on waiting. -/
theorem reopenedClock_not_releasesAll :
    Reachable step?
        (fun manager action => manager.isAddressed action = true)
        (TaskStackManager.start 0) (reopenedClock.get rfl) ∧
      (reopenedClock.get rfl).isSystemUI? 1 = some false ∧
      ¬ (reopenedClock.get rfl).ReleasesAll 1
        (((reopenedClock.get rfl).reportActivityStatus 1
          Status.resumed).get rfl) := by
  have accepted : reopenedClock = some (reopenedClock.get rfl) :=
    (Option.some_get _).symm
  refine
    ⟨Reachable.of_run? (by decide) accepted, by decide, ?_⟩
  intro releases
  have stillPending :
      ∃ waiting ∈ (reopenedClock.get rfl).waitsOn 1,
        waiting ∈
          TaskBoard.pending
            (((reopenedClock.get rfl).reportActivityStatus 1
              Status.resumed).get rfl).mPendTask
            (PendEvent.activityWaitResume 1) := by
    decide
  obtain ⟨waiting, waits, member⟩ := stillPending
  exact releases.notMem waits member

end TaskStackManager

end ActivityManager
