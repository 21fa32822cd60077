import ActivityManager.TaskManagerMoves
import ActivityManager.TaskManagerRules

/-!
# The steps of the service as runs of primitive steps

Reports, timeouts and the end of a process are runs of the record machine as
well.  They only ever delete activities from the lists of tasks.
-/

namespace ActivityManager

open PartialProgram
open StepSystem (Reachable)

namespace TaskStackManager

/--
The primitive steps that a step of the service consists of.  What begins a
step happens in the state before it.
-/
def IsPart
    (before : TaskStackManager)
    (action : ManagerAction)
    (manager : TaskStackManager)
    (primitive : RecordAction) : Prop :=
  manager.IsOwn primitive ∨
    match action with
    | .pushNewActivity name app targetStack intent _ =>
        (manager = before ∧
            primitive = .createActivity name targetStack intent) ∨
          primitive = .setAppThread before.nextActivity app
    | .reportActivityStatus token status =>
        (manager = before ∧ primitive = .statusReport token status) ∨
          primitive = .reportDestroyed token ∨
          primitive = .activityGone token
    | .timeout serial =>
        manager = before ∧
          ∃ activity, primitive = .giveUp serial activity
    | .procAppTerminated app =>
        (manager = before ∧ primitive = .markStopped app) ∨
          (∃ activity, primitive = .abnormalExit activity) ∨
          ∃ activity, primitive = .forget activity
    | .clockAdvances ms =>
        manager = before ∧ primitive = .clockAdvances ms
    | .attachApplication packageName systemui pid =>
        manager = before ∧
          primitive = .attachApplication packageName systemui pid
    | .deleteAppInfo app =>
        manager = before ∧ primitive = .deleteAppInfo app
    | .holdTasks tasks =>
        manager = before ∧ primitive = .holdTasks tasks
    | _ =>
        False

/-- The parts of a step, which may be those of an operation. -/
def partsOf
    (before : TaskStackManager)
    (action : ManagerAction) : Parts where
  isPart := IsPart before action
  own isOwn _ _ := Or.inl isOwn

/-- The task that an activity can be taken from. -/
def taskOf
    (manager : TaskStackManager)
    (activity : Nat) : Option Nat :=
  (manager.activities activity).bind manager.getTask

/-- The lists that a step of the service arrives in. -/
def ListsAfter
    (manager : TaskStackManager)
    (lists : TaskLists) :
    ManagerAction → Prop
  | .pushNewActivity _ _ targetStack _ startFlag =>
      lists =
        manager.lists.pushNewActivity targetStack manager.nextActivity
          startFlag
  | .turnToActivity targetStack activity _ startFlag =>
      lists = manager.lists.turnToActivity targetStack activity startFlag
  | .switchTaskToActive targetStack _ =>
      lists = manager.lists.switchTaskToActive targetStack
  | .moveTaskToBackground targetStack =>
      lists = manager.lists.moveTaskToBackground targetStack
  | .finishActivity activity =>
      lists =
        match manager.taskOf activity with
        | some activityTask =>
            manager.lists.finishActivity activityTask activity
        | none =>
            manager.lists
  | _ =>
      manager.lists.Deletes lists

/-- A run of primitive steps that has deleted some activities. -/
def Deleted
    (parts : Parts)
    (before : TaskStackManager)
    (lists : TaskLists)
    (manager : TaskStackManager) : Prop :=
  ∃ others, lists.Deletes others ∧ Moved parts before others manager

variable
  {parts : Parts}
  {before manager : TaskStackManager}
  {lists : TaskLists}

/-- Moves that delete nothing. -/
theorem Moved.deleted
    (moved : Moved parts before lists manager) :
    Deleted parts before lists manager :=
  ⟨lists, .refl, moved⟩

namespace Deleted

/-- Something that keeps whatever lists there are. -/
theorem onward
    {result : Option TaskStackManager}
    (deleted : Deleted parts before lists manager)
    (rule :
      ∀ others,
        Moved parts before others manager →
        Spec True result (Moved parts before others)) :
    Spec True result (Deleted parts before lists) := by
  obtain ⟨others, deletes, moved⟩ := deleted
  exact (rule others moved).mono fun _ next => ⟨others, deletes, next⟩

/-- One more primitive step, which keeps the lists. -/
theorem step
    {next : TaskStackManager}
    (deleted : Deleted parts before lists manager)
    (action : RecordAction)
    (isPart : parts.isPart manager action)
    (stepped : manager.recordStep? action = some next)
    (sameLists : next.lists = manager.lists) :
    Deleted parts before lists next := by
  obtain ⟨others, deletes, moved⟩ := deleted
  exact ⟨others, deletes, moved.step action isPart stepped sameLists⟩

/-- An activity is deleted, if it has a task. -/
theorem deleteActivity
    (deleted : Deleted parts before lists manager)
    (activity : Nat) :
    Spec True (manager.deleteActivity activity)
      (Deleted parts before lists) := by
  obtain ⟨others, deletes, moved⟩ := deleted
  cases isRecord : manager.activities activity with
  | none =>
      rw [TaskStackManager.deleteActivity, isRecord]
      trivial
  | some record =>
      cases inTask : manager.getTask record with
      | none =>
          rw [TaskStackManager.deleteActivity, isRecord]
          dsimp only [Option.bind_eq_bind, Option.bind_some]
          rw [inTask]
          exact ⟨others, deletes, moved⟩
      | some task =>
          refine (moved.deleteActivity isRecord inTask).mono ?_
          intro next movedNext
          exact ⟨_, deletes.tail ⟨task, activity, rfl⟩, movedNext⟩

end Deleted

/-! ## Events -/

/-- What the handler that an event meets first waits for. -/
theorem equalsLabel_of_firstPending
    {event : PendEvent}
    {handler : TaskTimeoutHandler PendTask}
    (isFirst : manager.mPendTask.firstPending event = some handler) :
    BoardLabels.equalsLabel handler.mTask event = true := by
  have pending := List.find?_some isFirst
  rw [TaskTimeoutHandler.pendingFor, Bool.and_eq_true] at pending
  exact pending.2

/-- A report of a status meets a lifecycle task of its activity. -/
theorem isLifeCycle_of_firstPending
    {status : Status}
    {token : Nat}
    {handler : TaskTimeoutHandler PendTask}
    (isFirst :
      manager.mPendTask.firstPending
        (PendEvent.activityStatusReport status token) = some handler) :
    handler.mTask = .lifeCycle token := by
  have isLabel := equalsLabel_of_firstPending isFirst
  cases isTask : handler.mTask with
  | lifeCycle activity =>
      rw [isTask] at isLabel
      have isToken : activity = token := by
        simpa [BoardLabels.equalsLabel] using isLabel
      rw [isToken]
  | waitResume resumeActivity willStopActivity =>
      rw [isTask] at isLabel
      exact absurd isLabel Bool.false_ne_true
  | delayDestroy willDestroyActivity waitResumeActivity =>
      rw [isTask] at isLabel
      exact absurd isLabel Bool.false_ne_true

/-- An activity is asked again for what it is to be. -/
theorem Moved.repeatTarget
    {activity : Nat}
    {record : ActivityRecord}
    (moved : Moved parts before lists manager)
    (isRecord : manager.activities activity = some record) :
    Spec True
      (manager.lifecycleTransition activity record.mTargetStatus)
      (Moved parts before lists) := by
  have noEvent :
      ∀ found,
        manager.activities activity = some found →
        ¬ (found.mTargetStatus = Status.resumed ∧
          record.mTargetStatus > Status.resumed ∧
          found.mStatus < Status.resuming) := by
    intro found isFound
    rw [isRecord] at isFound
    rw [← Option.some.inj isFound]
    rintro ⟨isResumed, isLater, _⟩
    rw [isResumed] at isLater
    exact Int.lt_irrefl _ isLater
  rw [lifecycleTransition, Tracks.lifecycleTransitionFrom_eq_turn noEvent]
  exact moved.turn (parts.own (Or.inr ⟨record, isRecord, rfl⟩) rfl rfl)

/-- What follows once `ActivityLifeCycleTask::execute` has stored a report. -/
theorem Moved.storeReport
    {token : Nat}
    {status : Status}
    {handler : TaskTimeoutHandler PendTask}
    {record : ActivityRecord}
    (isFirst :
      manager.mPendTask.firstPending
        (PendEvent.activityStatusReport status token) = some handler)
    (isRecord : manager.activities token = some record)
    (stored :
      Moved parts before lists
        ((manager.done handler.serial).setRecord token
          (TaskStackManager.storeReport record status))) :
    Spec True
      (manager.eventTrigger (.activityStatusReport status token))
      (Deleted parts before lists) := by
  unfold eventTrigger
  rw [isFirst]
  dsimp only
  rw [isLifeCycle_of_firstPending isFirst]
  refine Spec.bind_known
    (fun mustNotFail => absurd trivial mustNotFail) ?_
  intro found isFound
  have sameRecord : found = record :=
    Option.some.inj (Eq.trans (Eq.symm isFound) isRecord)
  subst sameRecord
  unfold TaskStackManager.storeReport at stored
  split
  · rename_i isError
    rw [if_pos isError] at stored
    exact stored.deleted.deleteActivity token
  · rename_i notError
    rw [if_neg notError] at stored
    have isStored :
        ((manager.done handler.serial).setRecord token
            (found.setStatus status)).activities token =
          some (found.setStatus status) :=
      Function.update_self _ _ _
    have repeated := stored.repeatTarget isStored
    exact repeated.mono fun _ next => next.deleted

/-- `ActivityLifeCycleTask::execute` for a report that is awaited. -/
theorem Moved.statusReport
    {token : Nat}
    {status : Status}
    (moved : Moved parts before lists manager)
    (isPart : parts.isPart manager (.statusReport token status))
    (known : token ∈ manager.mActivityMap) :
    Spec True
      (manager.eventTrigger (.activityStatusReport status token))
      (Deleted parts before lists) := by
  cases isFirst :
      manager.mPendTask.firstPending
        (PendEvent.activityStatusReport status token) with
  | none =>
      unfold eventTrigger
      rw [isFirst]
      exact moved.deleted
  | some handler =>
      cases isRecord : manager.activities token with
      | none =>
          unfold eventTrigger
          rw [isFirst]
          dsimp only
          rw [isLifeCycle_of_firstPending isFirst]
          refine Spec.bind_known
            (fun mustNotFail => absurd trivial mustNotFail) ?_
          intro record isFound
          exact absurd (isRecord.symm.trans isFound) nofun
      | some record =>
          have stepped :
              manager.recordStep? (.statusReport token status) =
                some
                  ((manager.done handler.serial).setRecord token
                    (TaskStackManager.storeReport record status)) := by
            simp [recordStep?, TaskStackManager.statusReport, known,
              isFirst, isRecord]
          exact
            Moved.storeReport isFirst isRecord
              (moved.step _ isPart stepped rfl)

/-- The events of a resumed activity. -/
theorem Moved.triggerWait
    {event : PendEvent}
    (moved : Moved parts before lists manager)
    (isResumed :
      (∃ token, event = .activityWaitResume token) ∨
        ∃ token, event = .activityDelayDestroy token) :
    Spec True (manager.eventTrigger event) (Moved parts before lists) := by
  unfold eventTrigger
  split
  · rename_i handler isFirst
    have isLabel := equalsLabel_of_firstPending isFirst
    cases isTask : handler.mTask with
    | lifeCycle activity =>
        rw [isTask] at isLabel
        rcases isResumed with ⟨token, isEvent⟩ | ⟨token, isEvent⟩
        · rw [isEvent] at isLabel
          exact absurd isLabel Bool.false_ne_true
        · rw [isEvent] at isLabel
          exact absurd isLabel Bool.false_ne_true
    | waitResume resumeActivity willStopActivity =>
        have done := moved.complete isFirst (by rw [isTask]; rfl)
        exact done.executeWaitResume
          (fun activity => done.request (by simp [requestedStatuses])
            activity) willStopActivity
    | delayDestroy willDestroyActivity waitResumeActivity =>
        have done := moved.complete isFirst (by rw [isTask]; rfl)
        exact done.destroy willDestroyActivity
  · exact moved

/-! ## Timeouts -/

/-- A task that is due is pending. -/
theorem isPending_of_dueTask
    {serial : Nat}
    {task : PendTask}
    (isDue : manager.dueTask serial = some task) :
    manager.isPending serial task = true := by
  obtain ⟨handler, isFound, isTask⟩ := Option.map_eq_some_iff.mp isDue
  have onBoard := List.mem_of_find?_eq_some isFound
  have isIt := List.find?_some isFound
  rw [decide_eq_true_eq] at isIt
  refine List.any_eq_true.mpr ⟨handler, onBoard, ?_⟩
  exact decide_eq_true ⟨isIt.1, isIt.2.1, isTask⟩

/-- `abnormalExit` leaves the lists alone. -/
theorem abnormalExit_lists
    {next : TaskStackManager}
    {activity : Nat}
    (isNext : manager.abnormalExit activity = some next) :
    next.lists = manager.lists := by
  obtain ⟨record, _, hasEnded | ⟨_, _, _, _, hasEnded⟩⟩ :=
    abnormalExit_cases isNext
  · rw [hasEnded.2]
    rfl
  · rw [hasEnded]
    rfl

/-- `checkTimeout` for one task. -/
theorem Moved.timeout
    (moved : Moved parts before lists manager)
    {serial : Nat}
    (isPart :
      ∀ activity, parts.isPart manager (.giveUp serial activity)) :
    Spec True (manager.timeout serial) (Deleted parts before lists) := by
  refine Spec.bind_known (fun mustNotFail => absurd trivial mustNotFail) ?_
  intro task isDue
  have pending := isPending_of_dueTask isDue
  cases task with
  | lifeCycle activity =>
      refine Spec.bind_known
        (fun mustNotFail => absurd trivial mustNotFail) ?_
      intro record isRecord
      have isRecordBefore : manager.activities activity = some record :=
        isRecord
      split
      · rename_i isThere
        have stepped :
            manager.recordStep? (.giveUp serial activity) =
              some (manager.done serial) := by
          simp [recordStep?, giveUp, pending, isRecordBefore, isThere]
        exact (moved.step _ (isPart activity) stepped rfl).deleted
      · rename_i notThere
        have stepped :
            manager.recordStep? (.giveUp serial activity) =
              (manager.done serial).abnormalExit activity := by
          simp [recordStep?, giveUp, pending, isRecordBefore, notThere]
        have exited :=
          moved.spec _ (isPart activity) stepped
            fun next isNext =>
              (abnormalExit_lists isNext :
                next.lists = (manager.done serial).lists)
        refine exited.bind ?_
        intro next movedNext
        exact movedNext.deleted.deleteActivity activity
  | waitResume resumeActivity willStopActivity =>
      have done : Moved parts before lists (manager.done serial) := by
        apply moved.step (.complete serial _) (parts.own trivial rfl rfl)
        · exact if_pos ⟨pending, rfl⟩
        · rfl
      exact (done.resume willStopActivity).mono
        fun _ next => next.deleted
  | delayDestroy willDestroyActivity waitResumeActivity =>
      have done : Moved parts before lists (manager.done serial) := by
        apply moved.step (.complete serial _) (parts.own trivial rfl rfl)
        · exact if_pos ⟨pending, rfl⟩
        · rfl
      exact (done.destroy willDestroyActivity).mono
        fun _ next => next.deleted

/-! ## Reports -/

/-- What is left to do for a resumed activity. -/
theorem Moved.reportResumed
    (moved : Moved parts before lists manager)
    (token : Nat) :
    Spec True (manager.reportResumed token) (Moved parts before lists) := by
  unfold TaskStackManager.reportResumed
  split
  · split
    · exact moved
    · refine (moved.triggerWait (Or.inl ⟨token, rfl⟩)).bind ?_
      intro next movedNext
      exact movedNext.triggerWait (Or.inr ⟨token, rfl⟩)
  · exact moved

/-- The application of an activity that is gone may have to end. -/
theorem leaveApp_lists
    (manager : TaskStackManager)
    (token : Nat) :
    (manager.leaveApp token).lists = manager.lists := by
  unfold leaveApp
  split
  · dsimp only
    split <;> rfl
  · rfl

/-- What is left to do for a destroyed activity. -/
theorem Deleted.reportDestroyed
    {token : Nat}
    (deleted : Deleted parts before lists manager)
    (known : token ∈ manager.mActivityMap)
    (starts : ∀ middle, parts.isPart middle (.reportDestroyed token))
    (ends : ∀ middle, parts.isPart middle (.activityGone token)) :
    Spec True (manager.reportDestroyed token)
      (Deleted parts before lists) := by
  unfold TaskStackManager.reportDestroyed
  refine Spec.bind_known (fun mustNotFail => absurd trivial mustNotFail) ?_
  intro destroyed isDestroyed
  obtain ⟨record, isRecord, isSet⟩ := setStatus_cases isDestroyed
  have sameLists : destroyed.lists = manager.lists := by
    rw [isSet]
    rfl
  have gone :
      ∀ next,
        Deleted parts before lists next →
        Deleted parts before lists (next.activityGone token) := by
    intro next deletedNext
    exact deletedNext.step (.activityGone token) (ends next) rfl
      (leaveApp_lists next token)
  cases isApp : destroyed.getAppRecord token with
  | none =>
      have stepped :
          manager.recordStep? (.reportDestroyed token) =
            some destroyed := by
        simp only [recordStep?, startDestroyed, known, if_true,
          isDestroyed, Option.bind_eq_bind, Option.bind_some, isApp]
      have started := deleted.step _ (starts manager) stepped sameLists
      have finished := gone destroyed started
      rw [activityGone, leaveApp, isApp] at finished
      exact finished
  | some found =>
      obtain ⟨app, appRecord⟩ := found
      dsimp only
      have started :
          Deleted parts before lists
            (if appRecord.mIsSystemUI then
              destroyed
            else
              { destroyed with
                mPendTask :=
                  destroyed.mPendTask.removeTask
                    (PendEvent.activityWaitResume token) }) := by
        apply deleted.step _ (starts manager)
        · simp only [recordStep?, startDestroyed, known, if_true,
            isDestroyed, Option.bind_eq_bind, Option.bind_some, isApp]
          split <;> rfl
        · split
          · exact sameLists
          · exact sameLists
      refine (started.deleteActivity token).bind ?_
      intro next deletedNext
      exact gone next deletedNext

/-- The parts of a report that an activity has a status. -/
private def reportParts
    (token : Nat)
    (status : Status) : Parts where
  isPart manager primitive :=
    manager.IsOwn primitive ∨ primitive = .statusReport token status
  own isOwn _ _ := Or.inl isOwn

/-- A report of a status forgets no activity. -/
theorem eventTrigger_mActivityMap
    {token : Nat}
    {status : Status}
    {next : TaskStackManager}
    (known : token ∈ manager.mActivityMap)
    (isNext :
      manager.eventTrigger (.activityStatusReport status token) =
        some next) :
    next.mActivityMap = manager.mActivityMap := by
  have started :
      Moved (reportParts token status) manager manager.lists manager :=
    .refl manager
  obtain ⟨_, _, moved⟩ :=
    (started.statusReport (Or.inr rfl) known).of_result isNext
  refine Reachable.invariant ?_ ?_ moved.moves
  · rfl
  · intro state primitive later same isPart stepped
    have keeps : primitive.changesMap = false := by
      rcases isPart with isOwn | isReport
      · exact isOwn.keepsMap
      · rw [isReport]
        rfl
    exact (recordStep?_mActivityMap stepped keeps).trans same

/-- A report of any status. -/
theorem Moved.reportActivityStatus
    {token : Nat}
    {status : Status}
    (moved : Moved parts before lists manager)
    (reports : parts.isPart manager (.statusReport token status))
    (starts : ∀ middle, parts.isPart middle (.reportDestroyed token))
    (ends : ∀ middle, parts.isPart middle (.activityGone token)) :
    Spec True (manager.reportActivityStatus token status)
      (Deleted parts before lists) := by
  unfold TaskStackManager.reportActivityStatus
  split
  · rename_i known
    have reported := moved.statusReport reports known
    refine Spec.bind_known
      (fun mustNotFail => absurd trivial mustNotFail) ?_
    intro next isNext
    have deleted := reported.of_result isNext
    split
    · exact deleted.onward fun _ movedNext =>
        movedNext.reportResumed token
    · split
      · have stillKnown : token ∈ next.mActivityMap := by
          rw [eventTrigger_mActivityMap known isNext]
          exact known
        exact deleted.reportDestroyed stillKnown starts ends
      · exact deleted
  · exact moved.deleted

/-! ## The end of a process -/

/-- The activities of a process end. -/
theorem Moved.abnormalExitAll
    {activities : List Nat}
    (moved : Moved parts before lists manager)
    (exits :
      ∀ middle activity, parts.isPart middle (.abnormalExit activity)) :
    Spec True (TaskStackManager.abnormalExitAll activities manager)
      (Moved parts before lists) := by
  induction activities generalizing manager with
  | nil =>
      exact moved
  | cons activity rest inductionHypothesis =>
      have exited :=
        moved.spec (.abnormalExit activity) (exits manager activity) rfl
          fun _ isNext => abnormalExit_lists isNext
      refine exited.bind ?_
      intro next movedNext
      exact inductionHypothesis movedNext

/-- The activities of a process are deleted and forgotten. -/
theorem Deleted.deleteAll
    {activities : List Nat}
    (deleted : Deleted parts before lists manager)
    (forgets :
      ∀ middle activity, parts.isPart middle (.forget activity)) :
    Spec True (TaskStackManager.deleteAll activities manager)
      (Deleted parts before lists) := by
  induction activities generalizing manager with
  | nil =>
      exact deleted
  | cons activity rest inductionHypothesis =>
      refine (deleted.deleteActivity activity).bind ?_
      intro next deletedNext
      exact inductionHypothesis
        (deletedNext.step (.forget activity) (forgets next activity) rfl
          rfl)

/-- The end of a process. -/
theorem Moved.procAppTerminated
    {app : Nat}
    (moved : Moved parts before lists manager)
    (marks : parts.isPart manager (.markStopped app))
    (exits :
      ∀ middle activity, parts.isPart middle (.abnormalExit activity))
    (forgets :
      ∀ middle activity, parts.isPart middle (.forget activity)) :
    Spec True (manager.procAppTerminated app)
      (Deleted parts before lists) := by
  refine Spec.bind_known (fun mustNotFail => absurd trivial mustNotFail) ?_
  intro record isRecord
  have stepped :
      manager.recordStep? (.markStopped app) =
        some (manager.markStopped app record) := by
    simp [recordStep?, isRecord]
  have marked := moved.step _ marks stepped rfl
  refine (marked.abnormalExitAll exits).bind ?_
  intro next movedNext
  exact movedNext.deleted.deleteAll forgets

/-! ## Every step -/

/-- A new activity is two primitive steps. -/
theorem Moved.newActivity
    {name : String}
    {app targetTask : Nat}
    {intent : Intent}
    (moved : Moved parts before lists manager)
    (creates :
      parts.isPart manager (.createActivity name targetTask intent))
    (sets :
      ∀ middle,
        parts.isPart middle (.setAppThread manager.nextActivity app)) :
    Moved parts before lists
      (manager.newActivity name app targetTask intent) := by
  have created :=
    moved.step (.createActivity name targetTask intent) creates rfl rfl
  apply created.step (.setAppThread manager.nextActivity app) (sets _)
  · simp [recordStep?, TaskStackManager.setAppThread, createActivity,
      setRecord, TaskStackManager.newActivity, ActivityRecord.fresh]
  · rfl

/--
Every step of the service is a run of primitive steps.  The activity that will
be destroyed later is the one that is finished, and the one that is restarted
is the top of the foreground.
-/
theorem step?_moves
    (parts : Parts)
    (manager : TaskStackManager)
    (action : ManagerAction)
    (contains :
      ∀ {middle primitive},
        manager.IsPart action middle primitive →
        primitive.delays = false →
        primitive.restarts = false →
        parts.isPart middle primitive)
    (restarts :
      ∀ targetStack activity intent startFlag,
        action = .turnToActivity targetStack activity intent startFlag →
        manager.lists.getActiveTask.bind manager.lists.getTopActivity =
          some activity →
        ∀ middle, parts.isPart middle (.restart activity))
    (delays :
      ∀ activity lists,
        action = .finishActivity activity →
        manager.ListsAfter lists action →
        parts.Delays activity lists) :
    Spec True (manager.step? action) fun next =>
      ∃ lists,
        manager.ListsAfter lists action ∧
          Moved parts manager lists next := by
  have start : Moved parts manager manager.lists manager :=
    .refl manager
  cases action with
  | pushNewActivity name app targetStack intent startFlag =>
      rw [step?]
      split
      · have created :
            Moved parts manager manager.lists
              (manager.newActivity name app targetStack intent) := by
          apply start.newActivity
          · exact contains (Or.inr (Or.inl ⟨rfl, rfl⟩)) rfl rfl
          · exact fun _ => contains (Or.inr (Or.inr rfl)) rfl rfl
        refine (created.pushNewActivity targetStack manager.nextActivity
          startFlag).mono ?_
        intro next moved
        exact ⟨_, rfl, moved⟩
      · trivial
  | turnToActivity targetStack activity intent startFlag =>
      have turned :=
        start.turnToActivity targetStack activity intent startFlag
          (restarts targetStack activity intent startFlag rfl)
      refine turned.mono ?_
      intro next moved
      exact ⟨_, rfl, moved⟩
  | switchTaskToActive targetStack intent =>
      refine (start.switchTaskToActive targetStack intent).mono ?_
      intro next moved
      exact ⟨_, rfl, moved⟩
  | moveTaskToBackground targetStack =>
      have shown := start.moveTaskToBackground targetStack
      rw [step?]
      cases isResult : manager.moveTaskToBackground targetStack with
      | none =>
          trivial
      | some result =>
          exact ⟨_, rfl, shown.of_result isResult⟩
  | finishActivity activity =>
      rw [step?]
      cases isRecord : manager.activities activity with
      | none =>
          rw [TaskStackManager.finishActivity, isRecord]
          trivial
      | some record =>
          cases inTask : manager.getTask record with
          | none =>
              rw [TaskStackManager.finishActivity, isRecord]
              dsimp only [Option.bind_eq_bind, Option.bind_some]
              rw [inTask]
              refine ⟨manager.lists, ?_, start⟩
              rw [ListsAfter, taskOf, isRecord, Option.bind_some, inTask]
          | some activityTask =>
              have isAfter :
                  manager.ListsAfter
                    (manager.lists.finishActivity activityTask activity)
                    (.finishActivity activity) := by
                rw [ListsAfter, taskOf, isRecord, Option.bind_some, inTask]
              refine
                (start.finishActivity isRecord inTask
                  (delays activity _ rfl isAfter)).mono ?_
              intro next moved
              exact ⟨_, isAfter, moved⟩
  | deleteActivity activity =>
      exact start.deleted.deleteActivity activity
  | reportActivityStatus token status =>
      apply start.reportActivityStatus
      · exact contains (Or.inr (Or.inl ⟨rfl, rfl⟩)) rfl rfl
      · exact fun _ => contains (Or.inr (Or.inr (Or.inl rfl))) rfl rfl
      · exact fun _ => contains (Or.inr (Or.inr (Or.inr rfl))) rfl rfl
  | timeout serial =>
      apply start.timeout
      exact fun activity => contains (Or.inr ⟨rfl, activity, rfl⟩) rfl rfl
  | clockAdvances ms =>
      exact start.deleted.step (.clockAdvances ms)
        (contains (Or.inr ⟨rfl, rfl⟩) rfl rfl) rfl rfl
  | attachApplication packageName systemui pid =>
      exact start.deleted.step
        (.attachApplication packageName systemui pid)
        (contains (Or.inr ⟨rfl, rfl⟩) rfl rfl) rfl rfl
  | procAppTerminated app =>
      apply start.procAppTerminated
      · exact contains (Or.inr (Or.inl ⟨rfl, rfl⟩)) rfl rfl
      · exact fun _ activity =>
          contains (Or.inr (Or.inr (Or.inl ⟨activity, rfl⟩))) rfl rfl
      · exact fun _ activity =>
          contains (Or.inr (Or.inr (Or.inr ⟨activity, rfl⟩))) rfl rfl
  | deleteAppInfo app =>
      rw [step?]
      cases isNext : manager.deleteAppInfo app with
      | none =>
          trivial
      | some next =>
          apply start.deleted.step (.deleteAppInfo app)
            (contains (Or.inr ⟨rfl, rfl⟩) rfl rfl) isNext
          obtain ⟨_, _, _, isDeleted⟩ := deleteAppInfo_cases isNext
          rw [isDeleted]
  | holdTasks tasks =>
      exact start.deleted.step (.holdTasks tasks)
        (contains (Or.inr ⟨rfl, rfl⟩) rfl rfl) rfl rfl

/-- The run of primitive steps that a step of the service is. -/
theorem step?_moved
    (manager : TaskStackManager)
    (action : ManagerAction) :
    Spec True (manager.step? action) fun next =>
      ∃ lists,
        manager.ListsAfter lists action ∧
          Moved (partsOf manager action) manager lists next :=
  step?_moves (partsOf manager action) manager action
    (fun isPart _ _ => isPart)
    (fun _ _ _ _ _ _ _ => Or.inl trivial)
    fun _ _ _ _ _ _ _ => Or.inl trivial

end TaskStackManager

/-! ## Everything that can happen to an activity -/

/-- A request, a primitive step or a step of the service. -/
inductive ActivityAction where
  | lifecycleTransition (activity : Nat) (toStatus : Status)
  | record (action : RecordAction)
  | manager (action : ManagerAction)

/-- The statuses that clients report and others ask for are settled. -/
def ActivityAction.isSettled : ActivityAction → Bool
  | .lifecycleTransition _ toStatus => toStatus ∈ settledStatuses
  | .record (.turn _ toStatus) => toStatus ∈ settledStatuses
  | .record (.statusReport _ status) => status ∈ settledStatuses
  | .manager (.reportActivityStatus _ status) =>
      status ∈ settledStatuses
  | _ => true

namespace TaskStackManager

/-- Perform one of these. -/
def activityStep?
    (manager : TaskStackManager) :
    ActivityAction → Option TaskStackManager
  | .lifecycleTransition activity toStatus =>
      manager.lifecycleTransition activity toStatus
  | .record action =>
      manager.recordStep? action
  | .manager action =>
      manager.step? action

/-- The primitive steps that one of these consists of. -/
def IsPartOf
    (before : TaskStackManager)
    (action : ActivityAction)
    (manager : TaskStackManager)
    (primitive : RecordAction) : Prop :=
  match action with
  | .lifecycleTransition activity toStatus =>
      manager.IsOwn primitive ∨ primitive = .turn activity toStatus
  | .record action => manager = before ∧ primitive = action
  | .manager action => before.IsPart action manager primitive

/-- All of these are runs of primitive steps. -/
theorem activityStep?_run
    {manager next : TaskStackManager}
    {action : ActivityAction}
    (isNext : manager.activityStep? action = some next) :
    Reachable recordStep? (manager.IsPartOf action) manager next := by
  cases action with
  | lifecycleTransition activity toStatus =>
      let parts : Parts :=
        { isPart :=
            manager.IsPartOf (.lifecycleTransition activity toStatus)
          own isOwn _ _ := Or.inl isOwn }
      have start : Moved parts manager manager.lists manager :=
        .refl manager
      have requested :=
        start.lifecycleTransitionFrom (fun _ => Or.inr rfl) 2
      exact (requested.of_result isNext).moves
  | record action =>
      exact .step .initial ⟨rfl, rfl⟩ isNext
  | manager action =>
      obtain ⟨_, _, moved⟩ := (step?_moved manager action).of_result isNext
      exact moved.moves

end TaskStackManager

end ActivityManager
