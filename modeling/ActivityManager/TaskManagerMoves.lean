import ActivityManager.Library.PartialProgram
import ActivityManager.RecordMachine
import ActivityManager.TaskListEffects

/-!
# The operations as runs of primitive steps

Every operation of the task manager is a run of the record machine that ends
in the lists of `TaskListEffects`.  So an invariant of the primitive steps is
one of the operations.
-/

namespace ActivityManager

open PartialProgram
open StepSystem (Reachable)

/-- An activity will be destroyed once another one is resumed. -/
def RecordAction.delays : RecordAction → Bool
  | .commit (.delayDestroy _ _) => true
  | _ => false

/-- The top of the foreground is relaunched. -/
def RecordAction.restarts : RecordAction → Bool
  | .restart _ => true
  | _ => false

namespace TaskStackManager

/--
The primitive steps of the operations.  They ask for the four statuses of the
server, or again for what an activity is to be.
-/
def IsOwn
    (manager : TaskStackManager) :
    RecordAction → Prop
  | .turn activity toStatus =>
      toStatus ∈ requestedStatuses ∨
        ∃ record,
          manager.activities activity = some record ∧
            record.mTargetStatus = toStatus
  | .setIntent _ _ => True
  | .restart _ => True
  | .commit _ => True
  | .complete _ _ => True
  | .setForeground _ _ => True
  | .relist _ => True
  | _ => False

/-- The operations neither create nor forget activities. -/
theorem IsOwn.keepsMap
    {manager : TaskStackManager}
    {action : RecordAction}
    (isOwn : manager.IsOwn action) :
    action.changesMap = false := by
  cases action <;> first | rfl | exact isOwn.elim

/--
The primitive steps of something that uses the operations.  Only one operation
commits an `ActivityDelayDestroy`, and only one restarts an activity; they say
which.
-/
structure Parts where
  isPart : TaskStackManager → RecordAction → Prop
  own :
    ∀ {manager action},
      IsOwn manager action →
      action.delays = false →
      action.restarts = false →
      isPart manager action

/--
An activity may be destroyed once the top of the foreground is resumed.
-/
def Parts.Delays
    (parts : Parts)
    (activity : Nat)
    (lists : TaskLists) : Prop :=
  ∀ nextActivity middle,
    lists.foreground.head? = some nextActivity →
    parts.isPart middle (.commit (.delayDestroy activity nextActivity))

/-- A run of primitive steps that arrives in some lists. -/
structure Moved
    (parts : Parts)
    (before : TaskStackManager)
    (lists : TaskLists)
    (manager : TaskStackManager) : Prop where
  moves : Reachable recordStep? parts.isPart before manager
  sameLists : manager.lists = lists

variable
  {parts : Parts}
  {before manager : TaskStackManager}
  {lists : TaskLists}

/-- The handler that an event meets first is pending. -/
theorem isPending_of_firstPending
    {event : PendEvent}
    {handler : TaskTimeoutHandler PendTask}
    (isFirst : manager.mPendTask.firstPending event = some handler) :
    manager.isPending handler.serial handler.mTask = true := by
  have onBoard : handler ∈ manager.mPendTask.mTasklist :=
    List.mem_of_find?_eq_some isFirst
  have pending := List.find?_some isFirst
  rw [TaskTimeoutHandler.pendingFor, Bool.and_eq_true,
    Bool.not_eq_true'] at pending
  exact List.any_eq_true.mpr
    ⟨handler, onBoard, by simp [pending.1]⟩

/-- The end of `turnToActivity`. -/
def turnInFront
    (manager : TaskStackManager)
    (targetStack activity : Nat)
    (intent : Intent)
    (activeTask lastTopActivity : Option Nat) :
    Option TaskStackManager := do
  let manager ← manager.setIntent activity intent
  let manager ← manager.lifecycleTransition activity Status.resumed
  let manager :=
    match lastTopActivity with
    | some lastTop =>
        if some targetStack ≠ activeTask then
          manager.commit (.waitResume activity lastTop)
        else
          manager
    | none =>
        manager
  some (manager.pushTaskToFront targetStack)

/-- `deleteActivity` after its loop: an empty task goes. -/
def shrink
    (manager : TaskStackManager)
    (task : Nat) : Option TaskStackManager :=
  if some task = manager.lists.getActiveTask then
    manager.resumeNext task
  else if (manager.lists.stackOf task).isEmpty then
    some (manager.setLists (manager.lists.deleteTask task))
  else
    some manager

/-- The end of `deleteActivity`: an empty home task is replaced. -/
def updateHome
    (manager : TaskStackManager)
    (task : Nat) : TaskStackManager :=
  manager.setLists (manager.lists.updateHome task)

/-- `deleteActivity` of an activity with a task, part by part. -/
theorem deleteActivity_eq
    {activity task : Nat}
    {record : ActivityRecord}
    (isRecord : manager.activities activity = some record)
    (inTask : manager.getTask record = some task) :
    manager.deleteActivity activity =
      (if activity ∈ manager.lists.stackOf task then
        deleteDownTo task activity (manager.loopFuel task) manager
      else
        some manager) >>= fun middle =>
          middle.shrink task >>= fun next =>
            some (next.updateHome task) := by
  have ending :
      ∀ next : TaskStackManager,
        (if some task = next.lists.mHomeTask ∧
            (next.lists.stackOf task).isEmpty then
          some
            (next.setLists
              { next.lists with
                mHomeTask := next.lists.getActiveTask })
        else
          some next) =
          some (next.updateHome task) := by
    intro next
    unfold updateHome TaskLists.updateHome
    split <;> rfl
  unfold deleteActivity shrink
  rw [isRecord]
  dsimp only [Option.bind_eq_bind, Option.bind_some]
  rw [inTask]
  simp only [ending]
  split
  · refine congrArg _ (funext fun middle => ?_)
    split_ifs <;> rfl
  · rw [Option.bind_some]
    split_ifs <;> rfl

namespace Moved

/-- Nothing has happened. -/
theorem refl (manager : TaskStackManager) :
    Moved parts manager manager.lists manager where
  moves := .initial
  sameLists := rfl

/-- One more primitive step, which keeps the lists. -/
theorem step
    {next : TaskStackManager}
    (moved : Moved parts before lists manager)
    (action : RecordAction)
    (isPart : parts.isPart manager action)
    (stepped : manager.recordStep? action = some next)
    (sameLists : next.lists = manager.lists) :
    Moved parts before lists next where
  moves := .step moved.moves isPart stepped
  sameLists := sameLists.trans moved.sameLists

/-- One more primitive step, which may fail. -/
theorem spec
    {result : Option TaskStackManager}
    (moved : Moved parts before lists manager)
    (action : RecordAction)
    (isPart : parts.isPart manager action)
    (isStep : manager.recordStep? action = result)
    (sameLists :
      ∀ next,
        result = some next →
        next.lists = manager.lists) :
    Spec True result (Moved parts before lists) := by
  cases isResult : result with
  | none =>
      trivial
  | some next =>
      rw [isResult] at isStep
      exact moved.step action isPart isStep (sameLists next isResult)

/-- Other lists. -/
theorem setLists
    (moved : Moved parts before lists manager)
    (others : TaskLists) :
    Moved parts before others (manager.setLists others) := by
  have stepped :
      manager.recordStep? (.relist others) =
        some (manager.setLists others) :=
    rfl
  have isOwn : IsOwn manager (.relist others) :=
    trivial
  exact ⟨.step moved.moves (parts.own isOwn rfl rfl) stepped, rfl⟩

/-! ## Records and tasks -/

/-- A request after its event. -/
theorem turn
    {activity : Nat}
    {toStatus : Status}
    (moved : Moved parts before lists manager)
    (asks : parts.isPart manager (.turn activity toStatus)) :
    Spec True (manager.turn activity toStatus)
      (Moved parts before lists) := by
  refine moved.spec (.turn activity toStatus) asks rfl ?_
  intro next isNext
  obtain ⟨_, _, turned⟩ := turn_cases isNext
  exact turned.lists

theorem setIntent
    (moved : Moved parts before lists manager)
    (activity : Nat)
    (intent : Intent) :
    Spec True (manager.setIntent activity intent)
      (Moved parts before lists) := by
  refine moved.spec (.setIntent activity intent)
    (parts.own trivial rfl rfl) rfl ?_
  intro next isNext
  unfold TaskStackManager.setIntent at isNext
  cases isRecord : manager.activities activity with
  | none =>
      simp [isRecord] at isNext
  | some record =>
      simp only [isRecord, Option.bind_eq_bind, Option.bind_some,
        Option.some.injEq] at isNext
      rw [← isNext]
      rfl

theorem restart
    {activity : Nat}
    (moved : Moved parts before lists manager)
    (restarts : parts.isPart manager (.restart activity)) :
    Spec True (manager.setStatus activity Status.paused)
      (Moved parts before lists) := by
  refine moved.spec (.restart activity) restarts rfl ?_
  intro next isNext
  obtain ⟨_, _, isSet⟩ := setStatus_cases isNext
  rw [isSet]
  rfl

theorem commit
    (moved : Moved parts before lists manager)
    {task : PendTask}
    (isWait : task.isWait = true)
    (commits : parts.isPart manager (.commit task)) :
    Moved parts before lists (manager.commit task) := by
  apply moved.step (.commit task) commits
  · simp [recordStep?, isWait]
  · rfl

/-- The activity behind a resumed one will be stopped. -/
theorem wait
    (moved : Moved parts before lists manager)
    (resumeActivity willStopActivity : Nat) :
    Moved parts before lists
      (manager.commit (.waitResume resumeActivity willStopActivity)) :=
  moved.commit rfl (parts.own trivial rfl rfl)

/-- A wait that an event meets first is over. -/
theorem complete
    {event : PendEvent}
    {handler : TaskTimeoutHandler PendTask}
    (moved : Moved parts before lists manager)
    (isFirst : manager.mPendTask.firstPending event = some handler)
    (isWait : handler.mTask.isWait = true) :
    Moved parts before lists (manager.done handler.serial) := by
  have pending := isPending_of_firstPending isFirst
  apply moved.step (.complete handler.serial handler.mTask)
    (parts.own trivial rfl rfl)
  · simp [recordStep?, TaskStackManager.complete, pending, isWait]
  · rfl

/-- The activity behind a resumed one is stopped. -/
theorem executeWaitResume
    {lifecycleTransition :
      TaskStackManager → Nat → Status → Option TaskStackManager}
    (moved : Moved parts before lists manager)
    (stops :
      ∀ activity,
        Spec True
          (lifecycleTransition manager activity Status.stopped)
          (Moved parts before lists))
    (willStopActivity : Nat) :
    Spec True
      (TaskStackManager.executeWaitResume lifecycleTransition manager
        willStopActivity)
      (Moved parts before lists) := by
  unfold TaskStackManager.executeWaitResume
  refine Spec.bind_known (fun mustNotFail => absurd trivial mustNotFail) ?_
  intro record _
  split
  · exact stops willStopActivity
  · exact moved

/-- The event of an activity that will not be resumed. -/
theorem triggerWaitResume
    {lifecycleTransition :
      TaskStackManager → Nat → Status → Option TaskStackManager}
    (moved : Moved parts before lists manager)
    (stops :
      ∀ middle activity,
        Moved parts before lists middle →
        Spec True
          (lifecycleTransition middle activity Status.stopped)
          (Moved parts before lists))
    (activity : Nat) :
    Spec True
      (TaskStackManager.triggerWaitResume lifecycleTransition manager
        activity)
      (Moved parts before lists) := by
  unfold TaskStackManager.triggerWaitResume
  split
  · rename_i handler isFirst
    have isMet := List.find?_some isFirst
    rw [TaskTimeoutHandler.pendingFor, Bool.and_eq_true] at isMet
    have isWait : handler.mTask.isWait = true := by
      cases isTask : handler.mTask with
      | lifeCycle _ =>
          rw [isTask] at isMet
          exact absurd isMet.2 (by simp [BoardLabels.equalsLabel])
      | waitResume _ _ =>
          rfl
      | delayDestroy _ _ =>
          rfl
    have done := moved.complete isFirst isWait
    dsimp only
    split
    · rename_i willStopActivity _
      exact done.executeWaitResume
        (fun other => stops _ other done) willStopActivity
    · exact done
  · exact moved

/-- `lifecycleTransition` with its event. -/
theorem lifecycleTransitionFrom
    {activity : Nat}
    {toStatus : Status}
    (moved : Moved parts before lists manager)
    (asks :
      ∀ middle, parts.isPart middle (.turn activity toStatus))
    (fuel : Nat) :
    Spec True
      (TaskStackManager.lifecycleTransitionFrom fuel manager activity
        toStatus)
      (Moved parts before lists) := by
  induction fuel generalizing manager activity toStatus with
  | zero =>
      trivial
  | succ fuel inductionHypothesis =>
      refine Spec.bind_known
        (fun mustNotFail => absurd trivial mustNotFail) ?_
      intro record _
      have stops :
          ∀ middle other,
            Moved parts before lists middle →
            Spec True
              (TaskStackManager.lifecycleTransitionFrom fuel middle other
                Status.stopped)
              (Moved parts before lists) := by
        intro middle other movedMiddle
        apply inductionHypothesis movedMiddle
        intro state
        exact parts.own (Or.inl (by simp [requestedStatuses])) rfl rfl
      refine
        Spec.bind_ite
          (fun _ => moved.triggerWaitResume stops activity)
          (fun _ => moved) ?_
      intro middle movedMiddle
      exact movedMiddle.turn (asks middle)

/-- A request for one of the four statuses. -/
theorem request
    {toStatus : Status}
    (moved : Moved parts before lists manager)
    (requested : toStatus ∈ requestedStatuses)
    (activity : Nat) :
    Spec True (manager.lifecycleTransition activity toStatus)
      (Moved parts before lists) :=
  moved.lifecycleTransitionFrom
    (fun _ => parts.own (Or.inl requested) rfl rfl) 2

/-! ## Foreground -/

theorem setActivityForeground
    (moved : Moved parts before lists manager)
    (activity : Nat)
    (isForeground : Bool) :
    Spec True (manager.setActivityForeground activity isForeground)
      (Moved parts before lists) := by
  refine Spec.bind_known (fun mustNotFail => absurd trivial mustNotFail) ?_
  intro record _
  refine Spec.bind_known (fun mustNotFail => absurd trivial mustNotFail) ?_
  intro app _
  refine Spec.bind_known (fun mustNotFail => absurd trivial mustNotFail) ?_
  intro appRecord isAppRecord
  apply moved.step (.setForeground app isForeground)
    (parts.own trivial rfl rfl)
  · simp [recordStep?, isAppRecord]
  · rfl

theorem setForegroundAll
    {activities : List Nat}
    {isForeground : Bool}
    (moved : Moved parts before lists manager) :
    Moved parts before lists
      (TaskStackManager.setForegroundAll isForeground activities
        manager) := by
  induction activities generalizing manager with
  | nil =>
      exact moved
  | cons activity rest inductionHypothesis =>
      apply inductionHypothesis
      cases isNext : manager.setActivityForeground activity isForeground with
      | none =>
          exact moved
      | some next =>
          exact (moved.setActivityForeground activity
            isForeground).of_result isNext

theorem setStackForeground
    (moved : Moved parts before lists manager)
    (task : Nat)
    (isForeground : Bool) :
    Moved parts before lists (manager.setStackForeground task isForeground) :=
  moved.setForegroundAll

/-! ## Operations -/

theorem pushTaskToFront
    (moved : Moved parts before lists manager)
    (activityStack : Nat) :
    Moved parts before (lists.pushTaskToFront activityStack)
      (manager.pushTaskToFront activityStack) := by
  unfold TaskStackManager.pushTaskToFront TaskLists.pushTaskToFront
  rw [moved.sameLists]
  dsimp only
  split
  · apply Moved.setStackForeground
    split
    · rename_i active _
      have left := moved.setStackForeground active false
      have brought := left.setLists (lists.moveToFront activityStack)
      rw [left.sameLists]
      exact brought
    · rw [moved.sameLists]
      exact moved.setLists (lists.moveToFront activityStack)
  · exact moved

/-- The activities above another one are destroyed and popped. -/
theorem clearAbove
    {targetStack : Nat}
    {activity : Option Nat}
    {isActive : Bool}
    {stack : List Nat}
    (moved : Moved parts before lists manager)
    (isStack : lists.stackOf targetStack = stack)
    (fuel : Nat) :
    Spec True
      (TaskStackManager.clearAbove targetStack activity isActive fuel
        manager)
      (Moved parts before (lists.clearAbove targetStack activity)) := by
  induction stack generalizing fuel manager lists with
  | nil =>
      cases fuel with
      | zero =>
          trivial
      | succ fuel =>
          have noTop : manager.lists.getTopActivity targetStack = none := by
            rw [TaskLists.getTopActivity, moved.sameLists, isStack]
            rfl
          have isClear : lists.clearAbove targetStack activity = lists :=
            TaskLists.clearAbove_of_stop isStack rfl
          rw [TaskStackManager.clearAbove, noTop, isClear]
          exact moved
  | cons top rest inductionHypothesis =>
      cases fuel with
      | zero =>
          trivial
      | succ fuel =>
          have isTop :
              manager.lists.getTopActivity targetStack = some top := by
            rw [TaskLists.getTopActivity, moved.sameLists, isStack]
            rfl
          rw [TaskStackManager.clearAbove, isTop]
          dsimp only
          split
          · rename_i isActivity
            have isClear :
                lists.clearAbove targetStack activity = lists :=
              TaskLists.clearAbove_of_stop isStack (by simp [isActivity])
            rw [isClear]
            exact moved
          · rename_i isAbove
            have popped :
                lists.popActivity? targetStack =
                  some (lists.setStack targetStack rest) := by
              simp [TaskLists.popActivity?, isStack]
            have sameClear :
                (lists.setStack targetStack rest).clearAbove targetStack
                    activity =
                  lists.clearAbove targetStack activity := by
              simp [TaskLists.clearAbove, isStack, isAbove]
            rw [← sameClear]
            refine (moved.request (by simp [requestedStatuses])
              top).bind ?_
            intro middle movedMiddle
            rw [movedMiddle.sameLists, popped]
            have movedPopped :=
              movedMiddle.setLists (lists.setStack targetStack rest)
            refine
              Spec.bind_ite
                (fun _ => movedPopped.setActivityForeground top false)
                (fun _ => movedPopped) ?_
            intro next movedNext
            exact inductionHypothesis movedNext
              (TaskLists.setStack_stacks _ _ _) fuel

/-- A request to resume. -/
theorem resume
    (moved : Moved parts before lists manager)
    (activity : Nat) :
    Spec True (manager.lifecycleTransition activity Status.resumed)
      (Moved parts before lists) :=
  moved.request (by simp [requestedStatuses]) activity

/-- A request to pause. -/
theorem pause
    (moved : Moved parts before lists manager)
    (activity : Nat) :
    Spec True (manager.lifecycleTransition activity Status.paused)
      (Moved parts before lists) :=
  moved.request (by simp [requestedStatuses]) activity

/-- A request to destroy. -/
theorem destroy
    (moved : Moved parts before lists manager)
    (activity : Nat) :
    Spec True (manager.lifecycleTransition activity Status.destroyed)
      (Moved parts before lists) :=
  moved.request (by simp [requestedStatuses]) activity

theorem switchTaskToActive
    (moved : Moved parts before lists manager)
    (targetStack : Nat)
    (intent : Intent) :
    Spec True (manager.switchTaskToActive targetStack intent)
      (Moved parts before (lists.switchTaskToActive targetStack)) := by
  have sameLists := moved.sameLists
  unfold TaskStackManager.switchTaskToActive TaskLists.switchTaskToActive
  rw [sameLists]
  split
  · rename_i isOther
    refine Spec.bind_known
      (fun mustNotFail => absurd trivial mustNotFail) ?_
    intro activeTask _
    refine Spec.bind_known
      (fun mustNotFail => absurd trivial mustNotFail) ?_
    intro currentTop _
    refine (moved.pause currentTop).bind ?_
    intro paused movedPaused
    rw [movedPaused.sameLists]
    cases lists.getTopActivity targetStack with
    | none =>
        exact movedPaused.setLists _
    | some activity =>
        dsimp only
        refine
          Spec.bind_ite
            (fun _ => movedPaused.setIntent activity intent)
            (fun _ => movedPaused) ?_
        intro informed movedInformed
        refine (movedInformed.resume activity).bind ?_
        intro resumed movedResumed
        have brought :=
          (movedResumed.wait activity currentTop).pushTaskToFront
            targetStack
        have isFront :
            lists.pushTaskToFront targetStack =
              lists.moveToFront targetStack :=
          if_pos isOther
        rw [isFront] at brought
        exact brought
  · exact moved

/-- The active task leaves the front. -/
theorem leaveActive
    {targetStack : Nat}
    (moved : Moved parts before lists manager) :
    Spec True (manager.leaveActive targetStack)
      (Moved parts before { lists with mAllTasks := lists.mAllTasks.tail }) := by
  have sameLists := moved.sameLists
  unfold TaskStackManager.leaveActive
  refine Spec.bind_known (fun mustNotFail => absurd trivial mustNotFail) ?_
  intro topActivity _
  refine (moved.pause topActivity).bind ?_
  intro paused movedPaused
  have left := movedPaused.setStackForeground targetStack false
  refine Spec.bind_known (fun mustNotFail => absurd trivial mustNotFail) ?_
  intro popped isPopped
  have isTail :
      popped = { lists with mAllTasks := lists.mAllTasks.tail } := by
    rw [left.sameLists] at isPopped
    exact TaskLists.popFront?_eq isPopped
  subst isTail
  have rested :=
    left.setLists { lists with mAllTasks := lists.mAllTasks.tail }
  dsimp only
  split
  · rename_i activeTask _
    split
    · rename_i nextActivity _
      refine (rested.resume nextActivity).bind ?_
      intro resumed movedResumed
      exact (movedResumed.wait nextActivity
        topActivity).setStackForeground activeTask true
    · exact rested.setStackForeground activeTask true
  · exact rested

theorem moveTaskToBackground
    (moved : Moved parts before lists manager)
    (targetStack : Nat) :
    Spec True (manager.moveTaskToBackground targetStack) fun next =>
      Moved parts before (lists.moveTaskToBackground targetStack) next.1 := by
  have sameLists := moved.sameLists
  unfold TaskStackManager.moveTaskToBackground
    TaskLists.moveTaskToBackground
  rw [sameLists]
  split
  · exact moved
  · rename_i notHome
    dsimp only
    by_cases isActive : some targetStack = lists.getActiveTask
    · simp only [isActive, decide_true, if_true]
      refine moved.leaveActive.bind ?_
      intro left movedLeft
      rw [movedLeft.sameLists]
      exact movedLeft.setLists _
    · simp only [isActive, decide_false, Bool.false_eq_true, if_false]
      rw [← sameLists]
      exact moved.setLists _

/-- The start of `pushNewActivity`. -/
theorem pauseActive
    (moved : Moved parts before lists manager)
    (targetStack : Nat) :
    Spec True (manager.pauseActive targetStack) fun next =>
      Moved parts before (lists.foundHome targetStack) next.1 := by
  have sameLists := moved.sameLists
  unfold TaskStackManager.pauseActive TaskLists.foundHome
  rw [sameLists]
  cases lists.getActiveTask with
  | none =>
      exact moved.setLists _
  | some activeTask =>
      refine Spec.bind_known
        (fun mustNotFail => absurd trivial mustNotFail) ?_
      intro lastTop _
      refine (moved.pause lastTop).bind ?_
      intro paused movedPaused
      exact movedPaused

theorem pushNewActivity
    (moved : Moved parts before lists manager)
    (targetStack activity startFlag : Nat) :
    Spec True (manager.pushNewActivity targetStack activity startFlag)
      (Moved parts before
        (lists.pushNewActivity targetStack activity startFlag)) := by
  unfold TaskStackManager.pushNewActivity TaskLists.pushNewActivity
  refine (moved.pauseActive targetStack).bind ?_
  rintro ⟨paused, lastTopActivity⟩ movedPaused
  dsimp only at movedPaused ⊢
  generalize isCleared :
    (if startFlag &&& flagActivityClearTask ≠ 0 then
      (lists.foundHome targetStack).clearAbove targetStack none
    else
      lists.foundHome targetStack) = clearedLists
  refine Spec.bind_ite
    (fun clears => ?_) (fun keeps => ?_)
    fun cleared (movedCleared : Moved parts before clearedLists cleared) => ?_
  · rw [← isCleared, if_pos clears]
    exact movedPaused.clearAbove rfl _
  · rw [← isCleared, if_neg keeps]
    exact movedPaused
  rw [movedCleared.sameLists]
  have movedPushed :=
    movedCleared.setLists
      (clearedLists.pushActivity targetStack activity)
  refine
    Spec.bind_ite
      (fun _ => movedPushed.setActivityForeground activity true)
      (fun _ => movedPushed) ?_
  intro entered movedEntered
  refine (movedEntered.resume activity).bind ?_
  intro resumed movedResumed
  cases lastTopActivity with
  | none =>
      exact movedResumed.pushTaskToFront targetStack
  | some lastTop =>
      exact (movedResumed.wait activity lastTop).pushTaskToFront
        targetStack

/-- The end of `turnToActivity`, once the task is cleared. -/
theorem turnInFront
    (moved : Moved parts before lists manager)
    (targetStack activity : Nat)
    (intent : Intent)
    (activeTask lastTopActivity : Option Nat) :
    Spec True
      (manager.turnInFront targetStack activity intent activeTask
        lastTopActivity)
      (Moved parts before (lists.pushTaskToFront targetStack)) := by
  refine (moved.setIntent activity intent).bind ?_
  intro informed movedInformed
  refine (movedInformed.resume activity).bind ?_
  intro resumed movedResumed
  apply Moved.pushTaskToFront
  split
  · rename_i lastTop
    split
    · exact movedResumed.wait activity lastTop
    · exact movedResumed
  · exact movedResumed

theorem turnToActivity
    (moved : Moved parts before lists manager)
    (targetStack activity : Nat)
    (intent : Intent)
    (startFlag : Nat)
    (restarts :
      lists.getActiveTask.bind lists.getTopActivity = some activity →
      ∀ middle, parts.isPart middle (.restart activity)) :
    Spec True
      (manager.turnToActivity targetStack activity intent startFlag)
      (Moved parts before
        (lists.turnToActivity targetStack activity startFlag)) := by
  have sameLists := moved.sameLists
  unfold TaskStackManager.turnToActivity TaskLists.turnToActivity
  rw [sameLists]
  dsimp only
  split
  · rename_i isTop
    refine (moved.setIntent activity intent).bind ?_
    intro informed movedInformed
    refine (movedInformed.restart (restarts isTop informed)).bind ?_
    intro paused movedPaused
    exact movedPaused.resume activity
  · generalize isCleared :
      (if startFlag &&& flagActivityClearTop ≠ 0 then
        lists.clearAbove targetStack (some activity)
      else
        lists) = clearedLists
    generalize lists.getActiveTask.bind lists.getTopActivity =
      lastTopActivity
    have onward :
        ∀ paused,
          Moved parts before lists paused →
          Spec True
            (if startFlag &&& flagActivityClearTop ≠ 0 then
              TaskStackManager.clearAbove targetStack (some activity)
                  (some targetStack = lists.getActiveTask)
                  (paused.loopFuel targetStack) paused >>=
                fun manager =>
                  manager.turnInFront targetStack activity intent
                    lists.getActiveTask lastTopActivity
            else
              some paused >>= fun manager =>
                manager.turnInFront targetStack activity intent
                  lists.getActiveTask lastTopActivity)
            (Moved parts before
              (clearedLists.pushTaskToFront targetStack)) := by
      intro paused movedPaused
      refine Spec.bind_ite
        (fun clears => ?_) (fun keeps => ?_)
        fun cleared movedCleared =>
          turnInFront movedCleared targetStack activity intent _ _
      · rw [← isCleared, if_pos clears]
        exact movedPaused.clearAbove rfl _
      · rw [← isCleared, if_neg keeps]
        exact movedPaused
    cases lastTopActivity with
    | none =>
        exact onward manager moved
    | some lastTop =>
        refine (moved.pause lastTop).bind ?_
        intro paused movedPaused
        exact onward paused movedPaused

/-- An activity is popped that has been cleared down to. -/
theorem pop
    {task activity : Nat}
    {popped : TaskLists}
    (moved :
      Moved parts before (lists.clearAbove task (some activity)) manager)
    (isPopped : manager.lists.popActivity? task = some popped) :
    Moved parts before
      (lists.setStack task
        (TaskLists.below (lists.stackOf task) activity))
      (manager.setLists popped) := by
  rw [moved.sameLists] at isPopped
  rw [TaskLists.popActivity?_clearAbove isPopped]
  exact moved.setLists _

/-- A finished activity of the active task makes way for the next. -/
theorem replaceBy
    {activity nextActivity : Nat}
    (moved : Moved parts before lists manager)
    (delays :
      ∀ middle,
        parts.isPart middle
          (.commit (.delayDestroy activity nextActivity))) :
    Spec True
      (do
        let manager ← manager.lifecycleTransition activity Status.paused
        let manager ←
          manager.lifecycleTransition nextActivity Status.resumed
        some (manager.commit (.delayDestroy activity nextActivity)))
      (Moved parts before lists) := by
  refine (moved.pause activity).bind ?_
  intro paused movedPaused
  refine (movedPaused.resume nextActivity).bind ?_
  intro resumed movedResumed
  exact movedResumed.commit rfl (delays resumed)

theorem finishActive
    {activityTask activity : Nat}
    (moved : Moved parts before lists manager)
    (isActive : some activityTask = lists.getActiveTask)
    (delays :
      parts.Delays activity
        (if (lists.getTopActivity activityTask).isSome then
          lists
        else
          lists.dropActive activityTask)) :
    Spec True (manager.finishActive activityTask activity)
      (Moved parts before
        (if (lists.getTopActivity activityTask).isSome then
          lists
        else
          lists.dropActive activityTask)) := by
  unfold TaskStackManager.finishActive
  refine (moved.setActivityForeground activity false).bind ?_
  intro left movedLeft
  rw [movedLeft.sameLists]
  cases isTop : lists.getTopActivity activityTask with
  | some nextActivity =>
      rw [isTop, Option.isSome_some, if_pos rfl] at delays
      refine movedLeft.replaceBy fun middle => ?_
      apply delays nextActivity middle
      rw [TaskLists.foreground_of_active isActive]
      exact isTop
  | none =>
      rw [isTop, Option.isSome_none, if_neg Bool.false_ne_true] at delays
      refine Spec.bind_known
        (fun mustNotFail => absurd trivial mustNotFail) ?_
      intro popped isPopped
      rw [TaskLists.popFront?_eq isPopped]
      have movedDropped :=
        movedLeft.setLists (lists.dropActive activityTask)
      have sameActive :
          (lists.dropActive activityTask).getActiveTask =
            TaskLists.getActiveTask
              { lists with mAllTasks := lists.mAllTasks.tail } := by
        unfold TaskLists.dropActive
        dsimp only
        split <;> rfl
      unfold TaskLists.dropActive at movedDropped sameActive delays ⊢
      dsimp only at movedDropped sameActive delays ⊢
      generalize
        (if some activityTask = lists.mHomeTask then
          { lists with
            mAllTasks := lists.mAllTasks.tail
            mHomeTask :=
              TaskLists.getActiveTask
                { lists with mAllTasks := lists.mAllTasks.tail } }
        else
          { lists with mAllTasks := lists.mAllTasks.tail }) =
          dropped at movedDropped sameActive delays ⊢
      cases isNext :
          TaskLists.getActiveTask
            { lists with mAllTasks := lists.mAllTasks.tail } with
      | none =>
          exact movedDropped.destroy activity
      | some activeTask =>
          have entered := movedDropped.setStackForeground activeTask true
          have sameTop :
              (left.setLists dropped).lists.getTopActivity activeTask =
                dropped.getTopActivity activeTask :=
            rfl
          dsimp only [Option.bind_eq_bind, Option.bind_some]
          rw [sameTop]
          cases isTop : dropped.getTopActivity activeTask with
          | none =>
              exact entered.destroy activity
          | some nextActivity =>
              refine entered.replaceBy fun middle => ?_
              apply delays nextActivity middle
              rw [TaskLists.foreground_of_active
                (sameActive.trans isNext).symm]
              exact isTop

theorem finishActivity
    {activity activityTask : Nat}
    {record : ActivityRecord}
    (moved : Moved parts before lists manager)
    (isRecord : manager.activities activity = some record)
    (inTask : manager.getTask record = some activityTask)
    (delays :
      parts.Delays activity
        (lists.finishActivity activityTask activity)) :
    Spec True (manager.finishActivity activity)
      (Moved parts before (lists.finishActivity activityTask activity)) := by
  have sameLists := moved.sameLists
  unfold TaskStackManager.finishActivity TaskLists.finishActivity
  rw [isRecord]
  simp only [Option.bind_eq_bind, Option.bind_some]
  rw [inTask, sameLists]
  refine (moved.clearAbove rfl _).bind ?_
  intro cleared movedCleared
  refine Spec.bind_known (fun mustNotFail => absurd trivial mustNotFail) ?_
  intro popped isPopped
  have movedPopped := movedCleared.pop isPopped
  by_cases isActive : some activityTask = lists.getActiveTask
  · rw [TaskLists.finishActivity, if_pos isActive] at delays
    rw [if_pos isActive]
    simp only [decide_eq_true isActive, if_true]
    exact movedPopped.finishActive isActive delays
  · rw [if_neg isActive]
    simp only [decide_eq_false isActive, Bool.false_eq_true, if_false]
    refine (movedPopped.destroy activity).bind ?_
    intro destroyed movedDestroyed
    rw [movedDestroyed.sameLists]
    cases isTop :
        (lists.setStack activityTask
          (TaskLists.below (lists.stackOf activityTask)
            activity)).getTopActivity activityTask with
    | none =>
        exact movedDestroyed.setLists _
    | some top =>
        exact movedDestroyed

/-- The activities from the top down to one of them are destroyed. -/
theorem deleteDownTo
    {task activity : Nat}
    {stack : List Nat}
    (moved : Moved parts before lists manager)
    (isStack : lists.stackOf task = stack)
    (onStack : activity ∈ stack)
    (fuel : Nat) :
    Spec True
      (TaskStackManager.deleteDownTo task activity fuel manager)
      (Moved parts before
        (lists.setStack task (TaskLists.below stack activity))) := by
  induction stack generalizing fuel manager lists with
  | nil =>
      exact absurd onStack List.not_mem_nil
  | cons top rest inductionHypothesis =>
      cases fuel with
      | zero =>
          trivial
      | succ fuel =>
          have isTop : manager.lists.getTopActivity task = some top := by
            rw [TaskLists.getTopActivity, moved.sameLists, isStack]
            rfl
          have popped :
              lists.popActivity? task = some (lists.setStack task rest) := by
            simp [TaskLists.popActivity?, isStack]
          rw [TaskStackManager.deleteDownTo, isTop]
          refine (moved.destroy top).bind ?_
          intro middle movedMiddle
          rw [movedMiddle.sameLists, popped]
          have movedPopped := movedMiddle.setLists (lists.setStack task rest)
          dsimp only [Option.bind_eq_bind, Option.bind_some]
          split
          · rename_i isActivity
            simpa [TaskLists.below, isActivity] using movedPopped
          · rename_i isAbove
            have inRest : activity ∈ rest := by
              rcases List.mem_cons.mp onStack with isActivity | inRest
              · exact absurd isActivity.symm isAbove
              · exact inRest
            have later :=
              inductionHypothesis movedPopped
                (TaskLists.setStack_stacks _ _ _) inRest fuel
            simpa [TaskLists.below, isAbove] using later

/-- The active task shows its new top, or the next task's. -/
theorem resumeNext
    {task : Nat}
    (moved : Moved parts before lists manager) :
    Spec True (manager.resumeNext task)
      (Moved parts before
        (if (lists.getTopActivity task).isSome then
          lists
        else
          { lists with mAllTasks := lists.mAllTasks.tail })) := by
  have sameLists := moved.sameLists
  unfold TaskStackManager.resumeNext
  rw [sameLists]
  cases lists.getTopActivity task with
  | some nextActivity =>
      exact moved.resume nextActivity
  | none =>
      refine Spec.bind_known
        (fun mustNotFail => absurd trivial mustNotFail) ?_
      intro popped isPopped
      rw [TaskLists.popFront?_eq isPopped]
      have movedPopped :=
        moved.setLists { lists with mAllTasks := lists.mAllTasks.tail }
      dsimp only [Option.bind_eq_bind, Option.bind_some]
      split
      · rename_i nextActivity _
        exact movedPopped.resume nextActivity
      · exact movedPopped

theorem deleteActivity
    {activity task : Nat}
    {record : ActivityRecord}
    (moved : Moved parts before lists manager)
    (isRecord : manager.activities activity = some record)
    (inTask : manager.getTask record = some task) :
    Spec True (manager.deleteActivity activity)
      (Moved parts before (lists.deleteActivity task activity)) := by
  let remaining := lists.remaining task activity
  have deleted :
      Spec True
        (if activity ∈ manager.lists.stackOf task then
          TaskStackManager.deleteDownTo task activity
            (manager.loopFuel task) manager
        else
          some manager)
        (Moved parts before (lists.setStack task remaining)) := by
    rw [moved.sameLists]
    split
    · rename_i onStack
      have downTo := moved.deleteDownTo rfl onStack (manager.loopFuel task)
      simpa [remaining, TaskLists.remaining, onStack] using downTo
    · rename_i notOnStack
      have unchanged : lists.setStack task remaining = lists := by
        simp [remaining, TaskLists.remaining, notOnStack]
      rw [unchanged]
      exact moved
  rw [deleteActivity_eq isRecord inTask]
  refine deleted.bind ?_
  intro middle movedMiddle
  have shrunk :
      Spec True (middle.shrink task)
        (Moved parts before (lists.shrinkTo task remaining)) := by
    unfold TaskStackManager.shrink
    rw [movedMiddle.sameLists]
    split
    · rename_i isActive
      have isActiveHere : some task = lists.getActiveTask := isActive
      rw [← TaskLists.shrinkTo_active isActiveHere]
      exact movedMiddle.resumeNext
    · rw [← TaskLists.shrinkTo_other]
      split
      · exact movedMiddle.setLists _
      · exact movedMiddle
  refine shrunk.bind ?_
  intro next movedNext
  rw [Spec.some_iff, TaskStackManager.updateHome, movedNext.sameLists]
  unfold TaskLists.deleteActivity
  exact movedNext.setLists _

end Moved

end TaskStackManager

end ActivityManager
