import ActivityManager.BackgroundMoves
import ActivityManager.FailedStarts
import ActivityManager.RepeatedFinish

/-!
# Activities that are started

`startActivityReal` goes through the modes and flags of an activity, finds or
makes a task, and turns to an activity of it or pushes a new one.  However it
gets there, the activity is on top of the front task in the end, with the
intent of the request, and the other tasks are as they were.
-/

namespace ActivityManager

open StepSystem PartialProgram

/-! ## What requests leave alone -/

/-- What requests leave of a record. -/
structure Title where
  mName : String
  mIntent : Intent
  mApp : Option Nat
  deriving DecidableEq

namespace ActivityRecord

/-- The title of a record. -/
def title (activity : ActivityRecord) : Title where
  mName := activity.mName
  mIntent := activity.mIntent
  mApp := activity.mApp

/-- A command keeps the title. -/
theorem perform_title
    {activity : ActivityRecord}
    {app : Option AppRecord}
    {turn : TurnTo}
    {effect : LifecycleEffect}
    (performed : activity.perform turn app = some effect) :
    effect.activity.title = activity.title := by
  cases turn with
  | none =>
      cases performed
  | create =>
      rw [← Option.some.inj performed, create]
      split
      · cases notStopped app <;> rfl
      · rfl
  | start =>
      rw [← Option.some.inj performed, start]
      split
      · cases notStopped app <;> rfl
      · rfl
  | resume =>
      rw [← Option.some.inj performed, resume]
      split
      · cases notStopped app <;> rfl
      · rfl
  | pause =>
      rw [← Option.some.inj performed, pause, command]
      split <;> rfl
  | stop =>
      rw [← Option.some.inj performed, stop, command]
      split <;> rfl
  | destroy =>
      rw [← Option.some.inj performed, destroy, command]
      split <;> rfl

/-- A request keeps the title. -/
theorem lifecycleTransition?_title
    {activity : ActivityRecord}
    {app : Option AppRecord}
    {toStatus : Status}
    {transition : LifecycleTransition}
    (turned :
      activity.lifecycleTransition? app toStatus = some transition) :
    transition.activity.title = activity.title := by
  rcases lifecycleTransition?_cases turned with
    ⟨_, isRemembered⟩ | ⟨_, _, isSame⟩ | ⟨_, _, _, _, performed, isCommand⟩
  · rw [isRemembered]
    rfl
  · rw [isSame]
  · rw [isCommand]
    have sameTitle := perform_title performed
    exact sameTitle

end ActivityRecord

namespace TaskStackManager

/-- The titles of all activities. -/
def titles
    (manager : TaskStackManager)
    (activity : Nat) : Option Title :=
  (manager.activities activity).map ActivityRecord.title

/-- The applications that have a record. -/
def alive
    (manager : TaskStackManager)
    (app : Nat) : Bool :=
  (manager.apps app).isSome

/--
What an operation has left alone so far, and the lists it has come to.  If it
must not fail, statuses have rows in the lifecycle table and tasks on the
board refer to known activities.
-/
structure Holds
    (mayFail : Prop)
    (titles : Nat → Option Title)
    (alive : Nat → Bool)
    (lists : TaskLists)
    (manager : TaskStackManager) : Prop where
  sameTitles : manager.titles = titles
  sameAlive : manager.alive = alive
  sameLists : manager.lists = lists
  rows :
    ¬ mayFail →
    ∀ activity record,
      manager.activities activity = some record →
      hasRowOrNone record.mStatus = true
  onBoard :
    ¬ mayFail →
    ∀ handler ∈ manager.mPendTask.mTasklist,
      ∀ activity ∈ handler.mTask.activities,
        (titles activity).isSome = true

namespace Holds

variable
  {mayFail : Prop}
  {titles : Nat → Option Title}
  {alive : Nat → Bool}
  {lists : TaskLists}
  {manager next : TaskStackManager}
  {activity : Nat}
  {toStatus : Status}

/-- Known activities have records. -/
theorem exists_record
    (holds : Holds mayFail titles alive lists manager)
    (known : (titles activity).isSome = true) :
    ∃ record, manager.activities activity = some record := by
  rw [← holds.sameTitles, TaskStackManager.titles,
    Option.isSome_map] at known
  exact Option.isSome_iff_exists.mp known

/-- One record changes its status, and the applications stay. -/
theorem change
    {record changed : ActivityRecord}
    (holds : Holds mayFail titles alive lists manager)
    (isRecord : manager.activities activity = some record)
    (activities :
      next.activities =
        Function.update manager.activities activity (some changed))
    (sameTitle : changed.title = record.title)
    (sameAlive : next.alive = manager.alive)
    (sameLists : next.lists = manager.lists)
    (row : ¬ mayFail → hasRowOrNone changed.mStatus = true)
    (onBoard :
      ¬ mayFail →
      ∀ handler ∈ next.mPendTask.mTasklist,
        ∀ other ∈ handler.mTask.activities,
          (titles other).isSome = true) :
    Holds mayFail titles alive lists next where
  sameTitles := by
    rw [← holds.sameTitles]
    funext other
    unfold TaskStackManager.titles
    rw [activities]
    by_cases isThis : other = activity
    · rw [isThis, Function.update_self, isRecord]
      exact congrArg some sameTitle
    · rw [Function.update_of_ne isThis]
  sameAlive := sameAlive.trans holds.sameAlive
  sameLists := sameLists.trans holds.sameLists
  rows mustNotFail other found isFound := by
    rw [activities] at isFound
    by_cases isThis : other = activity
    · rw [isThis, Function.update_self, Option.some.injEq] at isFound
      rw [← isFound]
      exact row mustNotFail
    · rw [Function.update_of_ne isThis] at isFound
      exact holds.rows mustNotFail other found isFound
  onBoard := onBoard

/-- A request after its event. -/
theorem turn
    (holds : Holds mayFail titles alive lists manager)
    (known : ¬ mayFail → (titles activity).isSome = true)
    (requested : toStatus ∈ requestedStatuses) :
    Spec mayFail (manager.turn activity toStatus)
      (Holds mayFail titles alive lists) := by
  cases isNext : manager.turn activity toStatus with
  | none =>
      by_contra mustNotFail
      obtain ⟨record, isRecord⟩ :=
        holds.exists_record (known mustNotFail)
      have follows :=
        lifecycleTransition?_isSome
          (holds.rows mustNotFail activity record isRecord) requested
          (record.mApp.bind manager.apps)
      obtain ⟨transition, turned⟩ := Option.isSome_iff_exists.mp follows
      simp [TaskStackManager.turn, isRecord, turned] at isNext
  | some next =>
      obtain ⟨record, transition, changed⟩ := turn_cases isNext
      obtain ⟨_, _, status, _⟩ :=
        ActivityRecord.lifecycleTransition?_frame changed.turned
      refine
        holds.change changed.isRecord changed.activities
          (ActivityRecord.lifecycleTransition?_title changed.turned) ?_
          changed.lists ?_ ?_
      · funext app
        rcases turn_apps isNext with
          sameApps | ⟨hosting, old, listed, isOld, isSet⟩
        · rw [TaskStackManager.alive, sameApps]
          rfl
        · unfold TaskStackManager.alive
          rw [isSet]
          by_cases isHosting : app = hosting
          · rw [isHosting, Function.update_self, isOld]
            rfl
          · rw [Function.update_of_ne isHosting]
      · intro mustNotFail
        rcases status with isSame | ⟨turnTo, isTransitional⟩
        · rw [isSame]
          exact
            holds.rows mustNotFail activity record changed.isRecord
        · rw [isTransitional]
          cases turnTo <;> rfl
      · intro mustNotFail handler member other isOther
        rw [changed.mPendTask] at member
        split at member
        · rw [TaskBoard.commitTask_mTasklist, List.mem_append,
            List.mem_singleton] at member
          rcases member with onBoard | isNew
          · exact holds.onBoard mustNotFail handler onBoard other isOther
          · subst isNew
            rw [List.mem_singleton.mp isOther]
            exact known mustNotFail
        · exact holds.onBoard mustNotFail handler member other isOther

/-- Nothing changes but the task board. -/
theorem reboard
    (holds : Holds mayFail titles alive lists manager)
    (activities : next.activities = manager.activities)
    (apps : next.apps = manager.apps)
    (sameLists : next.lists = manager.lists)
    (onBoard :
      ¬ mayFail →
      ∀ handler ∈ next.mPendTask.mTasklist,
        ∀ other ∈ handler.mTask.activities,
          (titles other).isSome = true) :
    Holds mayFail titles alive lists next where
  sameTitles := by
    rw [← holds.sameTitles]
    unfold TaskStackManager.titles
    rw [activities]
  sameAlive := by
    rw [← holds.sameAlive]
    unfold TaskStackManager.alive
    rw [apps]
  sameLists := sameLists.trans holds.sameLists
  rows := by
    rw [activities]
    exact holds.rows
  onBoard := onBoard

/-- A wait is done. -/
theorem done
    (holds : Holds mayFail titles alive lists manager)
    (serial : Nat) :
    Holds mayFail titles alive lists (manager.done serial) := by
  refine holds.reboard rfl rfl rfl ?_
  intro mustNotFail handler member
  obtain ⟨before, onBoard, isHandler⟩ := List.mem_map.mp member
  have sameTask : handler.mTask = before.mTask := by
    rw [← isHandler]
    split <;> rfl
  rw [sameTask]
  exact holds.onBoard mustNotFail before onBoard

/-- A wait begins. -/
theorem commit
    {resumeActivity willStopActivity : Nat}
    (holds : Holds mayFail titles alive lists manager)
    (known :
      ¬ mayFail →
      (titles resumeActivity).isSome = true ∧
        (titles willStopActivity).isSome = true) :
    Holds mayFail titles alive lists
      (manager.commit (.waitResume resumeActivity willStopActivity)) := by
  refine holds.reboard rfl rfl rfl ?_
  intro mustNotFail handler member other isOther
  rw [TaskStackManager.commit, TaskBoard.commitTask_mTasklist,
    List.mem_append, List.mem_singleton] at member
  rcases member with onBoard | isNew
  · exact holds.onBoard mustNotFail handler onBoard other isOther
  · subst isNew
    rcases List.mem_cons.mp isOther with isResumed | isStopped
    · rw [isResumed]
      exact (known mustNotFail).1
    · rw [List.mem_singleton.mp isStopped]
      exact (known mustNotFail).2

/-- The activity behind a resumed one is stopped. -/
theorem executeWaitResume
    {willStopActivity : Nat}
    (holds : Holds mayFail titles alive lists manager)
    (known : ¬ mayFail → (titles willStopActivity).isSome = true) :
    Spec mayFail
      (TaskStackManager.executeWaitResume (lifecycleTransitionFrom 1)
        manager willStopActivity)
      (Holds mayFail titles alive lists) := by
  refine Spec.bind_known ?_ ?_
  · intro mustNotFail
    exact
      Option.isSome_iff_exists.mpr (holds.exists_record (known mustNotFail))
  · intro record isRecord
    split
    · rename_i wantsToPause
      have noEvent :
          ∀ found,
            manager.activities willStopActivity = some found →
            ¬ (found.mTargetStatus = Status.resumed ∧
              Status.stopped > Status.resumed ∧
              found.mStatus < Status.resuming) := by
        intro found isFound
        rw [isRecord] at isFound
        rw [← Option.some.inj isFound]
        simp [wantsToPause]
      rw [Tracks.lifecycleTransitionFrom_eq_turn noEvent 0]
      exact holds.turn known (by simp [requestedStatuses])
    · exact holds

/-- The event of an activity that will not be resumed. -/
theorem triggerWaitResume
    (holds : Holds mayFail titles alive lists manager)
    (activity : Nat) :
    Spec mayFail
      (TaskStackManager.triggerWaitResume (lifecycleTransitionFrom 1)
        manager activity)
      (Holds mayFail titles alive lists) := by
  unfold TaskStackManager.triggerWaitResume
  split
  · rename_i handler isFirst
    have onBoard : handler ∈ manager.mPendTask.mTasklist :=
      List.mem_of_find?_eq_some isFirst
    dsimp only
    split
    · rename_i resumeActivity willStopActivity isTask
      apply (holds.done handler.serial).executeWaitResume
      intro mustNotFail
      apply holds.onBoard mustNotFail handler onBoard
      rw [isTask]
      simp [PendTask.activities]
    · exact holds.done handler.serial
  · exact holds

/-- A request. -/
theorem lifecycleTransition
    (holds : Holds mayFail titles alive lists manager)
    (known : ¬ mayFail → (titles activity).isSome = true)
    (requested : toStatus ∈ requestedStatuses) :
    Spec mayFail (manager.lifecycleTransition activity toStatus)
      (Holds mayFail titles alive lists) := by
  unfold TaskStackManager.lifecycleTransition lifecycleTransitionFrom
  refine Spec.bind_known ?_ ?_
  · intro mustNotFail
    exact
      Option.isSome_iff_exists.mpr (holds.exists_record (known mustNotFail))
  · intro record _
    refine
      Spec.bind_ite
        (fun _ => holds.triggerWaitResume activity)
        (fun _ => holds) ?_
    intro middle holdsMiddle
    exact holdsMiddle.turn known requested

/-- The application of an activity is counted. -/
theorem counted
    {isForeground : Bool}
    (holds : Holds mayFail titles alive lists manager)
    (isNext :
      manager.setActivityForeground activity isForeground = some next) :
    Holds mayFail titles alive lists next := by
  obtain ⟨app, old, isApp, isSet⟩ := setActivityForeground_cases isNext
  have isOld := apps_of_getAppRecord isApp
  rw [isSet]
  exact
    { sameTitles := holds.sameTitles
      sameAlive := by
        rw [← holds.sameAlive]
        funext other
        unfold TaskStackManager.alive setAppForeground setApp
        by_cases isThis : other = app
        · simp [isThis, isOld]
        · simp [isThis]
      sameLists := holds.sameLists
      rows := holds.rows
      onBoard := holds.onBoard }

/-- An activity that knows a living application. -/
def Hosted
    (titles : Nat → Option Title)
    (alive : Nat → Bool)
    (activity : Nat) : Prop :=
  ∃ title app,
    titles activity = some title ∧
      title.mApp = some app ∧
      alive app = true

theorem Hosted.known
    (hosted : Hosted titles alive activity) :
    (titles activity).isSome = true := by
  obtain ⟨title, _, isTitle, _⟩ := hosted
  rw [isTitle]
  rfl

/-- The application of an activity is counted if it lives. -/
theorem setActivityForeground
    {isForeground : Bool}
    (holds : Holds mayFail titles alive lists manager)
    (hosted : ¬ mayFail → Hosted titles alive activity) :
    Spec mayFail (manager.setActivityForeground activity isForeground)
      (Holds mayFail titles alive lists) := by
  cases isNext : manager.setActivityForeground activity isForeground with
  | none =>
      by_contra mustNotFail
      obtain ⟨title, app, isTitle, inApp, isAlive⟩ := hosted mustNotFail
      rw [← holds.sameTitles] at isTitle
      obtain ⟨record, isRecord, rfl⟩ := Option.map_eq_some_iff.mp isTitle
      rw [← holds.sameAlive] at isAlive
      obtain ⟨appRecord, isApp⟩ := Option.isSome_iff_exists.mp isAlive
      have isHosting : record.mApp = some app := inApp
      simp [TaskStackManager.setActivityForeground, isRecord, isHosting,
        isApp] at isNext
  | some next =>
      exact holds.counted isNext

/-- A stack is counted; lost applications are skipped. -/
theorem setForegroundAll
    {isForeground : Bool}
    {activities : List Nat}
    (holds : Holds mayFail titles alive lists manager) :
    Holds mayFail titles alive lists
      (TaskStackManager.setForegroundAll isForeground activities
        manager) := by
  induction activities generalizing manager with
  | nil =>
      exact holds
  | cons activity rest inductionHypothesis =>
      rw [TaskStackManager.setForegroundAll]
      apply inductionHypothesis
      cases isNext : manager.setActivityForeground activity isForeground with
      | none =>
          exact holds
      | some next =>
          exact holds.counted isNext

/-- The lists change. -/
theorem setLists
    (holds : Holds mayFail titles alive lists manager)
    (others : TaskLists) :
    Holds mayFail titles alive others (manager.setLists others) where
  sameTitles := holds.sameTitles
  sameAlive := holds.sameAlive
  sameLists := rfl
  rows := holds.rows
  onBoard := holds.onBoard

/-- A task comes to the front. -/
theorem pushTaskToFront
    (holds : Holds mayFail titles alive lists manager)
    (activityStack : Nat) :
    Holds mayFail titles alive (lists.pushTaskToFront activityStack)
      (manager.pushTaskToFront activityStack) := by
  unfold TaskStackManager.pushTaskToFront TaskLists.pushTaskToFront
  rw [holds.sameLists]
  dsimp only
  split
  · apply setForegroundAll
    split
    · rename_i active _
      have left :
          Holds mayFail titles alive lists
            (manager.setStackForeground active false) :=
        holds.setForegroundAll
      have brought := left.setLists (lists.moveToFront activityStack)
      rw [left.sameLists]
      exact brought
    · rw [holds.sameLists]
      exact holds.setLists (lists.moveToFront activityStack)
  · exact holds

/-- The activities above another one, or all of them, are destroyed. -/
theorem clearAbove
    {targetStack : Nat}
    {activity : Option Nat}
    {isActive : Bool}
    {stack : List Nat}
    (holds : Holds mayFail titles alive lists manager)
    (isStack : lists.stackOf targetStack = stack)
    (hosted :
      ¬ mayFail →
      ∀ other ∈ stack, Hosted titles alive other)
    {fuel : Nat}
    (enough : stack.length < fuel) :
    Spec mayFail
      (TaskStackManager.clearAbove targetStack activity isActive fuel
        manager)
      (Holds mayFail titles alive
        (lists.clearAbove targetStack activity)) := by
  induction stack generalizing fuel manager lists with
  | nil =>
      cases fuel with
      | zero =>
          exact absurd enough (Nat.not_lt_zero _)
      | succ fuel =>
          have noTop : manager.lists.getTopActivity targetStack = none := by
            rw [TaskLists.getTopActivity, holds.sameLists, isStack]
            rfl
          rw [TaskStackManager.clearAbove, noTop,
            TaskLists.clearAbove_of_stop isStack rfl]
          exact holds
  | cons top rest inductionHypothesis =>
      cases fuel with
      | zero =>
          exact absurd enough (Nat.not_lt_zero _)
      | succ fuel =>
          have isTop :
              manager.lists.getTopActivity targetStack = some top := by
            rw [TaskLists.getTopActivity, holds.sameLists, isStack]
            rfl
          rw [TaskStackManager.clearAbove, isTop]
          dsimp only
          split
          · rename_i isActivity
            rw [TaskLists.clearAbove_of_stop isStack (by simp [isActivity])]
            exact holds
          · rename_i isAbove
            have popped :
                lists.popActivity? targetStack =
                  some (lists.setStack targetStack rest) := by
              simp [TaskLists.popActivity?, isStack]
            have sameClear :
                (lists.setStack targetStack rest).clearAbove targetStack
                    activity =
                  lists.clearAbove targetStack activity := by
              simp [TaskLists.clearAbove, isStack, isAbove]
            have topHosted :
                ¬ mayFail → Hosted titles alive top :=
              fun mustNotFail => hosted mustNotFail top List.mem_cons_self
            have restHosted :
                ¬ mayFail → ∀ other ∈ rest, Hosted titles alive other :=
              fun mustNotFail other member =>
                hosted mustNotFail other (List.mem_cons_of_mem top member)
            rw [← sameClear]
            refine
              (holds.lifecycleTransition
                (fun mustNotFail => (topHosted mustNotFail).known)
                (by simp [requestedStatuses])).bind ?_
            intro middle holdsMiddle
            rw [holdsMiddle.sameLists, popped]
            have holdsPopped :=
              holdsMiddle.setLists (lists.setStack targetStack rest)
            refine
              Spec.bind_ite
                (fun _ => holdsPopped.setActivityForeground topHosted)
                (fun _ => holdsPopped) ?_
            intro next holdsNext
            exact inductionHypothesis holdsNext
              (TaskLists.setStack_stacks _ _ _) restHosted
              (Nat.lt_of_succ_lt_succ enough)

/-- The top of the active task is to be paused, or a home task is founded. -/
theorem pauseActive
    {targetStack : Nat}
    (holds : Holds mayFail titles alive lists manager)
    (hasTop :
      ∀ active,
        lists.getActiveTask = some active →
        ∃ top, lists.getTopActivity active = some top)
    (known :
      ¬ mayFail →
      ∀ active top,
        lists.getActiveTask = some active →
        lists.getTopActivity active = some top →
        (titles top).isSome = true) :
    Spec mayFail (manager.pauseActive targetStack) fun result =>
      Holds mayFail titles alive (lists.foundHome targetStack) result.1 ∧
        (¬ mayFail →
          ∀ lastTop ∈ result.2, (titles lastTop).isSome = true) := by
  unfold TaskStackManager.pauseActive TaskLists.foundHome
  rw [holds.sameLists]
  cases isActive : lists.getActiveTask with
  | none =>
      exact ⟨holds.setLists _, fun _ _ => nofun⟩
  | some active =>
      obtain ⟨top, isTop⟩ := hasTop active isActive
      have topKnown : ¬ mayFail → (titles top).isSome = true :=
        fun mustNotFail => known mustNotFail active top isActive isTop
      dsimp only
      rw [isTop, Option.bind_eq_bind, Option.bind_some]
      refine
        (holds.lifecycleTransition topKnown
          (by simp [requestedStatuses])).bind ?_
      intro paused holdsPaused
      refine ⟨holdsPaused, ?_⟩
      intro mustNotFail lastTop isLast
      rw [← Option.some.inj isLast]
      exact topKnown mustNotFail

/-- `pushNewActivity`. -/
theorem pushNewActivity
    {targetStack startFlag : Nat}
    (holds : Holds mayFail titles alive lists manager)
    (hasTop :
      ∀ active,
        lists.getActiveTask = some active →
        ∃ top, lists.getTopActivity active = some top)
    (stacked :
      ¬ mayFail →
      ∀ task, ∀ other ∈ lists.stackOf task, Hosted titles alive other)
    (hosted : ¬ mayFail → Hosted titles alive activity) :
    Spec mayFail
      (manager.pushNewActivity targetStack activity startFlag)
      (Holds mayFail titles alive
        (lists.pushNewActivity targetStack activity startFlag)) := by
  unfold TaskStackManager.pushNewActivity TaskLists.pushNewActivity
  have topKnown :
      ¬ mayFail →
      ∀ active top,
        lists.getActiveTask = some active →
        lists.getTopActivity active = some top →
        (titles top).isSome = true := by
    intro mustNotFail active top _ isTop
    have onStack : top ∈ lists.stackOf active := List.mem_of_head? isTop
    exact (stacked mustNotFail active top onStack).known
  refine (holds.pauseActive hasTop topKnown).bind ?_
  rintro ⟨paused, lastTopActivity⟩ ⟨holdsPaused, lastKnown⟩
  dsimp only at holdsPaused lastKnown ⊢
  have sameStacks := lists.foundHome_stackOf targetStack
  generalize isCleared :
    (if startFlag &&& flagActivityClearTask ≠ 0 then
      (lists.foundHome targetStack).clearAbove targetStack none
    else
      lists.foundHome targetStack) = clearedLists
  refine Spec.bind_ite
    (fun clears => ?_) (fun keeps => ?_)
    fun cleared
      (holdsCleared : Holds mayFail titles alive clearedLists cleared) => ?_
  · rw [← isCleared, if_pos clears]
    refine holdsPaused.clearAbove rfl ?_ ?_
    · rw [sameStacks]
      exact fun mustNotFail => stacked mustNotFail targetStack
    · rw [loopFuel, holdsPaused.sameLists]
      exact Nat.lt_succ_self _
  · rw [← isCleared, if_neg keeps]
    exact holdsPaused
  rw [holdsCleared.sameLists]
  have holdsPushed :=
    holdsCleared.setLists (clearedLists.pushActivity targetStack activity)
  refine
    Spec.bind_ite
      (fun _ => holdsPushed.setActivityForeground hosted)
      (fun _ => holdsPushed) ?_
  intro entered holdsEntered
  refine
    (holdsEntered.lifecycleTransition
      (fun mustNotFail => (hosted mustNotFail).known)
      (by simp [requestedStatuses])).bind ?_
  intro resumed holdsResumed
  cases lastTopActivity with
  | none =>
      exact holdsResumed.pushTaskToFront targetStack
  | some lastTop =>
      apply pushTaskToFront
      apply holdsResumed.commit
      intro mustNotFail
      exact ⟨(hosted mustNotFail).known, lastKnown mustNotFail lastTop rfl⟩

/-- The titles once an activity has another intent. -/
def readdressed
    (titles : Nat → Option Title)
    (activity : Nat)
    (intent : Intent) : Nat → Option Title :=
  Function.update titles activity
    ((titles activity).map fun title => { title with mIntent := intent })

@[simp] theorem readdressed_isSome
    (titles : Nat → Option Title)
    (activity : Nat)
    (intent : Intent)
    (other : Nat) :
    (readdressed titles activity intent other).isSome =
      (titles other).isSome := by
  unfold readdressed
  by_cases isThis : other = activity
  · rw [isThis, Function.update_self, Option.isSome_map]
  · rw [Function.update_of_ne isThis]

/-- An activity gets another intent. -/
theorem setIntent
    (holds : Holds mayFail titles alive lists manager)
    (known : ¬ mayFail → (titles activity).isSome = true)
    (intent : Intent) :
    Spec mayFail (manager.setIntent activity intent)
      (Holds mayFail (readdressed titles activity intent) alive lists) := by
  refine Spec.bind_known ?_ ?_
  · intro mustNotFail
    exact
      Option.isSome_iff_exists.mpr (holds.exists_record (known mustNotFail))
  · intro record isRecord
    have isTitle : titles activity = some record.title := by
      rw [← holds.sameTitles, TaskStackManager.titles, isRecord]
      rfl
    constructor
    · funext other
      unfold TaskStackManager.titles setRecord readdressed
      dsimp only
      by_cases isThis : other = activity
      · rw [isThis, Function.update_self, Function.update_self, isTitle]
        rfl
      · rw [Function.update_of_ne isThis, Function.update_of_ne isThis,
          ← holds.sameTitles]
        rfl
    · exact holds.sameAlive
    · exact holds.sameLists
    · intro mustNotFail other found isFound
      unfold setRecord at isFound
      dsimp only at isFound
      by_cases isThis : other = activity
      · rw [isThis, Function.update_self, Option.some.injEq] at isFound
        rw [← isFound]
        exact holds.rows mustNotFail activity record isRecord
      · rw [Function.update_of_ne isThis] at isFound
        exact holds.rows mustNotFail other found isFound
    · intro mustNotFail handler member other isOther
      rw [readdressed_isSome]
      exact holds.onBoard mustNotFail handler member other isOther

/-- The top of the foreground pretends to be paused. -/
theorem setPaused
    (holds : Holds mayFail titles alive lists manager)
    (known : ¬ mayFail → (titles activity).isSome = true) :
    Spec mayFail (manager.setStatus activity Status.paused)
      (Holds mayFail titles alive lists) := by
  refine Spec.bind_known ?_ ?_
  · intro mustNotFail
    exact
      Option.isSome_iff_exists.mpr (holds.exists_record (known mustNotFail))
  · intro record isRecord
    exact
      holds.change isRecord rfl rfl rfl rfl (fun _ => rfl) holds.onBoard

/-- The end of `turnToActivity`, once the task is cleared. -/
theorem turnInFront
    {targetStack : Nat}
    {intent : Intent}
    {activeTask lastTopActivity : Option Nat}
    (holds : Holds mayFail titles alive lists manager)
    (known : ¬ mayFail → (titles activity).isSome = true)
    (lastKnown :
      ¬ mayFail →
      ∀ lastTop ∈ lastTopActivity, (titles lastTop).isSome = true) :
    Spec mayFail
      (manager.turnInFront targetStack activity intent activeTask
        lastTopActivity)
      (Holds mayFail (readdressed titles activity intent) alive
        (lists.pushTaskToFront targetStack)) := by
  have stillKnown :
      ¬ mayFail →
      (readdressed titles activity intent activity).isSome = true := by
    rw [readdressed_isSome]
    exact known
  refine (holds.setIntent known intent).bind ?_
  intro informed holdsInformed
  refine
    (holdsInformed.lifecycleTransition stillKnown
      (by simp [requestedStatuses])).bind ?_
  intro resumed holdsResumed
  apply pushTaskToFront
  split
  · rename_i lastTop
    split
    · apply holdsResumed.commit
      intro mustNotFail
      refine ⟨stillKnown mustNotFail, ?_⟩
      rw [readdressed_isSome]
      exact lastKnown mustNotFail lastTop rfl
    · exact holdsResumed
  · exact holdsResumed

/-- `turnToActivity`. -/
theorem turnToActivity
    {targetStack startFlag : Nat}
    {intent : Intent}
    (holds : Holds mayFail titles alive lists manager)
    (stacked :
      ¬ mayFail →
      ∀ task, ∀ other ∈ lists.stackOf task, Hosted titles alive other)
    (known : ¬ mayFail → (titles activity).isSome = true) :
    Spec mayFail
      (manager.turnToActivity targetStack activity intent startFlag)
      (Holds mayFail (readdressed titles activity intent) alive
        (lists.turnToActivity targetStack activity startFlag)) := by
  have sameLists := holds.sameLists
  unfold TaskStackManager.turnToActivity TaskLists.turnToActivity
  rw [sameLists]
  dsimp only
  split
  · have stillKnown :
        ¬ mayFail →
        (readdressed titles activity intent activity).isSome = true := by
      rw [readdressed_isSome]
      exact known
    refine (holds.setIntent known intent).bind ?_
    intro informed holdsInformed
    refine (holdsInformed.setPaused stillKnown).bind ?_
    intro paused holdsPaused
    exact
      holdsPaused.lifecycleTransition stillKnown
        (by simp [requestedStatuses])
  · generalize isCleared :
      (if startFlag &&& flagActivityClearTop ≠ 0 then
        lists.clearAbove targetStack (some activity)
      else
        lists) = clearedLists
    have lastKnown :
        ¬ mayFail →
        ∀ lastTop ∈ lists.getActiveTask.bind lists.getTopActivity,
          (titles lastTop).isSome = true := by
      intro mustNotFail lastTop isLast
      obtain ⟨active, _, isTop⟩ := Option.bind_eq_some_iff.mp isLast
      have onStack : lastTop ∈ lists.stackOf active :=
        List.mem_of_head? isTop
      exact (stacked mustNotFail active lastTop onStack).known
    generalize lists.getActiveTask.bind lists.getTopActivity =
      lastTopActivity at lastKnown ⊢
    have onward :
        ∀ paused,
          Holds mayFail titles alive lists paused →
          Spec mayFail
            (if startFlag &&& flagActivityClearTop ≠ 0 then
              TaskStackManager.clearAbove targetStack (some activity)
                  (some targetStack = lists.getActiveTask)
                  (paused.loopFuel targetStack) paused >>=
                fun manager =>
                  manager.turnInFront targetStack activity intent
                    lists.getActiveTask lastTopActivity
            else
              some paused >>= fun manager =>
                manager.turnInFront targetStack activity intent
                  lists.getActiveTask lastTopActivity)
            (Holds mayFail (readdressed titles activity intent) alive
              (clearedLists.pushTaskToFront targetStack)) := by
      intro paused holdsPaused
      refine Spec.bind_ite
        (fun clears => ?_) (fun keeps => ?_)
        fun cleared holdsCleared =>
          turnInFront holdsCleared known lastKnown
      · rw [← isCleared, if_pos clears]
        refine
          holdsPaused.clearAbove rfl
            (fun mustNotFail => stacked mustNotFail targetStack) ?_
        rw [loopFuel, holdsPaused.sameLists]
        exact Nat.lt_succ_self _
      · rw [← isCleared, if_neg keeps]
        exact holdsPaused
    cases lastTopActivity with
    | none =>
        exact onward manager holds
    | some lastTop =>
        refine
          (holds.lifecycleTransition
            (fun mustNotFail => lastKnown mustNotFail lastTop rfl)
            (by simp [requestedStatuses])).bind ?_
        intro paused holdsPaused
        exact onward paused holdsPaused

end Holds

end TaskStackManager

/-! ## The lists afterwards -/

namespace TaskLists

variable
  {lists : TaskLists}
  {task activity startFlag : Nat}

/--
A task is in front.  It has kept the lower part of its stack and something may
be added; the other tasks are as they were.
-/
structure Delivered
    (before : TaskLists)
    (task : Nat)
    (added kept : List Nat)
    (after : TaskLists) : Prop where
  inFront : after.getActiveTask = some task
  isStack : after.stackOf task = added ++ kept
  isKept : kept <:+ before.stackOf task
  others :
    ∀ other,
      other ≠ task →
      after.stackOf other = before.stackOf other
  order :
    after.mAllTasks.filter (· != task) =
      before.mAllTasks.filter (· != task)

/-- A task comes to the front of the others. -/
theorem pushTaskToFront_frame
    (lists : TaskLists)
    (task : Nat) :
    (lists.pushTaskToFront task).getActiveTask = some task ∧
      (lists.pushTaskToFront task).stackOf = lists.stackOf ∧
      (lists.pushTaskToFront task).mAllTasks.filter (· != task) =
        lists.mAllTasks.filter (· != task) := by
  unfold pushTaskToFront
  split
  · refine ⟨rfl, rfl, ?_⟩
    simp [moveToFront, List.filter_filter]
  · rename_i isActive
    exact ⟨(not_not.mp isActive).symm, rfl, rfl⟩

/-- A stack that is rebuilt in the background, and then shown. -/
theorem delivered_of_setStack
    {others : TaskLists}
    {added kept : List Nat}
    (sameTasks : others.mAllTasks = lists.mAllTasks)
    (sameStackOf :
      others.stackOf =
        Function.update lists.stackOf task (added ++ kept))
    (isKept : kept <:+ lists.stackOf task) :
    Delivered lists task added kept (others.pushTaskToFront task) := by
  obtain ⟨inFront, sameStacks, order⟩ := others.pushTaskToFront_frame task
  refine ⟨inFront, ?_, isKept, ?_, ?_⟩
  · rw [sameStacks, sameStackOf, Function.update_self]
  · intro other isOther
    rw [sameStacks, sameStackOf, Function.update_of_ne isOther]
  · rw [order, sameTasks]

/-- A new activity is pushed, onto an empty stack if that is asked for. -/
theorem pushNewActivity_delivered
    (lists : TaskLists)
    (task activity startFlag : Nat) :
    Delivered lists task [activity]
      (if startFlag &&& flagActivityClearTask ≠ 0 then []
        else lists.stackOf task)
      (lists.pushNewActivity task activity startFlag) := by
  have sameTasks := lists.foundHome_mAllTasks task
  have sameStacks := lists.foundHome_stackOf task
  unfold pushNewActivity
  dsimp only
  split
  · apply delivered_of_setStack
    · exact sameTasks
    · have cleared :
          ((lists.foundHome task).clearAbove task none).stackOf =
            Function.update lists.stackOf task [] := by
        unfold clearAbove setStack
        rw [sameStacks, List.dropWhile_eq_nil_iff.mpr (by simp)]
      rw [pushActivity, setStack]
      dsimp only
      rw [cleared, Function.update_self, Function.update_idem]
      rfl
    · exact List.nil_suffix
  · apply delivered_of_setStack
    · exact sameTasks
    · simp [pushActivity, setStack, sameStacks]
    · exact List.suffix_refl _

/-- What is below an activity of a stack, with the activity. -/
theorem below_suffix
    {stack : List Nat}
    (onStack : activity ∈ stack) :
    activity :: below stack activity <:+ stack := by
  obtain ⟨above, isSplit, _⟩ := exists_above onStack
  exact ⟨above, isSplit.symm⟩

/-- A top has everything else below. -/
theorem eq_below_of_top
    (isTop : lists.getTopActivity task = some activity) :
    lists.stackOf task =
      activity :: below (lists.stackOf task) activity := by
  obtain ⟨rest, isStack⟩ := List.head?_eq_some_iff.mp isTop
  simp [isStack, below]

/-- An activity is turned to: it is on top already, or its task is cleared. -/
theorem turnToActivity_delivered
    (onStack : activity ∈ lists.stackOf task)
    (apart :
      ∀ other, activity ∈ lists.stackOf other → other = task)
    (clears :
      startFlag &&& flagActivityClearTop ≠ 0 ∨
        lists.getTopActivity task = some activity) :
    Delivered lists task []
      (activity :: below (lists.stackOf task) activity)
      (lists.turnToActivity task activity startFlag) := by
  have isKept := below_suffix onStack
  unfold turnToActivity
  split
  · rename_i isLast
    obtain ⟨active, isActive, isTop⟩ := Option.bind_eq_some_iff.mp isLast
    have isTask : active = task :=
      apart active (List.mem_of_head? isTop)
    rw [isTask] at isActive isTop
    exact
      ⟨isActive, eq_below_of_top isTop, isKept, fun _ _ => rfl, rfl⟩
  · dsimp only
    split
    · refine delivered_of_setStack (by rfl) ?_ isKept
      funext other
      by_cases isThis : other = task
      · rw [isThis, clearAbove_stackOf_of_mem onStack, Function.update_self]
        rfl
      · simp [clearAbove, setStack, isThis]
    · rename_i noClear
      have isTop := clears.resolve_left noClear
      apply delivered_of_setStack rfl ?_ isKept
      rw [List.nil_append, ← eq_below_of_top isTop,
        Function.update_eq_self]

end TaskLists

/-! ## The flags -/

/-- A flag that is added to others. -/
theorem hasFlag_or
    (flags added flag : Nat) :
    (flags ||| added) &&& flag ≠ 0 ↔
      flags &&& flag ≠ 0 ∨ added &&& flag ≠ 0 := by
  rw [Nat.and_or_distrib_right, Ne, Nat.or_eq_zero_iff, not_and_or]

namespace ActivityManagerInner

variable
  {inner arranged next : ActivityManagerInner}
  {packageInfo : PackageInfo}
  {info : ActivityInfo}
  {intent : Intent}
  {caller : Option Nat}
  {plan : StartPlan}
  {task activity : Nat}
  {startFlag : Nat}
  {isNewTask : Bool}
  {activityUniqueName : String}

/-- The plan only adds that a new task may be needed. -/
theorem startPlan_clearTask
    (inner : ActivityManagerInner)
    (packageInfo : PackageInfo)
    (info : ActivityInfo)
    (intent : Intent)
    (caller : Option Nat) :
    (inner.startPlan packageInfo info intent caller).startFlag &&&
        flagActivityClearTask ≠ 0 ↔
      intent.mFlag &&& flagActivityClearTask ≠ 0 := by
  have isPlanned :
      (inner.startPlan packageInfo info intent caller).startFlag =
          intent.mFlag ||| flagActivityNewTask ∨
        (inner.startPlan packageInfo info intent caller).startFlag =
          intent.mFlag :=
    ite_eq_or_eq _ _ _
  rcases isPlanned with isAdded | isSame
  · rw [isAdded, hasFlag_or]
    have isOther :
        ¬ flagActivityNewTask &&& flagActivityClearTask ≠ 0 := by
      decide
    exact or_iff_left isOther
  · rw [isSame]

/-! ## The target -/

/-- The task that is found is listed, and a new one has a new number. -/
theorem targetTask_cases
    (isTarget :
      inner.targetTask false plan = (arranged, some task, isNewTask)) :
    OnlyTask inner arranged ∧
      ((isNewTask = true ∧ task = inner.nextTask) ∨
        (isNewTask = false ∧ task ∈ inner.manager.lists.mAllTasks)) := by
  have onlyTask := inner.targetTask_onlyTask false plan
  rw [isTarget] at onlyTask
  refine ⟨onlyTask, ?_⟩
  unfold targetTask at isTarget
  split at isTarget
  · split at isTarget
    · rename_i found isFound
      rw [Prod.mk.injEq, Prod.mk.injEq] at isTarget
      obtain ⟨_, isTask, isNew⟩ := isTarget
      rw [← Option.some.inj isTask]
      exact Or.inr ⟨isNew.symm, List.mem_of_find?_eq_some isFound⟩
    · rw [Prod.mk.injEq, Prod.mk.injEq] at isTarget
      obtain ⟨_, isTask, isNew⟩ := isTarget
      exact Or.inl ⟨isNew.symm, (Option.some.inj isTask).symm⟩
  · rw [Prod.mk.injEq, Prod.mk.injEq] at isTarget
    obtain ⟨_, isActive, isNew⟩ := isTarget
    exact Or.inr ⟨isNew.symm, List.mem_of_head? isActive⟩

/-- The modes in which a task has an activity once. -/
def StartPlan.isSingle (plan : StartPlan) : Prop :=
  plan.launchMode = .singleTask ∨ plan.launchMode = .singleInstance

/--
The target activity, if there is one, is on the stack under the name that is
asked for, and either on top or to be cleared down to.
-/
structure Targeted
    (inner : ActivityManagerInner)
    (plan : StartPlan)
    (task : Nat)
    (activityUniqueName : String)
    (target : Option Nat)
    (startFlag : Nat) : Prop where
  clearTask :
    startFlag &&& flagActivityClearTask ≠ 0 ↔
      plan.startFlag &&& flagActivityClearTask ≠ 0
  found :
    ∀ activity ∈ target,
      activity ∈ inner.manager.lists.stackOf task ∧
        inner.activityName activity = some activityUniqueName ∧
        (startFlag &&& flagActivityClearTop ≠ 0 ∨
          inner.manager.lists.getTopActivity task = some activity) ∧
        (plan.isSingle →
          ∀ other ∈
              TaskLists.below (inner.manager.lists.stackOf task) activity,
            inner.activityName other ≠ some activityUniqueName)
  notFound :
    target = none →
    plan.isSingle →
    ∀ other ∈ inner.manager.lists.stackOf task,
      inner.activityName other ≠ some activityUniqueName

/-- It only depends on what the task manager has. -/
theorem Targeted.of_sameManager
    {target : Option Nat}
    (targeted :
      Targeted arranged plan task activityUniqueName target startFlag)
    (sameManager : arranged.manager = inner.manager) :
    Targeted inner plan task activityUniqueName target startFlag where
  clearTask := targeted.clearTask
  found := by
    have found := targeted.found
    unfold activityName at found ⊢
    rw [sameManager] at found
    exact found
  notFound := by
    have notFound := targeted.notFound
    unfold activityName at notFound ⊢
    rw [sameManager] at notFound
    exact notFound

/-- The first activity from the root is above others of its name. -/
theorem targeted_first
    (distinct : (inner.manager.lists.stackOf task).Nodup)
    (target : Option Nat)
    (isTarget :
      ((inner.manager.lists.stackOf task).reverse.find? fun activity =>
        inner.activityName activity = some activityUniqueName) = target) :
    Targeted inner plan task activityUniqueName target
      (plan.startFlag ||| flagActivityClearTop) where
  clearTask := by
    rw [hasFlag_or]
    have isOther : ¬ flagActivityClearTop &&& flagActivityClearTask ≠ 0 := by
      decide
    exact or_iff_left isOther
  found activity isActivity := by
    have isFound := isTarget.trans isActivity
    obtain ⟨isNamed, first, later, isSplit, noneBefore⟩ :=
      List.find?_eq_some_iff_append.mp isFound
    have isStack :
        inner.manager.lists.stackOf task =
          later.reverse ++ activity :: first.reverse := by
      rw [← List.reverse_reverse (inner.manager.lists.stackOf task), isSplit]
      simp
    rw [isStack] at distinct ⊢
    have isBelow :
        TaskLists.below (later.reverse ++ activity :: first.reverse)
            activity =
          first.reverse := by
      obtain ⟨above, isSplitAt, _⟩ :=
        TaskLists.exists_above
          (show activity ∈ later.reverse ++ activity :: first.reverse by
            simp)
      exact (TaskLists.split_unique distinct isSplitAt rfl).2
    refine ⟨by simp, by simpa using isNamed, Or.inl ?_, ?_⟩
    · rw [hasFlag_or]
      exact Or.inr (by decide)
    · rw [isBelow]
      intro _ other member
      simpa using noneBefore other (List.mem_reverse.mp member)
  notFound isNone _ other onStack := by
    have noneFound := isTarget.trans isNone
    rw [List.find?_eq_none] at noneFound
    simpa using noneFound other (List.mem_reverse.mpr onStack)

/-- A start without a target. -/
theorem targeted_none
    (clearTask :
      startFlag &&& flagActivityClearTask ≠ 0 ↔
        plan.startFlag &&& flagActivityClearTask ≠ 0)
    (noneNamed :
      plan.isSingle →
      ∀ other ∈ inner.manager.lists.stackOf task,
        inner.activityName other ≠ some activityUniqueName) :
    Targeted inner plan task activityUniqueName none startFlag where
  clearTask := clearTask
  found _ := nofun
  notFound _ := noneNamed

/-- The search for a target. -/
theorem targetActivity_targeted
    (distinct : (inner.manager.lists.stackOf task).Nodup)
    (isEmpty :
      inner.manager.lists.stackOf task = [] ↔ isNewTask = true) :
    ∃ target startFlag,
      inner.targetActivity false plan (some task) isNewTask
          activityUniqueName =
        some (target, startFlag) ∧
      Targeted inner plan task activityUniqueName target startFlag := by
  unfold targetActivity
  cases isNewTask with
  | true =>
      refine ⟨none, plan.startFlag, rfl, targeted_none Iff.rfl ?_⟩
      rw [isEmpty.mpr rfl]
      exact fun _ _ member => absurd member List.not_mem_nil
  | false =>
      rw [if_neg Bool.false_ne_true]
      cases isMode : plan.launchMode with
      | standard =>
          refine ⟨none, plan.startFlag, rfl, targeted_none Iff.rfl ?_⟩
          intro isSingle
          simp [StartPlan.isSingle, isMode] at isSingle
      | singleTop =>
          have notSingle : ¬ plan.isSingle := by
            simp [StartPlan.isSingle, isMode]
          have notEmpty : inner.manager.lists.stackOf task ≠ [] :=
            fun isNone => Bool.false_ne_true (isEmpty.mp isNone)
          obtain ⟨top, rest, isStack⟩ := List.exists_cons_of_ne_nil notEmpty
          have isTop : inner.manager.lists.getTopActivity task = some top := by
            rw [TaskLists.getTopActivity, isStack]
            rfl
          have isLast :
              (inner.activityArray false task).getLast? = some top := by
            simp [activityArray, isStack]
          have clearTask :
              (plan.startFlag ||| flagActivitySingleTop) &&&
                    flagActivityClearTask ≠ 0 ↔
                plan.startFlag &&& flagActivityClearTask ≠ 0 := by
            rw [hasFlag_or]
            have isOther :
                ¬ flagActivitySingleTop &&& flagActivityClearTask ≠ 0 := by
              decide
            exact or_iff_left isOther
          simp only [Option.bind_eq_bind, Option.bind_some, isLast]
          split
          · rename_i isNamed
            refine ⟨some top, _, rfl, clearTask, ?_, by simp⟩
            intro activity isActivity
            rw [← Option.some.inj isActivity]
            refine ⟨by simp [isStack], isNamed, Or.inr isTop, ?_⟩
            exact fun isSingle => absurd isSingle notSingle
          · exact
              ⟨none, _, rfl,
                targeted_none clearTask fun isSingle =>
                  absurd isSingle notSingle⟩
      | singleTask =>
          exact
            ⟨_, _, rfl,
              targeted_first distinct _ rfl⟩
      | singleInstance =>
          exact
            ⟨_, _, rfl,
              targeted_first distinct _ rfl⟩

/-! ## The operation -/

/-- New objects are in no container. -/
structure FreshNumbers (inner : ActivityManagerInner) : Prop where
  taskUnlisted : inner.nextTask ∉ inner.manager.lists.mAllTasks
  taskEmpty : inner.manager.lists.stackOf inner.nextTask = []
  activity :
    ∀ task,
      inner.manager.nextActivity ∉ inner.manager.lists.stackOf task

/-- The stack of the task is empty if and only if the task is new. -/
theorem targetTask_stackOf
    {inTask : Nat → Option Nat}
    (wellStacked : inner.manager.lists.WellStacked inTask)
    (fresh : FreshNumbers inner)
    (isTarget :
      inner.targetTask false plan = (arranged, some task, isNewTask)) :
    inner.manager.lists.stackOf task = [] ↔ isNewTask = true := by
  obtain ⟨_, ⟨isNew, isTask⟩ | ⟨notNew, listed⟩⟩ := targetTask_cases isTarget
  · rw [isTask, isNew]
    exact iff_of_true fresh.taskEmpty rfl
  · rw [notNew]
    exact iff_of_false (wellStacked.notEmpty task listed) Bool.false_ne_true

/-! ## The calls of a start to the priority list -/

/-- The service, with no process in its priority list. -/
def unlisted (inner : ActivityManagerInner) : ActivityManagerInner :=
  { inner with
    mPriorityPolicy := .empty inner.mPriorityPolicy.mLmk }

/-- The calls of a start, which a list without processes can all receive. -/
def startCalls
    (inner : ActivityManagerInner)
    (activityName : String)
    (packageInfo : PackageInfo)
    (intent : Intent)
    (caller : Option Nat)
    (isOkToLaunch : Bool)
    (spawned : Option Nat) : List Call :=
  match inner.unlisted.startActivityReal activityName packageInfo intent
      caller isOkToLaunch spawned with
  | some (next, _) => next.manager.calls.drop inner.manager.calls.length
  | none => []

/-- A list without processes looks for a node, and that is all. -/
theorem deliver_empty
    (lmk : LowMemoryManager)
    (calls : List Call) :
    ManagedProcesses.deliver calls (.empty lmk) = some (.empty lmk) := by
  have notListed :
      ∀ pid, (ProcessPriorityPolicy.empty lmk).get pid = some none :=
    fun pid =>
      (ProcessPriorityPolicy.Represents.empty lmk).listed.get_absent
        (List.forall_mem_nil _)
  induction calls with
  | nil =>
      rfl
  | cons call rest inductionHypothesis =>
      cases call with
      | pushForeground pid =>
          simp [ManagedProcesses.deliver, notListed, inductionHypothesis,
            ProcessPriorityPolicy.pushForeground]
      | intoBackground pid =>
          simp [ManagedProcesses.deliver, notListed, inductionHypothesis,
            ProcessPriorityPolicy.intoBackground]
      | _ =>
          exact inductionHypothesis

/-- Only a list without a foreground can be unable to receive a call. -/
theorem deliver_isSome
    {policy : ProcessPriorityPolicy}
    (isList : policy.IsList)
    (hasForeground : policy.mHead ≠ policy.mBackgroundPos)
    (calls : List Call) :
    (ManagedProcesses.deliver calls policy).isSome = true := by
  obtain ⟨parts, represents⟩ := isList
  have foreground : parts.foreground ≠ [] := by
    intro isEmpty
    apply hasForeground
    rw [represents.listed.head, represents.background,
      PriorityParts.all, isEmpty, List.nil_append]
  clear hasForeground
  induction calls generalizing policy parts with
  | nil =>
      rfl
  | cons call rest inductionHypothesis =>
      cases call with
      | pushForeground pid =>
          obtain ⟨next, isNext, pushed, _⟩ := represents.pushForeground pid
          rw [ManagedProcesses.deliver, isNext]
          exact
            inductionHypothesis _ pushed
              (PriorityParts.pushForeground_keepsForeground foreground)
      | intoBackground pid =>
          rcases represents.intoBackground pid with
            ⟨next, isNext, moved, _⟩ | ⟨isEmpty, _⟩
          · rw [ManagedProcesses.deliver, isNext]
            exact
              inductionHypothesis _ moved
                (PriorityParts.intoBackground_foreground_ne_nil foreground)
          · exact absurd isEmpty foreground
      | _ =>
          exact inductionHypothesis _ represents foreground

/--
Nothing is missing for requests to activities of the tasks: they have records
and living applications, and the statuses have rows in the lifecycle table.
The priority list can receive the calls that are made.
-/
structure Ready
    (inner : ActivityManagerInner)
    (calls : List Call) : Prop where
  hosted :
    ∀ task,
      ∀ activity ∈ inner.manager.lists.stackOf task,
        TaskStackManager.Holds.Hosted inner.manager.titles
          inner.manager.alive activity
  rows :
    ∀ activity record,
      inner.manager.activities activity = some record →
      hasRowOrNone record.mStatus = true
  onBoard :
    ∀ handler ∈ inner.manager.mPendTask.mTasklist,
      ∀ activity ∈ handler.mTask.activities,
        (inner.manager.titles activity).isSome = true
  delivered :
    (ManagedProcesses.deliver calls inner.mPriorityPolicy).isSome = true

/-- The service takes over what the task manager has done. -/
theorem withManager_spec
    {mayFail : Prop}
    {moved : TaskStackManager}
    (delivered :
      ¬ mayFail →
      (ManagedProcesses.deliver
          (moved.calls.drop inner.manager.calls.length)
          inner.mPriorityPolicy).isSome = true) :
    Spec mayFail (inner.withManager moved)
      (fun next => next.manager = moved) := by
  refine Spec.bind_known delivered ?_
  intro policy _
  rfl

/-- The activity that was asked for is on top of the front task. -/
structure ActivityDelivered
    (inner : ActivityManagerInner)
    (plan : StartPlan)
    (task : Nat)
    (activityUniqueName : String)
    (intent : Intent)
    (next : ActivityManagerInner) : Prop where
  lists :
    ∃ added kept,
      TaskLists.Delivered inner.manager.lists task added kept
          next.manager.lists ∧
        (added = [] ∨
          added = [inner.manager.nextActivity] ∧
            (intent.mFlag &&& flagActivityClearTask ≠ 0 → kept = []))
  onTop :
    ∃ top record,
      next.manager.lists.getTopActivity task = some top ∧
        next.manager.activities top = some record ∧
        record.mName = activityUniqueName ∧
        record.mIntent = intent
  once :
    plan.isSingle →
    ((next.manager.lists.stackOf task).countP fun activity =>
      next.activityName activity = some activityUniqueName) = 1

/-- Names are in the titles. -/
theorem activityName_eq
    (inner : ActivityManagerInner)
    (activity : Nat) :
    inner.activityName activity =
      (inner.manager.titles activity).map Title.mName := by
  unfold activityName TaskStackManager.titles
  rw [Option.map_map]
  rfl

/-- The stack of the front task starts with the activity. -/
theorem activityDelivered_of_stack
    {added kept rest : List Nat}
    {top : Nat}
    {title : Title}
    (delivered :
      TaskLists.Delivered inner.manager.lists task added kept
        next.manager.lists)
    (isAdded :
      added = [] ∨
        added = [inner.manager.nextActivity] ∧
          (intent.mFlag &&& flagActivityClearTask ≠ 0 → kept = []))
    (isStack : added ++ kept = top :: rest)
    (isTitle : next.manager.titles top = some title)
    (isNamed : title.mName = activityUniqueName)
    (isAddressed : title.mIntent = intent)
    (noneBelow :
      plan.isSingle →
      ∀ other ∈ rest,
        next.activityName other ≠ some activityUniqueName) :
    ActivityDelivered inner plan task activityUniqueName intent next where
  lists := ⟨added, kept, delivered, isAdded⟩
  onTop := by
    obtain ⟨record, isRecord, rfl⟩ := Option.map_eq_some_iff.mp isTitle
    refine ⟨top, record, ?_, isRecord, isNamed, isAddressed⟩
    rw [TaskLists.getTopActivity, delivered.isStack, isStack]
    rfl
  once isSingle := by
    rw [delivered.isStack, isStack, List.countP_cons_of_pos,
      List.countP_eq_zero.mpr]
    · intro other member
      simpa using noneBelow isSingle other member
    · simp [activityName_eq, isTitle, isNamed]

/-- What a start finds of the task manager. -/
theorem holds_of_ready
    (inner : ActivityManagerInner)
    (calls : List Call) :
    TaskStackManager.Holds (¬ Ready inner calls) inner.manager.titles
      inner.manager.alive inner.manager.lists inner.manager where
  sameTitles := rfl
  sameAlive := rfl
  sameLists := rfl
  rows ready := (not_not.mp ready).rows
  onBoard ready := (not_not.mp ready).onBoard

/-- A turn to the activity that was found delivers it. -/
theorem Targeted.turned
    {mayFail : Prop}
    {inTask : Nat → Option Nat}
    (wellStacked : inner.manager.lists.WellStacked inTask)
    (targeted :
      Targeted inner plan task activityUniqueName (some activity) startFlag)
    (turned :
      TaskStackManager.Holds mayFail
        (TaskStackManager.Holds.readdressed inner.manager.titles activity
          intent)
        inner.manager.alive
        (inner.manager.lists.turnToActivity task activity startFlag)
        next.manager) :
    ActivityDelivered inner plan task activityUniqueName intent next := by
  obtain ⟨onStack, isNamed, clears, noneBelow⟩ := targeted.found activity rfl
  rw [activityName_eq] at isNamed
  obtain ⟨title, isTitle, isName⟩ := Option.map_eq_some_iff.mp isNamed
  have apart :
      ∀ other,
        activity ∈ inner.manager.lists.stackOf other →
        other = task := by
    intro other onOther
    have inOther := wellStacked.owned other activity onOther
    have inThis := wellStacked.owned task activity onStack
    exact Option.some.inj (inOther.symm.trans inThis)
  have delivered :=
    TaskLists.turnToActivity_delivered onStack apart clears
  rw [← turned.sameLists] at delivered
  have isReaddressed :
      next.manager.titles activity =
        some { title with mIntent := intent } := by
    rw [turned.sameTitles, TaskStackManager.Holds.readdressed,
      Function.update_self, isTitle]
    rfl
  refine
    activityDelivered_of_stack delivered (Or.inl rfl) rfl isReaddressed
      isName rfl ?_
  intro isSingle other isBelow
  have stillNamed :
      next.activityName other = inner.activityName other := by
    rw [activityName_eq, activityName_eq, turned.sameTitles,
      TaskStackManager.Holds.readdressed]
    by_cases isThis : other = activity
    · rw [isThis, Function.update_self, Option.map_map]
      rfl
    · rw [Function.update_of_ne isThis]
  rw [stillNamed]
  exact noneBelow isSingle other isBelow

/-- A start that turns to an activity. -/
theorem turnToActivity_delivers
    {inTask : Nat → Option Nat}
    {calls : List Call}
    (wellStacked : inner.manager.lists.WellStacked inTask)
    (onlyTask : OnlyTask inner arranged)
    (targeted :
      Targeted arranged plan task activityUniqueName (some activity)
        startFlag)
    (areCalls :
      ∀ moved,
        inner.manager.turnToActivity task activity intent startFlag =
          some moved →
        moved.calls.drop inner.manager.calls.length = calls) :
    Spec (¬ Ready inner calls)
      (arranged.turnToActivity false task activity intent startFlag)
      (ActivityDelivered inner plan task activityUniqueName intent) := by
  have sameManager : arranged.manager = inner.manager := by
    rw [onlyTask.same]
  have samePolicy : arranged.mPriorityPolicy = inner.mPriorityPolicy := by
    rw [onlyTask.same]
  have found := targeted.of_sameManager sameManager
  have known : (inner.manager.titles activity).isSome = true := by
    obtain ⟨_, isNamed, _⟩ := found.found activity rfl
    rw [activityName_eq] at isNamed
    rw [← Option.isSome_map, isNamed]
    rfl
  have turns :
      Spec (¬ Ready inner calls)
        (inner.manager.turnToActivity task activity intent startFlag)
        (TaskStackManager.Holds (¬ Ready inner calls)
          (TaskStackManager.Holds.readdressed inner.manager.titles activity
            intent)
          inner.manager.alive
          (inner.manager.lists.turnToActivity task activity startFlag)) :=
    (holds_of_ready inner calls).turnToActivity
      (fun ready => (not_not.mp ready).hosted) (fun _ => known)
  unfold turnToActivity
  rw [if_neg Bool.false_ne_true, sameManager]
  refine turns.withResult.bind ?_
  rintro moved ⟨isResult, holdsMoved⟩
  have delivers :
      ¬¬ Ready inner calls →
      (ManagedProcesses.deliver
          (moved.calls.drop arranged.manager.calls.length)
          arranged.mPriorityPolicy).isSome = true := by
    rw [sameManager, samePolicy, areCalls moved isResult]
    exact fun ready => (not_not.mp ready).delivered
  refine (withManager_spec delivers).mono ?_
  intro next isMoved
  rw [← isMoved] at holdsMoved
  exact found.turned wellStacked holdsMoved

/-- The titles once there is a new activity. -/
def titlesWith
    (inner : ActivityManagerInner)
    (activityUniqueName : String)
    (intent : Intent)
    (app : Nat) : Nat → Option Title :=
  Function.update inner.manager.titles inner.manager.nextActivity
    (some
      { mName := activityUniqueName
        mIntent := intent
        mApp := some app })

/-- A new activity whose application is known. -/
theorem holds_newActivity
    (inner : ActivityManagerInner)
    (calls : List Call)
    (activityUniqueName : String)
    (task app : Nat)
    (intent : Intent) :
    ∃ hosting,
      (inner.manager.createActivity activityUniqueName task
            intent).setAppThread inner.manager.nextActivity app =
          some hosting ∧
        hosting.calls = inner.manager.calls ∧
        TaskStackManager.Holds (¬ Ready inner calls)
          (inner.titlesWith activityUniqueName intent app)
          inner.manager.alive inner.manager.lists hosting := by
  have isSet :
      (inner.manager.createActivity activityUniqueName task
            intent).setAppThread inner.manager.nextActivity app =
        some
          ((inner.manager.createActivity activityUniqueName task
            intent).setRecord inner.manager.nextActivity
            (ActivityRecord.fresh activityUniqueName
              inner.manager.nextActivity (some app) task intent)) := by
    simp [TaskStackManager.setAppThread, TaskStackManager.createActivity,
      TaskStackManager.setRecord, ActivityRecord.fresh]
  refine ⟨_, isSet, rfl, ?_, rfl, rfl, ?_, ?_⟩
  · funext other
    unfold titlesWith TaskStackManager.titles TaskStackManager.setRecord
      TaskStackManager.createActivity TaskStackManager.setRecord
    dsimp only
    by_cases isNew : other = inner.manager.nextActivity
    · rw [isNew, Function.update_self, Function.update_self]
      rfl
    · rw [Function.update_of_ne isNew, Function.update_of_ne isNew,
        Function.update_of_ne isNew]
  · intro ready other record isRecord
    unfold TaskStackManager.setRecord TaskStackManager.createActivity
      TaskStackManager.setRecord at isRecord
    dsimp only at isRecord
    by_cases isNew : other = inner.manager.nextActivity
    · rw [isNew, Function.update_self, Option.some.injEq] at isRecord
      rw [← isRecord]
      rfl
    · rw [Function.update_of_ne isNew, Function.update_of_ne isNew]
        at isRecord
      exact (not_not.mp ready).rows other record isRecord
  · intro ready handler member other isOther
    unfold titlesWith
    by_cases isNew : other = inner.manager.nextActivity
    · rw [isNew, Function.update_self]
      rfl
    · rw [Function.update_of_ne isNew]
      exact (not_not.mp ready).onBoard handler member other isOther

/-- An application that is found to be alive has a record. -/
theorem alive_of_findAppInfoWithAlive
    {packageName : String}
    {app : Nat}
    (runs : inner.findAppInfoWithAlive packageName = some app) :
    inner.manager.alive app = true := by
  unfold findAppInfoWithAlive at runs
  have isMatched := List.find?_some runs
  obtain ⟨record, isRecord, _⟩ := (Option.any_eq_true _ _).mp isMatched
  rw [TaskStackManager.alive, isRecord]
  rfl

/-- What is on the stacks is not new, and keeps its application. -/
theorem Ready.hosted_titlesWith
    {calls : List Call}
    (ready : Ready inner calls)
    (fresh : FreshNumbers inner)
    (activityUniqueName : String)
    (intent : Intent)
    (app : Nat) :
    ∀ other,
      ∀ stacked ∈ inner.manager.lists.stackOf other,
        TaskStackManager.Holds.Hosted
          (inner.titlesWith activityUniqueName intent app)
          inner.manager.alive stacked := by
  intro other stacked onStack
  have isOld : stacked ≠ inner.manager.nextActivity :=
    fun same => fresh.activity other (same ▸ onStack)
  obtain ⟨title, host, isTitle, inApp, hostAlive⟩ :=
    ready.hosted other stacked onStack
  refine ⟨title, host, ?_, inApp, hostAlive⟩
  rw [titlesWith, Function.update_of_ne isOld]
  exact isTitle

/-- Where none was found, a new activity that is pushed is delivered. -/
theorem Targeted.pushed
    {mayFail : Prop}
    {app : Nat}
    (fresh : FreshNumbers inner)
    (clearTask :
      startFlag &&& flagActivityClearTask ≠ 0 ↔
        intent.mFlag &&& flagActivityClearTask ≠ 0)
    (targeted :
      Targeted inner plan task activityUniqueName none startFlag)
    (pushed :
      TaskStackManager.Holds mayFail
        (inner.titlesWith activityUniqueName intent app)
        inner.manager.alive
        (inner.manager.lists.pushNewActivity task
          inner.manager.nextActivity startFlag)
        next.manager) :
    ActivityDelivered inner plan task activityUniqueName intent next := by
  have delivered :=
    inner.manager.lists.pushNewActivity_delivered task
      inner.manager.nextActivity startFlag
  rw [← pushed.sameLists] at delivered
  refine
    activityDelivered_of_stack delivered
      (Or.inr ⟨rfl, fun clears => if_pos (clearTask.mpr clears)⟩) rfl
      (by rw [pushed.sameTitles, titlesWith, Function.update_self]) rfl rfl
      ?_
  intro isSingle other isKept
  have onStack : other ∈ inner.manager.lists.stackOf task :=
    delivered.isKept.subset isKept
  have isOld : other ≠ inner.manager.nextActivity :=
    fun same => fresh.activity task (same ▸ onStack)
  have stillNamed :
      next.activityName other = inner.activityName other := by
    rw [activityName_eq, activityName_eq, pushed.sameTitles, titlesWith,
      Function.update_of_ne isOld]
  rw [stillNamed]
  exact targeted.notFound rfl isSingle other onStack

/-- A start that pushes a new activity. -/
theorem startNewActivity_delivers
    {calls : List Call}
    {app : Nat}
    {isOkToLaunch : Bool}
    {spawned : Option Nat}
    (fresh : FreshNumbers inner)
    (onlyTask : OnlyTask inner arranged)
    (isStandard : packageInfo.isSystemUI = false)
    (runs :
      inner.findAppInfoWithAlive packageInfo.packageName = some app)
    (clearTask :
      startFlag &&& flagActivityClearTask ≠ 0 ↔
        intent.mFlag &&& flagActivityClearTask ≠ 0)
    (targeted :
      Targeted arranged plan task activityUniqueName none startFlag)
    (hasTop :
      ∀ active,
        inner.manager.lists.getActiveTask = some active →
        ∃ top, inner.manager.lists.getTopActivity active = some top)
    (areCalls :
      ∀ hosting moved,
        (inner.manager.createActivity activityUniqueName task
              intent).setAppThread inner.manager.nextActivity app =
            some hosting →
        hosting.pushNewActivity task inner.manager.nextActivity startFlag =
            some moved →
        moved.calls.drop inner.manager.calls.length = calls) :
    Spec (¬ Ready inner calls)
      (arranged.startNewActivity packageInfo activityUniqueName plan
        (some task) startFlag intent isOkToLaunch spawned)
      fun result =>
        result.2.isOk = true ∧
          ActivityDelivered inner plan task activityUniqueName intent
            result.1 := by
  have sameManager : arranged.manager = inner.manager := by
    rw [onlyTask.same]
  have samePolicy : arranged.mPriorityPolicy = inner.mPriorityPolicy := by
    rw [onlyTask.same]
  have stillRuns :
      arranged.findAppInfoWithAlive packageInfo.packageName = some app := by
    rw [onlyTask.same]
    exact runs
  obtain ⟨hosting, isHosting, sameCalls, holds⟩ :=
    holds_newActivity inner calls activityUniqueName task app intent
  have newHosted :
      ¬¬ Ready inner calls →
      TaskStackManager.Holds.Hosted
        (inner.titlesWith activityUniqueName intent app)
        inner.manager.alive inner.manager.nextActivity :=
    fun _ =>
      ⟨_, app, Function.update_self _ _ _, rfl,
        alive_of_findAppInfoWithAlive runs⟩
  have pushes :
      Spec (¬ Ready inner calls)
        (hosting.pushNewActivity task inner.manager.nextActivity startFlag)
        (TaskStackManager.Holds (¬ Ready inner calls)
          (inner.titlesWith activityUniqueName intent app)
          inner.manager.alive
          (inner.manager.lists.pushNewActivity task
            inner.manager.nextActivity startFlag)) :=
    holds.pushNewActivity hasTop
      (fun ready =>
        (not_not.mp ready).hosted_titlesWith fresh activityUniqueName intent
          app)
      newHosted
  have attaches :
      Spec (¬ Ready inner calls)
        (({ arranged with
            nextTask := arranged.nextTask + 1 }.createActivity
              activityUniqueName plan.launchMode task
              intent).attachActivity false (some task)
                inner.manager.nextActivity startFlag app)
        (ActivityDelivered inner plan task activityUniqueName intent) := by
    unfold attachActivity createActivity
    dsimp only
    rw [sameManager, Option.bind_eq_bind, Option.bind_some, isHosting,
      Option.bind_eq_bind, Option.bind_some]
    unfold pushNewActivity
    rw [if_neg Bool.false_ne_true]
    refine pushes.withResult.bind ?_
    rintro moved ⟨isResult, holdsMoved⟩
    refine (withManager_spec ?_).mono ?_
    · dsimp only
      rw [samePolicy, sameCalls, areCalls hosting moved isHosting isResult]
      exact fun ready => (not_not.mp ready).delivered
    · intro next isMoved
      rw [← isMoved] at holdsMoved
      exact
        (targeted.of_sameManager sameManager).pushed fresh clearTask
          holdsMoved
  have sameNumber :
      arranged.manager.nextActivity = inner.manager.nextActivity := by
    rw [sameManager]
  unfold startNewActivity
  dsimp only
  rw [stillRuns, isStandard, sameNumber]
  refine attaches.bind ?_
  intro next delivered
  exact ⟨rfl, delivered⟩

/-- The priority list does not decide which task a start is for. -/
theorem targetTask_unlisted
    (isArranged :
      inner.targetTask false plan = (arranged, some task, isNewTask)) :
    inner.unlisted.targetTask false plan =
      (arranged.unlisted, some task, isNewTask) := by
  have sameTask :
      inner.unlisted.findTask false plan.taskAffinity =
        inner.findTask false plan.taskAffinity := by
    rfl
  unfold targetTask at isArranged ⊢
  by_cases asksNewTask : plan.startFlag &&& flagActivityNewTask ≠ 0
  · rw [if_pos asksNewTask] at isArranged ⊢
    rw [sameTask]
    cases isFound : inner.findTask false plan.taskAffinity with
    | some found =>
        rw [isFound, Prod.mk.injEq] at isArranged
        rw [← isArranged.1, ← isArranged.2]
    | none =>
        rw [isFound, Prod.mk.injEq] at isArranged
        rw [← isArranged.1, ← isArranged.2]
        rfl
  · rw [if_neg asksNewTask, Prod.mk.injEq] at isArranged
    rw [if_neg asksNewTask, ← isArranged.1, ← isArranged.2]
    rfl

/-- While no process is listed, nothing can go wrong with the calls. -/
theorem withManager_unlisted
    {lmk : LowMemoryManager}
    (noProcess : inner.mPriorityPolicy = .empty lmk)
    (moved : TaskStackManager) :
    inner.withManager moved = some { inner with manager := moved } := by
  rw [withManager, noProcess, deliver_empty, Option.bind_eq_bind,
    Option.bind_some, ← noProcess]

/-- The calls of a start that turns to an activity. -/
theorem startCalls_of_turned
    {activityName : String}
    {isOkToLaunch : Bool}
    {spawned : Option Nat}
    {moved : TaskStackManager}
    (isStandard : packageInfo.isSystemUI = false)
    (registered :
      packageInfo.activitiesInfo.find? (·.name == activityName) = some info)
    (isPlan : inner.startPlan packageInfo info intent caller = plan)
    (isArranged :
      inner.targetTask false plan = (arranged, some task, isNewTask))
    (isFound :
      arranged.targetActivity false plan (some task) isNewTask
          (packageInfo.packageName ++ "/" ++ activityName) =
        some (some activity, startFlag))
    (isMoved :
      arranged.manager.turnToActivity task activity intent startFlag =
        some moved) :
    moved.calls.drop inner.manager.calls.length =
      inner.startCalls activityName packageInfo intent caller isOkToLaunch
        spawned := by
  have isTurned :
      arranged.unlisted.turnToActivity false task activity intent
          startFlag =
        some { arranged.unlisted with manager := moved } := by
    unfold turnToActivity
    rw [if_neg Bool.false_ne_true]
    dsimp only [unlisted]
    rw [isMoved]
    exact withManager_unlisted rfl moved
  have samePlan :
      inner.unlisted.startPlan packageInfo info intent caller = plan :=
    isPlan
  have sameTarget :
      arranged.unlisted.targetActivity false plan (some task) isNewTask
          (packageInfo.packageName ++ "/" ++ activityName) =
        some (some activity, startFlag) :=
    isFound
  unfold startCalls startActivityReal
  rw [registered, isStandard]
  dsimp only
  rw [samePlan, targetTask_unlisted isArranged]
  dsimp only
  rw [sameTarget, Option.bind_eq_bind, Option.bind_some]
  dsimp only
  rw [Option.bind_eq_bind, Option.bind_some, isTurned]
  rfl

/-- The calls of a start that pushes a new activity. -/
theorem startCalls_of_pushed
    {activityName : String}
    {app : Nat}
    {isOkToLaunch : Bool}
    {spawned : Option Nat}
    {hosting moved : TaskStackManager}
    (isStandard : packageInfo.isSystemUI = false)
    (registered :
      packageInfo.activitiesInfo.find? (·.name == activityName) = some info)
    (runs :
      arranged.findAppInfoWithAlive packageInfo.packageName = some app)
    (isPlan : inner.startPlan packageInfo info intent caller = plan)
    (isArranged :
      inner.targetTask false plan = (arranged, some task, isNewTask))
    (isFound :
      arranged.targetActivity false plan (some task) isNewTask
          (packageInfo.packageName ++ "/" ++ activityName) =
        some (none, startFlag))
    (isHosting :
      (arranged.manager.createActivity
            (packageInfo.packageName ++ "/" ++ activityName) task
            intent).setAppThread arranged.manager.nextActivity app =
        some hosting)
    (isMoved :
      hosting.pushNewActivity task arranged.manager.nextActivity startFlag =
        some moved) :
    moved.calls.drop inner.manager.calls.length =
      inner.startCalls activityName packageInfo intent caller isOkToLaunch
        spawned := by
  have samePlan :
      inner.unlisted.startPlan packageInfo info intent caller = plan :=
    isPlan
  have sameTarget :
      arranged.unlisted.targetActivity false plan (some task) isNewTask
          (packageInfo.packageName ++ "/" ++ activityName) =
        some (none, startFlag) :=
    isFound
  have stillRuns :
      arranged.unlisted.findAppInfoWithAlive packageInfo.packageName =
        some app :=
    runs
  obtain ⟨created, isCreated⟩ :
      ∃ created,
        { arranged.unlisted with
          nextTask := arranged.unlisted.nextTask + 1 }.createActivity
            (packageInfo.packageName ++ "/" ++ activityName)
            plan.launchMode task intent =
          created :=
    ⟨_, rfl⟩
  have isAttached :
      created.attachActivity false (some task)
          arranged.manager.nextActivity startFlag app =
        some { created with manager := moved } := by
    rw [← isCreated]
    unfold attachActivity pushNewActivity
    dsimp only [createActivity, unlisted]
    rw [Option.bind_eq_bind, Option.bind_some, isHosting,
      Option.bind_eq_bind, Option.bind_some, if_neg Bool.false_ne_true,
      isMoved]
    exact withManager_unlisted rfl moved
  unfold startCalls startActivityReal
  rw [registered, isStandard]
  dsimp only
  rw [samePlan, targetTask_unlisted isArranged]
  dsimp only
  rw [sameTarget, Option.bind_eq_bind, Option.bind_some]
  dsimp only
  unfold startNewActivity
  dsimp only
  rw [stillRuns, isStandard]
  dsimp only
  rw [Option.getD_some, isCreated]
  erw [isAttached]
  rfl

/--
`startActivityReal` of a registered activity whose application runs.  If there
is a task for it, it succeeds and the activity is delivered; only something
that is missing for a request, or for a call that this very start makes to the
priority list, can prevent that.
-/
theorem startActivityReal_delivers
    {inTask : Nat → Option Nat}
    (inner : ActivityManagerInner)
    (activityName : String)
    (packageInfo : PackageInfo)
    (info : ActivityInfo)
    (intent : Intent)
    (caller : Option Nat)
    (isOkToLaunch : Bool)
    (spawned : Option Nat)
    (app task : Nat)
    (wellStacked : inner.manager.lists.WellStacked inTask)
    (fresh : FreshNumbers inner)
    (isStandard : packageInfo.isSystemUI = false)
    (registered :
      packageInfo.activitiesInfo.find? (·.name == activityName) = some info)
    (runs :
      inner.findAppInfoWithAlive packageInfo.packageName = some app)
    (isTarget :
      (inner.targetTask false
        (inner.startPlan packageInfo info intent caller)).2.1 = some task) :
    Spec
      (¬ Ready inner
        (inner.startCalls activityName packageInfo intent caller
          isOkToLaunch spawned))
      (inner.startActivityReal activityName packageInfo intent caller
        isOkToLaunch spawned)
      fun result =>
        result.2.isOk = true ∧
          ActivityDelivered inner
            (inner.startPlan packageInfo info intent caller) task
            (packageInfo.packageName ++ "/" ++ activityName) intent
            result.1 := by
  have planClears := inner.startPlan_clearTask packageInfo info intent caller
  unfold startActivityReal
  rw [registered, isStandard]
  dsimp only
  generalize isPlan :
    inner.startPlan packageInfo info intent caller = plan
    at isTarget planClears ⊢
  rcases isArranged : inner.targetTask false plan with
    ⟨arranged, found, isNewTask⟩
  rw [isArranged] at isTarget
  dsimp only at isTarget ⊢
  subst isTarget
  obtain ⟨onlyTask, _⟩ := targetTask_cases isArranged
  have sameManager : arranged.manager = inner.manager := by
    rw [onlyTask.same]
  have isEmpty :
      arranged.manager.lists.stackOf task = [] ↔ isNewTask = true := by
    rw [sameManager]
    exact targetTask_stackOf wellStacked fresh isArranged
  have distinct : (arranged.manager.lists.stackOf task).Nodup := by
    rw [sameManager]
    exact wellStacked.distinct task
  have hasTop :
      ∀ active,
        inner.manager.lists.getActiveTask = some active →
        ∃ top, inner.manager.lists.getTopActivity active = some top :=
    fun active isActive =>
      wellStacked.exists_topActivity (List.mem_of_head? isActive)
  obtain ⟨target, startFlag, isFound, targeted⟩ :
      ∃ target startFlag,
        arranged.targetActivity false plan (some task) isNewTask
            (packageInfo.packageName ++ "/" ++ activityName) =
          some (target, startFlag) ∧
        Targeted arranged plan task
          (packageInfo.packageName ++ "/" ++ activityName) target
          startFlag :=
    targetActivity_targeted distinct isEmpty
  rw [isFound, Option.bind_eq_bind, Option.bind_some]
  dsimp only
  cases target with
  | none =>
      refine
        startNewActivity_delivers fresh onlyTask isStandard runs
          (targeted.clearTask.trans planClears) targeted hasTop ?_
      intro hosting moved isHosting isMoved
      rw [← sameManager] at isHosting isMoved
      have stillRuns :
          arranged.findAppInfoWithAlive packageInfo.packageName =
            some app := by
        rw [onlyTask.same]
        exact runs
      exact
        startCalls_of_pushed isStandard registered stillRuns isPlan
          isArranged isFound isHosting isMoved
  | some activity =>
      dsimp only
      have areCalls :
          ∀ moved,
            inner.manager.turnToActivity task activity intent startFlag =
              some moved →
            moved.calls.drop inner.manager.calls.length =
              inner.startCalls activityName packageInfo intent caller
                isOkToLaunch spawned := by
        intro moved isMoved
        rw [← sameManager] at isMoved
        exact
          startCalls_of_turned isStandard registered isPlan isArranged
            isFound isMoved
      refine
        (turnToActivity_delivers wellStacked onlyTask targeted
          areCalls).bind ?_
      intro next delivered
      exact ⟨rfl, delivered⟩

/-- A package with a clock and its alarms. -/
def clockPackage : PackageInfo :=
  { musicPackage with
    packageName := "clock"
    entry := "face"
    activitiesInfo :=
      [{ name := "face", launchMode := "standard", taskAffinity := "" },
        { name := "alarms"
          launchMode := "standard"
          taskAffinity := "clock" }] }

/-- A request for an alarm, in the task of the clock. -/
def alarmIntent : Intent where
  mTarget := "clock/alarms"
  mAction := "set"
  mData := "7:00"
  mFlag := flagActivityNewTask

/-- The music is in front of the clock. -/
def musicOverClock : Option ActivityManagerInner :=
  run? step? (start [] 0 0)
    [.startActivity "face" clockPackage plainIntent none true (some 12),
      .attachApplication 12 false,
      .startActivity "main" musicPackage plainIntent none true (some 11),
      .attachApplication 11 false]

/-- There is one activity on each of the two stacks. -/
theorem musicOverClock_stackOf
    {task activity : Nat}
    (onStack :
      activity ∈ (musicOverClock.get rfl).manager.lists.stackOf task) :
    task = 0 ∧ activity = 0 ∨ task = 2 ∧ activity = 1 := by
  rcases task with _ | _ | _ | task
  · exact Or.inl ⟨rfl, List.mem_singleton.mp onStack⟩
  · cases onStack
  · exact Or.inr ⟨rfl, List.mem_singleton.mp onStack⟩
  · cases onStack

/-- The alarms are shown in front of the music, on top of the clock. -/
theorem musicOverClock_delivers :
    Ready (musicOverClock.get rfl)
        ((musicOverClock.get rfl).startCalls "alarms" clockPackage
          alarmIntent none true none) ∧
      ∃ result,
        (musicOverClock.get rfl).startActivityReal "alarms" clockPackage
            alarmIntent none true none =
          some result ∧
        result.2.isOk = true ∧
        ActivityDelivered (musicOverClock.get rfl)
          ((musicOverClock.get rfl).startPlan clockPackage
            { name := "alarms"
              launchMode := "standard"
              taskAffinity := "clock" }
            alarmIntent none)
          0 "clock/alarms" alarmIntent result.1 := by
  have accepted : musicOverClock = some (musicOverClock.get rfl) :=
    (Option.some_get _).symm
  have wellStacked :
      (musicOverClock.get rfl).manager.lists.WellStacked
        fun activity => some (2 * activity) :=
    { distinctTasks := by decide
      notEmpty := by decide
      distinct := by
        intro task
        rcases task with _ | _ | _ | task
        · exact List.nodup_singleton 0
        · exact List.nodup_nil
        · exact List.nodup_singleton 1
        · exact List.nodup_nil
      owned := by
        intro task activity onStack
        rcases musicOverClock_stackOf onStack with
          ⟨rfl, rfl⟩ | ⟨rfl, rfl⟩ <;> rfl }
  have fresh : FreshNumbers (musicOverClock.get rfl) :=
    { taskUnlisted := by decide
      taskEmpty := rfl
      activity := by
        intro task onStack
        rcases musicOverClock_stackOf onStack with
          ⟨_, isOld⟩ | ⟨_, isOld⟩ <;> cases isOld }
  have isList : (musicOverClock.get rfl).mPriorityPolicy.IsList := by
    have reachable :
        Reachable step? (fun _ _ => True) (start [] 0 0)
          (musicOverClock.get rfl) :=
      Reachable.of_run?
        (StepSystem.allowedRun_of_forall (fun _ _ => trivial) _ _) accepted
    refine
      reachable.invariant ⟨_, ProcessPriorityPolicy.Represents.empty _⟩ ?_
    intro before action after isList _ isAfter
    exact step?_keepsList isAfter isList
  have ready :
      Ready (musicOverClock.get rfl)
        ((musicOverClock.get rfl).startCalls "alarms" clockPackage
          alarmIntent none true none) :=
    { hosted := by
        intro task activity onStack
        rcases musicOverClock_stackOf onStack with
          ⟨_, rfl⟩ | ⟨_, rfl⟩
        · exact ⟨_, 0, rfl, rfl, rfl⟩
        · exact ⟨_, 1, rfl, rfl, rfl⟩
      rows := by
        intro activity record isRecord
        rcases activity with _ | _ | activity
        · rw [← Option.some.inj isRecord]
          rfl
        · rw [← Option.some.inj isRecord]
          rfl
        · cases isRecord
      onBoard := by decide
      delivered := deliver_isSome isList (by decide) _ }
  have spec :=
    startActivityReal_delivers (musicOverClock.get rfl) "alarms"
      clockPackage _ alarmIntent none true none 0 0 wellStacked fresh rfl
      rfl rfl rfl
  exact ⟨ready, spec.exists_result (not_not.mpr ready)⟩

/-- Three processes run for their services, and none is in the foreground. -/
def threeServices : Option ActivityManagerInner :=
  run? step? (start [] 0 0)
    [.startService "player" musicPackage plainIntent (some 11),
      .attachApplication 11 false,
      .startService "player" clockPackage plainIntent (some 12),
      .attachApplication 12 false,
      .startService "player" { clockPackage with packageName := "radio" }
        plainIntent (some 13),
      .attachApplication 13 false]

/-- Not every call can be received then, but those of a start can. -/
example :
    ManagedProcesses.deliver [.intoBackground 12]
        (threeServices.get rfl).mPriorityPolicy =
      none ∧
      ((threeServices.get rfl).startActivityReal "main" musicPackage
        plainIntent none true none).isSome = true :=
  ⟨rfl, rfl⟩

end ActivityManagerInner

end ActivityManager
