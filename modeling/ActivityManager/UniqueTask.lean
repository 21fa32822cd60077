import ActivityManager.StartedActivities

/-!
# At most one task per affinity

A start looks for a task of its affinity among those that are listed, and makes
up a new one if there is none.  A start that has to wait for a process keeps its
task with it, which is listed when the process attaches: another start with the
same affinity does not see it until then.  Where no start overlooks a task that
waits, the tasks that are listed or wait have distinct tags.
-/

namespace ActivityManager

open StepSystem (Reachable run?)
open PartialProgram

/-- The task of an ordinary activity that waits for its process. -/
def AppAttachTask.targetTask (task : AppAttachTask) : Option Nat :=
  match task.mCallback with
  | .startActivity false targetTask _ _ _ => targetTask
  | _ => none

namespace ActivityManagerInner

variable {inner next : ActivityManagerInner}

/-- The tasks whose activity waits for a process. -/
def awaitedTasks (inner : ActivityManagerInner) : List Nat :=
  (inner.mPendTask.mTasklist.filter fun handler =>
    !handler.mIsDone).filterMap (·.mTask.targetTask)

/-- The tasks that are listed, and those that will be. -/
def knownTasks (inner : ActivityManagerInner) : List Nat :=
  inner.manager.lists.mAllTasks ++ inner.awaitedTasks

/-- How many listed tasks have the tag and a root whose application runs. -/
def liveTasks
    (inner : ActivityManagerInner)
    (tag : String) : Nat :=
  inner.manager.lists.mAllTasks.countP fun task =>
    inner.mTag task = tag ∧
      inner.manager.isAliveTask (inner.manager.lists.stackOf task).getLast?

/-- The process of a start runs, or the start will wait for one. -/
def reachesProcess
    (inner : ActivityManagerInner)
    (packageInfo : PackageInfo)
    (isOkToLaunch : Bool)
    (spawned : Option Nat) : Bool :=
  (inner.findAppInfoWithAlive packageInfo.packageName).isSome ||
    isOkToLaunch && spawned.isSome &&
      (inner.getAttachingAppPid packageInfo.packageName).isNone

/--
A start of an ordinary activity makes up a task, although one with that tag
waits for its process.
-/
def overlooksTask
    (inner : ActivityManagerInner) : InnerAction → Bool
  | .startActivityReal activityName packageInfo intent caller isOkToLaunch
      spawned =>
      (packageInfo.activitiesInfo.find? (·.name == activityName)).any
        fun info =>
          let plan := inner.startPlan packageInfo info intent caller
          !packageInfo.isSystemUI &&
            (inner.targetTask false plan).2.2 &&
            (inner.awaitedTasks.map inner.mTag).contains
              plan.taskAffinity &&
            inner.reachesProcess packageInfo isOkToLaunch spawned
  | _ => false

/-- Starts of activities, and processes that attach. -/
def isLaunch : InnerAction → Bool
  | .startActivityReal .. => true
  | .attachApplication .. => true
  | _ => false

end ActivityManagerInner

/-! ## What a start does to the lists -/

namespace TaskLists

variable
  {lists : TaskLists}
  {task activity startFlag : Nat}

/-- A task is listed and not empty, whether or not it was before. -/
structure Shows
    (before : TaskLists)
    (task : Nat)
    (added : List Nat)
    (after : TaskLists) : Prop where
  distinct : before.mAllTasks.Nodup → after.mAllTasks.Nodup
  listed :
    ∀ other ∈ after.mAllTasks, other = task ∨ other ∈ before.mAllTasks
  shown : after.stackOf task ≠ []
  stack :
    ∀ activity ∈ after.stackOf task,
      activity ∈ added ∨ activity ∈ before.stackOf task
  others :
    ∀ other,
      other ≠ task →
      after.stackOf other = before.stackOf other

/-- The task that comes to the front is listed once. -/
theorem pushTaskToFront_nodup
    (task : Nat)
    (distinct : lists.mAllTasks.Nodup) :
    (lists.pushTaskToFront task).mAllTasks.Nodup := by
  unfold pushTaskToFront
  split
  · rw [moveToFront, List.nodup_cons]
    refine ⟨?_, distinct.filter _⟩
    simp
  · exact distinct

/-- The tasks besides the one that comes to the front. -/
theorem mem_pushTaskToFront
    {other : Nat}
    (listed : other ∈ (lists.pushTaskToFront task).mAllTasks) :
    other = task ∨ other ∈ lists.mAllTasks := by
  unfold pushTaskToFront at listed
  split at listed
  · exact (List.mem_cons.mp listed).imp_right List.mem_of_mem_filter
  · exact Or.inr listed

/-- A task is delivered by bringing it to the front. -/
theorem Delivered.shows
    {others : TaskLists}
    {added kept : List Nat}
    (delivered :
      Delivered lists task added kept (others.pushTaskToFront task))
    (sameTasks : others.mAllTasks = lists.mAllTasks)
    (notEmpty : added ++ kept ≠ []) :
    lists.Shows task added (others.pushTaskToFront task) where
  distinct isDistinct := by
    apply pushTaskToFront_nodup
    rw [sameTasks]
    exact isDistinct
  listed other isListed := by
    rw [← sameTasks]
    exact mem_pushTaskToFront isListed
  shown := by
    rw [delivered.isStack]
    exact notEmpty
  stack other member := by
    rw [delivered.isStack, List.mem_append] at member
    exact member.imp_right fun isKept => delivered.isKept.subset isKept
  others := delivered.others

/-- `pushNewActivity` shows its task with the new activity. -/
theorem pushNewActivity_shows
    (lists : TaskLists)
    (task activity startFlag : Nat) :
    lists.Shows task [activity]
      (lists.pushNewActivity task activity startFlag) := by
  have delivered := lists.pushNewActivity_delivered task activity startFlag
  unfold pushNewActivity at delivered ⊢
  refine delivered.shows ?_ (List.cons_ne_nil _ _)
  split
  · exact lists.foundHome_mAllTasks task
  · exact lists.foundHome_mAllTasks task

/-- `turnToActivity` shows the task of the activity. -/
theorem turnToActivity_shows
    (onStack : activity ∈ lists.stackOf task) :
    lists.Shows task []
      (lists.turnToActivity task activity startFlag) := by
  have notEmpty : lists.stackOf task ≠ [] := List.ne_nil_of_mem onStack
  unfold turnToActivity
  split
  · exact
      { distinct := id
        listed := fun _ isListed => Or.inr isListed
        shown := notEmpty
        stack := fun _ member => Or.inr member
        others := fun _ _ => rfl }
  · dsimp only
    split
    · have cleared :
          (lists.clearAbove task (some activity)).stackOf =
            Function.update lists.stackOf task
              ([] ++ activity :: below (lists.stackOf task) activity) := by
        funext other
        by_cases isThis : other = task
        · rw [isThis, clearAbove_stackOf_of_mem onStack,
            Function.update_self]
          rfl
        · simp [clearAbove, setStack, isThis]
      have delivered :=
        delivered_of_setStack (by rfl) cleared (below_suffix onStack)
      exact delivered.shows rfl (List.cons_ne_nil _ _)
    · have kept :
          lists.stackOf =
            Function.update lists.stackOf task
              ([] ++ lists.stackOf task) := by
        rw [List.nil_append, Function.update_eq_self]
      have delivered :=
        delivered_of_setStack rfl kept (List.suffix_refl _)
      exact delivered.shows rfl notEmpty

end TaskLists

/-! ## The listed tasks run -/

/--
Every task that is listed has a root, activities on stacks belong to
applications that run, and new activities get new numbers.
-/
structure TaskStackManager.TasksRun (manager : TaskStackManager) : Prop where
  known :
    ∀ activity,
      (manager.activities activity).isSome = true →
      activity < manager.nextActivity
  distinct : manager.lists.mAllTasks.Nodup
  notEmpty :
    ∀ task ∈ manager.lists.mAllTasks, manager.lists.stackOf task ≠ []
  runs :
    ∀ task,
      ∀ activity ∈ manager.lists.stackOf task,
        manager.runsActivity activity = true

namespace TaskStackManager

variable {manager next : TaskStackManager}

/-- An activity that runs has a record. -/
theorem isSome_of_runsActivity
    {activity : Nat}
    (runs : manager.runsActivity activity = true) :
    (manager.activities activity).isSome = true := by
  rw [runsActivity_eq] at runs
  cases isRecord : manager.activities activity with
  | none =>
      rw [isRecord] at runs
      cases runs
  | some record =>
      rfl

namespace TasksRun

/-- What runs goes on, and no activity begins. -/
theorem keep
    (before : TasksRun manager)
    (sameLists : next.lists = manager.lists)
    (known :
      ∀ activity,
        (next.activities activity).isSome = true →
        activity < next.nextActivity)
    (stillRuns :
      ∀ activity,
        manager.runsActivity activity = true →
        next.runsActivity activity = true) :
    TasksRun next where
  known := known
  distinct := by
    rw [sameLists]
    exact before.distinct
  notEmpty := by
    rw [sameLists]
    exact before.notEmpty
  runs := by
    rw [sameLists]
    exact fun task activity onStack =>
      stillRuns activity (before.runs task activity onStack)

/-- The active task has a top. -/
theorem hasTop
    (before : TasksRun manager)
    (active : Nat)
    (isActive : manager.lists.getActiveTask = some active) :
    ∃ top, manager.lists.getTopActivity active = some top := by
  obtain ⟨top, rest, isStack⟩ :=
    List.exists_cons_of_ne_nil
      (before.notEmpty active (List.mem_of_head? isActive))
  refine ⟨top, ?_⟩
  rw [TaskLists.getTopActivity, isStack]
  rfl

/-- A new activity has no application yet, or one that runs. -/
theorem insert
    {record : ActivityRecord}
    (before : TasksRun manager)
    (sameLists : next.lists = manager.lists)
    (sameApps : next.apps = manager.apps)
    (inserted :
      next.activities =
        Function.update manager.activities manager.nextActivity
          (some record))
    (sameNumber : next.nextActivity = manager.nextActivity + 1) :
    TasksRun next := by
  have isOld :
      ∀ activity,
        (manager.activities activity).isSome = true →
        activity ≠ manager.nextActivity :=
    fun activity isKnown => Nat.ne_of_lt (before.known activity isKnown)
  refine before.keep sameLists ?_ ?_
  · intro activity isKnown
    rw [sameNumber]
    by_cases isNew : activity = manager.nextActivity
    · rw [isNew]
      exact Nat.lt_succ_self _
    · rw [inserted, Function.update_of_ne isNew] at isKnown
      exact Nat.lt_succ_of_lt (before.known activity isKnown)
  · intro activity runs
    have notNew := isOld activity (isSome_of_runsActivity runs)
    rw [runsActivity_eq] at runs ⊢
    rw [inserted, Function.update_of_ne notNew, sameApps]
    exact runs

/-- An activity is given an application that runs. -/
theorem setAppThread
    {activity app : Nat}
    (before : TasksRun manager)
    (isHost : isRunning (manager.apps app) = true)
    (isNext : manager.setAppThread activity app = some next) :
    TasksRun next ∧ next.runsActivity activity = true := by
  obtain ⟨record, isRecord, rfl⟩ := setAppThread_cases isNext
  have hosted :
      (manager.setRecord activity
        { record with mApp := some app }).runsActivity activity = true := by
    rw [runsActivity_eq]
    simpa [setRecord] using isHost
  refine ⟨before.keep rfl ?_ ?_, hosted⟩
  · intro other isKnown
    by_cases isThis : other = activity
    · rw [isThis]
      exact before.known activity (by rw [isRecord]; rfl)
    · exact before.known other (by simpa [setRecord, isThis] using isKnown)
  · intro other runs
    by_cases isThis : other = activity
    · rw [isThis]
      exact hosted
    · rw [runsActivity_eq] at runs ⊢
      simpa [setRecord, isThis] using runs

/-- A process attaches, and runs. -/
theorem attachApplication
    (before : TasksRun manager)
    (packageName : String)
    (isSystemUI : Bool)
    (pid : Nat) :
    TasksRun (manager.attachApplication packageName isSystemUI pid) := by
  refine before.keep rfl before.known ?_
  intro activity runs
  rw [runsActivity_eq] at runs ⊢
  rw [Option.any_eq_true] at runs ⊢
  obtain ⟨app, isApp, runs⟩ := runs
  refine ⟨app, isApp, ?_⟩
  rw [Option.any_eq_true] at runs ⊢
  obtain ⟨host, isHost, runs⟩ := runs
  refine ⟨host, isHost, ?_⟩
  by_cases isNew : host = manager.nextApp
  · simp [TaskStackManager.attachApplication, setApp, isNew, isRunning,
      AppRecord.attached]
  · simpa [TaskStackManager.attachApplication, setApp, isNew] using runs

/-- A task is shown, with activities that run. -/
theorem shows
    {task : Nat}
    {added : List Nat}
    (before : TasksRun manager)
    (shown : manager.lists.Shows task added next.lists)
    (known :
      ∀ activity,
        (next.activities activity).isSome = true →
        activity < next.nextActivity)
    (sameRunning :
      ∀ activity,
        next.runsActivity activity = manager.runsActivity activity)
    (addedRun :
      ∀ activity ∈ added, manager.runsActivity activity = true) :
    TasksRun next where
  known := known
  distinct := shown.distinct before.distinct
  notEmpty other isListed := by
    by_cases isTask : other = task
    · rw [isTask]
      exact shown.shown
    · rw [shown.others other isTask]
      exact
        before.notEmpty other
          ((shown.listed other isListed).resolve_left isTask)
  runs other activity onStack := by
    rw [sameRunning]
    by_cases isTask : other = task
    · rw [isTask] at onStack
      rcases shown.stack activity onStack with isAdded | wasThere
      · exact addedRun activity isAdded
      · exact before.runs task activity wasThere
    · refine before.runs other activity ?_
      rw [← shown.others other isTask]
      exact onStack

/-- The same activities are known. -/
theorem known_of_sameHosts
    (before : TasksRun manager)
    (sameHosts : manager.SameHosts next)
    (activity : Nat)
    (isKnown : (next.activities activity).isSome = true) :
    activity < next.nextActivity := by
  have sameApp := congrArg Option.isSome (sameHosts.mApp activity)
  rw [Option.isSome_map, Option.isSome_map] at sameApp
  rw [sameHosts.nextActivity]
  exact before.known activity (sameApp ▸ isKnown)

end TasksRun

end TaskStackManager

/-! ## The operations -/

namespace ActivityManagerInner

variable
  {inner next : ActivityManagerInner}
  {packageInfo : PackageInfo}
  {intent : Intent}
  {spawned : Option Nat}
  {route : Route}
  {isSystemUI : Bool}
  {task : Option Nat}
  {startFlag : Nat}

/-- At most one task gets known, and the tags stay. -/
structure Handles
    (inner : ActivityManagerInner)
    (task : Option Nat)
    (next : ActivityManagerInner) : Prop where
  run : next.manager.TasksRun
  known :
    ∀ other ∈ next.knownTasks,
      other ∈ inner.knownTasks ∨ task = some other
  mTag : next.mTag = inner.mTag
  nextTask : inner.nextTask ≤ next.nextTask

/-- The lists and the board after a quiet operation say which tasks wait. -/
theorem Quiet.awaitedTasks
    {parts : TaskStackManager.Parts}
    (quiet : Quiet parts inner next) :
    next.awaitedTasks = inner.awaitedTasks := by
  unfold ActivityManagerInner.awaitedTasks
  rw [quiet.mPendTask]

/-- The lists stay in a quiet operation. -/
theorem Quiet.handles
    (quiet : Quiet ownParts inner next)
    (before : inner.manager.TasksRun)
    (sameLists : next.manager.lists = inner.manager.lists)
    (sameTags : next.mTag = inner.mTag)
    (sameNumber : next.nextTask = inner.nextTask) :
    Handles inner task next where
  run := by
    refine
      before.keep sameLists
        (before.known_of_sameHosts
          (quiet.sameHosts ownParts_areRoutine)) ?_
    intro activity runs
    rw [quiet.runsActivity_eq]
    exact runs
  known other isKnown := by
    rw [knownTasks, sameLists, quiet.awaitedTasks] at isKnown
    exact Or.inl isKnown
  mTag := sameTags
  nextTask := sameNumber.ge

/-- A task is shown in a quiet operation. -/
theorem Quiet.handles_shown
    {target : Nat}
    {added : List Nat}
    (quiet : Quiet ownParts inner next)
    (before : inner.manager.TasksRun)
    (shown :
      inner.manager.lists.Shows target added next.manager.lists)
    (addedRun :
      ∀ activity ∈ added, inner.manager.runsActivity activity = true)
    (sameTags : next.mTag = inner.mTag)
    (sameNumber : next.nextTask = inner.nextTask) :
    Handles inner (some target) next where
  run :=
    before.shows shown
      (before.known_of_sameHosts (quiet.sameHosts ownParts_areRoutine))
      quiet.runsActivity_eq addedRun
  known other isKnown := by
    rw [knownTasks, quiet.awaitedTasks, List.mem_append] at isKnown
    rcases isKnown with isListed | isAwaited
    · rcases shown.listed other isListed with isTarget | wasListed
      · exact Or.inr (congrArg some isTarget.symm)
      · exact Or.inl (List.mem_append_left _ wasListed)
    · exact Or.inl (List.mem_append_right _ isAwaited)
  mTag := sameTags
  nextTask := sameNumber.ge

/-- What an operation finds of the task manager. -/
theorem holds_anyway (manager : TaskStackManager) :
    TaskStackManager.Holds True manager.titles manager.alive manager.lists
      manager where
  sameTitles := rfl
  sameAlive := rfl
  sameLists := rfl
  rows mustNotFail := absurd trivial mustNotFail
  onBoard mustNotFail := absurd trivial mustNotFail

/-- The SystemUI shows an activity without the lists. -/
theorem showActivity_lists
    {activity : Nat}
    {manager moved : TaskStackManager}
    (isMoved :
      SystemUIManager.showActivity activity manager = some moved) :
    moved.lists = manager.lists := by
  have shows :
      Spec True (SystemUIManager.showActivity activity manager)
        (TaskStackManager.Holds True manager.titles manager.alive
          manager.lists) := by
    unfold SystemUIManager.showActivity
    refine
      ((holds_anyway manager).lifecycleTransition (absurd trivial)
        (by simp [requestedStatuses])).bind ?_
    intro middle holdsMiddle
    exact holdsMiddle.setActivityForeground (absurd trivial)
  exact (shows.of_result isMoved).sameLists

/-- `pushNewActivity`. -/
theorem pushNewActivity_handles
    {target activity : Nat}
    (before : inner.manager.TasksRun)
    (runs : inner.manager.runsActivity activity = true)
    (isResult :
      inner.pushNewActivity isSystemUI target activity startFlag =
        some next) :
    Handles inner (if isSystemUI then none else some target) next := by
  have quiet : Quiet ownParts inner next :=
    (pushNewActivity_quiet _ _ _ _ _).of_result isResult
  unfold pushNewActivity at isResult
  cases isSystemUI with
  | true =>
      rw [if_pos rfl] at isResult
      obtain ⟨shown, isShown, isResult⟩ :=
        Option.bind_eq_some_iff.mp isResult
      obtain ⟨middle, isMiddle, isResult⟩ :=
        Option.bind_eq_some_iff.mp isResult
      have isTaken := withManager_eq isMiddle
      rw [Option.some.injEq] at isResult
      subst isResult
      refine quiet.handles before ?_ ?_ ?_
      · change middle.manager.lists = _
        rw [isTaken]
        exact showActivity_lists isShown
      · change middle.mTag = _
        rw [isTaken]
      · change middle.nextTask = _
        rw [isTaken]
  | false =>
      rw [if_neg Bool.false_ne_true] at isResult
      obtain ⟨pushed, isPushed, isResult⟩ :=
        Option.bind_eq_some_iff.mp isResult
      have isTaken := withManager_eq isResult
      have pushes :
          Spec True
            (inner.manager.pushNewActivity target activity startFlag)
            (TaskStackManager.Holds True inner.manager.titles
              inner.manager.alive
              (inner.manager.lists.pushNewActivity target activity
                startFlag)) :=
        (holds_anyway inner.manager).pushNewActivity before.hasTop
          (absurd trivial) (absurd trivial)
      have sameLists := (pushes.of_result isPushed).sameLists
      have shown :
          inner.manager.lists.Shows target [activity]
            next.manager.lists := by
        rw [isTaken]
        dsimp only
        rw [sameLists]
        exact TaskLists.pushNewActivity_shows _ _ _ _
      refine quiet.handles_shown before shown ?_ ?_ ?_
      · intro other isOther
        rw [List.mem_singleton.mp isOther]
        exact runs
      · rw [isTaken]
      · rw [isTaken]

/-- `turnToActivity`, of an activity that is on the stack of its task. -/
theorem turnToActivity_handles
    {target activity : Nat}
    (before : inner.manager.TasksRun)
    (onStack :
      isSystemUI = false →
      activity ∈ inner.manager.lists.stackOf target)
    (isResult :
      inner.turnToActivity isSystemUI target activity intent startFlag =
        some next) :
    Handles inner (if isSystemUI then none else some target) next := by
  have quiet : Quiet ownParts inner next :=
    (turnToActivity_quiet _ _ _ _ _ _ fun _ => trivial).of_result isResult
  unfold turnToActivity at isResult
  cases isSystemUI with
  | true =>
      rw [if_pos rfl] at isResult
      obtain ⟨turned, isTurned, isResult⟩ :=
        Option.bind_eq_some_iff.mp isResult
      have isTaken := withManager_eq isResult
      refine quiet.handles before ?_ ?_ ?_
      · rw [isTaken]
        exact showActivity_lists isTurned
      · rw [isTaken]
      · rw [isTaken]
  | false =>
      rw [if_neg Bool.false_ne_true] at isResult
      obtain ⟨turned, isTurned, isResult⟩ :=
        Option.bind_eq_some_iff.mp isResult
      have isTaken := withManager_eq isResult
      have turns :
          Spec True
            (inner.manager.turnToActivity target activity intent startFlag)
            (TaskStackManager.Holds True
              (TaskStackManager.Holds.readdressed inner.manager.titles
                activity intent)
              inner.manager.alive
              (inner.manager.lists.turnToActivity target activity
                startFlag)) :=
        (holds_anyway inner.manager).turnToActivity (absurd trivial)
          (absurd trivial)
      have shown :
          inner.manager.lists.Shows target [] next.manager.lists := by
        rw [isTaken]
        dsimp only
        rw [(turns.of_result isTurned).sameLists]
        exact TaskLists.turnToActivity_shows (onStack rfl)
      refine quiet.handles_shown before shown ?_ ?_ ?_
      · exact fun _ member => absurd member List.not_mem_nil
      · rw [isTaken]
      · rw [isTaken]

namespace Handles

/-- Nothing is handled. -/
theorem refl (before : inner.manager.TasksRun) :
    Handles inner task inner where
  run := before
  known _ isKnown := Or.inl isKnown
  mTag := rfl
  nextTask := Nat.le_refl _

/-- The operation starts with what makes no difference to the tasks. -/
theorem after
    {middle : ActivityManagerInner}
    (handles : Handles middle task next)
    (sameLists : middle.manager.lists = inner.manager.lists)
    (sameBoard : middle.mPendTask = inner.mPendTask)
    (sameTags : middle.mTag = inner.mTag)
    (grows : inner.nextTask ≤ middle.nextTask) :
    Handles inner task next where
  run := handles.run
  known other isKnown := by
    have sameKnown : middle.knownTasks = inner.knownTasks := by
      unfold knownTasks awaitedTasks
      rw [sameLists, sameBoard]
    rw [← sameKnown]
    exact handles.known other isKnown
  mTag := handles.mTag.trans sameTags
  nextTask := grows.trans handles.nextTask

end Handles

/-- An activity is given a running application, and pushed. -/
theorem attachActivity_handles
    {newActivity app : Nat}
    (before : inner.manager.TasksRun)
    (isHost : isRunning (inner.manager.apps app) = true)
    (isResult :
      inner.attachActivity isSystemUI task newActivity startFlag app =
        some next) :
    Handles inner (if isSystemUI then none else task) next := by
  obtain ⟨target, rfl, isResult⟩ := Option.bind_eq_some_iff.mp isResult
  obtain ⟨manager, isSet, isPushed⟩ := Option.bind_eq_some_iff.mp isResult
  obtain ⟨run, runs⟩ := before.setAppThread isHost isSet
  obtain ⟨_, _, isManager⟩ := TaskStackManager.setAppThread_cases isSet
  have pushes :
      Handles { inner with manager := manager }
        (if isSystemUI then none else some target) next :=
    pushNewActivity_handles run runs isPushed
  refine pushes.after ?_ rfl rfl (Nat.le_refl _)
  rw [isManager]
  rfl

/-- The tasks that wait once an activity is queued. -/
theorem Submitted.handles
    {processName : String}
    {newActivity pid : Nat}
    {priority : ProcessPriority}
    (submitted :
      inner.Submitted processName
        (.startActivity isSystemUI task newActivity startFlag priority)
        spawned next pid)
    (before : inner.manager.TasksRun)
    (sameTags : next.mTag = inner.mTag)
    (sameNumber : next.nextTask = inner.nextTask) :
    Handles inner (if isSystemUI then none else task) next where
  run := by
    rw [submitted.manager_eq]
    exact before
  known other isKnown := by
    obtain ⟨attachTask, _, isCallback, waits⟩ :=
      submitted.pending_eq AppAttachTask.targetTask
    have isTarget :
        attachTask.targetTask = if isSystemUI then none else task := by
      unfold AppAttachTask.targetTask
      rw [isCallback]
      cases isSystemUI <;> rfl
    unfold knownTasks awaitedTasks at isKnown ⊢
    rw [submitted.manager_eq, waits, ← List.append_assoc,
      List.mem_append] at isKnown
    rw [← isTarget]
    exact isKnown.imp_right Option.mem_toList.mp
  mTag := sameTags
  nextTask := sameNumber.ge

/-- A new activity is pushed or queued, or the request fails. -/
theorem startNewActivity_handles
    {activityUniqueName : String}
    {plan : StartPlan}
    {isOkToLaunch : Bool}
    (before : inner.manager.TasksRun)
    (isResult :
      inner.startNewActivity packageInfo activityUniqueName plan task
        startFlag intent isOkToLaunch spawned = some (next, route)) :
    next = inner ∨
      inner.reachesProcess packageInfo isOkToLaunch spawned = true ∧
        Handles inner (if packageInfo.isSystemUI then none else task)
          next := by
  unfold startNewActivity at isResult
  dsimp only at isResult
  generalize isCreated :
    { inner with
      nextTask := inner.nextTask + 1 }.createActivity activityUniqueName
        plan.launchMode (task.getD inner.nextTask) intent =
      created at isResult
  have run : created.manager.TasksRun := by
    rw [← isCreated]
    exact before.insert rfl rfl rfl rfl
  have grows : inner.nextTask ≤ created.nextTask := by
    rw [← isCreated]
    exact Nat.le_succ _
  have sameLists : created.manager.lists = inner.manager.lists := by
    rw [← isCreated]
    rfl
  have sameApps : created.manager.apps = inner.manager.apps := by
    rw [← isCreated]
    rfl
  have sameBoard : created.mPendTask = inner.mPendTask := by
    rw [← isCreated]
    rfl
  have sameTags : created.mTag = inner.mTag := by
    rw [← isCreated]
    rfl
  split at isResult
  · rename_i app isAlive
    obtain ⟨pushed, isPushed, isResult⟩ :=
      Option.bind_eq_some_iff.mp isResult
    rw [Option.some.injEq, Prod.mk.injEq] at isResult
    rw [← isResult.1]
    have isHost : isRunning (created.manager.apps app) = true := by
      rw [sameApps]
      exact isRunning_of_findAppInfoWithAlive isAlive
    refine Or.inr ⟨?_, ?_⟩
    · simp [reachesProcess, isAlive]
    · exact
        (attachActivity_handles run isHost isPushed).after sameLists
          sameBoard sameTags grows
  · split at isResult
    · rename_i isOk
      split at isResult
      · rename_i submitted pid isSubmitted
        rw [Option.some.injEq, Prod.mk.injEq] at isResult
        rw [← isResult.1]
        obtain ⟨isQueued, noneWaits⟩ :=
          submitAppStartupTask_cases isSubmitted
        have sameWaiting :
            created.mAppWaitingAttach = inner.mAppWaitingAttach := by
          rw [← isCreated]
          rfl
        have noneWaited := noneWaits rfl
        rw [getAttachingAppPid, sameWaiting] at noneWaited
        have isSpawned : spawned.isSome = true := by
          cases isQueued with
          | behind isWaiting =>
              rw [noneWaits rfl] at isWaiting
              cases isWaiting
          | first _ isSpawned =>
              rw [isSpawned]
              rfl
        refine Or.inr ⟨?_, ?_⟩
        · simp [reachesProcess, isOk, isSpawned, getAttachingAppPid,
            noneWaited]
        · have tagged :
              submitted.mTag = created.mTag ∧
                submitted.nextTask = created.nextTask := by
            cases isQueued <;> exact ⟨rfl, rfl⟩
          exact
            (isQueued.handles run tagged.1 tagged.2).after sameLists
              sameBoard sameTags grows
      · rw [Option.some.injEq, Prod.mk.injEq] at isResult
        exact Or.inl isResult.1.symm
    · rw [Option.some.injEq, Prod.mk.injEq] at isResult
      exact Or.inl isResult.1.symm

/-! ## Tags -/

/-- The invariant: known tasks have numbers that are used, and own tags. -/
structure TagsDistinct (inner : ActivityManagerInner) : Prop where
  run : inner.manager.TasksRun
  numbered : ∀ task ∈ inner.knownTasks, task < inner.nextTask
  distinct :
    ∀ first ∈ inner.knownTasks,
      ∀ second ∈ inner.knownTasks,
        inner.mTag first = inner.mTag second →
        first = second

namespace TagsDistinct

/-- The task that gets known is known already, or has a tag of its own. -/
theorem handles
    (before : TagsDistinct inner)
    (handled : Handles inner task next)
    (isOwn :
      ∀ target,
        task = some target →
        target < inner.nextTask ∧
          (target ∈ inner.knownTasks ∨
            ∀ other ∈ inner.knownTasks,
              inner.mTag other ≠ inner.mTag target)) :
    TagsDistinct next where
  run := handled.run
  numbered other isKnown := by
    refine Nat.lt_of_lt_of_le ?_ handled.nextTask
    rcases handled.known other isKnown with wasKnown | isTarget
    · exact before.numbered other wasKnown
    · exact (isOwn other isTarget).1
  distinct first firstKnown second secondKnown sameTag := by
    rw [handled.mTag] at sameTag
    rcases handled.known first firstKnown with firstWas | isFirst
    · rcases handled.known second secondKnown with secondWas | isSecond
      · exact before.distinct first firstWas second secondWas sameTag
      · rcases (isOwn second isSecond).2 with secondWas | isNew
        · exact before.distinct first firstWas second secondWas sameTag
        · exact absurd sameTag (isNew first firstWas)
    · rcases handled.known second secondKnown with secondWas | isSecond
      · rcases (isOwn first isFirst).2 with firstWas | isNew
        · exact before.distinct first firstWas second secondWas sameTag
        · exact absurd sameTag.symm (isNew second secondWas)
      · exact Option.some.inj (isFirst.symm.trans isSecond)

/-- A task is made up, and not known yet. -/
theorem onlyTask
    (before : TagsDistinct inner)
    (made : OnlyTask inner next)
    (grows : inner.nextTask ≤ next.nextTask)
    (sameTags :
      ∀ task < inner.nextTask, next.mTag task = inner.mTag task) :
    TagsDistinct next := by
  have sameKnown : next.knownTasks = inner.knownTasks := by
    rw [made.same]
    rfl
  constructor
  · rw [made.same]
    exact before.run
  · rw [sameKnown]
    exact fun task isKnown =>
      Nat.lt_of_lt_of_le (before.numbered task isKnown) grows
  · rw [sameKnown]
    intro first firstKnown second secondKnown sameTag
    rw [sameTags first (before.numbered first firstKnown),
      sameTags second (before.numbered second secondKnown)] at sameTag
    exact before.distinct first firstKnown second secondKnown sameTag

end TagsDistinct

/-! ## Starts -/

/-- A start finds a task, or makes one up. -/
theorem targetTask_found_or_made
    {plan : StartPlan}
    {arranged : ActivityManagerInner}
    {isNewTask : Bool}
    (isTarget :
      inner.targetTask isSystemUI plan = (arranged, task, isNewTask)) :
    (arranged = inner ∧
        isNewTask = false ∧
        (isSystemUI = false →
          ∀ target,
            task = some target →
            target ∈ inner.manager.lists.mAllTasks)) ∨
      (isNewTask = true ∧
        task = some inner.nextTask ∧
        inner.findTask isSystemUI plan.taskAffinity = none ∧
        arranged =
          { inner with
            mTag :=
              Function.update inner.mTag inner.nextTask plan.taskAffinity
            nextTask := inner.nextTask + 1 }) := by
  unfold targetTask at isTarget
  split at isTarget
  · split at isTarget
    · rename_i found isFound
      rw [Prod.mk.injEq, Prod.mk.injEq] at isTarget
      obtain ⟨rfl, rfl, rfl⟩ := isTarget
      refine Or.inl ⟨rfl, rfl, ?_⟩
      rintro rfl target isTask
      rw [← Option.some.inj isTask]
      exact List.mem_of_find?_eq_some isFound
    · rename_i notFound
      rw [Prod.mk.injEq, Prod.mk.injEq] at isTarget
      obtain ⟨isArranged, isTask, isNew⟩ := isTarget
      exact Or.inr ⟨isNew.symm, isTask.symm, notFound, isArranged.symm⟩
  · rw [Prod.mk.injEq, Prod.mk.injEq] at isTarget
    obtain ⟨rfl, rfl, rfl⟩ := isTarget
    refine Or.inl ⟨rfl, rfl, ?_⟩
    rintro rfl target isTask
    exact List.mem_of_head? isTask

/-- An activity that is found is on the stack of its task. -/
theorem targetActivity_onStack
    {plan : StartPlan}
    {target activity : Nat}
    {isNewTask : Bool}
    {activityUniqueName : String}
    (isFound :
      inner.targetActivity false plan (some target) isNewTask
          activityUniqueName =
        some (some activity, startFlag)) :
    isNewTask = false ∧
      activity ∈ inner.manager.lists.stackOf target := by
  unfold targetActivity at isFound
  cases isNewTask with
  | true =>
      rw [if_pos rfl, Option.some.injEq, Prod.mk.injEq] at isFound
      cases isFound.1
  | false =>
      refine ⟨rfl, ?_⟩
      have onArray :
          activity ∈ inner.activityArray false target →
          activity ∈ inner.manager.lists.stackOf target :=
        List.mem_reverse.mp
      rw [if_neg Bool.false_ne_true] at isFound
      split at isFound
      · rw [Option.bind_eq_bind, Option.bind_some] at isFound
        obtain ⟨top, isTop, isFound⟩ := Option.bind_eq_some_iff.mp isFound
        rw [Option.some.injEq, Prod.mk.injEq] at isFound
        obtain ⟨isFound, _⟩ := isFound
        split at isFound
        · obtain rfl := Option.some.inj isFound
          exact onArray (List.mem_of_getLast? isTop)
        · cases isFound
      · rw [Option.some.injEq, Prod.mk.injEq] at isFound
        cases isFound.1
      · rw [Option.bind_eq_bind, Option.bind_some, Option.some.injEq,
          Prod.mk.injEq] at isFound
        exact onArray (List.mem_of_find?_eq_some isFound.1)

/-- A listed task with the tag would have been found. -/
theorem tag_ne_of_findTask
    {tag : String}
    {other : Nat}
    (run : inner.manager.TasksRun)
    (notFound : inner.findTask false tag = none)
    (listed : other ∈ inner.manager.lists.mAllTasks) :
    inner.mTag other ≠ tag := by
  intro isTag
  have notAlive :=
    List.find?_eq_none.mp
      (show inner.manager.findTask inner.mTag tag = none from notFound)
      other listed
  have notNil := run.notEmpty other listed
  have isRoot :
      (inner.manager.lists.stackOf other).getLast? =
        some ((inner.manager.lists.stackOf other).getLast notNil) :=
    List.getLast?_eq_some_getLast notNil
  have rootRuns := run.runs other _ (List.getLast_mem notNil)
  rw [isRoot] at notAlive
  exact notAlive (decide_eq_true ⟨isTag, rootRuns⟩)

/-- The tags stay distinct when a start looks for its task. -/
theorem TagsDistinct.targetTask
    {plan : StartPlan}
    {arranged : ActivityManagerInner}
    {isNewTask : Bool}
    (before : TagsDistinct inner)
    (isTarget :
      inner.targetTask isSystemUI plan = (arranged, task, isNewTask)) :
    TagsDistinct arranged := by
  have made := inner.targetTask_onlyTask isSystemUI plan
  rw [isTarget] at made
  rcases targetTask_found_or_made isTarget with
    ⟨rfl, _, _⟩ | ⟨_, _, _, isArranged⟩
  · exact before
  · refine before.onlyTask made ?_ ?_
    · rw [isArranged]
      exact Nat.le_succ _
    · intro other isUsed
      rw [isArranged]
      exact Function.update_of_ne (Nat.ne_of_lt isUsed) _ _

/-- The task of an ordinary activity is listed, or has a tag of its own. -/
theorem TagsDistinct.ownTag
    {plan : StartPlan}
    {arranged : ActivityManagerInner}
    {isNewTask : Bool}
    {target : Nat}
    (before : TagsDistinct inner)
    (isTarget :
      inner.targetTask false plan = (arranged, some target, isNewTask))
    (sees :
      isNewTask = true →
      (inner.awaitedTasks.map inner.mTag).contains plan.taskAffinity =
        false) :
    target < arranged.nextTask ∧
      (target ∈ arranged.knownTasks ∨
        ∀ other ∈ arranged.knownTasks,
          arranged.mTag other ≠ arranged.mTag target) := by
  rcases targetTask_found_or_made isTarget with
    ⟨rfl, _, isListed⟩ | ⟨isNew, isMade, notFound, isArranged⟩
  · have isKnown : target ∈ arranged.knownTasks :=
      List.mem_append_left _ (isListed rfl target rfl)
    exact ⟨before.numbered target isKnown, Or.inl isKnown⟩
  · obtain rfl := Option.some.inj isMade
    rw [isArranged]
    refine ⟨Nat.lt_succ_self _, Or.inr ?_⟩
    intro other isKnown
    have wasKnown : other ∈ inner.knownTasks := isKnown
    have isOld := Nat.ne_of_lt (before.numbered other wasKnown)
    dsimp only
    rw [Function.update_self, Function.update_of_ne isOld]
    rcases List.mem_append.mp wasKnown with isListed | isAwaited
    · exact tag_ne_of_findTask before.run notFound isListed
    · intro isTag
      have notAwaited := sees isNew
      rw [← isTag, List.contains_eq_mem, decide_eq_false_iff_not]
        at notAwaited
      exact notAwaited (List.mem_map_of_mem isAwaited)

/-- A start that overlooks no task keeps the tags distinct. -/
theorem TagsDistinct.startActivityReal
    {activityName : String}
    {caller : Option Nat}
    {isOkToLaunch : Bool}
    (before : TagsDistinct inner)
    (sees :
      inner.overlooksTask
          (.startActivityReal activityName packageInfo intent caller
            isOkToLaunch spawned) =
        false)
    (isResult :
      inner.startActivityReal activityName packageInfo intent caller
        isOkToLaunch spawned = some (next, route)) :
    TagsDistinct next := by
  unfold ActivityManagerInner.startActivityReal at isResult
  split at isResult
  · rw [Option.some.injEq, Prod.mk.injEq] at isResult
    rw [← isResult.1]
    exact before
  · rename_i info registered
    dsimp only at isResult
    simp only [overlooksTask, registered, Option.any_some] at sees
    generalize inner.startPlan packageInfo info intent caller = plan
      at isResult sees
    rcases isArranged :
        inner.targetTask packageInfo.isSystemUI plan with
      ⟨arranged, task, isNewTask⟩
    rw [isArranged] at isResult
    dsimp only at isResult
    have tags : TagsDistinct arranged := before.targetTask isArranged
    have sameReach :
        arranged.reachesProcess packageInfo isOkToLaunch spawned =
          inner.reachesProcess packageInfo isOkToLaunch spawned := by
      have made := inner.targetTask_onlyTask packageInfo.isSystemUI plan
      rw [isArranged] at made
      have sameInner := made.same
      dsimp only at sameInner
      rw [sameInner]
      rfl
    have isOwn :
        (isNewTask = true →
          arranged.reachesProcess packageInfo isOkToLaunch spawned =
            true) →
        ∀ target,
          (if packageInfo.isSystemUI then none else task) = some target →
          target < arranged.nextTask ∧
            (target ∈ arranged.knownTasks ∨
              ∀ other ∈ arranged.knownTasks,
                arranged.mTag other ≠ arranged.mTag target) := by
      intro reaches target isTask
      cases isKind : packageInfo.isSystemUI with
      | true =>
          rw [isKind] at isTask
          cases isTask
      | false =>
          rw [isKind, if_neg Bool.false_ne_true] at isTask
          rw [isKind, isTask] at isArranged
          refine before.ownTag isArranged ?_
          intro isNew
          have isReached := reaches isNew
          rw [sameReach] at isReached
          simpa [isKind, isArranged, isNew, isReached] using sees
    obtain ⟨⟨target, startFlag⟩, isTarget, isResult⟩ :=
      Option.bind_eq_some_iff.mp isResult
    dsimp only at isResult
    split at isResult
    · rename_i activity
      obtain ⟨target, isTask, isResult⟩ :=
        Option.bind_eq_some_iff.mp isResult
      rw [isTask] at isTarget isOwn
      obtain ⟨turned, isTurned, isResult⟩ :=
        Option.bind_eq_some_iff.mp isResult
      rw [Option.some.injEq, Prod.mk.injEq] at isResult
      rw [← isResult.1]
      have onStack :
          packageInfo.isSystemUI = false →
          activity ∈ arranged.manager.lists.stackOf target := by
        intro isKind
        rw [isKind] at isTarget
        exact (targetActivity_onStack isTarget).2
      have notNew : isNewTask = false := by
        cases isNewTask with
        | true =>
            rw [targetActivity, if_pos rfl, Option.some.injEq,
              Prod.mk.injEq] at isTarget
            cases isTarget.1
        | false =>
            rfl
      refine
        tags.handles (turnToActivity_handles tags.run onStack isTurned)
          (isOwn ?_)
      rw [notNew]
      exact fun isNew => absurd isNew Bool.false_ne_true
    · rcases startNewActivity_handles tags.run isResult with
        rfl | ⟨isReached, handled⟩
      · exact tags
      · exact tags.handles handled (isOwn fun _ => isReached)

/-! ## Attaches -/

/-- Callbacks neither stop nor start an application. -/
theorem CallbackOutcome.sameStatuses
    {e : AppAttachEvent}
    {callback : AttachCallback}
    (outcome : inner.CallbackOutcome e callback next) :
    SameStatuses inner.manager.apps next.manager.apps := by
  cases outcome with
  | startActivity _ isSet isAttached quiet =>
      obtain ⟨_, _, isManager⟩ := TaskStackManager.setAppThread_cases isSet
      have same := quiet.sameStatuses
      rw [isAttached.manager, isManager] at same
      exact same
  | startService _ =>
      exact
        (createService_serviced _ _ _ _ _).apps.mono
          fun _ _ => WithServices.sameStatus

/-- A callback shows the task that waited for it, if any. -/
theorem runCallback_handles
    {e : AppAttachEvent}
    {attachTask : AppAttachTask}
    (before : inner.manager.TasksRun)
    (isHost : isRunning (inner.manager.apps e.mAppRecord) = true)
    (isNext : inner.runCallback e attachTask.mCallback = some next) :
    Handles inner attachTask.targetTask next := by
  have outcome := runCallback_outcome isNext
  have same := outcome.sameStatuses
  unfold AppAttachTask.targetTask
  generalize attachTask.mCallback = callback at isNext outcome ⊢
  cases callback with
  | startActivity isSystemUI targetTask newActivity startFlag priority =>
      obtain ⟨policy, _, isAttached⟩ := Option.bind_eq_some_iff.mp isNext
      have attaches :
          Handles { inner with mPriorityPolicy := policy }
            (if isSystemUI then none else targetTask) next :=
        attachActivity_handles before isHost isAttached
      cases isSystemUI with
      | true =>
          exact attaches.after rfl rfl rfl (Nat.le_refl _)
      | false =>
          exact attaches.after rfl rfl rfl (Nat.le_refl _)
  | startService serviceName intent priority request =>
      cases outcome with
      | @startService _ _ _ _ policy _ =>
          have serviced :=
            createService_serviced inner policy
              (.fresh serviceName inner.nextToken priority e.mAppRecord)
              intent request
          have sameHosts :
              inner.manager.SameHosts
                (inner.createService policy
                  (.fresh serviceName inner.nextToken priority
                    e.mAppRecord) intent request).manager := by
            rw [serviced.manager]
            exact .of_eq rfl (.refl _) rfl
          have sameLists :
              (inner.createService policy
                (.fresh serviceName inner.nextToken priority
                  e.mAppRecord) intent request).manager.lists =
                inner.manager.lists := by
            rw [serviced.manager]
            rfl
          refine
            { run := ?_
              known := ?_
              mTag := ?_
              nextTask := ?_ }
          · refine
              before.keep sameLists (before.known_of_sameHosts sameHosts) ?_
            intro activity runs
            rw [sameHosts.runsActivity_eq same]
            exact runs
          · intro other isKnown
            unfold knownTasks awaitedTasks at isKnown
            rw [sameLists, serviced.mPendTask] at isKnown
            exact Or.inl isKnown
          · cases request <;> rfl
          · cases request <;> exact Nat.le_refl _

/-- A handler that is done does not wait any more. -/
theorem mem_awaitedTasks_of_serve
    {e : AppAttachEvent}
    {packageName : String}
    {handler : TaskTimeoutHandler AppAttachTask}
    {other : Nat}
    (isAwaited :
      other ∈ (inner.serve e packageName handler).awaitedTasks) :
    other ∈ inner.awaitedTasks := by
  obtain ⟨marked, isMarked, isTarget⟩ := List.mem_filterMap.mp isAwaited
  obtain ⟨onBoard, notDone⟩ := List.mem_filter.mp isMarked
  obtain ⟨original, isOriginal, rfl⟩ := List.mem_map.mp onBoard
  refine List.mem_filterMap.mpr ⟨original, ?_, ?_⟩
  · refine List.mem_filter.mpr ⟨isOriginal, ?_⟩
    split at notDone
    · exact absurd notDone (by simp)
    · exact notDone
  · split at isTarget <;> exact isTarget

/-- An attach lists the tasks that waited for it, and no others. -/
theorem attachApplication_handles
    {callerPid : Nat}
    (before : inner.manager.TasksRun)
    (isNext : inner.attachApplication callerPid isSystemUI = some next) :
    Handles inner none next := by
  cases attachApplication_outcome isNext with
  | known _ =>
      exact .refl before
  | illegal _ =>
      exact .refl before
  | @attached packageName _ _ _ isServed =>
      generalize isEvent :
        ({ mPid := callerPid, mAppRecord := inner.manager.nextApp } :
          AppAttachEvent) = e at isServed
      have serves :
          Handles inner none next ∧
            isRunning (next.manager.apps e.mAppRecord) = true := by
        refine
          eventTrigger_runs
            (motive := fun middle =>
              Handles inner none middle ∧
                isRunning (middle.manager.apps e.mAppRecord) = true)
            ?_ (fun _ => id) ⟨?_, ?_⟩ isServed
        · intro middle handler after ⟨handled, isHost⟩ onBoard isPending
            isAfter
          have isServing := runCallback_outcome isAfter
          have callback :
              Handles (middle.serve e packageName handler)
                handler.mTask.targetTask after :=
            runCallback_handles handled.run isHost isAfter
          refine ⟨?_, ?_⟩
          · refine
              { run := callback.run
                known := ?_
                mTag := callback.mTag.trans handled.mTag
                nextTask := handled.nextTask.trans callback.nextTask }
            intro other isKnown
            rcases callback.known other isKnown with wasKnown | isTarget
            · apply handled.known
              rcases List.mem_append.mp wasKnown with isListed | isAwaited
              · exact List.mem_append_left _ isListed
              · exact
                  List.mem_append_right _
                    (mem_awaitedTasks_of_serve isAwaited)
            · have notDone := (pendingFor_iff.mp isPending).1
              refine Or.inl (List.mem_append_right _ ?_)
              refine
                List.mem_filterMap.mpr
                  ⟨handler, List.mem_filter.mpr ⟨onBoard, ?_⟩, isTarget⟩
              rw [notDone]
              rfl
          · rw [isServing.sameStatuses.isRunning_eq]
            exact isHost
        · exact
            { run := before.attachApplication packageName isSystemUI
                callerPid
              known := fun _ isKnown => Or.inl isKnown
              mTag := rfl
              nextTask := Nat.le_refl _ }
        · rw [← isEvent]
          simp [addAppInfo, deleteAppWaitingAttach,
            TaskStackManager.attachApplication, TaskStackManager.setApp,
            isRunning, AppRecord.attached]
      exact serves.1

/-! ## Runs -/

/-- One start or attach keeps the tags distinct. -/
theorem TagsDistinct.step
    {action : InnerAction}
    (before : TagsDistinct inner)
    (isLaunch : isLaunch action = true)
    (sees : inner.overlooksTask action = false)
    (isNext : inner.step? action = some next) :
    TagsDistinct next := by
  cases action with
  | startActivityReal activityName packageInfo intent caller isOkToLaunch
      spawned =>
      obtain ⟨⟨_, route⟩, isResult, rfl⟩ := Option.map_eq_some_iff.mp isNext
      exact before.startActivityReal sees isResult
  | attachApplication callerPid isSystemUI =>
      exact
        before.handles (attachApplication_handles before.run isNext) nofun
  | _ =>
      cases isLaunch

/-- With distinct tags there is one live task for each. -/
theorem TagsDistinct.liveTasks_le_one
    (tags : TagsDistinct inner)
    (tag : String) :
    inner.liveTasks tag ≤ 1 := by
  unfold liveTasks
  rw [List.countP_eq_length_filter]
  generalize isFound :
    (inner.manager.lists.mAllTasks.filter fun task =>
      decide
        (inner.mTag task = tag ∧
          inner.manager.isAliveTask
            (inner.manager.lists.stackOf task).getLast?)) = found
  have distinct : found.Nodup := by
    rw [← isFound]
    exact tags.run.distinct.filter _
  have isMeant :
      ∀ task ∈ found, task ∈ inner.knownTasks ∧ inner.mTag task = tag := by
    intro task member
    rw [← isFound, List.mem_filter, decide_eq_true_eq] at member
    exact ⟨List.mem_append_left _ member.1, member.2.1⟩
  cases found with
  | nil =>
      exact Nat.zero_le 1
  | cons first rest =>
      cases rest with
      | nil =>
          exact Nat.le_refl 1
      | cons second others =>
          have isFirst := isMeant first (by simp)
          have isSecond := isMeant second (by simp)
          have same : first = second :=
            tags.distinct first isFirst.1 second isSecond.1
              (isFirst.2.trans isSecond.2.symm)
          rw [same] at distinct
          exact absurd (List.mem_cons_self) (List.nodup_cons.mp distinct).1

/--
In every run of starts and attaches in which no start overlooks a task that
waits, at most one live task has a tag.
-/
theorem liveTasks_le_one_of_reachable
    (lines : List LmkRow)
    (arena : Int)
    (now : Nat)
    (inner : ActivityManagerInner)
    (reachable :
      Reachable step?
        (fun inner action =>
          isLaunch action = true ∧ inner.overlooksTask action = false)
        (start lines arena now) inner)
    (tag : String) :
    inner.liveTasks tag ≤ 1 := by
  have tags : TagsDistinct inner := by
    refine reachable.invariant ?_ ?_
    · exact
        { run :=
            { known := fun _ isKnown => absurd isKnown nofun
              distinct := List.nodup_nil
              notEmpty := fun _ member => absurd member List.not_mem_nil
              runs := fun _ _ member => absurd member List.not_mem_nil }
          numbered := fun _ member => absurd member List.not_mem_nil
          distinct := fun _ member => absurd member List.not_mem_nil }
    · intro middle action after before isPermitted isNext
      exact before.step isPermitted.1 isPermitted.2 isNext
  exact tags.liveTasks_le_one tag

/-- Another package, with an activity that belongs to the music. -/
def radioPackage : PackageInfo :=
  { musicPackage with
    packageName := "radio"
    activitiesInfo :=
      [{ name := "stations"
         launchMode := "standard"
         taskAffinity := "music" }] }

/-- A start with the affinity of the music. -/
def startRadio : InnerAction :=
  .startActivityReal "stations" radioPackage
    { plainIntent with mFlag := flagActivityNewTask } none true (some 12)

/-- A start of the music itself. -/
def startMusic : InnerAction :=
  .startActivityReal "main" musicPackage plainIntent none true (some 11)

/-- The second start comes when the first one has its process. -/
def sharedTaskRun : Option ActivityManagerInner :=
  run? step? (start [] 0 0)
    [startMusic, .attachApplication 11 false, startRadio,
      .attachApplication 12 false]

/-- They share a task. -/
theorem sharedTaskRun_liveTasks_le_one :
    (sharedTaskRun.get rfl).liveTasks "music" ≤ 1 := by
  have accepted : sharedTaskRun = some (sharedTaskRun.get rfl) :=
    (Option.some_get _).symm
  exact liveTasks_le_one_of_reachable [] 0 0 _
    (Reachable.of_run? (by decide) accepted) "music"

/-- The second start comes before that. -/
def twoTasksRun : Option ActivityManagerInner :=
  run? step? (start [] 0 0)
    [startMusic, startRadio, .attachApplication 11 false,
      .attachApplication 12 false]

/-- Two live tasks have the same tag then. -/
theorem twoTasksRun_not_liveTasks_le_one :
    ¬ ∀ inner,
      Reachable step? (fun _ action => isLaunch action = true)
        (start [] 0 0) inner →
      ∀ tag, inner.liveTasks tag ≤ 1 := by
  intro unique
  have accepted : twoTasksRun = some (twoTasksRun.get rfl) :=
    (Option.some_get _).symm
  have reachable :
      Reachable step? (fun _ action => isLaunch action = true)
        (start [] 0 0) (twoTasksRun.get rfl) :=
    Reachable.of_run? (by decide) accepted
  have isTwo : (twoTasksRun.get rfl).liveTasks "music" = 2 := by
    decide
  have atMostOne := unique _ reachable "music"
  rw [isTwo] at atMostOne
  exact absurd atMostOne (by decide)

end ActivityManagerInner

end ActivityManager
