import ActivityManager.ServiceRuns
import ActivityManager.StartedActivities

/-!
# Home comes back

When a process has died and nothing is left in the foreground, the service
starts the home activity again.  Either it is shown, in a task that becomes the
home task, or a process is on its way that will show it; only where no process
can be started the foreground stays empty.
-/

namespace ActivityManager

open StepSystem (run?)

namespace ActivityManagerInner

/-- Home is shown or on its way, or no process of it can be started. -/
inductive HomeStarts
    (home : PackageInfo)
    (launch : Launch)
    (inner next : ActivityManagerInner) : Prop where
  | shown (app task : Nat) :
      inner.findAppInfoWithAlive home.packageName = some app →
      next.manager.lists.mAllTasks = [task] →
      next.manager.lists.mHomeTask = some task →
      next.manager.lists.getTopActivity task =
        some inner.manager.nextActivity →
      HomeStarts home launch inner next
  | attaching (pid : Nat) :
      inner.findAppInfoWithAlive home.packageName = none →
      next.getAttachingAppPid home.packageName = some pid →
      HomeStarts home launch inner next
  | refused :
      inner.findAppInfoWithAlive home.packageName = none →
      launch.isOkToLaunch = false ∨ launch.spawned = none →
      HomeStarts home launch inner next

variable
  {inner next : ActivityManagerInner}
  {home : PackageInfo}
  {launch : Launch}

/-- In empty lists a pushed activity is in the home task, and alone. -/
theorem pushNewActivity_empty
    {lists : TaskLists}
    (isEmpty : lists.mAllTasks = [])
    (targetStack activity startFlag : Nat) :
    let pushed := lists.pushNewActivity targetStack activity startFlag
    pushed.mAllTasks = [targetStack] ∧
      pushed.mHomeTask = some targetStack ∧
      pushed.getTopActivity targetStack = some activity := by
  have noActive : lists.getActiveTask = none := by
    rw [TaskLists.getActiveTask, isEmpty]
    rfl
  have isFounded :
      lists.foundHome targetStack =
        { lists with mHomeTask := some targetStack } := by
    rw [TaskLists.foundHome, noActive]
  have isPushed :
      ∀ cleared : TaskLists,
        cleared.mAllTasks = [] →
        cleared.mHomeTask = some targetStack →
        let pushed :=
          (cleared.pushActivity targetStack activity).pushTaskToFront
            targetStack
        pushed.mAllTasks = [targetStack] ∧
          pushed.mHomeTask = some targetStack ∧
          pushed.getTopActivity targetStack = some activity := by
    intro cleared noTasks isHome
    have noActive :
        (cleared.pushActivity targetStack activity).getActiveTask =
          none := by
      rw [TaskLists.getActiveTask, TaskLists.pushActivity,
        TaskLists.setStack, noTasks]
      rfl
    unfold TaskLists.pushTaskToFront
    rw [noActive, if_pos (Option.some_ne_none _)]
    refine ⟨?_, isHome, ?_⟩
    · rw [TaskLists.moveToFront, TaskLists.pushActivity,
        TaskLists.setStack, noTasks]
      rfl
    · rw [TaskLists.getTopActivity, TaskLists.moveToFront,
        TaskLists.pushActivity, TaskLists.setStack_stacks]
      rfl
  unfold TaskLists.pushNewActivity
  rw [isFounded]
  dsimp only
  split
  · exact isPushed _ isEmpty rfl
  · exact isPushed _ isEmpty rfl

/-- A new activity of a process that runs is pushed. -/
theorem attachActivity_lists
    {created : ActivityManagerInner}
    {targetTask newActivity startFlag app : Nat}
    (isEmpty : created.manager.lists.mAllTasks = [])
    (isNext :
      created.attachActivity false (some targetTask) newActivity startFlag
        app = some next) :
    next.manager.lists.mAllTasks = [targetTask] ∧
      next.manager.lists.mHomeTask = some targetTask ∧
      next.manager.lists.getTopActivity targetTask = some newActivity := by
  obtain ⟨manager, isSet, isPushed⟩ := Option.bind_eq_some_iff.mp isNext
  obtain ⟨pushed, isPushed, isMoved⟩ :=
    Option.bind_eq_some_iff.mp isPushed
  obtain ⟨record, _, isSet⟩ := TaskStackManager.setAppThread_cases isSet
  have sameLists : manager.lists = created.manager.lists := by
    rw [isSet]
    rfl
  have start :
      TaskStackManager.Moved ownParts manager manager.lists manager :=
    .refl manager
  have moved := start.pushNewActivity targetTask newActivity startFlag
  rw [withManager_manager isMoved,
    (moved.of_result isPushed).sameLists, sameLists]
  exact pushNewActivity_empty isEmpty targetTask newActivity startFlag

/-- A process that a task is queued for is waited for. -/
theorem Submitted.getAttachingAppPid_eq
    {processName : String}
    {callback : AttachCallback}
    {spawned : Option Nat}
    {pid : Nat}
    (submitted :
      inner.Submitted processName callback spawned next pid) :
    next.getAttachingAppPid processName = some pid := by
  cases submitted with
  | behind isWaiting =>
      rw [getAttachingAppPid, enqueue_mAppWaitingAttach]
      exact isWaiting
  | first noneWaits isSpawned =>
      have notFound := Option.map_eq_none_iff.mp noneWaits
      rw [getAttachingAppPid, enqueue_mAppWaitingAttach]
      show
        ((inner.mAppWaitingAttach ++ [(processName, pid)]).find?
          (·.1 == processName)).map Prod.snd = some pid
      rw [List.find?_append, notFound, Option.none_or,
        List.find?_cons_of_pos (by simp)]
      rfl

/-- Where no task is queued, one process is waited for or none starts. -/
theorem submitAppStartupTask_eq_none
    {processName : String}
    {callback : AttachCallback}
    {isSupportMultiTask : Bool}
    {spawned : Option Nat}
    (isNone :
      inner.submitAppStartupTask processName callback isSupportMultiTask
        spawned = none) :
    (∃ pid, inner.getAttachingAppPid processName = some pid) ∨
      spawned = none := by
  unfold submitAppStartupTask at isNone
  dsimp only at isNone
  split at isNone
  · rename_i pid isWaiting
    exact Or.inl ⟨pid, isWaiting⟩
  · split at isNone
    · cases isNone
    · exact Or.inr rfl

/-- The process of home runs, or is waited for, or cannot be started. -/
theorem startNewActivity_home
    {activityUniqueName : String}
    {plan : StartPlan}
    {targetTask startFlag : Nat}
    {intent : Intent}
    {route : Route}
    (isStandard : home.isSystemUI = false)
    (isEmpty : inner.manager.lists.mAllTasks = [])
    (isNext :
      inner.startNewActivity home activityUniqueName plan (some targetTask)
        startFlag intent launch.isOkToLaunch launch.spawned =
          some (next, route)) :
    HomeStarts home launch inner next := by
  unfold startNewActivity at isNext
  rw [isStandard] at isNext
  dsimp only at isNext
  generalize isCreated :
    { inner with
      nextTask := inner.nextTask + 1 }.createActivity activityUniqueName
        plan.launchMode ((some targetTask).getD inner.nextTask) intent =
      created at isNext
  have sameLists : created.manager.lists = inner.manager.lists := by
    rw [← isCreated]
    rfl
  have sameWaiting :
      created.getAttachingAppPid = inner.getAttachingAppPid := by
    rw [← isCreated]
    rfl
  split at isNext
  · rename_i app isAlive
    obtain ⟨pushed, isPushed, isResult⟩ :=
      Option.bind_eq_some_iff.mp isNext
    rw [Option.some.injEq, Prod.mk.injEq] at isResult
    rw [← isResult.1]
    obtain ⟨isAll, isHome, isTop⟩ :=
      attachActivity_lists (sameLists ▸ isEmpty) isPushed
    exact .shown app targetTask isAlive isAll isHome isTop
  · rename_i noneAlive
    split at isNext
    · split at isNext
      · rename_i submitted pid isSubmitted
        rw [Option.some.injEq, Prod.mk.injEq] at isNext
        rw [← isNext.1]
        have isQueued := (submitAppStartupTask_cases isSubmitted).1
        exact .attaching pid noneAlive isQueued.getAttachingAppPid_eq
      · rename_i notSubmitted
        rw [Option.some.injEq, Prod.mk.injEq] at isNext
        rw [← isNext.1]
        rcases submitAppStartupTask_eq_none notSubmitted with
          ⟨pid, isWaiting⟩ | noneSpawned
        · rw [sameWaiting] at isWaiting
          exact .attaching pid noneAlive isWaiting
        · exact .refused noneAlive (Or.inr noneSpawned)
    · rename_i notOk
      exact .refused noneAlive (Or.inl (Bool.not_eq_true _ ▸ notOk))

/-- A start without a caller asks for a new task. -/
theorem startPlan_newTask
    (inner : ActivityManagerInner)
    (packageInfo : PackageInfo)
    (info : ActivityInfo)
    (intent : Intent) :
    (inner.startPlan packageInfo info intent none).startFlag &&&
        flagActivityNewTask ≠ 0 := by
  have isPlanned :
      (inner.startPlan packageInfo info intent none).startFlag =
        intent.mFlag ||| flagActivityNewTask := by
    unfold startPlan
    refine if_pos (decide_eq_true ?_)
    exact Or.inr (Or.inr rfl)
  rw [isPlanned, hasFlag_or]
  exact Or.inr (by decide)

/-- Where no task is listed, that is a task that nobody knows. -/
theorem targetTask_empty
    {plan : StartPlan}
    (isEmpty : inner.manager.lists.mAllTasks = [])
    (isNew : plan.startFlag &&& flagActivityNewTask ≠ 0) :
    inner.targetTask false plan =
      ({ inner with
          mTag :=
            Function.update inner.mTag inner.nextTask plan.taskAffinity
          nextTask := inner.nextTask + 1 },
        some inner.nextTask, true) := by
  have notFound : inner.findTask false plan.taskAffinity = none := by
    show inner.manager.findTask inner.mTag plan.taskAffinity = none
    rw [TaskStackManager.findTask, isEmpty]
    rfl
  unfold targetTask
  rw [if_pos isNew, notFound]

/-- The start of the home activity. -/
theorem startActivityReal_home
    {activityName : String}
    {info : ActivityInfo}
    {intent : Intent}
    {route : Route}
    (isStandard : home.isSystemUI = false)
    (isDeclared :
      home.activitiesInfo.find? (·.name == activityName) = some info)
    (isEmpty : inner.manager.lists.mAllTasks = [])
    (isNext :
      inner.startActivityReal activityName home intent none
        launch.isOkToLaunch launch.spawned = some (next, route)) :
    HomeStarts home launch inner next := by
  have isNew := inner.startPlan_newTask home info intent
  have isTarget := targetTask_empty isEmpty isNew
  unfold startActivityReal at isNext
  rw [isDeclared] at isNext
  dsimp only at isNext
  rw [isStandard, isTarget] at isNext
  dsimp only at isNext
  rw [targetActivity, if_pos rfl, Option.bind_eq_bind,
    Option.bind_some] at isNext
  dsimp only at isNext
  generalize inner.startPlan home info intent none = plan at isNext
  generalize isArranged :
    { inner with
      mTag := Function.update inner.mTag inner.nextTask plan.taskAffinity
      nextTask := inner.nextTask + 1 } = arranged at isNext
  have sameLists : arranged.manager = inner.manager := by
    rw [← isArranged]
  have sameAlive :
      arranged.findAppInfoWithAlive = inner.findAppInfoWithAlive := by
    rw [← isArranged]
    rfl
  rw [← sameLists] at isEmpty
  cases startNewActivity_home isStandard isEmpty isNext with
  | shown app task isAlive isAll isHome isTop =>
      rw [sameAlive] at isAlive
      rw [sameLists] at isTop
      exact .shown app task isAlive isAll isHome isTop
  | attaching pid noneAlive isWaiting =>
      rw [sameAlive] at noneAlive
      exact .attaching pid noneAlive isWaiting
  | refused noneAlive isRefused =>
      rw [sameAlive] at noneAlive
      exact .refused noneAlive isRefused

/-- The SystemUI makes room for a standard application, in its own tasks. -/
theorem HomeStarts.onStartActivity
    {started : ActivityManagerInner}
    (starts : HomeStarts home launch inner started)
    (isNext :
      (started.systemUI.onStartActivity started.manager >>=
        started.withManager) = some next) :
    HomeStarts home launch inner next := by
  obtain ⟨left, isLeft, isNext⟩ := Option.bind_eq_some_iff.mp isNext
  have start :
      TaskStackManager.Moved ownParts started.manager
        started.manager.lists started.manager :=
    .refl started.manager
  have moved := start.onStartActivity started.systemUI
  have sameLists : next.manager.lists = started.manager.lists := by
    rw [withManager_manager isNext, (moved.of_result isLeft).sameLists]
  have sameWaiting :
      next.getAttachingAppPid = started.getAttachingAppPid := by
    rw [withManager_eq isNext]
    rfl
  cases starts with
  | shown app task isAlive isAll isHome isTop =>
      rw [← sameLists] at isAll isHome isTop
      exact .shown app task isAlive isAll isHome isTop
  | attaching pid noneAlive isWaiting =>
      rw [← sameWaiting] at isWaiting
      exact .attaching pid noneAlive isWaiting
  | refused noneAlive isRefused =>
      exact .refused noneAlive isRefused

/-- The activity that starts if none is named. -/
def namedOrEntry
    (activityName : String)
    (packageInfo : PackageInfo) : String :=
  if activityName.isEmpty then packageInfo.entry else activityName

/-- No task is brought to the front, so an activity starts. -/
theorem startTarget_empty
    {activityName : String}
    {intent : Intent}
    (isStandard : home.isSystemUI = false)
    (isEmpty : inner.manager.lists.mAllTasks = []) :
    inner.startTarget activityName home intent none launch.isOkToLaunch
        launch.spawned =
      inner.startActivityReal (namedOrEntry activityName home) home intent
        none launch.isOkToLaunch launch.spawned := by
  have notFound : inner.findTask false home.packageName = none := by
    show inner.manager.findTask inner.mTag home.packageName = none
    rw [TaskStackManager.findTask, isEmpty]
    rfl
  unfold startTarget
  rw [isStandard]
  dsimp only
  rw [notFound, ite_self]
  rfl

/-- The start of home, without a caller. -/
theorem startActivity_home
    {activityName : String}
    {info : ActivityInfo}
    {intent : Intent}
    {route : Route}
    (isStandard : home.isSystemUI = false)
    (isDeclared :
      home.activitiesInfo.find?
        (·.name == namedOrEntry activityName home) = some info)
    (noneActive : inner.getActiveTask false = none)
    (isNext :
      inner.startActivity activityName home intent none launch.isOkToLaunch
        launch.spawned = some (next, route)) :
    HomeStarts home launch inner next := by
  have isEmpty : inner.manager.lists.mAllTasks = [] :=
    List.head?_eq_none_iff.mp noneActive
  obtain ⟨⟨started, startRoute⟩, isStarted, isNext⟩ :=
    Option.bind_eq_some_iff.mp isNext
  rw [startTarget_empty isStandard isEmpty] at isStarted
  have starts :=
    startActivityReal_home isStandard isDeclared isEmpty isStarted
  dsimp only at isNext
  rw [if_neg (isStandard ▸ Bool.false_ne_true)] at isNext
  obtain ⟨left, isLeft, isNext⟩ := Option.bind_eq_some_iff.mp isNext
  obtain ⟨inner', isManaged, isNext⟩ := Option.bind_eq_some_iff.mp isNext
  rw [← (Prod.mk.inj (Option.some.inj isNext)).1]
  exact
    starts.onStartActivity
      (Option.bind_eq_some_iff.mpr ⟨left, isLeft, isManaged⟩)

end ActivityManagerInner

namespace ActivityManagerService

/-- A package with a home screen. -/
def homePackage : PackageInfo :=
  { ActivityManagerInner.musicPackage with
    packageName := "home"
    entry := "screen"
    activitiesInfo :=
      [{ name := "screen"
         launchMode := "standard"
         taskAffinity := ""
         actions := [Intent.actionHome] }]
    servicesInfo := [] }

/-- The music player shows its activity. -/
def shownMusic : Option ActivityManagerService :=
  run? (step? [ActivityManagerInner.musicPackage, homePackage])
    (start [] 0 0 0)
    [.startActivity none musicIntent noRequest ⟨true, some 11⟩,
      .attachApplication 11 false]

/-- It dies, and a process for home is on its way. -/
def diedMusic : Option ActivityManagerService :=
  shownMusic.bind fun service =>
    service.childExit [ActivityManagerInner.musicPackage, homePackage] 11
      ⟨true, some 12⟩

end ActivityManagerService

end ActivityManager
