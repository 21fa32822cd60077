import ActivityManager.UniqueTask

/-!
# Tasks that are null pointers

`startActivityReal` looks its task up in one of two ways.  A start that asks
for a task of its own finds one or makes one up; any other start takes the
active task, goes on with it without a check, and there may be none.  For
ordinary applications the active task is the first of the list, for the
SystemUI it is one with an activity that is resumed.
-/

namespace ActivityManager

open StepSystem (Reachable run?)

/-- The closure has captured a task, if it is to push an activity to one. -/
def AttachCallback.hasTask : AttachCallback → Bool
  | .startActivity _ targetTask _ _ _ => targetTask.isSome
  | .startService _ _ _ _ => true

namespace ActivityManagerInner

variable
  {inner next : ActivityManagerInner}
  {packageInfo : PackageInfo}
  {info : ActivityInfo}
  {intent : Intent}
  {caller : Option Nat}

/-! ## Which starts have a task -/

/--
The start asks for a task of its own: by its flags, for the entry or a single
instance, without an activity that calls, or because that is a single
instance.
-/
def asksNewTask
    (inner : ActivityManagerInner)
    (packageInfo : PackageInfo)
    (info : ActivityInfo)
    (intent : Intent)
    (caller : Option Nat) : Bool :=
  intent.mFlag &&& flagActivityNewTask ≠ 0 ||
    info.name = packageInfo.entry ||
    LaunchMode.launchModeToInt info.launchMode = .singleInstance ||
    caller.all fun token =>
      token ∉ inner.manager.mActivityMap ||
        inner.mLaunchMode token = .singleInstance

/--
The task manager of the package has an active task, whose stack is not empty
if its top is looked at.
-/
def offersActiveTask
    (inner : ActivityManagerInner)
    (packageInfo : PackageInfo)
    (info : ActivityInfo) : Bool :=
  if packageInfo.isSystemUI then
    inner.systemUI.mSystemUITasks.any fun task =>
      (inner.systemUI.mStack task).any fun activity =>
        (inner.manager.activities activity).any
          (·.mStatus = Status.resumed)
  else
    inner.manager.lists.mAllTasks.head?.any fun task =>
      LaunchMode.launchModeToInt info.launchMode ≠ .singleTop ||
        inner.manager.lists.stackOf task ≠ []

/-- What `startActivityReal` goes through is no null pointer. -/
structure NoNullTask
    (inner : ActivityManagerInner)
    (packageInfo : PackageInfo)
    (info : ActivityInfo)
    (intent : Intent)
    (caller : Option Nat) : Prop where
  targetTask :
    (inner.targetTask packageInfo.isSystemUI
      (inner.startPlan packageInfo info intent caller)).2.1 ≠ none
  /-- The `switch` looks at the top of a task that is not new. -/
  topActivity :
    (inner.startPlan packageInfo info intent caller).launchMode =
      .singleTop →
    ∀ task,
      (inner.targetTask packageInfo.isSystemUI
        (inner.startPlan packageInfo info intent caller)).2 =
          (some task, false) →
      (inner.activityArray packageInfo.isSystemUI task).getLast? ≠ none

/-- The flag is in the plan if and only if it is asked for. -/
theorem startPlan_newTask_iff :
    (inner.startPlan packageInfo info intent caller).startFlag &&&
        flagActivityNewTask ≠ 0 ↔
      inner.asksNewTask packageInfo info intent caller = true := by
  have isFlag : flagActivityNewTask ≠ 0 := by
    decide
  unfold asksNewTask startPlan
  dsimp only
  rw [apply_ite (· &&& flagActivityNewTask ≠ 0)]
  by_cases hasFlag : intent.mFlag &&& flagActivityNewTask ≠ 0
  · simp [hasFlag_or, hasFlag]
  · by_cases isEntry : info.name = packageInfo.entry
    · simp [hasFlag_or, isFlag, isEntry]
    · cases caller <;> simp [hasFlag_or, hasFlag, isFlag, isEntry]

/-- A task whose root is alive has an activity at its top. -/
theorem exists_top_of_findTask
    {isSystemUI : Bool}
    {tag : String}
    {task : Nat}
    (isFound : inner.findTask isSystemUI tag = some task) :
    (inner.activityArray isSystemUI task).getLast? ≠ none := by
  have notEmpty :
      ∀ root : Option Nat,
        inner.manager.isAliveTask root = true →
        root ≠ none := by
    rintro root isAlive rfl
    cases isAlive
  unfold findTask at isFound
  unfold activityArray
  split at isFound
  · have isMeant := List.find?_some isFound
    have isAlive := (of_decide_eq_true isMeant).2
    have hasRoot := notEmpty _ isAlive
    rw [Ne, List.head?_eq_none_iff] at hasRoot
    rw [if_pos (by assumption), Ne, List.getLast?_eq_none_iff]
    exact hasRoot
  · have isMeant := List.find?_some isFound
    have isAlive := (of_decide_eq_true isMeant).2
    have hasRoot := notEmpty _ isAlive
    rw [Ne, List.getLast?_eq_none_iff] at hasRoot
    rw [if_neg (by assumption), List.getLast?_reverse, Ne,
      List.head?_eq_none_iff]
    exact hasRoot

/-- A start that asks for a task of its own has one. -/
theorem NoNullTask.of_asksNewTask
    (asks :
      inner.asksNewTask packageInfo info intent caller = true) :
    inner.NoNullTask packageInfo info intent caller := by
  rw [← startPlan_newTask_iff] at asks
  constructor
  · rw [ActivityManagerInner.targetTask, if_pos asks]
    split <;> exact Option.some_ne_none _
  · intro _ task isTask
    rw [ActivityManagerInner.targetTask, if_pos asks] at isTask
    split at isTask
    · rename_i found isFound
      rw [Prod.mk.injEq, Option.some.injEq] at isTask
      rw [← isTask.1]
      exact exists_top_of_findTask isFound
    · rw [Prod.mk.injEq] at isTask
      cases isTask.2

/-- The mode of a start that asks for no task of its own is as declared. -/
theorem startPlan_launchMode
    (asksNone :
      ¬ inner.asksNewTask packageInfo info intent caller = true) :
    (inner.startPlan packageInfo info intent caller).launchMode =
      LaunchMode.launchModeToInt info.launchMode := by
  have notEntry : info.name ≠ packageInfo.entry := by
    intro isEntry
    apply asksNone
    simp [asksNewTask, isEntry]
  simp [startPlan, notEntry]

/-- Any other start goes on with the active task. -/
theorem noNullTask_iff_activeTask
    (asksNone :
      ¬ inner.asksNewTask packageInfo info intent caller = true) :
    inner.NoNullTask packageInfo info intent caller ↔
      ∃ task,
        inner.getActiveTask packageInfo.isSystemUI = some task ∧
          (LaunchMode.launchModeToInt info.launchMode = .singleTop →
            (inner.activityArray packageInfo.isSystemUI task).getLast? ≠
              none) := by
  have isTarget :
      (inner.targetTask packageInfo.isSystemUI
        (inner.startPlan packageInfo info intent caller)).2 =
          (inner.getActiveTask packageInfo.isSystemUI, false) := by
    rw [targetTask, if_neg (startPlan_newTask_iff.not.mpr asksNone)]
  have isMode := startPlan_launchMode asksNone
  constructor
  · rintro ⟨notNull, hasTop⟩
    rw [isTarget] at notNull hasTop
    rw [isMode] at hasTop
    obtain ⟨task, isTask⟩ := Option.ne_none_iff_exists'.mp notNull
    refine ⟨task, isTask, fun isTop => ?_⟩
    exact hasTop isTop task (congrArg (·, false) isTask)
  · rintro ⟨task, isTask, hasTop⟩
    constructor
    · rw [isTarget, isTask]
      exact Option.some_ne_none task
    · intro isTop other isOther
      rw [isTarget, isTask, Prod.mk.injEq, Option.some.injEq] at isOther
      rw [isMode] at isTop
      rw [← isOther.1]
      exact hasTop isTop

/-- It is there if and only if the task manager offers it. -/
theorem exists_activeTask_iff :
    (∃ task,
      inner.getActiveTask packageInfo.isSystemUI = some task ∧
        (LaunchMode.launchModeToInt info.launchMode = .singleTop →
          (inner.activityArray packageInfo.isSystemUI task).getLast? ≠
            none)) ↔
      inner.offersActiveTask packageInfo info = true := by
  unfold offersActiveTask
  cases packageInfo.isSystemUI with
  | true =>
      have isOffered :
          (∃ task, inner.getActiveTask true = some task) ↔
            (inner.systemUI.mSystemUITasks.any fun task =>
              (inner.systemUI.mStack task).any fun activity =>
                (inner.manager.activities activity).any
                  (·.mStatus = Status.resumed)) = true := by
        rw [← Option.isSome_iff_exists, List.any_eq_true]
        exact List.find?_isSome
      rw [if_pos rfl, ← isOffered]
      refine exists_congr fun task => and_iff_left_of_imp ?_
      intro isActive _
      -- a task with an activity that is resumed has a top
      have isResumed := List.find?_some isActive
      obtain ⟨activity, onStack, _⟩ := List.any_eq_true.mp isResumed
      change (inner.systemUI.mStack task).getLast? ≠ none
      rw [Ne, List.getLast?_eq_none_iff]
      exact List.ne_nil_of_mem onStack
  | false =>
      rw [if_neg Bool.false_ne_true, Option.any_eq_true]
      refine exists_congr fun task => and_congr_right fun _ => ?_
      change
        (_ → (inner.manager.lists.stackOf task).reverse.getLast? ≠ none) ↔
          _
      rw [List.getLast?_reverse, Ne, List.head?_eq_none_iff,
        Bool.or_eq_true, decide_eq_true_iff, decide_eq_true_iff,
        imp_iff_not_or]

/-- A start has what it goes through if and only if one of the two is so. -/
theorem noNullTask_iff :
    inner.NoNullTask packageInfo info intent caller ↔
      (inner.asksNewTask packageInfo info intent caller ||
        inner.offersActiveTask packageInfo info) = true := by
  rw [Bool.or_eq_true]
  by_cases asks : inner.asksNewTask packageInfo info intent caller = true
  · exact iff_of_true (.of_asksNewTask asks) (.inl asks)
  · rw [or_iff_right asks]
    rw [noNullTask_iff_activeTask asks, exists_activeTask_iff]

/-! ## Callbacks that wait -/

/-- Every callback on the board has its task. -/
def CallbacksHaveTasks (inner : ActivityManagerInner) : Prop :=
  ∀ handler ∈ inner.mPendTask.mTasklist,
    handler.mTask.mCallback.hasTask = true

namespace CallbacksHaveTasks

theorem start
    (lines : List LmkRow)
    (arena : Int)
    (now : Nat) :
    CallbacksHaveTasks (start lines arena now) :=
  fun _ onBoard => absurd onBoard List.not_mem_nil

/-- Nothing happens to the board. -/
theorem of_board
    (before : CallbacksHaveTasks inner)
    (sameBoard : next.mPendTask = inner.mPendTask) :
    CallbacksHaveTasks next := by
  intro handler onBoard
  rw [sameBoard] at onBoard
  exact before handler onBoard

/-- A task comes behind the others. -/
theorem enqueue
    {task : AppAttachTask}
    (before : CallbacksHaveTasks inner)
    (hasTask : task.mCallback.hasTask = true) :
    CallbacksHaveTasks (inner.enqueue task) := by
  intro handler onBoard
  rw [enqueue_mTasklist] at onBoard
  rcases List.mem_append.mp onBoard with isOld | isLast
  · exact before handler isOld
  · rw [List.mem_singleton.mp isLast]
    exact hasTask

theorem submitted
    {name : String}
    {callback : AttachCallback}
    {spawned : Option Nat}
    {pid : Nat}
    (before : CallbacksHaveTasks inner)
    (hasTask : callback.hasTask = true)
    (isSubmitted : inner.Submitted name callback spawned next pid) :
    CallbacksHaveTasks next := by
  cases isSubmitted with
  | behind _ =>
      exact before.enqueue hasTask
  | first _ _ =>
      have spawns : CallbacksHaveTasks (inner.spawn name pid) := before
      exact spawns.enqueue hasTask

/-- The event marks tasks that are done. -/
theorem eventTrigger
    {e : AppAttachEvent}
    {packageName : String}
    {handlers : List (TaskTimeoutHandler AppAttachTask)}
    (before : CallbacksHaveTasks inner)
    (isNext :
      ActivityManagerInner.eventTrigger e packageName handlers inner =
        some next) :
    CallbacksHaveTasks next := by
  intro handler onBoard
  rw [(eventTrigger_board isNext).1, (markAll_frame _ _).2] at onBoard
  obtain ⟨old, wasOnBoard, isHandler⟩ := List.mem_map.mp onBoard
  rw [← isHandler]
  split
  · exact before old wasOnBoard
  · exact before old wasOnBoard

/-- The closure of a new activity captures the task that was looked up. -/
theorem startNewActivity
    {activityUniqueName : String}
    {plan : StartPlan}
    {task : Option Nat}
    {startFlag : Nat}
    {isOkToLaunch : Bool}
    {spawned : Option Nat}
    {route : Route}
    (before : CallbacksHaveTasks inner)
    (hasTask : task ≠ none)
    (isResult :
      inner.startNewActivity packageInfo activityUniqueName plan task
        startFlag intent isOkToLaunch spawned = some (next, route)) :
    CallbacksHaveTasks next := by
  unfold ActivityManagerInner.startNewActivity at isResult
  dsimp only at isResult
  split at isResult
  · obtain ⟨pushed, isPushed, isResult⟩ :=
      Option.bind_eq_some_iff.mp isResult
    rw [Option.some.injEq, Prod.mk.injEq] at isResult
    obtain ⟨_, _, _, isAttached, quiet⟩ := attachActivity_cases isPushed
    rw [← isResult.1]
    exact before.of_board (quiet.mPendTask.trans isAttached.mPendTask)
  · split at isResult
    · split at isResult
      · rename_i isSubmitted
        rw [Option.some.injEq, Prod.mk.injEq] at isResult
        rw [← isResult.1]
        have captured :
            (AttachCallback.startActivity packageInfo.isSystemUI task
              inner.manager.nextActivity startFlag
              packageInfo.priority).hasTask = true :=
          Option.isSome_iff_ne_none.mpr hasTask
        refine
          submitted ?_ captured (submitAppStartupTask_cases isSubmitted).1
        exact before.of_board rfl
      · rw [Option.some.injEq, Prod.mk.injEq] at isResult
        rw [← isResult.1]
        exact before
    · rw [Option.some.injEq, Prod.mk.injEq] at isResult
      rw [← isResult.1]
      exact before

end CallbacksHaveTasks

/-! ## Every run -/

/-- The activity, if it is registered, is started on a task. -/
def startsOnTask
    (inner : ActivityManagerInner)
    (activityName : String)
    (packageInfo : PackageInfo)
    (intent : Intent)
    (caller : Option Nat) : Bool :=
  (packageInfo.activitiesInfo.find? (·.name == activityName)).all
    fun info =>
      inner.asksNewTask packageInfo info intent caller ||
        inner.offersActiveTask packageInfo info

/-- Such a request leaves no closure without a task. -/
theorem CallbacksHaveTasks.startActivityReal
    {activityName : String}
    {isOkToLaunch : Bool}
    {spawned : Option Nat}
    {route : Route}
    (before : CallbacksHaveTasks inner)
    (onTask :
      inner.startsOnTask activityName packageInfo intent caller = true)
    (isResult :
      inner.startActivityReal activityName packageInfo intent caller
        isOkToLaunch spawned = some (next, route)) :
    CallbacksHaveTasks next := by
  unfold ActivityManagerInner.startActivityReal at isResult
  dsimp only at isResult
  split at isResult
  · rw [Option.some.injEq, Prod.mk.injEq] at isResult
    rw [← isResult.1]
    exact before
  · rename_i info isFound
    rw [startsOnTask, isFound] at onTask
    have notNull := noNullTask_iff.mpr onTask
    have found :=
      before.of_board
        (targetTask_rearranged inner packageInfo.isSystemUI
          (inner.startPlan packageInfo info intent caller)).mPendTask
    obtain ⟨⟨target, startFlag⟩, _, isResult⟩ :=
      Option.bind_eq_some_iff.mp isResult
    dsimp only at isResult
    split at isResult
    · obtain ⟨task, _, isResult⟩ := Option.bind_eq_some_iff.mp isResult
      obtain ⟨turned, isTurned, isResult⟩ :=
        Option.bind_eq_some_iff.mp isResult
      rw [Option.some.injEq, Prod.mk.injEq] at isResult
      rw [← isResult.1]
      have quiet : Quiet ownParts _ turned :=
        (turnToActivity_quiet _ _ _ _ _ _ fun _ => trivial).of_result
          isTurned
      exact found.of_board quiet.mPendTask
    · exact found.startNewActivity notNull.targetTask isResult

/-- A start of the entry always has a task. -/
theorem startsOnTask_entry
    (inner : ActivityManagerInner)
    (packageInfo : PackageInfo)
    (intent : Intent)
    (caller : Option Nat) :
    inner.startsOnTask packageInfo.entry packageInfo intent caller =
      true := by
  rw [startsOnTask, Option.all_eq_true]
  intro info isFound
  have isEntry := List.find?_some isFound
  simp [asksNewTask, beq_iff_eq.mp isEntry]

theorem CallbacksHaveTasks.startActivity
    {activityName : String}
    {isOkToLaunch : Bool}
    {spawned : Option Nat}
    {route : Route}
    (before : CallbacksHaveTasks inner)
    (onTask :
      inner.startsOnTask
        (if activityName.isEmpty then packageInfo.entry
          else activityName)
        packageInfo intent caller = true)
    (isResult :
      inner.startActivity activityName packageInfo intent caller
        isOkToLaunch spawned = some (next, route)) :
    CallbacksHaveTasks next := by
  obtain ⟨⟨started, _⟩, isStarted, isResult⟩ :=
    Option.bind_eq_some_iff.mp isResult
  have onBoard : CallbacksHaveTasks started := by
    unfold startTarget at isStarted
    dsimp only at isStarted
    split at isStarted
    · obtain ⟨switched, isSwitched, isStarted⟩ :=
        Option.bind_eq_some_iff.mp isStarted
      rw [Option.some.injEq, Prod.mk.injEq] at isStarted
      rw [← isStarted.1]
      have quiet : Quiet ownParts inner switched :=
        (switchTaskToActive_quiet _ _ _ _).of_result isSwitched
      exact before.of_board quiet.mPendTask
    · exact before.startActivityReal onTask isStarted
  dsimp only at isResult
  split at isResult
  · rw [Option.some.injEq, Prod.mk.injEq] at isResult
    rw [← isResult.1]
    exact onBoard
  · obtain ⟨left, isLeft, isResult⟩ := Option.bind_eq_some_iff.mp isResult
    obtain ⟨after, isAfter, isResult⟩ :=
      Option.bind_eq_some_iff.mp isResult
    rw [Option.some.injEq, Prod.mk.injEq] at isResult
    rw [← isResult.1]
    have quiet : Quiet ownParts started after :=
      (onStartActivity_quiet started).of_result
        (Option.bind_eq_some_iff.mpr ⟨left, isLeft, isAfter⟩)
    exact onBoard.of_board quiet.mPendTask

/-- A request for a service captures no task. -/
theorem CallbacksHaveTasks.service
    {serviceName : String}
    {request : ServiceRequest}
    {spawned : Option Nat}
    {route : Route}
    (before : CallbacksHaveTasks inner)
    (outcome :
      inner.ServiceOutcome serviceName packageInfo intent request spawned
        next route) :
    CallbacksHaveTasks next := by
  cases outcome with
  | rejected =>
      exact before
  | found isFound =>
      exact
        before.of_board
          (requestService_serviced (mem_of_findService isFound).1 _
            _).mPendTask
  | created _ _ _ _ =>
      exact before.of_board (createService_serviced _ _ _ _ _).mPendTask
  | queued _ _ _ isSubmitted =>
      exact before.submitted rfl isSubmitted

/-- Nothing is queued for an activity without a process that is new. -/
theorem CallbacksHaveTasks.of_unspawned
    {spawned : Option Nat}
    {route : Route}
    (before : CallbacksHaveTasks inner)
    (noneSpawned : spawned = none)
    (outcome :
      inner.ActivityOutcome packageInfo intent spawned next route) :
    CallbacksHaveTasks next := by
  cases outcome with
  | rejected quiet =>
      exact before.of_board quiet.mPendTask
  | turned quiet =>
      exact before.of_board quiet.mPendTask
  | hosted _ isCreated quiet =>
      exact before.of_board (quiet.mPendTask.trans isCreated.mPendTask)
  | queued _ noneWaits isCreated isSubmitted _ =>
      cases isSubmitted with
      | behind isWaiting =>
          rw [getAttachingAppPid, isCreated.mAppWaitingAttach] at isWaiting
          rw [getAttachingAppPid, isWaiting] at noneWaits
          cases noneWaits
      | first _ isSpawned =>
          rw [noneSpawned] at isSpawned
          cases isSpawned

/-- If the step starts an activity, it is on a task. -/
def isOnTask
    (inner : ActivityManagerInner) : InnerAction → Bool
  | .startActivity activityName packageInfo intent caller _ _ =>
      inner.startsOnTask
        (if activityName.isEmpty then packageInfo.entry
          else activityName)
        packageInfo intent caller
  | .startActivityReal activityName packageInfo intent caller _ _ =>
      inner.startsOnTask activityName packageInfo intent caller
  | _ => true

/-- Only starts put callbacks for activities on the board. -/
theorem CallbacksHaveTasks.step
    {action : InnerAction}
    (before : CallbacksHaveTasks inner)
    (onTask : inner.isOnTask action = true)
    (isNext : inner.step? action = some next) :
    CallbacksHaveTasks next := by
  cases step?_outcome isNext with
  | activity outcome =>
      cases action with
      | startActivity activityName packageInfo intent caller isOkToLaunch
          spawned =>
          obtain ⟨⟨_, route⟩, isResult, rfl⟩ :=
            Option.map_eq_some_iff.mp isNext
          exact before.startActivity onTask isResult
      | startActivityReal activityName packageInfo intent caller
          isOkToLaunch spawned =>
          obtain ⟨⟨_, route⟩, isResult, rfl⟩ :=
            Option.map_eq_some_iff.mp isNext
          exact before.startActivityReal onTask isResult
      | startService serviceName packageInfo intent spawned =>
          obtain ⟨⟨_, route⟩, isResult, rfl⟩ :=
            Option.map_eq_some_iff.mp isNext
          exact before.service (startServiceReal_outcome isResult)
      | bindService serviceName packageInfo intent conn spawned =>
          obtain ⟨⟨_, route⟩, isResult, rfl⟩ :=
            Option.map_eq_some_iff.mp isNext
          exact before.service (startServiceReal_outcome isResult)
      | _ =>
          exact before.of_unspawned rfl outcome
  | service _ outcome =>
      exact before.service outcome
  | serviced serviced =>
      exact before.of_board serviced.mPendTask
  | reported outcome =>
      exact before.of_board outcome.sameBoard.1
  | attached outcome =>
      cases outcome with
      | known _ =>
          exact before
      | attached _ _ isServed =>
          refine CallbacksHaveTasks.eventTrigger ?_ isServed
          exact before.of_board rfl
      | illegal _ =>
          exact before
  | exited outcome =>
      cases outcome with
      | hosted _ _ quiet _ terminated isDeleted _ =>
          apply before.of_board
          rw [deleteAppInfo_cases isDeleted]
          exact terminated.mPendTask.trans quiet.mPendTask
      | waiting _ _ =>
          exact before.of_board rfl
      | unknown _ _ =>
          exact before
  | quiet _ quiet =>
      exact before.of_board quiet.mPendTask

/--
If every start is on a task, no closure that waits has a null pointer for its
task.  The next start goes through no null pointer if and only if it is on a
task as well.
-/
theorem noNullTask_of_reachable
    (lines : List LmkRow)
    (arena : Int)
    (now : Nat)
    (inner : ActivityManagerInner)
    (reachable :
      Reachable step? (fun inner action => inner.isOnTask action = true)
        (start lines arena now) inner) :
    inner.CallbacksHaveTasks ∧
      ∀ packageInfo info intent caller,
        inner.NoNullTask packageInfo info intent caller ↔
          (inner.asksNewTask packageInfo info intent caller ||
            inner.offersActiveTask packageInfo info) = true := by
  have haveTasks : inner.CallbacksHaveTasks := by
    refine reachable.invariant (.start lines arena now) ?_
    intro middle action after before onTask isNext
    exact before.step onTask isNext
  exact ⟨haveTasks, fun _ _ _ _ => noNullTask_iff⟩

/-- An activity of the SystemUI besides the entry of its package. -/
def volumeInfo : ActivityInfo where
  name := "volume"
  launchMode := "singleTop"
  taskAffinity := "panel"

/-- Its package. -/
def panelPackage : PackageInfo where
  packageName := "panel"
  entry := "main"
  appType := "NATIVE"
  isSystemUI := true
  priority := .persistent
  activitiesInfo :=
    [{ name := "main", launchMode := "standard", taskAffinity := "panel" },
      volumeInfo]
  servicesInfo := []

/-- An ordinary activity runs, and the SystemUI does not. -/
def stationsRun : Option ActivityManagerInner :=
  run? step? (start [] 0 0)
    [startRadio, .attachApplication 12 false]

/-- Every start of that run is on a task. -/
theorem stationsRun_noNullTask :
    (stationsRun.get rfl).CallbacksHaveTasks ∧
      ∀ packageInfo info intent caller,
        (stationsRun.get rfl).NoNullTask packageInfo info intent caller ↔
          ((stationsRun.get rfl).asksNewTask packageInfo info intent
              caller ||
            (stationsRun.get rfl).offersActiveTask packageInfo info) =
              true := by
  have accepted : stationsRun = some (stationsRun.get rfl) :=
    (Option.some_get _).symm
  exact noNullTask_of_reachable [] 0 0 _
    (Reachable.of_run? (by decide) accepted)

/-- A start of the other activity by the one that runs has none. -/
theorem stationsRun_nullTask :
    ¬ ∀ inner,
      Reachable step? (fun _ _ => True) (start [] 0 0) inner →
      ∀ packageInfo, ∀ info ∈ packageInfo.activitiesInfo,
        ∀ intent caller,
          inner.NoNullTask packageInfo info intent caller := by
  intro neverNull
  have accepted : stationsRun = some (stationsRun.get rfl) :=
    (Option.some_get _).symm
  have reachable :
      Reachable step? (fun _ _ => True) (start [] 0 0)
        (stationsRun.get rfl) :=
    Reachable.of_run? (by decide) accepted
  have notNull :=
    neverNull _ reachable panelPackage volumeInfo
      (List.mem_cons_of_mem _ (List.mem_singleton_self _)) plainIntent
      (some 0)
  exact absurd (noNullTask_iff.mp notNull) (by decide)

end ActivityManagerInner

end ActivityManager
