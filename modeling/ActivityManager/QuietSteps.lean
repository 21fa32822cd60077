import ActivityManager.ActivityManagerFrames
import ActivityManager.PriorityLevels

/-!
# Quiet steps

A step of the service is quiet if all it does is a run of primitive steps on
the records of activities, calls of the priority list and a new order of the
SystemUI's tasks.  Whatever the task managers do is quiet.
-/

namespace ActivityManager

open PartialProgram ProcessPriorityPolicy
open StepSystem (Reachable)

/-! ## Routine steps -/

/-- Neither activities nor applications begin, and no process ends. -/
def RecordAction.isRoutine : RecordAction → Bool
  | .createActivity _ _ _ => false
  | .setAppThread _ _ => false
  | .attachApplication _ _ _ => false
  | .deleteAppInfo _ => false
  | _ => true

/-- A routine step neither brings an application record nor takes one. -/
theorem RecordAction.keepsApps_of_isRoutine
    {action : RecordAction}
    (isRoutine : action.isRoutine = true) :
    action.changesApps = false := by
  cases action <;> first | rfl | cases isRoutine

/-- Nor does it change whose an activity is. -/
theorem TaskStackManager.SameHosts.recordStep
    {manager next : TaskStackManager}
    {action : RecordAction}
    (isNext : manager.recordStep? action = some next)
    (isRoutine : action.isRoutine = true) :
    manager.SameHosts next := by
  cases action with
  | createActivity name targetTask intent =>
      cases isRoutine
  | setAppThread activity app =>
      cases isRoutine
  | turn activity toStatus =>
      obtain ⟨record, transition, turned⟩ := turn_cases isNext
      exact .change turned.isRecord turned.activities
        (ActivityRecord.lifecycleTransition?_frame turned.turned).2.1
        turned.mActivityMap turned.nextNumbers.1
  | setIntent activity intent =>
      obtain ⟨record, isRecord, isSet⟩ := setIntent_cases isNext
      subst isSet
      exact .change isRecord rfl rfl rfl rfl
  | restart activity =>
      obtain ⟨record, isRecord, isSet⟩ := setStatus_cases isNext
      subst isSet
      exact .change isRecord rfl rfl rfl rfl
  | commit task =>
      obtain ⟨_, isCommitted⟩ := commit_cases isNext
      rw [isCommitted]
      exact .of_eq rfl (.refl _) rfl
  | complete serial task =>
      obtain ⟨_, _, isDone⟩ := complete_cases isNext
      subst isDone
      exact .of_eq rfl (.refl _) rfl
  | statusReport token status =>
      rcases statusReport_cases isNext with
        isSame | ⟨_, record, _, _, isRecord, isStored⟩
      · rw [isSame]
        exact .refl manager
      · subst isStored
        have sameApp : (storeReport record status).mApp = record.mApp := by
          unfold storeReport
          split <;> rfl
        exact .change isRecord rfl sameApp rfl rfl
  | giveUp serial activity =>
      obtain ⟨_, _, _, ⟨_, isDone⟩ | ⟨_, exited⟩⟩ := giveUp_cases isNext
      · subst isDone
        exact .of_eq rfl (.refl _) rfl
      · have done : SameHosts manager (manager.done serial) :=
          .of_eq rfl (.refl _) rfl
        exact done.trans (.abnormalExit exited)
  | abnormalExit activity =>
      exact .abnormalExit isNext
  | reportDestroyed token =>
      obtain ⟨_, record, _, isRecord, _, isStarted⟩ :=
        startDestroyed_cases isNext
      subst isStarted
      exact .change isRecord rfl rfl rfl rfl
  | activityGone token =>
      rw [← Option.some.inj isNext]
      obtain ⟨sameRecords, _, sameMap⟩ := leaveApp_frame manager token
      refine .of_eq sameRecords ?_ (leaveApp_nextActivity manager token)
      change ((manager.leaveApp token).mActivityMap.erase token).Sublist _
      rw [sameMap]
      exact List.erase_sublist
  | setForeground app isForeground =>
      obtain ⟨_, _, isSet⟩ := Option.map_eq_some_iff.mp isNext
      subst isSet
      exact .of_eq rfl (.refl _) rfl
  | stopApplication app =>
      obtain ⟨_, _, isSet⟩ := Option.map_eq_some_iff.mp isNext
      subst isSet
      exact .of_eq rfl (.refl _) rfl
  | markStopped app =>
      obtain ⟨_, _, isSet⟩ := Option.map_eq_some_iff.mp isNext
      subst isSet
      exact .of_eq rfl (.refl _) rfl
  | forget token =>
      rw [← Option.some.inj isNext]
      exact .of_eq rfl List.erase_sublist rfl
  | attachApplication packageName systemui pid =>
      cases isRoutine
  | deleteAppInfo app =>
      cases isRoutine
  | clockAdvances ms =>
      rw [← Option.some.inj isNext]
      exact .of_eq rfl (.refl _) rfl
  | holdTasks tasks =>
      rw [← Option.some.inj isNext]
      exact .of_eq rfl (.refl _) rfl
  | relist lists =>
      rw [← Option.some.inj isNext]
      exact .of_eq rfl (.refl _) rfl

/-- The parts of something are routine. -/
def TaskStackManager.Parts.AreRoutine
    (parts : TaskStackManager.Parts) : Prop :=
  ∀ manager action,
    parts.isPart manager action →
    action.isRoutine = true

/-! ## Quiet steps -/

namespace ActivityManagerInner

/-- Only records of activities, the priorities and the SystemUI change. -/
structure Quiet
    (parts : TaskStackManager.Parts)
    (before after : ActivityManagerInner) : Prop where
  moves :
    Reachable TaskStackManager.recordStep? parts.isPart before.manager
      after.manager
  mPriorityPolicy :
    KeepsLevels before.mPriorityPolicy after.mPriorityPolicy
  mServices : after.mServices = before.mServices
  mAppList : after.mAppList = before.mAppList
  mAppWaitingAttach : after.mAppWaitingAttach = before.mAppWaitingAttach
  mPendTask : after.mPendTask = before.mPendTask
  nextToken : after.nextToken = before.nextToken
  calls : after.calls = before.calls
  served : after.served = before.served

variable
  {parts : TaskStackManager.Parts}
  {inner next : ActivityManagerInner}
  {lists : TaskLists}

namespace Quiet

theorem refl (inner : ActivityManagerInner) :
    Quiet parts inner inner where
  moves := .initial
  mPriorityPolicy := .refl _
  mServices := rfl
  mAppList := rfl
  mAppWaitingAttach := rfl
  mPendTask := rfl
  nextToken := rfl
  calls := rfl
  served := rfl

theorem trans
    {middle : ActivityManagerInner}
    (former : Quiet parts inner middle)
    (latter : Quiet parts middle next) :
    Quiet parts inner next where
  moves := former.moves.trans latter.moves
  mPriorityPolicy := former.mPriorityPolicy.trans latter.mPriorityPolicy
  mServices := latter.mServices.trans former.mServices
  mAppList := latter.mAppList.trans former.mAppList
  mAppWaitingAttach :=
    latter.mAppWaitingAttach.trans former.mAppWaitingAttach
  mPendTask := latter.mPendTask.trans former.mPendTask
  nextToken := latter.nextToken.trans former.nextToken
  calls := latter.calls.trans former.calls
  served := latter.served.trans former.served

/-- The application records stay those of their processes. -/
theorem sameApps
    (quiet : Quiet parts inner next)
    (areRoutine : parts.AreRoutine) :
    inner.manager.SameApps next.manager :=
  .of_reachable
    (fun middle action isPart =>
      RecordAction.keepsApps_of_isRoutine
        (areRoutine middle action isPart))
    quiet.moves

end Quiet

/-- Activities keep their applications. -/
theorem Quiet.sameHosts
    (quiet : Quiet parts inner next)
    (areRoutine : parts.AreRoutine) :
    inner.manager.SameHosts next.manager := by
  refine quiet.moves.invariant (.refl _) ?_
  intro middle action after same isPart isNext
  exact same.trans (.recordStep isNext (areRoutine middle action isPart))

/-- The task manager has moved, and the priority list has its calls. -/
theorem withManager_quiet
    {moved : TaskStackManager}
    (moves : TaskStackManager.Moved parts inner.manager lists moved) :
    Spec True (inner.withManager moved) fun next =>
      Quiet parts inner next ∧ next.manager = moved := by
  unfold withManager
  refine Spec.bind_known (fun mustNotFail => absurd trivial mustNotFail) ?_
  intro policy delivered
  exact
    ⟨{ moves := moves.moves
       mPriorityPolicy := deliver_keepsLevels delivered
       mServices := rfl
       mAppList := rfl
       mAppWaitingAttach := rfl
       mPendTask := rfl
       nextToken := rfl
       calls := rfl
       served := rfl }, rfl⟩

/-- Something that moves the task manager. -/
theorem Quiet.manager
    {result : Option TaskStackManager}
    (moves :
      Spec True result fun manager =>
        ∃ lists,
          TaskStackManager.Moved parts inner.manager lists manager) :
    Spec True (result >>= inner.withManager) (Quiet parts inner) := by
  refine moves.bind ?_
  rintro moved ⟨lists, isMoved⟩
  exact (withManager_quiet isMoved).mono fun _ quiet => quiet.1

end ActivityManagerInner

/-! ## The SystemUI -/

namespace TaskStackManager

variable
  {parts : Parts}
  {before manager : TaskStackManager}
  {lists : TaskLists}

namespace Moved

/-- A loop over activities each of which keeps the lists. -/
theorem forEach
    {operate : Nat → TaskStackManager → Option TaskStackManager}
    (rule :
      ∀ activity middle,
        Moved parts before lists middle →
        Spec True (operate activity middle) (Moved parts before lists))
    {activities : List Nat}
    (moved : Moved parts before lists manager) :
    Spec True (TaskStackManager.forEach operate activities manager)
      (Moved parts before lists) := by
  induction activities generalizing manager with
  | nil =>
      exact moved
  | cons activity rest inductionHypothesis =>
      refine (rule activity manager moved).bind ?_
      intro middle movedMiddle
      exact inductionHypothesis movedMiddle

theorem showActivity
    (moved : Moved parts before lists manager)
    (activity : Nat) :
    Spec True (SystemUIManager.showActivity activity manager)
      (Moved parts before lists) := by
  refine (moved.resume activity).bind ?_
  intro middle movedMiddle
  exact movedMiddle.setActivityForeground activity true

theorem hideActivity
    (moved : Moved parts before lists manager)
    (activity : Nat) :
    Spec True (SystemUIManager.hideActivity activity manager)
      (Moved parts before lists) := by
  refine (moved.request (by simp [requestedStatuses]) activity).bind ?_
  intro middle movedMiddle
  exact movedMiddle.setActivityForeground activity false

theorem finishSystemUIActivity
    (moved : Moved parts before lists manager)
    (activity : Nat) :
    Spec True (SystemUIManager.finishActivity activity manager)
      (Moved parts before lists) := by
  refine (moved.destroy activity).bind ?_
  intro middle movedMiddle
  exact movedMiddle.setActivityForeground activity false

theorem switchSystemUIToActive
    (moved : Moved parts before lists manager)
    (systemUI : SystemUIManager)
    (task : Nat)
    (intent : Intent) :
    Spec True (systemUI.switchTaskToActive task intent manager)
      (Moved parts before lists) := by
  apply moved.forEach
  intro activity middle movedMiddle
  refine
    Spec.bind_ite
      (fun _ => movedMiddle.setIntent activity intent)
      (fun _ => movedMiddle) ?_
  intro informed movedInformed
  exact movedInformed.showActivity activity

theorem moveSystemUIToBackground
    (moved : Moved parts before lists manager)
    (systemUI : SystemUIManager)
    (task : Nat) :
    Spec True (systemUI.moveTaskToBackground task manager)
      (Moved parts before lists) :=
  moved.forEach fun activity _ movedMiddle =>
    movedMiddle.hideActivity activity

theorem onStartActivity
    (moved : Moved parts before lists manager)
    (systemUI : SystemUIManager) :
    Spec True (systemUI.onStartActivity manager)
      (Moved parts before lists) :=
  moved.forEach fun task _ movedMiddle =>
    movedMiddle.moveSystemUIToBackground systemUI task

end Moved

end TaskStackManager

/-! ## Operations -/

/-- The primitive steps of the operations alone. -/
def ownParts : TaskStackManager.Parts where
  isPart := TaskStackManager.IsOwn
  own isOwn _ _ := isOwn

/-- The primitive steps of the operations, and applications that stop. -/
def stoppingParts : TaskStackManager.Parts where
  isPart manager action :=
    manager.IsOwn action ∨ ∃ app, action = .stopApplication app
  own isOwn _ _ := Or.inl isOwn

theorem TaskStackManager.IsOwn.isRoutine
    {manager : TaskStackManager}
    {action : RecordAction}
    (isOwn : manager.IsOwn action) :
    action.isRoutine = true := by
  cases action <;> first | rfl | exact isOwn.elim

/-- The operations are routine. -/
theorem ownParts_areRoutine :
    ownParts.AreRoutine :=
  fun _ _ => TaskStackManager.IsOwn.isRoutine

theorem stoppingParts_areRoutine :
    stoppingParts.AreRoutine := by
  intro manager action isPart
  rcases isPart with isOwn | ⟨app, isStop⟩
  · exact isOwn.isRoutine
  · rw [isStop]
    rfl

/-- So are the steps of the task manager outside the life of a process. -/
theorem partsOf_areRoutine
    {before : TaskStackManager}
    {action : ManagerAction}
    (isApart : action.isApart = true) :
    (TaskStackManager.partsOf before action).AreRoutine := by
  intro manager primitive isPart
  rcases isPart with isOwn | isPart
  · exact isOwn.isRoutine
  · cases action with
    | reportActivityStatus token status =>
        rcases isPart with ⟨_, isReport⟩ | isStart | isEnd
        · rw [isReport]
          rfl
        · rw [isStart]
          rfl
        · rw [isEnd]
          rfl
    | timeout serial =>
        obtain ⟨_, activity, isTimeout⟩ := isPart
        rw [isTimeout]
        rfl
    | clockAdvances ms =>
        rw [isPart.2]
        rfl
    | holdTasks tasks =>
        rw [isPart.2]
        rfl
    | moveTaskToBackground _ =>
        exact isPart.elim
    | finishActivity _ =>
        exact isPart.elim
    | _ =>
        cases isApart

/-- And the end of a process, as long as its record is there. -/
theorem partsOf_procAppTerminated_areRoutine
    {before : TaskStackManager}
    {app : Nat} :
    (TaskStackManager.partsOf before
      (.procAppTerminated app)).AreRoutine := by
  intro manager primitive isPart
  rcases isPart with isOwn | ⟨_, isMark⟩ | ⟨activity, isExit⟩ |
    ⟨activity, isForget⟩
  · exact isOwn.isRoutine
  · rw [isMark]
    rfl
  · rw [isExit]
    rfl
  · rw [isForget]
    rfl

namespace ActivityManagerInner

variable
  {parts : TaskStackManager.Parts}
  {inner next : ActivityManagerInner}

/-- A task manager that has not moved yet. -/
private theorem unmoved
    (inner : ActivityManagerInner) :
    TaskStackManager.Moved parts inner.manager inner.manager.lists
      inner.manager :=
  .refl inner.manager

theorem turnToActivity_quiet
    (inner : ActivityManagerInner)
    (isSystemUI : Bool)
    (targetTask activity : Nat)
    (intent : Intent)
    (startFlag : Nat)
    (restarts : ∀ middle, parts.isPart middle (.restart activity)) :
    Spec True
      (inner.turnToActivity isSystemUI targetTask activity intent
        startFlag)
      (Quiet parts inner) := by
  unfold turnToActivity
  cases isSystemUI with
  | true =>
      apply Quiet.manager
      exact ((unmoved inner).showActivity activity).mono
        fun _ moved => ⟨_, moved⟩
  | false =>
      apply Quiet.manager
      have turned :=
        (unmoved inner).turnToActivity targetTask activity intent startFlag
          fun _ => restarts
      exact turned.mono fun _ moved => ⟨_, moved⟩

theorem switchTaskToActive_quiet
    (inner : ActivityManagerInner)
    (isSystemUI : Bool)
    (task : Nat)
    (intent : Intent) :
    Spec True (inner.switchTaskToActive isSystemUI task intent)
      (Quiet parts inner) := by
  unfold switchTaskToActive
  cases isSystemUI with
  | true =>
      apply Quiet.manager
      exact ((unmoved inner).switchSystemUIToActive inner.systemUI task
        intent).mono fun _ moved => ⟨_, moved⟩
  | false =>
      apply Quiet.manager
      exact ((unmoved inner).switchTaskToActive task intent).mono
        fun _ moved => ⟨_, moved⟩

/-- The SystemUI's tasks, tags and modes are nobody else's concern. -/
theorem Quiet.arrange
    {middle : ActivityManagerInner}
    (quiet : Quiet parts inner middle)
    (systemUI : SystemUIManager)
    (mTag : Nat → String)
    (nextTask : Nat)
    (mLaunchMode : Nat → LaunchMode) :
    Quiet parts inner
      { middle with
        systemUI := systemUI
        mTag := mTag
        nextTask := nextTask
        mLaunchMode := mLaunchMode } where
  moves := quiet.moves
  mPriorityPolicy := quiet.mPriorityPolicy
  mServices := quiet.mServices
  mAppList := quiet.mAppList
  mAppWaitingAttach := quiet.mAppWaitingAttach
  mPendTask := quiet.mPendTask
  nextToken := quiet.nextToken
  calls := quiet.calls
  served := quiet.served

theorem pushNewActivity_quiet
    (inner : ActivityManagerInner)
    (isSystemUI : Bool)
    (targetTask newActivity startFlag : Nat) :
    Spec True
      (inner.pushNewActivity isSystemUI targetTask newActivity startFlag)
      (Quiet parts inner) := by
  unfold pushNewActivity
  cases isSystemUI with
  | true =>
      have start :
          TaskStackManager.Moved parts inner.manager
            inner.manager.lists inner.manager :=
        .refl inner.manager
      refine (start.showActivity newActivity).bind ?_
      intro shown moved
      refine (withManager_quiet moved).bind ?_
      intro middle quiet
      exact quiet.1.arrange _ middle.mTag middle.nextTask
        middle.mLaunchMode
  | false =>
      apply Quiet.manager
      exact ((unmoved inner).pushNewActivity targetTask newActivity
        startFlag).mono fun _ moved => ⟨_, moved⟩

/-- The event for the SystemUI that a standard application starts. -/
theorem onStartActivity_quiet
    (inner : ActivityManagerInner) :
    Spec True
      (inner.systemUI.onStartActivity inner.manager >>= inner.withManager)
      (Quiet parts inner) := by
  apply Quiet.manager
  exact ((unmoved inner).onStartActivity inner.systemUI).mono
    fun _ moved => ⟨_, moved⟩

theorem onManager_quiet
    (inner : ActivityManagerInner)
    (action : ManagerAction) :
    Spec True (inner.onManager action)
      (Quiet (TaskStackManager.partsOf inner.manager action) inner) := by
  unfold onManager
  refine (TaskStackManager.step?_moved inner.manager action).bind ?_
  rintro manager ⟨lists, _, moved⟩
  refine (withManager_quiet moved).bind ?_
  intro middle quiet
  exact quiet.1.arrange _ middle.mTag middle.nextTask middle.mLaunchMode

theorem moveSystemUIToBackground_quiet
    (inner : ActivityManagerInner)
    (task : Nat) :
    Spec True (inner.step? (.moveSystemUIToBackground task))
      (Quiet parts inner) := by
  apply Quiet.manager
  exact ((unmoved inner).moveSystemUIToBackground inner.systemUI
    task).mono fun _ moved => ⟨_, moved⟩

theorem finishSystemUIActivity_quiet
    (inner : ActivityManagerInner)
    (activity : Nat) :
    Spec True (inner.step? (.finishSystemUIActivity activity))
      (Quiet parts inner) := by
  apply Quiet.manager
  exact ((unmoved inner).finishSystemUIActivity activity).mono
    fun _ moved => ⟨_, moved⟩

/-! ## Applications that stop -/

/-- `stopApplication` on a record that exists. -/
theorem stopApp_quiet
    {app : Nat}
    {record : AppRecord}
    (isRecord : inner.manager.apps app = some record) :
    Quiet stoppingParts inner
      { inner with manager := inner.manager.stopApp app record } where
  moves := by
    have stepped :
        inner.manager.recordStep? (.stopApplication app) =
          some (inner.manager.stopApp app record) := by
      simp [TaskStackManager.recordStep?, isRecord]
    exact .step .initial (Or.inr ⟨app, rfl⟩) stepped
  mPriorityPolicy := .refl _
  mServices := rfl
  mAppList := rfl
  mAppWaitingAttach := rfl
  mPendTask := rfl
  nextToken := rfl
  calls := rfl
  served := rfl

theorem stopApplication_quiet
    (inner : ActivityManagerInner)
    (app : Nat) :
    Spec True (inner.stopApplication app) (Quiet stoppingParts inner) := by
  unfold stopApplication
  refine Spec.bind_known (fun mustNotFail => absurd trivial mustNotFail) ?_
  intro record isRecord
  exact stopApp_quiet isRecord

theorem stopIfIdle_quiet
    (inner : ActivityManagerInner)
    (app : Nat) :
    Quiet stoppingParts inner (inner.stopIfIdle app) := by
  unfold stopIfIdle
  split
  · rename_i record isRecord
    split
    · exact .refl inner
    · exact stopApp_quiet isRecord
  · exact .refl inner

/-- Only the priority list changes. -/
theorem Quiet.prioritize
    {middle : ActivityManagerInner}
    {policy : ProcessPriorityPolicy}
    (quiet : Quiet parts inner middle)
    (keeps : KeepsLevels middle.mPriorityPolicy policy) :
    Quiet parts inner { middle with mPriorityPolicy := policy } where
  moves := quiet.moves
  mPriorityPolicy := quiet.mPriorityPolicy.trans keeps
  mServices := quiet.mServices
  mAppList := quiet.mAppList
  mAppWaitingAttach := quiet.mAppWaitingAttach
  mPendTask := quiet.mPendTask
  nextToken := quiet.nextToken
  calls := quiet.calls
  served := quiet.served

theorem killAll_quiet
    (pids : List Nat)
    (inner : ActivityManagerInner) :
    Spec True (killAll pids inner) (Quiet stoppingParts inner) := by
  induction pids generalizing inner with
  | nil =>
      exact Quiet.refl inner
  | cons pid rest inductionHypothesis =>
      have goOn :
          ∀ stopped,
            Quiet stoppingParts inner stopped →
            Spec True
              (killAll rest
                { stopped with
                  mPriorityPolicy :=
                    { stopped.mPriorityPolicy with
                      mLmk :=
                        stopped.mPriorityPolicy.mLmk.cancelMonitorPid
                          pid } })
              (Quiet stoppingParts inner) := by
        intro stopped quiet
        refine (inductionHypothesis _).mono ?_
        intro next others
        exact (quiet.prioritize (withLmk_keepsLevels _ _)).trans others
      rw [killAll]
      split
      · exact (stopApplication_quiet inner _).bind goOn
      · exact goOn inner (.refl inner)

theorem executeLMK_quiet
    (inner : ActivityManagerInner)
    (freememory maxblock : Int) :
    Spec True (inner.executeLMK freememory maxblock)
      (Quiet stoppingParts inner) := by
  unfold executeLMK
  split
  · refine Spec.bind_known
      (fun mustNotFail => absurd trivial mustNotFail) ?_
    intro policy analysed
    have quiet :
        Quiet stoppingParts inner
          { inner with mPriorityPolicy := policy } :=
      (Quiet.refl inner).prioritize
        (analyseProcessPriority_keepsLevels analysed)
    exact (killAll_quiet _ _).mono fun _ => quiet.trans
  · exact Quiet.refl inner

end ActivityManagerInner

end ActivityManager
