import ActivityManager.TaskManagerSteps

/-!
# Conditions on the steps of the task manager

Each aim asks something of the steps of a run: a condition on the state before
the step and on its arguments.  The conditions are checks that can be executed.
-/

namespace ActivityManager

/-! ## What `deleteActivity` exchanges in the foreground -/

namespace Setting

variable {setting : Setting} {lists : TaskLists} {activity : Nat}

/--
The activities that `deleteActivity` pops off the stack of the active task, and
the stack of the next task if nothing is left.
-/
def exchanged
    (setting : Setting)
    (lists : TaskLists)
    (activity : Nat) : List Nat × List Nat :=
  match setting.getTask lists activity, lists.mAllTasks with
  | some task, active :: others =>
      let stack := lists.stackOf active
      if task = active ∧ activity ∈ stack then
        (TaskLists.downTo stack activity,
          if TaskLists.below stack activity = [] then
            { lists with mAllTasks := others }.foreground
          else
            [])
      else
        ([], [])
  | _, _ =>
      ([], [])

/-- As many activities of every running application leave as come. -/
def deletesEvenly
    (setting : Setting)
    (lists : TaskLists)
    (activity : Nat) : Bool :=
  let exchanged := setting.exchanged lists activity
  (exchanged.1 ++ exchanged.2).all fun other =>
    (setting.inApp other).all fun app =>
      !setting.running app ||
        setting.countIn app exchanged.1 ==
          setting.countIn app exchanged.2

/-- `deletesEvenly` for the deletions of a process that died. -/
def deletesAllEvenly
    (setting : Setting) :
    List Nat → TaskLists → Bool
  | [], _ =>
      true
  | activity :: rest, lists =>
      setting.deletesEvenly lists activity &&
        setting.deletesAllEvenly rest
          (setting.deleteActivity lists activity)

/-- An application without an activity in a list has no count there. -/
private theorem countIn_eq_zero
    {app : Nat}
    {activities : List Nat}
    (notThere :
      ∀ other ∈ activities,
        setting.inApp other ≠ some app) :
    setting.countIn app activities = 0 := by
  rw [countIn, List.countP_eq_zero]
  intro other member
  simpa using notThere other member

/-- The check compares the counts of every running application. -/
theorem deletesEvenly_iff :
    setting.deletesEvenly lists activity = true ↔
      ∀ app,
        setting.running app = true →
        setting.countIn app (setting.exchanged lists activity).1 =
          setting.countIn app (setting.exchanged lists activity).2 := by
  constructor
  · intro evenly app isRunning
    unfold deletesEvenly at evenly
    by_cases appears :
        ∃ other ∈
            (setting.exchanged lists activity).1 ++
              (setting.exchanged lists activity).2,
          setting.inApp other = some app
    · obtain ⟨other, member, inApp⟩ := appears
      have checked := List.all_eq_true.mp evenly other member
      simpa [inApp, isRunning] using checked
    · have notThere :
          ∀ other ∈
              (setting.exchanged lists activity).1 ++
                (setting.exchanged lists activity).2,
            setting.inApp other ≠ some app :=
        fun other member inApp => appears ⟨other, member, inApp⟩
      rw [countIn_eq_zero fun other member =>
          notThere other (List.mem_append_left _ member),
        countIn_eq_zero fun other member =>
          notThere other (List.mem_append_right _ member)]
  · intro sameCounts
    refine List.all_eq_true.mpr ?_
    intro other _
    cases inApp : setting.inApp other with
    | none =>
        rfl
    | some app =>
        cases isRunning : setting.running app with
        | false =>
            simp [isRunning]
        | true =>
            simp [isRunning, sameCounts app isRunning]

/-- Counts of a list that is split. -/
private theorem countIn_append
    (app : Nat)
    (first second : List Nat) :
    setting.countIn app (first ++ second) =
      setting.countIn app first + setting.countIn app second :=
  List.countP_append

/-- What `deleteActivity` changes of the foreground. -/
theorem countIn_deleteActivity
    (wellStacked : lists.WellStacked setting.inTask)
    (app : Nat) :
    setting.countIn app
          (setting.deleteActivity lists activity).foreground +
        setting.countIn app (setting.exchanged lists activity).1 =
      setting.countIn app lists.foreground +
        setting.countIn app (setting.exchanged lists activity).2 := by
  unfold exchanged deleteActivity
  cases isTask : setting.getTask lists activity with
  | none =>
      rfl
  | some task =>
      dsimp only
      rw [TaskLists.deleteActivity, TaskLists.updateHome_foreground]
      cases allTasks : lists.mAllTasks with
      | nil =>
          simp [TaskLists.foreground, TaskLists.getActiveTask,
            TaskLists.shrinkTo, allTasks]
      | cons active others =>
          have isForeground := TaskLists.foreground_of_cons allTasks
          by_cases isActive : task = active
          · subst isActive
            have listed : task ∈ lists.mAllTasks := by
              rw [allTasks]
              exact List.mem_cons_self
            have isHead : some task = lists.getActiveTask := by
              rw [TaskLists.getActiveTask, allTasks]
              rfl
            have notListed : task ∉ others := by
              have distinct := wellStacked.distinctTasks
              rw [allTasks] at distinct
              exact (List.nodup_cons.mp distinct).1
            by_cases onStack : activity ∈ lists.stackOf task
            · have splits :
                  setting.countIn app (lists.stackOf task) =
                    setting.countIn app
                        (TaskLists.downTo (lists.stackOf task) activity) +
                      setting.countIn app
                        (TaskLists.below (lists.stackOf task) activity) := by
                rw [← countIn_append,
                  TaskLists.downTo_append_below onStack]
              rw [isForeground, splits, TaskLists.remaining,
                if_pos onStack]
              by_cases isLast :
                  TaskLists.below (lists.stackOf task) activity = []
              · rw [isLast,
                  TaskLists.foreground_shrinkTo_nil allTasks notListed]
                simp [onStack, isLast, countIn]
                omega
              · rw [TaskLists.foreground_shrinkTo_active isHead isLast]
                simp [onStack, isLast, countIn]
                omega
            · have notEmpty := wellStacked.notEmpty task listed
              rw [TaskLists.remaining, if_neg onStack,
                TaskLists.foreground_shrinkTo_active isHead notEmpty,
                isForeground]
              simp [onStack]
          · have notActive : some task ≠ lists.getActiveTask := by
              rw [TaskLists.getActiveTask, allTasks]
              simpa using isActive
            rw [TaskLists.foreground_shrinkTo_other notActive]
            simp [isActive]

open TaskStackManager (Balanced BalancedAll)

/-- An even exchange keeps the counts, and no other. -/
theorem deletesEvenly_iff_balanced
    (wellStacked : lists.WellStacked setting.inTask) :
    setting.deletesEvenly lists activity = true ↔
      Balanced setting lists (setting.deleteActivity lists activity) := by
  rw [deletesEvenly_iff, TaskStackManager.Balanced]
  refine forall₂_congr ?_
  intro app _
  have changes :
      setting.countIn app
            (setting.deleteActivity lists activity).foreground +
          setting.countIn app (setting.exchanged lists activity).1 =
        setting.countIn app lists.foreground +
          setting.countIn app (setting.exchanged lists activity).2 :=
    countIn_deleteActivity wellStacked app
  omega

/-- The lists stay well-formed. -/
theorem deleteActivity_wellStacked
    (wellStacked : lists.WellStacked setting.inTask) :
    (setting.deleteActivity lists activity).WellStacked
      setting.inTask := by
  unfold deleteActivity
  split
  · exact wellStacked.deleteActivity _ activity
  · exact wellStacked

/-- Even exchanges, one after the other, keep the counts. -/
theorem deletesAllEvenly_balanced
    {activities : List Nat}
    (wellStacked : lists.WellStacked setting.inTask)
    (evenly : setting.deletesAllEvenly activities lists = true) :
    BalancedAll setting activities lists := by
  induction activities generalizing lists with
  | nil =>
      trivial
  | cons activity rest inductionHypothesis =>
      rw [deletesAllEvenly, Bool.and_eq_true] at evenly
      exact
        ⟨(deletesEvenly_iff_balanced wellStacked).mp evenly.1,
          inductionHypothesis (deleteActivity_wellStacked wellStacked)
            evenly.2⟩

end Setting

/-! ## Conditions -/

namespace TaskStackManager

/-- A lifecycle task waits for the report. -/
def isAwaited
    (manager : TaskStackManager)
    (token : Nat)
    (status : Status) : Bool :=
  (manager.mPendTask.firstPending
    (PendEvent.activityStatusReport status token)).isSome

/--
Turns are to an activity of a listed task that is its top or becomes it, and
switches to a listed task.
-/
def isAddressed (manager : TaskStackManager) : ManagerAction → Bool
  | .turnToActivity targetStack activity _ startFlag =>
      targetStack ∈ manager.lists.mAllTasks ∧
        activity ∈ manager.lists.stackOf targetStack ∧
        (startFlag &&& flagActivityClearTop ≠ 0 ∨
          manager.lists.getTopActivity targetStack = some activity)
  | .switchTaskToActive targetStack _ =>
      targetStack ∈ manager.lists.mAllTasks
  | _ =>
      true

/-- What an operation goes through is there, and reports are legal. -/
def isProvided (manager : TaskStackManager) : ManagerAction → Bool
  | .pushNewActivity _ app _ _ _ =>
      manager.canStart app
  | .finishActivity activity =>
      (manager.activities activity).any fun record =>
        activity ∈ manager.lists.stackOf record.mInTask
  | .deleteActivity activity =>
      (manager.activities activity).isSome
  | .reportActivityStatus token status =>
      (manager.activities token).all fun record =>
        status ≤ 12 ∧ (status = Status.error → 1 ≤ record.mStatus)
  | .deleteAppInfo _ =>
      false
  | _ =>
      true

/-- Every call of `deleteActivity` in the step exchanges evenly. -/
def isBalanced (manager : TaskStackManager) : ManagerAction → Bool
  | .deleteActivity activity =>
      manager.setting.deletesEvenly manager.lists activity
  | .reportActivityStatus token status =>
      if token ∈ manager.mActivityMap ∧
          (status = Status.error ∧ manager.isAwaited token status ∨
            status = Status.destroyed ∧ manager.setting.hasApp token) then
        manager.setting.deletesEvenly manager.lists token
      else
        true
  | .timeout serial =>
      match manager.dueTask serial with
      | some (.lifeCycle activity) =>
          (manager.activities activity).all fun record =>
            record.mStatus = record.mTargetStatus ||
              manager.setting.deletesEvenly manager.lists activity
      | _ =>
          true
  | .procAppTerminated app =>
      (manager.apps app).all fun record =>
        (manager.markStopped app record).setting.deletesAllEvenly
          record.mExistActivity manager.lists
  | _ =>
      true

/--
An error is reported no earlier than after the creation, a destroyed activity
reports nothing else, and no timeout resumes an activity that is neither
destroyed nor in front.
-/
def isInOrder (manager : TaskStackManager) : ManagerAction → Bool
  | .reportActivityStatus token status =>
      if token ∈ manager.mActivityMap ∧ manager.isAwaited token status then
        (manager.activities token).all fun record =>
          (status = Status.error → Status.creating < record.mStatus) ∧
            (record.mStatus = Status.destroyed →
              status = Status.destroyed)
      else
        true
  | .timeout serial =>
      match manager.dueTask serial with
      | some (.waitResume _ willStopActivity) =>
          manager.lists.foreground.head? = some willStopActivity ∨
            (manager.activities willStopActivity).any fun record =>
              record.mStatus = Status.destroyed
      | _ =>
          true
  | _ =>
      true

/-- The conditions that the aims ask for. -/
structure Permitted
    (aims : Aims)
    (manager : TaskStackManager)
    (action : ManagerAction) : Prop where
  addressed : manager.isAddressed action = true
  provided : aims.safe → manager.isProvided action = true
  balanced : aims.counts → manager.isBalanced action = true
  inOrder : aims.targets → manager.isInOrder action = true

namespace Permitted

variable
  {aims : Aims}
  {manager : TaskStackManager}

/-- A permitted report does no harm. -/
theorem reportKeeps
    {token : Nat}
    {status : Status}
    (permitted :
      Permitted aims manager (.reportActivityStatus token status))
    (isKnown : token ∈ manager.mActivityMap)
    (isPending :
      (manager.mPendTask.firstPending
        (PendEvent.activityStatusReport status token)).isSome = true)
    (record : ActivityRecord)
    (isRecord : manager.activities token = some record) :
    ReportKeeps aims status record := by
  have inOrder :
      aims.targets →
      (status = Status.error → Status.creating < record.mStatus) ∧
        (record.mStatus = Status.destroyed →
          status = Status.destroyed) := by
    intro isAim
    have checked := permitted.inOrder isAim
    rw [isInOrder, if_pos ⟨isKnown, isPending⟩, isRecord] at checked
    exact of_decide_eq_true checked
  refine ⟨?_, fun isAim => (inOrder isAim).1, fun isAim => (inOrder isAim).2⟩
  intro isAim
  have checked := permitted.provided isAim
  rw [isProvided, isRecord] at checked
  exact of_decide_eq_true checked

/-- A permitted report deletes evenly. -/
theorem reportBalanced
    {token : Nat}
    {status : Status}
    (permitted :
      Permitted aims manager (.reportActivityStatus token status))
    (wellStacked : manager.lists.WellStacked manager.setting.inTask)
    (isAim : aims.counts)
    (isKnown : token ∈ manager.mActivityMap)
    (deletes :
      status = Status.error ∧ manager.isAwaited token status = true ∨
        status = Status.destroyed ∧
          manager.setting.hasApp token = true) :
    Balanced manager.setting manager.lists
      (manager.setting.deleteActivity manager.lists token) := by
  have checked := permitted.balanced isAim
  rw [isBalanced, if_pos ⟨isKnown, deletes⟩] at checked
  exact (Setting.deletesEvenly_iff_balanced wellStacked).mp checked

/-- A permitted timeout does no harm. -/
theorem timeoutKeeps
    {serial : Nat}
    (permitted : Permitted aims manager (.timeout serial))
    (wellStacked : manager.lists.WellStacked manager.setting.inTask)
    (task : PendTask)
    (isTask : manager.dueTask serial = some task) :
    TimeoutKeeps aims manager.setting manager task := by
  cases task with
  | lifeCycle activity =>
      rintro isAim ⟨record, isRecord, notDone⟩
      have checked := permitted.balanced isAim
      simp only [isBalanced, isTask, isRecord, Option.all_some,
        decide_eq_false notDone, Bool.false_or] at checked
      exact (Setting.deletesEvenly_iff_balanced wellStacked).mp checked
  | waitResume resumeActivity willStopActivity =>
      intro isAim
      have checked := permitted.inOrder isAim
      simp only [isInOrder, isTask] at checked
      rcases of_decide_eq_true checked with inFront | destroyed
      · exact Or.inl inFront
      · rw [Option.any_eq_true] at destroyed
        obtain ⟨record, isRecord, isDestroyed⟩ := destroyed
        exact Or.inr ⟨record, isRecord, of_decide_eq_true isDestroyed⟩
  | delayDestroy willDestroyActivity waitResumeActivity =>
      trivial

end Permitted

end TaskStackManager

end ActivityManager
