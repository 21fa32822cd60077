import ActivityManager.ProcessDeath
import ActivityManager.ProcessListings
import ActivityManager.RequestRoutes

/-!
# Activities that wait for their process

A start that spawns a process creates its activity at once, and leaves it to
the callback that waits for the process to give it an application.  Until then
it has none; and no two callbacks wait with the same activity.
-/

namespace ActivityManager

/-- The activity that a callback starts, if it starts one. -/
def AttachCallback.newActivity? : AttachCallback → Option Nat
  | .startActivity _ _ newActivity _ _ => some newActivity
  | .startService _ _ _ _ => none

/-- The activity that waits with a task on the board. -/
def awaitedActivity?
    (handler : TaskTimeoutHandler AppAttachTask) : Option Nat :=
  handler.mTask.mCallback.newActivity?

/-- Those of some tasks. -/
def awaitedActivities
    (handlers : List (TaskTimeoutHandler AppAttachTask)) : List Nat :=
  handlers.filterMap awaitedActivity?

namespace TaskStackManager

/-- An activity that is there, and has no application yet. -/
def IsUnhosted
    (manager : TaskStackManager)
    (activity : Nat) : Prop :=
  (manager.activities activity).map ActivityRecord.mApp = some none

variable
  {manager next : TaskStackManager}
  {activity other : Nat}

theorem SameHosts.isUnhosted
    (same : manager.SameHosts next)
    (unhosted : manager.IsUnhosted activity) :
    next.IsUnhosted activity :=
  (same.mApp activity).trans unhosted

/-- The record of another activity does not matter. -/
theorem IsUnhosted.setRecord
    (unhosted : manager.IsUnhosted activity)
    (isOther : activity ≠ other)
    (record : ActivityRecord) :
    (manager.setRecord other record).IsUnhosted activity :=
  (congrArg (Option.map ActivityRecord.mApp)
    (Function.update_of_ne isOther _ _)).trans unhosted

/-- A new activity has no application yet. -/
theorem createActivity_isUnhosted
    (manager : TaskStackManager)
    (name : String)
    (targetTask : Nat)
    (intent : Intent) :
    (manager.createActivity name targetTask intent).IsUnhosted
      manager.nextActivity := by
  unfold IsUnhosted TaskStackManager.createActivity
    TaskStackManager.setRecord
  dsimp only
  rw [Function.update_self]
  rfl

end TaskStackManager

namespace ActivityManagerInner

/--
Every activity that waits with a task was made for it, and has no application
before the task is done.
-/
structure AwaitedUnhosted (inner : ActivityManagerInner) : Prop where
  distinct : (awaitedActivities inner.mPendTask.mTasklist).Nodup
  bounded :
    ∀ activity ∈ awaitedActivities inner.mPendTask.mTasklist,
      activity < inner.manager.nextActivity
  unhosted :
    ∀ handler ∈ inner.mPendTask.mTasklist,
      handler.mIsDone = false →
      ∀ activity,
        awaitedActivity? handler = some activity →
        inner.manager.IsUnhosted activity

variable
  {inner next : ActivityManagerInner}
  {packageInfo : PackageInfo}
  {intent : Intent}
  {spawned : Option Nat}
  {route : Route}

/-- What waits with a task waits on the board. -/
theorem mem_awaitedActivities
    {handlers : List (TaskTimeoutHandler AppAttachTask)}
    {handler : TaskTimeoutHandler AppAttachTask}
    {activity : Nat}
    (onBoard : handler ∈ handlers)
    (isAwaited : awaitedActivity? handler = some activity) :
    activity ∈ awaitedActivities handlers :=
  List.mem_filterMap.mpr ⟨handler, onBoard, isAwaited⟩

/-- No activity waits with two tasks. -/
theorem eq_of_awaitedActivity?
    {handlers : List (TaskTimeoutHandler AppAttachTask)}
    {first second : TaskTimeoutHandler AppAttachTask}
    {activity : Nat}
    (distinct : (awaitedActivities handlers).Nodup)
    (firstOnBoard : first ∈ handlers)
    (secondOnBoard : second ∈ handlers)
    (isFirst : awaitedActivity? first = some activity)
    (isSecond : awaitedActivity? second = some activity) :
    first = second := by
  by_contra isOther
  have symmetric :
      Std.Symm fun former latter =>
        ∀ one,
          awaitedActivity? former = some one →
          ∀ other,
            awaitedActivity? latter = some other → one ≠ other :=
    ⟨fun _ _ differ one isOne other isOther =>
      (differ other isOther one isOne).symm⟩
  have differ :=
    (List.pairwise_filterMap.mp distinct).forall firstOnBoard
      secondOnBoard isOther
  exact differ activity isFirst activity isSecond rfl

namespace AwaitedUnhosted

theorem start
    (lines : List LmkRow)
    (arena : Int)
    (now : Nat) :
    AwaitedUnhosted (start lines arena now) where
  distinct := List.nodup_nil
  bounded _ member := absurd member List.not_mem_nil
  unhosted _ onBoard := absurd onBoard List.not_mem_nil

/-- Nothing happens to the board, and nothing to what waits there. -/
theorem of_board
    (before : AwaitedUnhosted inner)
    (sameBoard : next.mPendTask = inner.mPendTask)
    (nextActivity :
      inner.manager.nextActivity ≤ next.manager.nextActivity)
    (stay :
      ∀ activity,
        activity < inner.manager.nextActivity →
        inner.manager.IsUnhosted activity →
        next.manager.IsUnhosted activity) :
    AwaitedUnhosted next := by
  constructor
  · rw [sameBoard]
    exact before.distinct
  · intro activity member
    rw [sameBoard] at member
    exact Nat.lt_of_lt_of_le (before.bounded activity member) nextActivity
  · intro handler onBoard notDone activity isAwaited
    rw [sameBoard] at onBoard
    exact
      stay activity
        (before.bounded activity (mem_awaitedActivities onBoard isAwaited))
        (before.unhosted handler onBoard notDone activity isAwaited)

/-- Activities keep their applications. -/
theorem of_sameHosts
    (before : AwaitedUnhosted inner)
    (sameBoard : next.mPendTask = inner.mPendTask)
    (same : inner.manager.SameHosts next.manager) :
    AwaitedUnhosted next :=
  before.of_board sameBoard (Nat.le_of_eq same.nextActivity.symm)
    fun _ _ => same.isUnhosted

theorem quiet
    {parts : TaskStackManager.Parts}
    (before : AwaitedUnhosted inner)
    (areRoutine : parts.AreRoutine)
    (quiet : Quiet parts inner next) :
    AwaitedUnhosted next :=
  before.of_sameHosts quiet.mPendTask (quiet.sameHosts areRoutine)

/-- What happens to services is nothing to activities. -/
theorem serviced
    (before : AwaitedUnhosted inner)
    (serviced : Serviced inner next) :
    AwaitedUnhosted next := by
  refine before.of_sameHosts serviced.mPendTask ?_
  rw [serviced.manager]
  exact .of_eq rfl (.refl _) rfl

/-- A task comes behind the others, perhaps with a new activity. -/
theorem enqueue
    {task : AppAttachTask}
    (before : AwaitedUnhosted inner)
    (isNew :
      ∀ activity,
        task.mCallback.newActivity? = some activity →
        activity ∉ awaitedActivities inner.mPendTask.mTasklist ∧
          activity < inner.manager.nextActivity ∧
          inner.manager.IsUnhosted activity) :
    AwaitedUnhosted (inner.enqueue task) := by
  have isLonger :
      awaitedActivities (inner.enqueue task).mPendTask.mTasklist =
        awaitedActivities inner.mPendTask.mTasklist ++
          task.mCallback.newActivity?.toList := by
    rw [enqueue_mTasklist, awaitedActivities, List.filterMap_append]
    refine congrArg (_ ++ ·) ?_
    cases isActivity : task.mCallback.newActivity? with
    | none =>
        simp [awaitedActivity?, TaskBoard.newHandler, isActivity]
    | some activity =>
        simp [awaitedActivity?, TaskBoard.newHandler, isActivity]
  constructor
  · rw [isLonger]
    refine before.distinct.append ?_ ?_
    · cases task.mCallback.newActivity? with
      | none =>
          exact List.nodup_nil
      | some activity =>
          exact List.nodup_singleton activity
    · intro activity isOld isLast
      exact (isNew activity (Option.mem_toList.mp isLast)).1 isOld
  · intro activity member
    rw [isLonger] at member
    rw [enqueue_manager]
    rcases List.mem_append.mp member with isOld | isLast
    · exact before.bounded activity isOld
    · exact (isNew activity (Option.mem_toList.mp isLast)).2.1
  · intro handler onBoard notDone activity isAwaited
    rw [enqueue_mTasklist] at onBoard
    rw [enqueue_manager]
    rcases List.mem_append.mp onBoard with isOld | isLast
    · exact before.unhosted handler isOld notDone activity isAwaited
    · rw [List.mem_singleton.mp isLast] at isAwaited
      exact (isNew activity isAwaited).2.2

theorem submitted
    {name : String}
    {callback : AttachCallback}
    {pid : Nat}
    (before : AwaitedUnhosted inner)
    (isNew :
      ∀ activity,
        callback.newActivity? = some activity →
        activity ∉ awaitedActivities inner.mPendTask.mTasklist ∧
          activity < inner.manager.nextActivity ∧
          inner.manager.IsUnhosted activity)
    (isSubmitted : inner.Submitted name callback spawned next pid) :
    AwaitedUnhosted next := by
  cases isSubmitted with
  | behind _ =>
      exact before.enqueue isNew
  | first _ _ =>
      have spawns : AwaitedUnhosted (inner.spawn name pid) :=
        ⟨before.distinct, before.bounded, before.unhosted⟩
      exact spawns.enqueue isNew

/-- A request for a service brings no activity. -/
theorem service
    {serviceName : String}
    {request : ServiceRequest}
    (before : AwaitedUnhosted inner)
    (outcome :
      inner.ServiceOutcome serviceName packageInfo intent request spawned
        next route) :
    AwaitedUnhosted next := by
  cases outcome with
  | rejected =>
      exact before
  | found isFound =>
      exact
        before.serviced
          (requestService_serviced (mem_of_findService isFound).1 intent
            request)
  | @created info app _ policy _ _ _ _ =>
      have added :
          AwaitedUnhosted
            ({ inner with mPriorityPolicy := policy }.addService
              (.fresh serviceName inner.nextToken info.priority app)) :=
        ⟨before.distinct, before.bounded, before.unhosted⟩
      exact added.serviced (createService_serviced _ _ _ _ _)
  | queued _ _ _ isSubmitted =>
      exact
        before.submitted (fun activity isNew => by cases isNew) isSubmitted

/-- A request for an activity may leave one waiting. -/
theorem activity
    (before : AwaitedUnhosted inner)
    (outcome :
      inner.ActivityOutcome packageInfo intent spawned next route) :
    AwaitedUnhosted next := by
  have areRoutine := ownParts_areRoutine
  cases outcome with
  | rejected quiet =>
      exact before.quiet areRoutine quiet
  | turned quiet =>
      exact before.quiet areRoutine quiet
  | @hosted created _ _ _ _ _ isCreated quiet =>
      have creates : AwaitedUnhosted created := by
        refine before.of_board isCreated.mPendTask ?_ ?_
        · rw [isCreated.manager]
          exact Nat.le_succ _
        · intro activity isSmall unhosted
          rw [isCreated.manager]
          exact unhosted.setRecord (Nat.ne_of_lt isSmall) _
      exact creates.quiet areRoutine quiet
  | @queued created queue _ _ _ _ _ _ _ _ isCreated isSubmitted quiet =>
      have creates : AwaitedUnhosted created := by
        refine before.of_board isCreated.mPendTask ?_ ?_
        · rw [isCreated.manager]
          exact Nat.le_succ _
        · intro activity isSmall unhosted
          rw [isCreated.manager]
          exact unhosted.setRecord (Nat.ne_of_lt isSmall) _
      refine (creates.submitted ?_ isSubmitted).quiet areRoutine quiet
      intro activity isNew
      rw [← Option.some.inj isNew, isCreated.manager, isCreated.mPendTask]
      refine ⟨?_, Nat.lt_succ_self _, ?_⟩
      · intro member
        exact Nat.lt_irrefl _ (before.bounded _ member)
      · exact TaskStackManager.createActivity_isUnhosted ..

end AwaitedUnhosted

/-! ## Processes that attach -/

/-- A callback gives one activity its application, and no other one. -/
theorem CallbackOutcome.hosts
    {e : AppAttachEvent}
    {callback : AttachCallback}
    (outcome : inner.CallbackOutcome e callback next) :
    next.manager.nextActivity = inner.manager.nextActivity ∧
      ∀ activity,
        callback.newActivity? ≠ some activity →
        inner.manager.IsUnhosted activity →
        next.manager.IsUnhosted activity := by
  cases outcome with
  | startActivity _ isSet isAttached quiet =>
      obtain ⟨_, _, isManager⟩ := TaskStackManager.setAppThread_cases isSet
      have same := quiet.sameHosts ownParts_areRoutine
      have isManager := isAttached.manager.trans isManager
      constructor
      · rw [same.nextActivity, isManager]
        rfl
      · intro activity isOther unhosted
        refine same.isUnhosted ?_
        rw [isManager]
        exact
          unhosted.setRecord
            (fun isThis => isOther (congrArg some isThis.symm)) _
  | startService _ =>
      rw [(createService_serviced _ _ _ _ _).manager]
      exact ⟨rfl, fun _ _ => id⟩

/-- A process that attaches is given its record first. -/
theorem AwaitedUnhosted.addAppInfo
    (before : AwaitedUnhosted inner)
    (packageName : String)
    (isSystemUI : Bool)
    (pid : Nat) :
    AwaitedUnhosted
      ((inner.deleteAppWaitingAttach pid).addAppInfo packageName isSystemUI
        pid) :=
  before.of_sameHosts rfl (.of_eq rfl (.refl _) rfl)

/-- The activities that still wait after an attach have no application. -/
theorem AwaitedUnhosted.attached
    {e : AppAttachEvent}
    {packageName : String}
    (before : AwaitedUnhosted inner)
    (isNext :
      eventTrigger e packageName inner.mPendTask.mTasklist inner =
        some next) :
    AwaitedUnhosted next := by
  have isBoard := (markAll_frame
    (inner.mPendTask.mTasklist.filter (·.pendingFor e))
    inner.mPendTask).2
  rw [← (eventTrigger_board isNext).1] at isBoard
  have sameAwaited :
      awaitedActivities next.mPendTask.mTasklist =
        awaitedActivities inner.mPendTask.mTasklist := by
    rw [isBoard, awaitedActivities, List.filterMap_map]
    refine List.filterMap_congr fun handler _ => ?_
    rw [Function.comp_apply]
    split <;> rfl
  -- what holds of an activity that waits with none of the callbacks
  have hosts :
      next.manager.nextActivity = inner.manager.nextActivity ∧
        ∀ activity,
          (∀ handler ∈ inner.mPendTask.mTasklist,
            handler.pendingFor e = true →
            awaitedActivity? handler ≠ some activity) →
          inner.manager.IsUnhosted activity →
          next.manager.IsUnhosted activity := by
    refine
      eventTrigger_invariant
        (motive := fun middle =>
          middle.manager.nextActivity = inner.manager.nextActivity ∧
            ∀ activity,
              (∀ handler ∈ inner.mPendTask.mTasklist,
                handler.pendingFor e = true →
                awaitedActivity? handler ≠ some activity) →
              inner.manager.IsUnhosted activity →
              middle.manager.IsUnhosted activity)
        ?_ (fun _ => id) ⟨rfl, fun _ _ => id⟩ isNext
    rintro middle handler after ⟨sameNumber, stay⟩ onBoard isPending outcome
    obtain ⟨nextActivity, hosts⟩ := outcome.hosts
    refine ⟨nextActivity.trans sameNumber, ?_⟩
    intro activity isOther unhosted
    exact
      hosts activity (isOther handler onBoard isPending)
        (stay activity isOther unhosted)
  constructor
  · rw [sameAwaited]
    exact before.distinct
  · rw [sameAwaited, hosts.1]
    exact before.bounded
  · intro handler onBoard notDone activity isAwaited
    rw [isBoard] at onBoard
    obtain ⟨old, wasOnBoard, isHandler⟩ := List.mem_map.mp onBoard
    split at isHandler
    · rw [← isHandler] at notDone
      exact absurd notDone (by simp)
    · rename_i notRun
      subst isHandler
      have notPending : old.pendingFor e = false := by
        by_contra isPending
        refine notRun (List.mem_map_of_mem ?_)
        exact
          List.mem_filter.mpr
            ⟨wasOnBoard, Bool.not_eq_false _ ▸ isPending⟩
      refine
        hosts.2 activity ?_
          (before.unhosted old wasOnBoard notDone activity isAwaited)
      intro other otherOnBoard isPending isToo
      have isSame :=
        eq_of_awaitedActivity? before.distinct otherOnBoard wasOnBoard
          isToo isAwaited
      rw [isSame, notPending] at isPending
      exact absurd isPending Bool.false_ne_true

/-- Every step leaves what waits without an application. -/
theorem AwaitedUnhosted.step
    {action : InnerAction}
    (before : AwaitedUnhosted inner)
    (isNext : inner.step? action = some next) :
    AwaitedUnhosted next := by
  cases step?_outcome isNext with
  | activity outcome =>
      exact before.activity outcome
  | service _ outcome =>
      exact before.service outcome
  | serviced serviced =>
      exact before.serviced serviced
  | reported outcome =>
      exact before.of_sameHosts outcome.sameBoard.1 outcome.sameHosts
  | attached outcome =>
      cases outcome with
      | known _ =>
          exact before
      | @attached packageName _ _ _ isServed =>
          exact (before.addAppInfo packageName _ _).attached isServed
      | illegal _ =>
          exact before
  | exited outcome =>
      refine before.of_sameHosts ?_ outcome.sameHosts
      cases outcome with
      | hosted _ _ quiet _ terminated isDeleted _ =>
          rw [deleteAppInfo_cases isDeleted]
          exact terminated.mPendTask.trans quiet.mPendTask
      | waiting _ _ =>
          rfl
      | unknown _ _ =>
          rfl
  | quiet areRoutine quiet =>
      exact before.quiet areRoutine quiet

end ActivityManagerInner

end ActivityManager
