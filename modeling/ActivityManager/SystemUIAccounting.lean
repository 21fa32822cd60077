import ActivityManager.FailedStarts
import ActivityManager.ForegroundAccounting

/-!
# Foreground accounting of the SystemUI

The task manager of the SystemUI counts every activity that it shows and takes
back every one that it hides, whether or not it was shown before.  The counters
are right in a run if only activities are shown whose resumption was not the
last request, and only those are hidden of which it was.
-/

namespace ActivityManager

open PartialProgram
open StepSystem (Reachable run?)

/-! ## Runs of the SystemUI -/

/-- The task manager of the SystemUI, with the records that it works on. -/
structure SystemUIRun where
  systemUI : SystemUIManager
  manager : TaskStackManager
  /-- `mTag` of the tasks. -/
  mTag : Nat → String
  /-- Ghost: the status that was last requested of an activity. -/
  requested : Nat → Option Status

/--
The operations, the event of an ordinary activity that is started, and what
clients do.
-/
inductive SystemUIAction where
  | attachApplication (packageName : String) (pid : Nat)
  /-- A new activity of a running application, then `pushNewActivity`. -/
  | pushNewActivity
      (name : String)
      (app task : Nat)
      (intent : Intent)
  | turnToActivity (activity : Nat)
  | switchTaskToActive (task : Nat) (intent : Intent)
  | moveTaskToBackground (task : Nat)
  | finishActivity (activity : Nat)
  | startActivityEvent
  | reportActivityStatus (token : Nat) (status : Status)
  deriving Repr, DecidableEq

namespace SystemUIRun

/-- No application has attached. -/
def start
    (mTag : Nat → String)
    (now : Nat) : SystemUIRun where
  systemUI := .empty
  manager := .start now
  mTag := mTag
  requested := fun _ => none

/-- A request of some activities is noted. -/
def request
    (run : SystemUIRun)
    (activities : List Nat)
    (status : Status) : Nat → Option Status :=
  fun activity =>
    if activity ∈ activities then some status
    else run.requested activity

/-- The activities of the tasks that an event goes through. -/
def listedActivities (run : SystemUIRun) : List Nat :=
  run.systemUI.mSystemUITasks.flatMap run.systemUI.mStack

/-- An operation on records of activities, with its request. -/
def requests
    (run : SystemUIRun)
    (activities : List Nat)
    (status : Status)
    (operate : TaskStackManager → Option TaskStackManager) :
    Option SystemUIRun := do
  let manager ← operate run.manager
  some
    { run with
      manager := manager
      requested := run.request activities status }

/-- A report makes the task manager delete its activity. -/
def deletes
    (run : SystemUIRun)
    (token : Nat)
    (status : Status) : Bool :=
  token ∈ run.manager.mActivityMap ∧
    (status = Status.destroyed ∨
      status = Status.error ∧
        (run.manager.mPendTask.firstPending
          (PendEvent.activityStatusReport status token)).isSome)

/-- Perform one step. -/
def step?
    (run : SystemUIRun) :
    SystemUIAction → Option SystemUIRun
  | .attachApplication packageName pid =>
      some
        { run with
          manager := run.manager.attachApplication packageName true pid }
  | .pushNewActivity name app task intent => do
      let activity := run.manager.nextActivity
      let shown ←
        SystemUIManager.showActivity activity
          (run.manager.newActivity name app task intent)
      some
        { run with
          manager := shown
          systemUI :=
            run.systemUI.pushActivity shown run.mTag task activity
          requested := run.request [activity] Status.resumed }
  | .turnToActivity activity =>
      run.requests [activity] Status.resumed
        (SystemUIManager.showActivity activity)
  | .switchTaskToActive task intent =>
      run.requests (run.systemUI.mStack task) Status.resumed
        (run.systemUI.switchTaskToActive task intent)
  | .moveTaskToBackground task =>
      run.requests (run.systemUI.mStack task) Status.stopped
        (run.systemUI.moveTaskToBackground task)
  | .finishActivity activity =>
      run.requests [activity] Status.destroyed
        (SystemUIManager.finishActivity activity)
  | .startActivityEvent =>
      run.requests run.listedActivities Status.stopped
        run.systemUI.onStartActivity
  | .reportActivityStatus token status => do
      let manager ← run.manager.reportActivityStatus token status
      some
        { run with
          manager := manager
          systemUI :=
            if run.deletes token status then
              run.systemUI.deleteActivity run.manager token
            else
              run.systemUI }

/-! ## What is to be counted -/

/-- An activity was last requested to be resumed. -/
def isShown
    (run : SystemUIRun)
    (activity : Nat) : Bool :=
  run.requested activity = some Status.resumed

/-- How many living activities an application has. -/
def liveActivities
    (run : SystemUIRun)
    (app : Nat) : Nat :=
  run.manager.mActivityMap.countP (run.manager.isHostedBy app)

/-- How many of them were last requested to be resumed. -/
def shownActivities
    (run : SystemUIRun)
    (app : Nat) : Nat :=
  run.manager.mActivityMap.countP fun activity =>
    run.manager.isHostedBy app activity && run.isShown activity

/-- Different living activities, none of which is shown. -/
def AreHidden
    (run : SystemUIRun)
    (activities : List Nat) : Prop :=
  activities.Nodup ∧
    ∀ activity ∈ activities,
      activity ∈ run.manager.mActivityMap ∧
        run.isShown activity = false

/-- Different living activities that are all shown. -/
def AreShown
    (run : SystemUIRun)
    (activities : List Nat) : Prop :=
  activities.Nodup ∧
    ∀ activity ∈ activities,
      activity ∈ run.manager.mActivityMap ∧
        run.isShown activity = true

/-- The steps that the counters keep up with. -/
def KeepsCount
    (run : SystemUIRun) :
    SystemUIAction → Prop
  | .attachApplication _ _ => True
  | .pushNewActivity _ _ _ _ => True
  | .turnToActivity activity => run.AreHidden [activity]
  | .switchTaskToActive task _ =>
      run.AreHidden (run.systemUI.mStack task)
  | .moveTaskToBackground task =>
      run.AreShown (run.systemUI.mStack task)
  | .finishActivity activity => run.AreShown [activity]
  | .startActivityEvent => run.AreShown run.listedActivities
  | .reportActivityStatus token status =>
      status = Status.destroyed ∧ token ∈ run.manager.mActivityMap →
      run.isShown token = false

instance decidableKeepsCount
    (run : SystemUIRun) :
    ∀ action, Decidable (run.KeepsCount action)
  | .attachApplication _ _ => isTrue trivial
  | .pushNewActivity _ _ _ _ => isTrue trivial
  | .turnToActivity _ => inferInstanceAs (Decidable (_ ∧ _))
  | .switchTaskToActive _ _ => inferInstanceAs (Decidable (_ ∧ _))
  | .moveTaskToBackground _ => inferInstanceAs (Decidable (_ ∧ _))
  | .finishActivity _ => inferInstanceAs (Decidable (_ ∧ _))
  | .startActivityEvent => inferInstanceAs (Decidable (_ ∧ _))
  | .reportActivityStatus _ _ => inferInstanceAs (Decidable (_ → _))

/--
The counters of applications that are not stopped count what is shown, and an
application that is shown again is told so.
-/
structure CountsShown (run : SystemUIRun) : Prop where
  counted :
    ∀ app record,
      run.manager.apps app = some record →
      record.mStatus ≠ .appStopped →
      record.mForegroundActivityCnt = run.shownActivities app
  bounded :
    ∀ app record,
      run.manager.apps app = some record →
      record.mStatus ≠ .appStopped →
      0 ≤ record.mForegroundActivityCnt ∧
        record.mForegroundActivityCnt ≤ run.liveActivities app
  announced :
    ∀ action next,
      run.KeepsCount action →
      run.step? action = some next →
      ∀ app record,
        run.manager.apps app = some record →
        record.mStatus ≠ .appStopped →
        run.shownActivities app = 0 →
        0 < next.shownActivities app →
        Call.setForegroundApplication record.mPid true ∈
          next.manager.calls.drop run.manager.calls.length

end SystemUIRun

namespace TaskStackManager

variable
  {manager before middle next : TaskStackManager}
  {setting : Setting}
  {counted activities : List Nat}
  {activity : Nat}
  {toStatus : Status}

/-! ## Activities one by one -/

/--
Something has been done to the records of a task manager without tasks: the
counters count a list of activities, and the same activities live.
-/
structure Follows
    (setting : Setting)
    (counted : List Nat)
    (before next : TaskStackManager) : Prop where
  tracks : Tracks countRight setting .empty counted [] noExcuse next
  mActivityMap : next.mActivityMap = before.mActivityMap

namespace Follows

/-- Nothing is said of the activities that are to be resumed. -/
theorem of_tracks
    {aimed : List Nat}
    {excused : Nat → Status → Prop}
    (tracks :
      Tracks countRight setting .empty counted aimed excused next)
    (sameMap : next.mActivityMap = before.mActivityMap) :
    Follows setting counted before next where
  tracks :=
    { sameLists := tracks.sameLists
      sameSetting := tracks.sameSetting
      counts := tracks.counts
      targets := False.elim
      ready := False.elim }
  mActivityMap := sameMap

/-- A request and the events before it leave the map alone. -/
theorem lifecycleTransition_mActivityMap
    (isNext :
      manager.lifecycleTransition activity toStatus = some next) :
    next.mActivityMap = manager.mActivityMap := by
  refine
    lifecycleTransitionFrom_induct
      (motive := fun middle => middle.mActivityMap = manager.mActivityMap)
      ?_ ?_ rfl isNext
  · intro middle other status final same turned
    have stepped :
        middle.recordStep? (.turn other status) = some final :=
      turned
    exact (recordStep?_mActivityMap stepped rfl).trans same
  · intro middle serial same
    exact same

/-- A request, whichever status it is for. -/
theorem lifecycleTransition
    (follows : Follows setting counted before manager)
    (activity : Nat)
    (toStatus : Status) :
    Spec True (manager.lifecycleTransition activity toStatus)
      (Follows setting counted before) := by
  have turned :
      ∀ middle,
        Tracks countRight setting .empty counted [] noExcuse middle →
        Spec True (middle.turn activity toStatus)
          (Tracks countRight setting .empty counted [] noExcuse) := by
    intro middle tracks
    exact
      (tracks.turn False.elim False.elim False.elim False.elim).orFail
  have tracked :
      Spec True (manager.lifecycleTransition activity toStatus)
        (Tracks countRight setting .empty counted [] noExcuse) := by
    unfold TaskStackManager.lifecycleTransition lifecycleTransitionFrom
    refine Spec.bind_known (absurd trivial) ?_
    intro record _
    refine
      Spec.bind_ite
        (fun _ => (follows.tracks.triggerWaitResume activity 0).orFail)
        (fun _ => follows.tracks) ?_
    exact turned
  cases isNext : manager.lifecycleTransition activity toStatus with
  | none =>
      trivial
  | some next =>
      exact
        of_tracks (tracked.of_result isNext)
          ((lifecycleTransition_mActivityMap isNext).trans
            follows.mActivityMap)

/-- `setForeground` leaves the map alone. -/
theorem setActivityForeground_mActivityMap
    {isForeground : Bool}
    (isNext :
      manager.setActivityForeground activity isForeground = some next) :
    next.mActivityMap = manager.mActivityMap := by
  obtain ⟨app, old, _, rfl⟩ := setActivityForeground_cases isNext
  rfl

/-- An activity enters the foreground. -/
theorem enter
    (follows : Follows setting counted before manager)
    (activity : Nat) :
    Spec True (manager.setActivityForeground activity true)
      (Follows setting (activity :: counted) before) := by
  have entered :
      Spec True (manager.setActivityForeground activity true)
        (Tracks countRight setting .empty (activity :: counted) []
          noExcuse) :=
    (follows.tracks.enter False.elim).orFail
  cases isNext : manager.setActivityForeground activity true with
  | none =>
      trivial
  | some next =>
      exact
        of_tracks (entered.of_result isNext)
          ((setActivityForeground_mActivityMap isNext).trans
            follows.mActivityMap)

/-- An activity leaves the foreground. -/
theorem exit
    (follows : Follows setting (activity :: counted) before manager) :
    Spec True (manager.setActivityForeground activity false)
      (Follows setting counted before) := by
  have left :
      Spec True (manager.setActivityForeground activity false)
        (Tracks countRight setting .empty counted [] noExcuse) :=
    (follows.tracks.exit False.elim).orFail
  cases isNext : manager.setActivityForeground activity false with
  | none =>
      trivial
  | some next =>
      exact
        of_tracks (left.of_result isNext)
          ((setActivityForeground_mActivityMap isNext).trans
            follows.mActivityMap)

/-- An activity is shown. -/
theorem showActivity
    (follows : Follows setting counted before manager)
    (activity : Nat) :
    Spec True (SystemUIManager.showActivity activity manager)
      (Follows setting (activity :: counted) before) := by
  refine (follows.lifecycleTransition activity Status.resumed).bind ?_
  intro resumed later
  exact later.enter activity

/-- An activity is hidden. -/
theorem hideActivity
    (follows : Follows setting (activity :: counted) before manager) :
    Spec True (SystemUIManager.hideActivity activity manager)
      (Follows setting counted before) := by
  refine (follows.lifecycleTransition activity Status.stopped).bind ?_
  intro stopped later
  exact later.exit

/-- An activity is finished. -/
theorem finishActivity
    (follows : Follows setting (activity :: counted) before manager) :
    Spec True (SystemUIManager.finishActivity activity manager)
      (Follows setting counted before) := by
  refine (follows.lifecycleTransition activity Status.destroyed).bind ?_
  intro destroyed later
  exact later.exit

/-- All activities of a list are shown, with or without an intent. -/
theorem showAll
    {operate : Nat → TaskStackManager → Option TaskStackManager}
    (shows :
      ∀ activity counted manager,
        Follows setting counted before manager →
        Spec True (operate activity manager)
          (Follows setting (activity :: counted) before))
    (activities : List Nat)
    (follows : Follows setting counted before manager) :
    Spec True (forEach operate activities manager)
      (Follows setting (activities.reverse ++ counted) before) := by
  induction activities generalizing counted manager with
  | nil =>
      exact follows
  | cons activity rest inductionHypothesis =>
      refine (shows activity counted manager follows).bind ?_
      intro shown later
      have all := inductionHypothesis later
      rw [List.reverse_cons, List.append_assoc]
      exact all

/-- All activities of a list are hidden. -/
theorem hideAll
    (follows : Follows setting (activities ++ counted) before manager) :
    Spec True
      (forEach SystemUIManager.hideActivity activities manager)
      (Follows setting counted before) := by
  induction activities generalizing manager with
  | nil =>
      exact follows
  | cons activity rest inductionHypothesis =>
      rw [List.cons_append] at follows
      refine follows.hideActivity.bind ?_
      intro hidden later
      exact inductionHypothesis later

/-- The activities of several tasks are hidden. -/
theorem hideTasks
    {mStack : Nat → List Nat}
    {tasks : List Nat}
    (follows :
      Follows setting (tasks.flatMap mStack ++ counted) before manager) :
    Spec True
      (forEach
        (fun task manager =>
          forEach SystemUIManager.hideActivity (mStack task) manager)
        tasks manager)
      (Follows setting counted before) := by
  induction tasks generalizing manager with
  | nil =>
      exact follows
  | cons task rest inductionHypothesis =>
      rw [List.flatMap_cons, List.append_assoc] at follows
      refine follows.hideAll.bind ?_
      intro hidden later
      exact inductionHypothesis later

/-- Another list of activities with the same numbers for applications. -/
theorem recount
    {others : List Nat}
    (follows : Follows setting counted before manager)
    (sameElements : others.Perm counted) :
    Follows setting others before manager where
  tracks := by
    refine follows.tracks.recount ?_
    intro _ app _
    exact sameElements.countP_eq _
  mActivityMap := follows.mActivityMap

/-! ## Reports -/

/-- Without tasks there is nothing to delete an activity from. -/
theorem deleteActivity
    (follows : Follows setting counted before manager)
    (noneHeld : setting.heldTasks = [])
    (activity : Nat) :
    Spec True (manager.deleteActivity activity)
      (Follows setting counted before) := by
  refine Spec.bind_known (absurd trivial) ?_
  intro record _
  have sameHeld : manager.heldTasks = [] := by
    rw [← noneHeld, ← follows.tracks.sameSetting]
    rfl
  have noTask : manager.getTask record = none := by
    unfold getTask
    rw [follows.tracks.sameLists, sameHeld]
    simp [TaskLists.empty]
  rw [noTask]
  exact follows

/-- A record gets another status. -/
theorem setRecord
    {old new : ActivityRecord}
    (follows : Follows setting counted before manager)
    (isRecord : manager.activities activity = some old)
    (samePlace : new.mInTask = old.mInTask ∧ new.mApp = old.mApp) :
    Follows setting counted before (manager.setRecord activity new) where
  tracks :=
    follows.tracks.setRecord isRecord samePlace False.elim False.elim
      False.elim
  mActivityMap := follows.mActivityMap

/-- The task of a report. -/
theorem executeLifeCycle
    (follows : Follows setting counted before manager)
    (noneHeld : setting.heldTasks = [])
    (activity : Nat)
    (status : Status) :
    Spec True (manager.executeLifeCycle activity status)
      (Follows setting counted before) := by
  refine Spec.bind_known (absurd trivial) ?_
  intro record isRecord
  split
  · have failed :
        Follows setting counted before
          (manager.setRecord activity record.reportError) :=
      follows.setRecord isRecord ⟨rfl, rfl⟩
    exact failed.deleteActivity noneHeld activity
  · have reported :
        Follows setting counted before
          (manager.setRecord activity (record.setStatus status)) :=
      follows.setRecord isRecord ⟨rfl, rfl⟩
    exact reported.lifecycleTransition activity record.mTargetStatus

/-- A task that waits for an event. -/
theorem execute
    (follows : Follows setting counted before manager)
    (noneHeld : setting.heldTasks = [])
    (event : PendEvent)
    (task : PendTask) :
    Spec True (manager.execute event task)
      (Follows setting counted before) := by
  cases task with
  | lifeCycle activity =>
      cases event with
      | activityStatusReport status token =>
          exact follows.executeLifeCycle noneHeld activity status
      | _ =>
          exact follows
  | waitResume resumeActivity willStopActivity =>
      refine Spec.bind_known (absurd trivial) ?_
      intro record _
      split
      · exact follows.lifecycleTransition willStopActivity Status.stopped
      · exact follows
  | delayDestroy willDestroyActivity waitResumeActivity =>
      exact
        follows.lifecycleTransition willDestroyActivity Status.destroyed

/-- An event of an activity. -/
theorem eventTrigger
    (follows : Follows setting counted before manager)
    (noneHeld : setting.heldTasks = [])
    (event : PendEvent) :
    Spec True (manager.eventTrigger event)
      (Follows setting counted before) := by
  unfold TaskStackManager.eventTrigger
  split
  · rename_i handler _
    have done :
        Follows setting counted before
          { manager with
            mPendTask := manager.mPendTask.markDone handler.serial } :=
      ⟨follows.tracks.markDone handler.serial, follows.mActivityMap⟩
    exact done.execute noneHeld event handler.mTask
  · exact follows

/-- The report that an activity is resumed. -/
theorem reportResumed
    (follows : Follows setting counted before manager)
    (noneHeld : setting.heldTasks = [])
    (token : Nat) :
    Spec True (manager.reportResumed token)
      (Follows setting counted before) := by
  unfold TaskStackManager.reportResumed
  split
  · split
    · exact follows
    · refine (follows.eventTrigger noneHeld _).bind ?_
      intro waited later
      exact later.eventTrigger noneHeld _
  · exact follows

/-- The end of an application's activity. -/
theorem leaveApp
    (follows : Follows setting counted before manager)
    (token : Nat) :
    Follows setting counted before (manager.leaveApp token) where
  tracks := follows.tracks.leaveApp token
  mActivityMap := by
    unfold TaskStackManager.leaveApp
    split
    · dsimp only
      split
      · exact follows.mActivityMap
      · exact follows.mActivityMap
    · exact follows.mActivityMap

/-- The report that an activity is destroyed: it does not live any more. -/
theorem reportDestroyed
    (follows : Follows setting counted before manager)
    (noneHeld : setting.heldTasks = [])
    (token : Nat) :
    Spec True (manager.reportDestroyed token) fun next =>
      Tracks countRight setting .empty counted [] noExcuse next ∧
        next.mActivityMap = before.mActivityMap.erase token := by
  have forgets :
      ∀ final,
        Follows setting counted before final →
        Tracks countRight setting .empty counted [] noExcuse
            { final with
              mActivityMap := final.mActivityMap.erase token } ∧
          final.mActivityMap.erase token =
            before.mActivityMap.erase token := by
    intro final later
    refine ⟨?_, by rw [later.mActivityMap]⟩
    exact
      later.tracks.frame rfl rfl rfl rfl ⟨rfl, rfl⟩ rfl False.elim
  unfold TaskStackManager.reportDestroyed TaskStackManager.setStatus
  refine Spec.bind_known (absurd trivial) ?_
  intro destroyed isDestroyed
  obtain ⟨record, isRecord, isDestroyed⟩ :=
    Option.bind_eq_some_iff.mp isDestroyed
  have later :
      Follows setting counted before destroyed := by
    rw [← Option.some.inj isDestroyed]
    exact follows.setRecord isRecord ⟨rfl, rfl⟩
  split
  · have deletes :
        ∀ middle : TaskStackManager,
          Follows setting counted before middle →
          Spec True
            (do
              let manager ← middle.deleteActivity token
              let manager ← some (manager.leaveApp token)
              some
                { manager with
                  mActivityMap := manager.mActivityMap.erase token })
            fun next =>
              Tracks countRight setting .empty counted [] noExcuse next ∧
                next.mActivityMap = before.mActivityMap.erase token := by
      intro middle middleFollows
      refine (middleFollows.deleteActivity noneHeld token).bind ?_
      intro deleted deletedFollows
      exact forgets _ (deletedFollows.leaveApp token)
    dsimp only
    split
    · exact deletes destroyed later
    · exact deletes _ ⟨later.tracks.removeTask _, later.mActivityMap⟩
  · exact forgets destroyed later

/-- A report of a client. -/
theorem reportActivityStatus
    (follows : Follows setting counted before manager)
    (noneHeld : setting.heldTasks = [])
    (token : Nat)
    (status : Status) :
    Spec True (manager.reportActivityStatus token status) fun next =>
      Tracks countRight setting .empty counted [] noExcuse next ∧
        (next.mActivityMap = before.mActivityMap ∨
          status = Status.destroyed ∧
            token ∈ manager.mActivityMap ∧
            next.mActivityMap = before.mActivityMap.erase token) := by
  unfold TaskStackManager.reportActivityStatus
  split
  · rename_i isKnown
    refine (follows.eventTrigger noneHeld _).bind ?_
    intro triggered later
    split
    · refine (later.reportResumed noneHeld token).mono ?_
      exact fun next final => ⟨final.tracks, Or.inl final.mActivityMap⟩
    · split
      · rename_i isDestroyed
        refine (later.reportDestroyed noneHeld token).mono ?_
        exact fun next ⟨tracks, isErased⟩ =>
          ⟨tracks, Or.inr ⟨isDestroyed, isKnown, isErased⟩⟩
      · exact ⟨later.tracks, Or.inl later.mActivityMap⟩
  · exact ⟨follows.tracks, Or.inl follows.mActivityMap⟩

end Follows

/-! ## Who is told -/

/--
The calls of an operation come after those before it, and an application whose
counter was zero has been told if it is not zero any more.
-/
structure Announces (before next : TaskStackManager) : Prop where
  calls : before.calls <+: next.calls
  told :
    ∀ app old,
      before.accounts app = some old →
      old.isStopped = false →
      ∃ new,
        next.accounts app = some new ∧
          new.isStopped = false ∧
          new.pid = old.pid ∧
          (old.count = 0 →
            new.count ≠ 0 →
            Call.setForegroundApplication old.pid true ∈
              next.calls.drop before.calls.length)

namespace Announces

/-- The counters stay. -/
theorem of_accounts
    (later : before.calls <+: next.calls)
    (sameAccounts : next.accounts = before.accounts) :
    Announces before next where
  calls := later
  told app old isOld runs := by
    rw [sameAccounts]
    exact ⟨old, isOld, runs, rfl, fun isZero notZero => absurd isZero notZero⟩

theorem trans
    (former : Announces before middle)
    (latter : Announces middle next) :
    Announces before next where
  calls := former.calls.trans latter.calls
  told app old isOld runs := by
    obtain ⟨more, isMore⟩ := former.calls
    obtain ⟨evenMore, isEvenMore⟩ := latter.calls
    have allCalls :
        next.calls.drop before.calls.length = more ++ evenMore := by
      rw [← isEvenMore, ← isMore, List.append_assoc, List.drop_left]
    have middleCalls :
        middle.calls.drop before.calls.length = more := by
      rw [← isMore, List.drop_left]
    have laterCalls :
        next.calls.drop middle.calls.length = evenMore := by
      rw [← isEvenMore, List.drop_left]
    obtain ⟨between, isBetween, betweenRuns, samePid, isTold⟩ :=
      former.told app old isOld runs
    obtain ⟨new, isNew, newRuns, stillPid, isToldLater⟩ :=
      latter.told app between isBetween betweenRuns
    refine ⟨new, isNew, newRuns, stillPid.trans samePid, ?_⟩
    intro isZero notZero
    rw [middleCalls] at isTold
    rw [laterCalls, samePid] at isToldLater
    rw [allCalls, List.mem_append]
    by_cases stillZero : between.count = 0
    · exact Or.inr (isToldLater stillZero notZero)
    · exact Or.inl (isTold isZero stillZero)

/-- A request counts nothing. -/
theorem lifecycleTransition
    (isNext :
      manager.lifecycleTransition activity toStatus = some next) :
    Announces manager next := by
  refine of_accounts ?_ (lifecycleTransition_accounts isNext)
  refine
    lifecycleTransitionFrom_induct
      (motive := fun middle => manager.calls <+: middle.calls) ?_ ?_
      (List.prefix_refl _) isNext
  · intro middle other status final later turned
    refine later.trans ?_
    obtain ⟨record, _, turned⟩ := Option.bind_eq_some_iff.mp turned
    obtain ⟨transition, _, turned⟩ := Option.bind_eq_some_iff.mp turned
    rw [← Option.some.inj turned]
    refine ⟨transition.calls, ?_⟩
    split <;> split <;> rfl
  · intro middle serial later
    exact later

/-- The first activity that enters is announced. -/
theorem enter
    (isNext :
      manager.setActivityForeground activity true = some next) :
    Announces manager next := by
  obtain ⟨app, old, isApp, rfl⟩ := setActivityForeground_cases isNext
  have isOld := apps_of_getAppRecord isApp
  constructor
  · exact List.prefix_append _ _
  · intro other account isAccount runs
    rw [setAppForeground_accounts]
    by_cases isThis : other = app
    · rw [isThis, accounts, isOld, Option.map_some,
        Option.some.injEq] at isAccount
      subst isAccount
      have notStopped : old.mStatus ≠ .appStopped := by
        simpa [AppRecord.account] using runs
      rw [isThis, Function.update_self]
      refine ⟨_, rfl, ?_, ?_, ?_⟩
      · rw [AppRecord.setForeground_account, if_neg notStopped]
        exact runs
      · rw [AppRecord.setForeground_account, if_neg notStopped]
      · intro isZero _
        have isFirst :=
          AppRecord.setForeground_first notStopped isZero
        simp [setAppForeground, isFirst, setApp, AppRecord.account]
    · rw [Function.update_of_ne isThis]
      exact
        ⟨account, isAccount, runs, rfl,
          fun isZero notZero => absurd isZero notZero⟩

/-- An activity is shown. -/
theorem showActivity
    (isNext :
      SystemUIManager.showActivity activity manager = some next) :
    Announces manager next := by
  obtain ⟨resumed, isResumed, isNext⟩ := Option.bind_eq_some_iff.mp isNext
  exact (lifecycleTransition isResumed).trans (enter isNext)

/-- Several activities are. -/
theorem forEach
    {operate : Nat → TaskStackManager → Option TaskStackManager}
    (announces :
      ∀ activity manager next,
        operate activity manager = some next →
        Announces manager next)
    (isNext :
      TaskStackManager.forEach operate activities manager = some next) :
    Announces manager next := by
  induction activities generalizing manager with
  | nil =>
      rw [← Option.some.inj isNext]
      exact of_accounts (List.prefix_refl _) rfl
  | cons activity rest inductionHypothesis =>
      obtain ⟨shown, isShown, isNext⟩ := Option.bind_eq_some_iff.mp isNext
      exact
        (announces activity manager shown isShown).trans
          (inductionHypothesis isNext)

/-- `switchTaskToActive`. -/
theorem switchTaskToActive
    {systemUI : SystemUIManager}
    {task : Nat}
    {intent : Intent}
    (isNext :
      systemUI.switchTaskToActive task intent manager = some next) :
    Announces manager next := by
  refine forEach ?_ isNext
  intro activity middle shown isShown
  split at isShown
  · obtain ⟨informed, isInformed, isShown⟩ :=
      Option.bind_eq_some_iff.mp isShown
    obtain ⟨record, _, isInformed⟩ :=
      Option.bind_eq_some_iff.mp isInformed
    have same : Announces middle informed := by
      rw [← Option.some.inj isInformed]
      exact of_accounts (List.prefix_refl _) rfl
    exact same.trans (showActivity isShown)
  · exact showActivity isShown

end Announces

end TaskStackManager

/-! ## Lists of activities -/

/-- Elements that are selected in addition. -/
theorem filter_perm_of_added
    {elements added : List Nat}
    {before after : Nat → Bool}
    (distinct : elements.Nodup)
    (addedDistinct : added.Nodup)
    (isElement : ∀ element ∈ added, element ∈ elements)
    (notBefore : ∀ element ∈ added, before element = false)
    (isAfter :
      ∀ element,
        after element = (decide (element ∈ added) || before element)) :
    (elements.filter after).Perm (added ++ elements.filter before) := by
  have apart : List.Disjoint added (elements.filter before) := by
    intro element isAdded wasSelected
    have isBefore := (List.mem_filter.mp wasSelected).2
    rw [notBefore element isAdded] at isBefore
    exact absurd isBefore Bool.false_ne_true
  refine
    (List.perm_ext_iff_of_nodup (distinct.filter _)
      (addedDistinct.append (distinct.filter _) apart)).mpr ?_
  intro element
  rw [List.mem_append, List.mem_filter, List.mem_filter, isAfter,
    Bool.or_eq_true, decide_eq_true_eq]
  constructor
  · rintro ⟨isElement, isAdded | wasSelected⟩
    · exact Or.inl isAdded
    · exact Or.inr ⟨isElement, wasSelected⟩
  · rintro (isAdded | ⟨isElement, wasSelected⟩)
    · exact ⟨isElement element isAdded, Or.inl isAdded⟩
    · exact ⟨isElement, Or.inr wasSelected⟩

namespace SystemUIRun

variable
  {run next : SystemUIRun}
  {activities counted : List Nat}
  {status : Status}
  {operate : TaskStackManager → Option TaskStackManager}

/-! ## The invariant -/

/-- The living activities that were last requested to be resumed. -/
def shown (run : SystemUIRun) : List Nat :=
  run.manager.mActivityMap.filter run.isShown

/-- What is shown after a request. -/
theorem request_isShown
    (run : SystemUIRun)
    (activities : List Nat)
    (status : Status)
    (activity : Nat) :
    decide (run.request activities status activity = some Status.resumed) =
      if activity ∈ activities then decide (status = Status.resumed)
      else run.isShown activity := by
  unfold request isShown
  split
  · simp only [Option.some.injEq]
  · rfl

/-- The invariant: the counters count the shown activities. -/
structure Accounted (run : SystemUIRun) : Prop where
  tracks :
    TaskStackManager.Tracks TaskStackManager.countRight
      run.manager.setting .empty run.shown [] noExcuse run.manager
  noneHeld : run.manager.setting.heldTasks = []
  numbered : run.manager.ActivitiesNumbered
  fresh :
    ∀ activity,
      run.manager.nextActivity ≤ activity →
      run.isShown activity = false
  apps :
    ∀ app,
      run.manager.nextApp ≤ app →
      run.manager.setting.stopped app = none
  hosted :
    ∀ activity ∈ run.manager.mActivityMap,
      ∀ app,
        run.manager.setting.inApp activity = some app →
        app < run.manager.nextApp

/-- The invariant is about a list with the same elements, too. -/
theorem Accounted.follows
    (accounted : Accounted run) :
    TaskStackManager.Follows run.manager.setting run.shown run.manager
      run.manager where
  tracks := accounted.tracks
  mActivityMap := rfl

/-- Both ways to say whose an activity is. -/
theorem isHostedBy_iff
    (manager : TaskStackManager)
    (app activity : Nat) :
    manager.isHostedBy app activity = true ↔
      manager.setting.inApp activity = some app := by
  unfold TaskStackManager.isHostedBy Setting.inApp TaskStackManager.setting
  cases isRecord : manager.activities activity with
  | none =>
      simp [isRecord]
  | some record =>
      simp [isRecord]

/-- Both ways to count what is shown of an application. -/
theorem shownActivities_eq
    (run : SystemUIRun)
    (app : Nat) :
    run.shownActivities app = run.manager.setting.countIn app run.shown := by
  unfold shownActivities Setting.countIn shown
  rw [List.countP_filter]
  apply List.countP_congr
  intro activity _
  rw [Bool.and_eq_true, Bool.and_eq_true, isHostedBy_iff,
    decide_eq_true_eq]

/-- What an operation on the records leaves alone. -/
theorem requests_frame
    (operates :
      Spec True (operate run.manager)
        (TaskStackManager.Follows run.manager.setting counted run.manager))
    (isNext : run.requests activities status operate = some next) :
    TaskStackManager.Follows run.manager.setting counted run.manager
        next.manager ∧
      next.isShown =
        fun activity =>
          if activity ∈ activities then decide (status = Status.resumed)
          else run.isShown activity := by
  obtain ⟨manager, isManager, isNext⟩ := Option.bind_eq_some_iff.mp isNext
  rw [Option.some.injEq] at isNext
  subst isNext
  exact
    ⟨operates.of_result isManager,
      funext fun activity => run.request_isShown activities status activity⟩

/-- An operation on living activities that counts what it requests. -/
theorem Accounted.requests
    (accounted : Accounted run)
    (live : ∀ activity ∈ activities, activity ∈ run.manager.mActivityMap)
    (operates :
      Spec True (operate run.manager)
        (TaskStackManager.Follows run.manager.setting counted run.manager))
    (sameElements :
      (run.manager.mActivityMap.filter fun activity =>
        if activity ∈ activities then decide (status = Status.resumed)
        else run.isShown activity).Perm counted)
    (isNext : run.requests activities status operate = some next) :
    Accounted next := by
  obtain ⟨follows, isShown⟩ := requests_frame operates isNext
  have sameSetting : next.manager.setting = run.manager.setting :=
    follows.tracks.sameSetting
  have sameMap : next.manager.mActivityMap = run.manager.mActivityMap :=
    follows.mActivityMap
  have sameNext : next.manager.nextActivity = run.manager.nextActivity :=
    congrArg Setting.nextActivity sameSetting
  have sameApp : next.manager.nextApp = run.manager.nextApp :=
    congrArg Setting.nextApp sameSetting
  constructor
  · have recounted := follows.recount sameElements
    rw [shown, isShown, sameMap, sameSetting]
    exact recounted.tracks
  · rw [sameSetting]
    exact accounted.noneHeld
  · exact accounted.numbered.fewer (sameMap ▸ .refl _) sameNext
  · rw [sameNext, isShown]
    intro activity isFresh
    have notRequested : activity ∉ activities := by
      intro member
      exact
        Nat.not_lt.mpr isFresh
          (accounted.numbered.used activity (live activity member))
    dsimp only
    rw [if_neg notRequested]
    exact accounted.fresh activity isFresh
  · rw [sameSetting, sameApp]
    exact accounted.apps
  · rw [sameSetting, sameApp, sameMap]
    exact accounted.hosted

/-- Hidden activities are shown. -/
theorem Accounted.show
    (accounted : Accounted run)
    (areHidden : run.AreHidden activities)
    (operates :
      Spec True (operate run.manager)
        (TaskStackManager.Follows run.manager.setting
          (activities.reverse ++ run.shown) run.manager))
    (isNext :
      run.requests activities Status.resumed operate = some next) :
    Accounted next := by
  refine
    accounted.requests (fun activity member => (areHidden.2 activity
      member).1) operates ?_ isNext
  have added :
      (run.manager.mActivityMap.filter fun activity =>
          if activity ∈ activities then
            decide (Status.resumed = Status.resumed)
          else
            run.isShown activity).Perm
        (activities ++ run.shown) := by
    apply filter_perm_of_added accounted.numbered.distinct areHidden.1
    · exact fun activity member => (areHidden.2 activity member).1
    · exact fun activity member => (areHidden.2 activity member).2
    · intro activity
      by_cases isRequested : activity ∈ activities
      · simp [isRequested]
      · simp [isRequested]
  exact added.trans ((List.reverse_perm activities).symm.append_right _)

/-- Fewer activities are shown, and they stay where they are. -/
theorem shownActivities_le
    (sameSetting : next.manager.setting = run.manager.setting)
    (fewer : next.shown.Sublist run.shown)
    (app : Nat) :
    next.shownActivities app ≤ run.shownActivities app := by
  rw [shownActivities_eq, shownActivities_eq, sameSetting]
  exact fewer.countP_le

/-- Shown activities are hidden, or finished. -/
theorem Accounted.hide
    (accounted : Accounted run)
    (areShown : run.AreShown activities)
    (notResumed : status ≠ Status.resumed)
    (operates :
      ∀ rest : List Nat,
        TaskStackManager.Follows run.manager.setting (activities ++ rest)
          run.manager run.manager →
        Spec True (operate run.manager)
          (TaskStackManager.Follows run.manager.setting rest run.manager))
    (isNext : run.requests activities status operate = some next) :
    Accounted next ∧
      ∀ app, next.shownActivities app ≤ run.shownActivities app := by
  have splits :
      run.shown.Perm
        (activities ++
          run.manager.mActivityMap.filter fun activity =>
            if activity ∈ activities then decide (status = Status.resumed)
            else run.isShown activity) := by
    apply filter_perm_of_added accounted.numbered.distinct areShown.1
    · exact fun activity member => (areShown.2 activity member).1
    · intro activity member
      rw [if_pos member]
      exact decide_eq_false notResumed
    · intro activity
      by_cases isRequested : activity ∈ activities
      · simp [isRequested, (areShown.2 activity isRequested).2]
      · simp [isRequested]
  have operated :=
    operates _ (accounted.follows.recount splits.symm)
  refine
    ⟨accounted.requests
      (fun activity member => (areShown.2 activity member).1) operated
      (.refl _) isNext, ?_⟩
  obtain ⟨follows, isShown⟩ := requests_frame operated isNext
  apply shownActivities_le follows.tracks.sameSetting
  rw [shown, shown, follows.mActivityMap, isShown]
  apply List.monotone_filter_right
  intro activity
  by_cases isRequested : activity ∈ activities
  · rw [if_pos isRequested, decide_eq_true_eq]
    exact fun isResumed => absurd isResumed notResumed
  · rw [if_neg isRequested]
    exact id

/-- Nothing but the records, the requests and the map matters. -/
theorem Accounted.congr
    (accounted : Accounted run)
    (sameManager : next.manager = run.manager)
    (sameRequests : next.requested = run.requested) :
    Accounted next := by
  have sameShown : next.isShown = run.isShown := by
    unfold isShown
    rw [sameRequests]
  have sameList : next.shown = run.shown := by
    rw [shown, shown, sameManager, sameShown]
  constructor
  · rw [sameManager, sameList]
    exact accounted.tracks
  · rw [sameManager]
    exact accounted.noneHeld
  · rw [sameManager]
    exact accounted.numbered
  · rw [sameManager, sameShown]
    exact accounted.fresh
  · rw [sameManager]
    exact accounted.apps
  · rw [sameManager]
    exact accounted.hosted

/-! ## Steps -/

/-- An application attaches, which has no activities yet. -/
theorem Accounted.attach
    (accounted : Accounted run)
    (packageName : String)
    (pid : Nat) :
    Accounted
      { run with
        manager :=
          run.manager.attachApplication packageName true pid } := by
  have sameAccounts :
      (run.manager.attachApplication packageName true pid).accounts =
        Function.update run.manager.accounts run.manager.nextApp
          (some (AppRecord.attached packageName true pid).account) := by
    funext app
    by_cases isNew : app = run.manager.nextApp
    · simp [TaskStackManager.attachApplication, TaskStackManager.accounts,
        TaskStackManager.setApp, isNew]
    · simp [TaskStackManager.attachApplication, TaskStackManager.accounts,
        TaskStackManager.setApp, isNew]
  have noneHosted :
      (run.manager.attachApplication packageName true pid).setting.countIn
        run.manager.nextApp run.shown = 0 := by
    rw [Setting.countIn, List.countP_eq_zero]
    intro activity member
    have live := (List.mem_filter.mp member).1
    rw [decide_eq_true_eq]
    exact fun inApp =>
      Nat.lt_irrefl _ (accounted.hosted activity live _ inApp)
  have counts :
      TaskStackManager.Counted
        (run.manager.attachApplication packageName true pid).setting
        run.shown
        (run.manager.attachApplication packageName true pid) := by
    intro app account isAccount runs
    rw [sameAccounts] at isAccount
    by_cases isNew : app = run.manager.nextApp
    · rw [isNew, Function.update_self, Option.some.injEq] at isAccount
      rw [isNew, ← isAccount, noneHosted]
      exact ⟨rfl, fun positive => absurd positive (Nat.lt_irrefl 0)⟩
    · rw [Function.update_of_ne isNew] at isAccount
      exact accounted.tracks.counts trivial app account isAccount runs
  constructor
  · exact
      { sameLists := accounted.tracks.sameLists
        sameSetting := rfl
        counts := fun _ => counts
        targets := False.elim
        ready := False.elim }
  · exact accounted.noneHeld
  · exact accounted.numbered.fewer (.refl _) rfl
  · exact accounted.fresh
  · intro app isFresh
    have isOther : app ≠ run.manager.nextApp :=
      Nat.ne_of_gt isFresh
    change
      ((run.manager.attachApplication packageName true pid).accounts
        app).map Account.isStopped = none
    rw [sameAccounts, Function.update_of_ne isOther]
    exact accounted.apps app (Nat.le_of_succ_le isFresh)
  · intro activity live app inApp
    exact Nat.lt_succ_of_lt (accounted.hosted activity live app inApp)

/-- The applications of activities, once there is a new one. -/
theorem newActivity_inApp
    (manager : TaskStackManager)
    (name : String)
    (app task : Nat)
    (intent : Intent)
    (activity : Nat) :
    (manager.newActivity name app task intent).setting.inApp activity =
      if activity = manager.nextActivity then some app
      else manager.setting.inApp activity := by
  unfold Setting.inApp TaskStackManager.setting
    TaskStackManager.newActivity TaskStackManager.setRecord
  dsimp only
  by_cases isNew : activity = manager.nextActivity
  · simp [isNew, ActivityRecord.fresh]
  · simp [isNew]

/-- A new activity is not counted yet. -/
theorem Accounted.create_tracks
    (accounted : Accounted run)
    (name : String)
    (app task : Nat)
    (intent : Intent) :
    TaskStackManager.Tracks TaskStackManager.countRight
      (run.manager.newActivity name app task intent).setting .empty
      run.shown [] noExcuse
      (run.manager.newActivity name app task intent) where
  sameLists := accounted.tracks.sameLists
  sameSetting := rfl
  targets := False.elim
  ready := False.elim
  counts isAim other account isAccount runs := by
    have sameCount :
        (run.manager.newActivity name app task intent).setting.countIn
            other run.shown =
          run.manager.setting.countIn other run.shown := by
      apply List.countP_congr
      intro activity member
      have isOld : activity ≠ run.manager.nextActivity :=
        Nat.ne_of_lt
          (accounted.numbered.used activity (List.mem_filter.mp member).1)
      rw [newActivity_inApp, if_neg isOld]
    rw [sameCount]
    exact accounted.tracks.counts isAim other account isAccount runs

/-- A new activity of an application that is there. -/
theorem Accounted.create
    {app : Nat}
    (accounted : Accounted run)
    (isKnown : app < run.manager.nextApp)
    (name : String)
    (task : Nat)
    (intent : Intent) :
    Accounted
      { run with manager := run.manager.newActivity name app task intent } := by
  have notShown := accounted.fresh run.manager.nextActivity (Nat.le_refl _)
  have sameShown :
      SystemUIRun.shown
          { run with
            manager := run.manager.newActivity name app task intent } =
        run.shown :=
    List.filter_cons_of_neg (by
      rw [isShown] at notShown ⊢
      rw [notShown]
      exact Bool.false_ne_true)
  constructor
  · rw [sameShown]
    exact accounted.create_tracks name app task intent
  · exact accounted.noneHeld
  · exact accounted.numbered.insert rfl rfl
  · intro activity isFresh
    exact accounted.fresh activity (Nat.le_of_succ_le isFresh)
  · exact accounted.apps
  · intro activity live host inApp
    rw [newActivity_inApp] at inApp
    split at inApp
    · rw [← Option.some.inj inApp]
      exact isKnown
    · rename_i isOld
      have wasLive : activity ∈ run.manager.mActivityMap :=
        (List.mem_cons.mp live).resolve_left isOld
      exact accounted.hosted activity wasLive host inApp

/-- `pushNewActivity`. -/
theorem Accounted.push
    {name : String}
    {app task : Nat}
    {intent : Intent}
    (accounted : Accounted run)
    (isNext :
      run.step? (.pushNewActivity name app task intent) = some next) :
    Accounted next := by
  obtain ⟨shown, isShown, isNext⟩ := Option.bind_eq_some_iff.mp isNext
  rw [Option.some.injEq] at isNext
  -- Its application is there, since it has been told.
  have isKnown : app < run.manager.nextApp := by
    have follows :
        TaskStackManager.Follows
          (run.manager.newActivity name app task intent).setting run.shown
          (run.manager.newActivity name app task intent)
          (run.manager.newActivity name app task intent) :=
      ⟨accounted.create_tracks name app task intent, rfl⟩
    obtain ⟨resumed, isResumed, isTold⟩ :=
      Option.bind_eq_some_iff.mp isShown
    have later :=
      (follows.lifecycleTransition run.manager.nextActivity
        Status.resumed).of_result isResumed
    obtain ⟨host, record, found, _⟩ :=
      TaskStackManager.setActivityForeground_cases isTold
    obtain ⟨inApp, isAccount, _⟩ := later.tracks.of_getAppRecord found
    rw [newActivity_inApp, if_pos rfl, Option.some.injEq] at inApp
    have isThere := later.tracks.stopped host
    rw [isAccount, ← inApp] at isThere
    apply Nat.lt_of_not_le
    intro isFresh
    have notThere := accounted.apps app isFresh
    exact absurd (isThere.symm.trans notThere) nofun
  have created := accounted.create isKnown name task intent
  have isHidden :
      AreHidden
        { run with
          manager := run.manager.newActivity name app task intent }
        [run.manager.nextActivity] := by
    refine ⟨List.nodup_singleton _, ?_⟩
    intro activity member
    rw [List.mem_singleton.mp member]
    exact
      ⟨List.mem_cons_self,
        accounted.fresh run.manager.nextActivity (Nat.le_refl _)⟩
  have requested :
      SystemUIRun.requests
          { run with
            manager := run.manager.newActivity name app task intent }
          [run.manager.nextActivity] Status.resumed
          (SystemUIManager.showActivity run.manager.nextActivity) =
        some
          { run with
            manager := shown
            requested :=
              run.request [run.manager.nextActivity] Status.resumed } := by
    unfold SystemUIRun.requests
    rw [isShown]
    rfl
  have accountedShown :=
    created.show isHidden
      (created.follows.showActivity run.manager.nextActivity) requested
  rw [← isNext]
  exact accountedShown.congr rfl rfl

/-- A report, which ends an activity that is not shown at most. -/
theorem Accounted.report
    {token : Nat}
    {status : Status}
    (accounted : Accounted run)
    (keepsCount : run.KeepsCount (.reportActivityStatus token status))
    (isNext :
      run.step? (.reportActivityStatus token status) = some next) :
    Accounted next ∧
      ∀ app, next.shownActivities app ≤ run.shownActivities app := by
  obtain ⟨manager, isManager, isNext⟩ := Option.bind_eq_some_iff.mp isNext
  obtain ⟨tracks, maps⟩ :=
    (accounted.follows.reportActivityStatus accounted.noneHeld token
      status).of_result isManager
  have sameSetting : manager.setting = run.manager.setting :=
    tracks.sameSetting
  have sameNext : manager.nextActivity = run.manager.nextActivity :=
    congrArg Setting.nextActivity sameSetting
  have sameApp : manager.nextApp = run.manager.nextApp :=
    congrArg Setting.nextApp sameSetting
  have fewer : manager.mActivityMap.Sublist run.manager.mActivityMap := by
    rcases maps with isSame | ⟨_, _, isErased⟩
    · rw [isSame]
    · rw [isErased]
      exact List.erase_sublist
  have sameShown :
      manager.mActivityMap.filter run.isShown = run.shown := by
    rcases maps with isSame | ⟨isDestroyed, isLive, isErased⟩
    · rw [isSame, shown]
    · have notShown := keepsCount ⟨isDestroyed, isLive⟩
      rw [isErased, accounted.numbered.distinct.erase_eq_filter,
        List.filter_filter, shown]
      apply List.filter_congr
      intro activity _
      by_cases isToken : activity = token
      · simp [isToken, notShown]
      · simp [isToken]
  have stays :
      Accounted { run with manager := manager } := by
    constructor
    · change
        TaskStackManager.Tracks TaskStackManager.countRight
          manager.setting .empty
          (manager.mActivityMap.filter run.isShown) [] noExcuse manager
      rw [sameShown, sameSetting]
      exact tracks
    · dsimp only
      rw [sameSetting]
      exact accounted.noneHeld
    · exact accounted.numbered.fewer fewer sameNext
    · dsimp only
      rw [sameNext]
      exact accounted.fresh
    · dsimp only
      rw [sameSetting, sameApp]
      exact accounted.apps
    · dsimp only
      rw [sameSetting, sameApp]
      exact fun activity live =>
        accounted.hosted activity (fewer.subset live)
  rw [Option.some.injEq] at isNext
  subst isNext
  refine ⟨stays.congr rfl rfl, ?_⟩
  apply shownActivities_le sameSetting
  change (manager.mActivityMap.filter run.isShown).Sublist run.shown
  rw [sameShown]

/-! ## Who is told, in a step -/

/-- The counters keep up with a step, and nobody is missed. -/
structure KeepsUp (run next : SystemUIRun) : Prop where
  accounted : Accounted next
  announced :
    ∀ app record,
      run.manager.apps app = some record →
      record.mStatus ≠ .appStopped →
      run.shownActivities app = 0 →
      0 < next.shownActivities app →
      Call.setForegroundApplication record.mPid true ∈
        next.manager.calls.drop run.manager.calls.length

/-- The counter of an application. -/
theorem Accounted.count
    {app : Nat}
    {account : Account}
    (accounted : Accounted run)
    (isAccount : run.manager.accounts app = some account)
    (runs : account.isStopped = false) :
    account.count = run.shownActivities app := by
  rw [shownActivities_eq]
  exact (accounted.tracks.counts trivial app account isAccount runs).1

/-- An account of an application that is not stopped. -/
theorem accounts_of_apps
    {manager : TaskStackManager}
    {app : Nat}
    {record : AppRecord}
    (isRecord : manager.apps app = some record)
    (notStopped : record.mStatus ≠ .appStopped) :
    manager.accounts app = some record.account ∧
      record.account.isStopped = false :=
  ⟨TaskStackManager.accounts_eq_account isRecord,
    decide_eq_false notStopped⟩

/-- Nobody needs to be told. -/
theorem KeepsUp.of_le
    (accounted : Accounted next)
    (fewer : ∀ app, next.shownActivities app ≤ run.shownActivities app) :
    KeepsUp run next where
  accounted := accounted
  announced app record _ _ noneBefore someAfter := by
    have noMore := fewer app
    rw [noneBefore] at noMore
    exact absurd someAfter (Nat.not_lt.mpr noMore)

/-- Who needs to be told is told. -/
theorem KeepsUp.of_announces
    (before : Accounted run)
    (accounted : Accounted next)
    (announces : TaskStackManager.Announces run.manager next.manager) :
    KeepsUp run next where
  accounted := accounted
  announced app record isRecord notStopped noneBefore someAfter := by
    obtain ⟨isOld, runs⟩ := accounts_of_apps isRecord notStopped
    obtain ⟨new, isNew, newRuns, _, isTold⟩ :=
      announces.told app record.account isOld runs
    apply isTold
    · rw [before.count isOld runs, noneBefore]
      rfl
    · rw [accounted.count isNew newRuns]
      exact Int.natCast_ne_zero.mpr (Nat.ne_of_gt someAfter)

/-- A request is what its operation announces. -/
theorem requests_announces
    (announces :
      ∀ manager,
        operate run.manager = some manager →
        TaskStackManager.Announces run.manager manager)
    (isNext : run.requests activities status operate = some next) :
    TaskStackManager.Announces run.manager next.manager := by
  obtain ⟨manager, isManager, isNext⟩ := Option.bind_eq_some_iff.mp isNext
  rw [← Option.some.inj isNext]
  exact announces manager isManager

/-- A step that the counters keep up with. -/
theorem Accounted.step
    {action : SystemUIAction}
    (accounted : Accounted run)
    (keepsCount : run.KeepsCount action)
    (isNext : run.step? action = some next) :
    KeepsUp run next := by
  cases action with
  | attachApplication packageName pid =>
      rw [← Option.some.inj isNext]
      exact
        .of_le (accounted.attach packageName pid) fun _ => Nat.le_refl _
  | pushNewActivity name app task intent =>
      have announces :
          TaskStackManager.Announces run.manager next.manager := by
        obtain ⟨shown, isShown, isNext⟩ :=
          Option.bind_eq_some_iff.mp isNext
        rw [← Option.some.inj isNext]
        have created :
            TaskStackManager.Announces run.manager
              (run.manager.newActivity name app task intent) :=
          .of_accounts (List.prefix_refl _) rfl
        exact created.trans (.showActivity isShown)
      exact .of_announces accounted (accounted.push isNext) announces
  | turnToActivity activity =>
      have shows :=
        accounted.show keepsCount (accounted.follows.showActivity activity)
          isNext
      exact
        .of_announces accounted shows
          (requests_announces (fun _ => .showActivity) isNext)
  | switchTaskToActive task intent =>
      have follows :
          Spec True
            (run.systemUI.switchTaskToActive task intent run.manager)
            (TaskStackManager.Follows run.manager.setting
              ((run.systemUI.mStack task).reverse ++ run.shown)
              run.manager) := by
        refine
          TaskStackManager.Follows.showAll ?_ (run.systemUI.mStack task)
            accounted.follows
        intro activity counted manager follows
        dsimp only
        split
        · refine Spec.bind_known (absurd trivial) ?_
          intro informed isInformed
          obtain ⟨record, isRecord, isInformed⟩ :=
            Option.bind_eq_some_iff.mp isInformed
          have later :
              TaskStackManager.Follows run.manager.setting counted
                run.manager informed := by
            rw [← Option.some.inj isInformed]
            exact follows.setRecord isRecord ⟨rfl, rfl⟩
          exact later.showActivity activity
        · exact follows.showActivity activity
      exact
        .of_announces accounted (accounted.show keepsCount follows isNext)
          (requests_announces (fun _ => .switchTaskToActive) isNext)
  | moveTaskToBackground task =>
      obtain ⟨hidden, fewer⟩ :=
        accounted.hide keepsCount (by decide)
          (fun rest follows => follows.hideAll) isNext
      exact .of_le hidden fewer
  | finishActivity activity =>
      obtain ⟨finished, fewer⟩ :=
        accounted.hide keepsCount (by decide)
          (fun rest follows => follows.finishActivity) isNext
      exact .of_le finished fewer
  | startActivityEvent =>
      obtain ⟨hidden, fewer⟩ :=
        accounted.hide keepsCount (by decide)
          (fun rest follows => follows.hideTasks) isNext
      exact .of_le hidden fewer
  | reportActivityStatus token status =>
      obtain ⟨reported, fewer⟩ := accounted.report keepsCount isNext
      exact .of_le reported fewer

/-- Nothing is counted in the beginning. -/
theorem Accounted.start
    (mTag : Nat → String)
    (now : Nat) :
    Accounted (start mTag now) where
  tracks :=
    { sameLists := rfl
      sameSetting := rfl
      counts := fun _ _ _ isAccount => absurd isAccount nofun
      targets := False.elim
      ready := False.elim }
  noneHeld := rfl
  numbered :=
    { distinct := List.nodup_nil
      used := fun _ member => absurd member List.not_mem_nil }
  fresh _ _ := rfl
  apps _ _ := rfl
  hosted _ member := absurd member List.not_mem_nil

/--
In every run in which only hidden activities are shown, and only shown ones are
hidden, the counters are right and every application that is shown again is
told.
-/
theorem countsShown_of_reachable
    (mTag : Nat → String)
    (now : Nat)
    (run : SystemUIRun)
    (reachable :
      Reachable step? KeepsCount (start mTag now) run) :
    CountsShown run := by
  have accounted : Accounted run := by
    refine reachable.invariant (.start mTag now) ?_
    intro middle action after before keepsCount isNext
    exact (before.step keepsCount isNext).accounted
  have counted :
      ∀ app record,
        run.manager.apps app = some record →
        record.mStatus ≠ .appStopped →
        record.mForegroundActivityCnt = run.shownActivities app := by
    intro app record isRecord notStopped
    obtain ⟨isAccount, runs⟩ := accounts_of_apps isRecord notStopped
    exact accounted.count isAccount runs
  refine ⟨counted, ?_, ?_⟩
  · intro app record isRecord notStopped
    rw [counted app record isRecord notStopped]
    refine ⟨Int.natCast_nonneg _, Int.ofNat_le.mpr ?_⟩
    apply List.countP_mono_left
    intro activity _ isBoth
    exact (Bool.and_eq_true _ _ ▸ isBoth).1
  · intro action next keepsCount isNext
    exact (accounted.step keepsCount isNext).announced

/-- A panel of the SystemUI is shown. -/
def showPanel : List SystemUIAction :=
  [.attachApplication "bar" 10,
    .pushNewActivity "bar/panel" 0 0
      { mTarget := "bar/panel", mAction := "", mData := "", mFlag := 0 }]

/-- An ordinary activity hides it, it comes back and is finished. -/
def shownAgainRun : Option SystemUIRun :=
  run? step? (start (fun _ => "") 0)
    (showPanel ++
      [.startActivityEvent, .turnToActivity 0, .finishActivity 0,
        .reportActivityStatus 0 Status.destroyed])

/-- Nothing is miscounted in this. -/
theorem shownAgainRun_countsShown :
    CountsShown (shownAgainRun.get rfl) := by
  have accepted : shownAgainRun = some (shownAgainRun.get rfl) :=
    (Option.some_get _).symm
  exact countsShown_of_reachable (fun _ => "") 0 _
    (Reachable.of_run? (by decide) accepted)

/-- A second ordinary activity is started while the panel is hidden. -/
def hiddenTwiceRun : Option SystemUIRun :=
  run? step? (start (fun _ => "") 0)
    (showPanel ++ [.startActivityEvent, .startActivityEvent])

/-- The panel is taken back twice then. -/
theorem hiddenTwiceRun_not_countsShown :
    ¬ ∀ run,
      Reachable step? (fun _ _ => True) (start (fun _ => "") 0) run →
      CountsShown run := by
  intro counts
  have accepted : hiddenTwiceRun = some (hiddenTwiceRun.get rfl) :=
    (Option.some_get _).symm
  have reachable :
      Reachable step? (fun _ _ => True) (start (fun _ => "") 0)
        (hiddenTwiceRun.get rfl) :=
    Reachable.of_run?
      (StepSystem.allowedRun_of_forall (fun _ _ => trivial) _ _) accepted
  have isRecord :
      ∃ record,
        (hiddenTwiceRun.get rfl).manager.apps 0 = some record ∧
          record.mStatus ≠ .appStopped ∧
          record.mForegroundActivityCnt = -1 :=
    ⟨_, rfl, by decide, by decide⟩
  obtain ⟨record, found, notStopped, isMinusOne⟩ := isRecord
  have atLeastZero :=
    ((counts _ reachable).bounded 0 record found notStopped).1
  rw [isMinusOne] at atLeastZero
  exact absurd atLeastZero (by decide)

end SystemUIRun

end ActivityManager
