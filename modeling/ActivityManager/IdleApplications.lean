import ActivityManager.ComponentListings

/-!
# Applications that are idle

An application without components is asked to terminate where its last one is
reported to be destroyed, and where an activity is given up.
-/

namespace ActivityManager

open StepSystem (Reachable)

/-- After `stopApplication` the application does not run. -/
theorem AppRecord.stopApplication_notRunning (record : AppRecord) :
    record.stopApplication.1.mStatus ≠ .appRunning := by
  unfold stopApplication
  split
  · nofun
  · rename_i notRunning
    exact notRunning

namespace TaskStackManager

variable
  {manager next : TaskStackManager}
  {app activity token serial : Nat}

/-- If the application is idle, it does not run any more. -/
def IdleIsTold
    (manager : TaskStackManager)
    (app : Nat) : Prop :=
  ∀ record,
    manager.apps app = some record →
    record.checkActiveStatus = false →
    record.mStatus ≠ .appRunning

/-- The application that an activity was given. -/
def hostOf
    (manager : TaskStackManager)
    (activity : Nat) : Option Nat :=
  (manager.activities activity).bind ActivityRecord.mApp

theorem SameHosts.hostOf_eq
    (same : manager.SameHosts next)
    (activity : Nat) :
    next.hostOf activity = manager.hostOf activity := by
  have isBind :
      ∀ found : Option ActivityRecord,
        found.bind ActivityRecord.mApp =
          (found.map ActivityRecord.mApp).join := by
    intro found
    cases found <;> rfl
  rw [hostOf, hostOf, isBind, isBind, same.mApp]

/-- An activity that leaves its application tells it if it is idle then. -/
theorem leaveApp_told
    (isHost : manager.hostOf token = some app) :
    (manager.leaveApp token).IdleIsTold app := by
  intro record isRecord isIdle
  obtain ⟨found, isFound, isApp⟩ := Option.bind_eq_some_iff.mp isHost
  rcases leaveApp_cases manager token with
    ⟨noApp, left⟩ | ⟨host, old, isOld, leaves⟩
  · rw [left] at isRecord
    simp [getAppRecord, isFound, isApp, isRecord] at noApp
  · have isThis : host = app := by
      obtain ⟨other, isOther, isOld⟩ := Option.bind_eq_some_iff.mp isOld
      obtain ⟨_, isHost, isOld⟩ := Option.bind_eq_some_iff.mp isOld
      obtain ⟨_, _, isPair⟩ := Option.bind_eq_some_iff.mp isOld
      cases isPair
      rw [isFound, Option.some.injEq] at isOther
      rw [← isOther, isApp, Option.some.injEq] at isHost
      exact isHost.symm
    subst isThis
    rcases leaves with ⟨isActive, left⟩ | ⟨_, left⟩
    · have isLeft :
          (manager.leaveApp token).apps host =
            some (old.deleteActivity token) := by
        rw [left]
        exact Function.update_self _ _ _
      rw [isRecord, Option.some.injEq] at isLeft
      rw [← isLeft, isIdle] at isActive
      exact absurd isActive Bool.false_ne_true
    · have isLeft :
          (manager.leaveApp token).apps host =
            some (old.deleteActivity token).stopApplication.1 := by
        rw [left]
        exact Function.update_self _ _ _
      rw [isRecord, Option.some.injEq] at isLeft
      rw [isLeft]
      exact AppRecord.stopApplication_notRunning _

/-- A report that an activity is destroyed tells its application. -/
theorem reportActivityStatus_told
    (known : token ∈ manager.mActivityMap)
    (isHost : manager.hostOf token = some app)
    (isNext :
      manager.reportActivityStatus token Status.destroyed = some next) :
    next.IdleIsTold app := by
  obtain ⟨_, _, moved⟩ :=
    (step?_moved manager
      (.reportActivityStatus token Status.destroyed)).of_result isNext
  have same : manager.SameHosts next := by
    refine moved.moves.invariant (.refl _) ?_
    intro middle action after same isPart isStep
    have isRoutine := partsOf_areRoutine rfl middle action isPart
    exact same.trans (.recordStep isStep isRoutine)
  unfold TaskStackManager.reportActivityStatus at isNext
  rw [if_pos known] at isNext
  obtain ⟨reported, isReported, isNext⟩ := Option.bind_eq_some_iff.mp isNext
  rw [if_neg (by decide), if_pos rfl] at isNext
  have stillKnown : token ∈ reported.mActivityMap := by
    rw [eventTrigger_mActivityMap known isReported]
    exact known
  obtain ⟨_, left, _, _, isGone⟩ := reportDestroyed_steps stillKnown isNext
  have isLeft : left.hostOf token = some app := by
    have isAfter := (same.hostOf_eq token).trans isHost
    rw [isGone] at isAfter
    have isAfter : (left.leaveApp token).hostOf token = some app := isAfter
    rw [hostOf, (leaveApp_frame left token).1] at isAfter
    exact isAfter
  rw [isGone]
  exact leaveApp_told isLeft

/-- An activity that is given up stops its application. -/
theorem timeout_told
    (isEnded : manager.endedActivity (.timeout serial) = some activity)
    (isHost : manager.hostOf activity = some app)
    (isNext : manager.timeout serial = some next) :
    next.IdleIsTold app := by
  intro record isRecord _
  obtain ⟨task, isDue, isNext⟩ := Option.bind_eq_some_iff.mp isNext
  cases task with
  | lifeCycle other =>
      obtain ⟨found, isFound, isNext⟩ := Option.bind_eq_some_iff.mp isNext
      have isFound : manager.activities other = some found := isFound
      by_cases isThere : found.mStatus = found.mTargetStatus
      · simp [endedActivity, isDue, isFound, isThere] at isEnded
      · have isThis : other = activity := by
          simpa [endedActivity, isDue, isFound, isThere] using isEnded
        subst isThis
        rw [if_neg isThere] at isNext
        obtain ⟨exited, isExited, isDeleted⟩ :=
          Option.bind_eq_some_iff.mp isNext
        have unmoved : Moved ownParts exited exited.lists exited :=
          .refl exited
        obtain ⟨_, _, moved⟩ :=
          (unmoved.deleted.deleteActivity other).of_result isDeleted
        obtain ⟨old, isOld, sameStatus⟩ :=
          (sameStatuses_of_own moved.moves).exists_before isRecord
        rw [sameStatus]
        have isApp : found.mApp = some app := by
          rw [hostOf, isFound] at isHost
          exact isHost
        obtain ⟨gone, isGone, ⟨noApp, hasEnded⟩ |
          ⟨host, before, isHosted, _, hasEnded⟩⟩ :=
          abnormalExit_cases isExited
        · have isGone : manager.activities other = some gone := isGone
          rw [isFound, Option.some.injEq] at isGone
          rw [← isGone, isApp] at noApp
          rw [hasEnded] at isOld
          cases noApp.symm.trans isOld
        · have isGone : manager.activities other = some gone := isGone
          rw [isFound, Option.some.injEq] at isGone
          rw [← isGone, isApp, Option.some.injEq] at isHosted
          subst isHosted
          have isStopped :
              exited.apps app =
                some (before.deleteActivity other).stopApplication.1 := by
            rw [hasEnded]
            exact Function.update_self _ _ _
          rw [isOld, Option.some.injEq] at isStopped
          rw [isStopped]
          exact AppRecord.stopApplication_notRunning _
  | waitResume _ _ =>
      simp [endedActivity, isDue] at isEnded
  | delayDestroy _ _ =>
      simp [endedActivity, isDue] at isEnded

end TaskStackManager

namespace ActivityManagerInner

variable {inner next : ActivityManagerInner}

/--
The application of the component that a step reports to be destroyed, or gives
up.
-/
def endedApp (inner : ActivityManagerInner) : InnerAction → Option Nat
  | .reportServiceStatus token status =>
      if status = ServiceStatus.destroyed then
        (getService inner.mServices token).map ServiceRecord.mApp
      else
        none
  | .manager (.reportActivityStatus token status) =>
      if status = Status.destroyed ∧ token ∈ inner.manager.mActivityMap then
        inner.manager.hostOf token
      else
        none
  | .manager (.timeout serial) =>
      (inner.manager.endedActivity (.timeout serial)).bind
        inner.manager.hostOf
  | _ => none

/-- If that was its last component, the application is told to terminate. -/
theorem step?_told
    {action : InnerAction}
    {app : Nat}
    (isEnded : inner.endedApp action = some app)
    (isNext : inner.step? action = some next) :
    next.manager.IdleIsTold app := by
  unfold endedApp at isEnded
  split at isEnded
  · rename_i token status
    split at isEnded
    · rename_i isDestroyed
      obtain ⟨service, isFound, isApp⟩ := Option.map_eq_some_iff.mp isEnded
      subst isDestroyed isApp
      have isNext :
          inner.reportServiceStatus token ServiceStatus.destroyed =
            some next :=
        isNext
      unfold reportServiceStatus at isNext
      rw [isFound] at isNext
      obtain ⟨_, _, isNext⟩ := Option.bind_eq_some_iff.mp isNext
      rw [if_neg (by decide), if_neg (by decide), if_pos rfl] at isNext
      rw [← Option.some.inj isNext]
      intro record isRecord isIdle
      have isRecord :
          (stopIfIdle
            { inner with
              mServices := deleteService inner.mServices token }
            service.mApp).manager.apps service.mApp =
              some record :=
        isRecord
      unfold stopIfIdle at isRecord
      dsimp only at isRecord
      split at isRecord
      · rename_i old isOld
        split at isRecord
        · rename_i isActive
          rw [isOld, Option.some.injEq] at isRecord
          rw [isRecord, isIdle] at isActive
          exact absurd isActive Bool.false_ne_true
        · have isStopped :
              (inner.manager.stopApp service.mApp old).apps service.mApp =
                some old.stopApplication.1 :=
            Function.update_self _ _ _
          have isRecord := isStopped.symm.trans isRecord
          rw [← Option.some.inj isRecord]
          exact AppRecord.stopApplication_notRunning old
      · rename_i noApp
        exact absurd (noApp.symm.trans isRecord) nofun
    · cases isEnded
  · rename_i token status
    split at isEnded
    · rename_i isReport
      rw [isReport.1] at isNext
      exact
        TaskStackManager.reportActivityStatus_told isReport.2 isEnded
          (onManager_manager isNext)
    · cases isEnded
  · rename_i serial
    obtain ⟨activity, isActivity, isHost⟩ :=
      Option.bind_eq_some_iff.mp isEnded
    exact
      TaskStackManager.timeout_told isActivity isHost
        (onManager_manager isNext)
  · cases isEnded

end ActivityManagerInner

end ActivityManager
