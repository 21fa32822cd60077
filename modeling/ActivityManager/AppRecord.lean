import Mathlib.Data.List.Basic
import Mathlib.Tactic.SplitIfs

/-!
# Application records

`AppRecord` is the server's view of one application process.  Everything it
tells others (the application's thread, the window service, the priority list)
is returned as a list of `Call`s in the order they are made.
-/

namespace ActivityManager

/-- The part of `Intent` that the server reads. -/
structure Intent where
  mTarget : String
  mAction : String
  mData : String
  mFlag : Nat
  deriving Repr, DecidableEq

/-- `LayoutParams::TYPE_*`. -/
inductive WindowType where
  | application
  | systemWindow
  deriving Repr, DecidableEq

/-- `LayoutParams::WINDOW_*`. -/
inductive WindowVisibility where
  | visible
  | invisible
  | gone
  deriving Repr, DecidableEq

/-- The calls the server makes to other parties. -/
inductive Call where
  | scheduleLaunchActivity
      (pid : Nat)
      (activityName : String)
      (token : Nat)
      (intent : Intent)
  | scheduleStartActivity (pid token : Nat) (intent : Option Intent)
  | scheduleResumeActivity (pid token : Nat) (intent : Option Intent)
  | schedulePauseActivity (pid token : Nat)
  | scheduleStopActivity (pid token : Nat)
  | scheduleDestroyActivity (pid token : Nat)
  | setForegroundApplication (pid : Nat) (isForeground : Bool)
  | terminateApplication (pid : Nat)
  | pushForeground (pid : Nat)
  | intoBackground (pid : Nat)
  | addWindowToken (token : Nat) (type : WindowType)
  | updateWindowTokenVisibility
      (token : Nat)
      (visibility : WindowVisibility)
  | removeWindowToken (token : Nat)
  deriving Repr, DecidableEq

/-- The activity that a call is a lifecycle command for, if it is one. -/
def Call.commandToken : Call → Option Nat
  | .scheduleLaunchActivity _ _ token _ => some token
  | .scheduleStartActivity _ token _ => some token
  | .scheduleResumeActivity _ token _ => some token
  | .schedulePauseActivity _ token => some token
  | .scheduleStopActivity _ token => some token
  | .scheduleDestroyActivity _ token => some token
  | _ => none

/-- `AppStatus`. -/
inductive AppStatus where
  | appRunning
  | appStopping
  | appStopped
  deriving Repr, DecidableEq

/-- `AppRecord`; activities are named by their tokens. -/
structure AppRecord where
  mPackageName : String
  mIsSystemUI : Bool
  mPid : Nat
  mForegroundActivityCnt : Int
  mStatus : AppStatus
  mExistActivity : List Nat
  mExistService : List Nat
  deriving Repr, DecidableEq

/--
The deletion loop of the vectors in the server: the last element takes the
place of the first match.
-/
def swapRemove
    {α : Type}
    (isMatch : α → Bool)
    (elements : List α) : List α :=
  match elements.findIdx? isMatch, elements.getLast? with
  | some index, some last => (elements.set index last).dropLast
  | _, _ => elements

namespace AppRecord

/-- The constructor of `AppRecord`, called when an application attaches. -/
def attached
    (packageName : String)
    (systemui : Bool)
    (pid : Nat) : AppRecord where
  mPackageName := packageName
  mIsSystemUI := systemui
  mPid := pid
  mForegroundActivityCnt := 0
  mStatus := .appRunning
  mExistActivity := []
  mExistService := []

/-- `AppRecord::addActivity`. -/
def addActivity
    (app : AppRecord)
    (activity : Nat) : AppRecord :=
  { app with mExistActivity := app.mExistActivity ++ [activity] }

/-- `AppRecord::deleteActivity`. -/
def deleteActivity
    (app : AppRecord)
    (activity : Nat) : AppRecord :=
  { app with
    mExistActivity := swapRemove (· == activity) app.mExistActivity }

/-- `AppRecord::setForeground`. -/
def setForeground
    (app : AppRecord)
    (isForegroundActivity : Bool) : AppRecord × List Call :=
  if app.mStatus = .appStopped then
    (app, [])
  else if isForegroundActivity then
    let counted :=
      { app with mForegroundActivityCnt := app.mForegroundActivityCnt + 1 }
    if counted.mForegroundActivityCnt = 1 then
      (counted,
        [.setForegroundApplication app.mPid true,
          .pushForeground app.mPid])
    else
      (counted, [])
  else
    let counted :=
      { app with mForegroundActivityCnt := app.mForegroundActivityCnt - 1 }
    if counted.mForegroundActivityCnt = 0 then
      (counted,
        [.setForegroundApplication app.mPid false,
          .intoBackground app.mPid])
    else
      (counted, [])

/-- `AppRecord::checkActiveStatus`. -/
def checkActiveStatus (app : AppRecord) : Bool :=
  !(app.mExistActivity.isEmpty && app.mExistService.isEmpty)

/-- `AppRecord::stopApplication`. -/
def stopApplication (app : AppRecord) : AppRecord × List Call :=
  if app.mStatus = .appRunning then
    ({ app with mStatus := .appStopping },
      [.terminateApplication app.mPid])
  else
    (app, [])

/-! The five outcomes of `setForeground`. -/

section SetForeground

variable {app : AppRecord}

theorem setForeground_stopped
    (stopped : app.mStatus = .appStopped)
    (isForegroundActivity : Bool) :
    app.setForeground isForegroundActivity = (app, []) := by
  simp [setForeground, stopped]

theorem setForeground_first
    (notStopped : app.mStatus ≠ .appStopped)
    (isZero : app.mForegroundActivityCnt = 0) :
    app.setForeground true =
      ({ app with mForegroundActivityCnt := 1 },
        [.setForegroundApplication app.mPid true,
          .pushForeground app.mPid]) := by
  simp [setForeground, notStopped, isZero]

theorem setForeground_more
    (notStopped : app.mStatus ≠ .appStopped)
    (notZero : app.mForegroundActivityCnt ≠ 0) :
    app.setForeground true =
      ({ app with
          mForegroundActivityCnt := app.mForegroundActivityCnt + 1 },
        []) := by
  have notFirst : app.mForegroundActivityCnt + 1 ≠ 1 := by
    omega
  simp [setForeground, notStopped, notFirst]

theorem setForeground_last
    (notStopped : app.mStatus ≠ .appStopped)
    (isOne : app.mForegroundActivityCnt = 1) :
    app.setForeground false =
      ({ app with mForegroundActivityCnt := 0 },
        [.setForegroundApplication app.mPid false,
          .intoBackground app.mPid]) := by
  simp [setForeground, notStopped, isOne]

theorem setForeground_fewer
    (notStopped : app.mStatus ≠ .appStopped)
    (notOne : app.mForegroundActivityCnt ≠ 1) :
    app.setForeground false =
      ({ app with
          mForegroundActivityCnt := app.mForegroundActivityCnt - 1 },
        []) := by
  have notLast : app.mForegroundActivityCnt - 1 ≠ 0 := by
    omega
  simp [setForeground, notStopped, notLast]

end SetForeground

@[simp] theorem setForeground_mPid
    (app : AppRecord)
    (isForegroundActivity : Bool) :
    (app.setForeground isForegroundActivity).1.mPid = app.mPid := by
  unfold setForeground
  dsimp only
  split_ifs <;> rfl

@[simp] theorem setForeground_mStatus
    (app : AppRecord)
    (isForegroundActivity : Bool) :
    (app.setForeground isForegroundActivity).1.mStatus = app.mStatus := by
  unfold setForeground
  dsimp only
  split_ifs <;> rfl

@[simp] theorem stopApplication_mPid (app : AppRecord) :
    app.stopApplication.1.mPid = app.mPid := by
  unfold stopApplication
  split <;> rfl

end AppRecord

end ActivityManager
