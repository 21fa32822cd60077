import ActivityManager.AppRecord

/-!
# Activity records and their lifecycle

The server keeps one `ActivityRecord` for each activity.  This module has its
status machine: the seven-by-seven table of `lifecycleTransition`, the six
commands it can send, and what reports and failures do to the record.  The
event that `lifecycleTransition` triggers first, for other activities that
wait for this one, concerns the task board and is added where the board is.
-/

namespace ActivityManager

/--
`ActivityRecord::Status`.  It is an integer because clients report integers,
which are cast without a check.
-/
abbrev Status := Int

namespace Status

@[simp] def error : Status := -1
@[simp] def init : Status := 0
@[simp] def creating : Status := 1
@[simp] def created : Status := 2
@[simp] def starting : Status := 3
@[simp] def started : Status := 4
@[simp] def resuming : Status := 5
@[simp] def resumed : Status := 6
@[simp] def pausing : Status := 7
@[simp] def paused : Status := 8
@[simp] def stopping : Status := 9
@[simp] def stopped : Status := 10
@[simp] def destroying : Status := 11
@[simp] def destroyed : Status := 12

end Status

/-- The entries of `lifeCycleTable`. -/
inductive TurnTo where
  | none
  | create
  | start
  | resume
  | pause
  | stop
  | destroy
  deriving Repr, DecidableEq

open TurnTo in
/-- `lifeCycleTable`; rows are the current status, columns the wanted one. -/
def lifeCycleTable : List (List TurnTo) :=
  [ [none, create, create, create, create, create, none],
    [none, none, start, start, start, stop, destroy],
    [none, none, none, resume, pause, stop, stop],
    [none, none, start, none, pause, pause, pause],
    [none, none, start, resume, none, stop, stop],
    [none, none, start, start, none, none, destroy],
    [none, none, none, none, none, none, none] ]

/--
`lifeCycleTable[(mStatus + 1) >> 1][(toStatus + 1) >> 1]`, if both indices are
in bounds.
-/
def turnTo? (mStatus toStatus : Status) : Option TurnTo :=
  let row := (mStatus + 1) / 2
  let column := (toStatus + 1) / 2
  if 0 ≤ row ∧ 0 ≤ column then do
    let entries ← lifeCycleTable[row.toNat]?
    entries[column.toNat]?
  else
    Option.none

/--
`ActivityRecord`.  `mToken` also stands for the record itself; `mApp` and
`mInTask` are weak references.
-/
structure ActivityRecord where
  mName : String
  mToken : Nat
  mStatus : Status
  mTargetStatus : Status
  mIsError : Bool
  mApp : Option Nat
  mInTask : Nat
  mIntent : Intent
  mNewIntentFlag : Bool
  deriving Repr, DecidableEq

/-- What a lifecycle command changes, and the calls it makes. -/
structure LifecycleEffect where
  activity : ActivityRecord
  app : Option AppRecord
  calls : List Call
  deriving Repr, DecidableEq

namespace ActivityRecord

/-- A new record: the constructor and `setAppThread`. -/
def fresh
    (name : String)
    (token : Nat)
    (app : Option Nat)
    (task : Nat)
    (intent : Intent) : ActivityRecord where
  mName := name
  mToken := token
  mStatus := Status.init
  mTargetStatus := Status.init
  mIsError := false
  mApp := app
  mInTask := task
  mIntent := intent
  mNewIntentFlag := true

/-- `ActivityRecord::setIntent`. -/
def setIntent
    (activity : ActivityRecord)
    (intent : Intent) : ActivityRecord :=
  { activity with mIntent := intent, mNewIntentFlag := true }

/-- `ActivityRecord::setStatus`. -/
def setStatus
    (activity : ActivityRecord)
    (status : Status) : ActivityRecord :=
  { activity with mStatus := status }

/-- `ActivityRecord::reportError`. -/
def reportError (activity : ActivityRecord) : ActivityRecord :=
  { activity with mIsError := true, mStatus := activity.mStatus - 1 }

/-- `mName.substr(mName.find_first_of('/') + 1)`. -/
def nameInPackage (name : String) : String :=
  match name.toList.dropWhile (· != '/') with
  | [] => name
  | _ :: rest => String.ofList rest

/-- The intent that goes with a command: the one the client has not seen. -/
def pendingIntent (activity : ActivityRecord) : Option Intent :=
  if activity.mNewIntentFlag then some activity.mIntent else none

/-- The application, where `appRecord && appRecord->mStatus != APP_STOPPED`. -/
def notStopped (app : Option AppRecord) : Option AppRecord :=
  app.filter (·.mStatus ≠ .appStopped)

/-- `ActivityRecord::create`. -/
def create
    (activity : ActivityRecord)
    (app : Option AppRecord) : LifecycleEffect :=
  if activity.mStatus = Status.init then
    let creating := activity.setStatus Status.creating
    match notStopped app with
    | some appRecord =>
        { activity := { creating with mNewIntentFlag := false }
          app := some (appRecord.addActivity activity.mToken)
          calls :=
            [.addWindowToken activity.mToken
                (if appRecord.mIsSystemUI then .systemWindow
                  else .application),
              .scheduleLaunchActivity appRecord.mPid
                (nameInPackage activity.mName) activity.mToken
                activity.mIntent] }
    | none =>
        { activity := creating, app := app, calls := [] }
  else
    { activity := activity, app := app, calls := [] }

/-- `ActivityRecord::start`. -/
def start
    (activity : ActivityRecord)
    (app : Option AppRecord) : LifecycleEffect :=
  if Status.creating < activity.mStatus ∧
      activity.mStatus < Status.destroyed then
    let starting := activity.setStatus Status.starting
    match notStopped app with
    | some appRecord =>
        { activity := { starting with mNewIntentFlag := false }
          app := app
          calls :=
            [.scheduleStartActivity appRecord.mPid activity.mToken
              activity.pendingIntent] }
    | none =>
        { activity := starting, app := app, calls := [] }
  else
    { activity := activity, app := app, calls := [] }

/-- `ActivityRecord::resume`. -/
def resume
    (activity : ActivityRecord)
    (app : Option AppRecord) : LifecycleEffect :=
  if Status.starting ≤ activity.mStatus ∧
      activity.mStatus ≤ Status.stopped then
    let resuming := activity.setStatus Status.resuming
    let shows : Call :=
      .updateWindowTokenVisibility activity.mToken .visible
    match notStopped app with
    | some appRecord =>
        { activity := { resuming with mNewIntentFlag := false }
          app := app
          calls :=
            [.scheduleResumeActivity appRecord.mPid activity.mToken
                activity.pendingIntent,
              shows] }
    | none =>
        { activity := resuming, app := app, calls := [shows] }
  else
    { activity := activity, app := app, calls := [] }

/--
The common shape of `pause`, `stop` and `destroy`: within a range of statuses
the record changes its own, and tells the application and the window service.
-/
def command
    (inRange : Bool)
    (status : Status)
    (schedule : Nat → Nat → Call)
    (window : Nat → Call)
    (activity : ActivityRecord)
    (app : Option AppRecord) : LifecycleEffect :=
  if inRange then
    { activity := activity.setStatus status
      app := app
      calls :=
        ((notStopped app).map fun appRecord =>
          schedule appRecord.mPid activity.mToken).toList ++
          [window activity.mToken] }
  else
    { activity := activity, app := app, calls := [] }

/-- `ActivityRecord::pause`. -/
def pause
    (activity : ActivityRecord)
    (app : Option AppRecord) : LifecycleEffect :=
  command
    (Status.starting < activity.mStatus ∧
      activity.mStatus < Status.pausing)
    Status.pausing
    .schedulePauseActivity
    (.updateWindowTokenVisibility · .invisible)
    activity app

/-- `ActivityRecord::stop`. -/
def stop
    (activity : ActivityRecord)
    (app : Option AppRecord) : LifecycleEffect :=
  command
    (Status.creating < activity.mStatus ∧
      activity.mStatus < Status.stopping)
    Status.stopping
    .scheduleStopActivity
    (.updateWindowTokenVisibility · .gone)
    activity app

/-- `ActivityRecord::destroy`. -/
def destroy
    (activity : ActivityRecord)
    (app : Option AppRecord) : LifecycleEffect :=
  command
    (Status.creating < activity.mStatus ∧
      activity.mStatus < Status.destroying)
    Status.destroying
    .scheduleDestroyActivity
    .removeWindowToken
    activity app

/-- `mStatus % 2 == 1`: a command is under way (C++ rounds towards zero). -/
def isTransitional (activity : ActivityRecord) : Bool :=
  activity.mStatus.tmod 2 == 1

/-- The `switch` over the table entry; `none` when there is nothing to do. -/
def perform
    (turnTo : TurnTo)
    (activity : ActivityRecord)
    (app : Option AppRecord) : Option LifecycleEffect :=
  match turnTo with
  | .create => some (activity.create app)
  | .start => some (activity.start app)
  | .resume => some (activity.resume app)
  | .pause => some (activity.pause app)
  | .stop => some (activity.stop app)
  | .destroy => some (activity.destroy app)
  | .none => none

end ActivityRecord

/-- What `lifecycleTransition` does to its own record. -/
structure LifecycleTransition extends LifecycleEffect where
  /-- An `ActivityLifeCycleTask` is committed. -/
  commits : Bool
  deriving Repr, DecidableEq

namespace ActivityRecord

/--
`ActivityRecord::lifecycleTransition` after its event for waiting activities.
`none` when the table is read out of bounds.
-/
def lifecycleTransition?
    (activity : ActivityRecord)
    (app : Option AppRecord)
    (toStatus : Status) : Option LifecycleTransition :=
  if activity.isTransitional then
    some
      { activity := { activity with mTargetStatus := toStatus }
        app := app
        calls := []
        commits := false }
  else do
    let turnTo ← turnTo? activity.mStatus toStatus
    match activity.perform turnTo app with
    | none =>
        some
          { activity := activity
            app := app
            calls := []
            commits := false }
    | some effect =>
        some
          { activity :=
              { effect.activity with mTargetStatus := toStatus }
            app := effect.app
            calls := effect.calls
            commits := true }

end ActivityRecord

end ActivityManager
