import ActivityManager.ActivityClientRecord
import ActivityManager.PostIntent
import ActivityManager.ServiceClient
import Mathlib.Data.List.Sort

/-!
# The application process

An application process serves the calls of `IApplicationThread` in its main
loop, one at a time.  It keeps a record of every activity and of every service
that it has created, and leaves a trace: what happens to their objects, and
what it reports to the server.

A process ends in one of two ways.  `terminateApplication` posts a delayed task
that clears all activities and services and stops the loop; a SIGTERM clears
them at once, and posts a delayed task that stops the loop.  Calls are served
until the loop has ended, also after a clear.
-/

namespace ActivityManager

/-- `Intent::ACTION_BACK_PRESSED`. -/
def Intent.actionBackPressed : String := "action.system.BACK_PRESSED"

/-! ## Activities -/

/-- What happens to an `Activity`: to its window, its callbacks, its reports. -/
inductive ActivityEvent where
  /-- `newWindow`, and whether there is a window. -/
  | newWindow (mWindow : Bool)
  /-- `removeWindow`, and whether there is a window. -/
  | removeWindow (mWindow : Bool)
  | setIntent (intent : Intent)
  | onCreate
  | onStart
  | onResume
  | onPause
  | onStop
  | onDestroy
  | onRestart
  | onNewIntent (intent : Intent)
  | onActivityResult
      (requestCode resultCode : Int)
      (resultData : Intent)
  | onBackPressed
  | onReceiveIntent (intent : Intent)
  | reportActivityStatus (status : Status)
  deriving Repr, DecidableEq

/--
`Activity::performCreate` to `Activity::performDestroy`.  The first one fails
if `attachIWindow` does.
-/
def ActivityCallback.events
    (mWindow attached : Bool) :
    ActivityCallback → List ActivityEvent
  | .setIntent intent => [.setIntent intent]
  | .onNewIntent intent => [.onNewIntent intent]
  | .onRestart => [.onRestart]
  | .performCreate =>
      if attached then [.onCreate] else [.removeWindow mWindow]
  | .performStart => [.onStart]
  | .performResume => [.onResume]
  | .performPause => [.onPause]
  | .performStop => [.onStop]
  | .performDestroy =>
      .onDestroy :: (if mWindow then [.removeWindow mWindow] else [])

/-- The callbacks of a handler, and then its reports. -/
def ClientEffect.events
    (effect : ClientEffect)
    (mWindow attached : Bool) : List ActivityEvent :=
  effect.callbacks.flatMap (·.events mWindow attached) ++
    effect.reports.map .reportActivityStatus

/-- An `Activity` and its `ActivityClientRecord`. -/
structure ClientActivity where
  /-- Ghost: the number of the launch that created it. -/
  serial : Nat
  token : Nat
  record : ActivityClientRecord
  /-- `mWindow` is not null. -/
  mWindow : Bool
  deriving Repr, DecidableEq

namespace ClientActivity

/-- `ActivityClientRecord::handleReceiveIntent`. -/
def handleReceiveIntent (intent : Intent) : List ActivityEvent :=
  if intent.mAction = Intent.actionBackPressed then
    [.onBackPressed]
  else
    [.onReceiveIntent intent]

/--
What `clearActivityAndService` does to an activity.  The status is read once,
before `onStop`.
-/
def clearEvents (activity : ClientActivity) : List ActivityEvent :=
  let record := activity.record
  let status := record.mStatus
  let stopped :=
    if Status.started ≤ status ∧ status ≤ Status.paused then
      record.onStop
    else
      { record := record, callbacks := [], reports := [] }
  stopped.events activity.mWindow true ++
    (if status < Status.destroying then
      stopped.record.onDestroy.events activity.mWindow true
    else
      [])

end ClientActivity

/-! ## Services -/

/-- What happens to a `Service`: its callbacks, and the calls it makes. -/
inductive ServiceEvent where
  | onCreate
  | setIntent (intent : Intent)
  | onStartCommand (intent : Intent)
  /-- `onBind` and the binder that it returns. -/
  | onBind (intent : Intent) (serviceBinder : Option Nat)
  | onServiceConnected (conn serviceBinder : Nat)
  | onUnbind
  | onDestroy
  | onReceiveIntent (intent : Intent)
  | report (report : ServiceReport)
  deriving Repr, DecidableEq

namespace ServiceClientRecord

/-- `mService->onCreate()`, which runs with the first request. -/
def createEvents (record : ServiceClientRecord) : List ServiceEvent :=
  if record.mStatus = ServiceStatus.creating then
    [.onCreate,
      .report (.reportServiceStatus record.mToken ServiceStatus.created)]
  else
    []

/-- What `ServiceClientRecord::onStart` does. -/
def onStartEvents
    (record : ServiceClientRecord)
    (intent : Intent) : List ServiceEvent :=
  record.createEvents ++
    [.setIntent intent, .onStartCommand intent,
      .report (.reportServiceStatus record.mToken ServiceStatus.started)]

/-- What `Service::bind` does: it asks for a binder once. -/
def bindEvents
    (record : ServiceClientRecord)
    (intent : Intent)
    (conn : Nat)
    (serviceBinder : Option Nat) : List ServiceEvent :=
  (if record.mIsBinded then []
    else
      [.onBind intent serviceBinder,
        .report (.publishService record.mToken serviceBinder)]) ++
    (match (record.onBind serviceBinder).record.mServiceBinder with
    | some binder => [.onServiceConnected conn binder]
    | none => [])

/-- What `ServiceClientRecord::onBind` does. -/
def onBindEvents
    (record : ServiceClientRecord)
    (intent : Intent)
    (conn : Nat)
    (serviceBinder : Option Nat) : List ServiceEvent :=
  record.createEvents ++
    (.setIntent intent :: record.bindEvents intent conn serviceBinder) ++
    [.report (.reportServiceStatus record.mToken ServiceStatus.binded)]

/-- What `ServiceClientRecord::onUnbind` and `Service::unbind` do. -/
def onUnbindEvents (record : ServiceClientRecord) : List ServiceEvent :=
  if record.mStartFlag.binded then
    (if record.mIsBinded then [.onUnbind] else []) ++
      [.report
        (.reportServiceStatus record.mToken ServiceStatus.unbinded)]
  else
    []

/-- What `ServiceClientRecord::onDestroy` does. -/
def onDestroyEvents (record : ServiceClientRecord) : List ServiceEvent :=
  [.onDestroy,
    .report (.reportServiceStatus record.mToken ServiceStatus.destroyed)]

/-- What `clearActivityAndService` does to a service. -/
def clearEvents (record : ServiceClientRecord) : List ServiceEvent :=
  if record.mStatus < ServiceStatus.destroying then
    record.onDestroyEvents
  else
    []

end ServiceClientRecord

namespace Application

/--
The service that a call is about, and what happens to it, where `onBind`
returns `serviceBinder`.
-/
def callEvents
    (mApp : Application)
    (serviceBinder : Option Nat) :
    ServiceCall → Option (Nat × List ServiceEvent)
  | .scheduleStartService _ serviceName token intent =>
      (mApp.openService serviceName token).map fun opened =>
        (token, opened.2.onStartEvents intent)
  | .scheduleBindService _ serviceName token intent conn =>
      (mApp.openService serviceName token).map fun opened =>
        (token, opened.2.onBindEvents intent conn serviceBinder)
  | .scheduleUnbindService _ token =>
      (mApp.findService token).map fun record =>
        (token, record.onUnbindEvents)
  | .scheduleStopService _ token =>
      (mApp.findService token).map fun record =>
        (token, record.onDestroyEvents)
  | _ =>
      none

end Application

/-! ## The process -/

/-- What a process does that can be seen. -/
inductive ApplicationEvent where
  | activity (serial token : Nat) (event : ActivityEvent)
  | service (token : Nat) (event : ServiceEvent)
  | onCreate
  | onForeground
  | onBackground
  | onReceiveIntent (intent : Intent)
  | onDestroy
  deriving Repr, DecidableEq

/-- `ApplicationThread` and its `Application`. -/
structure ApplicationThread where
  /-- The names in `mActivityMap`. -/
  mActivityMap : List String
  /-- The activities of `mExistActivities`, in the order of their tokens. -/
  mExistActivities : List ClientActivity
  mApp : Application
  /-- The delayed tasks of `terminateApplication`. -/
  terminations : Nat
  /-- The delayed tasks of `stop`. -/
  stops : Nat
  isRunning : Bool
  isDestroyed : Bool
  /-- Ghost: the number of activities that were created. -/
  launches : Nat
  /-- Ghost: activities whose token had a record when they were created. -/
  dropped : List ClientActivity
  trace : List ApplicationEvent

namespace ApplicationThread

/-- `mainRun` until the application is attached. -/
def start
    (mActivityMap mServiceMap : List String) : ApplicationThread where
  mActivityMap := mActivityMap
  mExistActivities := []
  mApp := { mServiceMap := mServiceMap, mExistServices := [] }
  terminations := 0
  stops := 0
  isRunning := true
  isDestroyed := false
  launches := 0
  dropped := []
  trace := [.onCreate]

variable (thread : ApplicationThread)

/-- Something happens to an activity. -/
def observe
    (activity : ClientActivity)
    (events : List ActivityEvent) : ApplicationThread :=
  { thread with
    trace :=
      thread.trace ++
        events.map (.activity activity.serial activity.token) }

/-- `Application::findActivity`. -/
def findActivity (token : Nat) : Option ClientActivity :=
  thread.mExistActivities.find? (·.token == token)

/-- `Application::addActivity`; `insert` does not replace what is there. -/
def addActivity (activity : ClientActivity) : ApplicationThread :=
  match thread.findActivity activity.token with
  | some _ =>
      { thread with dropped := activity :: thread.dropped }
  | none =>
      { thread with
        mExistActivities :=
          thread.mExistActivities.orderedInsert
            (fun first second => first.token ≤ second.token) activity }

/-- `Application::deleteActivity`. -/
def deleteActivity (token : Nat) : ApplicationThread :=
  { thread with
    mExistActivities :=
      thread.mExistActivities.eraseP (·.token == token) }

/-- The record of an activity runs a handler. -/
def handle
    (activity : ClientActivity)
    (effect : ClientEffect) : ApplicationThread :=
  let changed :=
    { thread with
      mExistActivities :=
        thread.mExistActivities.map fun other : ClientActivity =>
          if other.token = activity.token then
            { other with record := effect.record }
          else other }
  changed.observe activity (effect.events activity.mWindow true)

/-- `ApplicationThreadStub::onLaunchActivity`. -/
def onLaunchActivity
    (activityName : String)
    (token : Nat)
    (intent : Intent)
    (mWindow attached : Bool) : ApplicationThread :=
  if activityName ∈ thread.mActivityMap then
    let fresh := ActivityClientRecord.fresh activityName
    let effect := fresh.onCreate intent attached
    let activity : ClientActivity :=
      { serial := thread.launches
        token := token
        record := effect.record
        mWindow := mWindow }
    let launched :=
      { thread with launches := thread.launches + 1 }.observe activity
        (.newWindow mWindow :: effect.events mWindow attached)
    if attached then launched.addActivity activity else launched
  else
    thread

/--
The common shape of `onStartActivity` to `onStopActivity`: a token that is not
found is ignored.
-/
def withActivity
    (token : Nat)
    (handler : ActivityClientRecord → ClientEffect) : ApplicationThread :=
  match thread.findActivity token with
  | some activity => thread.handle activity (handler activity.record)
  | none => thread

/-- `ApplicationThreadStub::onDestroyActivity`. -/
def onDestroyActivity (token : Nat) : ApplicationThread :=
  match thread.findActivity token with
  | some activity =>
      (thread.handle activity activity.record.onDestroy).deleteActivity
        token
  | none =>
      thread

/-- `ApplicationThreadStub::onActivityResult`. -/
def onActivityResult
    (token : Nat)
    (requestCode resultCode : Int)
    (resultData : Intent) : ApplicationThread :=
  match thread.findActivity token with
  | some activity =>
      thread.observe activity
        [.onActivityResult requestCode resultCode resultData]
  | none =>
      thread

/-- A call about a service. -/
def onService
    (serviceBinder : Option Nat)
    (call : ServiceCall) : ApplicationThread :=
  { thread with
    mApp := (thread.mApp.onCall serviceBinder call).1
    trace :=
      thread.trace ++
        match thread.mApp.callEvents serviceBinder call with
        | some (token, events) => events.map (.service token)
        | none => [] }

/-- `ApplicationThreadStub::scheduleReceiveIntent`. -/
def scheduleReceiveIntent
    (intent : Intent) :
    PostToken → ApplicationThread
  | .application _ =>
      { thread with trace := thread.trace ++ [.onReceiveIntent intent] }
  | .activity token =>
      match thread.findActivity token with
      | some activity =>
          thread.observe activity
            (ClientActivity.handleReceiveIntent intent)
      | none =>
          thread
  | .service token =>
      match thread.mApp.findService token with
      | some _ =>
          { thread with
            trace :=
              thread.trace ++ [.service token (.onReceiveIntent intent)] }
      | none =>
          thread

/-- `ApplicationThreadStub::setForegroundApplication`. -/
def setForegroundApplication (isForeground : Bool) : ApplicationThread :=
  { thread with
    trace :=
      thread.trace ++
        [if isForeground then .onForeground else .onBackground] }

/-- `Application::clearActivityAndService`. -/
def clearActivityAndService : ApplicationThread :=
  { thread with
    mExistActivities := []
    mApp := { thread.mApp with mExistServices := [] }
    trace :=
      thread.trace ++
        thread.mExistActivities.flatMap (fun activity =>
          activity.clearEvents.map
            (.activity activity.serial activity.token)) ++
        thread.mApp.mExistServices.flatMap fun record =>
          record.clearEvents.map (.service record.mToken) }

/-- What the process does with a call of the server. -/
def onCall
    (mWindow attached : Bool) :
    Call → ApplicationThread
  | .scheduleLaunchActivity _ activityName token intent =>
      thread.onLaunchActivity activityName token intent mWindow attached
  | .scheduleStartActivity _ token intent =>
      thread.withActivity token (·.onStart intent)
  | .scheduleResumeActivity _ token intent =>
      thread.withActivity token (·.onResume intent)
  | .schedulePauseActivity _ token =>
      thread.withActivity token (·.onPause)
  | .scheduleStopActivity _ token =>
      thread.withActivity token (·.onStop)
  | .scheduleDestroyActivity _ token =>
      thread.onDestroyActivity token
  | .setForegroundApplication _ isForeground =>
      thread.setForegroundApplication isForeground
  | .terminateApplication _ =>
      { thread with terminations := thread.terminations + 1 }
  | _ =>
      thread

end ApplicationThread

/-- What can happen to a process. -/
inductive ApplicationAction where
  /-- A call, and what the window manager answers to a launch. -/
  | call (call : Call) (mWindow attached : Bool)
  | onActivityResult
      (token : Nat)
      (requestCode resultCode : Int)
      (resultData : Intent)
  | service (call : ServiceCall) (serviceBinder : Option Nat)
  | scheduleReceiveIntent (token : PostToken) (intent : Intent)
  | sigterm
  /-- The delayed task of `terminateApplication`. -/
  | terminate
  /-- The delayed task of `stop`. -/
  | stop
  /-- The loop has ended, and `mainRun` goes on. -/
  | leaveLoop
  deriving Repr, DecidableEq


namespace ApplicationThread

variable (thread : ApplicationThread)

/-- What an action does when it happens. -/
def perform : ApplicationAction → ApplicationThread
  | .call call mWindow attached =>
      thread.onCall mWindow attached call
  | .onActivityResult token requestCode resultCode resultData =>
      thread.onActivityResult token requestCode resultCode resultData
  | .service call serviceBinder =>
      thread.onService serviceBinder call
  | .scheduleReceiveIntent token intent =>
      thread.scheduleReceiveIntent intent token
  | .sigterm =>
      { thread.clearActivityAndService with stops := thread.stops + 1 }
  | .terminate =>
      { thread.clearActivityAndService with
        terminations := thread.terminations - 1
        isRunning := false }
  | .stop =>
      { thread with
        stops := thread.stops - 1
        isRunning := false }
  | .leaveLoop =>
      { thread with
        isDestroyed := true
        trace := thread.trace ++ [.onDestroy] }

/--
The action can happen.  Delayed tasks also run while the loop is closed; calls
and signals are not waited for any more then.
-/
def canPerform : ApplicationAction → Bool
  | .terminate => 0 < thread.terminations
  | .stop => 0 < thread.stops
  | .leaveLoop => !thread.isRunning && !thread.isDestroyed
  | _ => !thread.isDestroyed

/-- Perform one step. -/
def step? (action : ApplicationAction) : Option ApplicationThread :=
  if thread.canPerform action then some (thread.perform action) else none

end ApplicationThread

end ActivityManager
