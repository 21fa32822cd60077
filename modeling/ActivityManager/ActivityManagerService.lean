import ActivityManager.BroadcastReceivers
import ActivityManager.PostIntent
import ActivityManager.UniqueProcess

/-!
# The interface of the service

The calls of `IActivityManager`, what `systemReady` starts, and the handler of
processes that exit.  They look up the activities, services and packages that
their arguments name, and then do what `ActivityManagerInner` can do; on the
way the service broadcasts which applications start and exit and which
activity is on top, and hands results to the activities that wait for them.

Requests that start something take what their surroundings answer with them: a
`Launch` says whether there is memory for a new process and which pid it gets.
-/

namespace ActivityManager

/-- `isOkToLaunch`, and what `appSpawn` returns. -/
structure Launch where
  isOkToLaunch : Bool
  spawned : Option Nat
  deriving Repr, DecidableEq

/-- A token of a component. -/
inductive ComponentToken where
  | activity (activity : Nat)
  | service (token : Nat)
  deriving Repr, DecidableEq

/-- A call of `onActivityResult` that an application receives. -/
structure ActivityResult where
  app : Nat
  mToken : Nat
  requestCode : Int
  resultCode : Int
  resultData : Intent
  deriving Repr, DecidableEq

/-- `ActivityManager::NO_REQUEST`. -/
def noRequest : Int := -1

namespace Intent

/-- `Intent::FLAG_APP_MOVE_BACK`. -/
def flagAppMoveBack : Nat := 1025

/-- `Intent::ACTION_BOOT_READY`. -/
def actionBootReady : String := "action.system.BOOT_READY"

/-- `Intent::ACTION_BOOT_COMPLETED`. -/
def actionBootCompleted : String := "action.system.BOOT_COMPLETED"

/-- `Intent::ACTION_HOME`. -/
def actionHome : String := "action.system.HOME"

/-- `Intent::ACTION_BOOT_GUIDE`. -/
def actionBootGuide : String := "action.system.BOOT_GUIDE"

/-- `Intent::BROADCAST_APP_START`. -/
def broadcastAppStart : String := "broadcast.system.APP_START"

/-- `Intent::BROADCAST_APP_EXIT`. -/
def broadcastAppExit : String := "broadcast.system.APP_EXIT"

/-- `Intent::BROADCAST_TOP_ACTIVITY`. -/
def broadcastTopActivity : String := "broadcast.system.TOP_ACTIVITY"

/-- A new intent with an action and with data. -/
def ofAction (action mData : String) : Intent where
  mTarget := ""
  mAction := action
  mData := mData
  mFlag := 0

end Intent

namespace ActivityManagerInner

/-- The tasks that somebody keeps: a list, or a startup in progress. -/
def keptTasks (inner : ActivityManagerInner) : List Nat :=
  let lists := inner.manager.lists
  lists.mAllTasks ++ lists.mHomeTask.toList ++ inner.manager.heldTasks ++
    inner.systemUI.mSystemUITasks ++
    inner.mPendTask.mTasklist.filterMap fun handler =>
      match handler.mTask.mCallback with
      | .startActivity _ targetTask _ _ _ =>
          if handler.mIsDone then none else targetTask
      | .startService _ _ _ _ => none

/-- `ActivityRecord::getTask`. -/
def getTask
    (inner : ActivityManagerInner)
    (activity : Nat) : Option Nat :=
  (inner.manager.activities activity).bind fun record =>
    if record.mInTask ∈ inner.keptTasks then some record.mInTask else none

/-- `getRootActivity` of a task, which one task manager has. -/
def getRootActivity
    (inner : ActivityManagerInner)
    (task : Nat) : Option Nat :=
  (inner.activityArray true task ++ inner.activityArray false task).head?

/-- The name of the application of a process. -/
def appName
    (inner : ActivityManagerInner)
    (pid : Nat) : Option String :=
  (inner.findAppInfo pid).bind fun app =>
    (inner.manager.apps app).map AppRecord.mPackageName

end ActivityManagerInner

/-- `ActivityManagerInner` with what its interface adds. -/
structure ActivityManagerService where
  inner : ActivityManagerInner
  mReceivers : Receivers
  /-- `mCaller` and `mRequestCode` of the activities. -/
  mCaller : Nat → Option Nat
  mRequestCode : Nat → Int
  mRunMode : Int
  /-- `receiveBroadcast` calls. -/
  deliveries : List Delivery
  results : List ActivityResult
  posted : List PostedIntent
  /-- Ghost: what the service itself has broadcast. -/
  announced : List Intent
  /-- Ghost: what was done to `inner`. -/
  history : List InnerAction

namespace ActivityManagerService

/-- A new service. -/
def start
    (lines : List LmkRow)
    (arena : Int)
    (now : Nat)
    (mRunMode : Int) : ActivityManagerService where
  inner := .start lines arena now
  mReceivers := .empty
  mCaller := fun _ => none
  mRequestCode := fun _ => noRequest
  mRunMode := mRunMode
  deliveries := []
  results := []
  posted := []
  announced := []
  history := []

section

variable (service : ActivityManagerService)

/-- `inner` has performed an action. -/
def become
    (action : InnerAction)
    (inner : ActivityManagerInner) : ActivityManagerService :=
  { service with
    inner := inner
    history := service.history ++ [action] }

/-- `inner` performs an action. -/
def act (action : InnerAction) : Option ActivityManagerService :=
  (service.inner.step? action).map (service.become action)

/-! ## Broadcasts -/

/-- `ActivityManagerInner::sendBroadcast`. -/
def sendBroadcast (intent : Intent) : ActivityManagerService :=
  { service with
    deliveries :=
      service.deliveries ++ service.mReceivers.sendBroadcast intent }

/-- A broadcast of the service itself. -/
def announce (action mData : String) : ActivityManagerService :=
  let intent := Intent.ofAction action mData
  { service.sendBroadcast intent with
    announced := service.announced ++ [intent] }

/-! ## Processes that attach -/

/-- `ActivityManagerInner::attachApplication`. -/
def attachApplication
    (callerPid : Nat)
    (isSystemUI : Bool) : Option ActivityManagerService :=
  match service.inner.findAppInfo callerPid with
  | some _ =>
      some service
  | none =>
      match service.inner.getAttachingAppName callerPid with
      | some packageName => do
          let attached ←
            service.act (.attachApplication callerPid isSystemUI)
          some (attached.announce Intent.broadcastAppStart packageName)
      | none =>
          some service

/-! ## Activities -/

/-- The arguments of the constructor that a new activity keeps. -/
def keepRequest
    (before : ActivityManagerInner)
    (caller : Option Nat)
    (requestCode : Int) : ActivityManagerService :=
  let newActivity := before.manager.nextActivity
  if service.inner.manager.nextActivity = newActivity then
    service
  else
    { service with
      mCaller := Function.update service.mCaller newActivity caller
      mRequestCode :=
        Function.update service.mRequestCode newActivity requestCode }

/-- `ActivityManagerInner::startActivity`; it returns whether it succeeds. -/
def startActivity
    (packages : List PackageInfo)
    (caller : Option Nat)
    (intent : Intent)
    (requestCode : Int)
    (launch : Launch) : Option (ActivityManagerService × Bool) :=
  match (PackageLookups.ofPackages packages .activity).intentToSingleTarget
      intent with
  | none =>
      some (service, false)
  | some (activityName, packageInfo) => do
      let (inner, route) ←
        service.inner.startActivity activityName packageInfo intent caller
          launch.isOkToLaunch launch.spawned
      let started :=
        service.become
          (.startActivity activityName packageInfo intent caller
            launch.isOkToLaunch launch.spawned)
          inner
      some
        (started.keepRequest service.inner caller requestCode, route.isOk)

/-- `getActivity`, for a token that may be null. -/
def getActivity (token : Option Nat) : Option Nat :=
  token.filter (· ∈ service.inner.manager.mActivityMap)

/-- `ActivityRecord::onResult`. -/
def onResult
    (activity : Nat)
    (requestCode resultCode : Int)
    (resultData : Intent) : ActivityManagerService :=
  match service.inner.manager.getAppRecord activity with
  | some (app, record) =>
      if record.mStatus ≠ .appStopped then
        { service with
          results :=
            service.results ++
              [{ app := app
                 mToken := activity
                 requestCode := requestCode
                 resultCode := resultCode
                 resultData := resultData }] }
      else
        service
  | none =>
      service

/-- The result of an activity goes to its caller, if that asked for one. -/
def sendResult
    (activity : Nat)
    (resultCode : Int)
    (resultData : Intent) : ActivityManagerService :=
  match service.getActivity (service.mCaller activity) with
  | some callActivity =>
      if service.mRequestCode activity ≠ noRequest then
        service.onResult callActivity (service.mRequestCode activity)
          resultCode resultData
      else
        service
  | none =>
      service

/-- The result, if there is one, goes to the caller. -/
def sendResultData
    (activity : Nat)
    (resultCode : Int) :
    Option Intent → ActivityManagerService
  | some data => service.sendResult activity resultCode data
  | none => service

/-- `taskmanager->finishActivity(activity)`. -/
def finish
    (isSystemUI : Bool)
    (activity : Nat) : Option ActivityManagerService :=
  if isSystemUI then
    service.act (.finishSystemUIActivity activity)
  else
    service.act (.manager (.finishActivity activity))

/-- `taskmanager->moveTaskToBackground(task)`. -/
def moveTask
    (isSystemUI : Bool)
    (task : Nat) : Option ActivityManagerService :=
  if isSystemUI then
    service.act (.moveSystemUIToBackground task)
  else
    service.act (.manager (.moveTaskToBackground task))

/-- What the task managers' `moveTaskToBackground` returns. -/
def canMoveTask (isSystemUI : Bool) (task : Nat) : Bool :=
  if isSystemUI then
    (service.inner.systemUI.moveTaskToBackground task
      service.inner.manager).isSome
  else
    (service.inner.manager.moveTaskToBackground task).any Prod.snd

/-- `ActivityManagerInner::finishActivity`. -/
def finishActivity
    (token : Nat)
    (resultCode : Int)
    (resultData : Option Intent) :
    Option (ActivityManagerService × Bool) :=
  if token ∈ service.inner.manager.mActivityMap then do
    let told := service.sendResultData token resultCode resultData
    let (_, appRecord) ← told.inner.manager.getAppRecord token
    let finished ← told.finish appRecord.mIsSystemUI token
    some (finished, true)
  else
    some (service, false)

/-- `stopActivity` moves the task of an application if it is active. -/
def movePackage (record : AppRecord) : Option ActivityManagerService :=
  match service.inner.getActiveTask record.mIsSystemUI with
  | some task =>
      if service.inner.mTag task = record.mPackageName then
        service.moveTask record.mIsSystemUI task
      else
        some service
  | none =>
      some service

/-- `stopActivity` for the target of a package that is not a component. -/
def stopPackage
    (app : Nat)
    (record : AppRecord)
    (mFlag : Nat) : Option ActivityManagerService := do
  let moved ← service.movePackage record
  if mFlag ≠ Intent.flagAppMoveBack then
    moved.act (.stopApplication app)
  else
    some moved

/-- `ActivityManagerInner::stopActivity`; the intent is the result. -/
def stopActivity
    (intent : Intent)
    (resultCode : Int) : Option (ActivityManagerService × Bool) :=
  if intent.mTarget.isEmpty then
    some (service, false)
  else
    let names := getPackageAndComponentName intent.mTarget
    match service.inner.findAppInfoWithAlive names.1 with
    | some app => do
        let record ← service.inner.manager.apps app
        if names.2.isEmpty then
          let stopped ← service.stopPackage app record intent.mFlag
          some (stopped, true)
        else
          match ← service.inner.checkActivity record intent.mTarget with
          | some activity => do
              let told := service.sendResult activity resultCode intent
              let finished ← told.finish record.mIsSystemUI activity
              some (finished, true)
          | none =>
              some (service, false)
    | none =>
        some (service, true)

/-- `stopApplication` moves the task of an activity if it is active. -/
def moveActiveTask
    (activity : Nat)
    (isSystemUI : Bool) : Option ActivityManagerService :=
  match service.inner.getTask activity with
  | some task =>
      if service.inner.getActiveTask isSystemUI = some task then
        service.moveTask isSystemUI task
      else
        some service
  | none =>
      some service

/-- `ActivityManagerInner::stopApplication`. -/
def stopApplication :
    ComponentToken → Option (ActivityManagerService × Bool)
  | .activity activity =>
      if activity ∈ service.inner.manager.mActivityMap then do
        let (app, appRecord) ←
          service.inner.manager.getAppRecord activity
        let moved ←
          service.moveActiveTask activity appRecord.mIsSystemUI
        let stopped ← moved.act (.stopApplication app)
        some (stopped, true)
      else
        some (service, false)
  | .service token =>
      match getService service.inner.mServices token with
      | some record =>
          if (service.inner.manager.apps record.mApp).isSome then
            (service.act (.stopApplication record.mApp)).map (·, true)
          else
            some (service, false)
      | none =>
          some (service, false)

/-- `ActivityManagerInner::moveActivityTaskToBackground`. -/
def moveActivityTaskToBackground
    (token : Nat)
    (nonRoot : Bool) : Option (ActivityManagerService × Bool) :=
  if token ∈ service.inner.manager.mActivityMap then
    match service.inner.getTask token with
    | some task =>
        if nonRoot ∨ service.inner.getRootActivity task = some token then do
          let (_, appRecord) ← service.inner.manager.getAppRecord token
          let moved ← service.moveTask appRecord.mIsSystemUI task
          some (moved, service.canMoveTask appRecord.mIsSystemUI task)
        else
          some (service, false)
    | none =>
        some (service, false)
  else
    some (service, false)

/--
The name that `reportActivityStatus` broadcasts, if any, when its event has
been triggered.
-/
def topActivityName
    (token : Nat)
    (status : Status) : Option String :=
  (service.inner.manager.getAppRecord token).bind fun app =>
    let isSystemUI := app.2.mIsSystemUI
    if status = Status.resumed then
      (service.inner.getActiveTask isSystemUI).bind fun task =>
        if (service.inner.activityArray isSystemUI task).getLast? =
            some token then
          service.inner.activityName token
        else
          none
    else if status = Status.stopped ∧ isSystemUI then
      service.inner.getTopActivity.bind service.inner.activityName
    else
      none

/-- `ActivityManagerInner::reportActivityStatus`. -/
def reportActivityStatus
    (token : Nat)
    (status : Status) : Option ActivityManagerService :=
  if token ∈ service.inner.manager.mActivityMap then do
    let triggered ←
      service.inner.manager.eventTrigger
        (.activityStatusReport status token)
    let isTop :=
      { service with
        inner := { service.inner with manager := triggered }
      }.topActivityName token status
    let told :=
      match isTop with
      | some name => service.announce Intent.broadcastTopActivity name
      | none => service
    told.act (.manager (.reportActivityStatus token status))
  else
    some service

/-! ## Services -/

/-- `startServiceReal`, for `isBind` or not. -/
def startServiceReal
    (serviceName : String)
    (packageInfo : PackageInfo)
    (intent : Intent)
    (launch : Launch) :
    ServiceRequest → Option (ActivityManagerService × Bool)
  | .start => do
      let (inner, route) ←
        service.inner.startServiceReal serviceName packageInfo intent .start
          launch.spawned
      some
        (service.become
          (.startService serviceName packageInfo intent launch.spawned)
          inner,
          route.isOk)
  | .bind conn => do
      let (inner, route) ←
        service.inner.startServiceReal serviceName packageInfo intent
          (.bind conn) launch.spawned
      some
        (service.become
          (.bindService serviceName packageInfo intent conn launch.spawned)
          inner,
          route.isOk)

/-- `ActivityManagerInner::startService` and `bindService`. -/
def requestService
    (packages : List PackageInfo)
    (intent : Intent)
    (request : ServiceRequest)
    (launch : Launch) : Option (ActivityManagerService × Bool) :=
  match (PackageLookups.ofPackages packages .service).intentToSingleTarget
      intent with
  | none =>
      some (service, false)
  | some (serviceName, packageInfo) =>
      service.startServiceReal serviceName packageInfo intent launch request

/-- `ActivityManagerInner::stopService`. -/
def stopService
    (packages : List PackageInfo)
    (intent : Intent) : Option (ActivityManagerService × Bool) :=
  match (PackageLookups.ofPackages packages .service).intentToSingleTarget
      intent with
  | none =>
      some (service, false)
  | some (serviceName, packageInfo) =>
      let (inner, isRunning) :=
        service.inner.stopService packageInfo serviceName
      some
        (service.become (.stopService packageInfo serviceName) inner,
          isRunning)

/-- `ActivityManagerInner::postIntent`. -/
def postIntent
    (intent : Intent) : Option (ActivityManagerService × Int) := do
  let (code, posted) ← service.inner.postIntent intent
  some ({ service with posted := service.posted ++ posted }, code)

/-! ## Components that the service starts -/

/-- `startActivityReal` without a caller. -/
def startActivityReal
    (activityName : String)
    (packageInfo : PackageInfo)
    (intent : Intent)
    (launch : Launch) : Option ActivityManagerService := do
  let action :=
    InnerAction.startActivityReal activityName packageInfo intent none
      launch.isOkToLaunch launch.spawned
  let started ← service.act action
  some (started.keepRequest service.inner none noRequest)

/-- One component of `broadcastIntent`. -/
def startComponent
    (type : ComponentType)
    (intent : Intent)
    (component : String × PackageInfo)
    (launch : Launch) : Option ActivityManagerService :=
  match type with
  | .activity =>
      service.startActivityReal component.1 component.2 intent launch
  | .service =>
      (service.startServiceReal component.1 component.2 intent launch
        .start).map Prod.fst

end

/-- The loop of `broadcastIntent`. -/
def startComponents
    (type : ComponentType)
    (intent : Intent)
    (launches : Nat → Launch) :
    List ((String × PackageInfo) × Nat) → ActivityManagerService →
      Option ActivityManagerService
  | [], service =>
      some service
  | (component, i) :: rest, service => do
      let started ←
        service.startComponent type intent component (launches i)
      startComponents type intent launches rest started

section

variable (service : ActivityManagerService)

/-- `ActivityManagerInner::broadcastIntent`. -/
def broadcastIntent
    (packages : List PackageInfo)
    (type : ComponentType)
    (intent : Intent)
    (launches : Nat → Launch) : Option ActivityManagerService :=
  match (PackageLookups.ofPackages packages type).intentToMultiTarget
      (IntentAction.getMultiTargetByAction packages · type) intent with
  | none =>
      some service
  | some components =>
      startComponents type intent launches components.zipIdx service

/-- `ActivityManagerInner::startHomeActivity`. -/
def startHomeActivity
    (packages : List PackageInfo)
    (launch : Launch) : Option (ActivityManagerService × Bool) :=
  service.startActivity packages none
    (Intent.ofAction Intent.actionHome "") noRequest launch

/-- `ActivityManagerInner::startBootGuide`. -/
def startBootGuide
    (packages : List PackageInfo)
    (isComplete : Bool)
    (launch : Launch) : Option (ActivityManagerService × Bool) :=
  if isComplete then
    some (service, false)
  else
    service.startActivity packages none
      (Intent.ofAction Intent.actionBootGuide "") noRequest launch

/-- The two calls of `broadcastIntent` for an action of the boot. -/
def broadcastBoot
    (packages : List PackageInfo)
    (action : String)
    (launches : ComponentType → Nat → Launch) :
    Option ActivityManagerService := do
  let intent := Intent.ofAction action ""
  let served ←
    service.broadcastIntent packages .service intent (launches .service)
  served.broadcastIntent packages .activity intent (launches .activity)

/-- What the components that `systemReady` starts get. -/
structure BootLaunches where
  /-- `usersetup_complete`. -/
  isComplete : Bool
  ready : ComponentType → Nat → Launch
  guide : Launch
  home : Launch
  completed : ComponentType → Nat → Launch

/-- The boot guide, or the home activity if it does not start. -/
def startFirst
    (packages : List PackageInfo)
    (launches : BootLaunches) : Option ActivityManagerService := do
  let (guided, isGuided) ←
    service.startBootGuide packages launches.isComplete launches.guide
  if isGuided then
    some guided
  else
    (guided.startHomeActivity packages launches.home).map Prod.fst

/-- `ActivityManagerInner::systemReady`, after `signalInit`. -/
def systemReady
    (packages : List PackageInfo)
    (launches : BootLaunches) : Option ActivityManagerService :=
  if 0 < service.mRunMode then
    some service
  else do
    let ready ←
      service.broadcastBoot packages Intent.actionBootReady launches.ready
    let shown ← ready.startFirst packages launches
    shown.broadcastBoot packages Intent.actionBootCompleted
      launches.completed

/-- The broadcast of an exit, if an application has exited. -/
def announceExit (name : Option String) : ActivityManagerService :=
  match name with
  | some packageName =>
      service.announce Intent.broadcastAppExit packageName
  | none => service

/-- The home activity starts again if the normal mode has no active task. -/
def restartHome
    (packages : List PackageInfo)
    (launch : Launch) : Option ActivityManagerService :=
  if service.inner.getActiveTask false = none ∧ service.mRunMode = 0 then
    (service.startHomeActivity packages launch).map Prod.fst
  else
    some service

/-- The callback that `systemReady` gives to `signalInit`. -/
def childExit
    (packages : List PackageInfo)
    (pid : Nat)
    (launch : Launch) : Option ActivityManagerService := do
  let exited ← service.act (.childExit pid)
  (exited.announceExit (service.inner.appName pid)).restartHome packages launch

end

end ActivityManagerService

/-! ## Steps -/

/-- What can happen to the service: calls, processes, and its surroundings. -/
inductive ServiceAction where
  | attachApplication (callerPid : Nat) (isSystemUI : Bool)
  | startActivity
      (caller : Option Nat)
      (intent : Intent)
      (requestCode : Int)
      (launch : Launch)
  | stopActivity (intent : Intent) (resultCode : Int)
  | stopApplication (token : ComponentToken)
  | finishActivity
      (token : Nat)
      (resultCode : Int)
      (resultData : Option Intent)
  | moveActivityTaskToBackground (token : Nat) (nonRoot : Bool)
  | reportActivityStatus (token : Nat) (status : Status)
  | requestService
      (intent : Intent)
      (request : ServiceRequest)
      (launch : Launch)
  | stopService (intent : Intent)
  | stopServiceByToken (token : Nat)
  | unbindService (conn : Nat)
  | publishService (token : Nat) (serviceBinder : Option Nat)
  | reportServiceStatus (token : Nat) (status : ServiceStatus)
  | postIntent (intent : Intent)
  | sendBroadcast (intent : Intent)
  | registerReceiver (action : String) (receiver : Nat)
  | unregisterReceiver (receiver : Nat)
  | systemReady (launches : ActivityManagerService.BootLaunches)
  | childExit (pid : Nat) (launch : Launch)
  | timeout (serial : Nat)
  | clockAdvances (ms : Nat)
  | executeLMK (freememory maxblock : Int)
  /-- Startups begin and end, and keep other tasks alive. -/
  | holdTasks (tasks : List Nat)

namespace ActivityManagerService

/-- Perform one step; `packages` are those that are installed. -/
def step?
    (packages : List PackageInfo)
    (service : ActivityManagerService) :
    ServiceAction → Option ActivityManagerService
  | .attachApplication callerPid isSystemUI =>
      service.attachApplication callerPid isSystemUI
  | .startActivity caller intent requestCode launch =>
      (service.startActivity packages caller intent requestCode launch).map
        Prod.fst
  | .stopActivity intent resultCode =>
      (service.stopActivity intent resultCode).map Prod.fst
  | .stopApplication token =>
      (service.stopApplication token).map Prod.fst
  | .finishActivity token resultCode resultData =>
      (service.finishActivity token resultCode resultData).map Prod.fst
  | .moveActivityTaskToBackground token nonRoot =>
      (service.moveActivityTaskToBackground token nonRoot).map Prod.fst
  | .reportActivityStatus token status =>
      service.reportActivityStatus token status
  | .requestService intent request launch =>
      (service.requestService packages intent request launch).map Prod.fst
  | .stopService intent =>
      (service.stopService packages intent).map Prod.fst
  | .stopServiceByToken token =>
      service.act (.stopServiceByToken token)
  | .unbindService conn =>
      service.act (.unbindService conn)
  | .publishService token serviceBinder =>
      service.act (.publishService token serviceBinder)
  | .reportServiceStatus token status =>
      service.act (.reportServiceStatus token status)
  | .postIntent intent =>
      (service.postIntent intent).map Prod.fst
  | .sendBroadcast intent =>
      some (service.sendBroadcast intent)
  | .registerReceiver action receiver =>
      some
        { service with
          mReceivers := service.mReceivers.registerReceiver action receiver }
  | .unregisterReceiver receiver =>
      some
        { service with
          mReceivers := service.mReceivers.unregisterReceiver receiver }
  | .systemReady launches =>
      service.systemReady packages launches
  | .childExit pid launch =>
      service.childExit packages pid launch
  | .timeout serial =>
      service.act (.manager (.timeout serial))
  | .clockAdvances ms =>
      service.act (.manager (.clockAdvances ms))
  | .executeLMK freememory maxblock =>
      service.act (.executeLMK freememory maxblock)
  | .holdTasks tasks =>
      service.act (.manager (.holdTasks tasks))

end ActivityManagerService

end ActivityManager
