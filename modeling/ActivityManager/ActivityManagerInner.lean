import ActivityManager.ProcessManagement
import ActivityManager.RecordMachine
import ActivityManager.ServiceRecord
import ActivityManager.SystemUIManager

/-!
# The service

`ActivityManagerInner` with everything it owns: the task managers, the list of
services, the application list and the processes that have not attached yet,
the tasks that wait for them, and the priority list.  The board holds tasks of
several kinds; an event meets tasks of its own kind only, so the attach tasks
are kept apart from the tasks of activities.  They are committed with the
longest limit there is and do not time out here.

A function has no result where the code would go through a null pointer.
-/

namespace ActivityManager

/-! ## Packages and requests -/

/-- `ActivityRecord::LaunchMode`. -/
inductive LaunchMode where
  | standard
  | singleTop
  | singleTask
  | singleInstance
  deriving Repr, DecidableEq

/-- `ActivityRecord::launchModeToInt`. -/
def LaunchMode.launchModeToInt (launchMode : String) : LaunchMode :=
  if launchMode = "standard" then .standard
  else if launchMode = "singleTask" then .singleTask
  else if launchMode = "singleTop" then .singleTop
  else if launchMode = "singleInstance" then .singleInstance
  else .standard

/-- `ActivityInfo`. -/
structure ActivityInfo where
  name : String
  launchMode : String
  taskAffinity : String
  actions : List String := []
  deriving Repr, DecidableEq

/-- `ServiceInfo`. -/
structure ServiceInfo where
  name : String
  priority : ProcessPriority
  actions : List String := []
  deriving Repr, DecidableEq

/-- The part of `PackageInfo` that the service reads. -/
structure PackageInfo where
  packageName : String
  entry : String
  appType : String
  isSystemUI : Bool
  priority : ProcessPriority
  activitiesInfo : List ActivityInfo
  servicesInfo : List ServiceInfo
  deriving Repr, DecidableEq

/-- `APP_TYPE_QUICK`. -/
def appTypeQuick : String := "QUICKAPP"

/-- `VSERVICE_EXEC_NAME`. -/
def vserviceExecName : String := "vservice"

/-- `servicePackageName`: a service may run in a process of its own. -/
def PackageInfo.servicePackageName (packageInfo : PackageInfo) : String :=
  if packageInfo.appType = appTypeQuick then
    vserviceExecName ++ ":" ++ packageInfo.packageName
  else
    packageInfo.packageName

/-- `Intent::FLAG_ACTIVITY_NEW_TASK`. -/
def flagActivityNewTask : Nat := 1

/-- `Intent::FLAG_ACTIVITY_SINGLE_TOP`. -/
def flagActivitySingleTop : Nat := 2

/-- What `startServiceReal` does with a service: `isBind` and `conn`. -/
inductive ServiceRequest where
  | start
  | bind (conn : Nat)
  deriving Repr, DecidableEq

/-- The closures that `AppAttachTask` keeps. -/
inductive AttachCallback where
  | startActivity
      (isSystemUI : Bool)
      (targetTask : Option Nat)
      (newActivity startFlag : Nat)
      (priority : ProcessPriority)
  | startService
      (serviceName : String)
      (intent : Intent)
      (priority : ProcessPriority)
      (request : ServiceRequest)
  deriving Repr, DecidableEq

/-- `AppAttachTask`. -/
structure AppAttachTask where
  mPid : Nat
  mCallback : AttachCallback
  /-- Ghost: the process name that it was submitted for. -/
  processName : String
  deriving Repr, DecidableEq

/-- `AppAttachTask::Event`. -/
structure AppAttachEvent where
  mPid : Nat
  mAppRecord : Nat
  deriving Repr, DecidableEq

instance : BoardLabels AppAttachTask AppAttachEvent where
  equalsLabel task e := task.mPid == e.mPid
  mType _ := .multiTrigger

/-- Ghost: a callback that was run, and with which application. -/
structure Served where
  serial : Nat
  task : AppAttachTask
  app : Nat
  mPackageName : String
  deriving Repr, DecidableEq

/-- Where a request has gone. -/
inductive Route where
  | rejected
  /-- To activities that exist. -/
  | activities (tokens : List Nat)
  /-- To a new activity of a running process. -/
  | newActivity (token : Nat)
  | service (token : Nat)
  /-- To a process that is waiting to attach. -/
  | attaching (pid : Nat)
  deriving Repr, DecidableEq

/-- The return code is `OK`. -/
def Route.isOk : Route → Bool
  | .rejected => false
  | _ => true

/-! ## State -/

/-- `ActivityManagerInner`. -/
structure ActivityManagerInner where
  manager : TaskStackManager
  systemUI : SystemUIManager
  mServices : List ServiceRecord
  mAppList : List Nat
  mAppWaitingAttach : List (String × Nat)
  mPendTask : TaskBoard AppAttachTask
  mPriorityPolicy : ProcessPriorityPolicy
  /-- `mTag` of the tasks. -/
  mTag : Nat → String
  nextTask : Nat
  /-- `mLaunchMode` of the activities. -/
  mLaunchMode : Nat → LaunchMode
  nextToken : Nat
  calls : List ServiceCall
  served : List Served

namespace ActivityManagerInner

/-- A new service. -/
def start
    (lines : List LmkRow)
    (arena : Int)
    (now : Nat) : ActivityManagerInner where
  manager := .start now
  systemUI := .empty
  mServices := []
  mAppList := []
  mAppWaitingAttach := []
  mPendTask := .startWork false now
  mPriorityPolicy := .empty (.init lines arena)
  mTag := fun _ => ""
  nextTask := 0
  mLaunchMode := fun _ => .standard
  nextToken := 0
  calls := []
  served := []

/--
The task manager has done something; the priority list has received its
calls.
-/
def withManager
    (inner : ActivityManagerInner)
    (manager : TaskStackManager) : Option ActivityManagerInner := do
  let mPriorityPolicy ←
    ManagedProcesses.deliver
      (manager.calls.drop inner.manager.calls.length)
      inner.mPriorityPolicy
  some
    { inner with
      manager := manager
      mPriorityPolicy := mPriorityPolicy }

/-! ## `AppInfoList` -/

/-- `AppInfoList::findAppInfo`. -/
def findAppInfo
    (inner : ActivityManagerInner)
    (pid : Nat) : Option Nat :=
  inner.mAppList.find? fun app =>
    (inner.manager.apps app).any (·.mPid = pid)

/-- `AppInfoList::findAppInfoWithAlive` by package name. -/
def findAppInfoWithAlive
    (inner : ActivityManagerInner)
    (packageName : String) : Option Nat :=
  inner.mAppList.find? fun app =>
    (inner.manager.apps app).any fun record =>
      record.mPackageName = packageName ∧ record.mStatus = .appRunning

/-- `AppInfoList::getAttachingAppPid`. -/
def getAttachingAppPid
    (inner : ActivityManagerInner)
    (packageName : String) : Option Nat :=
  (inner.mAppWaitingAttach.find? (·.1 == packageName)).map Prod.snd

/-- `AppInfoList::getAttachingAppName`. -/
def getAttachingAppName
    (inner : ActivityManagerInner)
    (pid : Nat) : Option String :=
  (inner.mAppWaitingAttach.find? (·.2 == pid)).map Prod.fst

/-- `AppInfoList::deleteAppWaitingAttach`. -/
def deleteAppWaitingAttach
    (inner : ActivityManagerInner)
    (pid : Nat) : ActivityManagerInner :=
  { inner with
    mAppWaitingAttach :=
      swapRemove (·.2 == pid) inner.mAppWaitingAttach }

/-! ## Services -/

/-- An operation on a service of the list. -/
def onService
    (inner : ActivityManagerInner)
    (operate :
      ServiceRecord → Option AppRecord → ServiceEffect)
    (service : ServiceRecord) : ActivityManagerInner :=
  let effect := operate service (inner.manager.apps service.mApp)
  { inner with
    mServices := setService inner.mServices effect.service
    manager :=
      match effect.app with
      | some appRecord => inner.manager.setApp service.mApp appRecord
      | none => inner.manager
    calls := inner.calls ++ effect.calls }

/-- `service->start(intent)` or `service->bind(caller, conn, intent)`. -/
def requestService
    (inner : ActivityManagerInner)
    (service : ServiceRecord)
    (intent : Intent) :
    ServiceRequest → ActivityManagerInner
  | .start => inner.onService (ServiceRecord.start intent) service
  | .bind conn => inner.onService (ServiceRecord.bind conn intent) service

/-- `std::make_shared<ServiceRecord>` and `mServices.addService`. -/
def addService
    (inner : ActivityManagerInner)
    (service : ServiceRecord) : ActivityManagerInner :=
  { inner with
    mServices := inner.mServices ++ [service]
    nextToken := inner.nextToken + 1 }

/-- `ActivityManagerInner::stopServiceReal`. -/
def stopServiceReal
    (inner : ActivityManagerInner)
    (service : ServiceRecord) : ActivityManagerInner :=
  if service.mStatus < ServiceStatus.destroying then
    inner.onService ServiceRecord.stop service
  else
    inner

/-- `ActivityManagerInner::stopService`, with what it returns. -/
def stopService
    (inner : ActivityManagerInner)
    (packageInfo : PackageInfo)
    (serviceName : String) : ActivityManagerInner × Bool :=
  match findService inner.manager.apps inner.mServices
      packageInfo.servicePackageName serviceName with
  | some service => (inner.stopServiceReal service, true)
  | none => (inner, false)

/-- `ActivityManagerInner::stopServiceByToken`, with what it returns. -/
def stopServiceByToken
    (inner : ActivityManagerInner)
    (token : Nat) : Option (ActivityManagerInner × Bool) :=
  match getService inner.mServices token with
  | some service => do
      let _ ← service.getPackageName inner.manager.apps
      some (inner.stopServiceReal service, true)
  | none =>
      some (inner, false)

/-- The loop of `ServiceList::unbindConnection`. -/
def unbindAll
    (conn : Nat) :
    List Nat → ActivityManagerInner → ActivityManagerInner
  | [], inner =>
      inner
  | token :: rest, inner =>
      unbindAll conn rest
        (match getService inner.mServices token with
        | some service => inner.onService (ServiceRecord.unbind conn) service
        | none => inner)

/-- `ActivityManagerInner::unbindService`. -/
def unbindService
    (inner : ActivityManagerInner)
    (conn : Nat) : ActivityManagerInner :=
  unbindAll conn (inner.mServices.map ServiceRecord.mToken) inner

/-- `ActivityManagerInner::publishService`; the binder may be a null pointer. -/
def publishService
    (inner : ActivityManagerInner)
    (token : Nat)
    (serviceBinder : Option Nat) : ActivityManagerInner :=
  match getService inner.mServices token with
  | some service =>
      { inner with
        mServices :=
          setService inner.mServices
            { service with mServiceBinder := serviceBinder } }
  | none =>
      inner

/-- `checkActiveStatus`, and the application is stopped if it is idle. -/
def stopIfIdle
    (inner : ActivityManagerInner)
    (app : Nat) : ActivityManagerInner :=
  match inner.manager.apps app with
  | some appRecord =>
      if appRecord.checkActiveStatus then
        inner
      else
        { inner with manager := inner.manager.stopApp app appRecord }
  | none =>
      inner

/-- `service->mStatus = status`. -/
def setServiceStatus
    (inner : ActivityManagerInner)
    (token : Nat)
    (status : ServiceStatus) : ActivityManagerInner :=
  { inner with
    mServices :=
      inner.mServices.map fun service =>
        if service.mToken = token then { service with mStatus := status }
        else service }

/-- `ActivityManagerInner::reportServiceStatus`. -/
def reportServiceStatus
    (inner : ActivityManagerInner)
    (token : Nat)
    (status : ServiceStatus) : Option ActivityManagerInner :=
  match getService inner.mServices token with
  | some service => do
      let _ ← service.getPackageName inner.manager.apps
      if status = ServiceStatus.created ∨ status = ServiceStatus.started ∨
          status = ServiceStatus.binded then
        some (inner.setServiceStatus token status)
      else if status = ServiceStatus.unbinded then
        let inner :=
          if service.isAlive then inner
          else inner.onService ServiceRecord.stop service
        some (inner.setServiceStatus token status)
      else if status = ServiceStatus.destroyed then
        let inner :=
          { inner with
            mServices := deleteService inner.mServices token }
        some ((inner.stopIfIdle service.mApp).setServiceStatus token status)
      else
        some inner
  | none =>
      some inner

/-! ## Processes that start -/

/--
`ActivityManagerInner::submitAppStartupTask`, with the pid that the task waits
for.  `spawned` is what `appSpawn` returns; no result is a failure here.
-/
def submitAppStartupTask
    (inner : ActivityManagerInner)
    (processName : String)
    (task : AttachCallback)
    (isSupportMultiTask : Bool)
    (spawned : Option Nat) : Option (ActivityManagerInner × Nat) :=
  let commit (inner : ActivityManagerInner) (pid : Nat) :=
    { inner with
      mPendTask :=
        inner.mPendTask.commitTask
          { mPid := pid, mCallback := task, processName := processName }
          uintMax }
  match inner.getAttachingAppPid processName with
  | some pid =>
      if isSupportMultiTask then
        some (commit inner pid, pid)
      else
        none
  | none =>
      match spawned with
      | some pid =>
          let waiting :=
            { inner with
              mAppWaitingAttach :=
                inner.mAppWaitingAttach ++ [(processName, pid)] }
          some (commit waiting pid, pid)
      | none =>
          none

/-- `ActivityManagerInner::startServiceReal`. -/
def startServiceReal
    (inner : ActivityManagerInner)
    (serviceName : String)
    (packageInfo : PackageInfo)
    (intent : Intent)
    (request : ServiceRequest)
    (spawned : Option Nat) : Option (ActivityManagerInner × Route) :=
  match packageInfo.servicesInfo.find? (·.name == serviceName) with
  | none =>
      some (inner, .rejected)
  | some info =>
      let servicePackageName := packageInfo.servicePackageName
      match findService inner.manager.apps inner.mServices
          servicePackageName serviceName with
      | some service =>
          some
            (inner.requestService service intent request,
              .service service.mToken)
      | none =>
          match inner.findAppInfoWithAlive servicePackageName with
          | some app => do
              let appRecord ← inner.manager.apps app
              let mPriorityPolicy ←
                inner.mPriorityPolicy.raisePriorityLevel appRecord.mPid
                  info.priority
              let service :=
                ServiceRecord.fresh serviceName inner.nextToken
                  info.priority app
              let added :=
                { inner with
                  mPriorityPolicy := mPriorityPolicy }.addService service
              some
                (added.requestService service intent request,
                  .service service.mToken)
          | none =>
              match inner.submitAppStartupTask servicePackageName
                  (.startService serviceName intent info.priority request)
                  true spawned with
              | some (submitted, pid) => some (submitted, .attaching pid)
              | none => some (inner, .rejected)

/-! ## Activities that start -/

/-- `pushNewActivity` of a task manager. -/
def pushNewActivity
    (inner : ActivityManagerInner)
    (isSystemUI : Bool)
    (targetTask newActivity startFlag : Nat) :
    Option ActivityManagerInner :=
  if isSystemUI then do
    let shown ←
      SystemUIManager.showActivity newActivity inner.manager
    let inner ← inner.withManager shown
    some
      { inner with
        systemUI :=
          inner.systemUI.pushActivity inner.manager inner.mTag targetTask
            newActivity }
  else do
    let pushed ←
      inner.manager.pushNewActivity targetTask newActivity startFlag
    inner.withManager pushed

/-- `turnToActivity` of a task manager. -/
def turnToActivity
    (inner : ActivityManagerInner)
    (isSystemUI : Bool)
    (targetTask activity : Nat)
    (intent : Intent)
    (startFlag : Nat) : Option ActivityManagerInner := do
  let turned ←
    if isSystemUI then
      SystemUIManager.showActivity activity inner.manager
    else
      inner.manager.turnToActivity targetTask activity intent startFlag
  inner.withManager turned

/-- `switchTaskToActive` of a task manager. -/
def switchTaskToActive
    (inner : ActivityManagerInner)
    (isSystemUI : Bool)
    (task : Nat)
    (intent : Intent) : Option ActivityManagerInner := do
  let switched ←
    if isSystemUI then
      inner.systemUI.switchTaskToActive task intent inner.manager
    else
      inner.manager.switchTaskToActive task intent
  inner.withManager switched

/-- `findTask` of a task manager. -/
def findTask
    (inner : ActivityManagerInner)
    (isSystemUI : Bool)
    (tag : String) : Option Nat :=
  if isSystemUI then
    inner.systemUI.findTask inner.manager inner.mTag tag
  else
    inner.manager.findTask inner.mTag tag

/-- `getActiveTask` of a task manager. -/
def getActiveTask
    (inner : ActivityManagerInner)
    (isSystemUI : Bool) : Option Nat :=
  if isSystemUI then
    inner.systemUI.getActiveTask inner.manager
  else
    inner.manager.lists.getActiveTask

/-- The activities of a task, from its root. -/
def activityArray
    (inner : ActivityManagerInner)
    (isSystemUI : Bool)
    (task : Nat) : List Nat :=
  if isSystemUI then
    inner.systemUI.mStack task
  else
    (inner.manager.lists.stackOf task).reverse

/-- `mName` of an activity. -/
def activityName
    (inner : ActivityManagerInner)
    (activity : Nat) : Option String :=
  (inner.manager.activities activity).map ActivityRecord.mName

/-- The flags and the mode of a start, and the affinity of its task. -/
structure StartPlan where
  launchMode : LaunchMode
  taskAffinity : String
  startFlag : Nat
  deriving Repr, DecidableEq

/-- The first part of `startActivityReal`: flags that make sense. -/
def startPlan
    (inner : ActivityManagerInner)
    (packageInfo : PackageInfo)
    (info : ActivityInfo)
    (intent : Intent)
    (caller : Option Nat) : StartPlan :=
  let declared := LaunchMode.launchModeToInt info.launchMode
  let isEntry : Bool := info.name = packageInfo.entry
  let launchMode :=
    if isEntry ∧ declared ≠ .singleTask then .singleInstance
    else declared
  let callActivity :=
    caller.filter fun token => token ∈ inner.manager.mActivityMap
  let needsTask : Bool :=
    isEntry ∨ launchMode = .singleInstance ∨
      callActivity.all fun token =>
        inner.mLaunchMode token = .singleInstance
  { launchMode := launchMode
    taskAffinity :=
      if isEntry then packageInfo.packageName else info.taskAffinity
    startFlag :=
      if needsTask then intent.mFlag ||| flagActivityNewTask
      else intent.mFlag }

/-- The task for the activity, and whether it is new. -/
def targetTask
    (inner : ActivityManagerInner)
    (isSystemUI : Bool)
    (plan : StartPlan) :
    ActivityManagerInner × Option Nat × Bool :=
  if plan.startFlag &&& flagActivityNewTask ≠ 0 then
    match inner.findTask isSystemUI plan.taskAffinity with
    | some task =>
        (inner, some task, false)
    | none =>
        ({ inner with
            mTag :=
              Function.update inner.mTag inner.nextTask plan.taskAffinity
            nextTask := inner.nextTask + 1 },
          some inner.nextTask, true)
  else
    (inner, inner.getActiveTask isSystemUI, false)

/--
`targetActivity`, which only an existing task can have, with the flags that
go with the launch mode.
-/
def targetActivity
    (inner : ActivityManagerInner)
    (isSystemUI : Bool)
    (plan : StartPlan)
    (task : Option Nat)
    (isNewTask : Bool)
    (activityUniqueName : String) : Option (Option Nat × Nat) :=
  if isNewTask then
    some (none, plan.startFlag)
  else
    match plan.launchMode with
    | .singleTop => do
        let task ← task
        let top ← (inner.activityArray isSystemUI task).getLast?
        some
          (if inner.activityName top = some activityUniqueName then some top
            else none,
            plan.startFlag ||| flagActivitySingleTop)
    | .standard =>
        some (none, plan.startFlag)
    | _ => do
        let task ← task
        some
          ((inner.activityArray isSystemUI task).find? fun activity =>
              inner.activityName activity = some activityUniqueName,
            plan.startFlag ||| flagActivityClearTop)

/-- `std::make_shared<ActivityRecord>`, with its entry in `mActivityMap`. -/
def createActivity
    (inner : ActivityManagerInner)
    (activityUniqueName : String)
    (launchMode : LaunchMode)
    (task : Nat)
    (intent : Intent) : ActivityManagerInner :=
  { inner with
    manager :=
      inner.manager.createActivity activityUniqueName task intent
    mLaunchMode :=
      Function.update inner.mLaunchMode inner.manager.nextActivity
        launchMode }

/-- `setAppThread` and `pushNewActivity`. -/
def attachActivity
    (inner : ActivityManagerInner)
    (isSystemUI : Bool)
    (targetTask : Option Nat)
    (newActivity startFlag app : Nat) :
    Option ActivityManagerInner := do
  let task ← targetTask
  let manager ← inner.manager.setAppThread newActivity app
  { inner with manager := manager }.pushNewActivity isSystemUI task
    newActivity startFlag

/--
The end of `startActivityReal` for a new activity.  A task that does not exist
has a number that no task manager knows.
-/
def startNewActivity
    (inner : ActivityManagerInner)
    (packageInfo : PackageInfo)
    (activityUniqueName : String)
    (plan : StartPlan)
    (task : Option Nat)
    (startFlag : Nat)
    (intent : Intent)
    (isOkToLaunch : Bool)
    (spawned : Option Nat) : Option (ActivityManagerInner × Route) :=
  let isSystemUI := packageInfo.isSystemUI
  let newActivity := inner.manager.nextActivity
  let created :=
    { inner with
      nextTask := inner.nextTask + 1 }.createActivity activityUniqueName
        plan.launchMode (task.getD inner.nextTask) intent
  match inner.findAppInfoWithAlive packageInfo.packageName with
  | some app => do
      let pushed ←
        created.attachActivity isSystemUI task newActivity startFlag app
      some (pushed, .newActivity newActivity)
  | none =>
      if isOkToLaunch then
        match created.submitAppStartupTask packageInfo.packageName
            (.startActivity isSystemUI task newActivity startFlag
              packageInfo.priority)
            false spawned with
        | some (submitted, pid) =>
            some (submitted, .attaching pid)
        | none =>
            some (inner, .rejected)
      else
        some (inner, .rejected)

/-- `ActivityManagerInner::startActivityReal`. -/
def startActivityReal
    (inner : ActivityManagerInner)
    (activityName : String)
    (packageInfo : PackageInfo)
    (intent : Intent)
    (caller : Option Nat)
    (isOkToLaunch : Bool)
    (spawned : Option Nat) : Option (ActivityManagerInner × Route) :=
  match packageInfo.activitiesInfo.find? (·.name == activityName) with
  | none =>
      some (inner, .rejected)
  | some info => do
      let isSystemUI := packageInfo.isSystemUI
      let plan := inner.startPlan packageInfo info intent caller
      let (inner, task, isNewTask) := inner.targetTask isSystemUI plan
      let activityUniqueName :=
        packageInfo.packageName ++ "/" ++ activityName
      let (target, startFlag) ←
        inner.targetActivity isSystemUI plan task isNewTask
          activityUniqueName
      match target with
      | some activity => do
          let task ← task
          let turned ←
            inner.turnToActivity isSystemUI task activity intent startFlag
          some (turned, .activities [activity])
      | none =>
          inner.startNewActivity packageInfo activityUniqueName plan task
            startFlag intent isOkToLaunch spawned

/-- The activities that `switchTaskToActive` turns to; none if it is active. -/
def switchedActivities
    (inner : ActivityManagerInner)
    (isSystemUI : Bool)
    (task : Nat) : List Nat :=
  if isSystemUI then
    inner.systemUI.mStack task
  else if some task ≠ inner.manager.lists.getActiveTask then
    (inner.manager.lists.getTopActivity task).toList
  else
    []

/-- `startActivity` once the intent is resolved, before its event. -/
def startTarget
    (inner : ActivityManagerInner)
    (activityName : String)
    (packageInfo : PackageInfo)
    (intent : Intent)
    (caller : Option Nat)
    (isOkToLaunch : Bool)
    (spawned : Option Nat) : Option (ActivityManagerInner × Route) :=
  let isSystemUI := packageInfo.isSystemUI
  let apptask :=
    if activityName.isEmpty then
      inner.findTask isSystemUI packageInfo.packageName
    else
      none
  match apptask with
  | some task => do
      let switched ← inner.switchTaskToActive isSystemUI task intent
      some
        (switched, .activities (inner.switchedActivities isSystemUI task))
  | none =>
      inner.startActivityReal
        (if activityName.isEmpty then packageInfo.entry else activityName)
        packageInfo intent caller isOkToLaunch spawned

/-- `ActivityManagerInner::startActivity` once the intent is resolved. -/
def startActivity
    (inner : ActivityManagerInner)
    (activityName : String)
    (packageInfo : PackageInfo)
    (intent : Intent)
    (caller : Option Nat)
    (isOkToLaunch : Bool)
    (spawned : Option Nat) : Option (ActivityManagerInner × Route) := do
  let (inner, route) ←
    inner.startTarget activityName packageInfo intent caller isOkToLaunch
      spawned
  if packageInfo.isSystemUI then
    some (inner, route)
  else
    let left ← inner.systemUI.onStartActivity inner.manager
    let inner ← inner.withManager left
    some (inner, route)

end ActivityManagerInner

end ActivityManager
