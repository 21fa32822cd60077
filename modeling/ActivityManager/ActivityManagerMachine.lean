import ActivityManager.ActivityManagerInner

/-!
# The service and its surroundings

Requests, reports of the clients, processes that attach and exit, timeouts of
activities and low memory, one at a time.  `step?` has no result where the
code would go wrong, or where its surroundings cannot do such a thing.

The home activity that is started when the last task is gone is a request of
its own, and so are the components that broadcasts start.

Not a step is the deadline of an `AppAttachTask`: `commitTask` gives it the
default limit of `UINT_MAX` milliseconds, after which the board would drop the
task, and with it the request that waits for the process.
-/

namespace ActivityManager

/-- The note that the callback of a task was run. -/
def TaskTimeoutHandler.servedTo
    (handler : TaskTimeoutHandler AppAttachTask)
    (e : AppAttachEvent)
    (packageName : String) : Served where
  serial := handler.serial
  task := handler.mTask
  app := e.mAppRecord
  mPackageName := packageName

namespace ActivityManagerInner

/-! ## Processes that attach -/

/-- The callback of an attach task. -/
def runCallback
    (inner : ActivityManagerInner)
    (e : AppAttachEvent) :
    AttachCallback → Option ActivityManagerInner
  | .startActivity isSystemUI targetTask newActivity startFlag priority =>
      do
        let mPriorityPolicy ←
          inner.mPriorityPolicy.add e.mPid true priority
        { inner with
          mPriorityPolicy := mPriorityPolicy }.attachActivity isSystemUI
            targetTask newActivity startFlag e.mAppRecord
  | .startService serviceName intent priority request => do
      let mPriorityPolicy ←
        inner.mPriorityPolicy.add e.mPid false priority
      let service :=
        ServiceRecord.fresh serviceName inner.nextToken priority
          e.mAppRecord
      let added :=
        { inner with
          mPriorityPolicy := mPriorityPolicy }.addService service
      some (added.requestService service intent request)

/-- A task that is done, before its callback runs. -/
def serve
    (inner : ActivityManagerInner)
    (e : AppAttachEvent)
    (packageName : String)
    (handler : TaskTimeoutHandler AppAttachTask) : ActivityManagerInner :=
  { inner with
    mPendTask := inner.mPendTask.markDone handler.serial
    served := inner.served ++ [handler.servedTo e packageName] }

/--
`mPendTask.eventTrigger` of an attached application, from some handler on.  The
callbacks do not commit attach tasks.
-/
def eventTrigger
    (e : AppAttachEvent)
    (packageName : String) :
    List (TaskTimeoutHandler AppAttachTask) → ActivityManagerInner →
      Option ActivityManagerInner
  | [], inner =>
      some inner
  | handler :: rest, inner =>
      if handler.pendingFor e then do
        let inner ←
          (inner.serve e packageName handler).runCallback e
            handler.mTask.mCallback
        eventTrigger e packageName rest inner
      else
        eventTrigger e packageName rest inner

/-- The record of an application that attaches, in the list. -/
def addAppInfo
    (inner : ActivityManagerInner)
    (packageName : String)
    (isSystemUI : Bool)
    (pid : Nat) : ActivityManagerInner :=
  { inner with
    manager := inner.manager.attachApplication packageName isSystemUI pid
    mAppList := inner.mAppList ++ [inner.manager.nextApp] }

/-- `ActivityManagerInner::attachApplication`. -/
def attachApplication
    (inner : ActivityManagerInner)
    (callerPid : Nat)
    (isSystemUI : Bool) : Option ActivityManagerInner :=
  match inner.findAppInfo callerPid with
  | some _ =>
      some inner
  | none =>
      match inner.getAttachingAppName callerPid with
      | some packageName =>
          eventTrigger
            { mPid := callerPid, mAppRecord := inner.manager.nextApp }
            packageName inner.mPendTask.mTasklist
            ((inner.deleteAppWaitingAttach callerPid).addAppInfo packageName
              isSystemUI callerPid)
      | none =>
          some inner

/-! ## Processes that exit -/

/-- The loop of `procAppTerminated` over the services. -/
def terminateServices :
    List Nat → ActivityManagerInner → ActivityManagerInner
  | [], inner =>
      inner
  | token :: rest, inner =>
      terminateServices rest
        (match getService inner.mServices token with
        | some service =>
            let exited := inner.onService ServiceRecord.abnormalExit service
            { exited with
              mServices := deleteService exited.mServices token }
        | none =>
            inner)

/-- `needDeleteService.swap(appRecord->mExistService)`. -/
def swapServices
    (inner : ActivityManagerInner)
    (app : Nat)
    (record : AppRecord) : ActivityManagerInner :=
  { inner with
    manager := inner.manager.setApp app { record with mExistService := [] } }

/-- `ActivityManagerInner::procAppTerminated`. -/
def procAppTerminated
    (inner : ActivityManagerInner)
    (app : Nat) : Option ActivityManagerInner := do
  let record ← inner.manager.apps app
  let systemUI :=
    record.mExistActivity.foldl
      (fun systemUI activity =>
        systemUI.deleteActivity inner.manager activity)
      inner.systemUI
  let terminated ← inner.manager.procAppTerminated app
  let inner ← inner.withManager terminated
  let inner := { inner with systemUI := systemUI }
  let record ← inner.manager.apps app
  some
    (terminateServices record.mExistService (inner.swapServices app record))

/-- `AppInfoList::deleteAppInfo`. -/
def deleteAppInfo
    (inner : ActivityManagerInner)
    (pid app : Nat) : Option ActivityManagerInner := do
  let manager ← inner.manager.deleteAppInfo app
  some
    { inner with
      manager := manager
      mAppList :=
        swapRemove
          (fun app =>
            (inner.manager.apps app).any (·.mPid = pid))
          inner.mAppList }

/-- The callback of `systemReady` for the exit of a child process. -/
def childExit
    (inner : ActivityManagerInner)
    (pid : Nat) : Option ActivityManagerInner :=
  match inner.findAppInfo pid with
  | some app => do
      let inner ← inner.procAppTerminated app
      let inner ← inner.deleteAppInfo pid app
      let mPriorityPolicy ← inner.mPriorityPolicy.remove pid
      some { inner with mPriorityPolicy := mPriorityPolicy }
  | none =>
      match inner.getAttachingAppName pid with
      | some _ => some (inner.deleteAppWaitingAttach pid)
      | none => some inner

/-! ## Applications that are stopped -/

/-- `AppRecord::stopApplication` on a record. -/
def stopApplication
    (inner : ActivityManagerInner)
    (app : Nat) : Option ActivityManagerInner := do
  let record ← inner.manager.apps app
  some { inner with manager := inner.manager.stopApp app record }

/-- The loop of `executeLMK` over `killPidVec`. -/
def killAll :
    List Nat → ActivityManagerInner → Option ActivityManagerInner
  | [], inner =>
      some inner
  | pid :: rest, inner => do
      let stopped ←
        match inner.findAppInfo pid with
        | some app => inner.stopApplication app
        | none => some inner
      killAll rest
        { stopped with
          mPriorityPolicy :=
            { stopped.mPriorityPolicy with
              mLmk := stopped.mPriorityPolicy.mLmk.cancelMonitorPid pid } }

/-- `LowMemoryManager::executeLMK` with the callbacks of the service. -/
def executeLMK
    (inner : ActivityManagerInner)
    (freememory maxblock : Int) : Option ActivityManagerInner :=
  match inner.mPriorityPolicy.mLmk.matchingRow? freememory maxblock with
  | some row => do
      let mPriorityPolicy ← inner.mPriorityPolicy.analyseProcessPriority
      killAll (mPriorityPolicy.mLmk.killPidVec row)
        { inner with mPriorityPolicy := mPriorityPolicy }
  | none =>
      some inner

/-! ## Steps -/

/-- The activity that a report or a timeout makes its task manager delete. -/
def deletedActivity
    (inner : ActivityManagerInner) :
    ManagerAction → Option Nat
  | .reportActivityStatus token status =>
      if token ∈ inner.manager.mActivityMap ∧
          (status = Status.destroyed ∨
            status = Status.error ∧
              (inner.manager.mPendTask.firstPending
                (PendEvent.activityStatusReport status token)).isSome) then
        some token
      else
        none
  | .timeout serial =>
      match inner.manager.dueTask serial with
      | some (.lifeCycle activity) =>
          if (inner.manager.activities activity).any fun record =>
              record.mStatus ≠ record.mTargetStatus then
            some activity
          else
            none
      | _ => none
  | _ => none

/-- What happens to the task managers outside of requests for activities. -/
def onManager
    (inner : ActivityManagerInner)
    (action : ManagerAction) : Option ActivityManagerInner := do
  let manager ← inner.manager.step? action
  let stepped ← inner.withManager manager
  some
    { stepped with
      systemUI :=
        match inner.deletedActivity action with
        | some activity =>
            inner.systemUI.deleteActivity inner.manager activity
        | none => inner.systemUI }

end ActivityManagerInner

/--
The steps of the task manager that are not part of a request for an activity,
or of the life of a process.
-/
def ManagerAction.isApart : ManagerAction → Bool
  | .moveTaskToBackground _ => true
  | .finishActivity _ => true
  | .reportActivityStatus _ _ => true
  | .timeout _ => true
  | .clockAdvances _ => true
  | .holdTasks _ => true
  | _ => false

/-- What can happen to the service. -/
inductive InnerAction where
  | startActivity
      (activityName : String)
      (packageInfo : PackageInfo)
      (intent : Intent)
      (caller : Option Nat)
      (isOkToLaunch : Bool)
      (spawned : Option Nat)
  | startActivityReal
      (activityName : String)
      (packageInfo : PackageInfo)
      (intent : Intent)
      (caller : Option Nat)
      (isOkToLaunch : Bool)
      (spawned : Option Nat)
  | startService
      (serviceName : String)
      (packageInfo : PackageInfo)
      (intent : Intent)
      (spawned : Option Nat)
  | bindService
      (serviceName : String)
      (packageInfo : PackageInfo)
      (intent : Intent)
      (conn : Nat)
      (spawned : Option Nat)
  | stopService (packageInfo : PackageInfo) (serviceName : String)
  | stopServiceByToken (token : Nat)
  | unbindService (conn : Nat)
  | publishService (token : Nat) (serviceBinder : Option Nat)
  | reportServiceStatus (token : Nat) (status : ServiceStatus)
  | attachApplication (callerPid : Nat) (isSystemUI : Bool)
  | childExit (pid : Nat)
  | stopApplication (app : Nat)
  | executeLMK (freememory maxblock : Int)
  | manager (action : ManagerAction)
  /-- `moveTaskToBackground` and `finishActivity` of the SystemUI. -/
  | moveSystemUIToBackground (task : Nat)
  | finishSystemUIActivity (activity : Nat)

/-- The pid of a process that a request spawns, if it spawns one. -/
def InnerAction.spawned : InnerAction → Option Nat
  | .startActivity _ _ _ _ _ spawned => spawned
  | .startActivityReal _ _ _ _ _ spawned => spawned
  | .startService _ _ _ spawned => spawned
  | .bindService _ _ _ _ spawned => spawned
  | _ => none

namespace ActivityManagerInner

/-- Perform one step. -/
def step?
    (inner : ActivityManagerInner) :
    InnerAction → Option ActivityManagerInner
  | .startActivity activityName packageInfo intent caller isOkToLaunch
      spawned =>
      (inner.startActivity activityName packageInfo intent caller
        isOkToLaunch spawned).map Prod.fst
  | .startActivityReal activityName packageInfo intent caller isOkToLaunch
      spawned =>
      (inner.startActivityReal activityName packageInfo intent caller
        isOkToLaunch spawned).map Prod.fst
  | .startService serviceName packageInfo intent spawned =>
      (inner.startServiceReal serviceName packageInfo intent .start
        spawned).map Prod.fst
  | .bindService serviceName packageInfo intent conn spawned =>
      (inner.startServiceReal serviceName packageInfo intent (.bind conn)
        spawned).map Prod.fst
  | .stopService packageInfo serviceName =>
      some (inner.stopService packageInfo serviceName).1
  | .stopServiceByToken token =>
      (inner.stopServiceByToken token).map Prod.fst
  | .unbindService conn =>
      some (inner.unbindService conn)
  | .publishService token serviceBinder =>
      some (inner.publishService token serviceBinder)
  | .reportServiceStatus token status =>
      inner.reportServiceStatus token status
  | .attachApplication callerPid isSystemUI =>
      inner.attachApplication callerPid isSystemUI
  | .childExit pid =>
      inner.childExit pid
  | .stopApplication app =>
      inner.stopApplication app
  | .executeLMK freememory maxblock =>
      inner.executeLMK freememory maxblock
  | .manager action =>
      if action.isApart then inner.onManager action else none
  | .moveSystemUIToBackground task => do
      let moved ← inner.systemUI.moveTaskToBackground task inner.manager
      inner.withManager moved
  | .finishSystemUIActivity activity => do
      let finished ← SystemUIManager.finishActivity activity inner.manager
      inner.withManager finished

/-- The pids of the processes that live: they have attached, or will. -/
def livePids (inner : ActivityManagerInner) : List Nat :=
  (inner.mAppList.filterMap fun app =>
    (inner.manager.apps app).map AppRecord.mPid) ++
    inner.mAppWaitingAttach.map Prod.snd

end ActivityManagerInner

end ActivityManager
