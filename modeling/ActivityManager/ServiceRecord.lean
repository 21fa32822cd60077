import ActivityManager.AppInfoList
import ActivityManager.ProcessPriorityPolicy

/-!
# Service records

The server keeps one `ServiceRecord` for each service and lists those of a
process in its application record.  The operations here take the record of the
application that the weak pointer `mApp` leads to, if it is still there, and
give it back changed.
-/

namespace ActivityManager

/-- The statuses of `ServiceRecord`, which clients report as integers. -/
abbrev ServiceStatus := Int

namespace ServiceStatus

@[simp] def creating : ServiceStatus := 0
@[simp] def created : ServiceStatus := 1
@[simp] def starting : ServiceStatus := 2
@[simp] def started : ServiceStatus := 3
@[simp] def binding : ServiceStatus := 4
@[simp] def binded : ServiceStatus := 5
@[simp] def unbinding : ServiceStatus := 6
@[simp] def unbinded : ServiceStatus := 7
@[simp] def destroying : ServiceStatus := 8
@[simp] def destroyed : ServiceStatus := 9

end ServiceStatus

/-- `mStartFlag`, bit by bit. -/
structure StartFlag where
  started : Bool
  binded : Bool
  deriving Repr, DecidableEq

/-- `F_UNKNOW`. -/
def StartFlag.unknow : StartFlag where
  started := false
  binded := false

/-- The calls about services to clients and their connections. -/
inductive ServiceCall where
  | scheduleStartService
      (pid : Nat)
      (serviceName : String)
      (token : Nat)
      (intent : Intent)
  | scheduleStopService (pid token : Nat)
  | scheduleBindService
      (pid : Nat)
      (serviceName : String)
      (token : Nat)
      (intent : Intent)
      (conn : Nat)
  | scheduleUnbindService (pid token : Nat)
  | onServiceConnected (conn serviceBinder : Nat)
  | onServiceDisconnected (conn : Nat) (serviceBinder : Option Nat)
  deriving Repr, DecidableEq

/-- `ServiceRecord`; services and connections are named by numbers. -/
structure ServiceRecord where
  mServiceName : String
  mToken : Nat
  mServiceBinder : Option Nat
  mConnectRecord : List Nat
  mStatus : ServiceStatus
  mStartFlag : StartFlag
  mPriority : ProcessPriority
  mApp : Nat
  /--
  Ghost: the service was started or bound in its application, and since then
  neither stopped nor unbound down to `F_UNKNOW`.
  -/
  isEngaged : Bool
  deriving Repr, DecidableEq

namespace AppRecord

/-- `AppRecord::addService`. -/
def addService
    (app : AppRecord)
    (service : Nat) : AppRecord :=
  { app with mExistService := app.mExistService ++ [service] }

/-- `AppRecord::deleteService`. -/
def deleteService
    (app : AppRecord)
    (service : Nat) : AppRecord :=
  { app with
    mExistService := swapRemove (· == service) app.mExistService }

end AppRecord

/-- What an operation does to a service and its application. -/
structure ServiceEffect where
  service : ServiceRecord
  app : Option AppRecord
  calls : List ServiceCall
  deriving Repr, DecidableEq

namespace ServiceRecord

/-- The constructor of `ServiceRecord`. -/
def fresh
    (name : String)
    (token : Nat)
    (priority : ProcessPriority)
    (app : Nat) : ServiceRecord where
  mServiceName := name
  mToken := token
  mServiceBinder := none
  mConnectRecord := []
  mStatus := ServiceStatus.creating
  mStartFlag := .unknow
  mPriority := priority
  mApp := app
  isEngaged := false

/-- `ServiceRecord::isAlive`. -/
def isAlive (service : ServiceRecord) : Bool :=
  service.mStartFlag ≠ .unknow

/-- `ServiceRecord::start`. -/
def start
    (intent : Intent)
    (service : ServiceRecord)
    (app : Option AppRecord) : ServiceEffect :=
  match app with
  | some appRecord =>
      { service :=
          { service with
            mStartFlag := { service.mStartFlag with started := true }
            isEngaged := true }
        app := some (appRecord.addService service.mToken)
        calls :=
          [.scheduleStartService appRecord.mPid service.mServiceName
            service.mToken intent] }
  | none =>
      { service := service, app := none, calls := [] }

/-- The connections are told that the service is gone. -/
def disconnectAll (service : ServiceRecord) : List ServiceCall :=
  service.mConnectRecord.map
    (.onServiceDisconnected · service.mServiceBinder)

/-- `ServiceRecord::stop`. -/
def stop
    (service : ServiceRecord)
    (app : Option AppRecord) : ServiceEffect :=
  match app with
  | some appRecord =>
      { service := { service with isEngaged := false }
        app := some (appRecord.deleteService service.mToken)
        calls :=
          service.disconnectAll ++
            [.scheduleStopService appRecord.mPid service.mToken] }
  | none =>
      { service := service, app := none, calls := service.disconnectAll }

/-- `ServiceRecord::bind`. -/
def bind
    (conn : Nat)
    (intent : Intent)
    (service : ServiceRecord)
    (app : Option AppRecord) : ServiceEffect :=
  match app with
  | some appRecord =>
      { service :=
          { service with
            mStartFlag := { service.mStartFlag with binded := true }
            mConnectRecord :=
              if conn ∈ service.mConnectRecord then service.mConnectRecord
              else service.mConnectRecord ++ [conn]
            isEngaged := true }
        app :=
          some
            (if service.mStartFlag = .unknow then
              appRecord.addService service.mToken
            else
              appRecord)
        calls :=
          match service.mServiceBinder with
          | some serviceBinder =>
              [.onServiceConnected conn serviceBinder]
          | none =>
              [.scheduleBindService appRecord.mPid service.mServiceName
                service.mToken intent conn] }
  | none =>
      { service := service, app := none, calls := [] }

/-- `ServiceRecord::unbind`. -/
def unbind
    (conn : Nat)
    (service : ServiceRecord)
    (app : Option AppRecord) : ServiceEffect :=
  if service.mStartFlag.binded then
    let left := swapRemove (· == conn) service.mConnectRecord
    let disconnected : ServiceCall :=
      .onServiceDisconnected conn service.mServiceBinder
    match app with
    | some appRecord =>
        let mStartFlag : StartFlag :=
          { service.mStartFlag with binded := !left.isEmpty }
        { service :=
            { service with
              mConnectRecord := left
              mStartFlag := mStartFlag
              isEngaged := service.isEngaged && mStartFlag ≠ .unknow }
          app :=
            some
              (if mStartFlag = .unknow then
                appRecord.deleteService service.mToken
              else
                appRecord)
          calls :=
            disconnected ::
              (if left.isEmpty then
                [.scheduleUnbindService appRecord.mPid service.mToken]
              else
                []) }
    | none =>
        { service := { service with mConnectRecord := left }
          app := none
          calls := [disconnected] }
  else
    { service := service, app := app, calls := [] }

/-- `ServiceRecord::abnormalExit`. -/
def abnormalExit
    (service : ServiceRecord)
    (app : Option AppRecord) : ServiceEffect :=
  { service := { service with isEngaged := false }
    app := app.map (·.deleteService service.mToken)
    calls := service.disconnectAll }

end ServiceRecord

/-! ## `ServiceList` -/

/-- `ServiceRecord::getPackageName`. -/
def ServiceRecord.getPackageName
    (service : ServiceRecord)
    (apps : Nat → Option AppRecord) : Option String :=
  (apps service.mApp).map AppRecord.mPackageName

/-- `ServiceList::findService`. -/
def findService
    (apps : Nat → Option AppRecord)
    (mServiceList : List ServiceRecord)
    (packageName serviceName : String) : Option ServiceRecord :=
  mServiceList.find? fun service =>
    service.mServiceName = serviceName ∧
      service.getPackageName apps = some packageName

/-- `ServiceList::getService`. -/
def getService
    (mServiceList : List ServiceRecord)
    (token : Nat) : Option ServiceRecord :=
  mServiceList.find? (·.mToken == token)

/-- `ServiceList::deleteService`. -/
def deleteService
    (mServiceList : List ServiceRecord)
    (token : Nat) : List ServiceRecord :=
  swapRemove (·.mToken == token) mServiceList

/-- A record changes, to which the list has a pointer. -/
def setService
    (mServiceList : List ServiceRecord)
    (changed : ServiceRecord) : List ServiceRecord :=
  mServiceList.map fun service =>
    if service.mToken = changed.mToken then changed else service

end ActivityManager
