import ActivityManager.AwaitedActivities
import ActivityManager.ServiceListingSteps

/-!
# The lists of activities in the service

Requests, processes that attach and exit, and whatever else happens to the
service keep the lists of activities exact, too.  A process that is ending is
gone at the end of the step, so that something can be said of every process.
-/

namespace ActivityManager

/-- Listing services is nothing to the activities. -/
theorem WithServices.sameActivities
    {old new : AppRecord}
    (same : WithServices old new) :
    SameActivities old new where
  mExistActivity := by
    rw [same]
  stopped isStopped := same.sameStatus.trans isStopped

namespace TaskStackManager

variable
  {live : List Nat}
  {manager middle next : TaskStackManager}
  {except : Option Nat}

/-! ## Processes that are ending -/

/-- No process is ending, save perhaps one. -/
def NoneStopped
    (manager : TaskStackManager)
    (except : Option Nat) : Prop :=
  ∀ app record,
    manager.apps app = some record →
    some app ≠ except →
    record.mStatus ≠ .appStopped

/-- At most the process that is ending is stopped. -/
theorem noneStopped_iff :
    manager.NoneStopped except ↔ manager.StoppedOnly except := by
  constructor
  · intro noneStopped app record isRecord isStopped
    by_contra isOther
    exact
      noneStopped app record isRecord (fun same => isOther same.symm)
        isStopped
  · intro stoppedOnly app record isRecord isOther isStopped
    exact isOther (stoppedOnly app record isRecord isStopped).symm

/-- After a step the lists are exact for what is live, and no process ends. -/
structure ListsFollow
    (live : List Nat)
    (before after : TaskStackManager) : Prop where
  since : ListedSince [] live before after
  noneStopped : after.NoneStopped none

/-! ## What keeps the lists exact -/

namespace ListedSince

/-- Something happens that launches no activity. -/
theorem silent
    (since : ListedSince [] live manager middle)
    (sameCalls : next.calls = middle.calls)
    (listed :
      ∀ others,
        ActivitiesListed others middle → ActivitiesListed others next) :
    ListedSince [] live manager next := by
  obtain ⟨calls, isMiddle, _, isListed⟩ := since
  exact ⟨calls, sameCalls.trans isMiddle, by simp, listed _ isListed⟩

/-- What processes list of services does not matter. -/
theorem serviced
    (since : ListedSince [] live manager middle)
    (isNext : next = { middle with apps := next.apps })
    (apps : AppsKept WithServices middle.apps next.apps) :
    ListedSince [] live manager next := by
  refine since.silent ?_ ?_
  · rw [isNext]
  · intro others listed
    refine listed.reapp ?_ ?_ ?_ ?_ ?_
    · rw [isNext]
    · rw [isNext]
    · rw [isNext]
    · rw [isNext]
    · intro app new isNew
      obtain ⟨old, isOld, same⟩ := apps.exists_before isNew
      exact .inl ⟨old, isOld, same.sameActivities⟩

theorem createActivity
    (since : ListedSince [] live manager middle)
    (name : String)
    (targetTask : Nat)
    (intent : Intent) :
    ListedSince [] live manager
      (middle.createActivity name targetTask intent) :=
  since.silent rfl
    (fun _ listed => listed.createActivity name targetTask intent)

/-- An activity without an application is given one. -/
theorem setAppThread
    {activity app : Nat}
    (since : ListedSince [] live manager middle)
    (unhosted : middle.IsUnhosted activity)
    (isNumber : app < middle.nextApp)
    (isNext : middle.setAppThread activity app = some next) :
    ListedSince [] live manager next := by
  obtain ⟨record, isRecord, isSet⟩ := setAppThread_cases isNext
  have noApp : record.mApp = none := by
    rw [IsUnhosted, isRecord] at unhosted
    exact Option.some.inj unhosted
  rw [isSet]
  exact
    since.silent rfl
      (fun _ listed => listed.setAppThread isRecord noApp isNumber)

theorem attachApplication
    (since : ListedSince [] live manager middle)
    (packageName : String)
    (systemui : Bool)
    (pid : Nat) :
    ListedSince [] live manager
      (middle.attachApplication packageName systemui pid) :=
  since.silent rfl
    (fun _ listed => listed.attachApplication packageName systemui pid)

end ListedSince

end TaskStackManager

open TaskStackManager (ListsFollow ListedSince ActivitiesListed)

namespace ActivityManagerInner

variable
  {live : List Nat}
  {before : TaskStackManager}
  {inner next : ActivityManagerInner}
  {packageInfo : PackageInfo}
  {intent : Intent}
  {spawned : Option Nat}
  {route : Route}

/-- The operations are plain, and so is an application that stops. -/
theorem stoppingParts_arePlain
    (manager : TaskStackManager)
    (action : RecordAction)
    (isPart : stoppingParts.isPart manager action) :
    action.isPlain = true := by
  rcases isPart with isOwn | ⟨_, isStop⟩
  · exact isOwn.isPlain
  · rw [isStop]
    rfl

/-- The operations of the task managers. -/
theorem Quiet.listedSince
    (quiet : Quiet ownParts inner next)
    (since : ListedSince [] live before inner.manager) :
    ListedSince [] live before next.manager :=
  since.moves (fun _ _ => TaskStackManager.IsOwn.isPlain) quiet.moves

theorem Serviced.listedSince
    (serviced : Serviced inner next)
    (since : ListedSince [] live before inner.manager) :
    ListedSince [] live before next.manager :=
  since.serviced serviced.manager serviced.apps

/-- A request for a service. -/
theorem ServiceOutcome.listedSince
    {serviceName : String}
    {request : ServiceRequest}
    (outcome :
      inner.ServiceOutcome serviceName packageInfo intent request spawned
        next route)
    (since : ListedSince [] live before inner.manager) :
    ListedSince [] live before next.manager := by
  cases outcome with
  | rejected =>
      exact since
  | found isFound =>
      exact
        (requestService_serviced (mem_of_findService isFound).1 intent
          request).listedSince since
  | created _ _ _ _ =>
      exact (createService_serviced _ _ _ _ _).listedSince since
  | queued _ _ _ submitted =>
      rw [submitted.manager_eq]
      exact since

/-- A request for an activity. -/
theorem ActivityOutcome.listedSince
    (outcome :
      inner.ActivityOutcome packageInfo intent spawned next route)
    (bounded : ∀ app ∈ inner.mAppList, app < inner.manager.nextApp)
    (since : ListedSince [] live before inner.manager) :
    ListedSince [] live before next.manager := by
  cases outcome with
  | rejected quiet =>
      exact quiet.listedSince since
  | turned quiet =>
      exact quiet.listedSince since
  | @hosted _ _ name app task isAlive isCreated quiet =>
      refine quiet.listedSince ?_
      rw [isCreated.manager]
      exact
        (since.createActivity name task intent).setAppThread
          (TaskStackManager.createActivity_isUnhosted ..)
          (bounded app (List.mem_of_find?_eq_some isAlive))
          (createActivity_setAppThread inner.manager name app task intent)
  | @queued _ _ _ name task _ _ _ _ _ isCreated submitted quiet =>
      refine quiet.listedSince ?_
      rw [submitted.manager_eq, isCreated.manager]
      exact since.createActivity name task intent

/-- The callback of a process that attaches. -/
theorem CallbackOutcome.listedSince
    {e : AppAttachEvent}
    {callback : AttachCallback}
    (outcome : inner.CallbackOutcome e callback next)
    (unhosted :
      ∀ activity,
        callback.newActivity? = some activity →
        inner.manager.IsUnhosted activity)
    (isHosted : e.mAppRecord < inner.manager.nextApp)
    (since : ListedSince [] live before inner.manager) :
    ListedSince [] live before next.manager := by
  cases outcome with
  | startActivity _ isSet isAttached quiet =>
      refine quiet.listedSince ?_
      rw [isAttached.manager]
      exact since.setAppThread (unhosted _ rfl) isHosted isSet
  | startService _ =>
      exact (createService_serviced _ _ _ _ _).listedSince since

/-- All of them. -/
theorem eventTrigger_listedSince
    {e : AppAttachEvent}
    {packageName : String}
    {handlers : List (TaskTimeoutHandler AppAttachTask)}
    (distinct : (awaitedActivities handlers).Nodup)
    (unhosted :
      ∀ handler ∈ handlers,
        handler.pendingFor e = true →
        ∀ activity,
          awaitedActivity? handler = some activity →
          inner.manager.IsUnhosted activity)
    (isHosted : e.mAppRecord < inner.manager.nextApp)
    (isNext : eventTrigger e packageName handlers inner = some next)
    (since : ListedSince [] live before inner.manager) :
    ListedSince [] live before next.manager := by
  induction handlers generalizing inner with
  | nil =>
      rw [← Option.some.inj isNext]
      exact since
  | cons handler rest inductionHypothesis =>
      have restDistinct : (awaitedActivities rest).Nodup :=
        distinct.sublist ((List.sublist_cons_self handler rest).filterMap _)
      have restUnhosted :
          ∀ other ∈ rest,
            other.pendingFor e = true →
            ∀ activity,
              awaitedActivity? other = some activity →
              inner.manager.IsUnhosted activity :=
        fun other member => unhosted other (List.mem_cons_of_mem _ member)
      rw [eventTrigger] at isNext
      split at isNext
      · rename_i isPending
        obtain ⟨after, isAfter, isNext⟩ :=
          Option.bind_eq_some_iff.mp isNext
        have outcome := runCallback_outcome isAfter
        have served :
            ListedSince [] live before
              (inner.serve e packageName handler).manager :=
          since
        refine
          inductionHypothesis restDistinct ?_ ?_ isNext
            (outcome.listedSince
              (unhosted handler List.mem_cons_self isPending) isHosted
              served)
        · intro other member isPendingToo activity isAwaited
          refine
            outcome.hosts.2 activity ?_
              (restUnhosted other member isPendingToo activity isAwaited)
          intro isThis
          have isThis : awaitedActivity? handler = some activity := isThis
          rw [awaitedActivities, List.filterMap_cons_some isThis] at distinct
          exact
            (List.nodup_cons.mp distinct).1
              (mem_awaitedActivities member isAwaited)
        · rw [outcome.sameProcesses.nextApp]
          exact isHosted
      · exact
          inductionHypothesis restDistinct restUnhosted isHosted isNext
            since

/-- A process that attaches. -/
theorem AttachOutcome.listedSince
    {callerPid : Nat}
    {isSystemUI : Bool}
    (outcome : inner.AttachOutcome callerPid isSystemUI next)
    (awaited : AwaitedUnhosted inner)
    (since : ListedSince [] live before inner.manager) :
    ListedSince [] live before next.manager := by
  cases outcome with
  | known _ =>
      exact since
  | @attached packageName _ _ _ isServed =>
      refine
        eventTrigger_listedSince awaited.distinct ?_ (Nat.lt_succ_self _)
          isServed
          (since.attachApplication packageName isSystemUI callerPid)
      intro handler onBoard isPending activity isAwaited
      unfold TaskTimeoutHandler.pendingFor at isPending
      rw [Bool.and_eq_true, Bool.not_eq_true'] at isPending
      exact
        awaited.unhosted handler onBoard isPending.1 activity isAwaited
  | illegal _ =>
      exact since

/-- A report of a client about a service. -/
theorem ReportOutcome.listedSince
    {token : Nat}
    {status : ServiceStatus}
    (outcome : inner.ReportOutcome token status next)
    (since : ListedSince [] live before inner.manager) :
    ListedSince [] live before next.manager := by
  cases outcome with
  | ignored =>
      exact since
  | stored _ =>
      exact since
  | unbinded isFound _ =>
      have stopped :=
        onService_serviced ServiceRecord.keepsKey_stop
          (mem_of_getService isFound).1
      exact stopped.listedSince since
  | @destroyed service _ _ =>
      have idle :=
        stopIfIdle_quiet
          { inner with
            mServices := deleteService inner.mServices token }
          service.mApp
      exact since.moves stoppingParts_arePlain idle.moves

/-! ## Processes that exit -/

/-- What is left of the activities that are live. -/
def survivors
    (inner : ActivityManagerInner)
    (live : List Nat) :
    InnerAction → List Nat
  | .manager action =>
      inner.manager.survivors action live
  | .childExit pid =>
      match inner.findAppInfo pid with
      | some app =>
          live.filter fun activity =>
            !inner.manager.isHostedBy app activity
      | none => live
  | _ => live

/-- A report takes an activity back to INIT that is listed. -/
def renewsListed
    (inner : ActivityManagerInner) : InnerAction → Bool
  | .manager (.reportActivityStatus token status) =>
      inner.manager.renews token status
  | _ => false

/-- The activities of a process that exits are gone, and so is its record. -/
theorem childExit_listedSince
    {pid : Nat}
    (listed : ActivitiesListed live inner.manager)
    (noneStopped : inner.manager.NoneStopped none)
    (isNext : inner.childExit pid = some next) :
    ListedSince [] (inner.survivors live (.childExit pid)) inner.manager
      next.manager := by
  cases isFound : inner.findAppInfo pid with
  | some app =>
      obtain ⟨exited, record, deleted, policy, isTerminated, quiet, isRecord,
        isDeleted, _, isNext⟩ := childExit_steps isFound isNext
      obtain ⟨old, isOld, _⟩ := Option.bind_eq_some_iff.mp isTerminated
      have wasOpen := noneStopped app old isOld (by simp)
      obtain ⟨calls, isExited, _, exits⟩ :=
        listed.procAppTerminated isOld wasOpen isTerminated
      have terminated :=
        terminateServices_terminated record.mExistService
          (exited.swapServices app record)
      have isManager :
          next.manager =
            { exited.manager with apps := next.manager.apps } := by
        rw [isNext, deleteAppInfo_cases isDeleted]
        dsimp only
        rw [terminated.manager]
        rfl
      have others :
          ∀ other new,
            next.manager.apps other = some new →
            ∃ before,
              exited.manager.apps other = some before ∧
                WithServices before new := by
        intro other new isNew
        rw [isNext, deleteAppInfo_cases isDeleted] at isNew
        have isNew :
            Function.update
                (terminateServices record.mExistService
                  (exited.swapServices app record)).manager.apps
                app none other =
              some new :=
          isNew
        by_cases isApp : other = app
        · rw [isApp, Function.update_self] at isNew
          cases isNew
        · rw [Function.update_of_ne isApp] at isNew
          obtain ⟨before, isBefore, same⟩ :=
            terminated.apps.exists_before isNew
          exact
            ⟨before, (Function.update_of_ne isApp _ _).symm.trans isBefore,
              same⟩
      refine ⟨calls, ?_, by simp, ?_⟩
      · rw [isManager]
        exact isExited
      · rw [survivors, isFound]
        refine exits.reapp ?_ ?_ ?_ ?_ ?_
        · rw [isManager]
        · rw [isManager]
        · rw [isManager]
        · rw [isManager]
        · intro other new isNew
          obtain ⟨before, isBefore, same⟩ := others other new isNew
          exact .inl ⟨before, isBefore, same.sameActivities⟩
  | none =>
      rw [survivors, isFound]
      have since := ListedSince.refl listed
      cases childExit_outcome isNext with
      | hosted isHosted =>
          rw [isFound] at isHosted
          cases isHosted
      | waiting _ _ =>
          exact since
      | unknown _ _ =>
          exact since

/-! ## Every step -/

/-- The part of a step that the task manager does. -/
theorem onManager_manager
    {action : ManagerAction}
    (isNext : inner.onManager action = some next) :
    inner.manager.step? action = some next.manager := by
  obtain ⟨manager, isStep, isNext⟩ := Option.bind_eq_some_iff.mp isNext
  obtain ⟨stepped, isStepped, isNext⟩ := Option.bind_eq_some_iff.mp isNext
  rw [isStep, ← Option.some.inj isNext, withManager_manager isStepped]

/-- Apart from reports and timeouts nothing ends. -/
theorem isPlain_of_partsOf
    {manager middle : TaskStackManager}
    {action : ManagerAction}
    {primitive : RecordAction}
    (isApart : action.isApart = true)
    (noReport : ∀ token status, action ≠ .reportActivityStatus token status)
    (noTimeout : ∀ serial, action ≠ .timeout serial)
    (isPart :
      (TaskStackManager.partsOf manager action).isPart middle primitive) :
    primitive.isPlain = true := by
  rcases isPart with isOwn | isPart
  · exact isOwn.isPlain
  · cases action with
    | reportActivityStatus token status =>
        exact absurd rfl (noReport token status)
    | timeout serial =>
        exact absurd rfl (noTimeout serial)
    | clockAdvances ms =>
        rw [isPart.2]
        rfl
    | holdTasks tasks =>
        rw [isPart.2]
        rfl
    | moveTaskToBackground _ =>
        exact isPart.elim
    | finishActivity _ =>
        exact isPart.elim
    | _ =>
        cases isApart

/-- Reports, timeouts and what else happens to the task manager. -/
theorem onManager_listedSince
    {action : ManagerAction}
    (listed : ActivitiesListed live inner.manager)
    (isApart : action.isApart = true)
    (notRenewed : inner.renewsListed (.manager action) = false)
    (isNext : inner.onManager action = some next) :
    ListedSince [] (inner.survivors live (.manager action)) inner.manager
      next.manager := by
  have isStep := onManager_manager isNext
  obtain ⟨_, _, moved⟩ :=
    (TaskStackManager.step?_moved inner.manager action).of_result isStep
  have since := ListedSince.refl listed
  cases action with
  | reportActivityStatus token status =>
      exact listed.reportActivityStatus notRenewed isStep
  | timeout serial =>
      exact listed.timeout isStep
  | moveTaskToBackground _ | finishActivity _ | clockAdvances _
    | holdTasks _ =>
      rw [survivors, TaskStackManager.survivors_of_none rfl]
      exact
        since.moves
          (fun _ _ => isPlain_of_partsOf isApart (by simp) (by simp))
          moved.moves
  | _ =>
      cases isApart

/-- Every step keeps the lists exact for what is live after it. -/
theorem step?_listedSince
    {action : InnerAction}
    (listed : ActivitiesListed live inner.manager)
    (noneStopped : inner.manager.NoneStopped none)
    (awaited : AwaitedUnhosted inner)
    (bounded : ∀ app ∈ inner.mAppList, app < inner.manager.nextApp)
    (notRenewed : inner.renewsListed action = false)
    (isNext : inner.step? action = some next) :
    ListedSince [] (inner.survivors live action) inner.manager
      next.manager := by
  have since := ListedSince.refl listed
  cases action with
  | startActivity activityName packageInfo intent caller isOkToLaunch
      spawned =>
      obtain ⟨⟨_, route⟩, isResult, rfl⟩ :=
        Option.map_eq_some_iff.mp isNext
      exact (startActivity_outcome isResult).listedSince bounded since
  | startActivityReal activityName packageInfo intent caller isOkToLaunch
      spawned =>
      obtain ⟨⟨_, route⟩, isResult, rfl⟩ :=
        Option.map_eq_some_iff.mp isNext
      exact
        (startActivityReal_outcome isResult).listedSince bounded since
  | startService serviceName packageInfo intent spawned =>
      obtain ⟨⟨_, route⟩, isResult, rfl⟩ :=
        Option.map_eq_some_iff.mp isNext
      exact (startServiceReal_outcome isResult).listedSince since
  | bindService serviceName packageInfo intent conn spawned =>
      obtain ⟨⟨_, route⟩, isResult, rfl⟩ :=
        Option.map_eq_some_iff.mp isNext
      exact (startServiceReal_outcome isResult).listedSince since
  | stopService packageInfo serviceName =>
      rw [← Option.some.inj isNext]
      exact
        (stopService_serviced inner packageInfo serviceName).listedSince
          since
  | stopServiceByToken token =>
      obtain ⟨⟨_, isStopped⟩, isResult, rfl⟩ :=
        Option.map_eq_some_iff.mp isNext
      exact (stopServiceByToken_serviced isResult).listedSince since
  | unbindService conn =>
      rw [← Option.some.inj isNext]
      exact (unbindAll_serviced conn _ inner).listedSince since
  | publishService token serviceBinder =>
      rw [← Option.some.inj isNext]
      exact
        (publishService_serviced inner token serviceBinder).listedSince
          since
  | reportServiceStatus token status =>
      exact (reportServiceStatus_outcome isNext).listedSince since
  | attachApplication callerPid isSystemUI =>
      exact
        (attachApplication_outcome isNext).listedSince awaited since
  | childExit pid =>
      exact childExit_listedSince listed noneStopped isNext
  | stopApplication app =>
      exact
        since.moves stoppingParts_arePlain
          ((stopApplication_quiet inner app).of_result isNext).moves
  | executeLMK freememory maxblock =>
      exact
        since.moves stoppingParts_arePlain
          ((executeLMK_quiet inner freememory maxblock).of_result
            isNext).moves
  | manager action =>
      rw [step?] at isNext
      split at isNext
      · rename_i isApart
        exact onManager_listedSince listed isApart notRenewed isNext
      · cases isNext
  | moveSystemUIToBackground task =>
      exact
        ((moveSystemUIToBackground_quiet inner task).of_result
          isNext).listedSince since
  | finishSystemUIActivity activity =>
      exact
        ((finishSystemUIActivity_quiet inner activity).of_result
          isNext).listedSince since

/-- At its end no process is ending. -/
theorem step?_listsFollow
    {action : InnerAction}
    (listed : ActivitiesListed live inner.manager)
    (noneStopped : inner.manager.NoneStopped none)
    (awaited : AwaitedUnhosted inner)
    (bounded : ∀ app ∈ inner.mAppList, app < inner.manager.nextApp)
    (notRenewed : inner.renewsListed action = false)
    (isNext : inner.step? action = some next) :
    ListsFollow (inner.survivors live action) inner.manager
      next.manager where
  since :=
    step?_listedSince listed noneStopped awaited bounded notRenewed isNext
  noneStopped := by
    have stoppedOnly := TaskStackManager.noneStopped_iff.mp noneStopped
    exact
      TaskStackManager.noneStopped_iff.mpr
        (step?_stoppedOnly stoppedOnly isNext)

end ActivityManagerInner

end ActivityManager
