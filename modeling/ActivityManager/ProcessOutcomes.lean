import ActivityManager.ServiceEffects

/-!
# What processes that attach and exit do

A process that attaches runs the callbacks that wait for it.  One that exits
takes its records along, and whatever services it lists.
-/

namespace ActivityManager

namespace ActivityManagerInner

/-! ## The same processes -/

/-- No process attaches or exits, and none starts to wait. -/
structure SameProcesses (before after : ActivityManagerInner) : Prop where
  apps : AppsKept SameProcess before.manager.apps after.manager.apps
  nextApp : after.manager.nextApp = before.manager.nextApp
  mAppList : after.mAppList = before.mAppList
  mAppWaitingAttach : after.mAppWaitingAttach = before.mAppWaitingAttach

variable
  {parts : TaskStackManager.Parts}
  {inner next : ActivityManagerInner}
  {service : ServiceRecord}

namespace SameProcesses

theorem refl (inner : ActivityManagerInner) :
    SameProcesses inner inner where
  apps := .refl SameProcess.refl _
  nextApp := rfl
  mAppList := rfl
  mAppWaitingAttach := rfl

theorem trans
    {middle : ActivityManagerInner}
    (former : SameProcesses inner middle)
    (latter : SameProcesses middle next) :
    SameProcesses inner next where
  apps := former.apps.trans (fun _ _ _ => SameProcess.trans) latter.apps
  nextApp := latter.nextApp.trans former.nextApp
  mAppList := latter.mAppList.trans former.mAppList
  mAppWaitingAttach :=
    latter.mAppWaitingAttach.trans former.mAppWaitingAttach

end SameProcesses

theorem Quiet.sameProcesses
    (quiet : Quiet parts inner next)
    (areRoutine : parts.AreRoutine) :
    SameProcesses inner next where
  apps :=
    (quiet.sameApps areRoutine).apps.mono
      fun _ _ same => same.toSameProcess
  nextApp := (quiet.sameApps areRoutine).nextApp
  mAppList := quiet.mAppList
  mAppWaitingAttach := quiet.mAppWaitingAttach

/-- The operations are about the same processes. -/
theorem Quiet.own_sameProcesses
    (quiet : Quiet ownParts inner next) :
    SameProcesses inner next :=
  quiet.sameProcesses ownParts_areRoutine

theorem Serviced.sameProcesses
    (serviced : Serviced inner next) :
    SameProcesses inner next where
  apps := serviced.apps.mono fun _ _ => WithServices.sameProcess
  nextApp := by
    rw [serviced.manager]
  mAppList := serviced.mAppList
  mAppWaitingAttach := serviced.mAppWaitingAttach

/-- A new arrangement that keeps the applications. -/
theorem Rearranged.sameProcesses
    {manager : TaskStackManager}
    (rearranged : inner.Rearranged next manager)
    (sameApps : manager.apps = inner.manager.apps)
    (sameNumber : manager.nextApp = inner.manager.nextApp) :
    SameProcesses inner next where
  apps := by
    rw [rearranged.manager, sameApps]
    exact .refl SameProcess.refl _
  nextApp := by
    rw [rearranged.manager, sameNumber]
  mAppList := rearranged.mAppList
  mAppWaitingAttach := rearranged.mAppWaitingAttach

/-- A new service receives its first request. -/
theorem createService_serviced
    (inner : ActivityManagerInner)
    (policy : ProcessPriorityPolicy)
    (service : ServiceRecord)
    (intent : Intent)
    (request : ServiceRequest) :
    Serviced
      ({ inner with mPriorityPolicy := policy }.addService service)
      (inner.createService policy service intent request) :=
  requestService_serviced
    (List.mem_append_right _ (List.mem_singleton_self service)) intent
    request

/-- That is about the same processes. -/
theorem createService_sameProcesses
    (inner : ActivityManagerInner)
    (policy : ProcessPriorityPolicy)
    (service : ServiceRecord)
    (intent : Intent)
    (request : ServiceRequest) :
    SameProcesses inner
      (inner.createService policy service intent request) :=
  { (createService_serviced inner policy service intent
      request).sameProcesses with }

/-! ## Processes that attach -/

/-- What the callback of an attach task does. -/
inductive CallbackOutcome
    (inner : ActivityManagerInner)
    (e : AppAttachEvent) :
    AttachCallback → ActivityManagerInner → Prop where
  | startActivity
      {isSystemUI : Bool}
      {targetTask : Option Nat}
      {newActivity startFlag : Nat}
      {priority : ProcessPriority}
      {policy : ProcessPriorityPolicy}
      {manager : TaskStackManager}
      {attached next : ActivityManagerInner} :
      inner.mPriorityPolicy.add e.mPid true priority = some policy →
      inner.manager.setAppThread newActivity e.mAppRecord =
        some manager →
      { inner with mPriorityPolicy := policy }.Rearranged attached
        manager →
      Quiet ownParts attached next →
      CallbackOutcome inner e
        (.startActivity isSystemUI targetTask newActivity startFlag
          priority)
        next
  | startService
      {serviceName : String}
      {intent : Intent}
      {priority : ProcessPriority}
      {request : ServiceRequest}
      {policy : ProcessPriorityPolicy} :
      inner.mPriorityPolicy.add e.mPid false priority = some policy →
      CallbackOutcome inner e
        (.startService serviceName intent priority request)
        (inner.createService policy
          (.fresh serviceName inner.nextToken priority e.mAppRecord)
          intent request)

/-- Every callback ends like that. -/
theorem runCallback_outcome
    {e : AppAttachEvent}
    {callback : AttachCallback}
    (isNext : inner.runCallback e callback = some next) :
    inner.CallbackOutcome e callback next := by
  cases callback with
  | startActivity isSystemUI targetTask newActivity startFlag priority =>
      obtain ⟨policy, isAdded, isNext⟩ := Option.bind_eq_some_iff.mp isNext
      obtain ⟨manager, attached, isSet, isAttached, quiet⟩ :=
        attachActivity_cases isNext
      exact .startActivity isAdded isSet isAttached quiet
  | startService serviceName intent priority request =>
      obtain ⟨policy, isAdded, isNext⟩ := Option.bind_eq_some_iff.mp isNext
      rw [← Option.some.inj isNext]
      exact .startService isAdded

/-- Callbacks are about the same processes. -/
theorem CallbackOutcome.sameProcesses
    {e : AppAttachEvent}
    {callback : AttachCallback}
    (outcome : inner.CallbackOutcome e callback next) :
    SameProcesses inner next := by
  cases outcome with
  | startActivity isAdded isSet isAttached quiet =>
      obtain ⟨_, _, isManager⟩ := TaskStackManager.setAppThread_cases isSet
      subst isManager
      have attached := isAttached.sameProcesses rfl rfl
      have same : SameProcesses inner _ :=
        { attached with }
      exact same.trans quiet.own_sameProcesses
  | startService isAdded =>
      exact createService_sameProcesses _ _ _ _ _

/-- What an attach does. -/
inductive AttachOutcome
    (inner : ActivityManagerInner)
    (callerPid : Nat)
    (isSystemUI : Bool) :
    ActivityManagerInner → Prop where
  | known
      {app : Nat} :
      inner.findAppInfo callerPid = some app →
      AttachOutcome inner callerPid isSystemUI inner
  | attached
      {packageName : String}
      {next : ActivityManagerInner} :
      inner.findAppInfo callerPid = none →
      inner.getAttachingAppName callerPid = some packageName →
      eventTrigger
          { mPid := callerPid, mAppRecord := inner.manager.nextApp }
          packageName inner.mPendTask.mTasklist
          ((inner.deleteAppWaitingAttach callerPid).addAppInfo packageName
            isSystemUI callerPid) =
        some next →
      AttachOutcome inner callerPid isSystemUI next
  | illegal :
      inner.getAttachingAppName callerPid = none →
      AttachOutcome inner callerPid isSystemUI inner

theorem attachApplication_outcome
    {callerPid : Nat}
    {isSystemUI : Bool}
    (isNext : inner.attachApplication callerPid isSystemUI = some next) :
    inner.AttachOutcome callerPid isSystemUI next := by
  unfold attachApplication at isNext
  split at isNext
  · rename_i isKnown
    rw [← Option.some.inj isNext]
    exact .known isKnown
  · rename_i notKnown
    split at isNext
    · rename_i isWaiting
      exact .attached notKnown isWaiting isNext
    · rename_i notWaiting
      rw [← Option.some.inj isNext]
      exact .illegal notWaiting

/-- An invariant of the callbacks holds after all of them. -/
theorem eventTrigger_runs
    {e : AppAttachEvent}
    {packageName : String}
    {onBoard : List (TaskTimeoutHandler AppAttachTask)}
    {motive : ActivityManagerInner → Prop}
    (serves :
      ∀ middle handler after,
        motive middle →
        handler ∈ onBoard →
        handler.pendingFor e = true →
        (middle.serve e packageName handler).runCallback e
            handler.mTask.mCallback =
          some after →
        motive after)
    {handlers : List (TaskTimeoutHandler AppAttachTask)}
    (within : ∀ handler ∈ handlers, handler ∈ onBoard)
    (holds : motive inner)
    (isNext :
      eventTrigger e packageName handlers inner = some next) :
    motive next := by
  induction handlers generalizing inner with
  | nil =>
      rw [← Option.some.inj isNext]
      exact holds
  | cons handler rest inductionHypothesis =>
      have restWithin : ∀ other ∈ rest, other ∈ onBoard :=
        fun other member => within other (List.mem_cons_of_mem _ member)
      rw [eventTrigger] at isNext
      split at isNext
      · rename_i isPending
        obtain ⟨after, isAfter, isNext⟩ :=
          Option.bind_eq_some_iff.mp isNext
        have kept :=
          serves inner handler after holds (within handler (by simp))
            isPending isAfter
        exact inductionHypothesis restWithin kept isNext
      · exact inductionHypothesis restWithin holds isNext

/-- The same for what is known about how callbacks end. -/
theorem eventTrigger_invariant
    {e : AppAttachEvent}
    {packageName : String}
    {onBoard : List (TaskTimeoutHandler AppAttachTask)}
    {motive : ActivityManagerInner → Prop}
    (serves :
      ∀ middle handler after,
        motive middle →
        handler ∈ onBoard →
        handler.pendingFor e = true →
        (middle.serve e packageName handler).CallbackOutcome e
          handler.mTask.mCallback after →
        motive after)
    {handlers : List (TaskTimeoutHandler AppAttachTask)}
    (within : ∀ handler ∈ handlers, handler ∈ onBoard)
    (holds : motive inner)
    (isNext :
      eventTrigger e packageName handlers inner = some next) :
    motive next := by
  refine eventTrigger_runs ?_ within holds isNext
  intro middle handler after before member isPending isAfter
  exact
    serves middle handler after before member isPending
      (runCallback_outcome isAfter)

/-- The callbacks are about the same processes. -/
theorem eventTrigger_sameProcesses
    {e : AppAttachEvent}
    {packageName : String}
    {handlers : List (TaskTimeoutHandler AppAttachTask)}
    (isNext :
      eventTrigger e packageName handlers inner = some next) :
    SameProcesses inner next := by
  refine eventTrigger_invariant ?_ (fun _ => id) (.refl inner) isNext
  intro middle handler after same _ _ outcome
  exact same.trans { outcome.sameProcesses with }

/-! ## Processes that exit -/

/-- The loop over the services of a process: these are not listed any more. -/
structure Terminated
    (tokens : List Nat)
    (before after : ActivityManagerInner) : Prop where
  manager :
    after.manager =
      { before.manager with apps := after.manager.apps }
  apps :
    AppsKept WithServices before.manager.apps after.manager.apps
  keys :
    (before.mServices.map ServiceRecord.mToken).Nodup →
    (after.mServices.map ServiceRecord.key).Perm
      ((before.mServices.map ServiceRecord.key).filter
        (·.1 ∉ tokens))
  mPriorityPolicy : after.mPriorityPolicy = before.mPriorityPolicy
  mAppList : after.mAppList = before.mAppList
  mAppWaitingAttach : after.mAppWaitingAttach = before.mAppWaitingAttach
  mPendTask : after.mPendTask = before.mPendTask
  nextToken : after.nextToken = before.nextToken
  served : after.served = before.served

/-- Keys lead to tokens. -/
theorem tokens_of_keys (services : List ServiceRecord) :
    services.map ServiceRecord.mToken =
      (services.map ServiceRecord.key).map Prod.fst := by
  rw [List.map_map]
  rfl

/-- A deleted service takes its key along. -/
theorem deleteService_keys
    {services : List ServiceRecord}
    (distinct : (services.map ServiceRecord.mToken).Nodup)
    (token : Nat) :
    ((deleteService services token).map ServiceRecord.key).Perm
      ((services.map ServiceRecord.key).filter (·.1 != token)) := by
  rw [List.filter_map]
  exact (swapRemove_key distinct token).map _

theorem terminateServices_terminated
    (tokens : List Nat)
    (inner : ActivityManagerInner) :
    Terminated tokens inner (terminateServices tokens inner) := by
  induction tokens generalizing inner with
  | nil =>
      exact
        { Serviced.refl inner with
          keys := fun _ => by simp [terminateServices] }
  | cons token rest inductionHypothesis =>
      rw [terminateServices]
      split
      · rename_i service isFound
        obtain ⟨isListed, isToken⟩ := mem_of_getService isFound
        have exited : Serviced inner
            (inner.onService ServiceRecord.abnormalExit service) :=
          onService_serviced ServiceRecord.keepsKey_abnormalExit isListed
        generalize
          inner.onService ServiceRecord.abnormalExit service = middle
          at exited ⊢
        have others := inductionHypothesis
          { middle with mServices := deleteService middle.mServices token }
        exact
          { manager := by
              rw [others.manager, exited.manager]
            apps :=
              exited.apps.trans (fun _ _ _ => WithServices.trans)
                others.apps
            keys := by
              intro distinct
              have middleDistinct := distinct
              rw [← exited.tokens] at middleDistinct
              have deleted := deleteService_keys middleDistinct token
              have stillDistinct :
                  ((deleteService middle.mServices token).map
                    ServiceRecord.mToken).Nodup := by
                rw [tokens_of_keys, (deleted.map Prod.fst).nodup_iff]
                refine List.Nodup.sublist
                  (List.filter_sublist.map Prod.fst) ?_
                rwa [← tokens_of_keys]
              refine (others.keys stillDistinct).trans ?_
              refine (deleted.filter _).trans ?_
              rw [exited.keys distinct, List.filter_filter]
              refine List.Perm.of_eq (List.filter_congr ?_)
              intro key _
              by_cases isHead : key.1 = token
              · simp [isHead]
              · simp [isHead]
            mPriorityPolicy :=
              others.mPriorityPolicy.trans exited.mPriorityPolicy
            mAppList := others.mAppList.trans exited.mAppList
            mAppWaitingAttach :=
              others.mAppWaitingAttach.trans exited.mAppWaitingAttach
            mPendTask := others.mPendTask.trans exited.mPendTask
            nextToken := others.nextToken.trans exited.nextToken
            served := others.served.trans exited.served }
      · rename_i notFound
        have others := inductionHypothesis inner
        refine { others with keys := ?_ }
        intro distinct
        refine (others.keys distinct).trans
          (List.Perm.of_eq (List.filter_congr ?_))
        intro key isKey
        obtain ⟨service, isListed, rfl⟩ := List.mem_map.mp isKey
        have notToken : service.mToken ≠ token := by
          unfold getService at notFound
          simpa using List.find?_eq_none.mp notFound service isListed
        rw [Bool.eq_iff_iff, decide_eq_true_eq, decide_eq_true_eq,
          List.mem_cons, not_or]
        exact ⟨fun notRest => ⟨notToken, notRest⟩, And.right⟩

/-- What an exit does. -/
inductive ExitOutcome
    (inner : ActivityManagerInner)
    (pid : Nat) :
    ActivityManagerInner → Prop where
  | hosted
      {app : Nat}
      {record : AppRecord}
      {exited ended deleted : ActivityManagerInner}
      {policy : ProcessPriorityPolicy} :
      inner.findAppInfo pid = some app →
      inner.manager.procAppTerminated app = some exited.manager →
      Quiet
        (TaskStackManager.partsOf inner.manager (.procAppTerminated app))
        inner exited →
      exited.manager.apps app = some record →
      Terminated record.mExistService (exited.swapServices app record)
        ended →
      ended.deleteAppInfo pid app = some deleted →
      deleted.mPriorityPolicy.remove pid = some policy →
      ExitOutcome inner pid { deleted with mPriorityPolicy := policy }
  | waiting
      {packageName : String} :
      inner.findAppInfo pid = none →
      inner.getAttachingAppName pid = some packageName →
      ExitOutcome inner pid (inner.deleteAppWaitingAttach pid)
  | unknown :
      inner.findAppInfo pid = none →
      inner.getAttachingAppName pid = none →
      ExitOutcome inner pid inner

/-- The exit of a process that has attached, step by step. -/
theorem childExit_steps
    {pid app : Nat}
    (isFound : inner.findAppInfo pid = some app)
    (isNext : inner.childExit pid = some next) :
    ∃ exited record deleted policy,
      inner.manager.procAppTerminated app = some exited.manager ∧
        Quiet
          (TaskStackManager.partsOf inner.manager (.procAppTerminated app))
          inner exited ∧
        exited.manager.apps app = some record ∧
        (terminateServices record.mExistService
          (exited.swapServices app record)).deleteAppInfo pid app =
            some deleted ∧
        deleted.mPriorityPolicy.remove pid = some policy ∧
        next = { deleted with mPriorityPolicy := policy } := by
  unfold childExit at isNext
  rw [isFound] at isNext
  obtain ⟨ended, isEnded, isNext⟩ := Option.bind_eq_some_iff.mp isNext
  obtain ⟨deleted, isDeleted, isNext⟩ := Option.bind_eq_some_iff.mp isNext
  obtain ⟨policy, isRemoved, isNext⟩ := Option.bind_eq_some_iff.mp isNext
  obtain ⟨before, _, isEnded⟩ := Option.bind_eq_some_iff.mp isEnded
  obtain ⟨terminated, isTerminated, isEnded⟩ :=
    Option.bind_eq_some_iff.mp isEnded
  obtain ⟨middle, isMiddle, isEnded⟩ := Option.bind_eq_some_iff.mp isEnded
  obtain ⟨record, isRecord, isEnded⟩ := Option.bind_eq_some_iff.mp isEnded
  obtain ⟨lists, _, moved⟩ :=
    (TaskStackManager.step?_moved inner.manager
      (.procAppTerminated app)).of_result isTerminated
  obtain ⟨quiet, sameManager⟩ :=
    (withManager_quiet moved).of_result isMiddle
  have arranged := quiet.arrange
    (before.mExistActivity.foldl
      (fun systemUI activity =>
        systemUI.deleteActivity inner.manager activity)
      inner.systemUI)
    middle.mTag middle.nextTask middle.mLaunchMode
  refine
    ⟨_, record, deleted, policy, ?_, arranged, isRecord, ?_, isRemoved,
      (Option.some.inj isNext).symm⟩
  · rw [isTerminated]
    exact congrArg some sameManager.symm
  · rw [Option.some.inj isEnded]
    exact isDeleted

/-- Every exit ends in one of these ways. -/
theorem childExit_outcome
    {pid : Nat}
    (isNext : inner.childExit pid = some next) :
    inner.ExitOutcome pid next := by
  cases isFound : inner.findAppInfo pid with
  | some app =>
      obtain ⟨exited, record, deleted, policy, isTerminated, quiet, isRecord,
        isDeleted, isRemoved, isNext⟩ := childExit_steps isFound isNext
      rw [isNext]
      exact
        .hosted isFound isTerminated quiet isRecord
          (terminateServices_terminated _ _) isDeleted isRemoved
  | none =>
      unfold childExit at isNext
      rw [isFound] at isNext
      dsimp only at isNext
      split at isNext
      · rename_i isWaiting
        rw [← Option.some.inj isNext]
        exact .waiting isFound isWaiting
      · rename_i notWaiting
        rw [← Option.some.inj isNext]
        exact .unknown isFound notWaiting

/-- `deleteAppInfo` of a stopped application. -/
theorem deleteAppInfo_cases
    {pid app : Nat}
    (isNext : inner.deleteAppInfo pid app = some next) :
    next =
      { inner with
        manager :=
          { inner.manager with
            apps := Function.update inner.manager.apps app none }
        mAppList :=
          swapRemove
            (fun app =>
              (inner.manager.apps app).any (·.mPid = pid))
            inner.mAppList } := by
  obtain ⟨manager, isDeleted, isNext⟩ := Option.bind_eq_some_iff.mp isNext
  obtain ⟨_, _, _, isManager⟩ :=
    TaskStackManager.deleteAppInfo_cases isDeleted
  rw [← Option.some.inj isNext, isManager]

/-! ## Steps -/

end ActivityManagerInner

/-- What a request for a service asks for. -/
def InnerAction.serviceRequest :
    InnerAction → Option (String × PackageInfo × Intent × ServiceRequest)
  | .startService serviceName packageInfo intent _ =>
      some (serviceName, packageInfo, intent, .start)
  | .bindService serviceName packageInfo intent conn _ =>
      some (serviceName, packageInfo, intent, .bind conn)
  | _ => none

namespace ActivityManagerInner

/-- What can come of a step. -/
inductive StepOutcome
    (inner : ActivityManagerInner) :
    InnerAction → ActivityManagerInner → Prop where
  | activity
      {action : InnerAction}
      {packageInfo : PackageInfo}
      {intent : Intent}
      {route : Route}
      {next : ActivityManagerInner} :
      inner.ActivityOutcome packageInfo intent action.spawned next
        route →
      StepOutcome inner action next
  | service
      {action : InnerAction}
      {serviceName : String}
      {packageInfo : PackageInfo}
      {intent : Intent}
      {request : ServiceRequest}
      {route : Route}
      {next : ActivityManagerInner} :
      action.serviceRequest =
        some (serviceName, packageInfo, intent, request) →
      inner.ServiceOutcome serviceName packageInfo intent request
        action.spawned next route →
      StepOutcome inner action next
  | serviced
      {action : InnerAction}
      {next : ActivityManagerInner} :
      Serviced inner next →
      StepOutcome inner action next
  | reported
      {token : Nat}
      {status : ServiceStatus}
      {next : ActivityManagerInner} :
      inner.ReportOutcome token status next →
      StepOutcome inner (.reportServiceStatus token status) next
  | attached
      {callerPid : Nat}
      {isSystemUI : Bool}
      {next : ActivityManagerInner} :
      inner.AttachOutcome callerPid isSystemUI next →
      StepOutcome inner (.attachApplication callerPid isSystemUI) next
  | exited
      {pid : Nat}
      {next : ActivityManagerInner} :
      inner.ExitOutcome pid next →
      StepOutcome inner (.childExit pid) next
  | quiet
      {action : InnerAction}
      {parts : TaskStackManager.Parts}
      {next : ActivityManagerInner} :
      parts.AreRoutine →
      Quiet parts inner next →
      StepOutcome inner action next

variable {inner next : ActivityManagerInner}

/-- Every step comes to one of these. -/
theorem step?_outcome
    {action : InnerAction}
    (isNext : inner.step? action = some next) :
    inner.StepOutcome action next := by
  cases action with
  | startActivity activityName packageInfo intent caller isOkToLaunch
      spawned =>
      obtain ⟨⟨_, route⟩, isResult, rfl⟩ :=
        Option.map_eq_some_iff.mp isNext
      exact .activity (startActivity_outcome isResult)
  | startActivityReal activityName packageInfo intent caller isOkToLaunch
      spawned =>
      obtain ⟨⟨_, route⟩, isResult, rfl⟩ :=
        Option.map_eq_some_iff.mp isNext
      exact .activity (startActivityReal_outcome isResult)
  | startService serviceName packageInfo intent spawned =>
      obtain ⟨⟨_, route⟩, isResult, rfl⟩ :=
        Option.map_eq_some_iff.mp isNext
      exact .service rfl (startServiceReal_outcome isResult)
  | bindService serviceName packageInfo intent conn spawned =>
      obtain ⟨⟨_, route⟩, isResult, rfl⟩ :=
        Option.map_eq_some_iff.mp isNext
      exact .service rfl (startServiceReal_outcome isResult)
  | stopService packageInfo serviceName =>
      rw [← Option.some.inj isNext]
      exact .serviced (stopService_serviced inner packageInfo serviceName)
  | stopServiceByToken token =>
      obtain ⟨⟨_, isStopped⟩, isResult, rfl⟩ :=
        Option.map_eq_some_iff.mp isNext
      exact .serviced (stopServiceByToken_serviced isResult)
  | unbindService conn =>
      rw [← Option.some.inj isNext]
      exact .serviced (unbindAll_serviced conn _ inner)
  | publishService token serviceBinder =>
      rw [← Option.some.inj isNext]
      exact .serviced (publishService_serviced inner token serviceBinder)
  | reportServiceStatus token status =>
      exact .reported (reportServiceStatus_outcome isNext)
  | attachApplication callerPid isSystemUI =>
      exact .attached (attachApplication_outcome isNext)
  | childExit pid =>
      exact .exited (childExit_outcome isNext)
  | stopApplication app =>
      exact .quiet stoppingParts_areRoutine
        ((stopApplication_quiet inner app).of_result isNext)
  | executeLMK freememory maxblock =>
      exact .quiet stoppingParts_areRoutine
        ((executeLMK_quiet inner freememory maxblock).of_result isNext)
  | manager action =>
      rw [step?] at isNext
      split at isNext
      · rename_i isApart
        exact .quiet (partsOf_areRoutine isApart)
          ((onManager_quiet inner action).of_result isNext)
      · cases isNext
  | moveSystemUIToBackground task =>
      exact .quiet ownParts_areRoutine
        ((moveSystemUIToBackground_quiet inner task).of_result isNext)
  | finishSystemUIActivity activity =>
      exact .quiet ownParts_areRoutine
        ((finishSystemUIActivity_quiet inner activity).of_result isNext)

/-! ## The priority list stays a list -/

theorem Submitted.mPriorityPolicy
    {processName : String}
    {callback : AttachCallback}
    {spawned : Option Nat}
    {pid : Nat}
    (submitted :
      inner.Submitted processName callback spawned next pid) :
    next.mPriorityPolicy = inner.mPriorityPolicy := by
  cases submitted with
  | behind _ =>
      exact enqueue_mPriorityPolicy inner _
  | first _ _ =>
      exact enqueue_mPriorityPolicy _ _

theorem CallbackOutcome.keepsList
    {e : AppAttachEvent}
    {callback : AttachCallback}
    (outcome : inner.CallbackOutcome e callback next) :
    inner.mPriorityPolicy.KeepsList next.mPriorityPolicy := by
  cases outcome with
  | startActivity isAdded _ isAttached quiet =>
      have added := ProcessPriorityPolicy.add_keepsList isAdded
      have others := quiet.mPriorityPolicy.keepsList
      rw [isAttached.mPriorityPolicy] at others
      exact added.trans others
  | startService isAdded =>
      rw [(createService_serviced _ _ _ _ _).mPriorityPolicy]
      exact ProcessPriorityPolicy.add_keepsList isAdded

theorem eventTrigger_keepsList
    {e : AppAttachEvent}
    {packageName : String}
    {handlers : List (TaskTimeoutHandler AppAttachTask)}
    (isNext :
      eventTrigger e packageName handlers inner = some next) :
    inner.mPriorityPolicy.KeepsList next.mPriorityPolicy := by
  refine
    eventTrigger_invariant
      (motive := fun after =>
        inner.mPriorityPolicy.KeepsList after.mPriorityPolicy)
      ?_ (fun _ => id) (.refl _) isNext
  intro middle handler after kept _ _ outcome
  exact kept.trans outcome.keepsList

theorem ReportOutcome.keepsList
    {token : Nat}
    {status : ServiceStatus}
    (outcome : inner.ReportOutcome token status next) :
    inner.mPriorityPolicy.KeepsList next.mPriorityPolicy := by
  cases outcome with
  | ignored =>
      exact .refl _
  | stored _ =>
      exact .refl _
  | unbinded _ _ =>
      exact .refl _
  | destroyed _ _ =>
      have idle :=
        stopIfIdle_quiet
          { inner with mServices := deleteService inner.mServices token }
      exact (idle _).mPriorityPolicy.keepsList

theorem ExitOutcome.keepsList
    {pid : Nat}
    (outcome : inner.ExitOutcome pid next) :
    inner.mPriorityPolicy.KeepsList next.mPriorityPolicy := by
  cases outcome with
  | hosted _ _ quiet _ terminated isDeleted isRemoved =>
      have removed := ProcessPriorityPolicy.remove_keepsList isRemoved
      rw [deleteAppInfo_cases isDeleted] at removed
      dsimp only at removed
      rw [terminated.mPriorityPolicy] at removed
      exact quiet.mPriorityPolicy.keepsList.trans removed
  | waiting _ _ =>
      exact .refl _
  | unknown _ _ =>
      exact .refl _

/-- Whatever happens, the nodes of the priority list stay a list. -/
theorem step?_keepsList
    {action : InnerAction}
    (isNext : inner.step? action = some next) :
    inner.mPriorityPolicy.KeepsList next.mPriorityPolicy := by
  cases step?_outcome isNext with
  | activity outcome =>
      cases outcome with
      | rejected quiet =>
          exact quiet.mPriorityPolicy.keepsList
      | turned quiet =>
          exact quiet.mPriorityPolicy.keepsList
      | hosted _ isCreated quiet =>
          rw [← isCreated.mPriorityPolicy]
          exact quiet.mPriorityPolicy.keepsList
      | queued _ _ isCreated submitted quiet =>
          rw [← isCreated.mPriorityPolicy, ← submitted.mPriorityPolicy]
          exact quiet.mPriorityPolicy.keepsList
  | service _ outcome =>
      cases outcome with
      | rejected =>
          exact .refl _
      | found isFound =>
          rw [(requestService_serviced (mem_of_findService isFound).1 _
            _).mPriorityPolicy]
          exact .refl _
      | created _ _ _ isRaised =>
          rw [(createService_serviced _ _ _ _ _).mPriorityPolicy]
          exact ProcessPriorityPolicy.raisePriorityLevel_keepsList isRaised
      | queued _ _ _ submitted =>
          rw [submitted.mPriorityPolicy]
          exact .refl _
  | serviced serviced =>
      rw [serviced.mPriorityPolicy]
      exact .refl _
  | reported outcome =>
      exact outcome.keepsList
  | attached outcome =>
      cases outcome with
      | known _ =>
          exact .refl _
      | attached _ _ isServed =>
          have served := eventTrigger_keepsList isServed
          exact served
      | illegal _ =>
          exact .refl _
  | exited outcome =>
      exact outcome.keepsList
  | quiet _ quiet =>
      exact quiet.mPriorityPolicy.keepsList

end ActivityManagerInner

end ActivityManager
