import ActivityManager.ServiceNumbers

/-!
# At most one record per service

A request looks for the record of its service first, and creates one only if
there is none.  A request that has to wait for a process does so later, when
the process attaches, without another look: two of them that wait for the same
service create two records.  Where no such request is queued behind another,
the names of the services, and of those that are waited for, are distinct.
-/

namespace ActivityManager

open StepSystem (Reachable run?)

/-- The names of the service of a key, as long as its application is known. -/
def serviceNames
    (apps : Nat → Option AppRecord)
    (key : Nat × String × Nat) : Option (String × String) :=
  (apps key.2.2).map fun record => (record.mPackageName, key.2.1)

/-- The names of the service that a task is to create. -/
def AppAttachTask.awaitedService
    (task : AppAttachTask) : Option (String × String) :=
  task.demand.map fun demand => (task.processName, demand.serviceName)

namespace ActivityManagerInner

variable {inner next : ActivityManagerInner}

/-- The names under which the services of the list are found. -/
def namedServices
    (inner : ActivityManagerInner) : List (String × String) :=
  (inner.mServices.map ServiceRecord.key).filterMap
    (serviceNames inner.manager.apps)

/-- The names of the services that processes are to create. -/
def awaitedServices
    (inner : ActivityManagerInner) : List (String × String) :=
  (inner.mPendTask.mTasklist.filter fun handler =>
    !handler.mIsDone).filterMap (·.mTask.awaitedService)

/-- A request waits behind another one for the same service. -/
def queuesAgain
    (inner : ActivityManagerInner)
    (action : InnerAction) : Bool :=
  match action.serviceRequest with
  | some (serviceName, packageInfo, _, _) =>
      packageInfo.servicesInfo.any (·.name == serviceName) &&
        inner.awaitedServices.contains
          (packageInfo.servicePackageName, serviceName)
  | none =>
      false

/-- No two records have the same names, so requests agree on a record. -/
structure UniqueServices (inner : ActivityManagerInner) : Prop where
  distinct : inner.namedServices.Nodup
  reached :
    ∀ service ∈ inner.mServices,
      ∀ packageName,
        service.getPackageName inner.manager.apps = some packageName →
        findService inner.manager.apps inner.mServices packageName
            service.mServiceName =
          some service

/-- The invariant: what is waited for is not there yet, and only once. -/
structure NamesDistinct (inner : ActivityManagerInner) : Prop where
  numbered : ServicesNumbered inner
  names : (inner.namedServices ++ inner.awaitedServices).Nodup

/-! ## Fewer names -/

/-- Fewer images are a part of the images. -/
theorem sublist_filterMap
    {α β : Type}
    {fewer image : α → Option β}
    (elements : List α)
    (agrees :
      ∀ element ∈ elements,
        fewer element = none ∨ fewer element = image element) :
    (elements.filterMap fewer).Sublist (elements.filterMap image) := by
  induction elements with
  | nil =>
      exact .slnil
  | cons element rest inductionHypothesis =>
      have others :=
        inductionHypothesis fun other member =>
          agrees other (List.mem_cons_of_mem element member)
      rcases agrees element (by simp) with isNone | isSame
      · rw [List.filterMap_cons_none isNone]
        refine others.trans ?_
        exact (List.sublist_cons_self element rest).filterMap image
      · cases isImage : image element with
        | none =>
            rw [List.filterMap_cons_none isImage,
              List.filterMap_cons_none (isSame.trans isImage)]
            exact others
        | some value =>
            rw [List.filterMap_cons_some isImage,
              List.filterMap_cons_some (isSame.trans isImage)]
            exact others.cons_cons value

/-- Elements with the same image are the same, if the images are distinct. -/
theorem eq_of_nodup_filterMap
    {α β : Type}
    {image : α → Option β}
    {elements : List α}
    {first second : α}
    {value : β}
    (distinct : (elements.filterMap image).Nodup)
    (firstIn : first ∈ elements)
    (secondIn : second ∈ elements)
    (isFirst : image first = some value)
    (isSecond : image second = some value) :
    first = second := by
  induction elements with
  | nil =>
      exact absurd firstIn List.not_mem_nil
  | cons element rest inductionHypothesis =>
      have later :
          ∀ other ∈ rest,
            image other = some value →
            image element ≠ some value := by
        intro other isLater isOther isElement
        rw [List.filterMap_cons_some isElement, List.nodup_cons]
          at distinct
        exact distinct.1 (List.mem_filterMap.mpr ⟨other, isLater, isOther⟩)
      have restDistinct : (rest.filterMap image).Nodup :=
        distinct.sublist
          ((List.sublist_cons_self element rest).filterMap image)
      rcases List.mem_cons.mp firstIn with rfl | firstLater
      · rcases List.mem_cons.mp secondIn with rfl | secondLater
        · rfl
        · exact absurd isFirst (later second secondLater isSecond)
      · rcases List.mem_cons.mp secondIn with rfl | secondLater
        · exact absurd isSecond (later first firstLater isFirst)
        · exact inductionHypothesis restDistinct firstLater secondLater

/-- Applications keep their names while they are there. -/
def NamesStay (before after : ActivityManagerInner) : Prop :=
  ∀ app < before.manager.nextApp,
    after.manager.apps app = none ∨
      (after.manager.apps app).map AppRecord.mPackageName =
        (before.manager.apps app).map AppRecord.mPackageName

theorem SameProcesses.namesStay
    (same : SameProcesses inner next) :
    NamesStay inner next := by
  intro app _
  exact
    Or.inr (same.apps.map_eq (fun _ _ isSame => isSame.mPackageName) app)

/-- The names of a key depend on the name of the application only. -/
theorem serviceNames_eq
    {apps others : Nat → Option AppRecord}
    {key : Nat × String × Nat}
    (sameName :
      (apps key.2.2).map AppRecord.mPackageName =
        (others key.2.2).map AppRecord.mPackageName) :
    serviceNames apps key = serviceNames others key := by
  have split :
      ∀ records : Nat → Option AppRecord,
        serviceNames records key =
          ((records key.2.2).map AppRecord.mPackageName).map
            (·, key.2.1) := by
    intro records
    rw [Option.map_map]
    rfl
  rw [split, split, sameName]

/-- Fewer services have fewer names. -/
theorem FewerServices.names
    (fewer : FewerServices inner next)
    (numbered : ServicesNumbered inner)
    (stay : NamesStay inner next) :
    next.namedServices.Subperm inner.namedServices := by
  refine (subperm_filterMap fewer.keys _).trans ?_
  apply List.Sublist.subperm
  apply sublist_filterMap
  intro key isKey
  obtain ⟨service, isListed, rfl⟩ := List.mem_map.mp isKey
  rcases stay service.mApp (numbered.hosted service isListed) with
    isGone | sameName
  · refine Or.inl ?_
    change (next.manager.apps service.mApp).map _ = none
    rw [isGone, Option.map_none]
  · exact Or.inr (serviceNames_eq sameName)

/-- A step that adds neither services nor tasks. -/
theorem NamesDistinct.fewer
    (before : NamesDistinct inner)
    (fewer : FewerServices inner next)
    (stay : NamesStay inner next)
    (sameBoard : next.mPendTask = inner.mPendTask) :
    NamesDistinct next where
  numbered := fewer.numbered before.numbered
  names := by
    have sameAwaited : next.awaitedServices = inner.awaitedServices := by
      rw [awaitedServices, sameBoard]
      rfl
    rw [sameAwaited]
    exact
      nodup_of_subperm before.names
        ((fewer.names before.numbered stay).append (.refl _))

/-! ## A request for a service -/

/-- A service that is not found has no record under its names. -/
theorem not_named_of_findService
    {packageName serviceName : String}
    (notFound :
      findService inner.manager.apps inner.mServices packageName
          serviceName =
        none) :
    (packageName, serviceName) ∉ inner.namedServices := by
  intro isNamed
  obtain ⟨key, isKey, isName⟩ := List.mem_filterMap.mp isNamed
  obtain ⟨service, isListed, rfl⟩ := List.mem_map.mp isKey
  obtain ⟨record, isRecord, sameNames⟩ := Option.map_eq_some_iff.mp isName
  rw [Prod.mk.injEq] at sameNames
  unfold findService at notFound
  have notIt := List.find?_eq_none.mp notFound service isListed
  apply notIt
  refine decide_eq_true ⟨sameNames.2, ?_⟩
  rw [← sameNames.1]
  exact Option.map_eq_some_iff.mpr ⟨record, isRecord, rfl⟩

/-- A name that is waited for has a process that waits. -/
theorem TasksMatch.exists_waiting
    {processName serviceName : String}
    (matched : TasksMatch inner)
    (isAwaited : (processName, serviceName) ∈ inner.awaitedServices) :
    ∃ pid, (processName, pid) ∈ inner.mAppWaitingAttach := by
  obtain ⟨handler, isPending, isName⟩ := List.mem_filterMap.mp isAwaited
  obtain ⟨onBoard, notDone⟩ := List.mem_filter.mp isPending
  obtain ⟨demand, _, sameNames⟩ := Option.map_eq_some_iff.mp isName
  have waits :=
    matched.waits handler onBoard (Bool.not_eq_true' _ ▸ notDone)
  rw [(Prod.mk.inj sameNames).1] at waits
  exact ⟨handler.mTask.mPid, waits⟩

/-- No process waits under the name of one that runs. -/
theorem DistinctProcesses.not_waiting_of_alive
    {name : String}
    {app pid : Nat}
    (distinct : DistinctProcesses inner)
    (isAlive : inner.findAppInfoWithAlive name = some app) :
    (name, pid) ∉ inner.mAppWaitingAttach := by
  intro waits
  have runs : 0 < inner.mAppList.countP (inner.runsAs name) :=
    List.countP_pos_iff.mpr
      ⟨app, List.mem_of_find?_eq_some isAlive,
        List.find?_some isAlive⟩
  have isCounted : 0 < inner.mAppWaitingAttach.countP (·.1 == name) :=
    List.countP_pos_iff.mpr ⟨(name, pid), waits, beq_self_eq_true name⟩
  have atMostOne := distinct.usable name
  unfold ActivityManagerInner.usable at atMostOne
  omega

/-- The application that runs under a name has it. -/
theorem mPackageName_of_alive
    {name : String}
    {app : Nat}
    (isAlive : inner.findAppInfoWithAlive name = some app) :
    (inner.manager.apps app).map AppRecord.mPackageName = some name := by
  unfold findAppInfoWithAlive at isAlive
  have isMatched := List.find?_some isAlive
  obtain ⟨record, isRecord, isMeant⟩ :=
    (Option.any_eq_true _ _).mp isMatched
  rw [isRecord, Option.map_some, (of_decide_eq_true isMeant).1]

/-- A service is created in a running process. -/
theorem NamesDistinct.create
    {packageName serviceName : String}
    {app : Nat}
    (before : NamesDistinct inner)
    (distinct : DistinctProcesses inner)
    (matched : TasksMatch inner)
    (notFound :
      findService inner.manager.apps inner.mServices packageName
          serviceName =
        none)
    (isAlive : inner.findAppInfoWithAlive packageName = some app)
    (policy : ProcessPriorityPolicy)
    (priority : ProcessPriority)
    (intent : Intent)
    (request : ServiceRequest) :
    NamesDistinct
      (inner.createService policy
        (.fresh serviceName inner.nextToken priority app) intent
        request) := by
  have isHosted :=
    distinct.bounded app (List.mem_of_find?_eq_some isAlive)
  obtain ⟨keys, numbered⟩ :=
    createService_keys before.numbered policy serviceName priority intent
      request isHosted
  have serviced :=
    createService_serviced inner policy
      (.fresh serviceName inner.nextToken priority app) intent request
  have same :=
    createService_sameProcesses inner policy
      (.fresh serviceName inner.nextToken priority app) intent request
  refine ⟨numbered, ?_⟩
  have sameNames :=
    fun other =>
      same.apps.map_eq (fun _ _ isSame => isSame.mPackageName) other
  have isNew :
      serviceNames
          (inner.createService policy
            (.fresh serviceName inner.nextToken priority app) intent
            request).manager.apps
          (inner.nextToken, serviceName, app) =
        some (packageName, serviceName) := by
    rw [serviceNames_eq (sameNames app)]
    obtain ⟨record, isRecord, isName⟩ :=
      Option.map_eq_some_iff.mp (mPackageName_of_alive isAlive)
    rw [serviceNames, isRecord, Option.map_some, isName]
  have named :
      (inner.createService policy
          (.fresh serviceName inner.nextToken priority app) intent
          request).namedServices =
        inner.namedServices ++ [(packageName, serviceName)] := by
    rw [namedServices, keys, List.filterMap_append]
    congr 1
    · apply List.filterMap_congr
      intro key _
      exact serviceNames_eq (sameNames _)
    · rw [List.filterMap_cons_some isNew, List.filterMap_nil]
  have awaited :
      (inner.createService policy
          (.fresh serviceName inner.nextToken priority app) intent
          request).awaitedServices =
        inner.awaitedServices := by
    rw [awaitedServices, serviced.mPendTask]
    rfl
  have notAwaited :
      (packageName, serviceName) ∉ inner.awaitedServices := by
    intro isAwaited
    obtain ⟨_, waits⟩ := matched.exists_waiting isAwaited
    exact distinct.not_waiting_of_alive isAlive waits
  rw [named, awaited, List.append_assoc, List.singleton_append,
    List.perm_middle.nodup_iff, List.nodup_cons, List.mem_append, not_or]
  exact ⟨⟨not_named_of_findService notFound, notAwaited⟩, before.names⟩

/-- The board has one more task, for a service or not. -/
theorem Submitted.awaitedServices_eq
    {name : String}
    {callback : AttachCallback}
    {spawned : Option Nat}
    {pid : Nat}
    (submitted : inner.Submitted name callback spawned next pid) :
    ∃ task : AppAttachTask,
      task.processName = name ∧
        task.mCallback = callback ∧
        next.awaitedServices =
          inner.awaitedServices ++ task.awaitedService.toList :=
  submitted.pending_eq AppAttachTask.awaitedService

/-- A task is queued; if it is for a service, then for another one. -/
theorem Submitted.namesDistinct
    {name : String}
    {callback : AttachCallback}
    {spawned : Option Nat}
    {pid : Nat}
    (submitted : inner.Submitted name callback spawned next pid)
    (before : NamesDistinct inner)
    (isOther :
      ∀ serviceName intent priority request,
        callback = .startService serviceName intent priority request →
        (name, serviceName) ∉ inner.namedServices ∧
          (name, serviceName) ∉ inner.awaitedServices) :
    NamesDistinct next := by
  obtain ⟨task, isNamed, isCallback, awaited⟩ :=
    submitted.awaitedServices_eq
  have fewer := submitted.fewerServices
  refine ⟨fewer.numbered before.numbered, ?_⟩
  have named : next.namedServices = inner.namedServices := by
    rw [namedServices, submitted.manager_eq,
      submitted.mServices_eq]
    rfl
  rw [named, awaited]
  cases isAwaited : task.awaitedService with
  | none =>
      rw [Option.toList_none, List.append_nil]
      exact before.names
  | some service =>
      obtain ⟨demand, isDemand, isService⟩ :=
        Option.map_eq_some_iff.mp isAwaited
      unfold AppAttachTask.demand at isDemand
      split at isDemand
      · rename_i serviceName intent priority request isStart
        have notThere :=
          isOther serviceName intent priority request
            (isCallback.symm.trans isStart)
        rw [← Option.some.inj isDemand, isNamed] at isService
        rw [← isService, Option.toList_some, ← List.append_assoc,
          List.nodup_append]
        refine ⟨before.names, List.nodup_singleton _, ?_⟩
        intro other member last isLast
        rw [List.mem_singleton.mp isLast]
        rintro rfl
        rcases List.mem_append.mp member with isThere | isAlready
        · exact notThere.1 isThere
        · exact notThere.2 isAlready
      · cases isDemand

/-! ## A process attaches -/

/-- The tasks of an event, and those that wait on, are all that waited. -/
theorem pending_perm
    (e : AppAttachEvent)
    (handlers : List (TaskTimeoutHandler AppAttachTask)) :
    (handlers.filter (·.pendingFor e) ++
        (handlers.map (settle e)).filter fun handler =>
          !handler.mIsDone).Perm
      (handlers.filter fun handler => !handler.mIsDone) := by
  induction handlers with
  | nil =>
      exact .refl _
  | cons handler rest inductionHypothesis =>
      rw [List.map_cons]
      by_cases isPending : handler.pendingFor e = true
      · have notDone := (pendingFor_iff.mp isPending).1
        rw [List.filter_cons_of_pos isPending, settle, if_pos isPending,
          List.filter_cons_of_neg (by simp),
          List.filter_cons_of_pos (by simp [notDone])]
        exact inductionHypothesis.cons handler
      · rw [List.filter_cons_of_neg isPending, settle, if_neg isPending]
        cases isDone : handler.mIsDone with
        | true =>
            rw [List.filter_cons_of_neg (by simp [isDone]),
              List.filter_cons_of_neg (by simp [isDone])]
            exact inductionHypothesis
        | false =>
            rw [List.filter_cons_of_pos (by simp [isDone]),
              List.filter_cons_of_pos (by simp [isDone])]
            exact List.perm_middle.trans (inductionHypothesis.cons handler)

/-- The services that were waited for are there. -/
theorem NamesDistinct.attach
    {e : AppAttachEvent}
    {packageName : String}
    {isSystemUI : Bool}
    (before : NamesDistinct inner)
    (distinct : DistinctProcesses inner)
    (matched : TasksMatch inner)
    (isApp : e.mAppRecord = inner.manager.nextApp)
    (isWaiting : inner.getAttachingAppName e.mPid = some packageName)
    (isNext :
      eventTrigger e packageName inner.mPendTask.mTasklist
          ((inner.deleteAppWaitingAttach e.mPid).addAppInfo packageName
            isSystemUI e.mPid) =
        some next) :
    NamesDistinct next := by
  have isHosted :
      e.mAppRecord <
        ((inner.deleteAppWaitingAttach e.mPid).addAppInfo packageName
          isSystemUI e.mPid).manager.nextApp := by
    rw [isApp]
    exact Nat.lt_succ_self _
  obtain ⟨numbered, added, keys, addedNames⟩ :=
    eventTrigger_keys
      (attach_numbered before.numbered packageName isSystemUI e.mPid)
      isHosted isNext
  have keys :
      next.mServices.map ServiceRecord.key =
        inner.mServices.map ServiceRecord.key ++ added :=
    keys
  have same := eventTrigger_sameProcesses isNext
  have nameNow :
      ∀ app,
        (next.manager.apps app).map AppRecord.mPackageName =
          (Function.update inner.manager.apps inner.manager.nextApp
            (some (.attached packageName isSystemUI e.mPid)) app).map
              AppRecord.mPackageName :=
    fun app =>
      same.apps.map_eq (fun _ _ isSame => isSame.mPackageName) app
  have oldNames :
      (inner.mServices.map ServiceRecord.key).filterMap
          (serviceNames next.manager.apps) =
        inner.namedServices := by
    apply List.filterMap_congr
    intro key isKey
    obtain ⟨service, isListed, rfl⟩ := List.mem_map.mp isKey
    have notNew : service.key.2.2 ≠ inner.manager.nextApp :=
      Nat.ne_of_lt (before.numbered.hosted service isListed)
    apply serviceNames_eq
    rw [nameNow, Function.update_of_ne notNew]
  have newNames :
      added.filterMap (serviceNames next.manager.apps) =
        (inner.mPendTask.mTasklist.filter (·.pendingFor e)).filterMap
          (·.mTask.awaitedService) := by
    have byApp :
        added.filterMap (serviceNames next.manager.apps) =
          (added.map Prod.snd).filterMap fun key =>
            (next.manager.apps key.2).map fun record =>
              (record.mPackageName, key.1) := by
      rw [List.filterMap_map]
      rfl
    rw [byApp, addedNames, List.map_filterMap, List.filterMap_filterMap]
    apply List.filterMap_congr
    intro handler isPending
    obtain ⟨onBoard, isPending⟩ := List.mem_filter.mp isPending
    have isName :=
      matched.processName_of_pendingFor distinct isWaiting onBoard
        isPending
    have isRecordName := nameNow e.mAppRecord
    rw [isApp, Function.update_self, Option.map_some] at isRecordName
    obtain ⟨record, isRecord, isPackage⟩ :=
      Option.map_eq_some_iff.mp isRecordName
    unfold AppAttachTask.awaitedService
    cases handler.mTask.demand with
    | none =>
        rfl
    | some demand =>
        simp [isApp, isRecord, isPackage, isName, AppRecord.attached]
  have boardList :
      next.mPendTask.mTasklist =
        inner.mPendTask.mTasklist.map (settle e) := by
    rw [(eventTrigger_board isNext).1]
    exact markAll_pending matched.numbered e
  refine ⟨numbered, ?_⟩
  have named : next.namedServices =
      inner.namedServices ++
        (inner.mPendTask.mTasklist.filter (·.pendingFor e)).filterMap
          (·.mTask.awaitedService) := by
    rw [namedServices, keys, List.filterMap_append, oldNames, newNames]
  have permuted :
      (next.namedServices ++ next.awaitedServices).Perm
        (inner.namedServices ++ inner.awaitedServices) := by
    rw [named, awaitedServices, boardList, List.append_assoc,
      ← List.filterMap_append]
    exact ((pending_perm e _).filterMap _).append_left _
  exact permuted.nodup_iff.mpr before.names

/-! ## Steps -/

/-- A quiet step changes no names. -/
theorem NamesDistinct.quiet
    {parts : TaskStackManager.Parts}
    (before : NamesDistinct inner)
    (quiet : Quiet parts inner next)
    (areRoutine : parts.AreRoutine) :
    NamesDistinct next :=
  before.fewer (quiet.fewerServices areRoutine)
    (quiet.sameProcesses areRoutine).namesStay quiet.mPendTask

/-- Nor does an operation on a service. -/
theorem NamesDistinct.serviced
    (before : NamesDistinct inner)
    (serviced : Serviced inner next) :
    NamesDistinct next :=
  before.fewer (serviced.fewerServices before.numbered)
    serviced.sameProcesses.namesStay serviced.mPendTask

/-- A new order of the tasks, and maybe a new activity. -/
theorem NamesDistinct.rearranged
    {manager : TaskStackManager}
    (before : NamesDistinct inner)
    (rearranged : inner.Rearranged next manager)
    (sameApps : manager.apps = inner.manager.apps)
    (sameNumber : manager.nextApp = inner.manager.nextApp) :
    NamesDistinct next := by
  have same := rearranged.sameProcesses sameApps sameNumber
  exact
    before.fewer
      (.of_same rearranged.mServices rearranged.nextToken same.nextApp.ge)
      same.namesStay rearranged.mPendTask

/-- A process of the list exits; its name goes. -/
theorem ExitOutcome.namesStay
    {pid : Nat}
    (outcome : inner.ExitOutcome pid next) :
    NamesStay inner next := by
  cases outcome with
  | @hosted app record exited ended deleted policy _ _ quiet isRecord
      terminated isDeleted _ =>
      have same :=
        ((quiet.sameProcesses partsOf_procAppTerminated_areRoutine).trans
          (swapServices_sameProcesses isRecord)).trans
            terminated.sameProcesses
      have sameApps :
          deleted.manager.apps =
            Function.update ended.manager.apps app none := by
        rw [deleteAppInfo_cases isDeleted]
      intro other isKnown
      change deleted.manager.apps other = none ∨
        (deleted.manager.apps other).map AppRecord.mPackageName = _
      rw [sameApps]
      by_cases isApp : other = app
      · rw [isApp, Function.update_self]
        exact Or.inl rfl
      · rw [Function.update_of_ne isApp]
        exact same.namesStay other isKnown
  | waiting _ _ =>
      exact fun _ _ => Or.inr rfl
  | unknown _ _ =>
      exact fun _ _ => Or.inr rfl

/-- A task for a service is only queued where none is. -/
theorem not_awaited_of_queuesOnce
    {action : InnerAction}
    {serviceName : String}
    {packageInfo : PackageInfo}
    {intent : Intent}
    {request : ServiceRequest}
    {info : ServiceInfo}
    (queuesOnce : inner.queuesAgain action = false)
    (isRequest :
      action.serviceRequest =
        some (serviceName, packageInfo, intent, request))
    (isDeclared :
      packageInfo.servicesInfo.find? (·.name == serviceName) =
        some info) :
    (packageInfo.servicePackageName, serviceName) ∉
      inner.awaitedServices := by
  intro isAwaited
  have declared :
      packageInfo.servicesInfo.any (·.name == serviceName) = true := by
    have isNamed := List.find?_some isDeclared
    exact
      List.any_eq_true.mpr
        ⟨info, List.mem_of_find?_eq_some isDeclared, isNamed⟩
  rw [queuesAgain, isRequest] at queuesOnce
  dsimp only at queuesOnce
  rw [declared, List.contains_iff_mem.mpr isAwaited] at queuesOnce
  cases queuesOnce

/-- Every step keeps the names distinct. -/
theorem NamesDistinct.step
    {action : InnerAction}
    (before : NamesDistinct inner)
    (distinct : DistinctProcesses inner)
    (matched : TasksMatch inner)
    (queuesOnce : inner.queuesAgain action = false)
    (isNext : inner.step? action = some next) :
    NamesDistinct next := by
  cases step?_outcome isNext with
  | activity outcome =>
      cases outcome with
      | rejected quiet =>
          exact before.quiet quiet ownParts_areRoutine
      | turned quiet =>
          exact before.quiet quiet ownParts_areRoutine
      | hosted _ isCreated quiet =>
          exact (before.rearranged isCreated rfl rfl).quiet quiet
            ownParts_areRoutine
      | queued _ _ isCreated submitted quiet =>
          refine
            (submitted.namesDistinct
              (before.rearranged isCreated rfl rfl) ?_).quiet quiet
              ownParts_areRoutine
          intro serviceName intent priority request isService
          cases isService
  | service isRequest outcome =>
      cases outcome with
      | rejected =>
          exact before
      | found isFound =>
          exact before.serviced
            (requestService_serviced (mem_of_findService isFound).1 _ _)
      | created notFound isAlive _ _ =>
          exact before.create distinct matched notFound isAlive _ _ _ _
      | queued isDeclared notFound _ submitted =>
          refine submitted.namesDistinct before ?_
          intro serviceName intent priority request isService
          rw [AttachCallback.startService.injEq] at isService
          rw [← isService.1]
          exact
            ⟨not_named_of_findService notFound,
              not_awaited_of_queuesOnce queuesOnce isRequest isDeclared⟩
  | serviced serviced =>
      exact before.serviced serviced
  | reported outcome =>
      exact before.fewer (outcome.fewerServices before.numbered)
        outcome.sameProcesses.namesStay outcome.sameBoard.1
  | attached outcome =>
      cases outcome with
      | known _ =>
          exact before
      | attached _ isWaiting isServed =>
          exact before.attach distinct matched rfl isWaiting isServed
      | illegal _ =>
          exact before
  | exited outcome =>
      refine before.fewer (outcome.fewerServices before.numbered)
        outcome.namesStay ?_
      cases outcome with
      | hosted _ _ quiet _ terminated isDeleted _ =>
          rw [deleteAppInfo_cases isDeleted]
          exact terminated.mPendTask.trans quiet.mPendTask
      | waiting _ _ =>
          rfl
      | unknown _ _ =>
          rfl
  | quiet areRoutine quiet =>
      exact before.quiet quiet areRoutine

/-! ## Every run -/

/-- With distinct names a request reaches the one record that has them. -/
theorem NamesDistinct.reached
    {service : ServiceRecord}
    {packageName : String}
    (before : NamesDistinct inner)
    (isListed : service ∈ inner.mServices)
    (isPackage :
      service.getPackageName inner.manager.apps = some packageName) :
    findService inner.manager.apps inner.mServices packageName
        service.mServiceName =
      some service := by
  have distinct := (List.nodup_append.mp before.names).1
  have isName :
      ∀ other : ServiceRecord,
        other.getPackageName inner.manager.apps = some packageName →
        other.mServiceName = service.mServiceName →
        serviceNames inner.manager.apps other.key =
          some (packageName, service.mServiceName) := by
    intro other otherPackage sameName
    obtain ⟨record, isRecord, isPackage⟩ :=
      Option.map_eq_some_iff.mp otherPackage
    rw [serviceNames, ← sameName, ← isPackage]
    exact Option.map_eq_some_iff.mpr ⟨record, isRecord, rfl⟩
  cases isFound :
      findService inner.manager.apps inner.mServices packageName
        service.mServiceName with
  | none =>
      exact absurd
        (List.mem_filterMap.mpr
          ⟨service.key, List.mem_map_of_mem isListed,
            isName service isPackage rfl⟩)
        (not_named_of_findService isFound)
  | some other =>
      obtain ⟨otherListed, sameName, otherPackage⟩ :=
        mem_of_findService isFound
      unfold namedServices at distinct
      rw [List.filterMap_map] at distinct
      rw [eq_of_nodup_filterMap distinct otherListed isListed
        (isName other otherPackage sameName)
        (isName service isPackage rfl)]

/-- Requests for a service are not queued behind one another. -/
def PermittedOnce
    (inner : ActivityManagerInner)
    (action : InnerAction) : Prop :=
  PermittedAttached inner action ∧ inner.queuesAgain action = false

instance decidablePermittedOnce
    (inner : ActivityManagerInner)
    (action : InnerAction) :
    Decidable (PermittedOnce inner action) :=
  inferInstanceAs (Decidable (_ ∧ _))

/--
Unless requests for a service are queued behind one another, the list holds
at most one record for the names of a service.
-/
theorem uniqueServices_of_reachable
    (lines : List LmkRow)
    (arena : Int)
    (now : Nat)
    (inner : ActivityManagerInner)
    (reachable :
      Reachable step? PermittedOnce (start lines arena now) inner) :
    UniqueServices inner := by
  have invariant :
      (DistinctProcesses inner ∧ TasksMatch inner) ∧
        NamesDistinct inner := by
    refine
      reachable.invariant
        ⟨⟨.start lines arena now, .start lines arena now⟩,
          .start lines arena now, List.nodup_nil⟩ ?_
    rintro middle action after ⟨⟨distinct, matched⟩, names⟩ isPermitted
      isNext
    obtain ⟨⟨isPromised, exitsRight⟩, queuesOnce⟩ := isPermitted
    exact
      ⟨⟨distinct.step isPromised isNext,
          matched.step distinct exitsRight isNext⟩,
        names.step distinct matched queuesOnce isNext⟩
  have names := invariant.2
  exact
    { distinct := (List.nodup_append.mp names.names).1
      reached := fun _ isListed _ isPackage =>
        names.reached isListed isPackage }

/-- A service is started before its process attaches, and after that. -/
def startedTwice : Option ActivityManagerInner :=
  run? step? (start [] 0 0)
    [.startService "player" musicPackage plainIntent (some 11),
      .attachApplication 11 false,
      .bindService "player" musicPackage plainIntent 7 none]

/-- Both requests have reached one record. -/
theorem startedTwice_uniqueServices :
    UniqueServices (startedTwice.get rfl) := by
  have accepted : startedTwice = some (startedTwice.get rfl) :=
    (Option.some_get _).symm
  exact uniqueServices_of_reachable [] 0 0 _
    (Reachable.of_run? (by decide) accepted)

/-- A service is started twice before its process attaches. -/
def queuedTwice : Option ActivityManagerInner :=
  run? step? (start [] 0 0)
    [.startService "player" musicPackage plainIntent (some 11),
      .bindService "player" musicPackage plainIntent 7 none,
      .attachApplication 11 false]

/-- There are two records then. -/
theorem queuedTwice_not_uniqueServices :
    Reachable step? PermittedAttached (start [] 0 0)
        (queuedTwice.get rfl) ∧
      ¬ UniqueServices (queuedTwice.get rfl) := by
  have accepted : queuedTwice = some (queuedTwice.get rfl) :=
    (Option.some_get _).symm
  refine ⟨Reachable.of_run? (by decide) accepted, ?_⟩
  intro unique
  have repeated : ¬ (queuedTwice.get rfl).namedServices.Nodup := by
    decide
  exact repeated unique.distinct

end ActivityManagerInner

end ActivityManager
