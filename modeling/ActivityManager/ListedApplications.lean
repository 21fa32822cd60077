import ActivityManager.UniqueProcess

/-!
# Listed applications

A step of the service keeps the processes, or spawns one, or is a process that
attaches or exits.  What the listed applications show of themselves, such as
their names and pids, changes in these ways only.
-/

namespace ActivityManager

/-- The action is not about a process that attaches or exits. -/
def InnerAction.isOrdinary : InnerAction → Bool
  | .attachApplication _ _ => false
  | .childExit _ => false
  | _ => true

namespace ActivityManagerInner

variable {inner next : ActivityManagerInner}

/-! ## Ordinary steps -/

/-- A process that is spawned besides the same ones. -/
theorem SameProcesses.spawn
    (same : SameProcesses inner next)
    (name : String)
    (pid : Nat) :
    SameProcesses (inner.spawn name pid) (next.spawn name pid) where
  apps := same.apps
  nextApp := same.nextApp
  mAppList := same.mAppList
  mAppWaitingAttach :=
    congrArg (· ++ [(name, pid)]) same.mAppWaitingAttach

/-- The processes stay the same, but for one that may be spawned. -/
inductive Spawns
    (inner : ActivityManagerInner)
    (spawned : Option Nat)
    (next : ActivityManagerInner) : Prop where
  | same
      (isSame : SameProcesses inner next)
  | spawned
      {name : String}
      {pid : Nat}
      (isSpawned : spawned = some pid)
      (isSame : SameProcesses (inner.spawn name pid) next)

namespace Spawns

variable
  {middle : ActivityManagerInner}
  {spawned : Option Nat}

theorem before
    (same : SameProcesses inner middle)
    (spawns : Spawns middle spawned next) :
    Spawns inner spawned next := by
  cases spawns with
  | same isSame =>
      exact .same (same.trans isSame)
  | spawned isSpawned isSame =>
      exact .spawned isSpawned ((same.spawn _ _).trans isSame)

theorem after
    (spawns : Spawns inner spawned middle)
    (same : SameProcesses middle next) :
    Spawns inner spawned next := by
  cases spawns with
  | same isSame =>
      exact .same (isSame.trans same)
  | spawned isSpawned isSame =>
      exact .spawned isSpawned (isSame.trans same)

end Spawns

/-- A task is queued for a process that waits, or for a new one. -/
theorem Submitted.toSpawns
    {name : String}
    {callback : AttachCallback}
    {spawned : Option Nat}
    {pid : Nat}
    (submitted : inner.Submitted name callback spawned next pid) :
    Spawns inner spawned next := by
  cases submitted with
  | behind _ =>
      exact .same (enqueue_sameProcesses inner _)
  | first _ isSpawned =>
      exact .spawned isSpawned (enqueue_sameProcesses _ _)

/-- What an ordinary step does to the processes. -/
theorem step?_spawns
    {action : InnerAction}
    (isOrdinary : action.isOrdinary = true)
    (isNext : inner.step? action = some next) :
    Spawns inner action.spawned next := by
  cases step?_outcome isNext with
  | activity outcome =>
      cases outcome with
      | rejected quiet =>
          exact .same quiet.own_sameProcesses
      | turned quiet =>
          exact .same quiet.own_sameProcesses
      | hosted _ isCreated quiet =>
          have created : SameProcesses inner _ :=
            isCreated.sameProcesses rfl rfl
          exact .same (created.trans quiet.own_sameProcesses)
      | queued _ _ isCreated submitted quiet =>
          have created : SameProcesses inner _ :=
            isCreated.sameProcesses rfl rfl
          exact
            (submitted.toSpawns.before created).after
              quiet.own_sameProcesses
  | service _ outcome =>
      cases outcome with
      | rejected =>
          exact .same (.refl inner)
      | found isFound =>
          exact
            .same
              (requestService_serviced (mem_of_findService isFound).1 _
                _).sameProcesses
      | created _ _ _ _ =>
          exact .same (createService_sameProcesses _ _ _ _ _)
      | queued _ _ _ submitted =>
          exact submitted.toSpawns
  | serviced serviced =>
      exact .same serviced.sameProcesses
  | reported outcome =>
      exact .same outcome.sameProcesses
  | attached _ =>
      cases isOrdinary
  | exited _ =>
      cases isOrdinary
  | quiet areRoutine quiet =>
      exact .same (quiet.sameProcesses areRoutine)

/-! ## What the list shows -/

section

variable {Value : Type}

/-- What each listed application shows of itself. -/
def listed
    (inner : ActivityManagerInner)
    (value : AppRecord → Value) : List Value :=
  inner.mAppList.filterMap fun app => (inner.manager.apps app).map value

variable {value : AppRecord → Value}

/-- The same processes show the same. -/
theorem SameProcesses.listed_eq
    (same : SameProcesses inner next)
    (keeps :
      ∀ old new, SameProcess old new → value new = value old) :
    next.listed value = inner.listed value := by
  unfold listed
  rw [same.mAppList, funext (same.apps.map_eq keeps)]

/-- A process that is only spawned is not listed. -/
theorem Spawns.listed_eq
    {spawned : Option Nat}
    (spawns : Spawns inner spawned next)
    (keeps :
      ∀ old new, SameProcess old new → value new = value old) :
    next.listed value = inner.listed value := by
  cases spawns with
  | same isSame =>
      exact isSame.listed_eq keeps
  | spawned _ isSame =>
      exact isSame.listed_eq keeps

/-- One record is added. -/
theorem addAppInfo_listed
    (bounded : ∀ app ∈ inner.mAppList, app < inner.manager.nextApp)
    (packageName : String)
    (isSystemUI : Bool)
    (pid : Nat) :
    (inner.addAppInfo packageName isSystemUI pid).listed value =
      inner.listed value ++
        [value (.attached packageName isSystemUI pid)] := by
  generalize isAttached :
    inner.addAppInfo packageName isSystemUI pid = attached
  have newRecord :
      attached.manager.apps =
        Function.update inner.manager.apps inner.manager.nextApp
          (some (.attached packageName isSystemUI pid)) := by
    rw [← isAttached]
    rfl
  have newList :
      attached.mAppList = inner.mAppList ++ [inner.manager.nextApp] := by
    rw [← isAttached]
    rfl
  have others :
      inner.mAppList.filterMap (fun app =>
          (attached.manager.apps app).map value) =
        inner.listed value := by
    refine List.filterMap_congr ?_
    intro app member
    have notNew : app ≠ inner.manager.nextApp :=
      Nat.ne_of_lt (bounded app member)
    rw [newRecord, Function.update_of_ne notNew]
  rw [← others, listed, newList, List.filterMap_append]
  simp [newRecord]

/-- One record goes. -/
theorem deleteAppInfo_listed
    (value : AppRecord → Value)
    {pid app : Nat}
    (before : DistinctProcesses inner)
    (isFound : inner.findAppInfo pid = some app)
    (isNext : inner.deleteAppInfo pid app = some next) :
    (inner.listed value).Perm
      (next.listed value ++
        ((inner.manager.apps app).map value).toList) := by
  have left := perm_cons_swapRemove isFound
  have distinct := left.nodup_iff.mp before.mAppList
  rw [List.nodup_cons] at distinct
  have others :
      next.listed value =
        (swapRemove
          (fun app => (inner.manager.apps app).any (·.mPid = pid))
          inner.mAppList).filterMap fun app =>
            (inner.manager.apps app).map value := by
    rw [deleteAppInfo_cases isNext]
    refine List.filterMap_congr ?_
    intro other member
    have notApp : other ≠ app := by
      rintro rfl
      exact distinct.1 member
    dsimp only
    rw [Function.update_of_ne notApp]
  rw [others]
  refine (left.filterMap _).trans ?_
  refine List.Perm.trans (List.Perm.of_eq ?_) List.perm_append_comm
  cases isRecord : inner.manager.apps app with
  | none =>
      simp [isRecord]
  | some record =>
      simp [isRecord]

/-- The application of a process that attaches is listed. -/
theorem AttachOutcome.listed_eq
    {callerPid : Nat}
    {isSystemUI : Bool}
    {packageName : String}
    (outcome : inner.AttachOutcome callerPid isSystemUI next)
    (before : DistinctProcesses inner)
    (notKnown : inner.findAppInfo callerPid = none)
    (isWaiting : inner.getAttachingAppName callerPid = some packageName)
    (keeps :
      ∀ old new, SameProcess old new → value new = value old) :
    next.listed value =
      inner.listed value ++
        [value (.attached packageName isSystemUI callerPid)] := by
  cases outcome with
  | known isKnown =>
      rw [isKnown] at notKnown
      cases notKnown
  | illegal notWaiting =>
      rw [notWaiting] at isWaiting
      cases isWaiting
  | attached _ isName isServed =>
      rw [isWaiting] at isName
      obtain rfl := Option.some.inj isName
      rw [(eventTrigger_sameProcesses isServed).listed_eq keeps]
      have bounded :
          ∀ app ∈ (inner.deleteAppWaitingAttach callerPid).mAppList,
            app <
              (inner.deleteAppWaitingAttach callerPid).manager.nextApp :=
        before.bounded
      exact addAppInfo_listed bounded packageName isSystemUI callerPid

/-- The application of a process that exits is not listed any more. -/
theorem ExitOutcome.listed_perm
    {pid : Nat}
    (outcome : inner.ExitOutcome pid next)
    (before : DistinctProcesses inner)
    (keeps :
      ∀ old new, SameProcess old new → value new = value old) :
    (inner.listed value).Perm
      (next.listed value ++
        ((inner.findAppInfo pid).bind fun app =>
          (inner.manager.apps app).map value).toList) := by
  cases outcome with
  | hosted isFound _ quiet isRecord terminated isDeleted _ =>
      have same :=
        ((quiet.sameProcesses partsOf_procAppTerminated_areRoutine).trans
          (swapServices_sameProcesses isRecord)).trans
            terminated.sameProcesses
      have exit :=
        deleteAppInfo_listed value (same.distinct before)
          (same.findAppInfo_eq _ ▸ isFound) isDeleted
      rw [same.listed_eq keeps, same.apps.map_eq keeps] at exit
      rw [isFound, Option.bind_some]
      exact exit
  | waiting notFound _ =>
      rw [notFound]
      exact List.Perm.of_eq (List.append_nil _).symm
  | unknown notFound _ =>
      rw [notFound]
      exact List.Perm.of_eq (List.append_nil _).symm

end

end ActivityManagerInner

end ActivityManager
