import ActivityManager.ListedApplications

/-!
# Children of the service

The processes of the applications are children of the service.  The system
sends a signal when one exits, but one signal may stand for many exits, so the
handler asks `waitpid` until there is no child left.  Each exit is reported to
the service once, and when the handler is not due all the processes that the
service knows run.

The system does not use the pid of a child again before `waitpid` has returned
it.  That is all that the other modules assume about pids.
-/

namespace ActivityManager

open StepSystem (run? Reachable)

/-- The service, and what the system keeps of its children. -/
structure ChildProcesses where
  inner : ActivityManagerInner
  /-- The children that run. -/
  alive : List Nat
  /-- The children that `waitpid` has not returned since they have exited. -/
  exited : List Nat
  /-- `SIGCHLD` has been sent since the handler was called. -/
  isSent : Bool
  /-- The handler is in its loop. -/
  isHandling : Bool
  /-- Ghost: the exits, in order. -/
  exits : List Nat
  /-- Ghost: the calls of `mChildPidExitCB`, in order. -/
  reports : List Nat

/-- What may happen to the service and its children. -/
inductive ChildAction where
  /-- Anything but an exit. -/
  | inner (action : InnerAction)
  | exit (pid : Nat)
  /-- The handler of `signalInit` is called, perhaps without need. -/
  | handle
  /-- `waitpid` returns a child. -/
  | waitpid (pid : Nat)
  /-- `waitpid` returns nothing. -/
  | noChild

/-- A process exits. -/
def InnerAction.isExit : InnerAction → Bool
  | .childExit _ => true
  | _ => false

namespace ChildProcesses

/-- A new service has no children. -/
def start
    (lines : List LmkRow)
    (arena : Int)
    (now : Nat) : ChildProcesses where
  inner := .start lines arena now
  alive := []
  exited := []
  isSent := false
  isHandling := false
  exits := []
  reports := []

/-- The child that `appSpawn` has started on the way to a state. -/
def spawnedBy
    (action : InnerAction)
    (next : ActivityManagerInner) : List Nat :=
  action.spawned.toList.filter (· ∈ next.livePids)

/-- Perform one step. -/
def step? (system : ChildProcesses) : ChildAction → Option ChildProcesses
  | .inner action =>
      if action.isExit then
        none
      else
        (system.inner.step? action).map fun next =>
          { system with
            inner := next
            alive := system.alive ++ spawnedBy action next }
  | .exit pid =>
      if pid ∈ system.alive then
        some
          { system with
            alive := system.alive.erase pid
            exited := system.exited ++ [pid]
            isSent := true
            exits := system.exits ++ [pid] }
      else
        none
  | .handle =>
      if system.isHandling then
        none
      else
        some { system with isSent := false, isHandling := true }
  | .waitpid pid =>
      if system.isHandling ∧ pid ∈ system.exited then
        (system.inner.step? (.childExit pid)).map fun next =>
          { system with
            inner := next
            exited := system.exited.erase pid
            reports := system.reports ++ [pid] }
      else
        none
  | .noChild =>
      if system.isHandling ∧ system.exited = [] then
        some { system with isHandling := false }
      else
        none

/-- `posix_spawn` returns no pid that a child has. -/
def Allowed (system : ChildProcesses) (action : ChildAction) : Prop :=
  match action with
  | .inner action =>
      ∀ pid ∈ action.spawned, pid ∉ system.alive ∧ pid ∉ system.exited
  | _ => True

instance decidableAllowed
    (system : ChildProcesses) :
    ∀ action, Decidable (Allowed system action)
  | .inner action =>
      inferInstanceAs (Decidable (∀ pid ∈ action.spawned, _))
  | .exit _ => isTrue trivial
  | .handle => isTrue trivial
  | .waitpid _ => isTrue trivial
  | .noChild => isTrue trivial

end ChildProcesses

/-! ## Pids of the service -/

namespace ActivityManagerInner

variable {inner next : ActivityManagerInner}

/-- An ordinary step only adds the pid of a process that it spawns. -/
theorem Spawns.livePids
    {spawned : Option Nat}
    {pid : Nat}
    (spawns : Spawns inner spawned next)
    (lives : pid ∈ next.livePids) :
    pid ∈ inner.livePids ∨ spawned = some pid := by
  cases spawns with
  | same isSame =>
      rw [isSame.livePids_eq] at lives
      exact .inl lives
  | @spawned name other isSpawned isSame =>
      have shape :
          (inner.spawn name other).livePids = inner.livePids ++ [other] := by
        simp [ActivityManagerInner.livePids, ActivityManagerInner.spawn]
      rw [isSame.livePids_eq, shape, List.mem_append,
        List.mem_singleton] at lives
      rcases lives with isOld | rfl
      · exact .inl isOld
      · exact .inr isSpawned

/-- A process that neither is listed nor waits is not known. -/
theorem not_mem_livePids
    {pid : Nat}
    (notFound : inner.findAppInfo pid = none)
    (notWaiting : inner.getAttachingAppName pid = none) :
    pid ∉ inner.livePids := by
  intro lives
  obtain isListed | isWaiting := List.mem_append.mp lives
  · obtain ⟨app, member, isPid⟩ := List.mem_filterMap.mp isListed
    obtain ⟨record, isRecord, rfl⟩ := Option.map_eq_some_iff.mp isPid
    have none := List.find?_eq_none.mp notFound app member
    simp [isRecord] at none
  · obtain ⟨entry, member, rfl⟩ := List.mem_map.mp isWaiting
    have none :=
      List.find?_eq_none.mp (Option.map_eq_none_iff.mp notWaiting) entry
        member
    simp at none

/-- The record of a process that is found has its pid. -/
theorem mPid_of_findAppInfo
    {pid app : Nat}
    (isFound : inner.findAppInfo pid = some app) :
    (inner.manager.apps app).map AppRecord.mPid = some pid := by
  unfold findAppInfo at isFound
  have isMatch := List.find?_some isFound
  obtain ⟨record, isRecord, isPid⟩ := (Option.any_eq_true _ _).mp isMatch
  rw [isRecord, Option.map_some, of_decide_eq_true isPid]

/-- A process that waits to attach waits under its pid. -/
theorem waiting_perm
    {packageName : String}
    {pid : Nat}
    (isWaiting : inner.getAttachingAppName pid = some packageName) :
    inner.livePids.Perm
      ((inner.deleteAppWaitingAttach pid).livePids ++ [pid]) := by
  obtain ⟨entry, isEntry, _⟩ := Option.map_eq_some_iff.mp isWaiting
  have isPid : entry.2 = pid := by
    simpa using List.find?_some isEntry
  have left := (perm_cons_swapRemove isEntry).map Prod.snd
  rw [List.map_cons, isPid] at left
  exact
    ((left.append_left (inner.listed AppRecord.mPid)).trans
      List.perm_middle).trans (List.perm_append_singleton pid _).symm

/-- A process that attaches has waited. -/
theorem AttachOutcome.livePids
    {callerPid pid : Nat}
    {isSystemUI : Bool}
    (outcome : inner.AttachOutcome callerPid isSystemUI next)
    (before : DistinctProcesses inner)
    (lives : pid ∈ next.livePids) :
    pid ∈ inner.livePids := by
  cases outcome with
  | known _ =>
      exact lives
  | illegal _ =>
      exact lives
  | @attached packageName _ notKnown isWaiting isServed =>
      have bounded :
          ∀ app ∈ (inner.deleteAppWaitingAttach callerPid).mAppList,
            app <
              (inner.deleteAppWaitingAttach callerPid).manager.nextApp :=
        before.bounded
      have added :
          ((inner.deleteAppWaitingAttach callerPid).addAppInfo packageName
              isSystemUI callerPid).listed AppRecord.mPid =
            inner.listed AppRecord.mPid ++ [callerPid] :=
        addAppInfo_listed bounded packageName isSystemUI callerPid
      have shape :
          ((inner.deleteAppWaitingAttach callerPid).addAppInfo packageName
              isSystemUI callerPid).livePids.Perm
            ((inner.deleteAppWaitingAttach callerPid).livePids ++
              [callerPid]) := by
        refine (List.Perm.of_eq (congrArg (· ++ _) added)).trans ?_
        rw [List.append_assoc]
        refine (List.Perm.append_left _ List.perm_append_comm).trans ?_
        exact List.Perm.of_eq (List.append_assoc _ _ _).symm
      rw [(eventTrigger_sameProcesses isServed).livePids_eq,
        shape.mem_iff] at lives
      exact (waiting_perm isWaiting).mem_iff.mpr lives

/-- A process that has exited is not known any more, and no other comes. -/
theorem ExitOutcome.livePids
    {pid other : Nat}
    (outcome : inner.ExitOutcome pid next)
    (before : DistinctProcesses inner)
    (lives : other ∈ next.livePids) :
    other ∈ inner.livePids ∧ other ≠ pid := by
  have gone :
      inner.livePids.Perm (next.livePids ++ [pid]) →
        other ∈ inner.livePids ∧ other ≠ pid := by
    intro left
    have distinct := left.nodup_iff.mp before.pids
    rw [List.nodup_append] at distinct
    exact
      ⟨left.mem_iff.mpr (List.mem_append_left _ lives),
        distinct.2.2 other lives pid (List.mem_singleton_self pid)⟩
  have listed :=
    outcome.listed_perm before fun _ _ isSame => isSame.mPid
  cases outcome with
  | @hosted app record exited ended deleted policy isFound _ quiet isRecord
      terminated isDeleted _ =>
      have same :=
        ((quiet.sameProcesses partsOf_procAppTerminated_areRoutine).trans
          (swapServices_sameProcesses isRecord)).trans
            terminated.sameProcesses
      have sameWaiting :
          deleted.mAppWaitingAttach = inner.mAppWaitingAttach :=
        (deleteAppInfo_mAppWaitingAttach isDeleted).trans
          same.mAppWaitingAttach
      rw [isFound, Option.bind_some, mPid_of_findAppInfo isFound] at listed
      refine gone ((listed.append_right _).trans ?_)
      rw [List.append_assoc]
      refine (List.Perm.append_left _ List.perm_append_comm).trans ?_
      rw [← List.append_assoc, ← sameWaiting]
      exact List.Perm.refl _
  | waiting notFound isWaiting =>
      exact gone (waiting_perm isWaiting)
  | unknown notFound notWaiting =>
      refine ⟨lives, ?_⟩
      rintro rfl
      exact not_mem_livePids notFound notWaiting lives

/-- Unless a process exits, only the pid of a spawned one is new. -/
theorem livePids_of_step
    {action : InnerAction}
    {pid : Nat}
    (before : DistinctProcesses inner)
    (notExit : action.isExit = false)
    (isNext : inner.step? action = some next)
    (lives : pid ∈ next.livePids) :
    pid ∈ inner.livePids ∨ action.spawned = some pid := by
  cases isOrdinary : action.isOrdinary with
  | true =>
      exact (step?_spawns isOrdinary isNext).livePids lives
  | false =>
      cases action with
      | attachApplication callerPid isSystemUI =>
          exact
            .inl ((attachApplication_outcome isNext).livePids before lives)
      | childExit other =>
          cases notExit
      | _ =>
          cases isOrdinary

end ActivityManagerInner

/-! ## Every run -/

namespace ChildProcesses

variable {system next : ChildProcesses}

/-- The invariant: who is known has not been returned by `waitpid`. -/
structure ChildrenKept (system : ChildProcesses) : Prop where
  distinct : system.inner.DistinctProcesses
  pids : (system.alive ++ system.exited).Nodup
  known :
    ∀ pid ∈ system.inner.livePids,
      pid ∈ system.alive ∨ pid ∈ system.exited
  /-- An exit is not missed, though a signal may stand for many. -/
  due :
    system.exited ≠ [] →
    system.isSent = true ∨ system.isHandling = true
  once :
    ∀ pid,
      system.exits.count pid =
        system.reports.count pid + system.exited.count pid

/-- Fresh pids are fresh for the service too. -/
theorem ChildrenKept.permitted
    (kept : ChildrenKept system)
    {action : InnerAction}
    (isAllowed : Allowed system (.inner action)) :
    ActivityManagerInner.Permitted system.inner action := by
  refine (Option.all_eq_true _ _).mpr ?_
  intro pid isSpawned
  refine decide_eq_true fun lives => ?_
  obtain ⟨notAlive, notExited⟩ := isAllowed pid isSpawned
  exact (kept.known pid lives).elim notAlive notExited

/-- A step of the service, which is no exit. -/
theorem step?_inner
    {action : InnerAction}
    (isNext : system.step? (.inner action) = some next) :
    action.isExit = false ∧
      ∃ inner,
        system.inner.step? action = some inner ∧
          next =
            { system with
              inner := inner
              alive := system.alive ++ spawnedBy action inner } := by
  rw [step?] at isNext
  split at isNext
  · cases isNext
  · rename_i notExit
    obtain ⟨inner, isInner, rfl⟩ := Option.map_eq_some_iff.mp isNext
    exact ⟨Bool.eq_false_iff.mpr notExit, inner, isInner, rfl⟩

namespace ChildrenKept

/-- A new child has a pid of its own. -/
theorem inner
    {action : InnerAction}
    {inner : ActivityManagerInner}
    (before : ChildrenKept system)
    (isAllowed : Allowed system (.inner action))
    (notExit : action.isExit = false)
    (isNext : system.inner.step? action = some inner) :
    ChildrenKept
      { system with
        inner := inner
        alive := system.alive ++ spawnedBy action inner } where
  distinct := before.distinct.step (before.permitted isAllowed) isNext
  pids := by
    have isNew :
        ∀ pid ∈ spawnedBy action inner,
          pid ∉ system.alive ∧ pid ∉ system.exited := by
      intro pid member
      have isSpawned := (List.mem_filter.mp member).1
      exact isAllowed pid (Option.mem_toList.mp isSpawned)
    have distinctNew : (spawnedBy action inner).Nodup := by
      refine List.Nodup.filter _ ?_
      cases action.spawned with
      | none =>
          exact List.nodup_nil
      | some pid =>
          exact List.nodup_singleton pid
    have moved :
        (system.alive ++ spawnedBy action inner ++ system.exited).Perm
          (spawnedBy action inner ++ (system.alive ++ system.exited)) := by
      rw [← List.append_assoc]
      exact List.perm_append_comm.append_right _
    rw [moved.nodup_iff, List.nodup_append]
    refine ⟨distinctNew, before.pids, ?_⟩
    rintro pid member other isOld rfl
    obtain ⟨notAlive, notExited⟩ := isNew pid member
    exact (List.mem_append.mp isOld).elim notAlive notExited
  known := by
    intro pid lives
    obtain isOld | isSpawned :=
      ActivityManagerInner.livePids_of_step before.distinct notExit isNext
        lives
    · exact
        (before.known pid isOld).imp_left (List.mem_append_left _)
    · refine .inl (List.mem_append_right _ ?_)
      refine List.mem_filter.mpr ⟨?_, decide_eq_true lives⟩
      exact Option.mem_toList.mpr isSpawned
  due := before.due
  once := before.once

/-- An exit is due until `waitpid` returns it. -/
theorem exit
    {pid : Nat}
    (before : ChildrenKept system)
    (isAlive : pid ∈ system.alive) :
    ChildrenKept
      { system with
        alive := system.alive.erase pid
        exited := system.exited ++ [pid]
        isSent := true
        exits := system.exits ++ [pid] } := by
  have moved :
      (system.alive ++ system.exited).Perm
        (system.alive.erase pid ++ (system.exited ++ [pid])) := by
    have left := (List.perm_cons_erase isAlive).append_right system.exited
    rw [← List.append_assoc]
    exact left.trans (List.perm_append_singleton pid _).symm
  exact
    { distinct := before.distinct
      pids := moved.nodup_iff.mp before.pids
      known := by
        intro other lives
        have isChild :=
          moved.mem_iff.mp (List.mem_append.mpr (before.known other lives))
        exact List.mem_append.mp isChild
      due := fun _ => .inl rfl
      once := by
        intro other
        have once := before.once other
        rw [List.count_append, List.count_append, once]
        exact Nat.add_assoc _ _ _ }

/-- `waitpid` reports an exit once. -/
theorem waitpid
    {pid : Nat}
    {inner : ActivityManagerInner}
    (before : ChildrenKept system)
    (isHandling : system.isHandling = true)
    (hasExited : pid ∈ system.exited)
    (isNext : system.inner.step? (.childExit pid) = some inner) :
    ChildrenKept
      { system with
        inner := inner
        exited := system.exited.erase pid
        reports := system.reports ++ [pid] } := by
  have outcome := ActivityManagerInner.childExit_outcome isNext
  have left := List.perm_cons_erase hasExited
  exact
    { distinct := outcome.distinct before.distinct
      pids :=
        before.pids.sublist
          (List.erase_sublist.append_left system.alive)
      known := by
        intro other lives
        obtain ⟨isOld, isOther⟩ := outcome.livePids before.distinct lives
        refine (before.known other isOld).imp_right fun member => ?_
        exact (List.mem_erase_of_ne isOther).mpr member
      due := fun _ => .inr isHandling
      once := by
        intro other
        have once := before.once other
        rw [left.count_eq, ← List.singleton_append, List.count_append]
          at once
        change
          system.exits.count other =
            (system.reports ++ [pid]).count other +
              (system.exited.erase pid).count other
        rw [List.count_append, once]
        exact (Nat.add_assoc _ _ _).symm }

/-- Every step keeps the invariant. -/
theorem step
    {action : ChildAction}
    (before : ChildrenKept system)
    (isAllowed : Allowed system action)
    (isNext : system.step? action = some next) :
    ChildrenKept next := by
  cases action with
  | inner action =>
      obtain ⟨notExit, inner, isInner, rfl⟩ := step?_inner isNext
      exact before.inner isAllowed notExit isInner
  | exit pid =>
      rw [step?] at isNext
      split at isNext
      · rename_i isAlive
        rw [← Option.some.inj isNext]
        exact before.exit isAlive
      · cases isNext
  | handle =>
      rw [step?] at isNext
      split at isNext
      · cases isNext
      · rw [← Option.some.inj isNext]
        exact { before with due := fun _ => .inr rfl }
  | waitpid pid =>
      rw [step?] at isNext
      split at isNext
      · rename_i isDue
        obtain ⟨inner, isInner, rfl⟩ := Option.map_eq_some_iff.mp isNext
        exact before.waitpid isDue.1 isDue.2 isInner
      · cases isNext
  | noChild =>
      rw [step?] at isNext
      split at isNext
      · rename_i isDone
        rw [← Option.some.inj isNext]
        exact
          { before with due := fun notEmpty => absurd isDone.2 notEmpty }
      · cases isNext

end ChildrenKept

/-- What a step does to the service. -/
inductive InnerStep
    (system next : ChildProcesses)
    (action : ChildAction) : Prop where
  | silent
      (isSame : next.inner = system.inner)
  | acts
      {innerAction : InnerAction}
      (isAction : action = .inner innerAction)
      (isInner : system.inner.step? innerAction = some next.inner)
  | reports
      {pid : Nat}
      (isInner : system.inner.step? (.childExit pid) = some next.inner)

theorem step?_innerStep
    {action : ChildAction}
    (isNext : system.step? action = some next) :
    InnerStep system next action := by
  cases action with
  | inner action =>
      obtain ⟨_, inner, isInner, rfl⟩ := step?_inner isNext
      exact .acts rfl isInner
  | exit pid =>
      rw [step?] at isNext
      split at isNext
      · rw [← Option.some.inj isNext]
        exact .silent rfl
      · cases isNext
  | handle =>
      rw [step?] at isNext
      split at isNext
      · cases isNext
      · rw [← Option.some.inj isNext]
        exact .silent rfl
  | waitpid pid =>
      rw [step?] at isNext
      split at isNext
      · obtain ⟨inner, isInner, rfl⟩ := Option.map_eq_some_iff.mp isNext
        exact .reports isInner
      · cases isNext
  | noChild =>
      rw [step?] at isNext
      split at isNext
      · rw [← Option.some.inj isNext]
        exact .silent rfl
      · cases isNext

/-- What the service can rely on. -/
structure ReportsExits (system : ChildProcesses) : Prop where
  /-- Each exit is reported once, unless `waitpid` is still to return it. -/
  once :
    ∀ pid,
      system.exits.count pid =
        system.reports.count pid + system.exited.count pid
  /-- When no signal is due, every exit has been reported. -/
  reported :
    system.isSent = false →
    system.isHandling = false →
    system.exits.Perm system.reports
  /-- And every process that is known runs. -/
  running :
    system.isSent = false →
    system.isHandling = false →
    ∀ pid ∈ system.inner.livePids, pid ∈ system.alive

theorem ChildrenKept.reportsExits
    (kept : ChildrenKept system) :
    ReportsExits system := by
  have noneLeft :
      system.isSent = false →
      system.isHandling = false →
      system.exited = [] := by
    intro notSent notHandling
    by_contra some
    rcases kept.due some with isSent | isHandling
    · rw [notSent] at isSent
      cases isSent
    · rw [notHandling] at isHandling
      cases isHandling
  exact
    { once := kept.once
      reported := by
        intro notSent notHandling
        refine List.perm_iff_count.mpr fun pid => ?_
        rw [kept.once pid, noneLeft notSent notHandling]
        rfl
      running := by
        intro notSent notHandling pid lives
        refine (kept.known pid lives).resolve_right ?_
        rw [noneLeft notSent notHandling]
        exact List.not_mem_nil }

/--
However exits, signals and the work of the service interleave, each exit is
reported once, and by the time that no signal is due all of them have been;
and the service only makes steps that are permitted.
-/
theorem reportsExits_of_reachable
    (lines : List LmkRow)
    (arena : Int)
    (now : Nat)
    (system : ChildProcesses)
    (reachable :
      Reachable step? Allowed (start lines arena now) system) :
    ReportsExits system ∧
      Reachable ActivityManagerInner.step? ActivityManagerInner.Permitted
        (.start lines arena now) system.inner := by
  have both :
      ChildrenKept system ∧
        Reachable ActivityManagerInner.step? ActivityManagerInner.Permitted
          (.start lines arena now) system.inner := by
    refine reachable.invariant ⟨?_, .initial⟩ ?_
    · exact
        { distinct := .start lines arena now
          pids := List.nodup_nil
          known := List.forall_mem_nil _
          due := fun notEmpty => absurd rfl notEmpty
          once := fun _ => rfl }
    · intro middle action after before isAllowed isNext
      refine ⟨before.1.step isAllowed isNext, ?_⟩
      cases step?_innerStep isNext with
      | silent isSame =>
          rw [isSame]
          exact before.2
      | acts isAction isInner =>
          rw [isAction] at isAllowed
          exact before.2.step (before.1.permitted isAllowed) isInner
      | @reports pid isInner =>
          have isPermitted :
              ActivityManagerInner.Permitted middle.inner
                (.childExit pid) :=
            rfl
          exact before.2.step isPermitted isInner
  exact ⟨both.1.reportsExits, both.2⟩

open ActivityManagerInner (musicPackage plainIntent) in
/-- Two processes exit, one before it attaches, and there is one signal. -/
def sharedSignal : Option ChildProcesses :=
  run? step? (start [] 0 0)
    [.inner (.startService "player" musicPackage plainIntent (some 11)),
      .inner (.attachApplication 11 false),
      .inner
        (.startService "player" { musicPackage with packageName := "news" }
          plainIntent (some 12)),
      .exit 12,
      .exit 11,
      .handle,
      .waitpid 11,
      .waitpid 12,
      .noChild]

/-- Both exits are reported. -/
theorem sharedSignal_reportsExits :
    (sharedSignal.get rfl).reports = [11, 12] ∧
      ReportsExits (sharedSignal.get rfl) := by
  have accepted : sharedSignal = some (sharedSignal.get rfl) :=
    (Option.some_get _).symm
  refine ⟨by decide, ?_⟩
  exact
    (reportsExits_of_reachable [] 0 0 _
      (Reachable.of_run? (by decide) accepted)).1

end ChildProcesses

end ActivityManager
