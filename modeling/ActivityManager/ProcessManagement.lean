import ActivityManager.AppInfoList
import ActivityManager.Library.StepSystem
import ActivityManager.ProcessPriorityPolicy

/-!
# The running processes

The part of `ActivityManagerInner` that keeps the processes: the application
list, the priority list and the low memory manager behind it.  A call that
goes through a null pointer has no result.
-/

namespace ActivityManager

/-- The members of `ActivityManagerInner` that concern processes. -/
structure ManagedProcesses where
  mAppInfo : AppInfoList
  mPriorityPolicy : ProcessPriorityPolicy

namespace ManagedProcesses

/-- No process, with the given configuration of the low memory manager. -/
def start
    (lines : List LmkRow)
    (arena : Int) : ManagedProcesses where
  mAppInfo := .empty
  mPriorityPolicy := .empty (.init lines arena)

/-- The new record in `attachApplication`. -/
def attachApplication
    (processes : ManagedProcesses)
    (packageName : String)
    (systemui : Bool)
    (pid : Nat) : ManagedProcesses :=
  { processes with
    mAppInfo :=
      processes.mAppInfo.addAppInfo
        (.attached packageName systemui pid) }

/-- The calls of an application record that the priority list receives. -/
def deliver :
    List Call → ProcessPriorityPolicy → Option ProcessPriorityPolicy
  | [], policy =>
      some policy
  | .pushForeground pid :: rest, policy => do
      let policy ← policy.pushForeground pid
      deliver rest policy
  | .intoBackground pid :: rest, policy => do
      let policy ← policy.intoBackground pid
      deliver rest policy
  | _ :: rest, policy =>
      deliver rest policy

/-- `AppRecord::setForeground` on the record of a process. -/
def setForeground
    (processes : ManagedProcesses)
    (pid : Nat)
    (isForegroundActivity : Bool) : Option ManagedProcesses := do
  let app ← processes.mAppInfo.findAppInfo pid
  let (_, calls) := app.setForeground isForegroundActivity
  let policy ← deliver calls processes.mPriorityPolicy
  some
    { mAppInfo :=
        processes.mAppInfo.modify pid
          (fun app => (app.setForeground isForegroundActivity).1)
          (fun app => app.setForeground_mPid isForegroundActivity)
      mPriorityPolicy := policy }

/-- The start of `procAppTerminated`: the application counts as stopped. -/
def markStopped
    (processes : ManagedProcesses)
    (pid : Nat) : ManagedProcesses :=
  { processes with
    mAppInfo :=
      processes.mAppInfo.modify pid
        (fun app => { app with mStatus := .appStopped })
        (fun _ => rfl) }

/-- The end of a process, as the signal handler of `systemReady` sees it. -/
def appExit
    (processes : ManagedProcesses)
    (pid : Nat) : Option ManagedProcesses := do
  let policy ← processes.mPriorityPolicy.remove pid
  some
    { mAppInfo := processes.mAppInfo.deleteAppInfo pid
      mPriorityPolicy := policy }

/-- The executor of the low memory manager: `stopApplication`, if known. -/
def stopApplication
    (processes : ManagedProcesses)
    (pid : Nat) : ManagedProcesses × List Call :=
  match processes.mAppInfo.findAppInfo pid with
  | some app =>
      ({ processes with
          mAppInfo :=
            processes.mAppInfo.modify pid
              (fun app => app.stopApplication.1)
              (fun app => app.stopApplication_mPid) },
        app.stopApplication.2)
  | none =>
      (processes, [])

/-- `mPidOomScore.erase(pid)`. -/
def erase
    (processes : ManagedProcesses)
    (pid : Nat) : ManagedProcesses :=
  { processes with
    mPriorityPolicy :=
      { processes.mPriorityPolicy with
        mLmk := processes.mPriorityPolicy.mLmk.cancelMonitorPid pid } }

/-- The loop over `killPidVec`. -/
def killAll :
    List Nat → ManagedProcesses → ManagedProcesses × List Call
  | [], processes =>
      (processes, [])
  | pid :: rest, processes =>
      let (stopped, calls) := processes.stopApplication pid
      let (killed, others) := killAll rest (stopped.erase pid)
      (killed, calls ++ others)

/-- `LowMemoryManager::executeLMK` with the callbacks of the service. -/
def executeLMK
    (processes : ManagedProcesses)
    (freememory maxblock : Int) :
    Option (ManagedProcesses × List Call) :=
  let lmk := processes.mPriorityPolicy.mLmk
  match lmk.matchingRow? freememory maxblock with
  | some row => do
      let policy ← processes.mPriorityPolicy.analyseProcessPriority
      some
        (killAll (policy.mLmk.killPidVec row)
          { processes with mPriorityPolicy := policy })
  | none =>
      some (processes, [])

/-- What can happen to the processes. -/
inductive Action where
  | attach (packageName : String) (systemui : Bool) (pid : Nat)
  | add (pid : Nat) (isForeground : Bool) (level : ProcessPriority)
  | exit (pid : Nat)
  | setForeground (pid : Nat) (isForegroundActivity : Bool)
  | pushForeground (pid : Nat)
  | intoBackground (pid : Nat)
  | raise (pid : Nat) (priority : ProcessPriority)
  | analyse
  | stop (pid : Nat)
  | markStopped (pid : Nat)
  | lmk (freememory maxblock : Int)
  deriving Repr, DecidableEq

/-- An operation of the priority list alone. -/
def onPolicy
    (processes : ManagedProcesses)
    (policy : Option ProcessPriorityPolicy) : Option ManagedProcesses :=
  policy.map fun policy => { processes with mPriorityPolicy := policy }

/-- Perform an action. -/
def step?
    (processes : ManagedProcesses) : Action → Option ManagedProcesses
  | .attach packageName systemui pid =>
      some (processes.attachApplication packageName systemui pid)
  | .add pid isForeground level =>
      processes.onPolicy
        (processes.mPriorityPolicy.add pid isForeground level)
  | .exit pid =>
      processes.appExit pid
  | .setForeground pid isForegroundActivity =>
      processes.setForeground pid isForegroundActivity
  | .pushForeground pid =>
      processes.onPolicy (processes.mPriorityPolicy.pushForeground pid)
  | .intoBackground pid =>
      processes.onPolicy (processes.mPriorityPolicy.intoBackground pid)
  | .raise pid priority =>
      processes.onPolicy
        (processes.mPriorityPolicy.raisePriorityLevel pid priority)
  | .analyse =>
      processes.onPolicy processes.mPriorityPolicy.analyseProcessPriority
  | .stop pid =>
      some (processes.stopApplication pid).1
  | .markStopped pid =>
      some (processes.markStopped pid)
  | .lmk freememory maxblock =>
      (processes.executeLMK freememory maxblock).map Prod.fst

/-! ## Records and the list -/

@[simp] theorem stopApplication_mPriorityPolicy
    (processes : ManagedProcesses)
    (pid : Nat) :
    (processes.stopApplication pid).1.mPriorityPolicy =
      processes.mPriorityPolicy := by
  unfold stopApplication
  split <;> rfl

/-- Stopping an application concerns its own record. -/
theorem stopApplication_findAppInfo
    (processes : ManagedProcesses)
    (pid other : Nat) :
    (processes.stopApplication pid).1.mAppInfo.findAppInfo other =
      if other = pid then
        (processes.mAppInfo.findAppInfo pid).map fun app =>
          app.stopApplication.1
      else
        processes.mAppInfo.findAppInfo other := by
  unfold stopApplication
  cases found : processes.mAppInfo.findAppInfo pid with
  | none =>
      by_cases isPid : other = pid
      · simp [isPid, found]
      · simp [isPid]
  | some app =>
      simp only [AppInfoList.findAppInfo_modify, found]

/-- What a killed application's record becomes. -/
theorem killAll_findAppInfo
    {pids : List Nat}
    {processes : ManagedProcesses}
    (other : Nat) :
    (killAll pids processes).1.mAppInfo.findAppInfo other =
      if other ∈ pids then
        (processes.mAppInfo.findAppInfo other).map fun app =>
          app.stopApplication.1
      else
        processes.mAppInfo.findAppInfo other := by
  induction pids generalizing processes with
  | nil =>
      simp [killAll]
  | cons pid rest inductionHypothesis =>
      have stoppedTwice :
          ∀ app : AppRecord,
            app.stopApplication.1.stopApplication.1 =
              app.stopApplication.1 := by
        intro app
        unfold AppRecord.stopApplication
        split_ifs <;> simp_all
      simp only [killAll, inductionHypothesis, erase,
        stopApplication_findAppInfo, List.mem_cons]
      by_cases isPid : other = pid
      · subst isPid
        by_cases again : other ∈ rest
        · simp [again, Function.comp_def, stoppedTwice]
        · simp [again]
      · simp [isPid]

/-- The kills leave the list alone and forget the killed processes. -/
theorem killAll_mPriorityPolicy
    (pids : List Nat)
    (processes : ManagedProcesses) :
    (killAll pids processes).1.mPriorityPolicy =
      { processes.mPriorityPolicy with
        mLmk :=
          pids.foldl LowMemoryManager.cancelMonitorPid
            processes.mPriorityPolicy.mLmk } := by
  induction pids generalizing processes with
  | nil =>
      rfl
  | cons pid rest inductionHypothesis =>
      simp [killAll, inductionHypothesis, erase]

/-- The calls of the kills: every running one is terminated once. -/
theorem killAll_calls
    {pids : List Nat}
    (distinct : pids.Nodup)
    (processes : ManagedProcesses) :
    (killAll pids processes).2 =
      (pids.filter fun pid =>
        (processes.mAppInfo.findAppInfo pid).any
          (·.mStatus = .appRunning)).map .terminateApplication := by
  induction pids generalizing processes with
  | nil =>
      rfl
  | cons pid rest inductionHypothesis =>
      rw [List.nodup_cons] at distinct
      have sameRest :
          (rest.filter fun other =>
              (((processes.stopApplication pid).1.erase
                pid).mAppInfo.findAppInfo other).any
                  (·.mStatus = .appRunning)) =
            rest.filter fun other =>
              (processes.mAppInfo.findAppInfo other).any
                (·.mStatus = .appRunning) := by
        refine List.filter_congr ?_
        intro other member
        have notPid : other ≠ pid := by
          rintro rfl
          exact distinct.1 member
        simp only [erase, stopApplication_findAppInfo, if_neg notPid]
      simp only [killAll, inductionHypothesis distinct.2, sameRest]
      cases found : processes.mAppInfo.findAppInfo pid with
      | none =>
          simp [stopApplication, found]
      | some app =>
          have isPid : app.mPid = pid :=
            (AppInfoList.findAppInfo_eq_some.mp found).2
          by_cases isRunning : app.mStatus = .appRunning
          · simp [stopApplication, found, AppRecord.stopApplication,
              isRunning, isPid]
          · simp [stopApplication, found, AppRecord.stopApplication,
              isRunning]

end ManagedProcesses

end ActivityManager
