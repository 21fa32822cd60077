import ActivityManager.TaskListInvariant

/-!
# Foreground accounting in every run

`mForegroundActivityCnt` is kept by hand: by every pushed and popped activity,
and by whole stacks when the active task changes.  `deleteActivity` alone does
not keep it.  The counters stay right in a run if each of its deletions takes
as many activities of every running application out of the foreground as it
brings there.
-/

namespace ActivityManager

open StepSystem (Reachable run?)

namespace TaskStackManager

/-- How many activities of an application are on the stack of the active task. -/
def activitiesInFront
    (manager : TaskStackManager)
    (app : Nat) : Nat :=
  manager.lists.foreground.countP fun activity =>
    (manager.activities activity).any fun record => record.mApp = some app

/--
Every counter of an application that is not stopped is right, and who has an
activity in the foreground was told so and moved to the front of the priority
list.
-/
structure AccountsRight (manager : TaskStackManager) : Prop where
  counted :
    ∀ app record,
      manager.apps app = some record →
      record.mStatus ≠ .appStopped →
      record.mForegroundActivityCnt = manager.activitiesInFront app
  told :
    ∀ app record,
      manager.apps app = some record →
      record.mStatus ≠ .appStopped →
      0 < manager.activitiesInFront app →
      manager.told app =
        [.setForegroundApplication record.mPid true,
          .pushForeground record.mPid]

/-- The steps after which the counters are still right. -/
def ExchangesEvenly
    (manager : TaskStackManager)
    (action : ManagerAction) : Prop :=
  manager.isAddressed action = true ∧ manager.isBalanced action = true

instance decidableExchangesEvenly
    (manager : TaskStackManager)
    (action : ManagerAction) :
    Decidable (manager.ExchangesEvenly action) :=
  inferInstanceAs (Decidable (_ ∧ _))

/-- The aims of this module. -/
def countRight : Aims where
  safe := False
  counts := True
  targets := False

variable {manager : TaskStackManager}

/-- Even exchanges are permitted. -/
theorem ExchangesEvenly.permitted
    {action : ManagerAction}
    (evenly : manager.ExchangesEvenly action) :
    Permitted countRight manager action where
  addressed := evenly.1
  provided := False.elim
  balanced _ := evenly.2
  inOrder := False.elim

/-- Both ways to count the activities of an application. -/
theorem countIn_foreground
    (manager : TaskStackManager)
    (app : Nat) :
    manager.setting.countIn app manager.lists.foreground =
      manager.activitiesInFront app := by
  unfold Setting.countIn activitiesInFront
  apply List.countP_congr
  intro activity _
  cases isRecord : manager.activities activity with
  | none =>
      simp [Setting.inApp, setting, isRecord]
  | some record =>
      simp [Setting.inApp, setting, isRecord]

/-- A sound manager has the right accounts. -/
theorem Sound.accountsRight
    {aims : Aims}
    (sound : Sound aims manager)
    (isAim : aims.counts) :
    AccountsRight manager := by
  have accounts :
      ∀ app record,
        manager.apps app = some record →
        record.mStatus ≠ .appStopped →
        record.mForegroundActivityCnt = manager.activitiesInFront app ∧
          (0 < manager.activitiesInFront app →
            manager.told app =
              [.setForegroundApplication record.mPid true,
                .pushForeground record.mPid]) := by
    intro app record isRecord notStopped
    have isAccount : manager.accounts app = some record.account := by
      rw [TaskStackManager.accounts, isRecord]
      rfl
    have isRunning : record.account.isStopped = false := by
      simpa [AppRecord.account] using notStopped
    have counted :=
      sound.settled.tracks.counts isAim app record.account isAccount
        isRunning
    rw [countIn_foreground] at counted
    exact counted
  exact
    ⟨fun app record isRecord notStopped =>
      (accounts app record isRecord notStopped).1,
      fun app record isRecord notStopped =>
        (accounts app record isRecord notStopped).2⟩

/-- In every run whose deletions exchange evenly, the accounts are right. -/
theorem accountsRight_of_reachable
    {now : Nat}
    (reachable :
      Reachable step? ExchangesEvenly (TaskStackManager.start now)
        manager) :
    AccountsRight manager := by
  have sound : Sound countRight manager :=
    Sound.of_reachable (fun _ _ evenly => evenly.permitted) reachable
  exact sound.accountsRight trivial

/--
Two applications take turns in the foreground; the activity that is deleted on
its report is in the background by then, and so is the process that dies.
-/
def takingTurns : Option TaskStackManager :=
  run? step? (TaskStackManager.start 0)
    [.attachApplication "home" false 10,
      .attachApplication "clock" false 11,
      .pushNewActivity "home/Main" 0 0 ⟨"home", "", "", 0⟩ 0,
      .pushNewActivity "clock/Main" 1 1 ⟨"clock", "", "", 0⟩ 0,
      .pushNewActivity "clock/Alarm" 1 1 ⟨"clock", "", "", 0⟩ 0,
      .reportActivityStatus 0 Status.created,
      .switchTaskToActive 0 ⟨"home", "", "", 0⟩,
      .deleteActivity 2,
      .reportActivityStatus 1 Status.error,
      .pushNewActivity "clock/Main" 1 1 ⟨"clock", "", "", 0⟩ 0,
      .finishActivity 3,
      .procAppTerminated 1]

theorem takingTurns_accountsRight :
    AccountsRight (takingTurns.get rfl) := by
  have accepted : takingTurns = some (takingTurns.get rfl) :=
    (Option.some_get _).symm
  exact accountsRight_of_reachable
    (Reachable.of_run? (by decide) accepted)

/-- An activity of a second application fails to launch. -/
def failedLaunch : Option TaskStackManager :=
  run? step? (TaskStackManager.start 0)
    [.attachApplication "home" false 10,
      .attachApplication "clock" false 11,
      .pushNewActivity "home/Main" 0 0 ⟨"home", "", "", 0⟩ 0,
      .pushNewActivity "clock/Main" 1 1 ⟨"clock", "", "", 0⟩ 0,
      .reportActivityStatus 1 Status.error]

/--
The report of the error brings the home task back, which counts nothing: the
failed application still counts one activity and the home application none.
-/
theorem failedLaunch_miscounts :
    ¬ ∀ manager,
      Reachable step? UsedAsMeant (TaskStackManager.start 0) manager →
      AccountsRight manager := by
  intro always
  have accepted : failedLaunch = some (failedLaunch.get rfl) :=
    (Option.some_get _).symm
  have accounts :=
    always _ (Reachable.of_run? (by decide) accepted)
  have counted :=
    accounts.counted 0 _ (Option.some_get (by rfl)).symm (by decide)
  exact absurd counted (by decide)

end TaskStackManager

end ActivityManager
