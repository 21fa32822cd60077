import ActivityManager.LifecycleLastRequest

/-!
# Requests to one activity

What `lifecycleTransition` does to a record in any status, with or without a
running application, and what the task manager reads of application records.
-/

namespace ActivityManager

/-- A table entry exists for all statuses, ERROR too, and all requests. -/
theorem turnTo?_isSome
    {status request : Int}
    (legal : -1 ≤ status ∧ status ≤ 12)
    (requested : 0 ≤ request ∧ request ≤ 12) :
    (turnTo? status request).isSome = true := by
  have table :
      ∀ row ∈ List.range 7,
        ∀ column ∈ List.range 7,
          (lifeCycleTable[row]?.bind (·[column]?)).isSome = true := by
    decide
  have inTable :=
    table ((status + 1) / 2).toNat (by rw [List.mem_range]; omega)
      ((request + 1) / 2).toNat (by rw [List.mem_range]; omega)
  have bothInBounds :
      0 ≤ (status + 1) / 2 ∧ 0 ≤ (request + 1) / 2 := by
    omega
  rw [turnTo?, if_pos bothInBounds]
  exact inTable

/-- Between commands, the statuses that the table has a row for. -/
theorem settled_of_turnTo?
    {status request : Int}
    {turn : TurnTo}
    (notNegative : 0 ≤ status)
    (between : status.tmod 2 ≠ 1)
    (entry : turnTo? status request = some turn) :
    status ∈ settledStatuses := by
  have tooLarge : status ≤ 12 := by
    by_contra large
    have noRow : lifeCycleTable[((status + 1) / 2).toNat]? = none := by
      rw [List.getElem?_eq_none]
      simp only [lifeCycleTable, List.length_cons, List.length_nil]
      omega
    rw [turnTo?, noRow] at entry
    split at entry <;> simp at entry
  rw [Int.tmod_eq_emod_of_nonneg notNegative] at between
  simp only [settledStatuses, List.mem_cons, Status.init, Status.created,
    Status.started, Status.resumed, Status.paused, Status.stopped,
    Status.destroyed]
  omega

/-- The table has no row for negative statuses but ERROR. -/
theorem turnTo?_negative
    {status : Int}
    (belowError : status < -1)
    (request : Status) :
    turnTo? status request = none := by
  have outOfBounds :
      ¬ (0 ≤ (status + 1) / 2 ∧ 0 ≤ (request + 1) / 2) := by
    omega
  rw [turnTo?, if_neg outOfBounds]

/-- Remainders of negative statuses are not positive. -/
theorem tmod_ne_one_of_negative
    {status : Int}
    (negative : status < 0) :
    status.tmod 2 ≠ 1 := by
  have opposite := Int.neg_tmod (-status) 2
  have isPositive : 0 ≤ -status := by
    omega
  rw [Int.neg_neg, Int.tmod_eq_emod_of_nonneg isPositive] at opposite
  omega

/-! ## Accounts -/

/-- What the task manager reads in an application record. -/
structure Account where
  isStopped : Bool
  count : Int
  pid : Nat
  deriving DecidableEq

namespace AppRecord

/-- The account of a record. -/
def account (app : AppRecord) : Account where
  isStopped := app.mStatus = .appStopped
  count := app.mForegroundActivityCnt
  pid := app.mPid

@[simp] theorem addActivity_account
    (app : AppRecord)
    (activity : Nat) :
    (app.addActivity activity).account = app.account := by
  rfl

@[simp] theorem deleteActivity_account
    (app : AppRecord)
    (activity : Nat) :
    (app.deleteActivity activity).account = app.account := by
  rfl

@[simp] theorem stopApplication_account (app : AppRecord) :
    app.stopApplication.1.account = app.account := by
  unfold stopApplication
  split
  · rename_i running
    simp [account, running]
  · rfl

end AppRecord

/-! ## Requests -/

namespace ActivityRecord

/-- A command keeps the place of its activity and the accounts. -/
theorem perform_frame
    {activity : ActivityRecord}
    {app : Option AppRecord}
    {turn : TurnTo}
    {effect : LifecycleEffect}
    (performed : activity.perform turn app = some effect) :
    effect.activity.mInTask = activity.mInTask ∧
      effect.activity.mApp = activity.mApp ∧
      (effect.activity.mStatus = activity.mStatus ∨
        effect.activity.mStatus = turn.transitional) ∧
      effect.app.map AppRecord.account = app.map AppRecord.account := by
  have running :
      ∀ appRecord,
        notStopped app = some appRecord →
        app = some appRecord := by
    intro appRecord isRunning
    exact (Option.filter_eq_some_iff.mp isRunning).1
  cases turn with
  | none =>
      simp [perform] at performed
  | create =>
      simp only [perform, Option.some.injEq] at performed
      subst effect
      unfold create
      split
      · cases alive : notStopped app with
        | none =>
            exact ⟨rfl, rfl, Or.inr rfl, rfl⟩
        | some appRecord =>
            refine ⟨rfl, rfl, Or.inr rfl, ?_⟩
            rw [running appRecord alive]
            rfl
      · exact ⟨rfl, rfl, Or.inl rfl, rfl⟩
  | start =>
      simp only [perform, Option.some.injEq] at performed
      subst effect
      unfold start
      split
      · cases notStopped app <;> exact ⟨rfl, rfl, Or.inr rfl, rfl⟩
      · exact ⟨rfl, rfl, Or.inl rfl, rfl⟩
  | resume =>
      simp only [perform, Option.some.injEq] at performed
      subst effect
      unfold resume
      split
      · cases notStopped app <;> exact ⟨rfl, rfl, Or.inr rfl, rfl⟩
      · exact ⟨rfl, rfl, Or.inl rfl, rfl⟩
  | pause =>
      simp only [perform, Option.some.injEq] at performed
      subst effect
      unfold pause command
      split
      · exact ⟨rfl, rfl, Or.inr rfl, rfl⟩
      · exact ⟨rfl, rfl, Or.inl rfl, rfl⟩
  | stop =>
      simp only [perform, Option.some.injEq] at performed
      subst effect
      unfold stop command
      split
      · exact ⟨rfl, rfl, Or.inr rfl, rfl⟩
      · exact ⟨rfl, rfl, Or.inl rfl, rfl⟩
  | destroy =>
      simp only [perform, Option.some.injEq] at performed
      subst effect
      unfold destroy command
      split
      · exact ⟨rfl, rfl, Or.inr rfl, rfl⟩
      · exact ⟨rfl, rfl, Or.inl rfl, rfl⟩

/-- A legal command starts. -/
theorem perform_transitional
    {activity : ActivityRecord}
    {app : Option AppRecord}
    {turn : TurnTo}
    {effect : LifecycleEffect}
    (legal : activity.mStatus ∈ turn.legalFrom)
    (performed : activity.perform turn app = some effect) :
    effect.activity.mStatus = turn.transitional := by
  cases turn with
  | none =>
      simp [perform] at performed
  | create =>
      simp only [TurnTo.legalFrom, List.mem_singleton] at legal
      simp only [perform, Option.some.injEq] at performed
      subst effect
      rw [create, if_pos legal]
      cases notStopped app <;> rfl
  | start =>
      simp only [TurnTo.legalFrom, List.mem_cons, List.mem_nil_iff,
        or_false] at legal
      simp only [perform, Option.some.injEq] at performed
      subst effect
      have inRange :
          Status.creating < activity.mStatus ∧
            activity.mStatus < Status.destroyed := by
        rcases legal with status | status <;> simp [status]
      rw [start, if_pos inRange]
      cases notStopped app <;> rfl
  | resume =>
      simp only [TurnTo.legalFrom, List.mem_cons, List.mem_nil_iff,
        or_false] at legal
      simp only [perform, Option.some.injEq] at performed
      subst effect
      have inRange :
          Status.starting ≤ activity.mStatus ∧
            activity.mStatus ≤ Status.stopped := by
        rcases legal with status | status <;> simp [status]
      rw [resume, if_pos inRange]
      cases notStopped app <;> rfl
  | pause =>
      simp only [TurnTo.legalFrom, List.mem_cons, List.mem_nil_iff,
        or_false] at legal
      simp only [perform, Option.some.injEq] at performed
      subst effect
      rcases legal with status | status <;>
        simp [pause, command, status, setStatus, TurnTo.transitional]
  | stop =>
      simp only [TurnTo.legalFrom, List.mem_cons, List.mem_nil_iff,
        or_false] at legal
      simp only [perform, Option.some.injEq] at performed
      subst effect
      rcases legal with status | status | status <;>
        simp [stop, command, status, setStatus, TurnTo.transitional]
  | destroy =>
      simp only [TurnTo.legalFrom, List.mem_cons, List.mem_nil_iff,
        or_false] at legal
      simp only [perform, Option.some.injEq] at performed
      subst effect
      rcases legal with status | status <;>
        simp [destroy, command, status, setStatus, TurnTo.transitional]

/--
The three outcomes of a request: it is remembered, nothing is to do, or a
command starts.
-/
theorem lifecycleTransition?_cases
    {activity : ActivityRecord}
    {app : Option AppRecord}
    {toStatus : Status}
    {transition : LifecycleTransition}
    (turned :
      activity.lifecycleTransition? app toStatus = some transition) :
    (activity.isTransitional = true ∧
        transition =
          { activity := { activity with mTargetStatus := toStatus }
            app := app
            calls := []
            commits := false }) ∨
      (activity.isTransitional = false ∧
        turnTo? activity.mStatus toStatus = some .none ∧
        transition =
          { activity := activity
            app := app
            calls := []
            commits := false }) ∨
      ∃ turn effect,
        activity.isTransitional = false ∧
          turnTo? activity.mStatus toStatus = some turn ∧
          activity.perform turn app = some effect ∧
          transition =
            { activity :=
                { effect.activity with mTargetStatus := toStatus }
              app := effect.app
              calls := effect.calls
              commits := true } := by
  unfold lifecycleTransition? at turned
  split at turned
  · rename_i transitional
    exact Or.inl ⟨transitional, (Option.some.inj turned).symm⟩
  · rename_i between
    rw [Bool.not_eq_true] at between
    cases entry : turnTo? activity.mStatus toStatus with
    | none =>
        simp [entry] at turned
    | some turn =>
        cases performed : activity.perform turn app with
        | none =>
            have noCommand : turn = .none := by
              cases turn <;> simp [perform] at performed ⊢
            simp [entry, performed] at turned
            exact Or.inr (Or.inl ⟨between, by rw [noCommand], turned.symm⟩)
        | some effect =>
            simp [entry, performed] at turned
            exact Or.inr
              (Or.inr ⟨turn, effect, between, rfl, performed, turned.symm⟩)

/-- What a request changes in a record. -/
theorem lifecycleTransition?_frame
    {activity : ActivityRecord}
    {app : Option AppRecord}
    {toStatus : Status}
    {transition : LifecycleTransition}
    (turned :
      activity.lifecycleTransition? app toStatus = some transition) :
    transition.activity.mInTask = activity.mInTask ∧
      transition.activity.mApp = activity.mApp ∧
      (transition.activity.mStatus = activity.mStatus ∨
        ∃ turn : TurnTo,
          transition.activity.mStatus = turn.transitional) ∧
      (transition.activity.mTargetStatus = activity.mTargetStatus ∨
        transition.activity.mTargetStatus = toStatus) ∧
      transition.app.map AppRecord.account =
        app.map AppRecord.account := by
  rcases lifecycleTransition?_cases turned with
    ⟨_, isRemembered⟩ | ⟨_, _, isSame⟩ |
      ⟨turn, effect, _, _, performed, isCommand⟩
  · subst isRemembered
    exact ⟨rfl, rfl, Or.inl rfl, Or.inr rfl, rfl⟩
  · subst isSame
    exact ⟨rfl, rfl, Or.inl rfl, Or.inl rfl, rfl⟩
  · subst isCommand
    obtain ⟨inTask, inApp, status, account⟩ := perform_frame performed
    refine ⟨inTask, inApp, ?_, Or.inr rfl, account⟩
    exact status.imp_right fun started => ⟨turn, started⟩

/-- A status and a target that the table has entries for. -/
structure IsLegal (activity : ActivityRecord) : Prop where
  status : 0 ≤ activity.mStatus ∧ activity.mStatus ≤ 12
  target : 0 ≤ activity.mTargetStatus ∧ activity.mTargetStatus ≤ 12

/-- Legal records follow every request. -/
theorem IsLegal.lifecycleTransition?
    {activity : ActivityRecord}
    {toStatus : Status}
    (legal : activity.IsLegal)
    (requested : 0 ≤ toStatus ∧ toStatus ≤ 12)
    (app : Option AppRecord) :
    ∃ transition,
      activity.lifecycleTransition? app toStatus = some transition ∧
        transition.activity.IsLegal := by
  have follows :
      (activity.lifecycleTransition? app toStatus).isSome = true := by
    have row : -1 ≤ activity.mStatus :=
      Int.le_trans (by decide) legal.status.1
    have entry := turnTo?_isSome ⟨row, legal.status.2⟩ requested
    rw [Option.isSome_iff_exists] at entry
    obtain ⟨turn, entry⟩ := entry
    unfold ActivityRecord.lifecycleTransition?
    split
    · rfl
    · simp only [entry, Option.bind_eq_bind, Option.bind_some]
      split <;> rfl
  rw [Option.isSome_iff_exists] at follows
  obtain ⟨transition, turned⟩ := follows
  obtain ⟨_, _, status, target, _⟩ := lifecycleTransition?_frame turned
  refine ⟨transition, turned, ?_, ?_⟩
  · rcases status with isSame | ⟨turn, isTransitional⟩
    · rw [isSame]
      exact legal.status
    · rw [isTransitional]
      cases turn <;> decide
  · rcases target with isSame | isRequested
    · rw [isSame]
      exact legal.target
    · rw [isRequested]
      exact requested

/-- A request for anything but RESUMED, made of a record that turns to it. -/
theorem lifecycleTransition?_target
    {activity : ActivityRecord}
    {app : Option AppRecord}
    {toStatus : Status}
    {transition : LifecycleTransition}
    (turned :
      activity.lifecycleTransition? app toStatus = some transition)
    (turns :
      activity.isTransitional = false →
      turnTo? activity.mStatus toStatus ≠ some .none) :
    transition.activity.mTargetStatus = toStatus := by
  rcases lifecycleTransition?_cases turned with
    ⟨_, isRemembered⟩ | ⟨between, noCommand, _⟩ |
      ⟨_, _, _, _, _, isCommand⟩
  · rw [isRemembered]
  · exact absurd noCommand (turns between)
  · rw [isCommand]

/-- The table has nothing to do for a request that is answered. -/
theorem settledFor_of_noCommand
    {activity : ActivityRecord}
    {toStatus : Status}
    (requested : toStatus ∈ requestedStatuses)
    (notNegative : 0 ≤ activity.mStatus)
    (between : activity.isTransitional = false)
    (noCommand : turnTo? activity.mStatus toStatus = some .none) :
    settledFor toStatus activity.mStatus = true := by
  have settled : activity.mStatus ∈ settledStatuses := by
    refine settled_of_turnTo? notNegative ?_ noCommand
    simpa [isTransitional] using between
  rcases turnTo?_settled settled requested with
    ⟨_, answered⟩ | ⟨turn, entry, isCommand, _⟩
  · exact answered
  · rw [noCommand] at entry
    exact absurd (Option.some.inj entry).symm isCommand

/-- The table's commands start. -/
theorem isTransitional_of_command
    {activity : ActivityRecord}
    {app : Option AppRecord}
    {toStatus : Status}
    {turn : TurnTo}
    {effect : LifecycleEffect}
    (requested : toStatus ∈ requestedStatuses)
    (notNegative : 0 ≤ activity.mStatus)
    (between : activity.isTransitional = false)
    (entry : turnTo? activity.mStatus toStatus = some turn)
    (performed : activity.perform turn app = some effect) :
    effect.activity.isTransitional = true := by
  have settled : activity.mStatus ∈ settledStatuses := by
    refine settled_of_turnTo? notNegative ?_ entry
    simpa [isTransitional] using between
  rcases turnTo?_settled settled requested with
    ⟨isEntry, _⟩ | ⟨legalTurn, isEntry, _, legal⟩
  · rw [entry] at isEntry
    rw [Option.some.inj isEntry] at performed
    simp [perform] at performed
  · rw [entry] at isEntry
    have sameTurn := Option.some.inj isEntry
    subst sameTurn
    have status := perform_transitional legal performed
    rw [isTransitional, status]
    cases turn with
    | none =>
        simp [perform] at performed
    | create => rfl
    | start => rfl
    | resume => rfl
    | pause => rfl
    | stop => rfl
    | destroy => rfl

/-- A request to resume starts a command unless it is answered. -/
theorem lifecycleTransition?_resumed
    {activity : ActivityRecord}
    {app : Option AppRecord}
    {transition : LifecycleTransition}
    (notNegative : 0 ≤ activity.mStatus)
    (turned :
      activity.lifecycleTransition? app Status.resumed =
        some transition) :
    transition.activity.isTransitional = true ∨
      transition.activity.mStatus = Status.resumed ∨
      transition.activity.mStatus = Status.destroyed := by
  have requested : Status.resumed ∈ requestedStatuses := by
    decide
  rcases lifecycleTransition?_cases turned with
    ⟨transitional, isRemembered⟩ | ⟨between, noCommand, isSame⟩ |
      ⟨turn, effect, between, entry, performed, isCommand⟩
  · rw [isRemembered]
    exact Or.inl transitional
  · have answered :=
      settledFor_of_noCommand requested notNegative between noCommand
    rw [isSame]
    refine Or.inr ?_
    simpa [settledFor] using answered
  · have started :=
      isTransitional_of_command requested notNegative between entry
        performed
    rw [isCommand]
    exact Or.inl started

/-- Nothing follows a negative status but ERROR. -/
theorem lifecycleTransition?_negative
    {activity : ActivityRecord}
    (negative : activity.mStatus < 0)
    (notError : activity.mStatus ≠ Status.error)
    (app : Option AppRecord)
    (toStatus : Status) :
    activity.lifecycleTransition? app toStatus = none := by
  have between : activity.isTransitional = false := by
    simpa [isTransitional] using tmod_ne_one_of_negative negative
  have noRow : turnTo? activity.mStatus toStatus = none :=
    turnTo?_negative
      (Int.lt_iff_le_and_ne.mpr
        ⟨Int.le_sub_one_of_lt negative, notError⟩)
      toStatus
  simp [lifecycleTransition?, between, noRow]

/-- A destroyed activity stays destroyed. -/
theorem lifecycleTransition?_destroyed
    {activity : ActivityRecord}
    {app : Option AppRecord}
    {toStatus : Status}
    {transition : LifecycleTransition}
    (requested : toStatus ∈ requestedStatuses)
    (destroyed : activity.mStatus = Status.destroyed)
    (turned :
      activity.lifecycleTransition? app toStatus = some transition) :
    transition.activity.mStatus = Status.destroyed := by
  have noCommand :
      ∀ request ∈ requestedStatuses,
        turnTo? Status.destroyed request = some .none := by
    decide
  rcases lifecycleTransition?_cases turned with
    ⟨_, isRemembered⟩ | ⟨_, _, isSame⟩ |
      ⟨turn, effect, _, entry, performed, _⟩
  · rw [isRemembered]
    exact destroyed
  · rw [isSame]
    exact destroyed
  · rw [destroyed, noCommand toStatus requested] at entry
    rw [← Option.some.inj entry] at performed
    simp [perform] at performed

end ActivityRecord

end ActivityManager
