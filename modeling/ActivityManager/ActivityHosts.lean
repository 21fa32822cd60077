import ActivityManager.ActivityListings
import ActivityManager.ClientProtocol
import ActivityManager.IdleApplications

/-!
# Where commands go

An activity is hosted by one application from when it is created.  Commands are
only sent to activities that have an application, and none ever moves to
another one, so all commands for an activity go to the same process.
-/

namespace ActivityManager

open StepSystem (Reachable)

namespace ActivityRecord

variable
  {activity : ActivityRecord}
  {turn : TurnTo}
  {app : Option AppRecord}

/-- A command is for the activity, and is sent if there is an application. -/
theorem perform_isHosted
    {effect : LifecycleEffect}
    (performed : activity.perform turn app = some effect)
    {call : Call}
    (isSent : call ∈ effect.calls)
    {token : Nat}
    (isCommand : call.commandToken = some token) :
    token = activity.mToken ∧ app.isSome = true := by
  constructor
  · obtain ⟨_, _, sends⟩ := perform_sends performed
    have isFor :
        call ∈ effect.calls.filter (·.commandToken = some token) :=
      List.mem_filter.mpr ⟨isSent, decide_eq_true isCommand⟩
    rw [sends token] at isFor
    split at isFor
    · assumption
    · cases isFor
  · cases app with
    | some appRecord =>
        rfl
    | none =>
        have noCommand :
            ∀ call ∈ effect.calls, call.commandToken = none := by
          cases turn with
          | none =>
              cases performed
          | _ =>
              rw [perform, Option.some.injEq] at performed
              subst effect
              first
                | unfold create
                | unfold start
                | unfold resume
                | unfold pause command
                | unfold stop command
                | unfold destroy command
              split <;> simp [notStopped, Call.commandToken]
        rw [noCommand call isSent] at isCommand
        cases isCommand

end ActivityRecord

namespace TaskStackManager

/-- The records are those of their tokens. -/
def TokensKept (manager : TaskStackManager) : Prop :=
  ∀ token record,
    manager.activities token = some record →
    record.mToken = token

/--
Activities stay with their applications, and commands were only sent to
activities that have one.
-/
structure KeepsHosts (before after : TaskStackManager) : Prop where
  calls :
    ∃ calls,
      after.calls = before.calls ++ calls ∧
        ∀ call ∈ calls,
          ∀ token,
            call.commandToken = some token →
            (after.hostOf token).isSome = true
  hosts :
    ∀ token app,
      before.hostOf token = some app →
      after.hostOf token = some app

variable {before manager next : TaskStackManager}

namespace KeepsHosts

theorem refl (manager : TaskStackManager) :
    KeepsHosts manager manager where
  calls := ⟨[], (List.append_nil _).symm, List.forall_mem_nil _⟩
  hosts _ _ isHost := isHost

/-- Hosts stay in the next step, too. -/
theorem trans
    (first : KeepsHosts before manager)
    (later : KeepsHosts manager next) :
    KeepsHosts before next where
  calls := by
    obtain ⟨former, isFormer, formerHosted⟩ := first.calls
    obtain ⟨latter, isLatter, latterHosted⟩ := later.calls
    refine ⟨former ++ latter, ?_, ?_⟩
    · rw [isLatter, isFormer, List.append_assoc]
    · intro call member token isCommand
      rcases List.mem_append.mp member with isFirst | isLater
      · obtain ⟨app, isHost⟩ :=
          Option.isSome_iff_exists.mp
            (formerHosted call isFirst token isCommand)
        rw [later.hosts token app isHost]
        rfl
      · exact latterHosted call isLater token isCommand
  hosts token app isHost :=
    later.hosts token app (first.hosts token app isHost)

end KeepsHosts

/-! ## Primitive steps -/

/-- The records keep their tokens and their applications. -/
def SameHosting (manager next : TaskStackManager) : Prop :=
  ∀ token,
    ((next.activities token).map fun record =>
        (record.mToken, record.mApp)) =
      (manager.activities token).map fun record =>
        (record.mToken, record.mApp)

namespace SameHosting

/-- No record changes. -/
theorem of_eq
    (sameRecords : next.activities = manager.activities) :
    SameHosting manager next := by
  intro token
  rw [sameRecords]

/-- One record changes. -/
theorem change
    {activity : Nat}
    {old new : ActivityRecord}
    (isOld : manager.activities activity = some old)
    (isChanged :
      next.activities =
        Function.update manager.activities activity (some new))
    (sameToken : new.mToken = old.mToken)
    (sameApp : new.mApp = old.mApp) :
    SameHosting manager next := by
  intro token
  rw [isChanged]
  by_cases isThis : token = activity
  · rw [isThis, Function.update_self, isOld, Option.map_some,
      Option.map_some, sameToken, sameApp]
  · rw [Function.update_of_ne isThis]

theorem hostOf
    (same : SameHosting manager next)
    (token : Nat) :
    next.hostOf token = manager.hostOf token := by
  have sameApp := congrArg (Option.bind · Prod.snd) (same token)
  rw [Option.bind_map, Option.bind_map] at sameApp
  exact sameApp

theorem tokens
    (same : SameHosting manager next)
    (kept : TokensKept manager) :
    TokensKept next := by
  intro token record isRecord
  have isSame := same token
  rw [isRecord, Option.map_some] at isSame
  obtain ⟨old, isOld, isPair⟩ := Option.map_eq_some_iff.mp isSame.symm
  rw [← kept token old isOld]
  exact (congrArg Prod.fst isPair).symm

/-- Calls that are for activities with an application. -/
theorem keepsHosts
    (same : SameHosting manager next)
    {calls : List Call}
    (isNext : next.calls = manager.calls ++ calls)
    (hosted :
      ∀ call ∈ calls,
        ∀ token,
          call.commandToken = some token →
          (manager.hostOf token).isSome = true) :
    KeepsHosts manager next where
  calls := by
    refine ⟨calls, isNext, ?_⟩
    intro call member token isCommand
    rw [same.hostOf]
    exact hosted call member token isCommand
  hosts token app isHost := by
    rw [same.hostOf]
    exact isHost

/-- Calls that are no commands. -/
theorem keepsHosts_of_noCommand
    (same : SameHosting manager next)
    {calls : List Call}
    (isNext : next.calls = manager.calls ++ calls)
    (noCommand : ∀ call ∈ calls, call.commandToken = none) :
    KeepsHosts manager next := by
  refine same.keepsHosts isNext ?_
  intro call member token isCommand
  rw [noCommand call member] at isCommand
  cases isCommand

end SameHosting

/-- The calls that a step adds, none of which is a command. -/
def AddsNoCommand (manager next : TaskStackManager) : Prop :=
  ∃ calls,
    next.calls = manager.calls ++ calls ∧
      ∀ call ∈ calls, Call.commandToken call = none

/-- A step that adds no call. -/
theorem AddsNoCommand.of_eq
    (sameCalls : next.calls = manager.calls) :
    AddsNoCommand manager next :=
  ⟨[], sameCalls.trans (List.append_nil _).symm, List.forall_mem_nil _⟩

/-- What has become of the hosts since some state. -/
structure Hosting (before after : TaskStackManager) : Prop where
  tokens : TokensKept after
  keeps : KeepsHosts before after

/-- Only what is new gets an application. -/
def HostsNew
    (before manager : TaskStackManager) :
    RecordAction → Prop
  | .createActivity _ _ _ =>
      manager.activities manager.nextActivity = none
  | .setAppThread activity _ =>
      before.activities activity = none
  | _ =>
      True

namespace Hosting

theorem refl
    (tokens : TokensKept manager) :
    Hosting manager manager where
  tokens := tokens
  keeps := .refl manager

/-- The records keep their applications, and no command is sent. -/
theorem quiet
    (hosting : Hosting before manager)
    (same : SameHosting manager next)
    (noCommand : AddsNoCommand manager next) :
    Hosting before next where
  tokens := same.tokens hosting.tokens
  keeps := by
    obtain ⟨calls, isNext, areNone⟩ := noCommand
    exact
      hosting.keeps.trans (same.keepsHosts_of_noCommand isNext areNone)

/-- A new activity has no application yet. -/
theorem createActivity
    (hosting : Hosting before manager)
    (isNew : manager.activities manager.nextActivity = none)
    (name : String)
    (targetTask : Nat)
    (intent : Intent) :
    Hosting before (manager.createActivity name targetTask intent) where
  tokens token record isRecord := by
    rcases update_some_cases isRecord with ⟨isThis, isFresh⟩ | ⟨_, isOld⟩
    · rw [isFresh, isThis]
      rfl
    · exact hosting.tokens token record isOld
  keeps := by
    have stays :
        ∀ token app,
          manager.hostOf token = some app →
          (manager.createActivity name targetTask intent).hostOf token =
            some app := by
      intro token app isHost
      have isOther : token ≠ manager.nextActivity := by
        intro isThis
        rw [isThis, hostOf, isNew] at isHost
        cases isHost
      rw [hostOf] at isHost ⊢
      rw [← isHost]
      exact congrArg (Option.bind · _) (Function.update_of_ne isOther ..)
    exact
      hosting.keeps.trans
        { calls := ⟨[], (List.append_nil _).symm, List.forall_mem_nil _⟩
          hosts := stays }

/-- It gets one. -/
theorem setAppThread
    {activity app : Nat}
    (hosting : Hosting before manager)
    (isNew : before.activities activity = none)
    (isNext : manager.setAppThread activity app = some next) :
    Hosting before next := by
  obtain ⟨old, isOld, isSet⟩ := setAppThread_cases isNext
  have others :
      ∀ token,
        token ≠ activity →
        next.hostOf token = manager.hostOf token := by
    intro token isOther
    rw [isSet]
    exact congrArg (Option.bind · _) (Function.update_of_ne isOther ..)
  have isHost : next.hostOf activity = some app := by
    rw [isSet, hostOf, setRecord]
    dsimp only
    rw [Function.update_self]
    rfl
  constructor
  · intro token record isRecord
    rw [isSet] at isRecord
    rcases update_some_cases isRecord with ⟨isThis, isNew⟩ | ⟨_, isOld⟩
    · rw [isNew, isThis]
      exact hosting.tokens activity old isOld
    · exact hosting.tokens token record isOld
  · constructor
    · obtain ⟨calls, isCalls, hosted⟩ := hosting.keeps.calls
      refine ⟨calls, ?_, ?_⟩
      · rw [isSet]
        exact isCalls
      · intro call member token isCommand
        by_cases isThis : token = activity
        · rw [isThis, isHost]
          rfl
        · rw [others token isThis]
          exact hosted call member token isCommand
    · intro token host wasHost
      have isOther : token ≠ activity := by
        intro isThis
        rw [isThis, hostOf, isNew] at wasHost
        cases wasHost
      rw [others token isOther]
      exact hosting.keeps.hosts token host wasHost

/-- A request sends its command to the application of the activity. -/
theorem turn
    {activity : Nat}
    {toStatus : Status}
    (hosting : Hosting before manager)
    (isNext : manager.turn activity toStatus = some next) :
    Hosting before next := by
  obtain ⟨record, transition, turned⟩ := turn_cases isNext
  have kept :=
    ActivityRecord.lifecycleTransition?_same turned.turned
  have same : SameHosting manager next :=
    .change turned.isRecord turned.activities kept.mToken kept.mApp
  have isToken := hosting.tokens activity record turned.isRecord
  refine ⟨same.tokens hosting.tokens, hosting.keeps.trans ?_⟩
  refine same.keepsHosts (turn_calls turned isNext) ?_
  intro call isSent token isCommand
  rcases ActivityRecord.lifecycleTransition?_cases turned.turned with
    ⟨_, isRemembered⟩ | ⟨_, _, isSame⟩ |
      ⟨turnTo, effect, _, _, performed, isTransition⟩
  · rw [isRemembered] at isSent
    cases isSent
  · rw [isSame] at isSent
    cases isSent
  · rw [isTransition] at isSent
    obtain ⟨isActivity, hasApp⟩ :=
      ActivityRecord.perform_isHosted performed isSent isCommand
    have isHosted : record.mApp.isSome = true := by
      cases isApp : record.mApp with
      | some app =>
          rfl
      | none =>
          rw [isApp] at hasApp
          cases hasApp
    rw [isActivity, isToken, hostOf, turned.isRecord]
    exact isHosted

/-- The end of an activity. -/
theorem abnormalExit
    {activity : Nat}
    (hosting : Hosting before manager)
    (isNext : manager.abnormalExit activity = some next) :
    Hosting before next := by
  obtain ⟨record, isRecord, ⟨_, isSet⟩ | ⟨app, appRecord, _, _, isSet⟩⟩ :=
    abnormalExit_cases isNext
  · subst isSet
    exact hosting.quiet (.change isRecord rfl rfl rfl) (.of_eq rfl)
  · subst isSet
    refine hosting.quiet (.change isRecord rfl rfl rfl) ?_
    refine ⟨_, List.append_assoc .., ?_⟩
    intro call member
    rcases List.mem_append.mp member with isWindow | isStop
    · rw [List.mem_singleton.mp isWindow]
      rfl
    · exact stopApplication_noCommand _ call isStop

/-- An application loses an activity. -/
theorem activityGone
    (hosting : Hosting before manager)
    (token : Nat) :
    Hosting before (manager.activityGone token) := by
  obtain ⟨sameRecords, _, _⟩ := leaveApp_frame manager token
  refine hosting.quiet (.of_eq sameRecords) ?_
  rcases leaveApp_cases manager token with
    ⟨_, left⟩ | ⟨app, appRecord, _, ⟨_, left⟩ | ⟨_, left⟩⟩
  · have sameCalls := congrArg calls left
    exact .of_eq sameCalls
  · have sameCalls := congrArg calls left
    exact .of_eq sameCalls
  · have stopped := congrArg calls left
    exact ⟨_, stopped, stopApplication_noCommand _⟩

/-- Every primitive step. -/
theorem step
    {action : RecordAction}
    (hosting : Hosting before manager)
    (hostsNew : HostsNew before manager action)
    (isNext : manager.recordStep? action = some next) :
    Hosting before next := by
  cases action with
  | createActivity name targetTask intent =>
      rw [← Option.some.inj isNext]
      exact hosting.createActivity hostsNew name targetTask intent
  | setAppThread activity app =>
      exact hosting.setAppThread hostsNew isNext
  | turn activity toStatus =>
      exact hosting.turn isNext
  | setIntent activity intent =>
      obtain ⟨record, isRecord, isSet⟩ := setIntent_cases isNext
      subst isSet
      exact hosting.quiet (.change isRecord rfl rfl rfl) (.of_eq rfl)
  | restart activity =>
      obtain ⟨record, isRecord, isSet⟩ := setStatus_cases isNext
      subst isSet
      exact hosting.quiet (.change isRecord rfl rfl rfl) (.of_eq rfl)
  | commit task =>
      obtain ⟨_, isCommitted⟩ := commit_cases isNext
      subst isCommitted
      exact hosting.quiet (.of_eq rfl) (.of_eq rfl)
  | complete serial task =>
      obtain ⟨_, _, isDone⟩ := complete_cases isNext
      subst isDone
      exact hosting.quiet (.of_eq rfl) (.of_eq rfl)
  | statusReport token status =>
      rcases statusReport_cases isNext with
        isSame | ⟨handler, record, _, _, isRecord, isStored⟩
      · rw [isSame]
        exact hosting
      · subst isStored
        refine hosting.quiet (.change isRecord rfl ?_ ?_) (.of_eq rfl)
        · unfold storeReport
          split <;> rfl
        · unfold storeReport
          split <;> rfl
  | giveUp serial activity =>
      obtain ⟨_, record, _, ⟨_, isDone⟩ | ⟨_, exited⟩⟩ :=
        giveUp_cases isNext
      · subst isDone
        exact hosting.quiet (.of_eq rfl) (.of_eq rfl)
      · have isDone : Hosting before (manager.done serial) :=
          hosting.quiet (.of_eq rfl) (.of_eq rfl)
        exact isDone.abnormalExit exited
  | abnormalExit activity =>
      exact hosting.abnormalExit isNext
  | reportDestroyed token =>
      obtain ⟨_, record, board, isRecord, _, isStarted⟩ :=
        startDestroyed_cases isNext
      subst isStarted
      exact hosting.quiet (.change isRecord rfl rfl rfl) (.of_eq rfl)
  | activityGone token =>
      rw [← Option.some.inj isNext]
      exact hosting.activityGone token
  | setForeground app isForeground =>
      obtain ⟨record, _, isSet⟩ := Option.map_eq_some_iff.mp isNext
      subst isSet
      exact
        hosting.quiet (.of_eq rfl)
          ⟨_, rfl, setForeground_noCommand record isForeground⟩
  | stopApplication app =>
      obtain ⟨record, _, isSet⟩ := Option.map_eq_some_iff.mp isNext
      subst isSet
      exact
        hosting.quiet (.of_eq rfl)
          ⟨_, rfl, stopApplication_noCommand record⟩
  | markStopped app =>
      obtain ⟨_, _, isSet⟩ := Option.map_eq_some_iff.mp isNext
      subst isSet
      exact hosting.quiet (.of_eq rfl) (.of_eq rfl)
  | deleteAppInfo app =>
      obtain ⟨_, _, _, isDeleted⟩ := deleteAppInfo_cases isNext
      subst isDeleted
      exact hosting.quiet (.of_eq rfl) (.of_eq rfl)
  | _ =>
      rw [← Option.some.inj isNext]
      exact hosting.quiet (.of_eq rfl) (.of_eq rfl)

end Hosting

/-! ## Steps of the service -/

/-- The parts of a step give no activity to another application. -/
theorem hostsNew_of_isPart
    {action : ManagerAction}
    {primitive : RecordAction}
    (unused : manager.activities manager.nextActivity = none)
    (isPart : manager.IsPart action next primitive) :
    HostsNew manager next primitive := by
  rcases isPart with isOwn | isPart
  · cases primitive <;> trivial
  · cases action with
    | pushNewActivity name app targetStack intent startFlag =>
        rcases isPart with ⟨isSame, isCreated⟩ | isSet
        · subst isCreated
          rw [isSame]
          exact unused
        · subst isSet
          exact unused
    | reportActivityStatus token status =>
        rcases isPart with ⟨_, isReport⟩ | isStart | isEnd
        · subst isReport
          trivial
        · subst isStart
          trivial
        · subst isEnd
          trivial
    | timeout serial =>
        obtain ⟨_, activity, isGivenUp⟩ := isPart
        subst isGivenUp
        trivial
    | procAppTerminated app =>
        rcases isPart with
          ⟨_, isMarked⟩ | ⟨activity, isExit⟩ | ⟨activity, isForgotten⟩
        · subst isMarked
          trivial
        · subst isExit
          trivial
        · subst isForgotten
          trivial
    | clockAdvances ms =>
        rw [isPart.2]
        trivial
    | attachApplication packageName systemui pid =>
        rw [isPart.2]
        trivial
    | deleteAppInfo app =>
        rw [isPart.2]
        trivial
    | holdTasks tasks =>
        rw [isPart.2]
        trivial
    | _ =>
        exact isPart.elim

/-- A step of the service keeps the hosts. -/
theorem step?_keepsHosts
    {action : ManagerAction}
    (tokens : TokensKept manager)
    (unused : manager.activities manager.nextActivity = none)
    (isNext : manager.step? action = some next) :
    KeepsHosts manager next := by
  let parts : Parts :=
    { isPart := HostsNew manager
      own := by
        intro middle primitive isOwn _ _
        cases primitive <;> trivial }
  have moves :=
    step?_moves parts manager action
      (fun isPart _ _ => hostsNew_of_isPart unused isPart)
      (fun _ _ _ _ _ _ _ => trivial)
      (fun _ _ _ _ _ _ _ => trivial)
  obtain ⟨_, _, moved⟩ := moves.of_result isNext
  have hosting : Hosting manager next := by
    refine moved.moves.invariant (.refl tokens) ?_
    intro middle primitive after hosting hostsNew stepped
    exact hosting.step hostsNew stepped
  exact hosting.keeps

end TaskStackManager

end ActivityManager
