import ActivityManager.ProcessChannels

/-!
# Every process keeps the protocol

Seen from one activity, the channels of a process are the channels of a client
of its own: what is for other activities does not matter to it.  So the service
with its processes does what the service with one client for each activity
does, and keeps the protocol as that does.
-/

namespace ActivityManager

open StepSystem (Reachable run?)
open TaskStackManager (KeepsHosts)

namespace ProcessRun

/-- What a process and a client have for a token. -/
structure ServesToken
    (run : ProcessRun)
    (clients : ClientRun)
    (token app : Nat) : Prop where
  commands :
    clients.toClient token =
      (run.toProcess app).filter (·.commandToken = some token)
  record :
    (clients.client token).mExistActivity =
      (run.process app).recordOf token
  reports :
    clients.toServer token = statusesOf token (run.toServer app)

/-- The processes do what the clients do. -/
structure Serves
    (run : ProcessRun)
    (clients : ClientRun) : Prop where
  sameManager : clients.manager = run.manager
  kept : ∀ app, ActivitiesKept (run.process app)
  handled :
    ∀ app, run.handled app ≤ (run.manager.commandsToHost app).length
  received : ∀ app, run.received app ≤ (run.process app).sent.length
  areHosted :
    ∀ call ∈ run.manager.calls,
      ∀ token,
        call.commandToken = some token →
        (run.manager.hostOf token).isSome = true
  hosted :
    ∀ token app,
      run.manager.hostOf token = some app →
      ServesToken run clients token app
  unhosted :
    ∀ token,
      run.manager.hostOf token = none →
      (clients.client token).mExistActivity = none ∧
        clients.toServer token = []
  strangers :
    ∀ token app,
      run.manager.hostOf token ≠ some app →
      (run.process app).recordOf token = none ∧
        statusesOf token (run.toServer app) = []

variable
  {run : ProcessRun}
  {clients : ClientRun}
  {app : Nat}

/-! ## The beginning -/

theorem start_serves
    (now : Nat)
    (mActivityMap mServiceMap : Nat → List String) :
    Serves (start now mActivityMap mServiceMap) (.start now) where
  sameManager := rfl
  kept _ := ApplicationThread.start_kept _ _
  handled _ := Nat.zero_le _
  received _ := Nat.zero_le _
  areHosted := List.forall_mem_nil _
  hosted _ _ isHost := absurd isHost (Option.some_ne_none _).symm
  unhosted _ _ := ⟨rfl, rfl⟩
  strangers _ _ _ := ⟨rfl, rfl⟩

/-! ## The task manager moves -/

/-- Nobody was asked anything about an activity without an application. -/
theorem Serves.noCommand
    (serves : Serves run clients)
    {token : Nat}
    (noHost : run.manager.hostOf token = none)
    {calls : List Call}
    (areSent : calls.Sublist run.manager.calls) :
    calls.filter (·.commandToken = some token) = [] := by
  rw [List.filter_eq_nil_iff]
  intro call member isCommand
  have isHosted :=
    serves.areHosted call (areSent.subset member) token
      (of_decide_eq_true isCommand)
  rw [noHost] at isHosted
  cases isHosted

theorem toProcess_sublist
    (run : ProcessRun)
    (app : Nat) :
    (run.toProcess app).Sublist run.manager.calls :=
  (List.drop_sublist _ _).trans List.filter_sublist

/-- A token is served by its host, also before it has one. -/
theorem Serves.beforeHost
    (serves : Serves run clients)
    {token : Nat}
    (noHost : run.manager.hostOf token = none) :
    ServesToken run clients token app where
  commands := by
    rw [serves.noCommand noHost (run.toProcess_sublist app),
      ClientRun.toClient, TaskStackManager.commandsFor,
      serves.sameManager, serves.noCommand noHost (List.Sublist.refl _),
      List.drop_nil]
  record := by
    rw [(serves.unhosted token noHost).1,
      (serves.strangers token app (noHost ▸ (Option.some_ne_none _).symm)).1]
  reports := by
    rw [(serves.unhosted token noHost).2,
      (serves.strangers token app (noHost ▸ (Option.some_ne_none _).symm)).2]

/-- New commands are for the same processes. -/
theorem commandsToHost_append
    {manager next : TaskStackManager}
    (areHosted :
      ∀ call ∈ manager.calls,
        ∀ token,
          call.commandToken = some token →
          (manager.hostOf token).isSome = true)
    (keeps : KeepsHosts manager next)
    {calls : List Call}
    (isNext : next.calls = manager.calls ++ calls)
    (app : Nat) :
    next.commandsToHost app =
      manager.commandsToHost app ++
        calls.filter fun call =>
          call.commandToken.bind next.hostOf = some app := by
  have sameOld :
      manager.calls.filter (fun call =>
          call.commandToken.bind next.hostOf = some app) =
        manager.commandsToHost app := by
    refine List.filter_congr fun call member => decide_eq_decide.mpr ?_
    cases isCommand : call.commandToken with
    | none =>
        exact Iff.rfl
    | some token =>
        obtain ⟨host, isHost⟩ :=
          Option.isSome_iff_exists.mp
            (areHosted call member token isCommand)
        rw [Option.bind_some, Option.bind_some, isHost,
          keeps.hosts token host isHost]
  rw [TaskStackManager.commandsToHost, isNext, List.filter_append, sameOld]

/-- The task manager sends more commands to the same processes. -/
theorem Serves.withManager
    (serves : Serves run clients)
    (inOrder :
      ∀ token,
        clients.handled token ≤
          (clients.manager.commandsFor token).length)
    {next : TaskStackManager}
    (keeps : KeepsHosts run.manager next) :
    Serves (run.withManager next) (clients.withManager next) := by
  obtain ⟨calls, isNext, newHosted⟩ := keeps.calls
  have commands := commandsToHost_append serves.areHosted keeps isNext
  have toProcess :
      ∀ app,
        (run.withManager next).toProcess app =
          run.toProcess app ++
            calls.filter fun call =>
              call.commandToken.bind next.hostOf = some app := by
    intro app
    rw [ProcessRun.toProcess, ProcessRun.withManager]
    dsimp only
    rw [commands, List.drop_append_of_le_length (serves.handled app)]
    rfl
  have toClient :
      ∀ token,
        (clients.withManager next).toClient token =
          clients.toClient token ++
            calls.filter (·.commandToken = some token) := by
    intro token
    have isMore :
        next.commandsFor token =
          clients.manager.commandsFor token ++
            calls.filter (·.commandToken = some token) := by
      rw [TaskStackManager.commandsFor, isNext, ← serves.sameManager,
        List.filter_append]
      rfl
    rw [ClientRun.toClient, ClientRun.withManager]
    dsimp only
    rw [isMore, List.drop_append_of_le_length (inOrder token)]
    rfl
  refine
    { sameManager := rfl
      kept := serves.kept
      handled := ?_
      received := serves.received
      areHosted := ?_
      hosted := ?_
      unhosted := ?_
      strangers := ?_ }
  · intro app
    rw [ProcessRun.withManager]
    dsimp only
    rw [commands, List.length_append]
    exact Nat.le_add_right_of_le (serves.handled app)
  · intro call member token isCommand
    rw [ProcessRun.withManager] at member
    dsimp only at member
    rw [isNext, List.mem_append] at member
    rcases member with isOld | isNew
    · obtain ⟨host, isHost⟩ :=
        Option.isSome_iff_exists.mp
          (serves.areHosted call isOld token isCommand)
      exact Option.isSome_iff_exists.mpr
        ⟨host, keeps.hosts token host isHost⟩
    · exact newHosted call isNew token isCommand
  · intro token app isHost
    have before : ServesToken run clients token app := by
      cases wasHost : run.manager.hostOf token with
      | none =>
          exact serves.beforeHost wasHost
      | some host =>
          have isSame :=
            (keeps.hosts token host wasHost).symm.trans isHost
          rw [Option.some.inj isSame] at wasHost
          exact serves.hosted token app wasHost
    refine ⟨?_, before.record, before.reports⟩
    rw [toClient, toProcess, before.commands, List.filter_append,
      List.filter_filter]
    refine congrArg _ (List.filter_congr fun call _ => ?_)
    by_cases isCommand : call.commandToken = some token
    · have isHost : next.hostOf token = some app := isHost
      simp [isCommand, isHost]
    · simp [isCommand]
  · intro token noHost
    have hadNone : run.manager.hostOf token = none := by
      by_contra hadHost
      obtain ⟨host, wasHost⟩ := Option.ne_none_iff_exists'.mp hadHost
      exact
        absurd ((keeps.hosts token host wasHost).symm.trans noHost)
          (Option.some_ne_none _)
    exact serves.unhosted token hadNone
  · intro token app notHost
    refine serves.strangers token app fun wasHost => notHost ?_
    exact keeps.hosts token app wasHost

/-- A step of the task manager keeps the hosts. -/
theorem Serves.keepsHosts
    {action : ManagerAction}
    {next : TaskStackManager}
    (serves : Serves run clients)
    (protocol : ClientRun.Protocol [] clients)
    (isNext : run.manager.step? action = some next) :
    KeepsHosts run.manager next := by
  rw [← serves.sameManager] at isNext ⊢
  have tokens : clients.manager.TokensKept := fun token record isRecord =>
    (protocol.records token record isRecord).1
  have unused := protocol.unused _ (Nat.le_refl _)
  exact TaskStackManager.step?_keepsHosts tokens unused isNext

/-! ## A process moves -/

/-- One process has moved, and nothing else, up to what was handled. -/
structure MovesTo
    (run next : ProcessRun)
    (app : Nat)
    (thread : ApplicationThread) : Prop where
  manager : next.manager = run.manager
  process : next.process app = thread
  others : ∀ other, other ≠ app → next.process other = run.process other
  received : next.received = run.received

theorem withProcess_movesTo
    (run : ProcessRun)
    (app : Nat)
    (thread : ApplicationThread) :
    MovesTo run (run.withProcess app thread) app thread where
  manager := rfl
  process := Function.update_self ..
  others _ isOther := Function.update_of_ne isOther ..
  received := rfl

/-- Its reports come after the others. -/
theorem MovesTo.toServer
    {next : ProcessRun}
    {thread : ApplicationThread}
    {reports : List (Nat × Status)}
    (moves : MovesTo run next app thread)
    (received : run.received app ≤ (run.process app).sent.length)
    (isSent : thread.sent = (run.process app).sent ++ reports)
    (other : Nat) :
    next.toServer other =
      run.toServer other ++ if other = app then reports else [] := by
  rw [ProcessRun.toServer, moves.received]
  by_cases isThis : other = app
  · rw [isThis, moves.process, if_pos rfl, isSent,
      List.drop_append_of_le_length received]
    rfl
  · rw [moves.others other isThis, if_neg isThis, List.append_nil]
    rfl

/-- What an action of a process is for each client. -/
structure Performs
    (run : ProcessRun)
    (clients after : ClientRun)
    (app : Nat)
    (action : ApplicationAction) : Prop where
  isFresh : (run.process app).launchesFresh action
  sameManager : after.manager = clients.manager
  own :
    ∀ token,
      run.manager.hostOf token = some app →
      after.client token =
          ((clients.client token).perform (run.process app).mActivityMap
            token action).1 ∧
        after.toServer token =
          clients.toServer token ++
            ((clients.client token).perform
              (run.process app).mActivityMap token action).2
  others :
    ∀ token,
      run.manager.hostOf token ≠ some app →
      after.client token = clients.client token ∧
        after.toServer token = clients.toServer token
  strange :
    ∀ token,
      run.manager.hostOf token ≠ some app →
      ∀ client : ActivityClient,
        client.perform (run.process app).mActivityMap token action =
          (client, [])

/-- The records and the reports of a process stay those of the clients. -/
theorem Serves.perform
    {next : ProcessRun}
    {after : ClientRun}
    {action : ApplicationAction}
    {thread : ApplicationThread}
    (serves : Serves run clients)
    (performs : Performs run clients after app action)
    (isNext : (run.process app).step? action = some thread)
    (moves : MovesTo run next app thread)
    (handled :
      ∀ other,
        next.handled other ≤ (run.manager.commandsToHost other).length)
    (commands :
      ∀ token host,
        run.manager.hostOf token = some host →
        after.toClient token =
          (next.toProcess host).filter (·.commandToken = some token)) :
    Serves next after := by
  obtain ⟨reports, isSent, answers⟩ :=
    ApplicationThread.step?_sent (serves.kept app) performs.isFresh isNext
  have toServer := moves.toServer (serves.received app) isSent
  have strange :
      ∀ token,
        run.manager.hostOf token ≠ some app →
        thread.recordOf token = (run.process app).recordOf token ∧
          statusesOf token reports = [] := by
    intro token notHost
    let client : ActivityClient :=
      { mExistActivity := (run.process app).recordOf token
        lastStatus := Status.init }
    obtain ⟨isRecord, isReported⟩ := answers token client rfl
    rw [performs.strange token notHost client] at isRecord isReported
    exact ⟨isRecord.symm, isReported⟩
  refine
    { sameManager := ?_
      kept := ?_
      handled := ?_
      received := ?_
      areHosted := ?_
      hosted := ?_
      unhosted := ?_
      strangers := ?_ }
  · rw [performs.sameManager, serves.sameManager, moves.manager]
  · intro other
    by_cases isThis : other = app
    · have isKept :=
        ApplicationThread.perform_kept (serves.kept app) action
      rw [ApplicationThread.step?_eq_some isNext] at isKept
      rw [isThis, moves.process]
      exact isKept
    · rw [moves.others other isThis]
      exact serves.kept other
  · rw [moves.manager]
    exact handled
  · intro other
    rw [moves.received]
    by_cases isThis : other = app
    · rw [isThis, moves.process, isSent, List.length_append]
      exact Nat.le_add_right_of_le (serves.received app)
    · rw [moves.others other isThis]
      exact serves.received other
  · rw [moves.manager]
    exact serves.areHosted
  · intro token host isHost
    rw [moves.manager] at isHost
    have before := serves.hosted token host isHost
    refine ⟨commands token host isHost, ?_, ?_⟩
    all_goals by_cases isThis : host = app
    · subst isThis
      rw [(performs.own token isHost).1, moves.process]
      exact (answers token (clients.client token) before.record).1
    · have notHost : run.manager.hostOf token ≠ some app := by
        rw [isHost]
        exact fun isSame => isThis (Option.some.inj isSame)
      rw [(performs.others token notHost).1, before.record,
        moves.others host isThis]
    · subst isThis
      rw [(performs.own token isHost).2, toServer, if_pos rfl,
        ApplicationThread.statusesOf_append, before.reports,
        (answers token (clients.client token) before.record).2]
    · have notHost : run.manager.hostOf token ≠ some app := by
        rw [isHost]
        exact fun isSame => isThis (Option.some.inj isSame)
      rw [(performs.others token notHost).2, before.reports, toServer,
        if_neg isThis, List.append_nil]
  · intro token noHost
    rw [moves.manager] at noHost
    have notHost : run.manager.hostOf token ≠ some app := by
      rw [noHost]
      exact (Option.some_ne_none _).symm
    obtain ⟨isClient, isServed⟩ := performs.others token notHost
    rw [isClient, isServed]
    exact serves.unhosted token noHost
  · intro token host notHost
    rw [moves.manager] at notHost
    obtain ⟨noRecord, noReport⟩ := serves.strangers token host notHost
    rw [toServer]
    by_cases isThis : host = app
    · subst isThis
      obtain ⟨sameRecord, nothing⟩ := strange token notHost
      rw [moves.process, sameRecord, if_pos rfl,
        ApplicationThread.statusesOf_append, noReport, nothing]
      exact ⟨noRecord, rfl⟩
    · rw [moves.others host isThis, if_neg isThis, List.append_nil]
      exact ⟨noRecord, noReport⟩

/-- A process does something apart. -/
theorem Serves.processActs
    {action : ApplicationAction}
    {next : ProcessRun}
    (serves : Serves run clients)
    (isNext : run.step? (.processActs app action) = some next) :
    Serves next clients := by
  rw [step?] at isNext
  split at isNext
  · rename_i isApart
    obtain ⟨thread, isThread, isMoved⟩ := Option.map_eq_some_iff.mp isNext
    rw [← isMoved]
    refine
      serves.perform ?_ isThread (run.withProcess_movesTo app thread)
        serves.handled fun token host isHost =>
          (serves.hosted token host isHost).commands
    exact
      { isFresh := ApplicationThread.launchesFresh_of_isApart isApart _
        sameManager := rfl
        own := by
          intro token _
          rw [ActivityClient.perform_apart isApart]
          exact ⟨rfl, (List.append_nil _).symm⟩
        others := fun _ _ => ⟨rfl, rfl⟩
        strange := fun token _ client =>
          client.perform_apart isApart _ token }
  · cases isNext

/-! ## A command -/

/-- A command is for an activity of the process. -/
theorem exists_hosted
    {call : Call}
    {rest : List Call}
    (isHead : run.toProcess app = call :: rest) :
    ∃ token,
      call.commandToken = some token ∧
        run.manager.hostOf token = some app := by
  have member : call ∈ run.manager.commandsToHost app := by
    refine List.mem_of_mem_drop (i := run.handled app) ?_
    rw [← toProcess, isHead]
    exact List.mem_cons_self
  have isFor := of_decide_eq_true (List.mem_filter.mp member).2
  exact Option.bind_eq_some_iff.mp isFor

/-- It is the next one for the client, too. -/
theorem ServesToken.isHead
    {call : Call}
    {rest : List Call}
    {token : Nat}
    (serves : ServesToken run clients token app)
    (isHead : run.toProcess app = call :: rest)
    (isCommand : call.commandToken = some token) :
    clients.toClient token =
      call :: rest.filter (·.commandToken = some token) := by
  rw [serves.commands, isHead,
    List.filter_cons_of_pos (by simpa using isCommand)]

/-- A client that is to create an activity has none. -/
theorem launchesFresh_of_protocol
    {call : Call}
    {rest : List Call}
    {token : Nat}
    (protocol : ClientRun.Protocol [] clients)
    (serves : ServesToken run clients token app)
    (isHead : run.toProcess app = call :: rest)
    (isCommand : call.commandToken = some token)
    (mWindow attached : Bool) :
    (run.process app).launchesFresh (.call call mWindow attached) := by
  intro launched isLaunched
  have stage := protocol.stages token
  rw [serves.isHead isHead isCommand] at stage
  obtain ⟨status, isStatus, legal⟩ := stage.follows
  cases call with
  | scheduleLaunchActivity pid activityName other intent =>
      have sameToken : launched = token :=
        (Option.some.inj isLaunched).symm.trans (Option.some.inj isCommand)
      have isInit : status = Status.init := by
        rcases legal with isInit | ⟨isResume, _⟩
        · exact List.mem_singleton.mp isInit
        · cases isResume
      rw [isInit, ActivityClient.status?, serves.record] at isStatus
      rw [sameToken]
      have noRecord := Option.map_eq_none_iff.mp isStatus
      exact Option.map_eq_none_iff.mp noRecord
  | _ =>
      cases isLaunched

/-- A command for another activity is none for a client. -/
theorem perform_other
    {call : Call}
    {token other : Nat}
    (isCommand : call.commandToken = some token)
    (isOther : other ≠ token)
    (client : ActivityClient)
    (mActivityMap : List String)
    (mWindow attached : Bool) :
    client.perform mActivityMap other (.call call mWindow attached) =
      (client, []) := by
  refine if_neg ?_
  rw [isCommand]
  exact fun isSame => isOther (Option.some.inj isSame).symm

/-- The clients after one of them has handled a command. -/
def answered
    (clients : ClientRun)
    (token : Nat)
    (registered attached : Bool)
    (call : Call) : ClientRun :=
  let handled := (clients.client token).handle registered attached call
  { clients with
    handled :=
      Function.update clients.handled token (clients.handled token + 1)
    client := Function.update clients.client token handled.1
    toServer :=
      Function.update clients.toServer token
        (clients.toServer token ++ handled.2) }

/-- The others have handled nothing. -/
theorem answered_other
    {token other : Nat}
    (isOther : other ≠ token)
    (registered attached : Bool)
    (call : Call) :
    let after := answered clients token registered attached call
    after.client other = clients.client other ∧
      after.toServer other = clients.toServer other ∧
      after.toClient other = clients.toClient other := by
  refine
    ⟨Function.update_of_ne isOther .., Function.update_of_ne isOther ..,
      ?_⟩
  rw [ClientRun.toClient, answered]
  dsimp only
  rw [Function.update_of_ne isOther]
  rfl

/-- The command is not on its way any more. -/
theorem answered_toClient
    {call : Call}
    {rest : List Call}
    {token : Nat}
    (isHead : clients.toClient token = call :: rest)
    (registered attached : Bool) :
    (answered clients token registered attached call).toClient token =
      rest := by
  rw [ClientRun.toClient, answered]
  dsimp only
  rw [Function.update_self, ← List.drop_drop, ← ClientRun.toClient, isHead]
  rfl

/-- What is a command for a process is one for a client, or nothing. -/
theorem performs_command
    {call : Call}
    {rest : List Call}
    {token : Nat}
    (protocol : ClientRun.Protocol [] clients)
    (serves : Serves run clients)
    (isHead : run.toProcess app = call :: rest)
    (isCommand : call.commandToken = some token)
    (isHost : run.manager.hostOf token = some app)
    (mWindow attached : Bool) :
    Performs run clients
      (answered clients token
        (call.isRegistered (run.process app).mActivityMap) attached call)
      app (.call call mWindow attached) := by
  have notToken :
      ∀ other,
        run.manager.hostOf other ≠ some app →
        other ≠ token := by
    intro other notHost isThis
    exact notHost (isThis ▸ isHost)
  exact
    { isFresh :=
        launchesFresh_of_protocol protocol (serves.hosted token app isHost)
          isHead isCommand mWindow attached
      sameManager := rfl
      own := by
        intro other _
        by_cases isThis : other = token
        · subst isThis
          rw [ActivityClient.perform, if_pos isCommand]
          exact ⟨Function.update_self .., Function.update_self ..⟩
        · rw [perform_other isCommand isThis, List.append_nil]
          obtain ⟨sameClient, sameReports, _⟩ :=
            answered_other isThis
              (call.isRegistered (run.process app).mActivityMap) attached
              call
          exact ⟨sameClient, sameReports⟩
      others := by
        intro other notHost
        obtain ⟨sameClient, sameReports, _⟩ :=
          answered_other (notToken other notHost)
            (call.isRegistered (run.process app).mActivityMap) attached call
        exact ⟨sameClient, sameReports⟩
      strange := fun other notHost client =>
        perform_other isCommand (notToken other notHost) client _ _ _ }

/-- A process has handled one command more. -/
theorem toProcess_handled
    {next : ProcessRun}
    {call : Call}
    {rest : List Call}
    (isHead : run.toProcess app = call :: rest)
    (sameManager : next.manager = run.manager)
    (isHandled :
      next.handled =
        Function.update run.handled app (run.handled app + 1))
    (other : Nat) :
    next.toProcess other =
      if other = app then rest else run.toProcess other := by
  rw [toProcess, sameManager, isHandled]
  by_cases isThis : other = app
  · rw [isThis, Function.update_self, if_pos rfl, ← List.drop_drop,
      ← toProcess, isHead]
    rfl
  · rw [Function.update_of_ne isThis, if_neg isThis]
    rfl

/-- It was among those that were sent. -/
theorem Serves.handled_le
    {call : Call}
    {rest : List Call}
    (serves : Serves run clients)
    (isHead : run.toProcess app = call :: rest)
    (other : Nat) :
    Function.update run.handled app (run.handled app + 1) other ≤
      (run.manager.commandsToHost other).length := by
  by_cases isThis : other = app
  · rw [isThis, Function.update_self]
    by_contra isAll
    rw [toProcess,
      List.drop_of_length_le (Nat.le_of_not_lt isAll)] at isHead
    cases isHead
  · rw [Function.update_of_ne isThis]
    exact serves.handled other

/-- A process handles a command as the client of its activity does. -/
theorem Serves.processHandles
    {mWindow attached : Bool}
    {next : ProcessRun}
    (serves : Serves run clients)
    (protocol : ClientRun.Protocol [] clients)
    (isNext : run.step? (.processHandles app mWindow attached) = some next) :
    ∃ token registered after,
      clients.step? (.clientHandles token registered attached) =
          some after ∧
        Serves next after := by
  rw [step?] at isNext
  split at isNext
  · rename_i call rest isHead
    obtain ⟨thread, isThread, isMoved⟩ := Option.bind_eq_some_iff.mp isNext
    rw [Option.some.injEq] at isMoved
    obtain ⟨token, isCommand, isHost⟩ := exists_hosted isHead
    have isClientHead :=
      (serves.hosted token app isHost).isHead isHead isCommand
    let registered := call.isRegistered (run.process app).mActivityMap
    have isAfter :
        clients.step? (.clientHandles token registered attached) =
          some (answered clients token registered attached call) := by
      rw [ClientRun.step?, isClientHead]
      rfl
    have moves : MovesTo run next app thread := by
      rw [← isMoved]
      exact
        ⟨rfl, Function.update_self ..,
          fun _ isOther => Function.update_of_ne isOther .., rfl⟩
    have isHandled :
        next.handled =
          Function.update run.handled app (run.handled app + 1) := by
      rw [← isMoved]
    refine ⟨token, registered, _, isAfter, ?_⟩
    refine
      serves.perform
        (performs_command protocol serves isHead isCommand isHost mWindow
          attached)
        isThread moves ?_ ?_
    · rw [isHandled]
      exact serves.handled_le isHead
    · intro other host isOtherHost
      have before := (serves.hosted other host isOtherHost).commands
      rw [toProcess_handled isHead moves.manager isHandled]
      by_cases isToken : other = token
      · subst isToken
        have isThis : host = app :=
          Option.some.inj (isOtherHost.symm.trans isHost)
        rw [answered_toClient isClientHead, if_pos isThis]
      · rw [(answered_other isToken registered attached call).2.2, before]
        split
        · rename_i isThis
          have notFor : ¬ call.commandToken = some other := by
            rw [isCommand]
            exact fun isSame => isToken (Option.some.inj isSame).symm
          rw [isThis, isHead,
            List.filter_cons_of_neg (by simpa using notFor)]
        · rfl
  · cases isNext

/-! ## A report -/

/-- The statuses of a token are among those of its own reports. -/
theorem statusesOf_cons
    (token other : Nat)
    (status : Status)
    (rest : List (Nat × Status)) :
    statusesOf token ((other, status) :: rest) =
      if other = token then status :: statusesOf token rest
      else statusesOf token rest := by
  rw [statusesOf]
  by_cases isThis : other = token
  · rw [List.filter_cons_of_pos (by simpa using isThis), if_pos isThis]
    rfl
  · rw [List.filter_cons_of_neg (by simpa using isThis), if_neg isThis]
    rfl

/-- The first report of a process is taken from both channels. -/
theorem Serves.takes
    {token : Nat}
    {status : Status}
    {rest : List (Nat × Status)}
    (serves : Serves run clients)
    (isHead : run.toServer app = (token, status) :: rest) :
    clients.toServer token = status :: statusesOf token rest ∧
      Serves
        { run with
          received :=
            Function.update run.received app (run.received app + 1) }
        { clients with
          toServer :=
            Function.update clients.toServer token
              (statusesOf token rest) } := by
  have isHost : run.manager.hostOf token = some app := by
    by_contra notHost
    have nothing := (serves.strangers token app notHost).2
    rw [isHead, statusesOf_cons, if_pos rfl] at nothing
    cases nothing
  have isServed := (serves.hosted token app isHost).reports
  rw [isHead, statusesOf_cons, if_pos rfl] at isServed
  have isRest :
      (run.process app).sent.drop (run.received app + 1) = rest := by
    rw [← List.drop_drop, ← toServer, isHead]
    rfl
  have toServer :
      ∀ other,
        ({ run with
            received :=
              Function.update run.received app
                (run.received app + 1) } : ProcessRun).toServer other =
          if other = app then rest else run.toServer other := by
    intro other
    rw [ProcessRun.toServer]
    dsimp only
    by_cases isThis : other = app
    · rw [isThis, Function.update_self, if_pos rfl, isRest]
    · rw [Function.update_of_ne isThis, if_neg isThis]
      rfl
  refine ⟨isServed, ?_⟩
  refine
    { sameManager := serves.sameManager
      kept := serves.kept
      handled := serves.handled
      received := ?_
      areHosted := serves.areHosted
      hosted := ?_
      unhosted := ?_
      strangers := ?_ }
  · intro other
    dsimp only
    by_cases isThis : other = app
    · rw [isThis, Function.update_self]
      by_contra isAll
      rw [ProcessRun.toServer,
        List.drop_of_length_le (Nat.le_of_not_lt isAll)] at isHead
      cases isHead
    · rw [Function.update_of_ne isThis]
      exact serves.received other
  · intro other host isOtherHost
    have before := serves.hosted other host isOtherHost
    refine ⟨before.commands, before.record, ?_⟩
    rw [toServer]
    dsimp only
    by_cases isToken : other = token
    · have isThis : host = app := by
        have sameHost : run.manager.hostOf token = some host := by
          rw [← isToken]
          exact isOtherHost
        exact Option.some.inj (sameHost.symm.trans isHost)
      rw [isToken, Function.update_self, if_pos isThis]
    · rw [Function.update_of_ne isToken, before.reports]
      split
      · rename_i isThis
        rw [isThis, isHead, statusesOf_cons,
          if_neg (Ne.symm isToken)]
      · rfl
  · intro other noHost
    have isOther : other ≠ token := by
      intro isToken
      have noHost : run.manager.hostOf other = none := noHost
      rw [isToken, isHost] at noHost
      cases noHost
    dsimp only
    rw [Function.update_of_ne isOther]
    exact serves.unhosted other noHost
  · intro other host notHost
    obtain ⟨noRecord, noReport⟩ := serves.strangers other host notHost
    refine ⟨noRecord, ?_⟩
    rw [toServer]
    split
    · rename_i isThis
      rw [isThis, isHead, statusesOf_cons] at noReport
      split at noReport
      · cases noReport
      · exact noReport
    · exact noReport

/-- The service handles a report as it handles that of a client. -/
theorem Serves.serverHandles
    {next : ProcessRun}
    (serves : Serves run clients)
    (protocol : ClientRun.Protocol [] clients)
    (isNext : run.step? (.serverHandles app) = some next) :
    ∃ token after,
      clients.step? (.serverHandles token) = some after ∧
        Serves next after := by
  rw [step?] at isNext
  split at isNext
  · rename_i token status rest isHead
    obtain ⟨manager, isManager, isMoved⟩ :=
      Option.bind_eq_some_iff.mp isNext
    rw [Option.some.injEq] at isMoved
    obtain ⟨isServed, taken⟩ := serves.takes isHead
    have isReported :
        clients.manager.reportActivityStatus token status =
          some manager := by
      rw [serves.sameManager]
      exact isManager
    have isStep :
        run.manager.step? (.reportActivityStatus token status) =
          some manager :=
      isManager
    let after : ClientRun :=
      { clients with
        manager := manager
        toServer :=
          Function.update clients.toServer token (statusesOf token rest) }
    have isAfter :
        clients.step? (.serverHandles token) = some after := by
      rw [ClientRun.step?, isServed]
      dsimp only
      rw [isReported, Option.bind_eq_bind, Option.bind_some]
    have moved :=
      taken.withManager protocol.inOrder (serves.keepsHosts protocol isStep)
    rw [← isMoved]
    exact ⟨token, after, isAfter, moved⟩
  · cases isNext

/-! ## Runs -/

/-- The clients that the processes of a run stand for. -/
def Refines (run : ProcessRun) : Prop :=
  ∃ now clients,
    Reachable ClientRun.step?
        (fun clients action => clients.relaunchesStarted action = true)
        (ClientRun.start now) clients ∧
      Serves run clients

/-- In such runs of the clients every activity is at some stage. -/
theorem protocol_of_reachable
    {now : Nat}
    (reachable :
      Reachable ClientRun.step?
        (fun clients action => clients.relaunchesStarted action = true)
        (ClientRun.start now) clients) :
    ClientRun.Protocol [] clients := by
  refine reachable.invariant (.start now) ?_
  intro middle action after before started isNext
  exact before.runStep started isNext

/-- The task manager does the same. -/
theorem Serves.manager
    {action : ManagerAction}
    {next : ProcessRun}
    (serves : Serves run clients)
    (protocol : ClientRun.Protocol [] clients)
    (isNext : run.step? (.manager action) = some next) :
    ∃ after,
      clients.step? (.manager action) = some after ∧
        Serves next after := by
  rw [step?] at isNext
  split at isNext
  · cases isNext
  · rename_i notReport
    obtain ⟨manager, isManager, isMoved⟩ :=
      Option.map_eq_some_iff.mp isNext
    rw [← isMoved]
    refine ⟨clients.withManager manager, ?_, ?_⟩
    · rw [ClientRun.step?, if_neg notReport, serves.sameManager,
        isManager]
      rfl
    · exact
        serves.withManager protocol.inOrder
          (serves.keepsHosts protocol isManager)

/-- Every step of a process is a step of its clients, or none. -/
theorem Refines.step
    {action : ProcessRunAction}
    {next : ProcessRun}
    (refines : Refines run)
    (started : run.relaunchesStarted action = true)
    (isNext : run.step? action = some next) :
    Refines next := by
  obtain ⟨now, clients, reachable, serves⟩ := refines
  have protocol := protocol_of_reachable reachable
  cases action with
  | manager action =>
      obtain ⟨after, isAfter, served⟩ := serves.manager protocol isNext
      have startedToo :
          clients.relaunchesStarted (.manager action) = true := by
        cases action with
        | turnToActivity targetStack activity intent startFlag =>
            rw [ClientRun.relaunchesStarted, serves.sameManager]
            exact started
        | _ =>
            rfl
      exact ⟨now, after, reachable.step startedToo isAfter, served⟩
  | processHandles app mWindow attached =>
      obtain ⟨token, registered, after, isAfter, served⟩ :=
        serves.processHandles protocol isNext
      exact ⟨now, after, reachable.step rfl isAfter, served⟩
  | processActs app action =>
      exact ⟨now, clients, reachable, serves.processActs isNext⟩
  | serverHandles app =>
      obtain ⟨token, after, isAfter, served⟩ :=
        serves.serverHandles protocol isNext
      exact ⟨now, after, reachable.step rfl isAfter, served⟩

/-- What a process can rely on, and the service of it. -/
structure KeepsProtocol (run : ProcessRun) : Prop where
  oneTask : ∀ token, (run.manager.lifeCycleTasks token).length ≤ 1
  oneMessage :
    ∀ token app,
      ((run.toProcess app).filter
            (·.commandToken = some token)).length +
          (statusesOf token (run.toServer app)).length ≤ 1
  isLegal :
    ∀ app call rest,
      run.toProcess app = call :: rest →
      ∃ token status,
        call.commandToken = some token ∧
          ((run.process app).recordOf token).map
              ActivityClientRecord.mStatus = clientStatus status ∧
          (status ∈ call.turnTo.legalFrom ∨
            call.turnTo = .resume ∧ status = Status.resumed)
  isFresh :
    ∀ app call rest mWindow attached,
      run.toProcess app = call :: rest →
      (run.process app).launchesFresh (.call call mWindow attached)

/-- A process has nothing to do with the activities of others. -/
theorem filter_toProcess_eq_nil
    {token : Nat}
    (notHost : run.manager.hostOf token ≠ some app) :
    (run.toProcess app).filter (·.commandToken = some token) = [] := by
  rw [List.filter_eq_nil_iff]
  intro call member isCommand
  have isFor :=
    of_decide_eq_true
      (List.mem_filter.mp ((List.drop_sublist _ _).subset member)).2
  rw [of_decide_eq_true isCommand] at isFor
  exact notHost isFor

/-- The protocol of the clients is that of the processes. -/
theorem Serves.keepsProtocol
    (serves : Serves run clients)
    (protocol : ClientRun.Protocol [] clients) :
    KeepsProtocol run where
  oneTask token := by
    rw [← serves.sameManager]
    exact (protocol.stages token).tasks_le_one
  oneMessage token app := by
    by_cases isHost : run.manager.hostOf token = some app
    · have own := serves.hosted token app isHost
      rw [← own.commands, ← own.reports]
      exact (protocol.stages token).length_le_one
    · rw [filter_toProcess_eq_nil isHost,
        (serves.strangers token app isHost).2]
      exact Nat.zero_le 1
  isLegal app call rest isHead := by
    obtain ⟨token, isCommand, isHost⟩ := exists_hosted isHead
    have own := serves.hosted token app isHost
    have stage := protocol.stages token
    rw [own.isHead isHead isCommand] at stage
    obtain ⟨status, isStatus, legal⟩ := stage.follows
    refine ⟨token, status, isCommand, ?_, legal⟩
    rw [← own.record]
    exact isStatus
  isFresh app call rest mWindow attached isHead := by
    obtain ⟨token, isCommand, isHost⟩ := exists_hosted isHead
    exact
      launchesFresh_of_protocol protocol (serves.hosted token app isHost)
        isHead isCommand mWindow attached

/-- Two activities of one process; the second is opened over the first. -/
def twoPlayers : Option ProcessRun :=
  run? step? (start 0 (fun _ => ["Player"]) (fun _ => []))
    [.manager (.attachApplication "music" false 10),
      .manager
        (.pushNewActivity "music/Player" 0 0 ⟨"music/Player", "", "", 0⟩ 0),
      .processHandles 0 true true,
      .serverHandles 0,
      .processActs 0 (.call (.setForegroundApplication 10 true) true true),
      .processHandles 0 true true,
      .serverHandles 0,
      .processHandles 0 true true,
      .serverHandles 0,
      .manager
        (.pushNewActivity "music/Player" 0 0 ⟨"music/Player", "", "", 0⟩ 0),
      .processHandles 0 true true,
      .serverHandles 0,
      .processHandles 0 true true]

end ProcessRun

end ActivityManager
