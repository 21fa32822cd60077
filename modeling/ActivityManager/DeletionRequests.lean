import ActivityManager.TaskManagerMoves
import ActivityManager.TaskManagerRules

/-!
# The requests of a deletion

A deletion asks activities to be destroyed and the next one to be resumed.
The answers depend on the records only, and the lists change whatever the
answers are.  So a deletion is a list of requests, known beforehand, with the
change of the lists at its end.
-/

namespace ActivityManager

namespace TaskStackManager

/-- Change the lists of tasks and the activities that the service knows. -/
def relist
    (tasks : TaskLists → TaskLists)
    (tokens : List Nat → List Nat)
    (manager : TaskStackManager) : TaskStackManager :=
  { manager with
    lists := tasks manager.lists
    mActivityMap := tokens manager.mActivityMap }

/-- `lifecycleTransition` of several activities, one after the other. -/
def askAll :
    List (Nat × Status) → TaskStackManager → Option TaskStackManager
  | [], manager =>
      some manager
  | (activity, toStatus) :: rest, manager => do
      let manager ← manager.lifecycleTransition activity toStatus
      askAll rest manager

end TaskStackManager

namespace Setting

/-- Everything down to the activity is asked to be destroyed. -/
def destroyRequests
    (lists : TaskLists)
    (task activity : Nat) : List (Nat × Status) :=
  if activity ∈ lists.stackOf task then
    (TaskLists.downTo (lists.stackOf task) activity).map
      (·, Status.destroyed)
  else
    []

/-- The next activity is asked to be resumed, if the task was active. -/
def resumeRequests
    (lists : TaskLists)
    (task activity : Nat) : List (Nat × Status) :=
  if some task = lists.getActiveTask then
    ((lists.shrinkTo task
        (lists.remaining task activity)).foreground.head?.map
      (·, Status.resumed)).toList
  else
    []

/-- What `deleteActivity` asks for. -/
def deletionRequests
    (setting : Setting)
    (lists : TaskLists)
    (activity : Nat) : List (Nat × Status) :=
  match setting.getTask lists activity with
  | some task =>
      destroyRequests lists task activity ++
        resumeRequests lists task activity
  | none =>
      []

/-- What the deletion of several activities does to the lists. -/
def deleteAll
    (setting : Setting) :
    List Nat → TaskLists → TaskLists
  | [], lists =>
      lists
  | activity :: rest, lists =>
      setting.deleteAll rest (setting.deleteActivity lists activity)

/-- What the deletion of several activities asks for. -/
def crashRequests
    (setting : Setting) :
    List Nat → TaskLists → List (Nat × Status)
  | [], _ =>
      []
  | activity :: rest, lists =>
      setting.deletionRequests lists activity ++
        setting.crashRequests rest (setting.deleteActivity lists activity)

end Setting

namespace TaskStackManager

variable
  {manager next : TaskStackManager}
  {tasks : TaskLists → TaskLists}
  {tokens : List Nat → List Nat}

/-! ## Requests do not read the lists -/

theorem turn_relist
    (manager : TaskStackManager)
    (activity : Nat)
    (toStatus : Status) :
    (manager.relist tasks tokens).turn activity toStatus =
      (manager.turn activity toStatus).map (relist tasks tokens) := by
  unfold turn
  cases isRecord : manager.activities activity with
  | none =>
      simp [relist, isRecord]
  | some record =>
      cases turned :
          record.lifecycleTransition? (record.mApp.bind manager.apps)
            toStatus with
      | none =>
          simp [relist, isRecord, turned]
      | some transition =>
          simp only [relist, isRecord, turned, Option.bind_eq_bind,
            Option.bind_some, Option.map_some]
          cases transition.commits <;>
            cases record.mApp <;>
            cases transition.app <;>
            rfl

/-- The event of an activity does not read the lists either. -/
theorem triggerWaitResume_relist
    {lifecycleTransition :
      TaskStackManager → Nat → Status → Option TaskStackManager}
    (commutes :
      ∀ manager activity toStatus,
        lifecycleTransition (relist tasks tokens manager) activity
            toStatus =
          (lifecycleTransition manager activity toStatus).map
            (relist tasks tokens))
    (manager : TaskStackManager)
    (activity : Nat) :
    triggerWaitResume lifecycleTransition (manager.relist tasks tokens)
        activity =
      (triggerWaitResume lifecycleTransition manager activity).map
        (relist tasks tokens) := by
  have sameBoard :
      (manager.relist tasks tokens).mPendTask = manager.mPendTask :=
    rfl
  unfold triggerWaitResume
  rw [sameBoard]
  split
  · rename_i handler _
    dsimp only
    split
    · rename_i willStopActivity _
      have isDone :
          { manager.relist tasks tokens with
            mPendTask :=
              manager.mPendTask.markDone handler.serial } =
            (manager.done handler.serial).relist tasks tokens :=
        rfl
      have sameRecord :
          ((manager.done handler.serial).relist tasks tokens).activities
              willStopActivity =
            manager.activities willStopActivity :=
        rfl
      rw [isDone, executeWaitResume, executeWaitResume, sameRecord]
      cases isRecord : manager.activities willStopActivity with
      | none =>
          rfl
      | some record =>
          dsimp only [Option.bind_eq_bind, Option.bind_some]
          split
          · exact commutes _ _ _
          · rfl
    · rfl
  · rfl

theorem lifecycleTransitionFrom_relist
    (fuel : Nat)
    (manager : TaskStackManager)
    (activity : Nat)
    (toStatus : Status) :
    lifecycleTransitionFrom fuel (manager.relist tasks tokens) activity
        toStatus =
      (lifecycleTransitionFrom fuel manager activity toStatus).map
        (relist tasks tokens) := by
  induction fuel generalizing manager activity toStatus with
  | zero =>
      rfl
  | succ fuel inductionHypothesis =>
      have sameRecord :
          (manager.relist tasks tokens).activities activity =
            manager.activities activity :=
        rfl
      unfold lifecycleTransitionFrom
      rw [sameRecord]
      cases manager.activities activity with
      | none =>
          rfl
      | some record =>
          dsimp only [Option.bind_eq_bind, Option.bind_some]
          split
          · rw [triggerWaitResume_relist inductionHypothesis]
            cases triggerWaitResume (lifecycleTransitionFrom fuel) manager
                activity with
            | none =>
                rfl
            | some middle =>
                exact turn_relist middle activity toStatus
          · exact turn_relist manager activity toStatus

theorem askAll_relist
    (requests : List (Nat × Status))
    (manager : TaskStackManager) :
    askAll requests (manager.relist tasks tokens) =
      (askAll requests manager).map (relist tasks tokens) := by
  induction requests generalizing manager with
  | nil =>
      rfl
  | cons request rest inductionHypothesis =>
      obtain ⟨activity, toStatus⟩ := request
      rw [askAll, askAll, lifecycleTransition, lifecycleTransition,
        lifecycleTransitionFrom_relist]
      cases lifecycleTransitionFrom 2 manager activity toStatus with
      | none =>
          rfl
      | some middle =>
          exact inductionHypothesis middle

theorem askAll_append
    (first later : List (Nat × Status))
    (manager : TaskStackManager) :
    askAll (first ++ later) manager =
      askAll first manager >>= askAll later := by
  induction first generalizing manager with
  | nil =>
      rfl
  | cons request rest inductionHypothesis =>
      obtain ⟨activity, toStatus⟩ := request
      rw [List.cons_append, askAll, askAll]
      cases manager.lifecycleTransition activity toStatus with
      | none =>
          rfl
      | some middle =>
          exact inductionHypothesis middle

/-- Requests leave the lists alone. -/
theorem askAll_lists
    {requests : List (Nat × Status)}
    (asked : askAll requests manager = some next) :
    next.lists = manager.lists := by
  have commutes :
      askAll requests (manager.relist (fun _ => manager.lists) id) =
        (askAll requests manager).map
          (relist (fun _ => manager.lists) id) :=
    askAll_relist requests manager
  have sameManager :
      manager.relist (fun _ => manager.lists) id = manager :=
    rfl
  rw [sameManager, asked] at commutes
  have isRelisted := Option.some.inj commutes
  rw [isRelisted]
  rfl

/-! ## Requests keep the setting -/

/-- Nothing but the lists and the setting is kept track of. -/
def noAims : Aims where
  safe := False
  counts := False
  targets := False

/-- Every state has its lists and its setting. -/
theorem tracks_noAims (manager : TaskStackManager) :
    Tracks noAims manager.setting manager.lists [] [] noExcuse manager where
  sameLists := rfl
  sameSetting := rfl
  counts := False.elim
  targets := False.elim
  ready := False.elim

/-- Requests to destroy and to resume keep the setting. -/
theorem askAll_setting
    {requests : List (Nat × Status)}
    (requested :
      ∀ request ∈ requests,
        request.2 = Status.destroyed ∨ request.2 = Status.resumed)
    (asked : askAll requests manager = some next) :
    next.setting = manager.setting := by
  induction requests generalizing manager with
  | nil =>
      rw [← Option.some.inj asked]
  | cons request rest inductionHypothesis =>
      obtain ⟨activity, toStatus⟩ := request
      have isFirst := requested _ List.mem_cons_self
      have tracks := tracks_noAims manager
      have firstSetting :
          ∀ middle,
            manager.lifecycleTransition activity toStatus = some middle →
            middle.setting = manager.setting := by
        intro middle isMiddle
        rcases isFirst with isDestroyed | isResumed
        · rw [show toStatus = Status.destroyed from isDestroyed] at isMiddle
          have destroyed :=
            (tracks.destroy False.elim
              fun _ isExcused => isExcused.elim).of_result isMiddle
          exact destroyed.sameSetting
        · rw [show toStatus = Status.resumed from isResumed] at isMiddle
          have resumed :=
            (tracks.resume False.elim
              fun _ _ isExcused => isExcused.elim).of_result isMiddle
          exact resumed.sameSetting
      rw [askAll] at asked
      obtain ⟨middle, isMiddle, later⟩ := Option.bind_eq_some_iff.mp asked
      rw [← firstSetting middle isMiddle]
      apply inductionHypothesis _ later
      intro request member
      exact requested request (List.mem_cons_of_mem _ member)

/-! ## A deletion is its requests -/

/-- `getTask` in terms of the setting. -/
theorem getTask_eq_setting
    {activity : Nat}
    {record : ActivityRecord}
    (isRecord : manager.activities activity = some record) :
    manager.getTask record =
      manager.setting.getTask manager.lists activity := by
  unfold getTask Setting.getTask Setting.inTask setting
  dsimp only
  rw [isRecord]
  simp [Option.filter]

/-- A request leaves the lists alone. -/
theorem lifecycleTransition_lists
    {activity : Nat}
    {toStatus : Status}
    (asked :
      manager.lifecycleTransition activity toStatus = some next) :
    next.lists = manager.lists := by
  have single : askAll [(activity, toStatus)] manager = some next := by
    rw [askAll, asked]
    rfl
  exact askAll_lists single

/-- One round of the loop down to an activity. -/
theorem deleteDownTo_cons
    {task top : Nat}
    {rest : List Nat}
    (isStack : manager.lists.stackOf task = top :: rest)
    (activity fuel : Nat) :
    deleteDownTo task activity (fuel + 1) manager =
      (manager.lifecycleTransition top Status.destroyed).bind
        fun middle =>
          let popped :=
            middle.setLists (manager.lists.setStack task rest)
          if top = activity then
            some popped
          else
            deleteDownTo task activity fuel popped := by
  have isTop : manager.lists.getTopActivity task = some top := by
    rw [TaskLists.getTopActivity, isStack]
    rfl
  rw [deleteDownTo, isTop]
  dsimp only
  refine Option.bind_congr ?_
  intro middle asked
  have popped :
      middle.lists.popActivity? task =
        some (manager.lists.setStack task rest) := by
    rw [lifecycleTransition_lists asked, TaskLists.popActivity?, isStack]
  rw [popped]
  rfl

/-- The loop down to an activity. -/
theorem deleteDownTo_eq
    {task activity fuel : Nat}
    {above below : List Nat}
    (isStack :
      manager.lists.stackOf task = above ++ activity :: below)
    (notAbove : activity ∉ above)
    (enough : above.length < fuel) :
    deleteDownTo task activity fuel manager =
      (askAll
          ((above ++ [activity]).map (·, Status.destroyed)) manager).map
        (relist (fun lists => lists.setStack task below) id) := by
  induction above generalizing manager fuel with
  | nil =>
      obtain ⟨fuel, rfl⟩ :=
        Nat.exists_eq_add_one_of_ne_zero (Nat.ne_zero_of_lt enough)
      have askedOnce :
          askAll (([] ++ [activity]).map (·, Status.destroyed)) manager =
            manager.lifecycleTransition activity Status.destroyed :=
        Option.bind_fun_some _
      rw [deleteDownTo_cons isStack, askedOnce,
        Option.map_eq_bind]
      refine Option.bind_congr ?_
      intro middle asked
      rw [if_pos rfl, Function.comp_apply, relist,
        lifecycleTransition_lists asked]
      rfl
  | cons top above inductionHypothesis =>
      obtain ⟨fuel, rfl⟩ :=
        Nat.exists_eq_add_one_of_ne_zero (Nat.ne_zero_of_lt enough)
      rw [List.mem_cons, not_or] at notAbove
      rw [List.cons_append] at isStack
      have askedFirst :
          askAll
              ((top :: above ++ [activity]).map (·, Status.destroyed))
              manager =
            (manager.lifecycleTransition top Status.destroyed).bind
              (askAll ((above ++ [activity]).map (·, Status.destroyed))) :=
        rfl
      rw [deleteDownTo_cons isStack, askedFirst, Option.map_bind]
      refine Option.bind_congr ?_
      intro middle asked
      let popped : TaskLists → TaskLists := fun lists =>
        lists.setStack task (above ++ activity :: below)
      have isPopped :
          middle.setLists
              (manager.lists.setStack task (above ++ activity :: below)) =
            middle.relist popped id := by
        rw [← lifecycleTransition_lists asked]
        rfl
      have later :
          deleteDownTo task activity fuel (middle.relist popped id) =
            (askAll ((above ++ [activity]).map (·, Status.destroyed))
                (middle.relist popped id)).map
              (relist (fun lists => lists.setStack task below) id) :=
        inductionHypothesis
          (TaskLists.setStack_stacks middle.lists task _) notAbove.2
          (Nat.lt_of_succ_lt_succ enough)
      dsimp only
      rw [if_neg fun same => notAbove.1 same.symm, isPopped, later,
        askAll_relist, Option.map_map, Function.comp_apply]
      refine congrArg (fun change => Option.map change _) ?_
      funext final
      simp [relist, popped]

/-- The activity and all above it are destroyed. -/
theorem destroyDownTo_eq
    (manager : TaskStackManager)
    (task activity : Nat) :
    (if activity ∈ manager.lists.stackOf task then
      deleteDownTo task activity (manager.loopFuel task) manager
    else
      some manager) =
      (askAll (Setting.destroyRequests manager.lists task activity)
          manager).map
        (·.setLists
          (manager.lists.setStack task
            (manager.lists.remaining task activity))) := by
  unfold Setting.destroyRequests TaskLists.remaining
  split
  · rename_i onStack
    obtain ⟨above, splits, notAbove⟩ := TaskLists.exists_above onStack
    have enough : above.length < manager.loopFuel task := by
      rw [loopFuel, splits, List.length_append]
      omega
    have isAbove :
        TaskLists.downTo (manager.lists.stackOf task) activity =
          above ++ [activity] := by
      apply List.append_cancel_right
      exact
        (TaskLists.downTo_append_below onStack).trans
          (splits.trans (List.append_cons _ _ _))
    rw [deleteDownTo_eq splits notAbove enough, isAbove]
    refine Option.map_congr ?_
    intro final asked
    rw [← askAll_lists asked]
    rfl
  · rw [TaskLists.setStack_self]
    rfl

/-- Nobody or one activity is asked to be resumed. -/
theorem askAll_next
    (manager : TaskStackManager)
    (next : Option Nat) :
    askAll (next.map (·, Status.resumed)).toList manager =
      match next with
      | some nextActivity =>
          manager.lifecycleTransition nextActivity Status.resumed
      | none =>
          some manager := by
  cases next with
  | none =>
      rfl
  | some nextActivity =>
      exact Option.bind_fun_some _

/-- Requests after a change of the lists. -/
theorem askAll_setLists
    (requests : List (Nat × Status))
    (manager : TaskStackManager)
    (lists : TaskLists) :
    askAll requests (manager.setLists lists) =
      (askAll requests manager).map (·.setLists lists) := by
  have commutes :
      askAll requests (manager.relist (fun _ => lists) id) =
        (askAll requests manager).map (relist (fun _ => lists) id) :=
    askAll_relist requests manager
  exact commutes

/-- The lists are what they were before the requests. -/
theorem askAll_setLists_self
    {lists : TaskLists}
    (requests : List (Nat × Status))
    (isLists : manager.lists = lists) :
    (askAll requests manager).map (·.setLists lists) =
      askAll requests manager := by
  rw [← askAll_setLists, ← isLists]
  rfl

/-- The active task goes on with its next activity, or goes. -/
theorem resumeNext_eq
    {lists : TaskLists}
    {task : Nat}
    {stack : List Nat}
    (isActive : some task = lists.getActiveTask)
    (isShrunk : manager.lists = lists.setStack task stack) :
    manager.resumeNext task =
      (askAll
          ((lists.shrinkTo task stack).foreground.head?.map
            (·, Status.resumed)).toList
          manager).map
        (·.setLists (lists.shrinkTo task stack)) := by
  have isTop : manager.lists.getTopActivity task = stack.head? := by
    rw [isShrunk, TaskLists.getTopActivity, TaskLists.setStack_stacks]
  unfold resumeNext
  rw [isTop]
  cases stack with
  | cons next rest =>
      have isLists :
          manager.lists = lists.shrinkTo task (next :: rest) := by
        rw [isShrunk]
        simp [TaskLists.shrinkTo, TaskLists.setStack]
      rw [askAll_setLists_self _ isLists, askAll_next,
        TaskLists.foreground_shrinkTo_active isActive
          (List.cons_ne_nil next rest)]
      rfl
  | nil =>
      obtain ⟨others, allTasks⟩ := List.head?_eq_some_iff.mp isActive.symm
      have popped :
          manager.lists.popFront? = some (lists.shrinkTo task []) := by
        rw [isShrunk]
        simp [TaskLists.popFront?, TaskLists.setStack,
          TaskLists.shrinkTo, allTasks]
      have isNext :
          (lists.shrinkTo task []).getActiveTask.bind
              (lists.shrinkTo task []).getTopActivity =
            (lists.shrinkTo task []).foreground.head? := by
        unfold TaskLists.foreground
        cases (lists.shrinkTo task []).getActiveTask <;> rfl
      rw [← askAll_setLists, askAll_next, ← isNext]
      dsimp only [List.head?_nil]
      rw [popped]
      rfl

/-- The next activity is resumed, or the emptied task goes. -/
theorem shrink_eq
    {lists : TaskLists}
    {task activity : Nat}
    (isShrunk :
      manager.lists =
        lists.setStack task (lists.remaining task activity)) :
    manager.shrink task =
      (askAll (Setting.resumeRequests lists task activity) manager).map
        (·.setLists
          (lists.shrinkTo task (lists.remaining task activity))) := by
  have sameActive : manager.lists.getActiveTask = lists.getActiveTask := by
    rw [isShrunk]
    rfl
  unfold shrink Setting.resumeRequests
  rw [sameActive]
  split
  · rename_i isActive
    exact resumeNext_eq isActive isShrunk
  · rw [askAll, Option.map_some, ← TaskLists.shrinkTo_other, ← isShrunk]
    split
    · rfl
    · rfl

/-- A deletion is its requests, with the change of the lists. -/
theorem deleteActivity_eq_askAll
    {activity : Nat}
    {record : ActivityRecord}
    (isRecord : manager.activities activity = some record) :
    manager.deleteActivity activity =
      (askAll
          (manager.setting.deletionRequests manager.lists activity)
          manager).map
        (·.setLists
          (manager.setting.deleteActivity manager.lists activity)) := by
  have sameTask := getTask_eq_setting isRecord
  unfold Setting.deletionRequests Setting.deleteActivity
  cases found : manager.setting.getTask manager.lists activity with
  | none =>
      rw [deleteActivity, isRecord, Option.bind_eq_bind, Option.bind_some,
        sameTask, found]
      rfl
  | some task =>
      rw [found] at sameTask
      dsimp only
      rw [deleteActivity_eq isRecord sameTask, destroyDownTo_eq,
        askAll_append]
      cases askAll (Setting.destroyRequests manager.lists task activity)
          manager with
      | none =>
          rfl
      | some middle =>
          have shrunk :
              (middle.setLists
                  (manager.lists.setStack task
                    (manager.lists.remaining task activity))).shrink task =
                _ :=
            shrink_eq rfl
          rw [askAll_setLists] at shrunk
          dsimp only [Option.map_some, Option.bind_eq_bind,
            Option.bind_some]
          rw [shrunk]
          cases askAll (Setting.resumeRequests manager.lists task activity)
              middle with
          | none =>
              rfl
          | some final =>
              rfl

/-- Deletions only ask to destroy and to resume. -/
theorem deletionRequests_requested
    {setting : Setting}
    {lists : TaskLists}
    {activity : Nat} :
    ∀ request ∈ setting.deletionRequests lists activity,
      request.2 = Status.destroyed ∨ request.2 = Status.resumed := by
  intro request member
  unfold Setting.deletionRequests at member
  split at member
  · rcases List.mem_append.mp member with isDestroy | isResume
    · unfold Setting.destroyRequests at isDestroy
      split at isDestroy
      · obtain ⟨_, _, isRequest⟩ := List.mem_map.mp isDestroy
        exact Or.inl (isRequest ▸ rfl)
      · exact absurd isDestroy List.not_mem_nil
    · unfold Setting.resumeRequests at isResume
      split at isResume
      · obtain ⟨_, _, isRequest⟩ :=
          Option.map_eq_some_iff.mp (Option.mem_toList.mp isResume)
        exact Or.inr (isRequest ▸ rfl)
      · exact absurd isResume List.not_mem_nil
  · exact absurd member List.not_mem_nil

/-- The deletion of several activities is its requests. -/
theorem deleteAll_eq_askAll
    {activities : List Nat}
    (known :
      ∀ activity ∈ activities,
        (manager.setting.placed activity).isSome = true) :
    deleteAll activities manager =
      (askAll (manager.setting.crashRequests activities manager.lists)
          manager).map
        (relist (fun _ => manager.setting.deleteAll activities manager.lists)
          fun tokens => activities.foldl List.erase tokens) := by
  induction activities generalizing manager with
  | nil =>
      rfl
  | cons activity rest inductionHypothesis =>
      have isKnown := known activity List.mem_cons_self
      rw [setting, Option.isSome_map, Option.isSome_iff_exists] at isKnown
      obtain ⟨record, isRecord⟩ := isKnown
      rw [deleteAll, deleteActivity_eq_askAll isRecord,
        Setting.crashRequests, askAll_append]
      cases asked :
          askAll
            (manager.setting.deletionRequests manager.lists activity)
            manager with
      | none =>
          rfl
      | some middle =>
          have sameSetting :=
            askAll_setting deletionRequests_requested asked
          let deleted : TaskLists :=
            manager.setting.deleteActivity manager.lists activity
          have later :
              deleteAll rest
                  (middle.relist (fun _ => deleted)
                    fun tokens => tokens.erase activity) =
                _ :=
            inductionHypothesis
              fun other member => by
                rw [show
                  (middle.relist (fun _ => deleted)
                      fun tokens => tokens.erase activity).setting =
                    manager.setting from sameSetting]
                exact known other (List.mem_cons_of_mem activity member)
          refine Eq.trans later ?_
          rw [show
            (middle.relist (fun _ => deleted)
                fun tokens => tokens.erase activity).setting =
              manager.setting from sameSetting, askAll_relist,
            Option.map_map]
          rfl

end TaskStackManager

end ActivityManager
