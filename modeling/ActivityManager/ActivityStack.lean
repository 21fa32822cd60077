import ActivityManager.SystemUIManager
import ActivityManager.AppInfoList

/-!
# Removing an activity from a stack

`ActivityStack::removeActivity` takes an activity out of a task of the
SystemUI as the loops over the unordered lists of the server do: the last
element takes its place.  The first and the last activity of a stack are its
root and its top, so the place matters.  An activity with at most one activity
above it is taken out in order, and another one is not.

Stacks are listed as the source has them, from the root to the top.
-/

namespace ActivityManager

namespace ActivityStack

/-- `ActivityStack::removeActivity`. -/
def removeActivity
    (activity : Nat)
    (mStack : List Nat) : List Nat :=
  swapRemove (· == activity) mStack

/-- `ActivityStack::getTopActivity`. -/
def getTopActivity (mStack : List Nat) : Option Nat :=
  mStack.getLast?

/-- `ActivityStack::getRootActivity`. -/
def getRootActivity (mStack : List Nat) : Option Nat :=
  mStack.head?

/-- What lies above the place where `removeActivity` finds the activity. -/
def above
    (activity : Nat)
    (mStack : List Nat) : List Nat :=
  (mStack.dropWhile (· != activity)).tail

/--
No activity changes its place relative to another: the top is the activity
itself, or it is all that lies above.
-/
def NoneDisplaced
    (mStack : List Nat)
    (activity : Nat) : Prop :=
  (above activity mStack).getLast? = some activity ∨
    ∀ other ∈ above activity mStack,
      (above activity mStack).getLast? = some other

instance (mStack : List Nat) (activity : Nat) :
    Decidable (NoneDisplaced mStack activity) :=
  inferInstanceAs (Decidable (_ ∨ _))

/-! ## The shape of a stack -/

variable
  {mStack : List Nat}
  {activity : Nat}

theorem above_of_not_mem
    (notThere : activity ∉ mStack) :
    above activity mStack = [] := by
  have allOther : ∀ other ∈ mStack, (other != activity) = true := by
    intro other member
    rw [bne_iff_ne]
    exact fun isActivity => notThere (isActivity ▸ member)
  rw [above, List.dropWhile_eq_nil_iff.mpr allOther, List.tail_nil]

theorem above_of_split
    {below : List Nat}
    (notBelow : activity ∉ below)
    (later : List Nat) :
    above activity (below ++ activity :: later) = later := by
  have allOther : ∀ other ∈ below, (other != activity) = true := by
    intro other member
    rw [bne_iff_ne]
    exact fun isActivity => notBelow (isActivity ▸ member)
  rw [above, List.dropWhile_append_of_pos allOther,
    List.dropWhile_cons_of_neg (by simp), List.tail_cons]

/-- An activity that is not there is not removed. -/
theorem removeActivity_of_not_mem
    (notThere : activity ∉ mStack) :
    removeActivity activity mStack = mStack := by
  refine swapRemove_of_forall_not ?_
  intro other member
  rw [beq_eq_false_iff_ne]
  exact fun isActivity => notThere (isActivity ▸ member)

/-- The top moves to the place of the activity. -/
theorem removeActivity_of_split
    {below : List Nat}
    (notBelow : activity ∉ below)
    (later : List Nat) :
    removeActivity activity (below ++ activity :: later) =
      below ++ (later.getLast?.toList ++ later.dropLast) := by
  have allOther : ∀ other ∈ below, (other == activity) = false := by
    intro other member
    rw [beq_eq_false_iff_ne]
    exact fun isActivity => notBelow (isActivity ▸ member)
  exact swapRemove_append_cons allOther (beq_self_eq_true activity) later

/-- In a stack without repetitions at most one activity may lie above. -/
theorem noneDisplaced_iff_of_nodup
    (distinct : mStack.Nodup) :
    NoneDisplaced mStack activity ↔
      (above activity mStack).length ≤ 1 := by
  by_cases isThere : activity ∈ mStack
  · obtain ⟨below, later, shape, notBelow⟩ :=
      List.eq_append_cons_of_mem isThere
    rw [NoneDisplaced, shape, above_of_split notBelow]
    rw [shape, List.nodup_middle, List.nodup_cons, List.mem_append,
      not_or] at distinct
    obtain ⟨⟨-, notOver⟩, apart⟩ := distinct
    have notTop : later.getLast? ≠ some activity := fun isTop =>
      notOver (List.mem_of_getLast? isTop)
    rw [or_iff_right notTop]
    match later, apart with
    | [], _ =>
        simp
    | [single], _ =>
        simp
    | first :: second :: rest, apart =>
        refine iff_of_false ?_ (by simp)
        intro allTop
        have isFirst := allTop first (by simp)
        have isSecond := allTop second (by simp)
        have same : first = second :=
          Option.some.inj (isFirst.symm.trans isSecond)
        have distinct := (List.nodup_append.mp apart).2.1
        exact (List.nodup_cons.mp distinct).1 (same ▸ by simp)
  · simp [NoneDisplaced, above_of_not_mem isThere]

/-! ## When the order is kept -/

/-- A list that begins with what it ends with, and is shifted by it. -/
theorem eq_of_cons_eq_append
    {last : Nat}
    {front : List Nat}
    (shifted : last :: front = front ++ [last]) :
    ∀ other ∈ front, other = last := by
  induction front with
  | nil =>
      exact nofun
  | cons first rest inductionHypothesis =>
      rw [List.cons_append, List.cons.injEq] at shifted
      obtain ⟨isFirst, tails⟩ := shifted
      rw [← isFirst] at tails
      intro other member
      rcases List.mem_cons.mp member with isFirst' | isRest
      · exact isFirst'.trans isFirst.symm
      · exact inductionHypothesis tails other isRest

/-- The top may take the place if it is the activity, or all that is above. -/
theorem moved_sublist_iff
    (later : List Nat) :
    (later.getLast?.toList ++ later.dropLast).Sublist (activity :: later) ↔
      later.getLast? = some activity ∨
        ∀ other ∈ later, later.getLast? = some other := by
  rcases List.eq_nil_or_concat later with rfl | ⟨front, last, rfl⟩
  · simp
  · rw [List.concat_eq_append, List.getLast?_concat, List.dropLast_concat,
      Option.toList_some, List.singleton_append, Option.some.injEq]
    constructor
    · intro kept
      cases kept with
      | cons _ inner =>
          have shifted : last :: front = front ++ [last] :=
            inner.eq_of_length (by simp)
          have same := eq_of_cons_eq_append shifted
          refine Or.inr ?_
          intro other member
          rcases List.mem_append.mp member with isFront | isLast
          · rw [same other isFront]
          · rw [List.mem_singleton.mp isLast]
      | cons_cons _ _ =>
          exact Or.inl rfl
    · rintro (rfl | allLast)
      · exact (List.sublist_append_left front [last]).cons_cons last
      · have same : front = List.replicate front.length last :=
          List.eq_replicate_iff.mpr
            ⟨rfl, fun other member =>
              (Option.some.inj
                (allLast other (List.mem_append_left _ member))).symm⟩
        rw [same]
        rw [← List.replicate_succ, ← List.replicate_succ']
        exact List.sublist_cons_self _ _

/-- The remaining activities keep their order. -/
theorem removeActivity_sublist_iff :
    (removeActivity activity mStack).Sublist mStack ↔
      NoneDisplaced mStack activity := by
  by_cases isThere : activity ∈ mStack
  · obtain ⟨below, later, rfl, notBelow⟩ :=
      List.eq_append_cons_of_mem isThere
    rw [removeActivity_of_split notBelow, NoneDisplaced,
      above_of_split notBelow, List.append_sublist_append_left]
    exact moved_sublist_iff later
  · rw [removeActivity_of_not_mem isThere, NoneDisplaced,
      above_of_not_mem isThere]
    exact iff_of_true (List.Sublist.refl _) (Or.inr nofun)

/-- The root stays, unless it is removed. -/
theorem removeActivity_root
    (notRoot : getRootActivity mStack ≠ some activity) :
    getRootActivity (removeActivity activity mStack) =
      getRootActivity mStack := by
  by_cases isThere : activity ∈ mStack
  · obtain ⟨below, later, rfl, notBelow⟩ :=
      List.eq_append_cons_of_mem isThere
    rw [removeActivity_of_split notBelow]
    cases below with
    | nil =>
        exact absurd rfl notRoot
    | cons root rest =>
        rfl
  · rw [removeActivity_of_not_mem isThere]

/-- So does the top, if nothing is displaced. -/
theorem removeActivity_top
    (noneDisplaced : NoneDisplaced mStack activity)
    (notTop : getTopActivity mStack ≠ some activity) :
    getTopActivity (removeActivity activity mStack) =
      getTopActivity mStack := by
  by_cases isThere : activity ∈ mStack
  · obtain ⟨below, later, rfl, notBelow⟩ :=
      List.eq_append_cons_of_mem isThere
    rw [NoneDisplaced, above_of_split notBelow] at noneDisplaced
    rw [removeActivity_of_split notBelow]
    rcases List.eq_nil_or_concat later with rfl | ⟨front, last, rfl⟩
    · exact absurd (by simp [getTopActivity]) notTop
    · rw [List.concat_eq_append] at noneDisplaced notTop ⊢
      have isTop :
          getTopActivity (below ++ activity :: (front ++ [last])) =
            some last := by
        simp [getTopActivity, List.getLast?_cons]
      rw [isTop] at notTop ⊢
      have same : ∀ other ∈ front, last = other := by
        rw [List.getLast?_concat, or_iff_right notTop] at noneDisplaced
        exact fun other member =>
          Option.some.inj
            (noneDisplaced other (List.mem_append_left _ member))
      rw [List.getLast?_concat, List.dropLast_concat, getTopActivity,
        Option.toList_some, List.singleton_append]
      rcases List.eq_nil_or_concat front with rfl | ⟨rest, final, rfl⟩
      · simp
      · rw [same final (by simp)]
        simp [List.getLast?_cons]
  · rw [removeActivity_of_not_mem isThere]

/-! ## The task of a removed activity -/

variable
  {systemUI : SystemUIManager}
  {manager : TaskStackManager}
  {record : ActivityRecord}

/-- `deleteActivity` removes an activity from the stack of its task. -/
theorem deleteActivity_mStack
    (isRecord : manager.activities activity = some record)
    (isListed : record.mInTask ∈ systemUI.mSystemUITasks) :
    (systemUI.deleteActivity manager activity).mStack record.mInTask =
      removeActivity activity (systemUI.mStack record.mInTask) := by
  simp only [SystemUIManager.deleteActivity, isRecord]
  rw [if_pos isListed]
  exact Function.update_self _ _ _

/-- Unless the root goes, every search finds the task it found before. -/
theorem deleteActivity_findTask
    (mTag : Nat → String)
    (isRecord : manager.activities activity = some record)
    (isListed : record.mInTask ∈ systemUI.mSystemUITasks)
    (notRoot :
      getRootActivity (systemUI.mStack record.mInTask) ≠ some activity)
    (tag : String) :
    (systemUI.deleteActivity manager activity).findTask manager mTag tag =
      systemUI.findTask manager mTag tag := by
  have sameRoot := removeActivity_root notRoot
  have sameCheck :
      ∀ task,
        ((systemUI.deleteActivity manager activity).mStack task).head? =
          (systemUI.mStack task).head? := by
    intro task
    by_cases isTask : task = record.mInTask
    · rw [isTask, deleteActivity_mStack isRecord isListed]
      exact sameRoot
    · simp only [SystemUIManager.deleteActivity, isRecord]
      rw [if_pos isListed]
      exact congrArg List.head? (Function.update_of_ne isTask _ _)
  simp only [SystemUIManager.findTask, sameCheck]
  simp only [SystemUIManager.deleteActivity, isRecord]
  rw [if_pos isListed]
  dsimp only
  split
  case isTrue isEmpty =>
    have noRoot : (systemUI.mStack record.mInTask).head? = none := by
      rw [← getRootActivity, ← sameRoot, removeActivity,
        List.isEmpty_iff.mp isEmpty]
      rfl
    rw [List.find?_filter]
    congr 1
    funext task
    by_cases isTask : task = record.mInTask
    · simp [isTask, noRoot, TaskStackManager.isAliveTask]
    · simp [isTask]
  case isFalse =>
    rfl

/--
Taking an activity out keeps the order of the others, the top and the root
unless it is one of them, and what `SystemUIManager` reports of its task.
-/
structure RemovesInOrder
    (mStack : List Nat)
    (activity : Nat) : Prop where
  taken : (removeActivity activity mStack).Perm (mStack.erase activity)
  order : (removeActivity activity mStack).Sublist mStack
  top :
    getTopActivity mStack ≠ some activity →
      getTopActivity (removeActivity activity mStack) =
        getTopActivity mStack
  root :
    getRootActivity mStack ≠ some activity →
      getRootActivity (removeActivity activity mStack) =
        getRootActivity mStack
  reported :
    ∀ (systemUI : SystemUIManager) (manager : TaskStackManager)
      (mTag : Nat → String) (record : ActivityRecord),
      manager.activities activity = some record →
      record.mInTask ∈ systemUI.mSystemUITasks →
      systemUI.mStack record.mInTask = mStack →
      let after := systemUI.deleteActivity manager activity
      (getTopActivity mStack ≠ some activity →
          getTopActivity (after.mStack record.mInTask) =
            getTopActivity mStack) ∧
        (getRootActivity mStack ≠ some activity →
          getRootActivity (after.mStack record.mInTask) =
              getRootActivity mStack ∧
            ∀ tag,
              after.findTask manager mTag tag =
                systemUI.findTask manager mTag tag)

/--
An activity is taken out of a stack in order if and only if none is displaced:
it is not there, or nothing but the top lies above it, or the top is that very
activity.
-/
theorem removesInOrder_iff
    (mStack : List Nat)
    (activity : Nat) :
    RemovesInOrder mStack activity ↔ NoneDisplaced mStack activity := by
  constructor
  · intro inOrder
    exact removeActivity_sublist_iff.mp inOrder.order
  · intro noneDisplaced
    refine
      { taken := ?_
        order := removeActivity_sublist_iff.mpr noneDisplaced
        top := removeActivity_top noneDisplaced
        root := removeActivity_root
        reported := ?_ }
    · rw [List.erase_eq_eraseP']
      exact swapRemove_perm _ mStack
    · intro systemUI manager mTag record isRecord isListed isStack after
      have left : after.mStack record.mInTask =
          removeActivity activity mStack := by
        rw [← isStack]
        exact deleteActivity_mStack isRecord isListed
      rw [left]
      refine ⟨removeActivity_top noneDisplaced, fun notRoot => ?_⟩
      refine ⟨removeActivity_root notRoot, ?_⟩
      rw [← isStack] at notRoot
      exact deleteActivity_findTask mTag isRecord isListed notRoot

example : removeActivity 1 [1, 2, 3] = [3, 2] := by decide

/-- Of three activities the root goes, and the others change their places. -/
theorem root_of_three_not_inOrder : ¬RemovesInOrder [1, 2, 3] 1 :=
  fun inOrder => absurd inOrder.order (by decide)

end ActivityStack

end ActivityManager
