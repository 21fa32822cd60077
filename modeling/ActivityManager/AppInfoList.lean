import ActivityManager.AppRecord
import Mathlib.Data.List.Nodup
import Mathlib.Data.List.Perm.Basic

/-!
# The list of attached applications

`AppInfoList` finds the record of a process by its pid.  No two records of a
list have the same pid, which is a field of the structure: `addAppInfo` only
adds a record whose pid is not there.
-/

namespace ActivityManager

/-- The deletion loop leaves a list without a match alone. -/
theorem swapRemove_of_forall_not
    {α : Type}
    {isMatch : α → Bool}
    {elements : List α}
    (absent : ∀ element ∈ elements, isMatch element = false) :
    swapRemove isMatch elements = elements := by
  have index : elements.findIdx? isMatch = none :=
    List.findIdx?_eq_none_iff.mpr absent
  simp [swapRemove, index]

/-- In the place of the first match stands the last element, if there is one. -/
theorem swapRemove_append_cons
    {α : Type}
    {isMatch : α → Bool}
    {left : List α}
    {found : α}
    (notLeft : ∀ element ∈ left, isMatch element = false)
    (isFound : isMatch found = true)
    (right : List α) :
    swapRemove isMatch (left ++ found :: right) =
      left ++ (right.getLast?.toList ++ right.dropLast) := by
  have index :
      (left ++ found :: right).findIdx? isMatch = some left.length := by
    rw [List.findIdx?_append, List.findIdx?_eq_none_iff.mpr notLeft,
      List.findIdx?_cons, if_pos isFound]
    simp
  rcases List.eq_nil_or_concat right with rfl | ⟨front, last, rfl⟩
  · have final : (left ++ [found]).getLast? = some found := by
      simp
    simp [swapRemove, index, final]
  · rw [List.concat_eq_append] at index ⊢
    have final :
        (left ++ found :: (front ++ [last])).getLast? = some last := by
      simp [List.getLast?_cons]
    simp only [swapRemove, index, final]
    rw [List.set_append_right _ _ (Nat.le_refl _), Nat.sub_self,
      List.set_cons_zero, ← List.cons_append, ← List.append_assoc,
      List.dropLast_concat]
    simp

/-- What the deletion loop leaves, up to the order. -/
theorem swapRemove_perm
    {α : Type}
    (isMatch : α → Bool)
    (elements : List α) :
    (swapRemove isMatch elements).Perm (elements.eraseP isMatch) := by
  by_cases present : ∃ element ∈ elements, isMatch element = true
  · obtain ⟨element, member, isIt⟩ := present
    obtain ⟨found, left, right, notLeft, isFound, shape, erased⟩ :=
      List.exists_of_eraseP member isIt
    rw [erased, shape,
      swapRemove_append_cons (by simpa using notLeft) isFound right]
    refine List.Perm.append_left left ?_
    rcases List.eq_nil_or_concat right with rfl | ⟨front, last, rfl⟩
    · exact List.Perm.refl []
    · rw [List.concat_eq_append, List.getLast?_concat, List.dropLast_concat]
      exact (List.perm_append_singleton last front).symm
  · have absent :
        ∀ element ∈ elements, isMatch element = false := by
      intro element member
      by_contra isIt
      exact present ⟨element, member, by simpa using isIt⟩
    rw [List.eraseP_of_forall_not (by simpa using absent),
      swapRemove_of_forall_not absent]

/-- With a unique key, erasing the first match erases every match. -/
theorem eraseP_key
    {α : Type}
    {key : α → Nat}
    {elements : List α}
    (unique : (elements.map key).Nodup)
    (value : Nat) :
    elements.eraseP (key · == value) =
      elements.filter (key · != value) := by
  induction elements with
  | nil =>
      rfl
  | cons element rest inductionHypothesis =>
      rw [List.map_cons, List.nodup_cons] at unique
      by_cases isValue : key element = value
      · have others : ∀ other ∈ rest, key other ≠ value := by
          intro other member same
          exact unique.1
            (List.mem_map.mpr ⟨other, member, same.trans isValue.symm⟩)
        have kept : rest.filter (key · != value) = rest :=
          List.filter_eq_self.mpr (by simpa using others)
        simp [isValue, kept]
      · simp [isValue, inductionHypothesis unique.2]

/-- The deletion loop with a unique key, up to the order. -/
theorem swapRemove_key
    {α : Type}
    {key : α → Nat}
    {elements : List α}
    (unique : (elements.map key).Nodup)
    (value : Nat) :
    (swapRemove (key · == value) elements).Perm
      (elements.filter (key · != value)) := by
  rw [← eraseP_key unique value]
  exact swapRemove_perm _ elements

/-- The deletion loop takes the first match away. -/
theorem perm_cons_swapRemove
    {α : Type}
    {isMatch : α → Bool}
    {elements : List α}
    {element : α}
    (isFound : elements.find? isMatch = some element) :
    elements.Perm (element :: swapRemove isMatch elements) := by
  obtain ⟨isMatched, left, right, shape, notLeft⟩ :=
    List.find?_eq_some_iff_append.mp isFound
  have erased : elements.eraseP isMatch = left ++ right := by
    rw [shape, List.eraseP_append_right _ (by simpa using notLeft),
      List.eraseP_cons_of_pos isMatched]
  have others :
      (element :: (left ++ right)).Perm
        (element :: swapRemove isMatch elements) := by
    rw [← erased]
    exact (swapRemove_perm isMatch elements).symm.cons element
  refine List.Perm.trans ?_ others
  rw [shape]
  exact List.perm_middle

/-- What the deletion loop leaves of distinct numbers. -/
theorem mem_swapRemove_iff
    {numbers : List Nat}
    {number other : Nat}
    (distinct : numbers.Nodup) :
    other ∈ swapRemove (· == number) numbers ↔
      other ≠ number ∧ other ∈ numbers := by
  have unique : (numbers.map id).Nodup := by
    rw [List.map_id]
    exact distinct
  have left := (swapRemove_key unique number).mem_iff (a := other)
  rw [List.mem_filter, and_comm] at left
  exact left.trans (and_congr_left' bne_iff_ne)

/-- They stay distinct. -/
theorem swapRemove_nodup
    {numbers : List Nat}
    (distinct : numbers.Nodup)
    (isMatch : Nat → Bool) :
    (swapRemove isMatch numbers).Nodup :=
  (swapRemove_perm isMatch numbers).nodup_iff.mpr
    (distinct.sublist List.eraseP_sublist)

/-- The part of `AppInfoList` that holds the attached applications. -/
structure AppInfoList where
  mAppList : List AppRecord
  pidsUnique : (mAppList.map AppRecord.mPid).Nodup

namespace AppInfoList

/-- No application is attached. -/
def empty : AppInfoList where
  mAppList := []
  pidsUnique := List.nodup_nil

/-- `AppInfoList::findAppInfo`. -/
def findAppInfo
    (apps : AppInfoList)
    (pid : Nat) : Option AppRecord :=
  apps.mAppList.find? (·.mPid == pid)

/-- The record of a pid is the only one with that pid. -/
theorem findAppInfo_eq_some
    {apps : AppInfoList}
    {pid : Nat}
    {app : AppRecord} :
    apps.findAppInfo pid = some app ↔
      app ∈ apps.mAppList ∧ app.mPid = pid := by
  constructor
  · intro found
    exact ⟨List.mem_of_find?_eq_some found,
      by simpa using List.find?_some found⟩
  · rintro ⟨member, rfl⟩
    cases found : apps.findAppInfo app.mPid with
    | none =>
        have none := List.find?_eq_none.mp found app member
        simp at none
    | some other =>
        have otherMember := List.mem_of_find?_eq_some found
        have samePid : other.mPid = app.mPid := by
          simpa using List.find?_some found
        rw [List.inj_on_of_nodup_map apps.pidsUnique otherMember member
          samePid]

/-- A process without a record. -/
theorem findAppInfo_eq_none
    {apps : AppInfoList}
    {pid : Nat} :
    apps.findAppInfo pid = none ↔
      ∀ app ∈ apps.mAppList, app.mPid ≠ pid := by
  simp [findAppInfo]

/-- `AppInfoList::addAppInfo`. -/
def addAppInfo
    (apps : AppInfoList)
    (appInfo : AppRecord) : AppInfoList :=
  if absent : apps.findAppInfo appInfo.mPid = none then
    { mAppList := apps.mAppList ++ [appInfo]
      pidsUnique := by
        have others := findAppInfo_eq_none.mp absent
        rw [List.map_append, List.nodup_append]
        refine ⟨apps.pidsUnique, by simp, ?_⟩
        intro pid member other isNew
        obtain ⟨app, appMember, rfl⟩ := List.mem_map.mp member
        rw [List.mem_singleton.mp isNew]
        exact others app appMember }
  else
    apps

/-- `AppInfoList::deleteAppInfo`. -/
def deleteAppInfo
    (apps : AppInfoList)
    (pid : Nat) : AppInfoList where
  mAppList := swapRemove (·.mPid == pid) apps.mAppList
  pidsUnique := by
    have fewer :
        (apps.mAppList.eraseP (·.mPid == pid)).Sublist apps.mAppList :=
      List.eraseP_sublist
    have permuted :=
      (swapRemove_perm (fun app => app.mPid == pid) apps.mAppList).map
        AppRecord.mPid
    exact permuted.nodup_iff.mpr (apps.pidsUnique.sublist (fewer.map _))

/-- Change the record of a process. -/
def modify
    (apps : AppInfoList)
    (pid : Nat)
    (change : AppRecord → AppRecord)
    (keepsPid : ∀ app, (change app).mPid = app.mPid) : AppInfoList where
  mAppList :=
    apps.mAppList.map fun app =>
      if app.mPid = pid then change app else app
  pidsUnique := by
    have samePids :
        AppRecord.mPid ∘
            (fun app => if app.mPid = pid then change app else app) =
          AppRecord.mPid := by
      funext app
      by_cases isPid : app.mPid = pid
      · simp [isPid, keepsPid]
      · simp [isPid]
    rw [List.map_map, samePids]
    exact apps.pidsUnique

/-- A new record is found under its pid. -/
theorem findAppInfo_addAppInfo
    {apps : AppInfoList}
    {appInfo : AppRecord}
    (absent : apps.findAppInfo appInfo.mPid = none)
    (pid : Nat) :
    (apps.addAppInfo appInfo).findAppInfo pid =
      if pid = appInfo.mPid then some appInfo
      else apps.findAppInfo pid := by
  rw [addAppInfo, dif_pos absent]
  simp only [findAppInfo, List.find?_append]
  by_cases isNew : pid = appInfo.mPid
  · subst isNew
    have notFound :
        apps.mAppList.find? (·.mPid == appInfo.mPid) = none :=
      absent
    simp [notFound]
  · have notNew : ¬ appInfo.mPid = pid := fun same => isNew same.symm
    simp [isNew, notNew]

/-- A deleted record is gone, the others are still there. -/
theorem findAppInfo_deleteAppInfo
    (apps : AppInfoList)
    (pid other : Nat) :
    (apps.deleteAppInfo pid).findAppInfo other =
      if other = pid then none else apps.findAppInfo other := by
  have remains :
      ∀ app,
        app ∈ (apps.deleteAppInfo pid).mAppList ↔
          app ∈ apps.mAppList ∧ app.mPid ≠ pid := by
    intro app
    have permuted :=
      swapRemove_perm (fun app => app.mPid == pid) apps.mAppList
    rw [deleteAppInfo, permuted.mem_iff,
      eraseP_key apps.pidsUnique]
    simp
  by_cases isPid : other = pid
  · subst isPid
    rw [if_pos rfl, findAppInfo_eq_none]
    intro app member
    exact ((remains app).mp member).2
  · rw [if_neg isPid]
    ext app
    rw [findAppInfo_eq_some, findAppInfo_eq_some, remains]
    constructor
    · rintro ⟨⟨member, _⟩, samePid⟩
      exact ⟨member, samePid⟩
    · rintro ⟨member, samePid⟩
      exact ⟨⟨member, samePid ▸ isPid⟩, samePid⟩

/-- A changed record is found under the same pid. -/
theorem findAppInfo_modify
    (apps : AppInfoList)
    (pid other : Nat)
    (change : AppRecord → AppRecord)
    (keepsPid : ∀ app, (change app).mPid = app.mPid) :
    (apps.modify pid change keepsPid).findAppInfo other =
      if other = pid then (apps.findAppInfo pid).map change
      else apps.findAppInfo other := by
  have sameKey :
      (fun app : AppRecord => app.mPid == other) ∘
          (fun app => if app.mPid = pid then change app else app) =
        fun app => app.mPid == other := by
    funext app
    by_cases isPid : app.mPid = pid
    · simp [isPid, keepsPid]
    · simp [isPid]
  rw [findAppInfo, modify, List.find?_map, sameKey]
  cases found : apps.mAppList.find? (·.mPid == other) with
  | none =>
      by_cases isPid : other = pid
      · subst isPid
        simp [findAppInfo, found]
      · simp [findAppInfo, found, isPid]
  | some app =>
      have isOther : app.mPid = other := by
        simpa using List.find?_some found
      by_cases isPid : other = pid
      · subst isPid
        simp [findAppInfo, found, isOther]
      · simp [findAppInfo, found, isOther, isPid]

end AppInfoList

end ActivityManager
