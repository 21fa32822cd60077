import Mathlib.Data.List.Nodup
import Mathlib.Data.List.Perm.Basic

/-!
# Lists with keys

A list whose elements have different keys is a map.  What `find?` finds under
a key is then the element with that key, wherever it is in the list.
-/

namespace KeyedList

variable {α κ : Type} [DecidableEq κ] {key : α → κ} {elements : List α}

/-- What is found has the key. -/
theorem key_of_find?
    {k : κ}
    {element : α}
    (isFound : elements.find? (key · == k) = some element) :
    element ∈ elements ∧ key element = k :=
  ⟨List.mem_of_find?_eq_some isFound, by simpa using List.find?_some isFound⟩

/-- Under a key that no element has nothing is found. -/
theorem find?_eq_none_iff
    {k : κ} :
    elements.find? (key · == k) = none ↔
      ∀ element ∈ elements, key element ≠ k := by
  simp

/-- The element with a key is found. -/
theorem find?_eq_some_iff
    (distinct : (elements.map key).Nodup)
    {k : κ}
    {element : α} :
    elements.find? (key · == k) = some element ↔
      element ∈ elements ∧ key element = k := by
  refine ⟨key_of_find?, ?_⟩
  rintro ⟨member, isKey⟩
  cases isFound : elements.find? (key · == k) with
  | none =>
      exact absurd isKey (find?_eq_none_iff.mp isFound element member)
  | some other =>
      obtain ⟨otherMember, otherKey⟩ := key_of_find? isFound
      have same : other = element :=
        List.inj_on_of_nodup_map distinct otherMember member
          (otherKey.trans isKey.symm)
      rw [same]

/-- Two lists with the same elements of a key find the same. -/
theorem find?_congr
    {others : List α}
    (distinct : (elements.map key).Nodup)
    (distinctOthers : (others.map key).Nodup)
    {k : κ}
    (same :
      ∀ element, key element = k → (element ∈ others ↔ element ∈ elements)) :
    others.find? (key · == k) = elements.find? (key · == k) := by
  refine Option.ext fun element => ?_
  rw [find?_eq_some_iff distinct, find?_eq_some_iff distinctOthers]
  constructor
  · rintro ⟨member, isKey⟩
    exact ⟨(same element isKey).mp member, isKey⟩
  · rintro ⟨member, isKey⟩
    exact ⟨(same element isKey).mpr member, isKey⟩

end KeyedList
