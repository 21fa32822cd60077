import Mathlib.Data.List.Nodup
import Mathlib.Tactic.Tauto

/-!
# The two-part list

What the priority list is for: the processes in the order in which they are to
be kept, split into a foreground and a background part.  The operations here
are on plain lists, over any kind of entry; the entry an operation is about is
given by a test.
-/

namespace ActivityManager

/-- The entries before the background position, and those from it on. -/
structure PriorityParts (α : Type) where
  foreground : List α
  background : List α
  deriving Repr, DecidableEq

namespace PriorityParts

variable {α β : Type}

/-- All entries, the most important one first. -/
def all (parts : PriorityParts α) : List α :=
  parts.foreground ++ parts.background

/-- No entry. -/
def empty : PriorityParts α where
  foreground := []
  background := []

/-- A new entry in front of its part. -/
def add
    (entry : α)
    (isForeground : Bool)
    (parts : PriorityParts α) : PriorityParts α :=
  if isForeground then
    { parts with foreground := entry :: parts.foreground }
  else
    { parts with background := entry :: parts.background }

/--
Without an entry.  When the foreground loses its last entry, the first of the
background takes that place.
-/
def remove
    (isEntry : α → Bool)
    (parts : PriorityParts α) : PriorityParts α :=
  if parts.foreground.any isEntry then
    let foreground := parts.foreground.eraseP isEntry
    match parts.foreground.getLast?.any isEntry, parts.background with
    | true, next :: background =>
        { foreground := foreground ++ [next], background := background }
    | _, _ =>
        { parts with foreground := foreground }
  else
    { parts with background := parts.background.eraseP isEntry }

/--
An entry comes to the front.  When it was the last of the foreground, the
other entries of the foreground go to the background.
-/
def pushForeground
    (isEntry : α → Bool)
    (parts : PriorityParts α) : PriorityParts α :=
  match parts.all.find? isEntry with
  | none =>
      parts
  | some entry =>
      let foreground := parts.foreground.eraseP isEntry
      if parts.foreground.getLast?.any isEntry &&
          !parts.background.isEmpty then
        { foreground := [entry]
          background := foreground ++ parts.background }
      else
        { foreground := entry :: foreground
          background := parts.background.eraseP isEntry }

/-- The entries that `intoBackground` leaves where they are. -/
def staysInPlace
    (isEntry : α → Bool)
    (parts : PriorityParts α) : Bool :=
  parts.foreground.getLast?.any isEntry ||
    parts.background.head?.any isEntry ||
    parts.background.getLast?.any isEntry

/--
An entry goes to the front of the background, unless it is there, it is the
last of all, or it is the last of the foreground.
-/
def intoBackground
    (isEntry : α → Bool)
    (parts : PriorityParts α) : PriorityParts α :=
  match parts.all.find? isEntry with
  | none =>
      parts
  | some entry =>
      if parts.staysInPlace isEntry then
        parts
      else
        { foreground := parts.foreground.eraseP isEntry
          background := entry :: parts.background.eraseP isEntry }

/-- Apply a function to every entry. -/
def map
    (f : α → β)
    (parts : PriorityParts α) : PriorityParts β where
  foreground := parts.foreground.map f
  background := parts.background.map f

@[simp] theorem map_all
    (f : α → β)
    (parts : PriorityParts α) :
    (parts.map f).all = parts.all.map f := by
  simp [all, map]

/-! ## Entries that are told apart by a key -/

private theorem option_any_map
    (f : α → β)
    (isEntry : β → Bool)
    (entry : Option α) :
    (entry.map f).any isEntry = entry.any (isEntry ∘ f) := by
  cases entry <;> rfl

@[simp] theorem map_add
    (f : α → β)
    (entry : α)
    (isForeground : Bool)
    (parts : PriorityParts α) :
    (parts.add entry isForeground).map f =
      (parts.map f).add (f entry) isForeground := by
  cases isForeground <;> rfl

theorem map_remove
    (f : α → β)
    (isEntry : β → Bool)
    (parts : PriorityParts α) :
    (parts.remove (isEntry ∘ f)).map f =
      (parts.map f).remove isEntry := by
  obtain ⟨foreground, background⟩ := parts
  simp only [remove, map, List.any_map, List.getLast?_map,
    option_any_map, List.eraseP_map]
  by_cases inForeground : foreground.any (isEntry ∘ f) = true
  · simp only [inForeground, if_true]
    cases foreground.getLast?.any (isEntry ∘ f) <;>
      cases background <;> simp
  · simp only [inForeground, Bool.false_eq_true, if_false]

theorem map_pushForeground
    (f : α → β)
    (isEntry : β → Bool)
    (parts : PriorityParts α) :
    (parts.pushForeground (isEntry ∘ f)).map f =
      (parts.map f).pushForeground isEntry := by
  simp only [pushForeground, map_all, List.find?_map]
  cases parts.all.find? (isEntry ∘ f) with
  | none =>
      rfl
  | some entry =>
      obtain ⟨foreground, background⟩ := parts
      simp only [Option.map_some, map, List.getLast?_map,
        option_any_map, List.eraseP_map, List.isEmpty_map]
      split <;> simp only [List.map_append, List.map_cons, List.map_nil]

theorem map_intoBackground
    (f : α → β)
    (isEntry : β → Bool)
    (parts : PriorityParts α) :
    (parts.intoBackground (isEntry ∘ f)).map f =
      (parts.map f).intoBackground isEntry := by
  have sameTest :
      (parts.map f).staysInPlace isEntry =
        parts.staysInPlace (isEntry ∘ f) := by
    simp [staysInPlace, map, List.getLast?_map, List.head?_map,
      option_any_map]
  simp only [intoBackground, map_all, List.find?_map, sameTest]
  cases parts.all.find? (isEntry ∘ f) with
  | none =>
      rfl
  | some entry =>
      simp only [Option.map_some]
      split
      · rfl
      · simp [map, List.eraseP_map]

/-! ## Where the entry is -/

variable {isEntry : α → Bool} {entry : α} {before after others : List α}

private theorem eraseP_at
    (isIt : isEntry entry = true)
    (notBefore : ∀ other ∈ before, isEntry other = false) :
    (before ++ entry :: after).eraseP isEntry = before ++ after := by
  rw [List.eraseP_append_right _ (by simpa using notBefore),
    List.eraseP_cons_of_pos isIt]

private theorem eraseP_absent
    (absent : ∀ other ∈ others, isEntry other = false) :
    others.eraseP isEntry = others :=
  List.eraseP_of_forall_not (by simpa using absent)

private theorem any_absent
    (absent : ∀ other ∈ others, isEntry other = false) :
    others.any isEntry = false := by
  simpa using absent

private theorem getLast?_any_at
    (isIt : isEntry entry = true)
    (notAfter : ∀ other ∈ after, isEntry other = false) :
    (before ++ entry :: after).getLast?.any isEntry = after.isEmpty := by
  rcases List.eq_nil_or_concat after with rfl | ⟨front, last, rfl⟩
  · simp [isIt]
  · have lastDiffers : isEntry last = false :=
      notAfter last (by simp)
    have shape :
        before ++ entry :: front.concat last =
          (before ++ entry :: front) ++ [last] := by
      simp
    rw [shape, List.getLast?_concat]
    simp [lastDiffers]

private theorem getLast?_any_absent
    (absent : ∀ other ∈ others, isEntry other = false) :
    others.getLast?.any isEntry = false := by
  cases last : others.getLast? with
  | none =>
      rfl
  | some other =>
      exact absent other (List.mem_of_getLast? last)

private theorem head?_any_at
    (isIt : isEntry entry = true)
    (notBefore : ∀ other ∈ before, isEntry other = false) :
    (before ++ entry :: after).head?.any isEntry = before.isEmpty := by
  cases before with
  | nil =>
      simp [isIt]
  | cons other rest =>
      simp [notBefore other (by simp)]

private theorem head?_any_absent
    (absent : ∀ other ∈ others, isEntry other = false) :
    others.head?.any isEntry = false := by
  cases others with
  | nil =>
      rfl
  | cons other rest =>
      exact absent other (by simp)

private theorem find?_at
    (isIt : isEntry entry = true)
    (notBefore : ∀ other ∈ before, isEntry other = false) :
    (before ++ entry :: after).find? isEntry = some entry := by
  rw [List.find?_append, List.find?_eq_none.mpr (by simpa using notBefore),
    List.find?_cons_of_pos isIt]
  rfl

private theorem find?_behind
    (isIt : isEntry entry = true)
    (notForeground : ∀ other ∈ others, isEntry other = false)
    (notBefore : ∀ other ∈ before, isEntry other = false) :
    (others ++ (before ++ entry :: after)).find? isEntry =
      some entry := by
  rw [← List.append_assoc]
  refine find?_at isIt ?_
  intro other member
  rcases List.mem_append.mp member with inForeground | inBefore
  · exact notForeground other inForeground
  · exact notBefore other inBefore

/-- Removing from the foreground. -/
theorem remove_foreground
    (isIt : isEntry entry = true)
    (notBefore : ∀ other ∈ before, isEntry other = false)
    (notAfter : ∀ other ∈ after, isEntry other = false) :
    remove isEntry
        { foreground := before ++ entry :: after, background := others } =
      if after = [] then
        { foreground := before ++ others.take 1
          background := others.tail }
      else
        { foreground := before ++ after, background := others } := by
  have present : (before ++ entry :: after).any isEntry = true := by
    simp [isIt]
  simp only [remove, present, if_true, eraseP_at isIt notBefore,
    getLast?_any_at isIt notAfter]
  cases after <;> cases others <;> simp

/-- Removing from the background. -/
theorem remove_background
    (isIt : isEntry entry = true)
    (notForeground : ∀ other ∈ others, isEntry other = false)
    (notBefore : ∀ other ∈ before, isEntry other = false) :
    remove isEntry
        { foreground := others, background := before ++ entry :: after } =
      { foreground := others, background := before ++ after } := by
  simp only [remove, any_absent notForeground, Bool.false_eq_true,
    if_false, eraseP_at isIt notBefore]

/-- Pushing an entry of the foreground. -/
theorem pushForeground_foreground
    (isIt : isEntry entry = true)
    (notBefore : ∀ other ∈ before, isEntry other = false)
    (notAfter : ∀ other ∈ after, isEntry other = false)
    (notBackground : ∀ other ∈ others, isEntry other = false) :
    pushForeground isEntry
        { foreground := before ++ entry :: after, background := others } =
      if after = [] ∧ others ≠ [] then
        { foreground := [entry], background := before ++ others }
      else
        { foreground := entry :: (before ++ after)
          background := others } := by
  have found :
      ((before ++ entry :: after) ++ others).find? isEntry =
        some entry := by
    rw [List.append_assoc, List.cons_append]
    exact find?_at isIt notBefore
  simp only [pushForeground, all, found, eraseP_at isIt notBefore,
    getLast?_any_at isIt notAfter, eraseP_absent notBackground]
  cases after <;> cases others <;> simp

/-- Pushing an entry of the background. -/
theorem pushForeground_background
    (isIt : isEntry entry = true)
    (notForeground : ∀ other ∈ others, isEntry other = false)
    (notBefore : ∀ other ∈ before, isEntry other = false) :
    pushForeground isEntry
        { foreground := others, background := before ++ entry :: after } =
      { foreground := entry :: others, background := before ++ after } := by
  have found :
      (others ++ (before ++ entry :: after)).find? isEntry =
        some entry :=
    find?_behind isIt notForeground notBefore
  simp only [pushForeground, all, found, eraseP_at isIt notBefore,
    getLast?_any_absent notForeground, eraseP_absent notForeground,
    Bool.false_and, Bool.false_eq_true, if_false]

/-- Sending an entry of the foreground to the background. -/
theorem intoBackground_foreground
    (isIt : isEntry entry = true)
    (notBefore : ∀ other ∈ before, isEntry other = false)
    (notAfter : ∀ other ∈ after, isEntry other = false)
    (notBackground : ∀ other ∈ others, isEntry other = false) :
    intoBackground isEntry
        { foreground := before ++ entry :: after, background := others } =
      if after = [] then
        { foreground := before ++ entry :: after, background := others }
      else
        { foreground := before ++ after
          background := entry :: others } := by
  have found :
      ((before ++ entry :: after) ++ others).find? isEntry =
        some entry := by
    rw [List.append_assoc, List.cons_append]
    exact find?_at isIt notBefore
  simp only [intoBackground, all, found, staysInPlace,
    eraseP_at isIt notBefore, getLast?_any_at isIt notAfter,
    head?_any_absent notBackground, getLast?_any_absent notBackground,
    eraseP_absent notBackground, Bool.or_false, List.isEmpty_iff]

/-- Moving an entry of the background to its front. -/
theorem intoBackground_background
    (isIt : isEntry entry = true)
    (notForeground : ∀ other ∈ others, isEntry other = false)
    (notBefore : ∀ other ∈ before, isEntry other = false)
    (notAfter : ∀ other ∈ after, isEntry other = false) :
    intoBackground isEntry
        { foreground := others, background := before ++ entry :: after } =
      if before = [] ∨ after = [] then
        { foreground := others, background := before ++ entry :: after }
      else
        { foreground := others
          background := entry :: (before ++ after) } := by
  have found :
      (others ++ (before ++ entry :: after)).find? isEntry =
        some entry :=
    find?_behind isIt notForeground notBefore
  simp only [intoBackground, all, found, staysInPlace,
    eraseP_at isIt notBefore, getLast?_any_at isIt notAfter,
    head?_any_at isIt notBefore, getLast?_any_absent notForeground,
    eraseP_absent notForeground, Bool.false_or, Bool.or_eq_true,
    List.isEmpty_iff]

/-- An operation on an absent entry does nothing. -/
theorem remove_absent
    {parts : PriorityParts α}
    (absent : ∀ other ∈ parts.all, isEntry other = false) :
    parts.remove isEntry = parts := by
  have notForeground :
      ∀ other ∈ parts.foreground, isEntry other = false :=
    fun other member => absent other (List.mem_append_left _ member)
  have notBackground :
      ∀ other ∈ parts.background, isEntry other = false :=
    fun other member => absent other (List.mem_append_right _ member)
  simp only [remove, any_absent notForeground, Bool.false_eq_true,
    if_false, eraseP_absent notBackground]

theorem pushForeground_absent
    {parts : PriorityParts α}
    (absent : ∀ other ∈ parts.all, isEntry other = false) :
    parts.pushForeground isEntry = parts := by
  simp [pushForeground,
    List.find?_eq_none.mpr (by simpa using absent)]

theorem intoBackground_absent
    {parts : PriorityParts α}
    (absent : ∀ other ∈ parts.all, isEntry other = false) :
    parts.intoBackground isEntry = parts := by
  simp [intoBackground,
    List.find?_eq_none.mpr (by simpa using absent)]

/-! ## What the operations keep -/

section Keeps

variable {parts : PriorityParts α} {other : α}

private theorem mem_eraseP
    (differs : isEntry other = false) :
    other ∈ others.eraseP isEntry ↔ other ∈ others :=
  List.mem_eraseP_of_neg (by simp [differs])

/-- Adding an entry brings it, and nothing else. -/
theorem mem_add_iff (isForeground : Bool) :
    other ∈ (parts.add entry isForeground).all ↔
      other = entry ∨ other ∈ parts.all := by
  cases isForeground
  · simp only [add, all, Bool.false_eq_true, if_false, List.mem_append,
      List.mem_cons]
    tauto
  · simp only [add, all, if_true, List.mem_append, List.mem_cons,
      or_assoc]

theorem mem_add
    (member : other ∈ parts.all)
    (isForeground : Bool) :
    other ∈ (parts.add entry isForeground).all :=
  (mem_add_iff isForeground).mpr (.inr member)

/-- Removing takes the first match out of the list of all entries. -/
theorem remove_all
    (isEntry : α → Bool)
    (parts : PriorityParts α) :
    (parts.remove isEntry).all = parts.all.eraseP isEntry := by
  obtain ⟨foreground, background⟩ := parts
  simp only [all, List.eraseP_append, List.any_eq_true]
  unfold remove
  by_cases present : ∃ entry ∈ foreground, isEntry entry = true
  · have anyPresent : foreground.any isEntry = true :=
      List.any_eq_true.mpr present
    simp only [anyPresent, if_true, if_pos present]
    cases foreground.getLast?.any isEntry <;> cases background <;> simp
  · have noneMatches : foreground.any isEntry = false := by
      simpa using present
    simp only [noneMatches, Bool.false_eq_true, if_false, if_neg present]

/-- Removing an entry keeps the others. -/
theorem mem_remove
    (member : other ∈ parts.all)
    (differs : isEntry other = false) :
    other ∈ (parts.remove isEntry).all := by
  rw [remove_all]
  exact (mem_eraseP differs).mpr member

/-- While another entry remains, the foreground stays. -/
theorem remove_foreground_ne_nil
    (notEmpty : parts.foreground ≠ [])
    (member : other ∈ parts.all)
    (differs : isEntry other = false) :
    (parts.remove isEntry).foreground ≠ [] := by
  obtain ⟨foreground, background⟩ := parts
  rw [all, List.mem_append] at member
  unfold remove
  dsimp only at notEmpty member ⊢
  split
  · cases isLast : foreground.getLast?.any isEntry with
    | false =>
        intro erased
        simp only [List.eraseP_eq_nil_iff] at erased
        rcases erased with empty | ⟨only, isEntryOnly, rfl⟩
        · contradiction
        · simp [isEntryOnly] at isLast
    | true =>
        cases background with
        | nil =>
            have remains : other ∈ foreground.eraseP isEntry :=
              (mem_eraseP differs).mpr (by simpa using member)
            exact List.ne_nil_of_mem remains
        | cons next rest =>
            simp
  · exact notEmpty

/-- A push keeps every entry of the list. -/
theorem mem_pushForeground
    (member : other ∈ parts.all)
    (unique :
      ∀ entry ∈ parts.all,
        isEntry entry = true →
        isEntry other = true →
        entry = other) :
    other ∈ (parts.pushForeground isEntry).all := by
  unfold pushForeground
  cases found : parts.all.find? isEntry with
  | none =>
      exact member
  | some entry =>
      have isIt : isEntry entry = true :=
        List.find?_some found
      cases isOther : isEntry other with
      | true =>
          have same :=
            unique entry (List.mem_of_find?_eq_some found) isIt isOther
          dsimp only
          split <;> simp [all, same]
      | false =>
          rw [all, List.mem_append] at member
          dsimp only
          split <;>
            simp only [all, List.mem_append, List.mem_cons,
              mem_eraseP isOther] <;>
            tauto

/-- After a push of a listed entry there is a foreground. -/
theorem pushForeground_foreground_ne_nil
    (listed : ∃ entry ∈ parts.all, isEntry entry = true) :
    (parts.pushForeground isEntry).foreground ≠ [] := by
  unfold pushForeground
  cases found : parts.all.find? isEntry with
  | none =>
      obtain ⟨entry, member, isIt⟩ := listed
      exact absurd isIt (List.find?_eq_none.mp found entry member)
  | some entry =>
      dsimp only
      split <;> simp

/-- A push leaves a foreground that there is. -/
theorem pushForeground_keepsForeground
    (foreground : parts.foreground ≠ []) :
    (parts.pushForeground isEntry).foreground ≠ [] := by
  unfold pushForeground
  cases parts.all.find? isEntry with
  | none =>
      exact foreground
  | some entry =>
      dsimp only
      split <;> simp

/-- Sending an entry to the background keeps every entry. -/
theorem mem_intoBackground
    (member : other ∈ parts.all)
    (unique :
      ∀ entry ∈ parts.all,
        isEntry entry = true →
        isEntry other = true →
        entry = other) :
    other ∈ (parts.intoBackground isEntry).all := by
  unfold intoBackground
  cases found : parts.all.find? isEntry with
  | none =>
      exact member
  | some entry =>
      have isIt : isEntry entry = true :=
        List.find?_some found
      dsimp only
      split
      · exact member
      · cases isOther : isEntry other with
        | true =>
            have same :=
              unique entry (List.mem_of_find?_eq_some found) isIt isOther
            simp [all, same]
        | false =>
            rw [all, List.mem_append] at member
            simp only [all, List.mem_append, List.mem_cons,
              mem_eraseP isOther]
            tauto

/-- No operation makes up an entry. -/
theorem mem_of_mem_pushForeground
    (member : other ∈ (parts.pushForeground isEntry).all) :
    other ∈ parts.all := by
  unfold pushForeground at member
  cases found : parts.all.find? isEntry with
  | none =>
      simpa only [found] using member
  | some entry =>
      have entryMember := List.mem_of_find?_eq_some found
      have fromForeground :
          other ∈ parts.foreground.eraseP isEntry →
          other ∈ parts.foreground :=
        List.mem_of_mem_eraseP
      have fromBackground :
          other ∈ parts.background.eraseP isEntry →
          other ∈ parts.background :=
        List.mem_of_mem_eraseP
      simp only [found] at member
      split at member <;>
        simp only [all, List.mem_append, List.mem_cons,
          List.not_mem_nil, or_false] at member entryMember ⊢ <;>
        rcases member with (rfl | inFirst) | inSecond <;>
        tauto

theorem mem_of_mem_intoBackground
    (member : other ∈ (parts.intoBackground isEntry).all) :
    other ∈ parts.all := by
  unfold intoBackground at member
  cases found : parts.all.find? isEntry with
  | none =>
      simpa only [found] using member
  | some entry =>
      have entryMember := List.mem_of_find?_eq_some found
      have fromForeground :
          other ∈ parts.foreground.eraseP isEntry →
          other ∈ parts.foreground :=
        List.mem_of_mem_eraseP
      have fromBackground :
          other ∈ parts.background.eraseP isEntry →
          other ∈ parts.background :=
        List.mem_of_mem_eraseP
      simp only [found] at member
      split at member
      · exact member
      · simp only [all, List.mem_append, List.mem_cons]
          at member entryMember ⊢
        rcases member with inFirst | rfl | inSecond <;> tauto

/-- The last of the foreground is never sent to the background. -/
theorem intoBackground_foreground_ne_nil
    (foreground : parts.foreground ≠ []) :
    (parts.intoBackground isEntry).foreground ≠ [] := by
  unfold intoBackground
  cases parts.all.find? isEntry with
  | none =>
      exact foreground
  | some entry =>
      dsimp only
      split
      · exact foreground
      · rename_i moves
        intro erased
        simp only [List.eraseP_eq_nil_iff] at erased
        rcases erased with empty | ⟨only, isEntryOnly, onlyOne⟩
        · exact foreground empty
        · simp [staysInPlace, onlyOne, isEntryOnly] at moves

end Keeps

end PriorityParts

end ActivityManager
