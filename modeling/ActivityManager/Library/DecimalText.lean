import Mathlib.Data.List.TakeWhile

/-!
# Decimal numbers in text

What the C library reads where a number is expected: white space is skipped, a
sign may follow, and then the digits up to the first other character, whatever
comes after them.  Without a digit there is no number.
-/

namespace DecimalText

/-- `isspace`. -/
def isSpace (c : Char) : Bool :=
  c.toNat == 32 || (9 ≤ c.toNat && c.toNat ≤ 13)

/-- The number that the digits at the front of a text spell. -/
def readDigits (text : List Char) : Option Nat :=
  let digits := text.takeWhile Char.isDigit
  if digits.isEmpty then
    none
  else
    some (Nat.ofDigitChars 10 digits 0)

/-- The number after the white space. -/
def readInt (text : List Char) : Option Int :=
  match text.dropWhile isSpace with
  | '-' :: rest =>
      (readDigits rest).map fun magnitude : Nat => -(magnitude : Int)
  | '+' :: rest =>
      (readDigits rest).map Nat.cast
  | rest =>
      (readDigits rest).map Nat.cast

/-- What comes after that number. -/
def afterInt (text : List Char) : List Char :=
  match text.dropWhile isSpace with
  | '-' :: rest => rest.dropWhile Char.isDigit
  | '+' :: rest => rest.dropWhile Char.isDigit
  | rest => rest.dropWhile Char.isDigit

/-- A number ends before a text that does not go on with a digit. -/
def EndsNumber (text : List Char) : Prop :=
  ∀ c ∈ text.head?, c.isDigit = false

/-- The end of the text ends it, and any other character than a digit. -/
theorem endsNumber_iff (text : List Char) :
    (text.head?.any Char.isDigit = false) ↔ EndsNumber text := by
  cases text with
  | nil =>
      exact iff_of_true rfl (by rintro c ⟨⟩)
  | cons first rest =>
      constructor
      · intro notDigit c isHead
        rw [← Option.some.inj isHead]
        exact notDigit
      · intro ends
        exact ends first rfl

instance (text : List Char) : Decidable (EndsNumber text) :=
  decidable_of_iff _ (endsNumber_iff text)

variable {more : List Char}

/-- A digit is no white space. -/
theorem isSpace_of_isDigit
    {c : Char}
    (isDigit : c.isDigit = true) :
    isSpace c = false := by
  simp only [Char.isDigit, Bool.and_eq_true, decide_eq_true_eq] at isDigit
  obtain ⟨low, high⟩ := isDigit
  have lowest : 48 ≤ c.toNat := low
  have highest : c.toNat ≤ 57 := high
  simp only [isSpace, Bool.or_eq_false_iff, beq_eq_false_iff_ne,
    Bool.and_eq_false_iff, decide_eq_false_iff_not]
  omega

theorem isDigit_of_mem_repr
    {n : Nat}
    {c : Char}
    (member : c ∈ n.repr.toList) :
    c.isDigit = true := by
  rw [Nat.toList_repr] at member
  exact Nat.isDigit_of_mem_toDigits (by decide) (by decide) member

/-- A number is spelled with digits, of which there is one. -/
theorem exists_repr (n : Nat) :
    ∃ first rest,
      n.repr.toList = first :: rest ∧ first.isDigit = true := by
  have isDigit : ∀ c ∈ n.repr.toList, c.isDigit = true :=
    fun _ => isDigit_of_mem_repr
  cases isText : n.repr.toList with
  | nil =>
      rw [Nat.toList_repr] at isText
      exact absurd isText Nat.toDigits_ne_nil
  | cons first rest =>
      rw [isText] at isDigit
      exact ⟨first, rest, rfl, isDigit first List.mem_cons_self⟩

/-- The digits of a number end where it does. -/
theorem takeWhile_repr
    (ends : EndsNumber more)
    (n : Nat) :
    (n.repr.toList ++ more).takeWhile Char.isDigit = n.repr.toList := by
  rw [List.takeWhile_append_of_pos fun _ => isDigit_of_mem_repr]
  cases more with
  | nil =>
      exact List.append_nil _
  | cons c rest =>
      rw [List.takeWhile_cons_of_neg (by simp [ends c rfl]),
        List.append_nil]

theorem dropWhile_repr
    (ends : EndsNumber more)
    (n : Nat) :
    (n.repr.toList ++ more).dropWhile Char.isDigit = more := by
  rw [List.dropWhile_append_of_pos fun _ => isDigit_of_mem_repr]
  cases more with
  | nil =>
      rfl
  | cons c rest =>
      exact List.dropWhile_cons_of_neg (by simp [ends c rfl])

/-- They spell the number. -/
theorem readDigits_repr
    (ends : EndsNumber more)
    (n : Nat) :
    readDigits (n.repr.toList ++ more) = some n := by
  have notEmpty : (Nat.toDigits 10 n).isEmpty = false :=
    List.isEmpty_eq_false_iff.mpr Nat.toDigits_ne_nil
  unfold readDigits
  rw [takeWhile_repr ends, Nat.toList_repr]
  simp [notEmpty]

/-- Without a sign a text that begins with a digit is read from there. -/
theorem read_of_isDigit
    {first : Char}
    (rest : List Char)
    (isDigit : first.isDigit = true) :
    readInt (first :: rest) =
        (readDigits (first :: rest)).map Nat.cast ∧
      afterInt (first :: rest) =
        (first :: rest).dropWhile Char.isDigit := by
  have noSpace :
      (first :: rest).dropWhile isSpace = first :: rest :=
    List.dropWhile_cons_of_neg (by simp [isSpace_of_isDigit isDigit])
  unfold readInt afterInt
  rw [noSpace]
  constructor
  all_goals
    split
    · rename_i isHead
      rw [(List.cons.inj isHead).1] at isDigit
      cases isDigit
    · rename_i isHead
      rw [(List.cons.inj isHead).1] at isDigit
      cases isDigit
    · rfl

/-- A natural number that is written in decimal is read back. -/
theorem read_repr
    (ends : EndsNumber more)
    (n : Nat) :
    readInt (n.repr.toList ++ more) = some (n : Int) ∧
      afterInt (n.repr.toList ++ more) = more := by
  have known := readDigits_repr ends n
  have left := dropWhile_repr ends n
  obtain ⟨first, rest, isText, isDigit⟩ := exists_repr n
  rw [isText, List.cons_append] at known left ⊢
  obtain ⟨isRead, isLeft⟩ := read_of_isDigit (rest ++ more) isDigit
  rw [isRead, isLeft, known, left]
  exact ⟨rfl, rfl⟩

/-- A negative number is read back after its sign. -/
theorem read_neg_repr
    (ends : EndsNumber more)
    (n : Nat) :
    readInt ('-' :: (n.repr.toList ++ more)) = some (-(n : Int)) ∧
      afterInt ('-' :: (n.repr.toList ++ more)) = more := by
  have noSpace :
      ('-' :: (n.repr.toList ++ more)).dropWhile isSpace =
        '-' :: (n.repr.toList ++ more) :=
    List.dropWhile_cons_of_neg (by decide)
  unfold readInt afterInt
  rw [noSpace]
  change
    (readDigits (n.repr.toList ++ more)).map _ = _ ∧
      (n.repr.toList ++ more).dropWhile Char.isDigit = more
  rw [readDigits_repr ends, dropWhile_repr ends]
  exact ⟨rfl, rfl⟩

/-- A number that is written in decimal is read back, and no more. -/
theorem read_toString
    (ends : EndsNumber more)
    (n : Int) :
    readInt ((toString n).toList ++ more) = some n ∧
      afterInt ((toString n).toList ++ more) = more := by
  rw [Int.toString_eq_repr, Int.repr_eq_if]
  split
  · rename_i isNonneg
    have isNat : (n.toNat : Int) = n := Int.toNat_of_nonneg isNonneg
    have isRead := read_repr ends n.toNat
    rw [isNat] at isRead
    exact isRead
  · rename_i isNegative
    have isNat : (-((-n).toNat : Int)) = n := by
      omega
    have isRead := read_neg_repr ends (-n).toNat
    rw [isNat] at isRead
    rw [String.toList_append]
    exact isRead

/-- A number is written with digits, and perhaps a sign. -/
theorem mem_toString
    {n : Int}
    {c : Char}
    (member : c ∈ (toString n).toList) :
    c.isDigit = true ∨ c = '-' := by
  rw [Int.toString_eq_repr, Int.repr_eq_if] at member
  split at member
  · exact Or.inl (isDigit_of_mem_repr member)
  · rw [String.toList_append, List.mem_append] at member
    rcases member with isSign | isMagnitude
    · exact Or.inr (List.mem_singleton.mp isSign)
    · exact Or.inl (isDigit_of_mem_repr isMagnitude)

/-- Nothing has to follow. -/
theorem readInt_toString (n : Int) :
    readInt (toString n).toList = some n := by
  have ends : EndsNumber [] :=
    (endsNumber_iff []).mp rfl
  have isRead := (read_toString ends n).1
  rwa [List.append_nil] at isRead

end DecimalText
