import ActivityManager.Library.DecimalText
import Mathlib.Data.List.DropRight

/-!
# Formatted input and output

A format of the C library with numbers only: white space, other characters,
and `%d`.  `sscanf` reads a text along a format until something does not match,
and says what it has read by then; `printf` writes numbers along the same
format.  What is written is read back, if nothing in the format runs into what
comes next.
-/

namespace ScanFormat

open DecimalText (isSpace readInt afterInt EndsNumber read_toString)

/-- What a format asks for. -/
inductive Directive where
  /-- White space, of any length. -/
  | space
  /-- A character that stands for itself. -/
  | literal (c : Char)
  /-- `%d`. -/
  | int
  deriving Repr, DecidableEq

/-- The directives of a format string. -/
def directives : List Char → List Directive
  | '%' :: 'd' :: rest => .int :: directives rest
  | c :: rest =>
      (if isSpace c then .space else .literal c) :: directives rest
  | [] => []

/-- The numbers that `sscanf` reads. -/
def scan : List Directive → List Char → List Int
  | .space :: format, text =>
      scan format (text.dropWhile isSpace)
  | .literal c :: format, other :: text =>
      if c = other then scan format text else []
  | .int :: format, text =>
      match readInt text with
      | some value => value :: scan format (afterInt text)
      | none => []
  | _, _ => []

/-- What `printf` writes. -/
def print : List Directive → List Int → List Char
  | .space :: format, values => ' ' :: print format values
  | .literal c :: format, values => c :: print format values
  | .int :: format, value :: values =>
      (toString value).toList ++ print format values
  | _, _ => []

/-- The numbers that a format is for. -/
def arity (format : List Directive) : Nat :=
  format.count .int

/--
No number runs into the next or into a digit, and no white space into white
space that stands for itself.
-/
def isClear : List Directive → Bool
  | .int :: .int :: _ => false
  | .int :: .literal c :: format =>
      !c.isDigit && isClear (.literal c :: format)
  | .space :: .literal c :: format =>
      !isSpace c && isClear (.literal c :: format)
  | _ :: format => isClear format
  | [] => true

variable
  {format : List Directive}
  {directive : Directive}
  {values : List Int}
  {tail : List Char}

/-- The rest of a clear format is clear. -/
theorem isClear_tail
    (clear : isClear (directive :: format) = true) :
    isClear format = true := by
  unfold isClear at clear
  split at clear
  · cases clear
  · rename_i isFormat
    rw [(List.cons.inj isFormat).2]
    exact (Bool.and_eq_true_iff.mp clear).2
  · rename_i isFormat
    rw [(List.cons.inj isFormat).2]
    exact (Bool.and_eq_true_iff.mp clear).2
  · rename_i isFormat
    rw [(List.cons.inj isFormat).2]
    exact clear
  · rename_i isFormat
    cases isFormat

/-- What is written after a number ends it. -/
theorem endsNumber_print
    (clear : isClear (.int :: format) = true)
    (ends : EndsNumber tail) :
    EndsNumber (print format values ++ tail) := by
  cases format with
  | nil =>
      exact ends
  | cons directive format =>
      cases directive with
      | space =>
          rintro c isHead
          rw [← Option.some.inj isHead]
          rfl
      | literal c =>
          have notDigit := (Bool.and_eq_true_iff.mp clear).1
          rintro other isHead
          rw [← Option.some.inj isHead]
          exact Bool.not_eq_true' _ ▸ notDigit
      | int =>
          cases clear

/-- Reading skips white space before a number. -/
theorem read_dropWhile (text : List Char) :
    readInt (text.dropWhile isSpace) = readInt text ∧
      afterInt (text.dropWhile isSpace) = afterInt text := by
  unfold readInt afterInt
  rw [List.dropWhile_idempotent]
  exact ⟨rfl, rfl⟩

/-- White space is skipped up to what was written after it. -/
theorem scan_dropWhile_print
    (clear : isClear (.space :: format) = true) :
    scan format ((print format values ++ tail).dropWhile isSpace) =
      scan format (print format values ++ tail) := by
  cases format with
  | nil =>
      rfl
  | cons directive format =>
      cases directive with
      | space =>
          rw [scan, scan, List.dropWhile_idempotent]
      | literal c =>
          have notSpace := (Bool.and_eq_true_iff.mp clear).1
          refine congrArg (scan (.literal c :: format)) ?_
          exact List.dropWhile_cons_of_neg (by simpa using notSpace)
      | int =>
          obtain ⟨sameValue, sameRest⟩ :=
            read_dropWhile (print (.int :: format) values ++ tail)
          rw [scan, scan, sameValue, sameRest]

/-- What is written along a clear format is read back. -/
theorem scan_print
    (clear : isClear format = true)
    (isFull : values.length = arity format)
    (ends : EndsNumber tail) :
    scan format (print format values ++ tail) = values := by
  induction format generalizing values with
  | nil =>
      exact (List.length_eq_zero_iff.mp isFull).symm
  | cons directive format inductionHypothesis =>
      have clearTail := isClear_tail clear
      cases directive with
      | space =>
          rw [arity, List.count_cons_of_ne (by decide)] at isFull
          have isRead := inductionHypothesis clearTail isFull
          rw [print, List.cons_append, scan,
            List.dropWhile_cons_of_pos (by rfl),
            scan_dropWhile_print clear, isRead]
      | literal c =>
          rw [arity, List.count_cons_of_ne (by simp)] at isFull
          have isRead := inductionHypothesis clearTail isFull
          rw [print, List.cons_append, scan, if_pos rfl, isRead]
      | int =>
          rw [arity, List.count_cons_self] at isFull
          obtain ⟨value, rest, isValues⟩ :=
            List.exists_cons_of_length_eq_add_one isFull
          subst isValues
          have isRead :=
            inductionHypothesis clearTail (Nat.add_right_cancel isFull)
          have endsValue : EndsNumber (print format rest ++ tail) :=
            endsNumber_print clear ends
          obtain ⟨isValue, isRest⟩ := read_toString endsValue value
          rw [print, List.append_assoc, scan, isValue]
          dsimp only
          rw [isRest, isRead]

/-- What a text that is written along a format consists of. -/
theorem mem_print
    {c : Char}
    (member : c ∈ print format values) :
    c = ' ' ∨ .literal c ∈ format ∨ c.isDigit = true ∨ c = '-' := by
  induction format generalizing values with
  | nil =>
      cases member
  | cons directive format inductionHypothesis =>
      have later :
          ∀ {rest},
            c ∈ print format rest →
            c = ' ' ∨ .literal c ∈ directive :: format ∨
              c.isDigit = true ∨ c = '-' := by
        intro rest isLater
        exact
          (inductionHypothesis isLater).imp_right
            (Or.imp_left (List.mem_cons_of_mem _))
      cases directive with
      | space =>
          rcases List.mem_cons.mp member with isSpace | isLater
          · exact Or.inl isSpace
          · exact later isLater
      | literal other =>
          rcases List.mem_cons.mp member with isLiteral | isLater
          · rw [isLiteral]
            exact Or.inr (Or.inl List.mem_cons_self)
          · exact later isLater
      | int =>
          cases values with
          | nil =>
              cases member
          | cons value rest =>
              rcases List.mem_append.mp member with isNumber | isLater
              · exact
                  Or.inr (Or.inr (DecimalText.mem_toString isNumber))
              · exact later isLater

end ScanFormat
