import ActivityManager.Library.ScanFormat
import ActivityManager.LowMemoryManager

/-!
# The configuration of the low memory manager

`LowMemoryManager::init` reads its thresholds from a file with one row in each
line, and uses rows of its own if there is none.  The kernel is asked to report
when the memory falls below the last row, and writes what is left.  Both are
texts; what was written in them is what decides.
-/

namespace ActivityManager

open DecimalText (EndsNumber)
open ScanFormat (Directive directives scan print)

/-- `mOomScoreThreshold` and the number of its rows that are filled in. -/
structure LmkConfiguration where
  mOomScoreThreshold : List LmkRow
  cnt : Nat
  deriving Repr, DecidableEq

namespace LmkConfiguration

open LowMemoryManager (maxAdjustNum defaultRows configuredRows zeroRow)

/-! ## Reading -/

/-- A character is put in front of the first line. -/
def extendLine (c : Char) : List (List Char) → List (List Char)
  | line :: later => (c :: line) :: later
  | [] => [[c]]

/-- The lines that `std::getline` returns one after the other. -/
def getlines : List Char → List (List Char)
  | [] => []
  | c :: text =>
      if c = '\n' then [] :: getlines text
      else extendLine c (getlines text)

/-- The format of a line. -/
def lineFormat : List Directive :=
  directives "%d %d %d".toList

/-- The row of a line, if `sscanf` reads three numbers. -/
def lineRow? (line : List Char) : Option LmkRow :=
  match scan lineFormat line with
  | [freeMemory, maxBlock, oomScore] =>
      some
        { freeMemory := freeMemory
          maxBlock := maxBlock
          oomScore := oomScore }
  | _ => none

/-- `memset`. -/
def cleared : LmkConfiguration where
  mOomScoreThreshold := List.replicate maxAdjustNum zeroRow
  cnt := 0

/-- The next row is filled in. -/
def addRow
    (cfg : LmkConfiguration)
    (row : LmkRow) : LmkConfiguration where
  mOomScoreThreshold := cfg.mOomScoreThreshold.set cfg.cnt row
  cnt := cfg.cnt + 1

/-- The loop over the lines, which stops when all rows are filled in. -/
def readLines
    (cfg : LmkConfiguration) :
    List (List Char) → LmkConfiguration
  | [] => cfg
  | line :: later =>
      match lineRow? line with
      | some row =>
          if maxAdjustNum ≤ (cfg.addRow row).cnt then cfg.addRow row
          else readLines (cfg.addRow row) later
      | none => readLines cfg later

/-- Without a row the thresholds are parts of the memory. -/
def withDefaults
    (cfg : LmkConfiguration)
    (arena : Int) : LmkConfiguration :=
  if cfg.cnt = 0 then
    (defaultRows arena).foldl addRow cfg
  else
    cfg

/--
`LowMemoryManager::init`, with the files "/data/lmk.cfg" and "/etc/lmk.cfg" if
they can be opened.
-/
def init
    (lmkcfgDebug lmkcfg : Option (List Char))
    (arena : Int) : LmkConfiguration :=
  let cfg :=
    match lmkcfgDebug.or lmkcfg with
    | some text => cleared.readLines (getlines text)
    | none => cleared
  cfg.withDefaults arena

/-- The free memory that "/proc/pressure/memory" is asked to watch. -/
def watched (cfg : LmkConfiguration) : Option Int :=
  cfg.mOomScoreThreshold[cfg.cnt - 1]?.map LmkRow.freeMemory

/-- The format of a report. -/
def pressureFormat : List Directive :=
  directives "remaining %d, largest:%d".toList

/-- The row that a report of the kernel calls for. -/
def pressureRow?
    (cfg : LmkConfiguration)
    (buffer : List Char) : Option LmkRow :=
  match scan pressureFormat buffer with
  | [freememory, maxblock] =>
      LowMemoryManager.matchingRow?
        { mPidOomScore := []
          mOomScoreThreshold := cfg.mOomScoreThreshold }
        freememory maxblock
  | _ => none

/-! ## Writing -/

/-- What a line of a configuration file is for. -/
inductive ConfigLine where
  /-- A row, and what else is in its line. -/
  | row (lmkRow : LmkRow) (comment : List Char)
  /-- A line that does not begin with three numbers. -/
  | other (line : List Char)
  deriving Repr, DecidableEq

namespace ConfigLine

/-- The characters of a line. -/
def text : ConfigLine → List Char
  | .row lmkRow comment =>
      print lineFormat
          [lmkRow.freeMemory, lmkRow.maxBlock, lmkRow.oomScore] ++
        comment
  | .other line => line

/-- The row that a line is for. -/
def row? : ConfigLine → Option LmkRow
  | .row lmkRow _ => some lmkRow
  | .other _ => none

/-- It is one line, and what comes after a row is told apart from it. -/
def IsWritable : ConfigLine → Prop
  | .row _ comment => EndsNumber comment ∧ '\n' ∉ comment
  | .other line => lineRow? line = none ∧ '\n' ∉ line

instance (line : ConfigLine) : Decidable line.IsWritable :=
  match line with
  | .row _ _ => inferInstanceAs (Decidable (_ ∧ _))
  | .other _ => inferInstanceAs (Decidable (_ ∧ _))

end ConfigLine

/-- A file with these lines. -/
def fileText (lines : List ConfigLine) : List Char :=
  lines.flatMap fun line => line.text ++ ['\n']

/-! ## Rows -/

/-- The rows that are filled in, and those that `memset` left. -/
structure Filled
    (cfg : LmkConfiguration)
    (rows : List LmkRow) : Prop where
  isFilled :
    cfg.mOomScoreThreshold =
      rows ++ List.replicate (maxAdjustNum - rows.length) zeroRow
  isCount : cfg.cnt = rows.length
  few : rows.length ≤ maxAdjustNum

variable
  {cfg : LmkConfiguration}
  {rows : List LmkRow}

theorem cleared_filled : Filled cleared [] where
  isFilled := rfl
  isCount := rfl
  few := Nat.zero_le _

/-- A row is filled in after the others. -/
theorem Filled.addRow
    (filled : Filled cfg rows)
    (notAll : rows.length < maxAdjustNum)
    (row : LmkRow) :
    Filled (cfg.addRow row) (rows ++ [row]) where
  isFilled := by
    obtain ⟨left, isLeft⟩ :
        ∃ left, maxAdjustNum - rows.length = left + 1 :=
      ⟨maxAdjustNum - rows.length - 1, by omega⟩
    have isLess : maxAdjustNum - (rows.length + 1) = left := by
      omega
    rw [LmkConfiguration.addRow, filled.isFilled, filled.isCount, isLeft,
      List.length_append, List.length_singleton, isLess,
      List.set_append_right _ _ (Nat.le_refl _), Nat.sub_self,
      List.replicate_succ, List.set_cons_zero, List.append_assoc]
    rfl
  isCount := by
    rw [LmkConfiguration.addRow, filled.isCount, List.length_append]
    rfl
  few := by
    rw [List.length_append]
    exact notAll

/-- So are several. -/
theorem Filled.addRows
    (filled : Filled cfg rows)
    {more : List LmkRow}
    (few : rows.length + more.length ≤ maxAdjustNum) :
    Filled (more.foldl LmkConfiguration.addRow cfg) (rows ++ more) := by
  induction more generalizing cfg rows with
  | nil =>
      rw [List.append_nil]
      exact filled
  | cons row more inductionHypothesis =>
      rw [List.length_cons] at few
      have added := filled.addRow (by omega) row
      have isAll :=
        inductionHypothesis added (by
          rw [List.length_append, List.length_singleton]
          omega)
      rwa [List.append_assoc] at isAll

/-- The loop fills in the first rows of the file. -/
theorem Filled.readLines
    (filled : Filled cfg rows)
    (notAll : rows.length < maxAdjustNum)
    (lines : List (List Char)) :
    Filled (cfg.readLines lines)
      ((rows ++ lines.filterMap lineRow?).take maxAdjustNum) := by
  induction lines generalizing cfg rows with
  | nil =>
      rw [List.filterMap_nil, List.append_nil,
        List.take_of_length_le notAll.le]
      exact filled
  | cons line later inductionHypothesis =>
      rw [LmkConfiguration.readLines]
      cases isRow : lineRow? line with
      | none =>
          rw [List.filterMap_cons_none isRow]
          exact inductionHypothesis filled notAll
      | some row =>
          have added := filled.addRow notAll row
          have isCount := added.isCount
          rw [List.filterMap_cons_some isRow, List.append_cons]
          dsimp only
          split
          · rename_i isAll
            rw [isCount] at isAll
            rw [List.take_append_of_le_length isAll,
              List.take_of_length_le added.few]
            exact added
          · rename_i notAll
            rw [isCount] at notAll
            exact inductionHypothesis added (Nat.lt_of_not_le notAll)

/-- Without a row in the file there are the default rows. -/
theorem Filled.withDefaults
    {lines : List LmkRow}
    (filled : Filled cfg (lines.take maxAdjustNum))
    (arena : Int) :
    Filled (cfg.withDefaults arena) (configuredRows lines arena) := by
  unfold LmkConfiguration.withDefaults configuredRows
  rw [filled.isCount]
  cases lines with
  | nil =>
      have few :
          ([] : List LmkRow).length + (defaultRows arena).length ≤
            maxAdjustNum := by
        rw [defaultRows, List.length_map]
        decide
      exact filled.addRows few
  | cons row later =>
      exact filled

/-- What the files say, whichever of them is read. -/
theorem init_filled
    (lmkcfgDebug lmkcfg : Option (List Char))
    (arena : Int) :
    Filled (init lmkcfgDebug lmkcfg arena)
      (configuredRows
        (((lmkcfgDebug.or lmkcfg).elim [] getlines).filterMap lineRow?)
        arena) := by
  unfold init
  cases lmkcfgDebug.or lmkcfg with
  | none =>
      have nothing : Filled cleared (([] : List LmkRow).take maxAdjustNum) :=
        cleared_filled
      exact nothing.withDefaults arena
  | some text =>
      have isRead := cleared_filled.readLines (by decide) (getlines text)
      exact isRead.withDefaults arena

/-! ## Lines -/

/-- A line ends at its new line. -/
theorem getlines_line
    {line : List Char}
    (isLine : '\n' ∉ line)
    (later : List Char) :
    getlines (line ++ '\n' :: later) = line :: getlines later := by
  induction line with
  | nil =>
      exact if_pos rfl
  | cons c line inductionHypothesis =>
      obtain ⟨isOther, isRest⟩ := not_or.mp (mt List.mem_cons.mpr isLine)
      have isGot := inductionHypothesis isRest
      rw [List.cons_append, getlines, if_neg (Ne.symm isOther), isGot]
      rfl

/-- A row is written in one line. -/
theorem newline_not_mem_row
    {comment : List Char}
    (isLine : '\n' ∉ comment)
    (values : List Int) :
    '\n' ∉ print lineFormat values ++ comment := by
  intro member
  rcases List.mem_append.mp member with isRow | isComment
  · rcases ScanFormat.mem_print isRow with
      isSpace | isLiteral | isDigit | isSign
    · cases isSpace
    · exact absurd isLiteral (by decide)
    · cases isDigit
    · cases isSign
  · exact isLine isComment

/-- A row that is written is read. -/
theorem lineRow?_print
    {comment : List Char}
    (ends : EndsNumber comment)
    (row : LmkRow) :
    lineRow?
        (print lineFormat [row.freeMemory, row.maxBlock, row.oomScore] ++
          comment) =
      some row := by
  unfold lineRow?
  rw [ScanFormat.scan_print (by decide) rfl ends]

namespace ConfigLine

variable {line : ConfigLine}

theorem newline_not_mem
    (isWritable : line.IsWritable) :
    '\n' ∉ line.text := by
  cases line with
  | row lmkRow comment =>
      exact newline_not_mem_row isWritable.2 _
  | other line =>
      exact isWritable.2

/-- A line is read as what it is for. -/
theorem lineRow?_text
    (isWritable : line.IsWritable) :
    lineRow? line.text = line.row? := by
  cases line with
  | row lmkRow comment =>
      exact lineRow?_print isWritable.1 lmkRow
  | other line =>
      exact isWritable.1

end ConfigLine

/-- The rows of a file are those that were written. -/
theorem rows_fileText
    {lines : List ConfigLine}
    (areWritable : ∀ line ∈ lines, line.IsWritable) :
    (getlines (fileText lines)).filterMap lineRow? =
      lines.filterMap ConfigLine.row? := by
  induction lines with
  | nil =>
      rfl
  | cons line later inductionHypothesis =>
      obtain ⟨isWritable, rest⟩ := List.forall_mem_cons.mp areWritable
      have isText :
          fileText (line :: later) =
            line.text ++ '\n' :: fileText later := by
        rw [fileText, List.flatMap_cons, List.append_assoc]
        rfl
      rw [isText, getlines_line (ConfigLine.newline_not_mem isWritable),
        List.filterMap_cons, List.filterMap_cons,
        ConfigLine.lineRow?_text isWritable, inductionHypothesis rest]

/-! ## Reports -/

/-- The memory that is watched is the most that a row is about. -/
theorem Filled.watched
    (filled : Filled cfg rows)
    (notEmpty : rows ≠ [])
    (ascending : LowMemoryManager.Ascending rows) :
    ∃ freeMemory,
      cfg.watched = some freeMemory ∧
        ∀ row ∈ rows, row.freeMemory ≤ freeMemory := by
  obtain ⟨before, last, isRows⟩ :=
    (List.eq_nil_or_concat' rows).resolve_left notEmpty
  subst isRows
  refine ⟨last.freeMemory, ?_, ?_⟩
  · have isLast : (before ++ [last]).length - 1 = before.length := by
      rw [List.length_append]
      rfl
    have isAt :
        cfg.mOomScoreThreshold[before.length]? = some last := by
      have within : before.length < (before ++ [last]).length := by
        rw [List.length_append]
        exact Nat.lt_succ_self _
      rw [filled.isFilled, List.getElem?_append_left within]
      exact List.getElem?_concat_length
    rw [LmkConfiguration.watched, filled.isCount, isLast, isAt]
    exact Option.map_some _ _
  · intro row member
    rcases List.mem_append.mp member with isBefore | isLast
    · have inOrder := (List.pairwise_append.mp ascending.columns).2.2
      exact (inOrder row isBefore last List.mem_cons_self).1
    · have isRow := List.mem_singleton.mp isLast
      exact Int.le_of_eq (congrArg LmkRow.freeMemory isRow)

/-- A report that the kernel writes is the one that is acted on. -/
theorem pressureRow?_print
    (cfg : LmkConfiguration)
    {more : List Char}
    (ends : EndsNumber more)
    (freememory maxblock : Int) :
    cfg.pressureRow?
        (print pressureFormat [freememory, maxblock] ++ more) =
      LowMemoryManager.matchingRow?
        { mPidOomScore := []
          mOomScoreThreshold := cfg.mOomScoreThreshold }
        freememory maxblock := by
  unfold pressureRow?
  rw [ScanFormat.scan_print (by decide) rfl ends]

/-! ## The kill -/

/-- The rows that a file has been written for. -/
def writtenRows
    (lines : List ConfigLine)
    (arena : Int) : List LmkRow :=
  configuredRows (lines.filterMap ConfigLine.row?) arena

/-- What is written decides. -/
structure ReadAsWritten
    (rows : List LmkRow)
    (cfg : LmkConfiguration) : Prop where
  thresholds :
    cfg.mOomScoreThreshold =
      rows ++ List.replicate (maxAdjustNum - rows.length) zeroRow
  watches :
    LowMemoryManager.Ascending rows →
    ∃ freeMemory,
      cfg.watched = some freeMemory ∧
        ∀ row ∈ rows, row.freeMemory ≤ freeMemory
  decides :
    LowMemoryManager.Ascending rows →
    ∀ freememory maxblock more,
      EndsNumber more →
      cfg.pressureRow?
          (print pressureFormat [freememory, maxblock] ++ more) =
        rows.find? fun row =>
          freememory ≤ row.freeMemory || maxblock ≤ row.maxBlock

/-- A file with a heading, an empty line and two rows. -/
def twoRows : List ConfigLine :=
  [.other "# free memory, largest block, score".toList,
    .row { freeMemory := 1000, maxBlock := 300, oomScore := 10 } [],
    .other [],
    .row { freeMemory := 4000, maxBlock := 300, oomScore := 500 }
      " # services".toList]

end LmkConfiguration

end ActivityManager
