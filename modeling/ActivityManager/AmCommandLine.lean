import ActivityManager.AmCommand
import ActivityManager.Library.EventTraces

/-!
# The language of the command line

The arguments after a subcommand are a list of options.  The last option of a
kind counts, and for the extras the last one of a key.  The command makes a
call exactly when its arguments can be read as such a list that names a target
or an action, and the call has the intent that the options describe.
-/

namespace ActivityManager

open EventTrace (foldl_eq_last)

variable {Double : Type}

/-- An option of the command line, as it is meant. -/
inductive AmOption (Double : Type) where
  | target (target : String)
  | action (action : String)
  | flag (flag : Int)
  | data (data : String)
  | extra (key : String) (value : BundleValue Double)
  deriving Repr, DecidableEq

namespace AmOption

/-- What an option sets. -/
def apply
    (made : MadeIntent Double) :
    AmOption Double → MadeIntent Double
  | .target value => made.setTarget value
  | .action value => made.setAction value
  | .flag value => made.setFlag value
  | .data value => made.setData value
  | .extra key value => made.put key value

def target? : AmOption Double → Option String
  | .target value => some value
  | _ => none

def action? : AmOption Double → Option String
  | .action value => some value
  | _ => none

def flag? : AmOption Double → Option Int
  | .flag value => some value
  | _ => none

def data? : AmOption Double → Option String
  | .data value => some value
  | _ => none

def extra? (key : String) : AmOption Double → Option (BundleValue Double)
  | .extra other value => if other = key then some value else none
  | _ => none

/-- The option names a target or an action. -/
def isNaming : AmOption Double → Bool
  | .target _ => true
  | .action _ => true
  | _ => false

end AmOption

/-- The last option of a kind. -/
def lastOf
    {Value : Type}
    (kind? : AmOption Double → Option Value)
    (options : List (AmOption Double)) : Option Value :=
  (options.filterMap kind?).getLast?

/-- The intent that a list of options describes. -/
def described (options : List (AmOption Double)) : ExtraIntent Double where
  intent :=
    { mTarget := (lastOf AmOption.target? options).getD ""
      mAction := (lastOf AmOption.action? options).getD ""
      mData := (lastOf AmOption.data? options).getD ""
      mFlag := ((lastOf AmOption.flag? options).map toUInt32).getD 0 }
  mExtra key := lastOf (AmOption.extra? key) options

/-! ## Reading options -/

/-- An option, read from its first argument and those that follow. -/
inductive ReadsOption (stof : String → Option Double) :
    Bool → String → List String → AmOption Double → List String → Prop where
  | first
      {param : String}
      {rest : List String} :
      param.toList.head? ≠ some '-' →
      ReadsOption stof true param rest (.target param) rest
  | target
      {isFirst : Bool}
      {rest : List String} :
      ReadsOption stof isFirst "-t" rest (.target (rest.headD "")) rest.tail
  | action
      {isFirst : Bool}
      {rest : List String} :
      ReadsOption stof isFirst "-a" rest (.action (rest.headD "")) rest.tail
  | flag
      {isFirst : Bool}
      {rest : List String}
      {flag : Int} :
      stoi (rest.headD "") = some flag →
      ReadsOption stof isFirst "-f" rest (.flag flag) rest.tail
  | data
      {isFirst : Bool}
      {rest : List String} :
      ReadsOption stof isFirst "-d" rest (.data (rest.headD "")) rest.tail
  | int
      {isFirst : Bool}
      {rest : List String}
      {value : Int} :
      stoi (rest.tail.headD "") = some value →
      ReadsOption stof isFirst "--ei" rest
        (.extra (rest.headD "") (.int value)) rest.tail.tail
  | double
      {isFirst : Bool}
      {rest : List String}
      {value : Double} :
      stof (rest.tail.headD "") = some value →
      ReadsOption stof isFirst "--eu" rest
        (.extra (rest.headD "") (.double value)) rest.tail.tail
  | boolean
      {isFirst : Bool}
      {rest : List String} :
      ReadsOption stof isFirst "--ez" rest
        (.extra (rest.headD "")
          (.boolean (rest.tail.headD "" == "true"))) rest.tail.tail
  | string
      {isFirst : Bool}
      {param : String}
      {rest : List String} :
      param = "-e" ∨ param = "--es" →
      ReadsOption stof isFirst param rest
        (.extra (rest.headD "") (.string (rest.tail.headD "")))
        rest.tail.tail

/-- Arguments that are read as options, up to an empty one. -/
inductive Reads (stof : String → Option Double) :
    Bool → List String → List (AmOption Double) → Prop where
  | ended
      {isFirst : Bool} :
      Reads stof isFirst [] []
  | stopped
      {isFirst : Bool}
      {rest : List String} :
      Reads stof isFirst ("" :: rest) []
  | option
      {isFirst : Bool}
      {param : String}
      {rest later : List String}
      {option : AmOption Double}
      {options : List (AmOption Double)} :
      param ≠ "" →
      ReadsOption stof isFirst param rest option later →
      Reads stof false later options →
      Reads stof isFirst (param :: rest) (option :: options)

/-- Where there is an argument, there is an option first. -/
theorem Reads.exists_option
    {stof : String → Option Double}
    {isFirst : Bool}
    {param : String}
    {rest : List String}
    {options : List (AmOption Double)}
    (reads : Reads stof isFirst (param :: rest) options)
    (notEmpty : param ≠ "") :
    ∃ option later others,
      ReadsOption stof isFirst param rest option later ∧
        Reads stof false later others ∧
          options = option :: others := by
  cases reads with
  | stopped =>
      exact absurd rfl notEmpty
  | option _ readsOption readsRest =>
      exact ⟨_, _, _, readsOption, readsRest, rfl⟩

namespace AmCommand

variable
  {stof : String → Option Double}
  {made after : MadeIntent Double}
  {param : String}
  {cmd later : AmCommand}

/-- A branch that is taken reads an option. -/
theorem takeParam_reads
    (isNext : takeParam stof made param cmd = .ok (after, later)) :
    ∃ option,
      ReadsOption stof (cmd.mNextArgs == 2) param cmd.rest option
          later.rest ∧
        after = option.apply made := by
  unfold takeParam at isNext
  simp only [nextArg_fst] at isNext
  split at isNext
  · rename_i isFirst
    cases isNext
    rw [beq_iff_eq.mpr isFirst.2]
    exact ⟨_, .first isFirst.1, rfl⟩
  split at isNext
  · rename_i isTarget
    cases isNext
    rw [isTarget, nextArg_rest]
    exact ⟨_, .target, rfl⟩
  split at isNext
  · rename_i isAction
    cases isNext
    rw [isAction, nextArg_rest]
    exact ⟨_, .action, rfl⟩
  split at isNext
  · rename_i isFlag
    split at isNext
    · rename_i flag isNumber
      cases isNext
      rw [isFlag, nextArg_rest]
      exact ⟨_, .flag isNumber, rfl⟩
    · cases isNext
  split at isNext
  · rename_i isData
    cases isNext
    rw [isData, nextArg_rest]
    exact ⟨_, .data, rfl⟩
  simp only [nextArg_rest] at isNext
  split at isNext
  · rename_i isInt
    split at isNext
    · rename_i value isNumber
      cases isNext
      rw [isInt, nextArg_rest, nextArg_rest]
      exact ⟨_, .int isNumber, rfl⟩
    · cases isNext
  split at isNext
  · rename_i isDouble
    split at isNext
    · rename_i value isNumber
      cases isNext
      rw [isDouble, nextArg_rest, nextArg_rest]
      exact ⟨_, .double isNumber, rfl⟩
    · cases isNext
  split at isNext
  · rename_i isBoolean
    cases isNext
    rw [isBoolean, nextArg_rest, nextArg_rest]
    exact ⟨_, .boolean, rfl⟩
  split at isNext
  · rename_i isString
    cases isNext
    rw [nextArg_rest, nextArg_rest]
    exact ⟨_, .string isString, rfl⟩
  · cases isNext

/-- Where an option can be read, the branch for it is taken. -/
theorem takeParam_of_reads
    {option : AmOption Double}
    {others : List String}
    (made : MadeIntent Double)
    (reads :
      ReadsOption stof (cmd.mNextArgs == 2) param cmd.rest option others) :
    ∃ later,
      takeParam stof made param cmd = .ok (option.apply made, later) ∧
        later.rest = others := by
  generalize isFirst : (cmd.mNextArgs == 2) = first at reads
  generalize isRest : cmd.rest = rest at reads
  cases reads with
  | first noDash =>
      exact ⟨cmd, if_pos ⟨noDash, beq_iff_eq.mp isFirst⟩, isRest⟩
  | target =>
      refine ⟨cmd.nextArg.2, ?_, ?_⟩
      · simp [takeParam, nextArg_fst, isRest, AmOption.apply]
      · rw [nextArg_rest, isRest]
  | action =>
      refine ⟨cmd.nextArg.2, ?_, ?_⟩
      · simp [takeParam, nextArg_fst, isRest, AmOption.apply]
      · rw [nextArg_rest, isRest]
  | flag isNumber =>
      refine ⟨cmd.nextArg.2, ?_, ?_⟩
      · simp [takeParam, nextArg_fst, isRest, isNumber, AmOption.apply,
          -List.headD_eq_head?_getD]
      · rw [nextArg_rest, isRest]
  | data =>
      refine ⟨cmd.nextArg.2, ?_, ?_⟩
      · simp [takeParam, nextArg_fst, isRest, AmOption.apply]
      · rw [nextArg_rest, isRest]
  | int isNumber =>
      refine ⟨cmd.nextArg.2.nextArg.2, ?_, ?_⟩
      · simp [takeParam, nextArg_fst, nextArg_rest, isRest, isNumber,
          AmOption.apply, -List.headD_eq_head?_getD]
      · rw [nextArg_rest, nextArg_rest, isRest]
  | double isNumber =>
      refine ⟨cmd.nextArg.2.nextArg.2, ?_, ?_⟩
      · simp [takeParam, nextArg_fst, nextArg_rest, isRest, isNumber,
          AmOption.apply, -List.headD_eq_head?_getD]
      · rw [nextArg_rest, nextArg_rest, isRest]
  | boolean =>
      refine ⟨cmd.nextArg.2.nextArg.2, ?_, ?_⟩
      · simp [takeParam, nextArg_fst, nextArg_rest, isRest, AmOption.apply]
      · rw [nextArg_rest, nextArg_rest, isRest]
  | string isString =>
      refine ⟨cmd.nextArg.2.nextArg.2, ?_, ?_⟩
      · rcases isString with rfl | rfl <;>
          simp [takeParam, nextArg_fst, nextArg_rest, isRest,
            AmOption.apply]
      · rw [nextArg_rest, nextArg_rest, isRest]

/-- The position after an argument that is not empty. -/
theorem mNextArgs_of_nextArg
    (notEmpty : cmd.nextArg.1 ≠ "") :
    cmd.nextArg.2.mNextArgs = cmd.mNextArgs + 1 := by
  rw [nextArg] at notEmpty ⊢
  split
  · rfl
  · rename_i isEnd
    rw [isEnd] at notEmpty
    exact absurd rfl notEmpty

/-- An argument is the first one after the subcommand or it is not. -/
theorem isFirst_of_nextArg
    (notEmpty : cmd.nextArg.1 ≠ "") :
    (cmd.nextArg.2.mNextArgs == 2) = (cmd.mNextArgs == 1) := by
  rw [mNextArgs_of_nextArg notEmpty, Bool.eq_iff_iff, beq_iff_eq,
    beq_iff_eq]
  omega

/-- The loop ends well if the arguments are options, and sets them in turn. -/
theorem takeParams_ok_iff
    (isAfter : 1 ≤ cmd.mNextArgs) :
    takeParams stof made cmd = .ok after ↔
      ∃ options,
        Reads stof (cmd.mNextArgs == 1) cmd.rest options ∧
          after = options.foldl AmOption.apply made := by
  fun_induction takeParams stof made cmd with
  | case1 made cmd isEmpty =>
      constructor
      · intro isEnd
        cases isEnd
        refine ⟨[], ?_, rfl⟩
        rw [nextArg_fst] at isEmpty
        cases isRest : cmd.rest with
        | nil =>
            exact .ended
        | cons first others =>
            rw [isRest, List.headD_cons] at isEmpty
            rw [isEmpty]
            exact .stopped
      · rintro ⟨options, reads, rfl⟩
        rw [nextArg_fst] at isEmpty
        generalize cmd.rest = rest at reads isEmpty
        cases reads with
        | ended =>
            rfl
        | stopped =>
            rfl
        | option notEmpty _ _ =>
            exact absurd isEmpty notEmpty
  | case2 made cmd notEmpty taken later isNext inductionHypothesis =>
      have isNumber := mNextArgs_of_nextArg notEmpty
      have advances := takeParam_advances isNext
      have isLater : 1 ≤ later.mNextArgs := by
        have further := advances.mNextArgs
        omega
      have notFirst : (later.mNextArgs == 1) = false := by
        have further := advances.mNextArgs
        simp only [beq_eq_false_iff_ne]
        omega
      have sameFirst := isFirst_of_nextArg notEmpty
      rw [inductionHypothesis isLater, notFirst, rest_of_nextArg notEmpty]
      constructor
      · rintro ⟨options, reads, rfl⟩
        obtain ⟨option, readsOption, rfl⟩ := takeParam_reads isNext
        rw [sameFirst] at readsOption
        exact ⟨option :: options, .option notEmpty readsOption reads, rfl⟩
      · rintro ⟨options, reads, rfl⟩
        obtain ⟨option, others, options, readsOption, readsRest, rfl⟩ :=
          reads.exists_option notEmpty
        rw [← sameFirst] at readsOption
        obtain ⟨other, isOther, sameRest⟩ :=
          takeParam_of_reads made readsOption
        rw [isNext] at isOther
        cases isOther
        rw [sameRest]
        exact ⟨options, readsRest, rfl⟩
  | case3 made cmd notEmpty failure isFailure =>
      have sameFirst := isFirst_of_nextArg notEmpty
      constructor
      · intro isEnd
        cases isEnd
      · rintro ⟨options, reads, rfl⟩
        rw [rest_of_nextArg notEmpty] at reads
        obtain ⟨option, others, options, readsOption, _, _⟩ :=
          reads.exists_option notEmpty
        rw [← sameFirst] at readsOption
        obtain ⟨other, isOther, _⟩ := takeParam_of_reads made readsOption
        rw [isFailure] at isOther
        cases isOther

end AmCommand

/-! ## What the options describe -/

namespace MadeIntent

variable
  (made : MadeIntent Double)
  (options : List (AmOption Double))

/-- An intent has a target or an action once one is named. -/
theorem foldl_hasTarget :
    (options.foldl AmOption.apply made).hasTarget =
      (made.hasTarget || options.any AmOption.isNaming) := by
  induction options generalizing made with
  | nil =>
      exact (Bool.or_false _).symm
  | cons option others inductionHypothesis =>
      have isNamed :
          (option.apply made).hasTarget =
            (made.hasTarget || option.isNaming) := by
        cases option <;>
          simp [AmOption.apply, AmOption.isNaming, setTarget, setAction,
            setFlag, setData, put]
      rw [List.foldl_cons, inductionHypothesis, isNamed, List.any_cons,
        Bool.or_assoc]

theorem foldl_mTarget :
    (options.foldl AmOption.apply made).intent.mTarget =
      (lastOf AmOption.target? options).getD made.intent.mTarget := by
  refine foldl_eq_last
    (fun made : MadeIntent Double => made.intent.mTarget) ?_ _ _
  intro made option
  cases option <;> rfl

theorem foldl_mAction :
    (options.foldl AmOption.apply made).intent.mAction =
      (lastOf AmOption.action? options).getD made.intent.mAction := by
  refine foldl_eq_last
    (fun made : MadeIntent Double => made.intent.mAction) ?_ _ _
  intro made option
  cases option <;> rfl

theorem foldl_mData :
    (options.foldl AmOption.apply made).intent.mData =
      (lastOf AmOption.data? options).getD made.intent.mData := by
  refine foldl_eq_last
    (fun made : MadeIntent Double => made.intent.mData) ?_ _ _
  intro made option
  cases option <;> rfl

theorem foldl_mFlag :
    (options.foldl AmOption.apply made).intent.mFlag =
      ((lastOf AmOption.flag? options).map toUInt32).getD
        made.intent.mFlag := by
  rw [lastOf, ← List.getLast?_map, List.map_filterMap]
  refine foldl_eq_last
    (fun made : MadeIntent Double => made.intent.mFlag) ?_ _ _
  intro made option
  cases option <;> rfl

theorem foldl_bundle (key : String) :
    (options.foldl AmOption.apply made).bundle key =
      ((lastOf (AmOption.extra? key) options).map some).getD
        (made.bundle key) := by
  rw [lastOf, ← List.getLast?_map, List.map_filterMap]
  refine foldl_eq_last
    (fun made : MadeIntent Double => made.bundle key) ?_ _ _
  intro made option
  cases option with
  | extra other value =>
      by_cases isKey : other = key
      · simp [AmOption.apply, AmOption.extra?, put, isKey]
      · simp [AmOption.apply, AmOption.extra?, put, isKey,
          Function.update_of_ne (Ne.symm isKey)]
  | _ => rfl

/-- What is made from nothing is what the options describe. -/
theorem foldl_empty :
    options.foldl AmOption.apply empty =
      { intent := (described options).intent
        bundle := (described options).mExtra
        hasTarget := options.any AmOption.isNaming } := by
  have mTarget := foldl_mTarget empty options
  have mAction := foldl_mAction empty options
  have mData := foldl_mData empty options
  have mFlag := foldl_mFlag empty options
  have hasTarget := foldl_hasTarget empty options
  have bundle :
      (options.foldl AmOption.apply empty).bundle =
        (described options).mExtra := by
    funext key
    rw [foldl_bundle]
    cases isLast : lastOf (AmOption.extra? key) options with
    | none =>
        exact isLast.symm
    | some value =>
        exact isLast.symm
  generalize options.foldl AmOption.apply empty = made at *
  obtain ⟨⟨_, _, _, _⟩, _, _⟩ := made
  dsimp only at mTarget mAction mData mFlag hasTarget bundle
  rw [mTarget, mAction, mData, mFlag, hasTarget, bundle]
  rfl

end MadeIntent

/-! ## The intent that is made -/

namespace AmCommand

variable
  {stof : String → Option Double}
  {cmd : AmCommand}

/--
`makeIntent` makes an intent exactly of options that name a target or an
action, and the intent is the one they describe.
-/
theorem makeIntent_ok_iff
    {made : ExtraIntent Double}
    (isAfter : cmd.mNextArgs = 1) :
    cmd.makeIntent stof = .ok made ↔
      ∃ options,
        Reads stof true cmd.rest options ∧
          options.any AmOption.isNaming = true ∧
            made = described options := by
  have loop :
      ∀ after,
        takeParams stof .empty cmd = .ok after ↔
          ∃ options,
            Reads stof true cmd.rest options ∧
              after = options.foldl AmOption.apply .empty := by
    intro after
    rw [takeParams_ok_iff (Nat.le_of_eq isAfter.symm), isAfter]
    rfl
  unfold makeIntent
  constructor
  · intro isMade
    split at isMade
    · rename_i after isTaken
      obtain ⟨options, reads, rfl⟩ := (loop after).mp isTaken
      rw [MadeIntent.foldl_empty] at isMade
      split at isMade
      · rename_i isNaming
        cases isMade
        exact ⟨options, reads, isNaming, rfl⟩
      · cases isMade
    · cases isMade
  · rintro ⟨options, reads, isNaming, rfl⟩
    rw [(loop _).mpr ⟨options, reads, rfl⟩, MadeIntent.foldl_empty]
    exact if_pos isNaming

end AmCommand

/-! ## Numbers -/

theorem toUInt32_cast (value : Int) :
    (toUInt32 value : Int) = value % 4294967296 :=
  Int.toNat_of_nonneg (Int.emod_nonneg _ (by decide))

theorem toUInt32_lt (value : Int) : toUInt32 value < 2 ^ 32 := by
  have isCast := toUInt32_cast value
  omega

/-- A number that can be an `int32_t` survives its conversion. -/
theorem toInt32_toUInt32
    {value : Int}
    (isInt : IsInt32 value) :
    toInt32 (toUInt32 value) = value := by
  obtain ⟨low, high⟩ := isInt
  unfold toInt32
  rw [toUInt32_cast]
  refine (Int.emod_bmod value 4294967296).trans ?_
  refine Int.bmod_eq_of_le_mul_two ?_ ?_
  · omega
  · omega

/-- And so does one that is a `uint32_t`. -/
theorem toUInt32_toInt32
    {value : Nat}
    (isUInt : value < 2 ^ 32) :
    toUInt32 (toInt32 value) = value := by
  have same : toInt32 value % 4294967296 = value := by
    refine Int.bmod_emod.trans ?_
    omega
  rw [toUInt32, same, Int.toNat_natCast]

/-- Written in decimal, a number is read back. -/
theorem stoi_toString
    {value : Int}
    (isInt : IsInt32 value) :
    stoi (toString value) = some value := by
  rw [stoi, DecimalText.readInt_toString, Option.filter_some,
    if_pos (decide_eq_true isInt)]

theorem isInt32_of_stoi
    {text : String}
    {value : Int}
    (isNumber : stoi text = some value) :
    IsInt32 value :=
  of_decide_eq_true (Option.filter_eq_some_iff.mp isNumber).2

/-! ## The call of a command line -/

namespace AmOutcome

/-- The service is called with an intent. -/
def isCall : AmOutcome Double → Bool
  | .showUsage => false
  | .dump => false
  | .failed _ => false
  | _ => true

end AmOutcome

/-- The intent, for a new task. -/
def ExtraIntent.inNewTask
    (made : ExtraIntent Double) : ExtraIntent Double :=
  { made with
    intent :=
      { made.intent with
        mFlag := made.intent.mFlag ||| Intent.flagActivityNewTask } }

/-- What a subcommand asks for with its options. -/
def callOf
    (subCommand : String) :
    Option (List (AmOption Double) → AmOutcome Double) :=
  if subCommand = "start" then
    some fun options =>
      .startActivity (described options).inNewTask (-1)
  else if subCommand = "stop" then
    some fun options =>
      .stopActivity (described options)
        ((lastOf AmOption.flag? options).getD 0)
  else if subCommand = "startservice" then
    some fun options => .startService (described options)
  else if subCommand = "stopservice" then
    some fun options => .stopService (described options)
  else if subCommand = "postintent" then
    some fun options => .postIntent (described options)
  else
    none

/-- The flags that can be read are numbers of `int32_t`. -/
theorem Reads.isInt32
    {stof : String → Option Double}
    {isFirst : Bool}
    {args : List String}
    {options : List (AmOption Double)}
    {flag : Int}
    (reads : Reads stof isFirst args options)
    (isOption : .flag flag ∈ options) :
    IsInt32 flag := by
  induction reads with
  | ended =>
      cases isOption
  | stopped =>
      cases isOption
  | option _ readsOption _ inductionHypothesis =>
      obtain isHead | isLater := List.mem_cons.mp isOption
      · rw [← isHead] at readsOption
        cases readsOption with
        | flag isNumber =>
            exact isInt32_of_stoi isNumber
      · exact inductionHypothesis isLater

/-- And so is the last one, or the one that an intent begins with. -/
theorem Reads.lastFlag_isInt32
    {stof : String → Option Double}
    {isFirst : Bool}
    {args : List String}
    {options : List (AmOption Double)}
    (reads : Reads stof isFirst args options) :
    IsInt32 ((lastOf AmOption.flag? options).getD 0) := by
  cases isLast : lastOf AmOption.flag? options with
  | none =>
      exact ⟨by decide, by decide⟩
  | some flag =>
      obtain ⟨option, isOption, isFlag⟩ :=
        List.mem_filterMap.mp (List.mem_of_getLast? isLast)
      cases option with
      | flag value =>
          rw [← Option.some.inj isFlag]
          exact reads.isInt32 isOption
      | _ => cases isFlag

/-- The flag that is described is the last one, as a `uint32_t`. -/
theorem described_mFlag (options : List (AmOption Double)) :
    (described options).intent.mFlag =
      toUInt32 ((lastOf AmOption.flag? options).getD 0) := by
  unfold described
  dsimp only
  cases lastOf AmOption.flag? options <;> rfl

namespace AmCommand

variable
  {stof : String → Option Double}
  {cmd : AmCommand}

/-- A subcommand calls the service exactly with an intent that is made. -/
theorem withIntent_isCall_iff
    {call : ExtraIntent Double → AmOutcome Double}
    {asked : List (AmOption Double) → AmOutcome Double}
    {outcome : AmOutcome Double}
    (isAfter : cmd.mNextArgs = 1)
    (isCall : ∀ made, (call made).isCall = true)
    (isAsked :
      ∀ options,
        Reads stof true cmd.rest options →
        call (described options) = asked options) :
    (cmd.withIntent stof call = outcome ∧ outcome.isCall = true) ↔
      ∃ options,
        Reads stof true cmd.rest options ∧
          options.any AmOption.isNaming = true ∧
            outcome = asked options := by
  unfold withIntent
  constructor
  · rintro ⟨rfl, calls⟩
    split
    · rename_i made isMade
      obtain ⟨options, reads, isNaming, rfl⟩ :=
        (makeIntent_ok_iff isAfter).mp isMade
      exact ⟨options, reads, isNaming, isAsked options reads⟩
    · rename_i failure isFailure
      rw [isFailure] at calls
      cases calls
  · rintro ⟨options, reads, isNaming, rfl⟩
    rw [(makeIntent_ok_iff isAfter).mpr ⟨options, reads, isNaming, rfl⟩,
      ← isAsked options reads]
    exact ⟨rfl, isCall _⟩

/-- `start` sets the flag for a new task, and no other. -/
theorem setFlag_inNewTask
    {made : ExtraIntent Double}
    (isUInt : made.intent.mFlag < 2 ^ 32) :
    { made with
      intent :=
        made.intent.setFlag
          (toInt32 (made.intent.mFlag ||| Intent.flagActivityNewTask)) } =
      made.inNewTask := by
  have stillUInt :
      made.intent.mFlag ||| Intent.flagActivityNewTask < 2 ^ 32 :=
    Nat.or_lt_two_pow isUInt (by decide)
  unfold Intent.setFlag ExtraIntent.inNewTask
  rw [toUInt32_toInt32 stillUInt]

/-- A subcommand that is known asks for its own call. -/
theorem asks_iff
    {asked : List (AmOption Double) → AmOutcome Double}
    {outcome : AmOutcome Double}
    {args : List String} :
    (∃ call options,
        some asked = some call ∧
          Reads stof true args options ∧
          options.any AmOption.isNaming = true ∧
          outcome = call options) ↔
      ∃ options,
        Reads stof true args options ∧
          options.any AmOption.isNaming = true ∧
            outcome = asked options := by
  constructor
  · rintro ⟨call, options, isCall, asks⟩
    rw [Option.some.inj isCall]
    exact ⟨options, asks⟩
  · rintro ⟨options, asks⟩
    exact ⟨asked, options, rfl, asks⟩

/-- What a subcommand does with the arguments after it. -/
theorem run_subCommand_iff
    (name subCommand : String)
    (args : List String)
    (outcome : AmOutcome Double) :
    (run stof (name :: subCommand :: args) = outcome ∧
        outcome.isCall = true) ↔
      ∃ call options,
        callOf subCommand = some call ∧
          Reads stof true args options ∧
          options.any AmOption.isNaming = true ∧
          outcome = call options := by
  have enough : ¬ (name :: subCommand :: args).length < 2 := by
    simp
  unfold run
  rw [if_neg enough]
  dsimp only [nextArg, List.tail_cons, List.getElem?_cons_zero]
  unfold callOf
  split
  · rw [asks_iff]
    refine withIntent_isCall_iff rfl (fun _ => rfl) ?_
    intro options _
    have isUInt : (described options).intent.mFlag < 2 ^ 32 := by
      rw [described_mFlag]
      exact toUInt32_lt _
    exact congrArg (AmOutcome.startActivity · (-1)) (setFlag_inNewTask isUInt)
  split
  · rw [asks_iff]
    refine withIntent_isCall_iff rfl (fun _ => rfl) ?_
    intro options reads
    rw [described_mFlag, toInt32_toUInt32 reads.lastFlag_isInt32]
  split
  · rw [asks_iff]
    exact withIntent_isCall_iff rfl (fun _ => rfl) (fun _ _ => rfl)
  split
  · rw [asks_iff]
    exact withIntent_isCall_iff rfl (fun _ => rfl) (fun _ _ => rfl)
  split
  · rw [asks_iff]
    exact withIntent_isCall_iff rfl (fun _ => rfl) (fun _ _ => rfl)
  · constructor
    · rintro ⟨isOutcome, isCall⟩
      rw [← isOutcome] at isCall
      split at isCall <;> cases isCall
    · rintro ⟨call, options, isCall, _⟩
      cases isCall

end AmCommand

/-! ## Writing options -/

namespace AmOption

/-- The arguments that spell an option. -/
def spell (ofDouble : Double → String) : AmOption Double → List String
  | .target value => ["-t", value]
  | .action value => ["-a", value]
  | .flag value => ["-f", toString value]
  | .data value => ["-d", value]
  | .extra key (.int value) => ["--ei", key, toString value]
  | .extra key (.double value) => ["--eu", key, ofDouble value]
  | .extra key (.boolean value) => ["--ez", key, toString value]
  | .extra key (.string value) => ["--es", key, value]

/-- The numbers of an option can be written and read back. -/
def IsSpellable
    (stof : String → Option Double)
    (ofDouble : Double → String) : AmOption Double → Prop
  | .flag value => IsInt32 value
  | .extra _ (.int value) => IsInt32 value
  | .extra _ (.double value) => stof (ofDouble value) = some value
  | _ => True

end AmOption

/-- An option that is written is read back. -/
theorem Reads.spell
    {stof : String → Option Double}
    {ofDouble : Double → String}
    {isFirst : Bool}
    {option : AmOption Double}
    {args : List String}
    {options : List (AmOption Double)}
    (isSpellable : option.IsSpellable stof ofDouble)
    (reads : Reads stof false args options) :
    Reads stof isFirst (option.spell ofDouble ++ args)
      (option :: options) := by
  cases option with
  | target value =>
      have first :
          ReadsOption stof isFirst "-t" (value :: args) (.target value)
            args :=
        .target
      exact .option (by decide) first reads
  | action value =>
      have first :
          ReadsOption stof isFirst "-a" (value :: args) (.action value)
            args :=
        .action
      exact .option (by decide) first reads
  | flag value =>
      have first :
          ReadsOption stof isFirst "-f" (toString value :: args)
            (.flag value) args :=
        .flag (stoi_toString isSpellable)
      exact .option (by decide) first reads
  | data value =>
      have first :
          ReadsOption stof isFirst "-d" (value :: args) (.data value) args :=
        .data
      exact .option (by decide) first reads
  | extra key value =>
      cases value with
      | int value =>
          have first :
              ReadsOption stof isFirst "--ei"
                (key :: toString value :: args) (.extra key (.int value))
                args :=
            .int (stoi_toString isSpellable)
          exact .option (by decide) first reads
      | double value =>
          have first :
              ReadsOption stof isFirst "--eu"
                (key :: ofDouble value :: args)
                (.extra key (.double value)) args :=
            .double isSpellable
          exact .option (by decide) first reads
      | boolean value =>
          have isSame : (toString value == "true") = value := by
            cases value <;> decide
          have first :
              ReadsOption stof isFirst "--ez"
                (key :: toString value :: args)
                (.extra key (.boolean (toString value == "true"))) args :=
            .boolean
          rw [isSame] at first
          exact .option (by decide) first reads
      | string value =>
          have first :
              ReadsOption stof isFirst "--es" (key :: value :: args)
                (.extra key (.string value)) args :=
            .string (.inr rfl)
          exact .option (by decide) first reads

/-- A list of options that is written is read back. -/
theorem Reads.spellAll
    {stof : String → Option Double}
    {ofDouble : Double → String}
    {isFirst : Bool}
    {options : List (AmOption Double)}
    (areSpellable :
      ∀ option ∈ options, option.IsSpellable stof ofDouble) :
    Reads stof isFirst (options.flatMap (AmOption.spell ofDouble))
      options := by
  induction options generalizing isFirst with
  | nil =>
      exact .ended
  | cons option others inductionHypothesis =>
      rw [List.flatMap_cons]
      refine (inductionHypothesis ?_).spell
        (areSpellable option List.mem_cons_self)
      intro other member
      exact areSpellable other (List.mem_cons_of_mem _ member)

namespace AmCommand

end AmCommand

end ActivityManager
