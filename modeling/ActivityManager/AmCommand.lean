import ActivityManager.ActivityManagerService
import ActivityManager.Library.DecimalText

/-!
# The command `am`

The command makes an intent from its arguments and hands it to the service.
The arguments are read one after the other: an option is followed by what it
sets, and what is missing at the end is read as empty.
-/

namespace ActivityManager

/-- What the command puts into a `PersistableBundle`. -/
inductive BundleValue (Double : Type) where
  | int (value : Int)
  | double (value : Double)
  | boolean (value : Bool)
  | string (value : String)
  deriving Repr, DecidableEq

/-- `PersistableBundle`, a mapping from keys to values of various types. -/
abbrev PersistableBundle (Double : Type) :=
  String → Option (BundleValue Double)

/-- An intent with its extras. -/
structure ExtraIntent (Double : Type) where
  intent : Intent
  mExtra : PersistableBundle Double

/-- The conversion from `int32_t` to `uint32_t`. -/
def toUInt32 (value : Int) : Nat :=
  (value % 4294967296).toNat

/-- The conversion from `uint32_t` to `int32_t`. -/
def toInt32 (value : Nat) : Int :=
  (value : Int).bmod 4294967296

/-- The values of `int32_t`, from `INT32_MIN` to `INT32_MAX`. -/
def IsInt32 (value : Int) : Prop :=
  -2147483648 ≤ value ∧ value ≤ 2147483647

instance decidableIsInt32 (value : Int) : Decidable (IsInt32 value) :=
  inferInstanceAs (Decidable (_ ∧ _))

/-- `std::stoi`; it throws for anything else. -/
def stoi (text : String) : Option Int :=
  (DecimalText.readInt text.toList).filter fun value => IsInt32 value

namespace Intent

/-- `Intent::FLAG_ACTIVITY_NEW_TASK`. -/
def flagActivityNewTask : Nat := 1

/-- `Intent::setFlag`. -/
def setFlag (intent : Intent) (flag : Int) : Intent :=
  { intent with mFlag := toUInt32 flag }

end Intent

/-- How the command ends without a call. -/
inductive AmFailure where
  /-- `exit(0)`. -/
  | exits
  /-- `std::stoi` or `std::stof` throws. -/
  | throws
  deriving Repr, DecidableEq

/-- What the command comes to. -/
inductive AmOutcome (Double : Type) where
  | showUsage
  | dump
  | failed (failure : AmFailure)
  | startActivity (intent : ExtraIntent Double) (requestCode : Int)
  | stopActivity (intent : ExtraIntent Double) (resultCode : Int)
  | startService (intent : ExtraIntent Double)
  | stopService (intent : ExtraIntent Double)
  | postIntent (intent : ExtraIntent Double)

/-- What `makeIntent` has made so far. -/
structure MadeIntent (Double : Type) where
  intent : Intent
  bundle : PersistableBundle Double
  hasTarget : Bool

namespace MadeIntent

variable {Double : Type}

/-- Nothing has been made yet. -/
def empty : MadeIntent Double where
  intent := .ofAction "" ""
  bundle := fun _ => none
  hasTarget := false

/-- `setTarget`, which an intent needs unless it has an action. -/
def setTarget
    (made : MadeIntent Double)
    (target : String) : MadeIntent Double :=
  { made with
    intent := { made.intent with mTarget := target }
    hasTarget := true }

/-- `setAction`. -/
def setAction
    (made : MadeIntent Double)
    (action : String) : MadeIntent Double :=
  { made with
    intent := { made.intent with mAction := action }
    hasTarget := true }

/-- `setFlag`. -/
def setFlag (made : MadeIntent Double) (flag : Int) : MadeIntent Double :=
  { made with intent := made.intent.setFlag flag }

/-- `setData`. -/
def setData
    (made : MadeIntent Double)
    (data : String) : MadeIntent Double :=
  { made with intent := { made.intent with mData := data } }

/-- `putInt` and the others: a key has one value. -/
def put
    (made : MadeIntent Double)
    (key : String)
    (value : BundleValue Double) : MadeIntent Double :=
  { made with bundle := Function.update made.bundle key (some value) }

end MadeIntent

/-- `AmCommand`. -/
structure AmCommand where
  mArgs : List String
  mNextArgs : Nat
  deriving Repr, DecidableEq

namespace AmCommand

variable {Double : Type}

/-- `AmCommand::nextArg`. -/
def nextArg (cmd : AmCommand) : String × AmCommand :=
  match cmd.mArgs[cmd.mNextArgs]? with
  | some arg => (arg, { cmd with mNextArgs := cmd.mNextArgs + 1 })
  | none => ("", cmd)

/-- The branches of the loop of `makeIntent`. -/
def takeParam
    (stof : String → Option Double)
    (made : MadeIntent Double)
    (param : String)
    (cmd : AmCommand) :
    Except AmFailure (MadeIntent Double × AmCommand) :=
  if param.toList.head? ≠ some '-' ∧ cmd.mNextArgs = 2 then
    .ok (made.setTarget param, cmd)
  else if param = "-t" then
    let (target, cmd) := cmd.nextArg
    .ok (made.setTarget target, cmd)
  else if param = "-a" then
    let (action, cmd) := cmd.nextArg
    .ok (made.setAction action, cmd)
  else if param = "-f" then
    let (text, cmd) := cmd.nextArg
    match stoi text with
    | some flag => .ok (made.setFlag flag, cmd)
    | none => .error .throws
  else if param = "-d" then
    let (data, cmd) := cmd.nextArg
    .ok (made.setData data, cmd)
  else if param = "--ei" then
    let (key, cmd) := cmd.nextArg
    let (text, cmd) := cmd.nextArg
    match stoi text with
    | some value => .ok (made.put key (.int value), cmd)
    | none => .error .throws
  else if param = "--eu" then
    let (key, cmd) := cmd.nextArg
    let (text, cmd) := cmd.nextArg
    match stof text with
    | some value => .ok (made.put key (.double value), cmd)
    | none => .error .throws
  else if param = "--ez" then
    let (key, cmd) := cmd.nextArg
    let (text, cmd) := cmd.nextArg
    .ok (made.put key (.boolean (text == "true")), cmd)
  else if param = "-e" ∨ param = "--es" then
    let (key, cmd) := cmd.nextArg
    let (value, cmd) := cmd.nextArg
    .ok (made.put key (.string value), cmd)
  else
    .error .exits

/-- The arguments that have not been read. -/
def rest (cmd : AmCommand) : List String :=
  cmd.mArgs.drop cmd.mNextArgs

/-! ## What is read -/

theorem nextArg_fst (cmd : AmCommand) :
    cmd.nextArg.1 = cmd.rest.headD "" := by
  rw [rest, List.headD_eq_head?_getD, List.head?_drop, nextArg]
  split <;> simp_all

theorem nextArg_rest (cmd : AmCommand) :
    cmd.nextArg.2.rest = cmd.rest.tail := by
  rw [rest, rest, List.tail_drop, nextArg]
  split
  · rfl
  · rename_i isEnd
    have atEnd := List.getElem?_eq_none_iff.mp isEnd
    dsimp only
    rw [List.drop_eq_nil_of_le atEnd,
      List.drop_eq_nil_of_le (Nat.le_succ_of_le atEnd)]

/-- One command has read more than another. -/
structure Advances (cmd later : AmCommand) : Prop where
  mNextArgs : cmd.mNextArgs ≤ later.mNextArgs
  rest : later.rest.length ≤ cmd.rest.length

theorem Advances.refl (cmd : AmCommand) : Advances cmd cmd where
  mNextArgs := Nat.le_refl _
  rest := Nat.le_refl _

theorem Advances.next
    {cmd later : AmCommand}
    (advances : Advances cmd later) :
    Advances cmd later.nextArg.2 where
  mNextArgs := by
    refine advances.mNextArgs.trans ?_
    rw [nextArg]
    split
    · exact Nat.le_succ _
    · exact Nat.le_refl _
  rest := by
    rw [nextArg_rest, List.length_tail]
    exact (Nat.sub_le _ _).trans advances.rest

/-- No argument is read twice. -/
theorem takeParam_advances
    {stof : String → Option Double}
    {made after : MadeIntent Double}
    {param : String}
    {cmd later : AmCommand}
    (isNext : takeParam stof made param cmd = .ok (after, later)) :
    Advances cmd later := by
  have noArg := Advances.refl cmd
  unfold takeParam at isNext
  dsimp only at isNext
  -- each branch reads at most two arguments
  repeat' split at isNext
  all_goals
    cases isNext <;>
      first
      | exact noArg
      | exact noArg.next
      | exact noArg.next.next

/-- A parameter that is not empty has been read. -/
theorem rest_of_nextArg
    {cmd : AmCommand}
    (notEmpty : cmd.nextArg.1 ≠ "") :
    cmd.rest = cmd.nextArg.1 :: cmd.nextArg.2.rest := by
  rw [nextArg_rest]
  rw [nextArg_fst] at notEmpty ⊢
  cases isRest : cmd.rest with
  | nil =>
      rw [isRest] at notEmpty
      exact absurd rfl notEmpty
  | cons first others =>
      rfl

/-- The loop of `makeIntent`. -/
def takeParams
    (stof : String → Option Double)
    (made : MadeIntent Double)
    (cmd : AmCommand) : Except AmFailure (MadeIntent Double) :=
  if cmd.nextArg.1 = "" then
    .ok made
  else
    match _isNext : takeParam stof made cmd.nextArg.1 cmd.nextArg.2 with
    | .ok (after, later) => takeParams stof after later
    | .error failure => .error failure
termination_by cmd.rest.length
decreasing_by
  rename_i notEmpty
  have advances := takeParam_advances _isNext
  rw [rest_of_nextArg notEmpty]
  exact Nat.lt_succ_of_le advances.rest

/-- `AmCommand::makeIntent`. -/
def makeIntent
    (stof : String → Option Double)
    (cmd : AmCommand) : Except AmFailure (ExtraIntent Double) :=
  match takeParams stof .empty cmd with
  | .ok made =>
      if made.hasTarget then
        .ok { intent := made.intent, mExtra := made.bundle }
      else
        .error .exits
  | .error failure => .error failure

/-- What a subcommand does with its intent. -/
def withIntent
    (stof : String → Option Double)
    (cmd : AmCommand)
    (call : ExtraIntent Double → AmOutcome Double) : AmOutcome Double :=
  match cmd.makeIntent stof with
  | .ok intent => call intent
  | .error failure => .failed failure

/-- `AmCommand::startActivity`. -/
def startActivity
    (stof : String → Option Double)
    (cmd : AmCommand) : AmOutcome Double :=
  cmd.withIntent stof fun made =>
    let flag := made.intent.mFlag ||| Intent.flagActivityNewTask
    .startActivity
      { made with intent := made.intent.setFlag (toInt32 flag) } (-1)

/-- `AmCommand::stopActivity`; the flag is used for the result code. -/
def stopActivity
    (stof : String → Option Double)
    (cmd : AmCommand) : AmOutcome Double :=
  cmd.withIntent stof fun made =>
    .stopActivity made (toInt32 made.intent.mFlag)

/-- `AmCommand::startService`. -/
def startService
    (stof : String → Option Double)
    (cmd : AmCommand) : AmOutcome Double :=
  cmd.withIntent stof .startService

/-- `AmCommand::stopService`. -/
def stopService
    (stof : String → Option Double)
    (cmd : AmCommand) : AmOutcome Double :=
  cmd.withIntent stof .stopService

/-- `AmCommand::postIntent`. -/
def postIntent
    (stof : String → Option Double)
    (cmd : AmCommand) : AmOutcome Double :=
  cmd.withIntent stof .postIntent

/-- `AmCommand::run`. -/
def run
    (stof : String → Option Double)
    (argv : List String) : AmOutcome Double :=
  if argv.length < 2 then
    .showUsage
  else
    let (subCommand, cmd) :=
      (AmCommand.mk argv.tail 0).nextArg
    if subCommand = "start" then
      cmd.startActivity stof
    else if subCommand = "stop" then
      cmd.stopActivity stof
    else if subCommand = "startservice" then
      cmd.startService stof
    else if subCommand = "stopservice" then
      cmd.stopService stof
    else if subCommand = "postintent" then
      cmd.postIntent stof
    else if subCommand = "dump" then
      .dump
    else
      .showUsage

end AmCommand

end ActivityManager
