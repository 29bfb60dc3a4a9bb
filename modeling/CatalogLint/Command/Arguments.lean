import CatalogLint.Command.Grammar
import CatalogLint.Number.Decimal

/-!
# Reading arguments

The arguments of a command are read from left to right, and the first problem counts. A value
stands in the argument of its option (`--min=5`, `-m=5`, `-m5`) or in the next one, flags of one
letter can share an argument, and behind `--` everything is a file.

A value in an argument of its own, and a run of files, are taken for good only when the next
thing arrives; until then they are pending. So a problem with one of them yields to an unknown
option right behind it.

* `Arguments.settle` takes what is pending.
* `Arguments.readFrom` reads all arguments of a command.
-/

namespace CatalogLint

/-- What is wrong with arguments. -/
inductive UsageError where
  /-- There are no arguments. -/
  | noArguments
  /-- There is no command. -/
  | noCommand
  | unknownCommand
  | unknownOption
  /-- The value of an option is missing, or not one that the option takes. -/
  | invalidValue
  /-- A flag was given a value. -/
  | unneededValue
  /-- The value of an option is no integer of 64 bits. -/
  | noInteger
  /-- An option was given again. -/
  | repeated
  deriving DecidableEq, Repr

/-- The wording of an error. -/
def UsageError.message : UsageError → Text
  | noArguments => "a command is required"
  | noCommand => "a command is required behind the options"
  | unknownCommand => "unknown command"
  | unknownOption => "unknown option"
  | invalidValue => "missing or invalid value of an option"
  | unneededValue => "a flag takes no value"
  | noInteger => "the value of an option is no integer of 64 bits"
  | repeated => "an option was given more than once"

/-- Why the reading of arguments ends early. -/
inductive Interruption where
  /-- The usage text of a command, or of all of them, was asked for. -/
  | help (command : Option Command)
  | version
  | error (e : UsageError)
  deriving DecidableEq, Repr

/-- What waits to be taken. -/
inductive Pending where
  /-- An option whose value stands in the next argument. -/
  | awaited (o : OptionSpec)
  /-- An option with a value from an argument of its own. -/
  | given (o : OptionSpec) (value : Text)
  /-- A run of files. -/
  | files (paths : List Text)
  deriving DecidableEq, Repr

/-- The arguments read so far. -/
structure Arguments where
  /-- The options with their values, in the order in which they were taken; the value of a flag
  is empty. -/
  options : List (OptionName × Text) := []
  files : List Text := []
  pending : Option Pending := none
  deriving DecidableEq, Repr

/-- Whether a text behind a minus sign writes a number: digits, with a point behind the first
and an exponent that is not empty. -/
def looksNumeric (t : Text) : Bool :=
  let whole := t.takeWhile Decimal.isDigit
  let afterPoint (t : Text) : Bool :=
    match t.dropWhile Decimal.isDigit with
    | [] => true
    | c :: digits => (c = 'e' || c = 'E') && !digits.isEmpty && digits.all Decimal.isDigit
  match t.dropWhile Decimal.isDigit with
  | '.' :: rest => !whole.isEmpty && afterPoint rest
  | rest => !whole.isEmpty && afterPoint rest

/-- The least natural number that is too great for a signed integer of 64 bits. -/
def bound64 : Nat := Nat.pow 2 63

/-- The integer of 64 bits that a text writes. -/
def readInteger64? (t : Text) : Option Int :=
  (readInteger? t).filter fun n => -(bound64 : Int) ≤ n && n < (bound64 : Int)

/-- The problem with a value, if it is not of its kind. -/
def ValueKind.problem? (kind : ValueKind) (value : Text) : Option UsageError :=
  match kind with
  | text => none
  | path => if value.isEmpty then some .invalidValue else none
  | integer => if (readInteger64? value).isNone then some .noInteger else none
  | format =>
    if value = "human".toList || value = "json".toList then none else some .invalidValue

namespace Arguments

/-- Whether an option was taken. -/
def has (a : Arguments) (name : OptionName) : Bool := a.options.any (·.1 = name)

/-- The last value of an option. -/
def value? (a : Arguments) (name : OptionName) : Option Text := a.options.reverse.lookup name

/-- All values of an option, in order. -/
def values (a : Arguments) (name : OptionName) : List Text :=
  a.options.filterMap fun (other, value) => if other = name then some value else none

/-! ## Taking options and files -/

/-- Takes an option with a value. -/
def take (a : Arguments) (o : OptionSpec) (v : ValueSpec) (value : Text) :
    Except Interruption Arguments :=
  if !v.repeatable && a.has o.name then .error (.error .repeated)
  else
    match v.kind.problem? value with
    | some e => .error (.error e)
    | none => .ok { a with options := a.options ++ [(o.name, value)] }

/-- Takes what is pending. -/
def settle (a : Arguments) : Except Interruption Arguments :=
  let a' := { a with pending := none }
  match a.pending with
  | none => .ok a'
  | some (.awaited _) => .error (.error .invalidValue)
  | some (.given o value) =>
    match o.takes with
    | some v => a'.take o v value
    | none => .ok a'
  | some (.files paths) =>
    if paths.any (·.isEmpty) then .error (.error .invalidValue)
    else .ok { a' with files := a.files ++ paths }

/-- Takes a flag of the command. -/
def raise (a : Arguments) (command : Option Command) (o : OptionSpec) :
    Except Interruption Arguments := do
  let a ← a.settle
  if o.name = .help then .error (.help command)
  else if o.name = .version then .error .version
  else if a.has o.name then .error (.error .repeated)
  else .ok { a with options := a.options ++ [(o.name, [])] }

/-- Takes an option with a value from the same argument. -/
def attach (a : Arguments) (o : OptionSpec) (v : ValueSpec) (value : Text) :
    Except Interruption Arguments := do
  (← a.settle).take o v value

/-- Waits for the value of an option. -/
def await (a : Arguments) (o : OptionSpec) : Except Interruption Arguments := do
  return { ← a.settle with pending := some (.awaited o) }

/-- Adds a file. -/
def addFile (a : Arguments) (path : Text) : Except Interruption Arguments :=
  match a.pending with
  | some (.files paths) => .ok { a with pending := some (.files (paths ++ [path])) }
  | _ => a.settle.map fun a => { a with pending := some (.files [path]) }

/-! ## Reading arguments -/

/-- Reads an argument behind its two dashes. -/
def readLong (a : Arguments) (command : Option Command) (specs : List OptionSpec) (body : Text) :
    Except Interruption Arguments :=
  let (name, value) :=
    match body.splitAtFirst? "=" with
    | some (name, value) => (name, some value)
    | none => (body, none)
  match specs.find? (·.hasLongName name) with
  | none => .error (.error .unknownOption)
  | some o =>
    match o.takes, value with
    | some v, some value => a.attach o v value
    | some _, none => a.await o
    | none, some _ => .error (.error .unneededValue)
    | none, none => a.raise command o

/-- Reads an argument behind its single dash. -/
def readShort (a : Arguments) (command : Option Command) (specs : List OptionSpec) :
    Text → Except Interruption Arguments
  | [] => .ok a
  | c :: rest =>
    match specs.find? (·.letter = some c) with
    | none => .error (.error .unknownOption)
    | some o =>
      match o.takes with
      | none =>
        match a.raise command o with
        | .error e => .error e
        | .ok a => a.readShort command specs rest
      | some v =>
        match rest with
        | [] => a.await o
        | '=' :: value => a.attach o v value
        | value => a.attach o v value

/-- The option that waits for its value. -/
def awaited? (a : Arguments) : Option OptionSpec :=
  match a.pending with
  | some (.awaited o) => some o
  | _ => none

/-- Reads an argument that is an option or the value that one waits for; any other is left to
the caller. -/
def readOption? (a : Arguments) (command : Option Command) (specs : List OptionSpec)
    (argument : Text) : Option (Except Interruption Arguments) :=
  let word :=
    a.awaited?.map fun o => .ok { a with pending := some (.given o argument) }
  match argument with
  | '-' :: '-' :: body => some (a.readLong command specs body)
  | '-' :: c :: rest =>
    if a.awaited?.any (·.takesInteger) && looksNumeric (c :: rest) then word
    else some (a.readShort command specs (c :: rest))
  | _ => word

/-- Reads the arguments of a command; with `plain` all of them are files. -/
def readFrom (a : Arguments) (command : Command) (plain : Bool) :
    List Text → Except Interruption Arguments
  | [] => a.settle
  | argument :: rest =>
    if plain then
      match a.addFile argument with
      | .error e => .error e
      | .ok a => a.readFrom command true rest
    else if argument = "--".toList then a.readFrom command true rest
    else
      match (a.readOption? (some command) command.options argument).getD (a.addFile argument) with
      | .error e => .error e
      | .ok a => a.readFrom command false rest

end Arguments

end CatalogLint
