import CatalogLint.Command.Arguments
import CatalogLint.Rule.Options

/-!
# Invocations

What the arguments of the program ask for: options, a command, and the options and files of
that command. The scratch directory can be given in front of the command and behind it, and the
one behind it counts.

* `Invocation.ofArguments` reads the arguments of the program.
-/

namespace CatalogLint

/-- How results are written. -/
inductive OutputFormat where
  | human
  | json
  deriving DecidableEq, Repr

/-- What a command does with the files. -/
inductive Task where
  /-- Holds them to a rule. -/
  | check (quiet : Bool) (options : RuleOptions)
  /-- Counts their messages. -/
  | stats
  deriving DecidableEq, Repr

/-- What the arguments ask for. -/
structure Invocation where
  command : Command
  task : Task
  files : List Text
  output : OutputFormat
  scratch : Option Text
  /-- Whether the scratch directory is given both in front of the command and behind it. -/
  scratchTwice : Bool
  deriving DecidableEq, Repr

namespace Arguments

/-- The options of the rule on metadata. -/
def metadataOptions (a : Arguments) : MetadataOptions :=
  { headers := a.values .header
    values := a.values .value
    standardHeaders := a.has .standardHeaders
    noMetadata := a.has .noMetadata
    removeMetadata := a.has .removeMetadata }

/-- The options of the rule on extracted comments. -/
def commentOptions (a : Arguments) : CommentOptions :=
  { mark := a.value? .mark
    replacement := a.value? .replacement
    translators := a.has .translators
    dryRun := a.has .dryRun }

/-- The limits of the rule on sizes. -/
def limits (a : Arguments) : Limits :=
  { messages := (a.value? .maxMessages).bind readInteger64?
    lines := (a.value? .maxLines).bind readInteger64? }

/-- The task of a command. -/
def task (a : Arguments) : Command → Task
  | .obsolete => .check (a.has .quiet) .obsolete
  | .fuzzy => .check (a.has .quiet) .fuzzy
  | .untranslated => .check (a.has .quiet) (.untranslated (a.value? .minimum))
  | .entries => .check (a.has .quiet) (.entries a.limits)
  | .metadata => .check (a.has .quiet) (.metadata a.metadataOptions)
  | .comments => .check (a.has .quiet) (.comments a.commentOptions)
  | .stats => .stats

/-- The output format. -/
def output (a : Arguments) : OutputFormat :=
  if a.value? .output = some "json".toList then .json else .human

/-- The invocation of a command, where `leading` are the arguments in front of it. -/
def invocation (leading a : Arguments) (command : Command) : Invocation :=
  { command
    task := a.task command
    files := a.files
    output := a.output
    scratch := (a.value? .scratch).or (leading.value? .scratch)
    scratchTwice := a.has .scratch && leading.has .scratch }

end Arguments

namespace Invocation

/-- The word that asks for usage texts. -/
def helpWord : Text := "help"

/-- Whether a word is a command or asks for a usage text. -/
def isCommandWord (word : Text) : Bool := word = helpWord || (Command.ofName? word).isSome

/-- The usage text that the words behind `help` ask for. -/
def helpFor : List Text → Interruption
  | [] => .help none
  | [word] =>
    if isCommandWord word then .help (Command.ofName? word) else .error .unknownCommand
  | _ :: _ :: _ => .error .unknownCommand

/-- What is wrong with the end of arguments without a command. -/
def withoutCommand (leading : Arguments) : Interruption :=
  match leading.settle with
  | .error e => e
  | .ok a => .error (if a.options.isEmpty then .noArguments else .noCommand)

/-- Reads the arguments of a command behind others. The ones in front of it are settled last. -/
def readCommand (leading : Arguments) (command : Command) (rest : List Text) :
    Except Interruption Invocation := do
  let a ← ({} : Arguments).readFrom command false rest
  let leading ← leading.settle
  return leading.invocation a command

/-- Reads the arguments of the program behind those read already. Behind `--` no command is
expected. -/
def readFrom (leading : Arguments) : List Text → Except Interruption Invocation
  | [] => .error (withoutCommand leading)
  | word :: rest =>
    if leading.awaited?.isNone && word = helpWord then .error (helpFor rest)
    else
      match if leading.awaited?.isNone then Command.ofName? word else none with
      | some command => readCommand leading command rest
      | none =>
        if word = "--".toList then
          match rest with
          | [] => .error (withoutCommand leading)
          | word :: _ =>
            .error (.error (if isCommandWord word then .unknownOption else .unknownCommand))
        else
          match leading.readOption? none Command.leadingOptions word with
          | some (.ok a) => readFrom a rest
          | some (.error e) => .error e
          | none => .error (.error .unknownCommand)

/-- Reads the arguments of the program. -/
def ofArguments (arguments : List Text) : Except Interruption Invocation :=
  readFrom {} arguments

end Invocation

end CatalogLint
