import CatalogLint.Batch.Statistics
import CatalogLint.Command.Invocation
import CatalogLint.Command.Usage
import CatalogLint.Rule.Options
import CatalogLint.Text.Style

/-!
# The program

The program as a function of its environment, its arguments and the disk. Its result is what it
writes to its two outputs, its exit code, and the disk that it leaves.

The exit code is 0 where all is well, 1 where a catalogue breaks the rule or the options make
none, and 2 where a file cannot be read or written or the arguments cannot be read. A quiet run
keeps diagnostics to itself; errors are written all the same, and so are warnings about what could
not be read when the catalogues in a directory were looked for.

A directory that cannot be listed, or an entry that cannot be read, is met only on the way through a
directory. Else the program runs as a process to which the system refuses none of its calls, on a
disk where each file has one location: so do `Disk.read` and `Disk.replace`.
-/

namespace CatalogLint

/-- The environment of the program: its variables with their values. -/
structure Environment where
  values : List (Text × Text) := []
  deriving DecidableEq, Repr

/-- What the program leaves. -/
structure Outcome where
  exitCode : Nat
  output : Text := []
  errors : Text := []
  disk : Disk
  deriving DecidableEq, Repr

namespace Environment

/-- The value of a variable. -/
def get? (env : Environment) (name : Text) : Option Text := env.values.lookup name

/-- Whether texts are written in colours: only where that is forced. -/
def colours (env : Environment) : Bool :=
  match env.get? "CLICOLOR_FORCE" with
  | some value => value != "0".toList
  | none => false

/-- The scratch directory that the environment gives. -/
def scratch? (env : Environment) : Option Text := env.get? "PO_HOOKS_SCRATCH_DIR"

/-- The directory for temporary files. -/
def temporary (env : Environment) : Text := (env.get? "TMPDIR").getD "/tmp"

end Environment

namespace Program

/-- An error as a line of text. -/
def errorLine (colours : Bool) (message : Text) : Text :=
  Style.paint colours { bold := true, colour := some .brightRed } "Error" ++ ": " ++ message ++
    "\n"

/-- A warning about what a walk could not read. -/
def warningLine (colours : Bool) (e : Disk.WalkError) : Text :=
  Style.paint colours { colour := some .yellow } "Warning" ++ ": could not read entry: " ++
    e.message ++ "\n"

/-- An outcome with the warnings of the walks in front of all that goes to the error output. -/
def withWarnings (colours : Bool) (walkErrors : List Disk.WalkError) (o : Outcome) : Outcome :=
  { o with errors := walkErrors.flatMap (warningLine colours) ++ o.errors }

@[simp]
theorem exitCode_withWarnings (colours : Bool) (walkErrors : List Disk.WalkError) (o : Outcome) :
    (withWarnings colours walkErrors o).exitCode = o.exitCode := rfl

@[simp]
theorem disk_withWarnings (colours : Bool) (walkErrors : List Disk.WalkError) (o : Outcome) :
    (withWarnings colours walkErrors o).disk = o.disk := rfl

/-- The scratch directory: that of the arguments, of the environment, or the one for temporary
files. -/
def scratchFor (env : Environment) (invocation : Invocation) : Text :=
  (invocation.scratch.or env.scratch?).getD env.temporary

/-- Whether an empty variable stands for the scratch directory, which is an error. The options in
front of the command and those behind it each take the variable where they lack their own. -/
def hasEmptyScratch (env : Environment) (invocation : Invocation) : Bool :=
  env.scratch? == some [] && !invocation.scratchTwice

/-- The diagnostics as lines of text. -/
def renderLines (report : Report) : Text :=
  report.diagnostics.flatMap fun d => d.render ++ "\n"

/-- The outcome of a run of a rule. Diagnostics go to the error output as lines of text, or to
the output as JSON. -/
def ofRun (colours quiet : Bool) (format : OutputFormat) (r : Run) : Outcome :=
  let error :=
    match r.error with
    | some e => errorLine colours e.message
    | none => []
  let (output, lines) :=
    match quiet, format with
    | true, _ => ([], [])
    | false, .human => ([], renderLines r.report)
    | false, .json => (r.report.toJson.render ++ "\n", [])
  { exitCode := r.exitCode, output, errors := lines ++ error, disk := r.disk }

/-- The outcome of options that make no rule. Where options are missing the usage text is
written. -/
def ofOptionError (colours : Bool) (command : Command) (disk : Disk) (e : OptionError) :
    Outcome :=
  let errors :=
    match e with
    | .missingOptions => command.usage ++ "\n"
    | e => errorLine colours e.message
  { exitCode := 1, errors, disk }

/-- Counts the messages of catalogues and writes the tallies. -/
def statistics (colours : Bool) (format : OutputFormat) (files : List Text) (disk : Disk) :
    Outcome :=
  let (tallies, error) := FileTally.readAll disk (disk.find files)
  let output :=
    match format with
    | .human => FileTally.renderTable colours tallies
    | .json => FileTally.renderJson tallies
  match error with
  | none => { exitCode := 0, output, disk }
  | some e => { exitCode := 2, output, errors := errorLine colours e.message, disk }

/-- Does what an invocation asks for. -/
def perform (env : Environment) (invocation : Invocation) (disk : Disk) : Outcome :=
  let warned := withWarnings env.colours (disk.walkErrors invocation.files)
  match invocation.task with
  | .stats => warned (statistics env.colours invocation.output invocation.files disk)
  | .check quiet options =>
    match options.rule with
    | .error e => ofOptionError env.colours invocation.command disk e
    | .ok rule =>
      warned <| ofRun env.colours quiet invocation.output
        (rule.run (scratchFor env invocation) invocation.files disk)

/-- The name and version of the program. -/
def versionLine : Text := "po-hooks 0.1.0-dev\n"

/-- The outcome of arguments that ask for no command. -/
def ofInterruption (disk : Disk) : Interruption → Outcome
  | .help none => { exitCode := 0, output := Command.overview, disk }
  | .help (some command) => { exitCode := 0, output := command.usage, disk }
  | .version => { exitCode := 0, output := versionLine, disk }
  | .error .noArguments => { exitCode := 2, errors := Command.overview, disk }
  | .error e => { exitCode := 2, errors := "error: " ++ e.message ++ "\n", disk }

/-- Runs the program. -/
def run (env : Environment) (arguments : List Text) (disk : Disk) : Outcome :=
  match Invocation.ofArguments arguments with
  | .error i => ofInterruption disk i
  | .ok invocation =>
    if hasEmptyScratch env invocation then ofInterruption disk (.error .invalidValue)
    else perform env invocation disk

end Program

end CatalogLint
