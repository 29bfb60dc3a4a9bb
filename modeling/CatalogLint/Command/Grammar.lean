import CatalogLint.Text.Basic

/-!
# Commands and their options

Each command has a table of options. An option has a long name behind two dashes and mostly a
letter behind one; it is a flag, or takes a value. The table of a command decides how its
arguments are read and what its usage text says.
-/

namespace CatalogLint

/-- The commands. -/
inductive Command where
  | obsolete
  | fuzzy
  | untranslated
  | entries
  | metadata
  | comments
  | stats
  deriving DecidableEq, Repr

/-- The options of all commands. -/
inductive OptionName where
  | quiet
  | output
  | scratch
  | minimum
  | maxMessages
  | maxLines
  | header
  | value
  | standardHeaders
  | noMetadata
  | removeMetadata
  | dryRun
  | mark
  | replacement
  | translators
  | help
  | version
  deriving DecidableEq, Repr

/-- Which values an option takes. -/
inductive ValueKind where
  /-- Any text. -/
  | text
  /-- A text that is not empty. -/
  | path
  /-- An integer of 64 bits. A value of its own may start with a minus sign. -/
  | integer
  /-- The name of an output format. -/
  | format
  deriving DecidableEq, Repr

/-- The value of an option. -/
structure ValueSpec where
  kind : ValueKind := .text
  /-- What stands for the value in the usage text. -/
  label : Text
  /-- Whether the option may be given more than once. -/
  repeatable : Bool := false
  deriving DecidableEq, Repr

/-- An option. -/
structure OptionSpec where
  name : OptionName
  letter : Option Char := none
  long : Text
  /-- A second long name. -/
  secondLong : Option Text := none
  /-- The value; a flag has none. -/
  takes : Option ValueSpec := none
  /-- What the usage text says of the option. -/
  description : Text
  deriving DecidableEq, Repr

namespace OptionSpec

/-- Whether a long name is one of the option. -/
def hasLongName (o : OptionSpec) (name : Text) : Bool := o.long = name || o.secondLong = some name

/-- Whether the value of the option is an integer. -/
def takesInteger (o : OptionSpec) : Bool := o.takes.any (·.kind = .integer)

/-! ## The options -/

def quiet : OptionSpec :=
  { name := .quiet, letter := some 'q', long := "quiet"
    description := "Quiet mode: do not report any error, only set the exit code" }

def output : OptionSpec :=
  { name := .output, letter := some 'o', long := "output"
    takes := some { kind := .format, label := "OUTPUT" }
    description := "Output format [default: human] [possible values: human, json]" }

def scratch : OptionSpec :=
  { name := .scratch, long := "scratch-dir"
    takes := some { kind := .path, label := "DIR" }
    description := "Directory used to write temporary files before replacing checked files [default: system temporary directory]" }

def minimum : OptionSpec :=
  { name := .minimum, letter := some 'm', long := "min", takes := some { label := "N|N%" }
    description := "Minimum number of translated messages in each file, or percentage of messages if it ends with `%`" }

def maxMessages : OptionSpec :=
  { name := .maxMessages, letter := some 'm', long := "max-messages"
    takes := some { kind := .integer, label := "NUMBER" }
    description := "Maximum number of messages in each file (the header entry is not counted)" }

def maxLines : OptionSpec :=
  { name := .maxLines, letter := some 'l', long := "max-lines"
    takes := some { kind := .integer, label := "NUMBER" }
    description := "Maximum number of lines in each file" }

def header : OptionSpec :=
  { name := .header, letter := some 'h', long := "header"
    takes := some { label := "NAME", repeatable := true }
    description := "Name of a header to check, followed by its value with `--value` (can be given multiple times)" }

def value : OptionSpec :=
  { name := .value, letter := some 'v', long := "value"
    takes := some { label := "REGEX", repeatable := true }
    description := "Regular expression the value of the previous `--header` must match at its beginning" }

def standardHeaders : OptionSpec :=
  { name := .standardHeaders, letter := some 's', long := "standard-headers"
    description := "Use a standard set of headers (each one can be overridden with `--header` and `--value`)" }

def noMetadata : OptionSpec :=
  { name := .noMetadata, letter := some 'n', long := "no-metadata"
    description := "Files must not have metadata" }

def removeMetadata : OptionSpec :=
  { name := .removeMetadata, letter := some 'r', long := "remove-metadata"
    secondLong := some "remove"
    description := "Remove metadata from files that have it [aliases: --remove]" }

def dryRun : OptionSpec :=
  { name := .dryRun, letter := some 'd', long := "dry-run"
    description := "Do not replace comments, only report where they would be replaced" }

def mark : OptionSpec :=
  { name := .mark, letter := some 'm', long := "match", takes := some { label := "MATCH" }
    description := "The string to match at the beginning of extracted comments" }

def replacement : OptionSpec :=
  { name := .replacement, letter := some 'r', long := "replacement"
    takes := some { label := "REPL" }
    description := "The replacement of the matching string" }

def translators : OptionSpec :=
  { name := .translators, long := "django-translators"
    description := "Remove the \"Translators:\" prefix of extracted comments, with the whitespace after it" }

def help : OptionSpec :=
  { name := .help, letter := some 'h', long := "help"
    description := "Print help (see more with '--help')" }

/-- The help option of a command in which another option has its letter. -/
def longHelp : OptionSpec := { name := .help, long := "help", description := "Print help" }

def version : OptionSpec :=
  { name := .version, letter := some 'V', long := "version", description := "Print version" }

end OptionSpec

namespace Command

/-- All commands. -/
def all : List Command := [obsolete, fuzzy, untranslated, entries, metadata, comments, stats]

/-- The name of a command. -/
def name : Command → Text
  | obsolete => "obsolete-messages"
  | fuzzy => "fuzzy-messages"
  | untranslated => "untranslated-messages"
  | entries => "check-entries"
  | metadata => "check-metadata"
  | comments => "lreplace-extracted-comments"
  | stats => "stats"

/-- The command with a name. -/
def ofName? (name : Text) : Option Command := all.find? (·.name = name)

/-- What a command does. -/
def about : Command → Text
  | obsolete => "Check that files have no obsolete messages"
  | fuzzy => "Check that files have no fuzzy messages"
  | untranslated =>
    "Check that files have no untranslated messages (or a minimum of translated messages)"
  | entries => "Check the maximum number of messages or lines of files"
  | metadata => "Check the metadata headers of files (or their absence)"
  | comments => "Replace the beginning of extracted comments"
  | stats => "Display statistics about files"

/-- The options of a command, as its usage text lists them. -/
def shownOptions : Command → List OptionSpec
  | obsolete => [.quiet, .output, .help]
  | fuzzy => [.quiet, .output, .help]
  | untranslated => [.quiet, .output, .minimum, .help]
  | entries => [.quiet, .output, .maxMessages, .maxLines, .help]
  | metadata =>
    [.quiet, .output, .header, .value, .standardHeaders, .noMetadata, .removeMetadata, .longHelp]
  | comments => [.quiet, .output, .dryRun, .mark, .replacement, .translators, .help]
  | stats => [.output, .help]

/-- The options of a command. The scratch directory can be given to all of them. -/
def options (c : Command) : List OptionSpec := c.shownOptions ++ [.scratch]

/-- The options in front of a command. -/
def leadingOptions : List OptionSpec := [.scratch, .help, .version]

end Command

end CatalogLint
