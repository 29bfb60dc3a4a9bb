import CatalogLint.Command.Grammar

/-!
# Usage texts

The usage text of a command: what it does, how it is called, and its options with their names
in a column of its own.
-/

namespace CatalogLint

namespace OptionSpec

/-- The names of an option and what stands for its value. -/
def names (o : OptionSpec) : Text :=
  (match o.letter with
    | some c => ['-', c, ',', ' ']
    | none => Text.fill ' ' 4) ++
    "--" ++ o.long ++
    (match o.takes with
    | some v => " <" ++ v.label ++ ">"
    | none => [])

/-- The line on an option, where `width` characters are for the names. -/
def usageLine (width : Nat) (o : OptionSpec) : Text :=
  "  " ++ o.names ++ Text.fill ' ' (width - o.names.length) ++ "  " ++ o.description ++ "\n"

end OptionSpec

namespace Command

/-- The usage text of a command. -/
def usage (c : Command) : Text :=
  let width := c.shownOptions.foldl (fun n o => max n o.names.length) 0
  c.about ++ "\n\nUsage: " ++ c.name ++ " [OPTIONS] [FILES]...\n\n" ++
    "Arguments:\n  [FILES]...  List of files or directories\n\nOptions:\n" ++
    c.shownOptions.flatMap (OptionSpec.usageLine width)

/-- The line on a command, where `width` characters are for its name. -/
def overviewLine (width : Nat) (c : Command) : Text :=
  "  " ++ c.name ++ Text.fill ' ' (width - c.name.length) ++ "  " ++ c.about ++ "\n"

/-- The list of all commands and of the options in front of them. -/
def overview : Text :=
  let width := all.foldl (fun n c => max n c.name.length) 0
  let optionWidth := leadingOptions.foldl (fun n o => max n o.names.length) 0
  "Usage: [OPTIONS] <COMMAND>\n\nCommands:\n" ++ all.flatMap (overviewLine width) ++
    "\nOptions:\n" ++ leadingOptions.flatMap (OptionSpec.usageLine optionWidth)

end Command

end CatalogLint
