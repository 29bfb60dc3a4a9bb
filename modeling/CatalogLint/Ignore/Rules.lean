import CatalogLint.Ignore.Glob
import CatalogLint.Text.Blank
import CatalogLint.Text.Lines

/-!
# Ignore rules

An ignore file has a rule on each line: a glob of the entries to skip or, behind an
exclamation mark, to keep. The paths that it speaks of start at the directory of the file.

* A rule with a slash, other than one at its end, describes whole paths; any other describes
  names in all directories.
* A rule with a slash at its end speaks of directories alone.
* Of the rules that describe an entry the last decides: `Ignore.verdict?`.
-/

namespace CatalogLint.Ignore

/-- A rule of an ignore file. -/
structure Rule where
  pattern : Pattern
  /-- Whether the rule keeps what it describes. -/
  keeps : Bool
  /-- Whether the rule speaks of directories alone. -/
  directoriesOnly : Bool
  deriving DecidableEq, Repr

/-- What a rule says of an entry. -/
inductive Verdict where
  | skip
  | keep
  deriving DecidableEq, Repr

namespace Rule

/-- The front of a glob that looks in all directories. -/
def everywhere : Text := "**/"

/-- Whether a glob names its directories itself. -/
def isRooted (glob : Text) : Bool :=
  glob.contains '/' || glob = "**".toList

/-- The glob of whole paths for a glob of a rule. What ends in `/**` describes the entries
below a directory and not the directory. -/
def wholeGlob (anchored : Bool) (glob : Text) : Text :=
  let glob := if anchored || isRooted glob then glob else everywhere ++ glob
  if glob.endsWith "/**" then glob ++ "/*" else glob

/-- Removes a slash from the end of a glob, and a backslash in front of it. -/
def dropSlash? (glob : Text) : Option Text :=
  if glob.getLast? = some '/' then some (Text.dropLastIf '\\' glob.dropLast) else none

/-- The rule of a glob. -/
def ofGlob? (keeps anchored : Bool) (glob : Text) : Option Rule :=
  let directories := dropSlash? glob
  (Glob.pattern? (wholeGlob anchored (directories.getD glob))).map fun pattern =>
    { pattern, keeps, directoriesOnly := directories.isSome }

/-- The rule of a glob that may start with the slash that anchors it. -/
def ofAnchored? (keeps : Bool) : Text → Option Rule
  | '/' :: glob => ofGlob? keeps true glob
  | glob => ofGlob? keeps false glob

/-- The rule of a line. A backslash takes their meaning from a leading exclamation mark and
number sign, and from a space at the end. -/
def ofLine? (line : Text) : Option Rule :=
  let line := if line.endsWith "\\ " then line else line.trimEnd
  match line with
  | [] => none
  | '#' :: _ => none
  | '\\' :: '!' :: _ => ofGlob? false false line.tail
  | '\\' :: '#' :: _ => ofGlob? false false line.tail
  | '!' :: rest => ofAnchored? true rest
  | _ => ofAnchored? false line

/-- Whether the rule speaks of an entry. -/
def applies (rule : Rule) (path : Text) (directory : Bool) : Bool :=
  (directory || !rule.directoriesOnly) && Glob.matchesPath rule.pattern path

end Rule

/-- The byte order mark that a file may start with. -/
def byteOrderMark : Char := '\ufeff'

/-- A line without its line ending, a line feed with or without a carriage return. -/
def dropEnding (line : Text) : Text :=
  if line.getLast? = some '\n' then Text.dropLastIf '\r' line.dropLast else line

/-- The lines of an ignore file without their line endings and without byte order marks in
front of the first. -/
def lines (text : Text) : List Text :=
  (Text.lines (text.dropWhile (· = byteOrderMark))).map dropEnding

/-- The rules of an ignore file. A line that is no rule is passed over. -/
def rules (text : Text) : List Rule := (lines text).filterMap Rule.ofLine?

/-- What the rules say of the entry at a path. -/
def verdict? (rules : List Rule) (path : Text) (directory : Bool) : Option Verdict :=
  (rules.reverse.find? (·.applies path directory)).map fun rule =>
    if rule.keeps then .keep else .skip

end CatalogLint.Ignore
