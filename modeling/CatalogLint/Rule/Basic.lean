import CatalogLint.Catalog.Obsolete
import CatalogLint.Disk.Path
import CatalogLint.Rule.CommentStart
import CatalogLint.Rule.Limits
import CatalogLint.Rule.MetadataDemand
import CatalogLint.Rule.Translation

/-!
# Rules

The rules that catalogues are held to. `Rule.inspect` applies a rule to the lines of one
catalogue; it reads nothing else and writes nothing.
-/

namespace CatalogLint

/-- A rule for catalogues. -/
inductive Rule where
  /-- No obsolete messages. -/
  | noObsolete
  /-- No fuzzy messages. -/
  | noFuzzy
  /-- No untranslated messages, or enough translated ones. -/
  | translated (requirement : Option Translation.Requirement)
  /-- Not too many messages and lines. -/
  | limited (limits : Limits)
  /-- Metadata as demanded. -/
  | metadata (demand : MetadataDemand)
  /-- Extracted comments without a certain start. -/
  | comments (start : CommentStart) (dryRun : Bool)
  deriving DecidableEq, Repr

namespace Rule

/-- The name of a rule, the same for all its variants. -/
def name : Rule → Text
  | noObsolete => "obsolete-messages"
  | noFuzzy => "fuzzy-messages"
  | translated _ => "untranslated-messages"
  | limited _ => "check-entries"
  | metadata _ => "check-metadata"
  | comments _ _ => "lreplace-extracted-comments"

/-- One violation with the same message at each of the lines. -/
def violationsAt (message : Text) (lines : List Nat) : Inspection :=
  .ofViolations (lines.map fun n => { line := some n, message })

/-- Applies a rule to the lines of a catalogue. -/
def inspect : Rule → List Text → Inspection
  | noObsolete, lines => violationsAt "Found obsolete message" (Obsolete.runs lines)
  | noFuzzy, lines => violationsAt "Found fuzzy message" (numbersWhere Line.isFuzzy 1 lines)
  | translated requirement, lines => Translation.inspect requirement lines
  | limited limits, lines => limits.inspect lines
  | metadata demand, lines => demand.inspect lines
  | comments start dryRun, lines => start.inspect dryRun lines

/-- The path of a catalogue in diagnostics: as it was given, and absolute for the rule on
sizes. -/
def shownPath (rule : Rule) (directory : Location) (path : Text) : Text :=
  match rule with
  | limited _ => (Path.absolute directory path).render
  | _ => path

theorem shownPath_limited (limits : Limits) (directory : Location) (path : Text) :
    (limited limits).shownPath directory path = (Path.absolute directory path).render := rfl

theorem shownPath_of_ne {rule : Rule} (h : ∀ limits, rule ≠ limited limits) (directory : Location)
    (path : Text) : rule.shownPath directory path = path := by
  cases rule with
  | limited limits => exact absurd rfl (h limits)
  | _ => rfl

end Rule

end CatalogLint
