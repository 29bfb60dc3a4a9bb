import CatalogLint.Report.Diagnostic

/-!
# Inspections

What comes of applying a rule to the lines of a catalogue: a verdict, findings and, from a rule
that changes catalogues, the lines that the catalogue is to have. Findings that report a change
as done wait until it is written; they fail the batch.
-/

namespace CatalogLint

/-- New lines for a catalogue. -/
structure Rewrite where
  lines : List Text
  /-- The findings to report once the lines are written. -/
  done : List Finding := []
  deriving DecidableEq, Repr

/-- What came of applying a rule to a catalogue. -/
structure Inspection where
  /-- Whether the catalogue breaks the rule. -/
  failed : Bool
  findings : List Finding
  rewrite : Option Rewrite := none
  deriving DecidableEq, Repr

namespace Inspection

/-- Nothing was found. -/
def pass : Inspection := { failed := false, findings := [] }

/-- Each finding is a violation. -/
def ofViolations (findings : List Finding) : Inspection :=
  { failed := !findings.isEmpty, findings }

end Inspection

/-- The numbers of the lines that satisfy `p`, where the first line has the number `n`. -/
def numbersWhere (p : Text → Bool) (n : Nat) : List Text → List Nat
  | [] => []
  | line :: rest =>
    if p line then n :: numbersWhere p (n + 1) rest else numbersWhere p (n + 1) rest

end CatalogLint
