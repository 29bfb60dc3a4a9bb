import CatalogLint.Report.Diagnostic

/-!
# Reports

A report gathers the diagnostics of a batch of catalogues and the verdict on it. A violation is
a diagnostic that fails the batch, a notice one that does not, and a batch can fail without
either.
-/

namespace CatalogLint

/-- The result of a batch. -/
structure Report where
  failed : Bool := false
  /-- The diagnostics, in the order in which they were made. -/
  diagnostics : List Diagnostic := []
  deriving DecidableEq, Repr

namespace Report

/-- Fails the batch. -/
def fail (r : Report) : Report := { r with failed := true }

/-- Fails the batch where a condition holds. -/
def failIf (r : Report) (condition : Bool) : Report := { r with failed := r.failed || condition }

/-- Adds a diagnostic and leaves the verdict as it is. -/
def notice (r : Report) (d : Diagnostic) : Report :=
  { r with diagnostics := r.diagnostics ++ [d] }

/-- Adds a diagnostic that fails the batch. -/
def violation (r : Report) (d : Diagnostic) : Report := (r.notice d).fail

/-- Adds diagnostics and leaves the verdict as it is. -/
def notices (r : Report) (ds : List Diagnostic) : Report :=
  { r with diagnostics := r.diagnostics ++ ds }

/-- The exit code for the verdict. -/
def exitCode (r : Report) : Nat := if r.failed then 1 else 0

/-- The diagnostics as a JSON array. -/
def toJson (r : Report) : Json := .array (r.diagnostics.map Diagnostic.toJson)

end Report

end CatalogLint
