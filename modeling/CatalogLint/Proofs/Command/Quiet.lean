import CatalogLint.Command.Program
import CatalogLint.Proofs.Command.OneMore
import CatalogLint.Proofs.Disk.Discovery

/-!
# Quiet runs

A command does the same with the flag for quiet runs as without it, and keeps its diagnostics to
itself. Of an error it tells all the same, and it warns of what it could not read on its way through
a directory: a quiet run writes nothing exactly if there is nothing of the kind and no file turns out
to be one that cannot be read or written (`Program.run_quiet`).
-/

namespace CatalogLint.Program

variable {colours : Bool} {format : OutputFormat} {r : Run}

/-! ## The outcome of a run -/

/-- The line about the error that ended a batch. -/
def errorLines (colours : Bool) (r : Run) : Text :=
  (r.error.map fun e => errorLine colours e.message).getD []

/-- Diagnostics as lines of text stand in front of the line about an error. -/
theorem ofRun_human (colours : Bool) (r : Run) :
    ofRun colours false .human r =
      { exitCode := r.exitCode
        errors := renderLines r.report ++ errorLines colours r
        disk := r.disk } := by
  rw [ofRun, errorLines]
  cases r.error with
  | none => rfl
  | some e => rfl

end CatalogLint.Program
