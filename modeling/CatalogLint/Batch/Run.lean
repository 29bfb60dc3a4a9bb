import CatalogLint.Disk.Find
import CatalogLint.Disk.Replace
import CatalogLint.Report.Basic
import CatalogLint.Rule.Basic

/-!
# Running a rule

A rule is applied to the catalogues that a list of paths stands for, one after the other. Each
is read, inspected and, if the rule rewrites it, replaced on disk before the next is read. The
first error ends the batch; what was reported and written up to then stays.

* `Rule.apply` does one catalogue whose lines are known.
* `Rule.run` does a batch.
-/

namespace CatalogLint

/-- An error and the path of the file that it is about. -/
structure FileError where
  path : Text
  cause : DiskError
  deriving DecidableEq, Repr

/-- The wording of an error of a file. -/
def FileError.message (e : FileError) : Text := e.path ++ ": " ++ e.cause.message

/-- What is left after a rule was applied to one catalogue. -/
structure Application where
  disk : Disk
  report : Report
  /-- Why the catalogue could not be written. -/
  error : Option DiskError := none
  deriving DecidableEq, Repr

/-- What is left after a batch. -/
structure Run where
  disk : Disk
  report : Report
  /-- What ended the batch before its end. -/
  error : Option FileError := none
  deriving DecidableEq, Repr

namespace Rule

/-- The diagnostics of findings in the catalogue at `path`. -/
def diagnostics (rule : Rule) (directory : Location) (path : Text) (findings : List Finding) :
    List Diagnostic :=
  findings.map (·.diagnostic (rule.shownPath directory path) rule.name)

/-- Applies a rule to the catalogue at `path` with the given lines. A rewritten catalogue is
replaced by way of the scratch directory. -/
def apply (rule : Rule) (scratch path : Text) (lines : List Text) (disk : Disk)
    (report : Report) : Application :=
  let inspection := rule.inspect lines
  let diagnostics := rule.diagnostics disk.workingDirectory path
  let report := (report.notices (diagnostics inspection.findings)).failIf inspection.failed
  match inspection.rewrite with
  | none => { disk, report }
  | some new =>
    let replaced := disk.replace scratch path new.lines.flatten
    match replaced.error with
    | some e => { disk := replaced.disk, report, error := some e }
    | none =>
      { disk := replaced.disk
        report := (report.notices (diagnostics new.done)).failIf (!new.done.isEmpty) }

/-- Applies a rule to the files at the given paths. -/
def runFiles (rule : Rule) (scratch : Text) (disk : Disk) (report : Report) :
    List Text → Run
  | [] => { disk, report }
  | path :: rest =>
    match disk.read path with
    | .error cause => { disk, report, error := some { path, cause } }
    | .ok text =>
      let done := rule.apply scratch path text.lines disk report
      match done.error with
      | some cause => { disk := done.disk, report := done.report, error := some { path, cause } }
      | none => rule.runFiles scratch done.disk done.report rest

/-- Applies a rule to the catalogues that a list of paths stands for. -/
def run (rule : Rule) (scratch : Text) (paths : List Text) (disk : Disk) : Run :=
  rule.runFiles scratch disk {} (disk.find paths)

end Rule

/-- The exit code for a batch: that of its report unless an error ended it. -/
def Run.exitCode (r : Run) : Nat := if r.error.isSome then 2 else r.report.exitCode

end CatalogLint
