import CatalogLint.Batch.Run

/-!
# One file after the other

What a rule leaves after one file, with a report of its own, is a `visit`. A batch visits its files
in turn, each on the disk that the one before left, puts their reports one behind the other and
ends with the first that fails (`runFiles_cons`). A batch of two lists of files is the batch of the
first and then, unless that failed, of the second (`runFiles_append`, `runFiles_append_of_error`);
it fails exactly if the visit to one of its files does (`error_runFiles_iff`).

What each visit keeps a batch keeps (`runFiles_induction`).
-/

namespace CatalogLint

namespace Report

/-- One report behind the other. -/
def append (r s : Report) : Report :=
  { failed := r.failed || s.failed, diagnostics := r.diagnostics ++ s.diagnostics }

instance : Append Report := ⟨append⟩

attribute [ext] Report

variable (r s : Report)

@[simp] theorem failed_append : (r ++ s).failed = (r.failed || s.failed) := rfl

@[simp] theorem diagnostics_append : (r ++ s).diagnostics = r.diagnostics ++ s.diagnostics := rfl

theorem diagnostics_append_ne_nil_iff :
    (r ++ s).diagnostics ≠ [] ↔ r.diagnostics ≠ [] ∨ s.diagnostics ≠ [] := by
  rw [diagnostics_append, Ne, List.append_eq_nil_iff, Classical.not_and_iff_not_or_not]

@[simp] theorem append_empty : r ++ ({} : Report) = r := by
  ext <;> simp

@[simp] theorem empty_append : ({} : Report) ++ s = s := rfl

theorem notices_append (ds : List Diagnostic) : (r ++ s).notices ds = r ++ s.notices ds := by
  ext <;> simp [notices]

theorem failIf_append (condition : Bool) : (r ++ s).failIf condition = r ++ s.failIf condition := by
  ext <;> simp [failIf, Bool.or_assoc]

end Report

namespace Rule

variable {rule : Rule} {scratch path : Text} {d : Disk}

/-! ## One file -/

/-- What is left after one file, with a report of its own. -/
def visit (rule : Rule) (scratch path : Text) (d : Disk) : Application :=
  match d.read path with
  | .error cause => { disk := d, report := {}, error := some cause }
  | .ok t => rule.apply scratch path t.lines d {}

/-- What a rule does does not depend on what was reported before. -/
theorem apply_eq_append (rule : Rule) (scratch path : Text) (lines : List Text) (d : Disk)
    (report : Report) :
    rule.apply scratch path lines d report =
      { disk := (rule.apply scratch path lines d {}).disk
        report := report ++ (rule.apply scratch path lines d {}).report
        error := (rule.apply scratch path lines d {}).error } := by
  have hfirst : ∀ ds condition,
      (report.notices ds).failIf condition =
        report ++ (({} : Report).notices ds).failIf condition := by
    intro ds condition
    rw [← Report.failIf_append, ← Report.notices_append, Report.append_empty]
  unfold apply
  cases hrewrite : (rule.inspect lines).rewrite with
  | none => simp only [hrewrite, hfirst]
  | some new =>
    cases herror : (d.replace scratch path new.lines.flatten).error with
    | some e => simp only [hrewrite, herror, hfirst]
    | none => simp only [hrewrite, herror, hfirst, Report.notices_append, Report.failIf_append]

/-! ## A batch -/

/-- A batch visits its first file and goes on unless that fails. -/
theorem runFiles_cons (rule : Rule) (scratch : Text) (d : Disk) (report : Report) (path : Text)
    (rest : List Text) :
    rule.runFiles scratch d report (path :: rest) =
      match (rule.visit scratch path d).error with
      | some cause =>
        { disk := (rule.visit scratch path d).disk
          report := report ++ (rule.visit scratch path d).report
          error := some { path, cause } }
      | none =>
        rule.runFiles scratch (rule.visit scratch path d).disk
          (report ++ (rule.visit scratch path d).report) rest := by
  rw [runFiles, visit]
  cases d.read path with
  | error cause =>
    dsimp only
    rw [Report.append_empty]
  | ok t =>
    have happly := apply_eq_append rule scratch path t.lines d report
    cases herror : (rule.apply scratch path t.lines d {}).error with
    | some cause => simp only [happly, herror]
    | none => simp only [happly, herror]

theorem runFiles_cons_of_error {report : Report} {cause : DiskError} {rest : List Text}
    (h : (rule.visit scratch path d).error = some cause) :
    rule.runFiles scratch d report (path :: rest) =
      { disk := (rule.visit scratch path d).disk
        report := report ++ (rule.visit scratch path d).report
        error := some { path, cause } } := by
  rw [runFiles_cons, h]

theorem runFiles_cons_of_ok {report : Report} {rest : List Text}
    (h : (rule.visit scratch path d).error = none) :
    rule.runFiles scratch d report (path :: rest) =
      rule.runFiles scratch (rule.visit scratch path d).disk
        (report ++ (rule.visit scratch path d).report) rest := by
  rw [runFiles_cons, h]

theorem runFiles_singleton (rule : Rule) (scratch path : Text) (d : Disk) :
    rule.runFiles scratch d {} [path] =
      { disk := (rule.visit scratch path d).disk
        report := (rule.visit scratch path d).report
        error := (rule.visit scratch path d).error.map ({ path, cause := · }) } := by
  cases h : (rule.visit scratch path d).error with
  | some cause =>
    rw [runFiles_cons_of_error h, Report.empty_append]
    rfl
  | none =>
    rw [runFiles_cons_of_ok h, Report.empty_append]
    rfl

/-- After the first part of a batch the second goes on with what it left. -/
theorem runFiles_append {report : Report} {before : List Text}
    (h : (rule.runFiles scratch d report before).error = none) (rest : List Text) :
    rule.runFiles scratch d report (before ++ rest) =
      rule.runFiles scratch (rule.runFiles scratch d report before).disk
        (rule.runFiles scratch d report before).report rest := by
  induction before generalizing d report with
  | nil => rfl
  | cons path before ih =>
    cases hvisit : (rule.visit scratch path d).error with
    | some cause =>
      rw [runFiles_cons_of_error hvisit] at h
      cases h
    | none =>
      rw [runFiles_cons_of_ok hvisit] at h
      rw [List.cons_append, runFiles_cons_of_ok hvisit, runFiles_cons_of_ok hvisit, ih h]

/-- A batch ends with the file that it fails at. -/
theorem runFiles_append_of_error {report : Report} {before : List Text}
    (h : (rule.runFiles scratch d report before).error ≠ none) (rest : List Text) :
    rule.runFiles scratch d report (before ++ rest) = rule.runFiles scratch d report before := by
  induction before generalizing d report with
  | nil => exact absurd rfl h
  | cons path before ih =>
    cases hvisit : (rule.visit scratch path d).error with
    | some cause => rw [List.cons_append, runFiles_cons_of_error hvisit, runFiles_cons_of_error hvisit]
    | none =>
      rw [runFiles_cons_of_ok hvisit] at h
      rw [List.cons_append, runFiles_cons_of_ok hvisit, runFiles_cons_of_ok hvisit, ih h]

/-- A batch fails at a file exactly if it gets there and the visit to it fails. -/
theorem error_runFiles_iff {report : Report} {paths : List Text} {e : FileError} :
    (rule.runFiles scratch d report paths).error = some e ↔
      ∃ before after, paths = before ++ e.path :: after ∧
        (rule.runFiles scratch d report before).error = none ∧
        (rule.visit scratch e.path (rule.runFiles scratch d report before).disk).error =
          some e.cause := by
  constructor
  · intro h
    induction paths generalizing d report with
    | nil => cases h
    | cons path rest ih =>
      cases hvisit : (rule.visit scratch path d).error with
      | some cause =>
        rw [runFiles_cons_of_error hvisit] at h
        cases h
        exact ⟨[], rest, rfl, rfl, hvisit⟩
      | none =>
        rw [runFiles_cons_of_ok hvisit] at h
        obtain ⟨before, after, rfl, hbefore, hcause⟩ := ih h
        refine ⟨path :: before, after, rfl, ?_⟩
        rw [runFiles_cons_of_ok hvisit]
        exact ⟨hbefore, hcause⟩
  · rintro ⟨before, after, rfl, hbefore, hcause⟩
    rw [runFiles_append hbefore, runFiles_cons_of_error hcause]

/-- What a batch reports is what was reported before, or what a visit reports that it gets to. -/
theorem mem_diagnostics_runFiles {report : Report} {paths : List Text} {g : Diagnostic}
    (hg : g ∈ (rule.runFiles scratch d report paths).report.diagnostics) :
    g ∈ report.diagnostics ∨
      ∃ before path after, paths = before ++ path :: after ∧
        (rule.runFiles scratch d report before).error = none ∧
        g ∈ (rule.visit scratch path
          (rule.runFiles scratch d report before).disk).report.diagnostics := by
  induction paths generalizing d report with
  | nil => exact Or.inl hg
  | cons path rest ih =>
    cases hvisit : (rule.visit scratch path d).error with
    | some cause =>
      rw [runFiles_cons_of_error hvisit] at hg
      rcases List.mem_append.mp hg with hg | hg
      · exact Or.inl hg
      · exact Or.inr ⟨[], path, rest, rfl, rfl, hg⟩
    | none =>
      rw [runFiles_cons_of_ok hvisit] at hg
      rcases ih hg with hg | ⟨before, path', after, rfl, hbefore, hg⟩
      · rcases List.mem_append.mp hg with hg | hg
        · exact Or.inl hg
        · exact Or.inr ⟨[], path, rest, rfl, rfl, hg⟩
      · refine Or.inr ⟨path :: before, path', after, rfl, ?_⟩
        rw [runFiles_cons_of_ok hvisit]
        exact ⟨hbefore, hg⟩

/-- What holds at the start and is kept by each visit holds at the end, however that comes. -/
theorem runFiles_induction {P : Disk → Report → Prop}
    (hvisit : ∀ d report path, P d report →
      P (rule.visit scratch path d).disk (report ++ (rule.visit scratch path d).report))
    {report : Report} (hstart : P d report) (paths : List Text) :
    P (rule.runFiles scratch d report paths).disk (rule.runFiles scratch d report paths).report := by
  induction paths generalizing d report with
  | nil => exact hstart
  | cons path rest ih =>
    have hnext := hvisit d report path hstart
    cases h : (rule.visit scratch path d).error with
    | some cause =>
      rw [runFiles_cons_of_error h]
      exact hnext
    | none =>
      rw [runFiles_cons_of_ok h]
      exact ih hnext

end Rule

end CatalogLint
