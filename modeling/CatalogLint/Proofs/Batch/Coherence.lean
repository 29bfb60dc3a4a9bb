import CatalogLint.Command.Program
import CatalogLint.Proofs.Batch.DryRun
import CatalogLint.Proofs.Batch.Sequence
import CatalogLint.Proofs.Rule.Bounds

/-!
# Verdict, diagnostics and exit code

A batch fails exactly if it has a diagnostic, unless the rule is the one on comments, where a dry run
has a diagnostic if it fails and a run that writes has none. Each diagnostic is about a file that the
batch got to and about a line that this had when it was read. The exit code tells an error from a
failure and a failure from success (`run_coherent`).

A rule that removes metadata reports once that is written, so that neither a verdict nor a diagnostic
is left of a catalogue that cannot be written; the rule on comments has its verdict before it writes.
-/

namespace CatalogLint.Rule

variable {rule : Rule} {scratch path t : Text} {d : Disk} {lines : List Text}

/-! ## One catalogue -/

/-- A rule other than that on comments fails a catalogue of which it has findings to report. -/
theorem failed_iff (hrule : ∀ start dryRun, rule ≠ comments start dryRun) :
    (rule.inspect lines).failed = true ↔ (rule.inspect lines).findings ≠ [] := by
  rcases inspect_cases rule lines with ⟨findings, h⟩ | ⟨b, -, -, h⟩ | ⟨start, dryRun, h⟩
  · rw [h]
    simp [Inspection.ofViolations]
  · rw [h]
    simp [Inspection.pass]
  · exact absurd h (hrule start dryRun)

theorem fails_iff (hrule : ∀ start dryRun, rule ≠ comments start dryRun) :
    (rule.inspect lines).fails = true ↔ (rule.inspect lines).reported ≠ [] := by
  rw [Inspection.fails, Inspection.reported, Bool.or_eq_true, failed_iff hrule]
  simp [imp_iff_not_or]

/-- The report on a catalogue has all findings, or those that do not wait for it to be written. -/
theorem report_visit_cases (hread : d.read path = .ok t) :
    (rule.visit scratch path d).report =
        { failed := (rule.inspect t.lines).fails
          diagnostics :=
            rule.diagnostics d.workingDirectory path (rule.inspect t.lines).reported } ∨
      (rule.visit scratch path d).report =
        { failed := (rule.inspect t.lines).failed
          diagnostics :=
            rule.diagnostics d.workingDirectory path (rule.inspect t.lines).findings } := by
  simp only [visit, hread]
  by_cases hok : (rule.apply scratch path t.lines d {}).error = none
  · exact Or.inl (apply_report hok)
  · exact Or.inr (apply_report_of_error hok)

theorem report_visit_of_error {cause : DiskError} (hread : d.read path = .error cause) :
    (rule.visit scratch path d).report = {} := by
  simp only [visit, hread]

theorem failed_visit_iff (hrule : ∀ start dryRun, rule ≠ comments start dryRun) :
    (rule.visit scratch path d).report.failed = true ↔
      (rule.visit scratch path d).report.diagnostics ≠ [] := by
  cases hread : d.read path with
  | error cause =>
    rw [report_visit_of_error hread]
    simp
  | ok t =>
    rcases report_visit_cases hread with h | h
    · rw [h]
      simpa [diagnostics] using fails_iff hrule
    · rw [h]
      simpa [diagnostics] using failed_iff hrule

/-- A dry run that fails has a finding where a comment would be replaced. -/
theorem diagnostics_visit_ne_nil_of_dryRun {s : CommentStart}
    (h : ((comments s true).visit scratch path d).report.failed = true) :
    ((comments s true).visit scratch path d).report.diagnostics ≠ [] := by
  cases hread : d.read path with
  | error cause =>
    rw [report_visit_of_error hread] at h
    cases h
  | ok t =>
    simp only [visit, hread, CommentStart.apply_dryRun] at h ⊢
    -- A line that is replaced by another one is replaced.
    obtain ⟨line, hline, new, hnew, -⟩ := CommentStart.failed_inspect_iff.mp h
    obtain ⟨i, hi⟩ := List.mem_iff_getElem?.mp hline
    have hmem : i + 1 ∈ s.occurrences t.lines :=
      CommentStart.mem_occurrences_iff.mpr ⟨i, line, rfl, hi, by rw [hnew, Option.isSome_some]⟩
    exact List.ne_nil_of_mem (List.mem_map_of_mem (List.mem_map_of_mem hmem))

theorem exists_of_mem_diagnostics_visit {g : Diagnostic}
    (hg : g ∈ (rule.visit scratch path d).report.diagnostics) :
    ∃ t finding, d.read path = .ok t ∧ finding ∈ (rule.inspect t.lines).reported ∧
      g = finding.diagnostic (rule.shownPath d.workingDirectory path) rule.name := by
  cases hread : d.read path with
  | error cause =>
    rw [report_visit_of_error hread] at hg
    cases hg
  | ok t =>
    rcases report_visit_cases hread with h | h
    · rw [h] at hg
      obtain ⟨finding, hfinding, rfl⟩ := List.mem_map.mp hg
      exact ⟨t, finding, rfl, hfinding, rfl⟩
    · rw [h] at hg
      obtain ⟨finding, hfinding, rfl⟩ := List.mem_map.mp hg
      exact ⟨t, finding, rfl, List.mem_append_left _ hfinding, rfl⟩

theorem workingDirectory_visit (rule : Rule) (scratch path : Text) (d : Disk) :
    (rule.visit scratch path d).disk.workingDirectory = d.workingDirectory := by
  cases hread : d.read path with
  | error cause => simp only [visit, hread]
  | ok t =>
    obtain ⟨f, mode, hresolve⟩ := Disk.read_eq_ok_iff.mp hread
    simp only [visit, hread]
    cases hrewrite : (rule.inspect t.lines).rewrite with
    | none => rw [apply_of_rewrite_none hrewrite]
    | some new =>
      have hreplace := Disk.workingDirectory_replace hresolve scratch new.lines.flatten
      unfold apply
      simp only [hrewrite]
      split
      · exact hreplace
      · exact hreplace

/-- A visit fails where the file cannot be read, or cannot be written if it is to be. -/
theorem error_visit_iff {cause : DiskError} :
    (rule.visit scratch path d).error = some cause ↔
      d.read path = .error cause ∨
      ∃ t new, d.read path = .ok t ∧ (rule.inspect t.lines).rewrite = some new ∧
        (d.replace scratch path new.lines.flatten).error = some cause := by
  cases hread : d.read path with
  | error e => simp [visit, hread]
  | ok t =>
    simp only [visit, hread]
    cases hrewrite : (rule.inspect t.lines).rewrite with
    | none => simp [apply_of_rewrite_none hrewrite, hrewrite]
    | some new =>
      unfold apply
      simp only [hrewrite]
      cases herror : (d.replace scratch path new.lines.flatten).error with
      | none => simp [hrewrite, herror]
      | some e => simp [hrewrite, herror]

/-! ## A batch -/

section Batch

variable (rule scratch d) (paths : List Text)

theorem workingDirectory_runFiles :
    (rule.runFiles scratch d {} paths).disk.workingDirectory = d.workingDirectory := by
  refine runFiles_induction (P := fun disk _ => disk.workingDirectory = d.workingDirectory) ?_ rfl
    paths
  intro disk report path hdisk
  rw [workingDirectory_visit, hdisk]

theorem failed_runFiles_iff (hrule : ∀ start dryRun, rule ≠ comments start dryRun) :
    (rule.runFiles scratch d {} paths).report.failed = true ↔
      (rule.runFiles scratch d {} paths).report.diagnostics ≠ [] := by
  refine runFiles_induction
    (P := fun _ report => report.failed = true ↔ report.diagnostics ≠ []) ?_ (by simp) paths
  intro disk report path hreport
  rw [Report.failed_append, Bool.or_eq_true, hreport, failed_visit_iff hrule,
    Report.diagnostics_append_ne_nil_iff]

theorem diagnostics_runFiles_ne_nil_of_dryRun (s : CommentStart)
    (h : ((comments s true).runFiles scratch d {} paths).report.failed = true) :
    ((comments s true).runFiles scratch d {} paths).report.diagnostics ≠ [] := by
  revert h
  refine runFiles_induction
    (P := fun _ report => report.failed = true → report.diagnostics ≠ []) ?_ (by simp) paths
  intro disk report path hreport h
  rw [Report.diagnostics_append_ne_nil_iff]
  rw [Report.failed_append, Bool.or_eq_true] at h
  exact h.imp hreport diagnostics_visit_ne_nil_of_dryRun

end Batch

/-- However a batch comes to an end, its verdict, its diagnostics and its exit code agree. For a rule
other than that on comments it fails exactly if it has a diagnostic; for that rule a dry run that
fails has one, and a run that writes has none. A diagnostic has the name of the rule and the path of
a file that the batch got to, made absolute by the rule on sizes; that could be read then, and if
the diagnostic is about a line it had such a line. The batch ends with an error exactly if it gets to
a file that cannot be read, or cannot be written. The exit code is 2 exactly if it does, else 1
exactly if the batch fails, else 0. -/
theorem run_coherent (rule : Rule) (scratch : Text) (d : Disk) (paths : List Text) :
    let run := rule.run scratch paths d
    ((∀ start dryRun, rule ≠ comments start dryRun) →
      (run.report.failed = true ↔ run.report.diagnostics ≠ [])) ∧
    (∀ start, rule = comments start true →
      run.report.failed = true → run.report.diagnostics ≠ []) ∧
    (∀ start, rule = comments start false → run.report.diagnostics = []) ∧
    (∀ g ∈ run.report.diagnostics, g.rule = rule.name ∧
      ∃ before path after t, d.find paths = before ++ path :: after ∧
        (rule.runFiles scratch d {} before).error = none ∧
        (rule.runFiles scratch d {} before).disk.read path = .ok t ∧
        (∀ limits, rule = limited limits →
          g.path = (Path.absolute d.workingDirectory path).render) ∧
        ((∀ limits, rule ≠ limited limits) → g.path = path) ∧
        ∀ n, g.line = some n → 1 ≤ n ∧ n ≤ t.lines.length) ∧
    (∀ e, run.error = some e ↔
      ∃ before after, d.find paths = before ++ e.path :: after ∧
        (rule.runFiles scratch d {} before).error = none ∧
        let disk := (rule.runFiles scratch d {} before).disk
        (disk.read e.path = .error e.cause ∨
          ∃ t new, disk.read e.path = .ok t ∧ (rule.inspect t.lines).rewrite = some new ∧
            (disk.replace scratch e.path new.lines.flatten).error = some e.cause)) ∧
    ∀ colours quiet format,
      let exitCode := (Program.ofRun colours quiet format run).exitCode
      (exitCode = 2 ↔ run.error ≠ none) ∧
      (exitCode = 1 ↔ run.error = none ∧ run.report.failed = true) ∧
      (exitCode = 0 ↔ run.error = none ∧ run.report.failed = false) := by
  intro run
  refine ⟨failed_runFiles_iff rule scratch d _, ?_, ?_, ?_, ?_, ?_⟩
  · rintro start rfl
    exact diagnostics_runFiles_ne_nil_of_dryRun scratch d _ start
  · rintro start rfl
    exact CommentStart.diagnostics_runFiles_writing start scratch d _
  · intro g hg
    rcases mem_diagnostics_runFiles hg with hg | ⟨before, path, after, hpaths, hok, hg⟩
    · cases hg
    · obtain ⟨t, finding, hread, hfinding, rfl⟩ := exists_of_mem_diagnostics_visit hg
      refine ⟨rfl, before, path, after, t, hpaths, hok, hread, ?_, fun hrule => ?_,
        isWithin_of_mem_reported hfinding⟩
      · rintro limits rfl
        rw [workingDirectory_runFiles]
        exact shownPath_limited limits d.workingDirectory path
      · exact shownPath_of_ne hrule _ path
  · intro e
    refine error_runFiles_iff.trans ?_
    simp only [error_visit_iff]
  · intro colours quiet format exitCode
    have hexit : exitCode = if run.error.isSome then 2 else if run.report.failed then 1 else 0 := rfl
    rw [hexit]
    cases run.error with
    | some e => simp
    | none => cases run.report.failed with
      | true => simp
      | false => simp

/-- What was found before a file turns out to be missing stays, and the exit code is that of the
error. -/
theorem run_coherent_missing :
    let d : Disk :=
      { entries := [(["a.po".toList], .file (.text "msgid \"a\"\nmsgstr \"\"\n") 0o644)] }
    let run := (translated none).run "/t" ["a.po", "b.po"] d
    run.report.failed = true ∧ run.report.diagnostics ≠ [] ∧
      (Program.ofRun false false .human run).exitCode = 2 := by
  intro d run
  obtain ⟨hverdict, -, -, -, -, hexit⟩ := run_coherent (translated none) "/t" d ["a.po", "b.po"]
  have hfailed : run.report.failed = true := by decide
  exact ⟨hfailed, (hverdict nofun).mp hfailed, (hexit false false .human).1.mpr (by decide)⟩

end CatalogLint.Rule
