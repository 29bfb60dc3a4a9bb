import CatalogLint.Proofs.Batch.Contents
import CatalogLint.Proofs.Batch.Sequence
import CatalogLint.Proofs.Rule.Numbers
import CatalogLint.Proofs.Rule.Reapplication

/-!
# Dry runs

A dry run of the rule on comments gives the verdict of the run that writes: both fail exactly if the
text that is written is not the text that was read. Lines that change cannot make up for each other,
whatever is taken and put, since all of them grow or all of them shrink by as much
(`flatten_replaceLines_eq_iff`). The dry run tells where comments would be replaced and changes
nothing; the run that writes tells nothing (`dryRun_predicts`).
-/

namespace CatalogLint.CommentStart

variable {s : CommentStart} {scratch path : Text} {d : Disk} {report : Report}

/-! ## One catalogue -/

theorem failed_inspect (s : CommentStart) (dryRun : Bool) (lines : List Text) :
    (s.inspect dryRun lines).failed = (s.replaceLines lines != lines) := by
  cases dryRun with
  | true => rfl
  | false => rfl

/-- A run fails if a line is replaced by another one. -/
theorem failed_inspect_iff {dryRun : Bool} {lines : List Text} :
    (s.inspect dryRun lines).failed = true ↔
      ∃ line ∈ lines, ∃ new, s.replaceLine? line = some new ∧ new ≠ line := by
  rw [failed_inspect, bne_iff_ne, Ne, replaceLines_eq_self_iff]
  constructor
  · intro h
    obtain ⟨hidle, hbears⟩ := not_or.mp h
    push Not at hbears
    obtain ⟨line, hline, hbears⟩ := hbears
    obtain ⟨new, hnew⟩ := Option.ne_none_iff_exists'.mp
      (fun hnone => replaceLine?_eq_none_iff.mp hnone hbears)
    exact ⟨line, hline, new, hnew, fun heq => hidle ((eq_of_replaceLine?_iff hnew).mp heq)⟩
  · rintro ⟨line, hline, new, hnew, hne⟩ (hidle | hbears)
    · exact hne ((eq_of_replaceLine?_iff hnew).mpr hidle)
    · rw [replaceLine?_eq_none_iff.mpr (hbears line hline)] at hnew
      cases hnew

/-- A run fails if it writes another text than it read. -/
theorem failed_inspect_lines_iff {dryRun : Bool} {t : Text} :
    (s.inspect dryRun t.lines).failed = true ↔ (s.replaceLines t.lines).flatten ≠ t := by
  rw [failed_inspect, bne_iff_ne, Ne, Ne, ← flatten_replaceLines_eq_iff, Text.flatten_lines]

theorem mem_occurrences_iff {lines : List Text} {n : Nat} :
    n ∈ s.occurrences lines ↔
      ∃ i line, n = i + 1 ∧ lines[i]? = some line ∧ (s.replaceLine? line).isSome = true := by
  rw [occurrences, mem_numbersWhere_iff]
  simp only [Nat.add_comm 1]

theorem pending_inspect (s : CommentStart) (dryRun : Bool) (lines : List Text) :
    (s.inspect dryRun lines).pending = [] := by
  cases dryRun with
  | true => rfl
  | false => rfl

theorem apply_dryRun (s : CommentStart) (scratch path : Text) (lines : List Text) (d : Disk)
    (report : Report) :
    (Rule.comments s true).apply scratch path lines d report =
      { disk := d
        report := (report.notices
          ((Rule.comments s true).diagnostics d.workingDirectory path
            (s.inspect true lines).findings)).failIf (s.inspect true lines).failed } :=
  Rule.apply_of_rewrite_none rfl

/-- The run that writes sets the verdict, even if it fails to write, and tells nothing. -/
theorem report_apply_writing (s : CommentStart) (scratch path : Text) (lines : List Text)
    (d : Disk) (report : Report) :
    ((Rule.comments s false).apply scratch path lines d report).report =
      report.failIf (s.inspect false lines).failed := by
  have hpending : ((Rule.comments s false).inspect lines).pending = [] :=
    pending_inspect s false lines
  rw [Rule.apply_report_of_pending_nil hpending]
  exact congrArg (Report.failIf · _) (Report.notices_nil report)

/-! ## A batch -/

/-- A dry run leaves the disk alone. -/
theorem disk_runFiles_dryRun (s : CommentStart) (scratch : Text) (d : Disk) (report : Report)
    (paths : List Text) :
    ((Rule.comments s true).runFiles scratch d report paths).disk = d := by
  refine Rule.runFiles_induction (P := fun disk _ => disk = d) ?_ rfl paths
  rintro disk report path rfl
  rw [Rule.visit]
  cases disk.read path with
  | error cause => rfl
  | ok t =>
    dsimp only
    rw [apply_dryRun]

/-- The run that writes tells nothing. -/
theorem diagnostics_runFiles_writing (s : CommentStart) (scratch : Text) (d : Disk)
    (paths : List Text) :
    ((Rule.comments s false).runFiles scratch d {} paths).report.diagnostics = [] := by
  refine Rule.runFiles_induction (P := fun _ report => report.diagnostics = []) ?_ rfl paths
  intro disk report path hreport
  rw [Report.diagnostics_append, hreport, List.nil_append, Rule.visit]
  cases disk.read path with
  | error cause => rfl
  | ok t =>
    dsimp only
    rw [report_apply_writing]
    rfl

/-- The dry run of a catalogue and the run that writes have the same verdict: both fail exactly if
the text that is written is another than the text that was read, and so exactly if a line is
replaced by another one. The dry run has a finding at each line that would be replaced, in the order
of the lines, and writes nothing; the run that writes has none. So it is of what they report and
leave on disk, and in a batch, too, a dry run leaves the disk alone and the run that writes tells
nothing. -/
theorem dryRun_predicts (s : CommentStart) :
    (∀ t : Text, ∃ (t' : Text) (numbers : List Nat),
      let dry := s.inspect true t.lines
      let real := s.inspect false t.lines
      s.written t = some t' ∧
      dry.failed = real.failed ∧
      (real.failed = true ↔ t' ≠ t) ∧
      (real.failed = true ↔
        ∃ line ∈ t.lines, ∃ new, s.replaceLine? line = some new ∧ new ≠ line) ∧
      numbers.Pairwise (· < ·) ∧
      (∀ n, n ∈ numbers ↔ ∃ i line, n = i + 1 ∧ t.lines[i]? = some line ∧
        (s.replaceLine? line).isSome = true) ∧
      dry.findings = numbers.map (fun n =>
        { line := some n, message := "Translator comment would be replaced" }) ∧
      dry.rewrite = none ∧ real.findings = [] ∧ real.pending = []) ∧
    (∀ (scratch path t : Text) (d : Disk) (report : Report),
      let dry := (Rule.comments s true).apply scratch path t.lines d report
      let real := (Rule.comments s false).apply scratch path t.lines d report
      dry.report.failed = real.report.failed ∧
      dry.report.diagnostics = report.diagnostics ++
        (Rule.comments s true).diagnostics d.workingDirectory path
          (s.inspect true t.lines).findings ∧
      dry.disk = d ∧ dry.error = none ∧
      real.report.diagnostics = report.diagnostics ∧
      (d.read path = .ok t → real.error = none →
        ∃ t', s.written t = some t' ∧ real.disk.read path = .ok t')) ∧
    ∀ (scratch : Text) (paths : List Text) (d : Disk),
      ((Rule.comments s true).run scratch paths d).disk = d ∧
      ((Rule.comments s false).run scratch paths d).report.diagnostics = [] := by
  refine ⟨fun t => ?_, fun scratch path t d report => ?_, fun scratch paths d => ?_⟩
  · exact ⟨_, s.occurrences t.lines, written_eq s t, rfl, failed_inspect_lines_iff,
      failed_inspect_iff, pairwise_numbersWhere _ 1 t.lines, fun n => mem_occurrences_iff, rfl, rfl,
      rfl, pending_inspect s false t.lines⟩
  · intro dry real
    have hdry : dry = _ := apply_dryRun s scratch path t.lines d report
    have hreal : real.report = _ := report_apply_writing s scratch path t.lines d report
    rw [hdry, hreal]
    exact ⟨rfl, rfl, rfl, rfl, rfl, fun hread hok => ⟨_, rfl, (Rule.apply_disk hread hok).1⟩⟩
  · exact ⟨disk_runFiles_dryRun s scratch d {} (d.find paths),
      diagnostics_runFiles_writing s scratch d (d.find paths)⟩

/-- Line feeds that are put into two comments are written, and the file is read with them. -/
theorem dryRun_predicts_lineFeeds :
    let d : Disk :=
      { entries := [(["t".toList], .directory 0o755),
        (["a.po".toList], .file (.text "#. a\n#. ab") 0o644)] }
    let real := (Rule.comments (literal "a" "\n") false).apply "/t" "a.po"
      (Text.lines "#. a\n#. ab") d {}
    real.disk.read "a.po" = .ok "#. \n\n#. \nb" := by
  intro d real
  obtain ⟨-, happly, -⟩ := dryRun_predicts (literal "a" "\n")
  obtain ⟨t', ht, hread⟩ :=
    (happly "/t" "a.po" "#. a\n#. ab" d {}).2.2.2.2.2 (by decide) (by decide)
  have ht' : (literal "a" "\n").written "#. a\n#. ab" = some "#. \n\n#. \nb".toList := by decide
  rw [hread]
  exact congrArg Except.ok (Option.some.inj (ht.symm.trans ht'))

end CatalogLint.CommentStart
