import CatalogLint.Proofs.Batch.Coherence
import CatalogLint.Proofs.Catalog.Written
import CatalogLint.Proofs.Command.Quiet
import CatalogLint.Proofs.Rule.Wording
import CatalogLint.Proofs.Text.Pieces

/-!
# One line for each diagnostic

Diagnostics are written as lines of text. A diagnostic shows its path, a number and the words of its
finding, in which there is no line feed; so it takes one line, unless the path takes more
(`Finding.OneLine.mem_render_iff`). The path is the one that was given, and for the rule on sizes it
is absolute and may have a line feed from the working directory (`Rule.mem_or_of_mem_shownPath`).

Whatever the catalogues hold, the lines of the output are then the diagnostics of the batch, one by
one (`Program.lines_human_output`).
-/

namespace CatalogLint

/-! ## The path that is shown -/

namespace Path

theorem mem_of_mem_foldl_enter {name : Text} {l : Location} {names : List Text}
    (h : name ∈ names.foldl enter l) : name ∈ l ∨ name ∈ names := by
  induction names generalizing l with
  | nil => exact Or.inl h
  | cons first rest ih =>
    rcases ih h with h | h
    · rw [enter] at h
      split at h
      · exact Or.inl (List.dropLast_subset l h)
      · rcases List.mem_append.mp h with h | h
        · exact Or.inl h
        · rw [List.mem_singleton.mp h]
          exact Or.inr List.mem_cons_self
    · exact Or.inr (List.mem_cons_of_mem first h)

/-- An absolute path has slashes and the characters of the path and of the directory. -/
theorem mem_of_mem_render_absolute {c : Char} {directory : Location} {path : Text}
    (h : c ∈ (absolute directory path).render) :
    c = '/' ∨ c ∈ path ∨ ∃ name ∈ directory, c ∈ name := by
  rw [Location.render] at h
  rcases List.mem_cons.mp h with rfl | h
  · exact Or.inl rfl
  · rcases Text.mem_of_mem_join h with h | ⟨name, hname, h⟩
    · exact Or.inl (List.mem_singleton.mp h)
    · right
      rcases mem_of_mem_foldl_enter hname with hname | hname
      · right
        split at hname
        · cases hname
        · exact ⟨name, hname, h⟩
      · left
        exact Text.mem_of_mem_pieces (List.mem_filter.mp hname).1 h

end Path

/-- The path that is shown holds a line feed if the given path does, or for the rule on sizes if the
working directory does. -/
theorem Rule.mem_or_of_mem_shownPath {rule : Rule} {directory : Location} {path : Text}
    (h : '\n' ∈ rule.shownPath directory path) :
    '\n' ∈ path ∨ (∃ limits, rule = limited limits) ∧ ∃ name ∈ directory, '\n' ∈ name := by
  unfold shownPath at h
  split at h
  · rename_i limits
    rcases Path.mem_of_mem_render_absolute h with hslash | hpath | hname
    · cases hslash
    · exact Or.inl hpath
    · exact Or.inr ⟨⟨limits, rfl⟩, hname⟩
  · exact Or.inl h

/-! ## Diagnostics -/

/-- The parts of a diagnostic around its path. -/
theorem Diagnostic.exists_render_eq {g : Finding} (h : g.OneLine) (path rule : Text) :
    ∃ front back, (g.diagnostic path rule).render = front ++ path ++ back ∧
      '\n' ∉ front ∧ '\n' ∉ back := by
  obtain ⟨line, message, detail⟩ := g
  have hfront : '\n' ∉ message ++ " at ".toList := by
    rw [List.mem_append, not_or]
    exact ⟨h.message, by decide⟩
  have hline : ∀ n, '\n' ∉ ':' :: Text.ofNat n := by
    intro n
    rw [List.mem_cons, not_or]
    exact ⟨by decide, Text.not_mem_ofNat n⟩
  have hdetail : ∀ words, detail = some words → '\n' ∉ (" (" ++ words ++ ")" : Text) := by
    intro words hwords
    simp only [List.mem_append, not_or]
    exact ⟨⟨by decide, h.detail words hwords⟩, by decide⟩
  refine ⟨message ++ " at ".toList, _, List.append_assoc _ _ _, hfront, ?_⟩
  rw [List.mem_append, not_or]
  constructor
  · cases line with
    | none => exact List.not_mem_nil
    | some n => exact hline n
  · cases detail with
    | none => exact List.not_mem_nil
    | some words => exact hdetail words rfl

/-- The text of a diagnostic holds a line feed exactly if its path does. -/
theorem Finding.OneLine.mem_render_iff {g : Finding} (h : g.OneLine) (path rule : Text) :
    '\n' ∈ (g.diagnostic path rule).render ↔ '\n' ∈ path := by
  obtain ⟨front, back, heq, hfront, hback⟩ := Diagnostic.exists_render_eq h path rule
  rw [heq, List.mem_append, List.mem_append]
  constructor
  · rintro ((hmem | hmem) | hmem)
    · exact absurd hmem hfront
    · exact hmem
    · exact absurd hmem hback
  · intro hpath
    exact Or.inl (Or.inr hpath)

namespace Rule

variable {rule : Rule} {d : Diagnostic}

theorem mem_render_iff_of_mem_diagnostics (htexts : ∀ text ∈ rule.texts, '\n' ∉ text)
    {directory : Location} {path : Text} {lines : List Text}
    (hd : d ∈ rule.diagnostics directory path (rule.inspect lines).reported) :
    '\n' ∈ d.render ↔ '\n' ∈ rule.shownPath directory path := by
  obtain ⟨g, hg, rfl⟩ := List.mem_map.mp hd
  exact (oneLine_of_mem_reported htexts hg).mem_render_iff _ _

theorem mem_render_iff_of_mem_run (htexts : ∀ text ∈ rule.texts, '\n' ∉ text) {scratch : Text}
    {paths : List Text} {disk : Disk} (hd : d ∈ (rule.run scratch paths disk).report.diagnostics) :
    ∃ path ∈ disk.find paths,
      '\n' ∈ d.render ↔ '\n' ∈ rule.shownPath disk.workingDirectory path := by
  rcases mem_diagnostics_runFiles hd with hd | ⟨before, path, after, hpaths, -, hd⟩
  · cases hd
  · obtain ⟨t, g, -, hg, rfl⟩ := exists_of_mem_diagnostics_visit hd
    rw [workingDirectory_runFiles]
    refine ⟨path, ?_, (oneLine_of_mem_reported htexts hg).mem_render_iff _ _⟩
    rw [hpaths]
    exact List.mem_append_right _ List.mem_cons_self

end Rule

/-! ## The output -/

namespace Program

theorem lines_renderLines {report : Report} (h : ∀ d ∈ report.diagnostics, '\n' ∉ d.render) :
    (renderLines report).lines = report.diagnostics.map fun d => d.render ++ "\n".toList := by
  have htexts : ∀ t ∈ report.diagnostics.map (·.render), '\n' ∉ t := by
    intro t ht
    obtain ⟨d, hd, rfl⟩ := List.mem_map.mp ht
    exact h d hd
  rw [renderLines, List.flatMap_def]
  apply Text.lines_flatten
  apply Text.areLines_of_terminated htexts
  rw [List.forall₂_map_left_iff, List.forall₂_map_right_iff, List.forall₂_same]
  intro d _
  exact Or.inl rfl

/-- If no text among the options of a check holds a line feed, the text of a diagnostic holds one
exactly if the path in it does, whatever the catalogue holds. That path is the given one, or for the
rule on sizes an absolute one, with line feeds from the given one or from the working directory only.
So where there are none in the paths, the output of a batch has one line for each diagnostic, and
these are all the lines unless the batch ends with an error. -/
theorem lines_human_output {options : RuleOptions} {rule : Rule} (hrule : options.rule = .ok rule)
    (htexts : ∀ text ∈ options.texts, '\n' ∉ text) :
    (∀ (directory : Location) (path t : Text),
      let found := rule.diagnostics directory path (rule.inspect t.lines).reported
      (∀ d ∈ found, '\n' ∈ d.render ↔ '\n' ∈ rule.shownPath directory path) ∧
      ('\n' ∉ rule.shownPath directory path →
        (renderLines { diagnostics := found }).lines = found.map fun d => d.render ++ "\n".toList)) ∧
    (∀ (directory : Location) (path : Text), '\n' ∈ rule.shownPath directory path →
      '\n' ∈ path ∨ (∃ limits, rule = .limited limits) ∧ ∃ name ∈ directory, '\n' ∈ name) ∧
    ∀ (scratch : Text) (paths : List Text) (disk : Disk) (colours : Bool),
      let batch := rule.run scratch paths disk
      (∀ path ∈ disk.find paths, '\n' ∉ rule.shownPath disk.workingDirectory path) →
      (∀ d ∈ batch.report.diagnostics, '\n' ∉ d.render) ∧
      (renderLines batch.report).lines =
        (batch.report.diagnostics.map fun d => d.render ++ "\n".toList) ∧
      (batch.error = none →
        (ofRun colours false .human batch).errors = renderLines batch.report) := by
  have hgiven := RuleOptions.not_mem_texts_of_rule hrule htexts
  refine ⟨?_, fun _ _ => Rule.mem_or_of_mem_shownPath, ?_⟩
  · intro directory path t found
    have hiff : ∀ d ∈ found, '\n' ∈ d.render ↔ '\n' ∈ rule.shownPath directory path := fun d =>
      Rule.mem_render_iff_of_mem_diagnostics hgiven
    refine ⟨hiff, fun hpath => lines_renderLines ?_⟩
    intro d hd hfeed
    exact hpath ((hiff d hd).mp hfeed)
  · intro scratch paths disk colours batch hpaths
    have hline : ∀ d ∈ batch.report.diagnostics, '\n' ∉ d.render := by
      intro d hd hfeed
      obtain ⟨path, hpath, hiff⟩ := Rule.mem_render_iff_of_mem_run hgiven hd
      exact hpaths path hpath (hiff.mp hfeed)
    refine ⟨hline, lines_renderLines hline, ?_⟩
    intro herror
    rw [ofRun_human, errorLines, herror]
    exact List.append_nil _

/-- Values with quotes and escapes, one without a closing quote and one at the end of the text. -/
theorem lines_human_output_unclosed :
    let options : RuleOptions := .metadata { headers := ["A", "B"], values := ["x", "y"] }
    let t : Text := "msgid \"\"\nmsgstr \"\"\n\"A: \\n\"b\\n\r\n\"B: \\n"
    (∀ text ∈ options.texts, '\n' ∉ text) ∧ ∃ rule, options.rule = .ok rule ∧
      let found := rule.diagnostics [] "fr.po" (rule.inspect t.lines).reported
      found.length = 2 ∧
        (renderLines { diagnostics := found }).lines = found.map fun d => d.render ++ "\n".toList := by
  intro options t
  have htexts : ∀ text ∈ options.texts, '\n' ∉ text := by decide
  have hrule : ∃ rule, options.rule = .ok rule ∧
      (rule.diagnostics [] "fr.po" (rule.inspect t.lines).reported).length = 2 ∧
      '\n' ∉ rule.shownPath [] "fr.po" := by
    refine ⟨_, rfl, ?_⟩
    decide
  obtain ⟨rule, hrule, hlength, hpath⟩ := hrule
  obtain ⟨hcontent, -⟩ := lines_human_output hrule htexts
  exact ⟨htexts, rule, hrule, hlength, (hcontent [] "fr.po" t).2 hpath⟩

end Program

end CatalogLint
