import CatalogLint.Proofs.Catalog.Metadata
import CatalogLint.Proofs.Rule.CommentStart
import CatalogLint.Rule.Basic

/-!
# What a rule leaves

A rule leaves the lines of a catalogue alone, removes the metadata or replaces the starts of
comments (`Rule.linesAfter_cases`). Unless comments are given line feeds, what it leaves are the
lines of a text, so that they are read again (`Rule.lines_textAfter`).
-/

namespace CatalogLint

namespace Inspection

/-- The findings that wait for the rewrite. -/
def pending (i : Inspection) : List Finding := (i.rewrite.map (·.done)).getD []

/-- All findings, once the rewrite is written. -/
def reported (i : Inspection) : List Finding := i.findings ++ i.pending

/-- Whether the batch fails, once the rewrite is written. -/
def fails (i : Inspection) : Bool := i.failed || !i.pending.isEmpty

/-- The lines of a catalogue, once the rewrite is written. -/
def linesAfter (i : Inspection) (lines : List Text) : List Text :=
  (i.rewrite.map (·.lines)).getD lines

/-- The text of a catalogue, once the rewrite is written. -/
def textAfter (i : Inspection) (t : Text) : Text := (i.rewrite.map (·.lines.flatten)).getD t

theorem textAfter_eq (i : Inspection) (t : Text) :
    i.textAfter t = (i.linesAfter t.lines).flatten := by
  rw [textAfter, linesAfter]
  cases i.rewrite with
  | none => exact (Text.flatten_lines t).symm
  | some new => rfl

@[simp] theorem reported_ofViolations (findings : List Finding) :
    (ofViolations findings).reported = findings := List.append_nil findings

@[simp] theorem reported_pass : pass.reported = [] := rfl

end Inspection

namespace Rule

/-- The rule takes and puts no line feed. -/
def KeepsLines : Rule → Prop
  | comments start _ => start.KeepsLines
  | _ => True

/-- A rule finds violations and writes nothing, or it removes the metadata, or it is the rule on
comments. -/
theorem inspect_cases (rule : Rule) (lines : List Text) :
    (∃ findings, rule.inspect lines = .ofViolations findings) ∨
    (∃ b, rule = metadata .removal ∧ Metadata.locate lines = .block b ∧
      rule.inspect lines =
        { Inspection.pass with
          rewrite := some
            { lines := b.removeFrom lines
              done := [{ line := some b.firstLine, message := "Metadata removed" }] } }) ∨
    ∃ start dryRun, rule = comments start dryRun := by
  cases rule with
  | noObsolete => exact Or.inl ⟨_, rfl⟩
  | noFuzzy => exact Or.inl ⟨_, rfl⟩
  | translated requirement =>
    refine Or.inl ?_
    cases requirement with
    | none => exact ⟨_, rfl⟩
    | some r =>
      rw [inspect, Translation.inspect]
      split_ifs
      · exact ⟨[], rfl⟩
      · exact ⟨_, rfl⟩
  | limited limits => exact Or.inl ⟨_, rfl⟩
  | metadata demand =>
    rw [inspect]
    unfold MetadataDemand.inspect
    cases hm : Metadata.locate lines with
    | noHeader => cases demand <;> exact Or.inl ⟨[], rfl⟩
    | empty header =>
      cases demand with
      | fields spec => exact Or.inl ⟨_, rfl⟩
      | absence => exact Or.inl ⟨[], rfl⟩
      | removal => exact Or.inl ⟨[], rfl⟩
    | block b =>
      cases demand with
      | fields spec => exact Or.inl ⟨_, rfl⟩
      | absence => exact Or.inl ⟨_, rfl⟩
      | removal => exact Or.inr (Or.inl ⟨b, rfl, rfl, rfl⟩)
  | comments start dryRun => exact Or.inr (Or.inr ⟨start, dryRun, rfl⟩)

/-- A rule that rewrites a catalogue has findings once that is written, or none. -/
theorem findings_eq_nil_of_rewrite {rule : Rule} {lines : List Text}
    (h : (rule.inspect lines).rewrite ≠ none) : (rule.inspect lines).findings = [] := by
  rcases inspect_cases rule lines with ⟨findings, heq⟩ | ⟨b, -, -, heq⟩ | ⟨start, dryRun, rfl⟩
  · rw [heq] at h
    exact absurd rfl h
  · rw [heq]
    rfl
  · cases dryRun with
    | true => exact absurd rfl h
    | false => rfl

/-- A rule leaves the lines of a catalogue, or it removes the metadata or replaces the starts of
comments. -/
theorem linesAfter_cases (rule : Rule) (lines : List Text) :
    (rule.inspect lines).linesAfter lines = lines ∨
    (∃ b, Metadata.locate lines = .block b ∧
      (rule.inspect lines).linesAfter lines = b.removeFrom lines) ∨
    ∃ start dryRun, rule = comments start dryRun ∧
      (rule.inspect lines).linesAfter lines = start.replaceLines lines := by
  rcases inspect_cases rule lines with ⟨findings, h⟩ | ⟨b, rfl, hb, h⟩ | ⟨start, dryRun, rfl⟩
  · rw [h]
    exact Or.inl rfl
  · rw [h]
    exact Or.inr (Or.inl ⟨b, hb, rfl⟩)
  · cases dryRun with
    | true => exact Or.inl rfl
    | false => exact Or.inr (Or.inr ⟨start, false, rfl, rfl⟩)

theorem areLines_linesAfter {rule : Rule} (hrule : rule.KeepsLines) {lines : List Text}
    (h : Text.AreLines lines) : Text.AreLines ((rule.inspect lines).linesAfter lines) := by
  rcases linesAfter_cases rule lines with heq | ⟨b, hb, heq⟩ | ⟨start, dryRun, rfl, heq⟩
  · rw [heq]
    exact h
  · obtain ⟨above, first, second, body, below, hparts⟩ := Metadata.exists_blockParts hb
    rw [heq]
    exact hparts.areLines_removeFrom h
  · rw [heq]
    exact CommentStart.KeepsLines.areLines_replaceLines hrule h

/-- The lines that a rule leaves are read again. -/
theorem lines_textAfter (rule : Rule) (hrule : rule.KeepsLines) (t : Text) :
    ((rule.inspect t.lines).textAfter t).lines = (rule.inspect t.lines).linesAfter t.lines := by
  rw [Inspection.textAfter_eq,
    Text.lines_flatten (areLines_linesAfter hrule (Text.areLines_lines t))]

end Rule

end CatalogLint
