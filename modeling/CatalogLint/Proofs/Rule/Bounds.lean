import CatalogLint.Proofs.Catalog.Fields
import CatalogLint.Proofs.Catalog.Obsolete
import CatalogLint.Proofs.Catalog.Scan
import CatalogLint.Proofs.Rule.Numbers
import CatalogLint.Proofs.Rule.Rewrite

/-!
# Findings are about lines that are there

The number of a line in a finding is that of a line of the catalogue, whichever rule finds it
(`Rule.isWithin_of_mem_reported`). Some of these numbers come from the line itself, and some from
where something else was found: the first line of the metadata from the header entry, the line of a
value from the first line of the metadata, an empty translation from its message.
-/

namespace CatalogLint

/-- If a finding is about a line, the catalogue has one of that number. -/
def Finding.IsWithin (lines : List Text) (g : Finding) : Prop :=
  ∀ n, g.line = some n → 1 ≤ n ∧ n ≤ lines.length

variable {lines : List Text} {g : Finding}

theorem Finding.isWithin_of_line_eq {n : Nat} (hline : g.line = some n)
    (hn : 1 ≤ n ∧ n ≤ lines.length) : g.IsWithin lines := by
  intro k hk
  obtain rfl := Option.some.inj (hline.symm.trans hk)
  exact hn

theorem Finding.isWithin_of_line_eq_none (hline : g.line = none) : g.IsWithin lines := by
  intro n hn
  rw [hline] at hn
  cases hn

/-! ## Numbers of lines -/

theorem mem_numbersWhere_bounds {p : Text → Bool} {n : Nat} (hn : n ∈ numbersWhere p 1 lines) :
    1 ≤ n ∧ n ≤ lines.length := by
  obtain ⟨i, line, rfl, hline, -⟩ := mem_numbersWhere_iff.mp hn
  obtain ⟨hi, -⟩ := List.getElem?_eq_some_iff.mp hline
  omega

theorem Translation.mem_untranslatedLines_bounds {n : Nat}
    (hn : n ∈ Translation.untranslatedLines lines) : 1 ≤ n ∧ n ≤ lines.length := by
  obtain ⟨m, hm, hempty⟩ := List.mem_filterMap.mp hn
  obtain ⟨above, line, below, rfl, -, rfl⟩ := Message.mem_scan.mp (List.mem_filter.mp hm).1
  obtain ⟨i, line', rfl, hline, -⟩ := Message.exists_getElem?_of_firstEmpty hempty
  obtain ⟨hi, -⟩ := List.getElem?_eq_some_iff.mp hline
  simp only [List.length_append, List.length_cons]
  omega

namespace MetadataBlock

variable {b : MetadataBlock}

theorem firstLine_bounds (hb : Metadata.locate lines = .block b) :
    1 ≤ b.firstLine ∧ b.firstLine ≤ lines.length := by
  obtain ⟨above, first, second, body, below, h⟩ := Metadata.exists_blockParts hb
  have hbody := List.length_pos_iff.mpr h.body_ne_nil
  rw [firstLine, h.start_eq, h.lines_eq]
  simp only [List.length_append, List.length_cons]
  omega

theorem translationLine_bounds (hb : Metadata.locate lines = .block b) :
    1 ≤ b.translationLine ∧ b.translationLine ≤ lines.length := by
  obtain ⟨-, hfirst⟩ := firstLine_bounds hb
  rw [firstLine, start] at hfirst
  rw [translationLine]
  omega

theorem mem_fields_bounds (hb : Metadata.locate lines = .block b) {field : MetadataField}
    (h : field ∈ b.fields lines) : 1 ≤ field.line ∧ field.line ≤ lines.length := by
  obtain ⟨above, first, second, body, below, hparts⟩ := Metadata.exists_blockParts hb
  rw [fields, hparts.slice_eq] at h
  have hbounds := mem_fieldsFrom_bounds h
  rw [firstLine, hparts.start_eq] at hbounds
  rw [hparts.lines_eq]
  simp only [List.length_append, List.length_cons]
  omega

end MetadataBlock

/-! ## Findings -/

/-- A specification has findings at the line that it is given and at those of fields. -/
theorem HeaderSpec.line_of_mem_violations {spec : HeaderSpec} {line : Nat}
    {fields : List MetadataField} (h : g ∈ spec.violations line fields) :
    g.line = some line ∨ ∃ field ∈ fields, g.line = some field.line := by
  rw [violations] at h
  rcases List.mem_append.mp h with h | h
  · obtain ⟨⟨header, field⟩, hmem, rfl⟩ := List.mem_map.mp h
    have hfound := (Order.sortBy_perm _ _).mem_iff.mp (List.mem_filter.mp hmem).1
    obtain ⟨header', -, hheader⟩ := List.mem_filterMap.mp hfound
    obtain ⟨field', hlast, heq⟩ := Option.map_eq_some_iff.mp hheader
    cases heq
    exact Or.inr ⟨_, List.mem_reverse.mp (List.mem_of_find?_eq_some hlast), rfl⟩
  · obtain ⟨header, -, rfl⟩ := List.mem_map.mp h
    exact Or.inl rfl

theorem MetadataDemand.isWithin_of_mem_reported {demand : MetadataDemand}
    (h : g ∈ (demand.inspect lines).reported) : g.IsWithin lines := by
  unfold inspect at h
  cases hm : Metadata.locate lines with
  | noHeader => simp [hm] at h
  | empty header =>
    cases demand with
    | fields spec =>
      simp only [hm, Inspection.reported_ofViolations] at h
      rw [List.mem_singleton.mp h]
      exact Finding.isWithin_of_line_eq_none rfl
    | absence => simp [hm] at h
    | removal => simp [hm] at h
  | block b =>
    cases demand with
    | fields spec =>
      simp only [hm, Inspection.reported_ofViolations] at h
      rcases HeaderSpec.line_of_mem_violations h with hline | ⟨field, hfield, hline⟩
      · exact Finding.isWithin_of_line_eq hline (MetadataBlock.translationLine_bounds hm)
      · exact Finding.isWithin_of_line_eq hline (MetadataBlock.mem_fields_bounds hm hfield)
    | absence =>
      simp only [hm, Inspection.reported_ofViolations] at h
      rw [List.mem_singleton.mp h]
      exact Finding.isWithin_of_line_eq rfl (MetadataBlock.firstLine_bounds hm)
    | removal =>
      simp only [hm] at h
      rw [List.mem_singleton.mp h]
      exact Finding.isWithin_of_line_eq rfl (MetadataBlock.firstLine_bounds hm)

/-- A finding at the number of a line is within the catalogue if the numbers are. -/
theorem Finding.isWithin_of_mem_map {message : Text} {numbers : List Nat}
    (hnumbers : ∀ n ∈ numbers, 1 ≤ n ∧ n ≤ lines.length)
    (h : g ∈ numbers.map fun n => { line := some n, message }) : g.IsWithin lines := by
  obtain ⟨n, hn, rfl⟩ := List.mem_map.mp h
  exact isWithin_of_line_eq rfl (hnumbers n hn)

theorem Limits.line_of_mem_exceeded {things : Text} {count : Int} {limit : Option Int}
    (h : g ∈ exceeded things count limit) : g.line = none := by
  unfold exceeded at h
  split at h
  · split at h
    · rw [List.mem_singleton.mp h]
    · cases h
  · cases h

/-- A finding about a line is about one that the catalogue has. -/
theorem Rule.isWithin_of_mem_reported {rule : Rule} (h : g ∈ (rule.inspect lines).reported) :
    g.IsWithin lines := by
  cases rule with
  | noObsolete =>
    rw [inspect, violationsAt, Inspection.reported_ofViolations] at h
    refine Finding.isWithin_of_mem_map (fun n hn => ?_) h
    have := Obsolete.mem_runsFrom_bounds hn
    omega
  | noFuzzy =>
    rw [inspect, violationsAt, Inspection.reported_ofViolations] at h
    exact Finding.isWithin_of_mem_map (fun n hn => mem_numbersWhere_bounds hn) h
  | translated requirement =>
    cases requirement with
    | none =>
      rw [inspect, Translation.inspect, Inspection.reported_ofViolations] at h
      exact Finding.isWithin_of_mem_map
        (fun n hn => Translation.mem_untranslatedLines_bounds hn) h
    | some r =>
      rw [inspect, Translation.inspect] at h
      split at h
      · cases h
      · rw [List.mem_singleton.mp h]
        exact Finding.isWithin_of_line_eq_none rfl
  | limited limits =>
    rw [inspect, Limits.inspect, Inspection.reported_ofViolations] at h
    rcases List.mem_append.mp h with h | h
    · exact Finding.isWithin_of_line_eq_none (Limits.line_of_mem_exceeded h)
    · exact Finding.isWithin_of_line_eq_none (Limits.line_of_mem_exceeded h)
  | metadata demand => exact MetadataDemand.isWithin_of_mem_reported h
  | comments start dryRun =>
    cases dryRun with
    | true =>
      rw [inspect, CommentStart.inspect, Inspection.reported] at h
      simp only [if_true, Inspection.pending, Option.map_none, Option.getD_none,
        List.append_nil] at h
      exact Finding.isWithin_of_mem_map (fun n hn => mem_numbersWhere_bounds hn) h
    | false => cases h

end CatalogLint
