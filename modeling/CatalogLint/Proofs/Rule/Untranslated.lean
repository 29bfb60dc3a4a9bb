import CatalogLint.Proofs.Catalog.Extent
import CatalogLint.Rule.Basic

/-!
# Where empty translations are found

A message that is handed out has for its empty translation the least line between its own and the
next message, or the end, that starts one and has nothing or a blank line behind it. The rule on
untranslated messages without a threshold has one finding for each, on that line, in the order of
the lines; the header entry has none (`inspect_translated_locates`).
-/

namespace CatalogLint

namespace Translation

theorem pairwise_untranslatedLines (lines : List Text) :
    (untranslatedLines lines).Pairwise (· < ·) := by
  have hall :=
    Message.pairwise_untranslatedLine_scanFrom (Metadata.headerIndex? lines) 1 false lines
  exact hall.sublist (List.filter_sublist.filterMap _)

theorem mem_untranslatedLines_iff {lines : List Text} {u : Nat} :
    u ∈ untranslatedLines lines ↔
      ∃ before m after, Message.scan lines = before ++ m :: after ∧ m.isHeader = false ∧
        m.untranslatedLine = some u := by
  rw [untranslatedLines, List.mem_filterMap]
  constructor
  · rintro ⟨m, hm, hu⟩
    obtain ⟨hscan, hheader⟩ := List.mem_filter.mp hm
    obtain ⟨before, after, hsplit⟩ := List.append_of_mem hscan
    exact ⟨before, m, after, hsplit, by simpa using hheader, hu⟩
  · rintro ⟨before, m, after, hsplit, hheader, hu⟩
    refine ⟨m, List.mem_filter.mpr ⟨?_, by simpa using hheader⟩, hu⟩
    rw [hsplit]
    simp

end Translation

namespace Message

theorem EndsEmpty.kind {lines : List Text} {u i : Nat} {line : Text}
    (h : EndsEmpty 1 lines u) (hu : u = i + 1) (hline : lines[i]? = some line) :
    Line.kind line = .emptyTranslation := by
  obtain ⟨j, line', rfl, hline', hk, -⟩ := h
  obtain rfl : i = j := by omega
  rw [hline] at hline'
  exact Option.some.inj hline' ▸ hk

end Message

namespace Rule

open Message in
/-- The empty translation of a message is on the least line behind the line of the message and in
front of the next message, or of the end, that starts an empty translation and has nothing or a
blank line behind it; there is none exactly if there is no such line. The rule on untranslated
messages without a threshold has these lines of the messages besides the header entry for its
findings, in increasing order; each is a line of its message, and none is obsolete. -/
theorem inspect_translated_locates (lines : List Text) :
    (∀ before m after, (Cursor.atTop lines).Yields (before ++ m :: after) →
      let stop := nextLine after (lines.length + 1)
      (∀ u, m.untranslatedLine = some u ↔
        IsLeast {v | m.line < v ∧ v < stop ∧ EndsEmpty 1 lines v} u) ∧
      (m.untranslatedLine = none ↔ ∀ v, m.line < v → v < stop → ¬ EndsEmpty 1 lines v)) ∧
    ∃ numbers : List Nat,
      (translated none).inspect lines =
        .ofViolations (numbers.map fun n => { line := some n, message := "Untranslated message" }) ∧
      numbers.Pairwise (· < ·) ∧
      (∀ u, u ∈ numbers ↔ ∃ before m after, scan lines = before ++ m :: after ∧
        m.isHeader = false ∧
        IsLeast {v | m.line < v ∧ v < nextLine after (lines.length + 1) ∧ EndsEmpty 1 lines v} u) ∧
      ∀ u ∈ numbers, ∀ i line, u = i + 1 → lines[i]? = some line →
        Line.kind line ≠ .obsolete := by
  refine ⟨?_, Translation.untranslatedLines lines, rfl,
    Translation.pairwise_untranslatedLines lines, ?_, ?_⟩
  · intro before m after hyields stop
    have hscan : scan lines = before ++ m :: after := (Cursor.yields_iff.mp hyields).symm
    exact ⟨fun u => untranslatedLine_eq_some_iff hscan, untranslatedLine_eq_none_iff hscan⟩
  · intro u
    rw [Translation.mem_untranslatedLines_iff]
    constructor
    · rintro ⟨before, m, after, hscan, hheader, hu⟩
      exact ⟨before, m, after, hscan, hheader, (untranslatedLine_eq_some_iff hscan).mp hu⟩
    · rintro ⟨before, m, after, hscan, hheader, hleast⟩
      exact ⟨before, m, after, hscan, hheader, (untranslatedLine_eq_some_iff hscan).mpr hleast⟩
  · intro u hu i line hi hline
    obtain ⟨before, m, after, hscan, -, hu⟩ := Translation.mem_untranslatedLines_iff.mp hu
    rw [((untranslatedLine_eq_some_iff hscan).mp hu).1.2.2.kind hi hline]
    decide

/-- A candidate in front of the first message, one with a comment behind it, one with a no-break
space behind it, and one more: the third counts. -/
theorem inspect_translated_locates_third :
    let lines : List Text := ["msgstr \"\"\n", "\n", "msgid \"a\"\n", "msgstr \"\"\n", "# c\n",
      "msgstr \"\"\n", "\u00a0\n", "msgstr \"\"\n", "\n", "msgid \"b\"\n", "msgstr \"\""]
    ∃ m after, (Message.Cursor.atTop lines).Yields (m :: after) ∧
      IsLeast {v | m.line < v ∧ v < Message.nextLine after 12 ∧ Message.EndsEmpty 1 lines v} 6 := by
  intro lines
  have hyields : (Message.Cursor.atTop lines).Yields (Message.scan lines) :=
    Message.Cursor.yields_iff.mpr rfl
  have hscan : Message.scan lines = [
      { line := 3, emptyId := false, isHeader := false, untranslatedLine := some 6, fuzzy := false },
      { line := 10, emptyId := false, isHeader := false, untranslatedLine := some 11,
        fuzzy := false }] := by
    decide
  rw [hscan] at hyields
  have hlocates := ((inspect_translated_locates lines).1 [] _ _ hyields).1 6
  exact ⟨_, _, hyields, hlocates.mp rfl⟩

end Rule

end CatalogLint
