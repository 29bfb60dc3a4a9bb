import CatalogLint.Catalog.Tally
import CatalogLint.Proofs.Catalog.Line
import CatalogLint.Proofs.Catalog.Scan
import CatalogLint.Rule.Translation

/-!
# Translated messages

What a message is translated to is read off its lines: each line `msgstr`, that of a plural
form included, writes one `Rendition`, the quoted text of that line and of the quoted lines
right below it. A message is translated indeed if one of its renditions is not empty.

The scan looks for less. It takes a message for translated unless one of its renditions is
*bare*: its line starts with `msgstr ""`, and nothing or a blank line comes next
(`isTranslated_iff_forall_bare`). So the verdict is sound for exactly those messages that have
a rendition which is bare or not empty (`isTranslated_sound_iff`). A message whose renditions
are all empty, none of them bare, passes for translated: one with empty plural forms, one whose
empty translation has a comment or the next message right below it, one without any
translation (`exists_isTranslated_without_text`).
-/

namespace CatalogLint

/-! ## Renditions -/

/-- A translation of a message, as its lines write it. -/
structure Rendition where
  /-- The quoted texts of its lines, one after the other. -/
  text : Text
  /-- Whether its first line starts with an empty text and nothing or a blank line comes next. -/
  bare : Bool
  deriving DecidableEq, Repr

namespace Line

/-- The front of the first line of a translation, that of a plural form included. -/
def translationMark : Text := "msgstr"

/-- What stands between the first quote of a line and the next one, or the end of the line.
An escaped quote ends the text as well, which cannot make it empty. -/
def quotedText (line : Text) : Text :=
  (((line.dropEndWhile fun c => c = '\n' || c = '\r').dropWhile (· != '"')).drop 1).takeWhile
    (· != '"')

end Line

namespace Message

/-- The renditions that lines hold up to the next message. -/
def renditions : List Text → List Rendition
  | [] => []
  | line :: rest =>
    if line.startsWith Line.messageMark then []
    else if line.startsWith Line.translationMark then
      { text := Line.quotedText line ++ (rest.takeWhile Line.isQuoted).flatMap Line.quotedText
        bare := Line.hasEmptyTranslation line && endsTranslation rest } :: renditions rest
    else renditions rest

/-- The renditions of a message of a catalogue, on the lines below its first one. -/
def renditionsIn (m : Message) (lines : List Text) : List Rendition :=
  renditions (lines.drop m.line)

/-- Whether a message of a catalogue has a translation that is not empty. -/
def HasText (m : Message) (lines : List Text) : Prop := ∃ r ∈ m.renditionsIn lines, r.text ≠ []

/-- A line that starts an empty translation starts a translation. -/
theorem startsWith_translationMark {line : Text} (h : Line.hasEmptyTranslation line = true) :
    line.startsWith Line.translationMark = true := by
  have hm : Line.translationMark <+: Line.emptyTranslationMark :=
    List.isPrefixOf_iff_prefix.mp (by decide)
  exact List.isPrefixOf_iff_prefix.mpr (hm.trans (List.isPrefixOf_iff_prefix.mp h))

/-- The quoted text is empty where an empty translation starts. -/
theorem quotedText_of_hasEmptyTranslation {line : Text}
    (h : Line.hasEmptyTranslation line = true) : Line.quotedText line = [] := by
  obtain ⟨rest, rfl⟩ := Text.startsWith_iff.mp h
  -- No character of the mark ends a line, so that the mark stays when the line ending goes.
  rw [Line.quotedText, Text.dropEndWhile_append (by decide)]
  rfl

/-- A bare rendition is empty. -/
theorem text_of_bare {lines : List Text} {r : Rendition} (hr : r ∈ renditions lines)
    (hb : r.bare = true) : r.text = [] := by
  induction lines with
  | nil => cases hr
  | cons line rest ih =>
    unfold renditions at hr
    split at hr
    · cases hr
    · split at hr
      · rcases List.mem_cons.mp hr with rfl | hr
        · obtain ⟨he, hn⟩ := Bool.and_eq_true_iff.mp hb
          have hq : rest.takeWhile Line.isQuoted = [] := by
            cases rest with
            | nil => rfl
            | cons next _ => simp [Line.isQuoted_of_isBlank hn]
          simp [quotedText_of_hasEmptyTranslation he, hq]
        · exact ih hr
      · exact ih hr

/-! ## The search for a bare rendition -/

/-- The search for the first empty translation fails if no rendition is bare. -/
theorem firstEmpty_eq_none_iff {n : Nat} {lines : List Text} :
    firstEmpty n lines = none ↔ ∀ r ∈ renditions lines, r.bare = false := by
  induction lines generalizing n with
  | nil => simp [firstEmpty, renditions]
  | cons line rest ih =>
    unfold firstEmpty renditions
    by_cases hs : line.startsWith Line.messageMark = true
    · simp [hs, Line.kind_eq_messageStart_iff]
    · have hk : Line.kind line ≠ .messageStart := fun h => hs (Line.kind_eq_messageStart_iff.mp h)
      rw [if_neg hk, if_neg hs]
      by_cases he : Line.hasEmptyTranslation line = true
      · rw [if_pos (startsWith_translationMark he)]
        by_cases hn : endsTranslation rest = true
        · simp [Line.kind_eq_emptyTranslation_iff, he, hn]
        · simp [he, hn, ih]
      · by_cases ht : line.startsWith Line.translationMark = true
        · simp [Line.kind_eq_emptyTranslation_iff, he, ht, ih]
        · simp [Line.kind_eq_emptyTranslation_iff, he, ht, ih]

/-- The scan takes a message for translated unless one of its renditions is bare. -/
theorem isTranslated_iff_forall_bare {lines : List Text} {m : Message} (hm : m ∈ scan lines) :
    m.isTranslated = true ↔ ∀ r ∈ m.renditionsIn lines, r.bare = false := by
  obtain ⟨above, line, below, rfl, -, rfl⟩ := mem_scan.mp hm
  have hd : (above ++ line :: below).drop (1 + above.length) = below := by
    rw [Nat.add_comm, ← List.drop_drop, List.drop_left, List.drop_one, List.tail_cons]
  rw [isTranslated, renditionsIn, Option.isNone_iff_eq_none]
  simp only [begun, hd]
  exact firstEmpty_eq_none_iff

/-- The verdict on a message is sound exactly if it has a rendition that is bare or not empty. -/
theorem hasText_of_isTranslated_iff {lines : List Text} {m : Message} (hm : m ∈ scan lines) :
    (m.isTranslated = true → m.HasText lines) ↔
      ∃ r ∈ m.renditionsIn lines, r.bare = true ∨ r.text ≠ [] := by
  constructor
  · intro h
    by_cases ht : m.isTranslated = true
    · obtain ⟨r, hr, hne⟩ := h ht
      exact ⟨r, hr, Or.inr hne⟩
    · rw [isTranslated_iff_forall_bare hm] at ht
      push Not at ht
      obtain ⟨r, hr, hb⟩ := ht
      exact ⟨r, hr, Or.inl (by simpa using hb)⟩
  · rintro ⟨r, hr, hb | hne⟩ ht
    · have := (isTranslated_iff_forall_bare hm).mp ht r hr
      rw [hb] at this
      cases this
    · exact ⟨r, hr, hne⟩

/-! ## Verdicts and counts -/

/-- A message is taken for translated exactly if none of its renditions is bare, bare ones being
empty, and this is sound exactly if one of them is bare or not empty. The rule on untranslated
messages and the tally count accordingly. -/
theorem isTranslated_sound_iff (lines : List Text) :
    (∀ m ∈ scan lines,
      (m.isTranslated = true ↔ ∀ r ∈ m.renditionsIn lines, r.bare = false) ∧
      (∀ r ∈ m.renditionsIn lines, r.bare = true → r.text = []) ∧
      ((m.isTranslated = true → m.HasText lines) ↔
        ∃ r ∈ m.renditionsIn lines, r.bare = true ∨ r.text ≠ [])) ∧
    Translation.countTranslated lines =
      (scanBody lines).countP (fun m => (m.renditionsIn lines).all (!·.bare)) ∧
    (Tally.ofLines lines).translated =
      (scanBody lines).countP (fun m => !m.fuzzy && (m.renditionsIn lines).all (!·.bare)) := by
  have hv : ∀ m ∈ scanBody lines, m.isTranslated = (m.renditionsIn lines).all (!·.bare) := by
    intro m hm
    have := isTranslated_iff_forall_bare (List.mem_filter.mp hm).1
    rw [Bool.eq_iff_iff, this]
    simp
  refine ⟨fun m hm => ⟨isTranslated_iff_forall_bare hm, fun r hr hb => text_of_bare hr hb,
    hasText_of_isTranslated_iff hm⟩, ?_, ?_⟩
  · exact List.countP_congr fun m hm => by rw [hv m hm]
  · exact List.countP_congr fun m hm => by rw [hv m hm]

/-- A plural form whose text stands on a quoted line of its own is found. -/
theorem hasText_of_isTranslated_plural :
    ∃ m ∈ scan ["msgid \"a\"\n", "msgid_plural \"b\"\n", "msgstr[0] \"\"\n", "\"c\"\n"],
      m.isTranslated = true ∧
        m.HasText ["msgid \"a\"\n", "msgid_plural \"b\"\n", "msgstr[0] \"\"\n", "\"c\"\n"] := by
  let m : Message := ⟨1, false, false, none, false⟩
  have hm : m ∈ scan
      ["msgid \"a\"\n", "msgid_plural \"b\"\n", "msgstr[0] \"\"\n", "\"c\"\n"] := by decide
  have ht : m.isTranslated = true := by decide
  exact ⟨m, hm, ht, (((isTranslated_sound_iff _).1 m hm).2.2.mpr (by decide)) ht⟩

/-- Messages without a translation that is not empty pass for translated: one with an empty plural
form, one with a comment right below its empty translation, one without any translation. -/
theorem exists_isTranslated_without_text :
    (∃ m ∈ scan ["msgid \"a\"\n", "msgid_plural \"b\"\n", "msgstr[0] \"\"\n"],
      m.isTranslated = true ∧
        ¬ m.HasText ["msgid \"a\"\n", "msgid_plural \"b\"\n", "msgstr[0] \"\"\n"]) ∧
    (∃ m ∈ scan ["msgid \"a\"\n", "msgstr \"\"\n", "# b\n"],
      m.isTranslated = true ∧ ¬ m.HasText ["msgid \"a\"\n", "msgstr \"\"\n", "# b\n"]) ∧
    (∃ m ∈ scan ["msgid \"a\"\n"], m.isTranslated = true ∧ ¬ m.HasText ["msgid \"a\"\n"]) := by
  unfold HasText
  decide

end Message

end CatalogLint
