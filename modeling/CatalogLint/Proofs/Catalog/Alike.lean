import CatalogLint.Catalog.Tally
import CatalogLint.Proofs.Catalog.Line

/-!
# Lines that read alike

To find messages, metadata and runs of obsolete lines five questions are put to a line, and its
text is read no further. Lines that answer all of them alike (`Line.Alike`) can stand for each
other: a function that takes each line to one like it leaves the messages, the extent of the
metadata, the runs and the tally as they are (`scan_alike`, `locate_alike`, `runs_alike`,
`Tally.ofLines_alike`). The values of the metadata are not among them.

Any two extracted comments are alike (`Line.alike_of_extractedComment`).
-/

namespace CatalogLint

namespace Line

/-- Two lines answer alike what is asked of a line. -/
structure Alike (a b : Text) : Prop where
  kind_eq : kind a = kind b
  hasEmptyId_eq : hasEmptyId a = hasEmptyId b
  isQuoted_eq : isQuoted a = isQuoted b
  isFuzzy_eq : isFuzzy a = isFuzzy b
  isBlank_eq : a.isBlank = b.isBlank

namespace Alike

variable {a b : Text}

protected theorem refl (a : Text) : Alike a a := ⟨rfl, rfl, rfl, rfl, rfl⟩

theorem hasEmptyTranslation_eq (h : Alike a b) :
    hasEmptyTranslation a = hasEmptyTranslation b := by
  rw [Bool.eq_iff_iff, ← kind_eq_emptyTranslation_iff, ← kind_eq_emptyTranslation_iff, h.kind_eq]

theorem startsWith_messageMark_eq (h : Alike a b) :
    a.startsWith messageMark = b.startsWith messageMark := by
  rw [Bool.eq_iff_iff, ← kind_eq_messageStart_iff, ← kind_eq_messageStart_iff, h.kind_eq]

end Alike

/-- To the questions besides that for its kind an extracted comment answers no. -/
theorem answers_of_extractedComment {line : Text} (hk : kind line = .extractedComment) :
    hasEmptyId line = false ∧ isQuoted line = false ∧ isFuzzy line = false ∧
      line.isBlank = false := by
  refine ⟨?_, ?_, ?_, ?_⟩
  · by_contra h
    rw [kind_of_hasEmptyId (by simpa using h)] at hk
    cases hk
  · by_contra h
    have hhead : line.head? = some '"' := by simpa [isQuoted] using h
    rw [kind_eq_other (by rw [hhead]; decide) (by rw [hhead]; decide)] at hk
    cases hk
  · rw [isFuzzy, hk]
    rfl
  · by_contra h
    rw [kind_of_isBlank (by simpa using h)] at hk
    cases hk

theorem alike_of_extractedComment {a b : Text} (ha : kind a = .extractedComment)
    (hb : kind b = .extractedComment) : Alike a b := by
  obtain ⟨hid, hquoted, hfuzzy, hblank⟩ := answers_of_extractedComment ha
  obtain ⟨hid', hquoted', hfuzzy', hblank'⟩ := answers_of_extractedComment hb
  exact ⟨ha.trans hb.symm, hid.trans hid'.symm, hquoted.trans hquoted'.symm,
    hfuzzy.trans hfuzzy'.symm, hblank.trans hblank'.symm⟩

end Line

section Map

variable {f : Text → Text} (hf : ∀ line, Line.Alike (f line) line)

include hf

/-! ## Metadata -/

namespace Metadata

theorem headerIndex?_alike (lines : List Text) :
    headerIndex? (lines.map f) = headerIndex? lines := by
  induction lines with
  | nil => rfl
  | cons line rest ih =>
    cases rest with
    | nil => rfl
    | cons next rest =>
      rw [List.map_cons] at ih
      rw [List.map_cons, List.map_cons, headerIndex?, headerIndex?, (hf line).hasEmptyId_eq,
        (hf next).hasEmptyTranslation_eq, ih]

theorem locate_alike (lines : List Text) : locate (lines.map f) = locate lines := by
  have hquoted : ∀ line, Line.isQuoted (f line) = Line.isQuoted line :=
    fun line => (hf line).isQuoted_eq
  have hblank : ∀ line, (f line).isBlank = line.isBlank := fun line => (hf line).isBlank_eq
  unfold locate
  rw [headerIndex?_alike hf]
  simp only [← List.map_drop, List.head?_map, Option.any_map, List.takeWhile_map, List.length_map,
    Function.comp_def, hquoted, hblank]

end Metadata

/-! ## Messages and runs of obsolete lines -/

namespace Message

theorem endsTranslation_alike (lines : List Text) :
    endsTranslation (lines.map f) = endsTranslation lines := by
  cases lines with
  | nil => rfl
  | cons next rest => exact (hf next).isBlank_eq

theorem scanFrom_alike (header : Option Nat) (n : Nat) (fuzzy : Bool) (open? : Option Message)
    (lines : List Text) :
    scanFrom header n fuzzy open? (lines.map f) = scanFrom header n fuzzy open? lines := by
  induction lines generalizing n fuzzy open? with
  | nil => rfl
  | cons line rest ih =>
    rw [List.map_cons, scanFrom, scanFrom]
    simp only [(hf line).kind_eq, (hf line).hasEmptyId_eq, (hf line).isFuzzy_eq,
      endsTranslation_alike hf, ih]

theorem scan_alike (lines : List Text) : scan (lines.map f) = scan lines := by
  rw [scan, scanFrom_alike hf, Metadata.headerIndex?_alike hf, scan]

theorem scanBody_alike (lines : List Text) : scanBody (lines.map f) = scanBody lines := by
  rw [scanBody, scan_alike hf, scanBody]

theorem countStarts_alike (lines : List Text) :
    countStarts (lines.map f) = countStarts lines := by
  have hmark : ∀ line, (f line).startsWith Line.messageMark = line.startsWith Line.messageMark :=
    fun line => (hf line).startsWith_messageMark_eq
  simp only [countStarts, List.countP_map, Function.comp_def, hmark]

end Message

namespace Obsolete

theorem runsFrom_alike (inside : Bool) (n : Nat) (lines : List Text) :
    runsFrom inside n (lines.map f) = runsFrom inside n lines := by
  induction lines generalizing inside n with
  | nil => rfl
  | cons line rest ih =>
    rw [List.map_cons, runsFrom, runsFrom, startsRun, (hf line).kind_eq, ih, startsRun]

theorem runs_alike (lines : List Text) : runs (lines.map f) = runs lines :=
  runsFrom_alike hf false 1 lines

end Obsolete

theorem Tally.ofLines_alike (lines : List Text) : ofLines (lines.map f) = ofLines lines := by
  rw [ofLines, Message.scanBody_alike hf, Obsolete.runs_alike hf, ofLines]

end Map

end CatalogLint
