import CatalogLint.Catalog.Line
import CatalogLint.Proofs.Text.Basic
import Mathlib.Tactic.SplitIfs

/-!
# Kinds of lines

No mark of a line starts with the mark of another kind, so a line is of a kind exactly if it
bears the mark of that kind (`Line.kind_eq_iff`), whatever the order in which the marks are
tried. A blank line bears no mark.
-/

namespace CatalogLint.Line

/-- The mark of a kind of lines. -/
def mark? : LineKind → Option Text
  | .obsolete => some obsoleteMark
  | .extractedComment => some extractedCommentMark
  | .flags => some flagsMark
  | .messageStart => some messageMark
  | .emptyTranslation => some emptyTranslationMark
  | .other => none

/-- A line is of a kind exactly if it bears the mark of that kind. -/
theorem kind_eq_iff {line mark : Text} {k : LineKind} (hk : mark? k = some mark) :
    kind line = k ↔ line.startsWith mark = true := by
  constructor
  · intro h
    unfold kind at h
    split_ifs at h with h₁ h₂ h₃ h₄ h₅ <;> subst h <;> cases hk <;> assumption
  · intro h
    -- The marks that are tried before this one differ from it.
    cases k with
    | obsolete => cases hk; simp [kind, h]
    | extractedComment =>
      cases hk
      have h₁ := Text.startsWith_eq_false (b := obsoleteMark) (by decide) h
      simp [kind, h, h₁]
    | flags =>
      cases hk
      have h₁ := Text.startsWith_eq_false (b := obsoleteMark) (by decide) h
      have h₂ := Text.startsWith_eq_false (b := extractedCommentMark) (by decide) h
      simp [kind, h, h₁, h₂]
    | messageStart =>
      cases hk
      have h₁ := Text.startsWith_eq_false (b := obsoleteMark) (by decide) h
      have h₂ := Text.startsWith_eq_false (b := extractedCommentMark) (by decide) h
      have h₃ := Text.startsWith_eq_false (b := flagsMark) (by decide) h
      simp [kind, h, h₁, h₂, h₃]
    | emptyTranslation =>
      cases hk
      have h₁ := Text.startsWith_eq_false (b := obsoleteMark) (by decide) h
      have h₂ := Text.startsWith_eq_false (b := extractedCommentMark) (by decide) h
      have h₃ := Text.startsWith_eq_false (b := flagsMark) (by decide) h
      have h₄ := Text.startsWith_eq_false (b := messageMark) (by decide) h
      simp [kind, h, h₁, h₂, h₃, h₄]
    | other => cases hk

theorem kind_eq_messageStart_iff {line : Text} :
    kind line = .messageStart ↔ line.startsWith messageMark = true := kind_eq_iff rfl

theorem kind_eq_emptyTranslation_iff {line : Text} :
    kind line = .emptyTranslation ↔ hasEmptyTranslation line = true := kind_eq_iff rfl

theorem kind_eq_extractedComment_iff {line : Text} :
    kind line = .extractedComment ↔ line.startsWith extractedCommentMark = true :=
  kind_eq_iff rfl

/-- A line that starts a message with an empty identifier starts a message. -/
theorem kind_of_hasEmptyId {line : Text} (h : hasEmptyId line = true) :
    kind line = .messageStart := by
  obtain ⟨rest, rfl⟩ := Text.startsWith_iff.mp h
  exact kind_eq_messageStart_iff.mpr (Text.startsWith_iff.mpr ⟨'"' :: rest, rfl⟩)

/-- A line that starts neither with `#` nor with `m` bears no mark. -/
theorem kind_eq_other {line : Text} (hash : line.head? ≠ some '#')
    (hm : line.head? ≠ some 'm') : kind line = .other := by
  unfold kind
  split_ifs with h₁ h₂ h₃ h₄ h₅
  · exact absurd (Text.head?_of_startsWith h₁) hash
  · exact absurd (Text.head?_of_startsWith h₂) hash
  · exact absurd (Text.head?_of_startsWith h₃) hash
  · exact absurd (Text.head?_of_startsWith h₄) hm
  · exact absurd (Text.head?_of_startsWith h₅) hm
  · rfl

/-- The first character of a blank line is white space. -/
theorem isSpace_of_isBlank {line : Text} {c : Char} (h : line.isBlank = true)
    (hc : line.head? = some c) : isSpace c = true :=
  List.all_eq_true.mp h c (List.mem_of_mem_head? hc)

/-- A blank line bears no mark. -/
theorem kind_of_isBlank {line : Text} (h : line.isBlank = true) : kind line = .other := by
  refine kind_eq_other (fun hc => ?_) (fun hc => ?_)
  · exact absurd (isSpace_of_isBlank h hc) (by decide)
  · exact absurd (isSpace_of_isBlank h hc) (by decide)

/-- A blank line is not quoted. -/
theorem isQuoted_of_isBlank {line : Text} (h : line.isBlank = true) : isQuoted line = false := by
  by_contra hq
  have hc : line.head? = some '"' := by simpa [isQuoted] using hq
  exact absurd (isSpace_of_isBlank h hc) (by decide)

theorem isBlank_of_isQuoted {line : Text} (h : isQuoted line = true) : line.isBlank = false := by
  by_contra hblank
  rw [isQuoted_of_isBlank (Bool.not_eq_false _ ▸ hblank)] at h
  cases h

end CatalogLint.Line
