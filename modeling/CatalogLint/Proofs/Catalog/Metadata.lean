import CatalogLint.Catalog.Metadata
import CatalogLint.Proofs.Catalog.Line
import CatalogLint.Proofs.Text.Lines
import Mathlib.Data.List.TakeWhile

/-!
# The parts of a catalogue with metadata

The header entry is the first pair of lines of its kind (`headerIndex?_eq_some`), and whatever
comes below that pair does not change where it is found. A block of metadata cuts its catalogue
into five parts, `BlockParts`: the lines above the header entry, the two lines of the entry, the
block and the lines below the block. The block is the longest run of lines that are not blank.

Without its block the catalogue has the same header entry and no metadata
(`BlockParts.locate_removeFrom`), and its lines are those that a reader finds in its text
(`BlockParts.areLines_removeFrom`).
-/

namespace CatalogLint

/-- The parts into which a block of metadata cuts its catalogue. -/
structure BlockParts (lines : List Text) (b : MetadataBlock) (above : List Text)
    (first second : Text) (body below : List Text) : Prop where
  lines_eq : lines = above ++ first :: second :: (body ++ below)
  header_eq : b.header = above.length
  stop_eq : b.stop = above.length + 2 + body.length
  first_emptyId : Line.hasEmptyId first = true
  second_emptyTranslation : Line.hasEmptyTranslation second = true
  body_quoted : body.head?.any Line.isQuoted = true
  body_not_blank : ∀ line ∈ body, line.isBlank = false
  below_blank : ∀ line, below.head? = some line → line.isBlank = true
  /-- The header entry is found where it is, whatever stands below it. -/
  headerIndex? : ∀ other,
    Metadata.headerIndex? (above ++ first :: second :: other) = some above.length

namespace Metadata

/-- The header entry has an empty identifier and an empty start of a translation, and nothing
below it matters to where it is found. -/
theorem headerIndex?_eq_some {lines : List Text} {h : Nat} (hh : headerIndex? lines = some h) :
    ∃ above first second below, lines = above ++ first :: second :: below ∧ above.length = h ∧
      Line.hasEmptyId first = true ∧ Line.hasEmptyTranslation second = true ∧
      ∀ other, headerIndex? (above ++ first :: second :: other) = some above.length := by
  induction lines generalizing h with
  | nil => cases hh
  | cons line rest ih =>
    cases rest with
    | nil => cases hh
    | cons next rest =>
      rw [headerIndex?] at hh
      split at hh
      · rename_i hp
        obtain ⟨hi, ht⟩ := Bool.and_eq_true_iff.mp hp
        cases hh
        refine ⟨[], line, next, rest, rfl, rfl, hi, ht, fun other => ?_⟩
        simp [headerIndex?, hi, ht]
      · rename_i hp
        obtain ⟨k, hk, rfl⟩ := Option.map_eq_some_iff.mp hh
        obtain ⟨above, first, second, below, he, rfl, hi, ht, hl⟩ := ih hk
        refine ⟨line :: above, first, second, below, by rw [he]; rfl, rfl, hi, ht, fun other => ?_⟩
        -- The second line is `next`, whether the lines above are used up or not.
        have hn : ∃ tail, above ++ first :: second :: other = next :: tail := by
          cases above with
          | nil => exact ⟨second :: other, by rw [(List.cons.inj he).1]; rfl⟩
          | cons a above =>
            exact ⟨above ++ first :: second :: other, by rw [(List.cons.inj he).1]; rfl⟩
        obtain ⟨tail, htail⟩ := hn
        have ho := hl other
        rw [htail] at ho
        rw [List.cons_append, htail, headerIndex?, if_neg hp, ho]
        rfl

/-- The lines below the header entry. -/
theorem drop_entry (above : List Text) (first second : Text) (rest : List Text) :
    (above ++ first :: second :: rest).drop (above.length + 2) = rest := by
  rw [← List.drop_drop, List.drop_left]
  rfl

/-- A catalogue with metadata falls into its parts. -/
theorem exists_blockParts {lines : List Text} {b : MetadataBlock} (hb : locate lines = .block b) :
    ∃ above first second body below, BlockParts lines b above first second body below := by
  unfold locate at hb
  cases hh : headerIndex? lines with
  | none => simp [hh] at hb
  | some h =>
    obtain ⟨above, first, second, rest, rfl, rfl, hi, ht, hl⟩ := headerIndex?_eq_some hh
    simp only [hh, drop_entry] at hb
    split at hb
    · rename_i hq
      cases hb
      refine ⟨above, first, second, rest.takeWhile fun line => !line.isBlank,
        rest.dropWhile fun line => !line.isBlank, ?_, rfl, rfl, hi, ht, ?_, ?_, ?_, hl⟩
      · rw [List.takeWhile_append_dropWhile]
      · cases rest with
        | nil => cases hq
        | cons line rest =>
          have hn : line.isBlank = false := Line.isBlank_of_isQuoted hq
          simpa [hn] using hq
      · intro line hline
        simpa using List.mem_takeWhile_imp hline
      · intro line hline
        have hn := List.head?_dropWhile_not (fun line : Text => !line.isBlank) rest
        simpa [hline] using hn
    · cases hb

end Metadata

namespace BlockParts

variable {lines above body below : List Text} {b : MetadataBlock} {first second : Text}

theorem start_eq (h : BlockParts lines b above first second body below) :
    b.start = above.length + 2 := by
  rw [MetadataBlock.start, h.header_eq]

theorem slice_eq (h : BlockParts lines b above first second body below) :
    b.slice lines = body := by
  have hl : (above ++ first :: second :: body).length = b.stop := by
    simp [h.stop_eq]
    omega
  rw [MetadataBlock.slice, h.start_eq, h.lines_eq, ← List.cons_append, ← List.cons_append,
    ← List.append_assoc, ← hl, List.take_left, ← List.drop_drop, List.drop_left]
  rfl

theorem drop_stop (h : BlockParts lines b above first second body below) :
    lines.drop b.stop = below := by
  have hl : (above ++ first :: second :: body).length = b.stop := by
    simp [h.stop_eq]
    omega
  rw [h.lines_eq, ← List.cons_append, ← List.cons_append, ← List.append_assoc, ← hl,
    List.drop_left]

theorem removeFrom_eq (h : BlockParts lines b above first second body below) :
    b.removeFrom lines = above ++ first :: second :: below := by
  have ht : lines.take b.start = above ++ [first, second] := by
    rw [h.start_eq, h.lines_eq, List.take_append, List.take_of_length_le (by omega)]
    simp
  rw [MetadataBlock.removeFrom, h.drop_stop, ht]
  simp

theorem body_ne_nil (h : BlockParts lines b above first second body below) : body ≠ [] := by
  rintro rfl
  cases h.body_quoted

/-- The lines outside the block remain lines when the block goes. -/
theorem areLines_removeFrom (h : BlockParts lines b above first second body below)
    (hlines : Text.AreLines lines) : Text.AreLines (b.removeFrom lines) := by
  have hparts : Text.AreLines ((above ++ [first, second]) ++ (body ++ below)) := by
    rw [List.append_assoc]
    exact h.lines_eq ▸ hlines
  have hbelow : Text.AreLines below := hparts.of_append.of_append
  have hremoved : b.removeFrom lines = (above ++ [first, second]) ++ below := by
    rw [h.removeFrom_eq, List.append_assoc]
    rfl
  obtain ⟨line, rest, rfl⟩ := List.exists_cons_of_ne_nil h.body_ne_nil
  rw [hremoved]
  exact hparts.append hbelow

end BlockParts

end CatalogLint
