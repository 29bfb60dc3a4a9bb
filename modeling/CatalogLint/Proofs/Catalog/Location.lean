import CatalogLint.Proofs.Catalog.Fields
import CatalogLint.Proofs.Catalog.Metadata
import CatalogLint.Proofs.Catalog.Written
import CatalogLint.Proofs.Text.Splitting
import Mathlib.Order.Bounds.Basic

/-!
# Where metadata is found

A header entry can start at an index if the line there has an empty identifier and the next one the
start of an empty translation (`IsEntry`); the header entry of a catalogue is at the least such index
(`headerIndex?_eq_some_iff`). If the line below the entry is quoted, the block of metadata starts
there, and it has one end only: in front of the first blank line, or the end of the catalogue
(`IsExtent`, `locate_eq_block_iff`).

So a block lies within its catalogue, whose lines outside of it are those that remain without it, and
the fields of the block are read from the lines of it that hold the separator (`locate_exact`).
-/

namespace CatalogLint

/-- A text is cut at a mark if it holds the mark. -/
theorem Text.isSome_splitAtFirst?_iff {t mark : Text} :
    (t.splitAtFirst? mark).isSome = true ↔ mark <:+: t := by
  induction t with
  | nil =>
    rw [splitAtFirst?, List.infix_nil, ← List.isEmpty_iff]
    split
    · rename_i h
      simp [h]
    · rename_i h
      simp [h]
  | cons c t ih =>
    rw [splitAtFirst?, List.infix_cons_iff, ← ih, ← List.isPrefixOf_iff_prefix]
    have hafter : mark.isPrefixOf (c :: t) = (after? (c :: t) mark).isSome :=
      startsWith_eq_isSome (c :: t) mark
    rw [hafter]
    cases after? (c :: t) mark with
    | none => simp
    | some rest => simp

/-- What is left of a list without the elements whose indices are in a range. -/
theorem map_fst_filter_zipIdx {α : Type} (front middle back : List α) :
    ((front ++ (middle ++ back)).zipIdx.filter fun x =>
        x.2 < front.length || front.length + middle.length ≤ x.2).map Prod.fst = front ++ back := by
  have hfront : (front.zipIdx.filter fun x =>
      x.2 < front.length || front.length + middle.length ≤ x.2) = front.zipIdx := by
    apply List.filter_eq_self.mpr
    intro x hx
    have := (List.mem_zipIdx hx).2.1
    simp only [Bool.or_eq_true, decide_eq_true_eq]
    omega
  have hmiddle : ((middle.zipIdx front.length).filter fun x =>
      x.2 < front.length || front.length + middle.length ≤ x.2) = [] := by
    apply List.filter_eq_nil_iff.mpr
    intro x hx
    have := List.mem_zipIdx hx
    simp only [Bool.or_eq_true, decide_eq_true_eq]
    omega
  have hback : ((back.zipIdx (front.length + middle.length)).filter fun x =>
      x.2 < front.length || front.length + middle.length ≤ x.2) =
        back.zipIdx (front.length + middle.length) := by
    apply List.filter_eq_self.mpr
    intro x hx
    have := (List.mem_zipIdx hx).1
    simp only [Bool.or_eq_true, decide_eq_true_eq]
    omega
  rw [List.zipIdx_append, List.zipIdx_append, Nat.zero_add, List.filter_append, List.filter_append,
    hfront, hmiddle, hback, List.nil_append, List.map_append, List.zipIdx_map_fst,
    List.zipIdx_map_fst]

namespace Metadata

variable {lines : List Text}

/-! ## The header entry -/

/-- At the index `i` is a line with an empty identifier, and below it one with the start of an empty
translation. -/
def IsEntry (lines : List Text) (i : Nat) : Prop :=
  ∃ first second, lines[i]? = some first ∧ lines[i + 1]? = some second ∧
    Line.emptyIdMark <+: first ∧ Line.emptyTranslationMark <+: second

theorem isEntry_zero_iff {line next : Text} {rest : List Text} :
    IsEntry (line :: next :: rest) 0 ↔
      (Line.hasEmptyId line && Line.hasEmptyTranslation next) = true := by
  rw [Bool.and_eq_true, Line.hasEmptyId, Line.hasEmptyTranslation, Text.startsWith, Text.startsWith,
    List.isPrefixOf_iff_prefix, List.isPrefixOf_iff_prefix]
  constructor
  · rintro ⟨first, second, hfirst, hsecond, hid, htranslation⟩
    obtain rfl : line = first := Option.some.inj hfirst
    obtain rfl : next = second := Option.some.inj hsecond
    exact ⟨hid, htranslation⟩
  · rintro ⟨hid, htranslation⟩
    exact ⟨line, next, rfl, rfl, hid, htranslation⟩

theorem headerIndex?_eq_none_iff_isEntry : headerIndex? lines = none ↔ ∀ i, ¬ IsEntry lines i := by
  rw [headerIndex?_eq_none_iff]
  simp only [Line.hasEmptyId, Line.hasEmptyTranslation, Text.startsWith, List.isPrefixOf_iff_prefix]
  constructor
  · rintro h i ⟨first, second, hfirst, hsecond, hmarks⟩
    exact h i first second hfirst hsecond hmarks
  · intro h i first second hfirst hsecond hmarks
    exact h i ⟨first, second, hfirst, hsecond, hmarks⟩

theorem isLeast_of_headerIndex? {h : Nat} (hh : headerIndex? lines = some h) :
    IsLeast {i | IsEntry lines i} h := by
  induction lines generalizing h with
  | nil => cases hh
  | cons line rest ih =>
    cases rest with
    | nil => cases hh
    | cons next rest =>
      rw [headerIndex?] at hh
      split at hh
      · rename_i hpair
        cases hh
        constructor
        · exact isEntry_zero_iff.mpr hpair
        · intro i _
          exact Nat.zero_le i
      · rename_i hpair
        obtain ⟨k, hk, rfl⟩ := Option.map_eq_some_iff.mp hh
        obtain ⟨hmem, hlower⟩ := ih hk
        constructor
        · exact hmem
        · intro i hi
          cases i with
          | zero => exact absurd (isEntry_zero_iff.mp hi) hpair
          | succ i => exact Nat.succ_le_succ (hlower hi)

/-- The header entry is at the least index at which one can start. -/
theorem headerIndex?_eq_some_iff {h : Nat} :
    headerIndex? lines = some h ↔ IsLeast {i | IsEntry lines i} h := by
  constructor
  · exact isLeast_of_headerIndex?
  · intro hleast
    cases hh : headerIndex? lines with
    | none => exact absurd hleast.1 (headerIndex?_eq_none_iff_isEntry.mp hh h)
    | some k => rw [(isLeast_of_headerIndex? hh).unique hleast]

/-! ## The extent of a block -/

/-- The line at the index `i` is quoted. -/
def IsQuotedAt (lines : List Text) (i : Nat) : Prop :=
  ∃ line, lines[i]? = some line ∧ line.head? = some '"'

/-- Lines that are not blank, one at least, with a blank line or nothing below them. -/
structure IsExtent (lines : List Text) (start stop : Nat) : Prop where
  lt : start < stop
  le_length : stop ≤ lines.length
  not_blank : ∀ i line, start ≤ i → i < stop → lines[i]? = some line → line.isBlank = false
  ends : stop = lines.length ∨ ∃ line, lines[stop]? = some line ∧ line.isBlank = true

theorem IsExtent.stop_le {start stop stop' : Nat} (h : IsExtent lines start stop)
    (h' : IsExtent lines start stop') : stop ≤ stop' := by
  by_contra hlt
  rcases h'.ends with hend | ⟨line, hline, hblank⟩
  · have := h.le_length
    omega
  · have hfull := h.not_blank stop' line (Nat.le_of_lt h'.lt) (by omega) hline
    rw [hblank] at hfull
    cases hfull

theorem IsExtent.unique {start stop stop' : Nat} (h : IsExtent lines start stop)
    (h' : IsExtent lines start stop') : stop = stop' :=
  Nat.le_antisymm (h.stop_le h') (h'.stop_le h)

theorem isQuotedAt_iff {i : Nat} :
    IsQuotedAt lines i ↔ (lines.drop i).head?.any Line.isQuoted = true := by
  rw [List.head?_drop, IsQuotedAt]
  cases lines[i]? with
  | none => simp
  | some line => simp [Line.isQuoted]

/-- What is found in a catalogue with a header entry. -/
theorem locate_cases {h : Nat} (hh : headerIndex? lines = some h) :
    (¬ IsQuotedAt lines (h + 2) ∧ locate lines = .empty h) ∨
    (IsQuotedAt lines (h + 2) ∧ ∃ stop, locate lines = .block ⟨h, stop⟩) := by
  unfold locate
  rw [hh]
  dsimp only
  by_cases hquoted : IsQuotedAt lines (h + 2)
  · right
    rw [if_pos (isQuotedAt_iff.mp hquoted)]
    exact ⟨hquoted, _, rfl⟩
  · left
    rw [if_neg (fun h => hquoted (isQuotedAt_iff.mpr h))]
    exact ⟨hquoted, rfl⟩

end Metadata

namespace BlockParts

variable {lines above body below : List Text} {b : MetadataBlock} {first second : Text}

theorem lines_eq_append (h : BlockParts lines b above first second body below) :
    lines = (above ++ [first, second]) ++ (body ++ below) := by
  rw [h.lines_eq, List.append_assoc]
  rfl

theorem length_front (h : BlockParts lines b above first second body below) :
    (above ++ [first, second]).length = b.start := by
  rw [h.start_eq, List.length_append]
  rfl

theorem length_front_body (h : BlockParts lines b above first second body below) :
    (above ++ [first, second]).length + body.length = b.stop := by
  rw [h.stop_eq, List.length_append]
  rfl

theorem drop_start (h : BlockParts lines b above first second body below) :
    lines.drop b.start = body ++ below := by
  rw [h.lines_eq_append, ← h.length_front, List.drop_left]

theorem isExtent (h : BlockParts lines b above first second body below) :
    Metadata.IsExtent lines b.start b.stop := by
  have hstop : b.stop = b.start + body.length := by
    rw [h.stop_eq, h.start_eq]
  have hlength : lines.length = b.start + (body.length + below.length) := by
    rw [h.lines_eq_append, List.length_append, h.length_front, List.length_append]
  have hbody := List.length_pos_iff.mpr h.body_ne_nil
  refine ⟨by omega, by omega, ?_, ?_⟩
  · intro i line hi hlt hline
    obtain ⟨k, rfl⟩ := Nat.exists_eq_add_of_le hi
    rw [← List.getElem?_drop, h.drop_start, List.getElem?_append_left (by omega)] at hline
    exact h.body_not_blank line (List.mem_of_getElem? hline)
  · cases hbelow : below with
    | nil =>
      left
      rw [hbelow, List.length_nil] at hlength
      omega
    | cons line rest =>
      right
      have hhead : below.head? = some line := by rw [hbelow]; rfl
      refine ⟨line, ?_, h.below_blank line hhead⟩
      rw [← List.head?_drop, h.drop_stop, hhead]

/-- The catalogue falls into three slices, and those around the block are what remains. -/
theorem slices (h : BlockParts lines b above first second body below) :
    slice? lines 0 b.start = some (above ++ [first, second]) ∧
      slice? lines b.start b.stop = some (b.slice lines) ∧
      slice? lines b.stop lines.length = some below ∧
      b.removeFrom lines = (above ++ [first, second]) ++ below := by
  have hremove : b.removeFrom lines = (above ++ [first, second]) ++ below := by
    rw [h.removeFrom_eq, List.append_assoc]
    rfl
  have hfront := h.length_front
  have hstop := h.length_front_body
  refine ⟨?_, ?_, ?_, hremove⟩
  · rw [h.lines_eq_append]
    exact slice?_append [] _ _ rfl (by simp only [List.length_nil]; omega)
  · rw [h.slice_eq, h.lines_eq_append]
    exact slice?_append _ _ _ hfront.symm hstop.symm
  · have hback := slice?_append ((above ++ [first, second]) ++ body) below []
      (i := b.stop) (j := lines.length) (by rw [List.length_append, hstop])
      (by rw [h.lines_eq_append]; simp only [List.length_append]; omega)
    rwa [List.append_nil, List.append_assoc, ← h.lines_eq_append] at hback

theorem removeFrom_eq_filter (h : BlockParts lines b above first second body below) :
    b.removeFrom lines =
      (lines.zipIdx.filter fun x => x.2 < b.start || b.stop ≤ x.2).map Prod.fst := by
  have hfilter := map_fst_filter_zipIdx (above ++ [first, second]) body below
  rw [h.length_front_body, h.length_front, ← h.lines_eq_append] at hfilter
  rw [hfilter]
  exact h.slices.2.2.2

end BlockParts

namespace MetadataBlock

variable {lines : List Text} {b : MetadataBlock}

/-! ## The fields of a block -/

/-- There is a field at the number of each line of the block that holds the separator, and at no
other. -/
theorem exists_mem_fields_iff {i : Nat} :
    (∃ field ∈ b.fields lines, field.line = i + 1) ↔
      b.start ≤ i ∧ i < b.stop ∧ ∃ line, lines[i]? = some line ∧ ": ".toList <:+: line := by
  simp only [mem_fields_iff, ← Text.isSome_splitAtFirst?_iff]
  constructor
  · rintro ⟨field, ⟨k, line, hle, hlt, hline, hnumber, hread⟩, hi⟩
    obtain rfl : k = i := by omega
    rw [Metadata.readField?, Option.map_eq_some_iff] at hread
    obtain ⟨cut, hcut, -⟩ := hread
    exact ⟨hle, hlt, line, hline, by rw [hcut, Option.isSome_some]⟩
  · rintro ⟨hle, hlt, line, hline, hcut⟩
    obtain ⟨cut, hcut⟩ := Option.isSome_iff_exists.mp hcut
    have hread : Metadata.readField? line =
        some (cut.1.dropWhile (· = '"'), Metadata.cleanValue cut.2) := by
      rw [Metadata.readField?, hcut, Option.map_some]
    exact ⟨⟨i + 1, _, _⟩, ⟨i, line, hle, hlt, hline, rfl, hread⟩, rfl⟩

end MetadataBlock

namespace Metadata

variable {lines : List Text}

theorem locate_eq_noHeader_iff : locate lines = .noHeader ↔ ∀ i, ¬ IsEntry lines i := by
  rw [← headerIndex?_eq_none_iff_isEntry]
  cases hh : headerIndex? lines with
  | none => simp [locate, hh]
  | some h =>
    rcases locate_cases hh with ⟨-, heq⟩ | ⟨-, stop, heq⟩
    · simp [heq]
    · simp [heq]

theorem locate_eq_empty_iff {h : Nat} :
    locate lines = .empty h ↔ IsLeast {i | IsEntry lines i} h ∧ ¬ IsQuotedAt lines (h + 2) := by
  rw [← headerIndex?_eq_some_iff]
  constructor
  · intro hlocate
    cases hh : headerIndex? lines with
    | none => simp [locate, hh] at hlocate
    | some k =>
      rcases locate_cases hh with ⟨hquoted, heq⟩ | ⟨-, stop, heq⟩
      · rw [hlocate] at heq
        cases heq
        exact ⟨rfl, hquoted⟩
      · rw [hlocate] at heq
        cases heq
  · rintro ⟨hh, hquoted⟩
    rcases locate_cases hh with ⟨-, heq⟩ | ⟨hquoted', -⟩
    · exact heq
    · exact absurd hquoted' hquoted

/-- Whether there is a block depends on the line below the header entry only. -/
theorem exists_locate_eq_block_iff {h : Nat} (hleast : IsLeast {i | IsEntry lines i} h) :
    (∃ b, locate lines = .block b) ↔ IsQuotedAt lines (h + 2) := by
  rcases locate_cases (headerIndex?_eq_some_iff.mpr hleast) with
    ⟨hquoted, heq⟩ | ⟨hquoted, stop, heq⟩
  · constructor
    · rintro ⟨b, hb⟩
      rw [heq] at hb
      cases hb
    · intro hquoted'
      exact absurd hquoted' hquoted
  · constructor
    · intro _
      exact hquoted
    · intro _
      exact ⟨_, heq⟩

/-- A block is known by the header entry, the quoted line below it and its extent. -/
theorem locate_eq_block_iff {b : MetadataBlock} :
    locate lines = .block b ↔
      IsLeast {i | IsEntry lines i} b.header ∧ IsQuotedAt lines b.start ∧
        IsExtent lines b.start b.stop := by
  rw [← headerIndex?_eq_some_iff]
  constructor
  · intro hlocate
    obtain ⟨above, first, second, body, below, hparts⟩ := exists_blockParts hlocate
    have hh : headerIndex? lines = some b.header := by
      rw [hparts.lines_eq, hparts.headerIndex?, hparts.header_eq]
    refine ⟨hh, ?_, hparts.isExtent⟩
    rcases locate_cases hh with ⟨-, heq⟩ | ⟨hquoted, -⟩
    · rw [hlocate] at heq
      cases heq
    · exact hquoted
  · rintro ⟨hh, hquoted, hextent⟩
    rcases locate_cases hh with ⟨hquoted', -⟩ | ⟨-, stop, heq⟩
    · exact absurd hquoted hquoted'
    · obtain ⟨above, first, second, body, below, hparts⟩ := exists_blockParts heq
      have hstop : b.stop = stop := hextent.unique hparts.isExtent
      rw [heq, ← hstop]

/-- Metadata is found where it is. There is no header entry exactly if no line with an empty
identifier stands right above one with the start of an empty translation; otherwise the header entry
is at the least index of such a line. There is a block exactly if the line below these two is there
and quoted. It starts with that line, holds no blank line, and ends in front of one or at the end of
the catalogue, within which it lies. So all slices that are taken of the catalogue are in range. What
remains without the block are the lines outside of it, in order, and the fields of the block have
increasing numbers, which are those of the lines of the block that hold the separator. -/
theorem locate_exact (lines : List Text) :
    (locate lines = .noHeader ↔ ∀ i, ¬ IsEntry lines i) ∧
    (∀ h, locate lines = .empty h ↔
      IsLeast {i | IsEntry lines i} h ∧ ¬ IsQuotedAt lines (h + 2)) ∧
    (∀ h, IsLeast {i | IsEntry lines i} h →
      ((∃ b, locate lines = .block b) ↔ IsQuotedAt lines (h + 2))) ∧
    (∀ b, locate lines = .block b ↔
      IsLeast {i | IsEntry lines i} b.header ∧ IsQuotedAt lines (b.header + 2) ∧
        IsExtent lines (b.header + 2) b.stop) ∧
    ∀ b, locate lines = .block b →
      (∃ above below, slice? lines 0 b.start = some above ∧
        slice? lines b.start b.stop = some (b.slice lines) ∧
        slice? lines b.stop lines.length = some below ∧
        b.removeFrom lines = above ++ below) ∧
      b.removeFrom lines =
        (lines.zipIdx.filter fun x => x.2 < b.start || b.stop ≤ x.2).map Prod.fst ∧
      (b.fields lines).Pairwise (·.line < ·.line) ∧
      (∀ field ∈ b.fields lines, b.start + 1 ≤ field.line ∧ field.line ≤ b.stop) ∧
      ∀ i, (∃ field ∈ b.fields lines, field.line = i + 1) ↔
        b.start ≤ i ∧ i < b.stop ∧ ∃ line, lines[i]? = some line ∧ ": ".toList <:+: line := by
  refine ⟨locate_eq_noHeader_iff, fun h => locate_eq_empty_iff,
    fun h => exists_locate_eq_block_iff, fun b => locate_eq_block_iff, ?_⟩
  intro b hb
  obtain ⟨above, first, second, body, below, hparts⟩ := exists_blockParts hb
  refine ⟨⟨_, below, hparts.slices⟩, hparts.removeFrom_eq_filter,
    MetadataBlock.pairwise_fields b lines, ?_, fun i => MetadataBlock.exists_mem_fields_iff⟩
  intro field hfield
  obtain ⟨i, line, hle, hlt, -, hnumber, -⟩ := MetadataBlock.mem_fields_iff.mp hfield
  omega

end Metadata

end CatalogLint
