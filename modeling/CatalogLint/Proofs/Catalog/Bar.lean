import CatalogLint.Proofs.Number.Decimal
import CatalogLint.Proofs.Rule.Counts
import CatalogLint.Proofs.Text.Pieces
import Mathlib.Algebra.Order.Ring.Nat

/-!
# The bar of a tally

Each percentage is rounded down and so is each number of cells. A percentage is less than one below
the exact one (`percent_mul_le`, `lt_succ_percent_mul`), so that four percentages of counts that add
up to the total add up to a hundred or up to three less (`sum_percent_bounds`). The segments
of three of them never take more cells than there are (`add_cells_le`), and the last segment takes
what is left of the bar.

Numbers of 64 bits are enough for all products (`percentInWords?_eq`, `cellsInWords?_eq`). What a
terminal shows of a bar is the text without its escape sequences (`Style.shown`).
-/

namespace CatalogLint

/-! ## What a terminal shows -/

namespace Style

/-- What a terminal shows of a text, without the escape sequences that switch styles; `escaped` tells
whether the text starts within such a sequence. -/
def shown (escaped : Bool) : Text → Text
  | [] => []
  | c :: t =>
    if escaped then shown (c != 'm') t
    else if c = '\x1b' then shown true t
    else c :: shown false t

theorem shown_false_append {t : Text} (ht : '\x1b' ∉ t) (rest : Text) :
    shown false (t ++ rest) = t ++ shown false rest := by
  induction t with
  | nil => rfl
  | cons c t ih =>
    rw [List.mem_cons, not_or] at ht
    rw [List.cons_append, shown, if_neg Bool.false_ne_true, if_neg (Ne.symm ht.1), ih ht.2,
      List.cons_append]

/-- An escape sequence goes up to its letter. -/
theorem shown_true_append {t : Text} (ht : 'm' ∉ t) (rest : Text) :
    shown true (t ++ 'm' :: rest) = shown false rest := by
  induction t with
  | nil => rfl
  | cons c t ih =>
    rw [List.mem_cons, not_or] at ht
    have hc : (c != 'm') = true := bne_iff_ne.mpr (Ne.symm ht.1)
    rw [List.cons_append, shown, if_pos rfl, hc, ih ht.2]

/-- The numbers of a style have no letter. -/
theorem not_mem_join_codes (s : Style) : 'm' ∉ Text.join ";" (s.codes.map Text.ofNat) := by
  intro h
  rcases Text.mem_of_mem_join h with h | ⟨piece, hpiece, h⟩
  · exact absurd h (by decide)
  · obtain ⟨code, -, rfl⟩ := List.mem_map.mp hpiece
    exact absurd (Text.isDigit_of_mem_ofNat h) (by decide)

/-- A styled text is shown as the text. -/
theorem shown_paint_append {t : Text} (ht : '\x1b' ∉ t) (colours : Bool) (s : Style) (rest : Text) :
    shown false (paint colours s t ++ rest) = t ++ shown false rest := by
  rw [paint]
  split
  · have hswitch : ∀ codes u : Text, 'm' ∉ codes →
        shown false ("\x1b[" ++ codes ++ "m" ++ u) = shown false u := by
      intro codes u hcodes
      have hfront : 'm' ∉ '[' :: codes := by
        rw [List.mem_cons, not_or]
        exact ⟨by decide, hcodes⟩
      have hseq : "\x1b[".toList ++ codes ++ "m".toList ++ u =
          '\x1b' :: (('[' :: codes) ++ 'm' :: u) := by
        simp
      rw [hseq, shown, if_neg Bool.false_ne_true, if_pos rfl, shown_true_append hfront]
    have hreset : "\x1b[0m".toList ++ rest = "\x1b[".toList ++ "0".toList ++ "m".toList ++ rest := by
      simp
    rw [List.append_assoc, List.append_assoc, hswitch _ _ (not_mem_join_codes s),
      shown_false_append ht, hreset, hswitch "0" rest (by decide)]
  · exact shown_false_append ht rest

theorem shown_paint {t : Text} (ht : '\x1b' ∉ t) (colours : Bool) (s : Style) :
    shown false (paint colours s t) = t := by
  have h := shown_paint_append ht colours s []
  rwa [List.append_nil, shown, List.append_nil] at h

end Style

namespace Tally

/-- The four counts. -/
def counts (t : Tally) : List Nat := [t.translated, t.fuzzy, t.untranslated, t.obsolete]

/-- The counts add up to the total. -/
def Balanced (t : Tally) : Prop := t.counts.sum = t.total

instance (t : Tally) : Decidable t.Balanced := inferInstanceAs (Decidable (_ = _))

/-- The product of two numbers of 64 bits, unless it overflows. -/
def wordProduct? (a b : Nat) : Option Nat := if a * b < 2 ^ 64 then some (a * b) else none

/-- The percentage in numbers of 64 bits. -/
def percentInWords? (t : Tally) (count : Nat) : Option Nat :=
  if t.total = 0 then some 0 else (wordProduct? count 100).map (· / t.total)

/-- The number of cells in numbers of 64 bits. -/
def cellsInWords? (t : Tally) (count : Nat) : Option Nat :=
  ((t.percentInWords? count).bind (wordProduct? · barWidth)).map (· / 100)

variable {t : Tally} {count : Nat}

theorem balanced_iff :
    t.Balanced ↔ t.translated + t.fuzzy + t.untranslated + t.obsolete = t.total := by
  simp [Balanced, counts, Nat.add_assoc]

theorem Balanced.le_total (ht : t.Balanced) (hcount : count ∈ t.counts) : count ≤ t.total := by
  rw [balanced_iff] at ht
  simp only [counts, List.mem_cons, List.not_mem_nil, or_false] at hcount
  omega

/-- The tally of a catalogue adds up. -/
theorem balanced_ofLines (lines : List Text) : (ofLines lines).Balanced := by
  rw [balanced_iff, ← length_scanBody]
  rfl

/-! ## Percentages -/

theorem percent_mul_le (t : Tally) (count : Nat) : t.percent count * t.total ≤ count * 100 := by
  rw [percent]
  split
  · rw [Nat.zero_mul]
    exact Nat.zero_le _
  · exact Nat.div_mul_le_self (count * 100) t.total

theorem lt_succ_percent_mul (ht : 0 < t.total) (count : Nat) :
    count * 100 < (t.percent count + 1) * t.total := by
  rw [percent, if_neg ht.ne']
  exact (Nat.div_lt_iff_lt_mul ht).mp (Nat.lt_succ_self _)

theorem percent_le (hcount : count ≤ t.total) : t.percent count ≤ 100 := by
  rcases Nat.eq_zero_or_pos t.total with hzero | hpos
  · rw [percent, if_pos hzero]
    exact Nat.zero_le 100
  · apply Nat.le_of_mul_le_mul_right _ hpos
    calc t.percent count * t.total
        ≤ count * 100 := percent_mul_le t count
      _ ≤ 100 * t.total := by omega

/-- The percentages of parts of the total are parts of a hundred. -/
theorem sum_percent_le (ht : t.Balanced) :
    t.percent t.translated + t.percent t.fuzzy + t.percent t.untranslated + t.percent t.obsolete ≤
      100 := by
  rcases Nat.eq_zero_or_pos t.total with hzero | hpos
  · simp [percent, hzero]
  · rw [balanced_iff] at ht
    have h₁ := percent_mul_le t t.translated
    have h₂ := percent_mul_le t t.fuzzy
    have h₃ := percent_mul_le t t.untranslated
    have h₄ := percent_mul_le t t.obsolete
    apply Nat.le_of_mul_le_mul_right _ hpos
    rw [Nat.add_mul, Nat.add_mul, Nat.add_mul]
    omega

/-- The four percentages lose less than one each. -/
theorem le_sum_percent (ht : t.Balanced) (hpos : 0 < t.total) :
    97 ≤ t.percent t.translated + t.percent t.fuzzy + t.percent t.untranslated +
      t.percent t.obsolete := by
  rw [balanced_iff] at ht
  have h₁ := lt_succ_percent_mul hpos t.translated
  have h₂ := lt_succ_percent_mul hpos t.fuzzy
  have h₃ := lt_succ_percent_mul hpos t.untranslated
  have h₄ := lt_succ_percent_mul hpos t.obsolete
  have hlt : 100 * t.total < (t.percent t.translated + t.percent t.fuzzy +
      t.percent t.untranslated + t.percent t.obsolete + 4) * t.total := by
    simp only [Nat.add_mul, Nat.one_mul] at h₁ h₂ h₃ h₄ ⊢
    omega
  have := Nat.lt_of_mul_lt_mul_right hlt
  omega

/-! ## Cells -/

/-- The segments that are filled take no more cells than there are. -/
theorem add_cells_le (ht : t.Balanced) :
    t.cells t.translated + t.cells t.fuzzy + t.cells t.untranslated ≤ barWidth := by
  have := sum_percent_le ht
  simp only [cells, barWidth]
  omega

/-- The cells of the bar. -/
def segments (t : Tally) : Text :=
  let translated := t.cells t.translated
  let fuzzy := t.cells t.fuzzy
  let untranslated := t.cells t.untranslated
  Text.fill '█' translated ++ Text.fill '▒' fuzzy ++ Text.fill ' ' untranslated ++
    Text.fill ' ' (barWidth - (translated + fuzzy + untranslated))

theorem length_segments (ht : t.Balanced) : t.segments.length = barWidth := by
  have := add_cells_le ht
  simp only [segments, Text.fill, List.length_append, List.length_replicate]
  omega

/-- With each message translated the first segment is the whole bar. -/
theorem segments_of_translated (ht : t.Balanced) (hpos : 0 < t.total)
    (hall : t.translated = t.total) : t.segments = Text.fill '█' barWidth := by
  have hcells : t.cells t.translated = barWidth := by
    rw [cells, percent, if_neg hpos.ne', hall, Nat.mul_div_cancel_left 100 hpos]
    rfl
  have hfuzzy : t.cells t.fuzzy = 0 := by
    have := add_cells_le ht
    omega
  have huntranslated : t.cells t.untranslated = 0 := by
    have := add_cells_le ht
    omega
  simp [segments, hcells, hfuzzy, huntranslated, Text.fill]

/-- With and without colours a bar is shown as its cells between brackets. -/
theorem shown_bar (colours : Bool) (t : Tally) :
    Style.shown false (t.bar colours) = "[" ++ t.segments ++ "]" := by
  have hfill : ∀ (c : Char) (n : Nat), c ≠ '\x1b' → '\x1b' ∉ Text.fill c n := by
    intro c n hc h
    exact hc (List.eq_of_mem_replicate h).symm
  rw [bar]
  simp only [List.append_assoc]
  rw [Style.shown_paint_append (by decide), Style.shown_paint_append (hfill _ _ (by decide)),
    Style.shown_paint_append (hfill _ _ (by decide)),
    Style.shown_paint_append (hfill _ _ (by decide)),
    Style.shown_paint_append (hfill _ _ (by decide)), Style.shown_paint (by decide)]
  simp only [segments, List.append_assoc]

/-! ## Numbers of 64 bits -/

theorem percentInWords?_eq (hcount : count < 2 ^ 57) :
    t.percentInWords? count = some (t.percent count) := by
  rw [percentInWords?, percent]
  split
  · rfl
  · rw [wordProduct?, if_pos (by omega), Option.map_some]

theorem cellsInWords?_eq (hcount : count < 2 ^ 57) (hle : count ≤ t.total) :
    t.cellsInWords? count = some (t.cells count) := by
  have hpercent := percent_le hle
  have hproduct : t.percent count * barWidth < 2 ^ 64 := by
    rw [barWidth]
    omega
  rw [cellsInWords?, percentInWords?_eq hcount, Option.bind_some, wordProduct?, if_pos hproduct,
    Option.map_some, cells]

/-- The tally of each catalogue adds up, and if a tally adds up, its bar and its percentages are
sound. Below `2 ^ 57` messages no product overflows 64 bits. No percentage is more than a hundred, and
unless there are no messages, the percentages add up to a hundred or at most three less. The first
three segments of the bar fit into it, and between its brackets there are twenty cells, all of which
are filled if there are messages and each is translated. -/
theorem bar_exact :
    (∀ lines, (ofLines lines).Balanced) ∧
    ∀ t : Tally, t.Balanced →
      (t.total < 2 ^ 57 → ∀ count ∈ t.counts,
        t.percentInWords? count = some (t.percent count) ∧
        t.cellsInWords? count = some (t.cells count)) ∧
      (∀ count ∈ t.counts, t.percent count ≤ 100) ∧
      (0 < t.total →
        97 ≤ (t.counts.map t.percent).sum ∧ (t.counts.map t.percent).sum ≤ 100) ∧
      t.cells t.translated + t.cells t.fuzzy + t.cells t.untranslated ≤ barWidth ∧
      ∀ colours, ∃ cells : Text, Style.shown false (t.bar colours) = "[" ++ cells ++ "]" ∧
        cells.length = 20 ∧
        (0 < t.total → t.translated = t.total → cells = Text.fill '█' 20) := by
  refine ⟨balanced_ofLines, fun t ht => ⟨?_, ?_, ?_, add_cells_le ht, ?_⟩⟩
  · intro hfew count hcount
    have hle := ht.le_total hcount
    exact ⟨percentInWords?_eq (hle.trans_lt hfew), cellsInWords?_eq (hle.trans_lt hfew) hle⟩
  · intro count hcount
    exact percent_le (ht.le_total hcount)
  · intro hpos
    have hsum : (t.counts.map t.percent).sum =
        t.percent t.translated + t.percent t.fuzzy + t.percent t.untranslated +
          t.percent t.obsolete := by
      simp [counts, Nat.add_assoc]
    rw [hsum]
    exact ⟨le_sum_percent ht hpos, sum_percent_le ht⟩
  · intro colours
    exact ⟨t.segments, shown_bar colours t, length_segments ht, segments_of_translated ht⟩

/-- Of thirteen messages ten, one, one and one: the percentages add up to as little as they can. -/
theorem bar_exact_thirteen :
    let t : Tally := ⟨13, 10, 1, 1, 1⟩
    t.Balanced ∧ 0 < t.total ∧ (t.counts.map t.percent).sum = 97 ∧
      97 ≤ (t.counts.map t.percent).sum := by
  intro t
  have ht : t.Balanced := by decide
  obtain ⟨-, hbar⟩ := bar_exact
  obtain ⟨-, -, hsum, -, -⟩ := hbar t ht
  exact ⟨ht, by decide, by decide, (hsum (by decide)).1⟩

end Tally

end CatalogLint
