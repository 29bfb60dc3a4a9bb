import CatalogLint.Text.Blank
import Mathlib.Data.List.TakeWhile
import Mathlib.Tactic.ByContra

/-!
# Fronts and ends of texts

What a mark at the front of a text says about the text, where a text is cut at a mark, how cutting
at the end of a text goes with appending, and when trimming leaves a text alone.
-/

namespace CatalogLint.Text

/-- A text that starts with a mark is the mark and a rest. -/
theorem startsWith_iff {t mark : Text} : t.startsWith mark = true ↔ ∃ rest, t = mark ++ rest := by
  rw [startsWith, List.isPrefixOf_iff_prefix]
  exact ⟨fun ⟨rest, h⟩ => ⟨rest, h.symm⟩, fun ⟨rest, h⟩ => ⟨rest, h.symm⟩⟩

/-- A text that starts with a mark starts with no mark that differs from it. -/
theorem startsWith_eq_false {t a b : Text}
    (hab : (a.isPrefixOf b || b.isPrefixOf a) = false) (ha : t.startsWith a = true) :
    t.startsWith b = false := by
  by_contra hb
  rw [Bool.not_eq_false] at hb
  have hb' : b <+: t := List.isPrefixOf_iff_prefix.mp hb
  rcases List.prefix_or_prefix_of_prefix (List.isPrefixOf_iff_prefix.mp ha) hb' with h | h
  · simp [List.isPrefixOf_iff_prefix.mpr h] at hab
  · simp [List.isPrefixOf_iff_prefix.mpr h] at hab

/-- A text that starts with a mark starts with the first character of the mark. -/
theorem head?_of_startsWith {t mark : Text} {c : Char}
    (h : t.startsWith (c :: mark) = true) : t.head? = some c := by
  obtain ⟨rest, rfl⟩ := startsWith_iff.mp h
  rfl

theorem startsWith_eq_isSome (t mark : Text) : t.startsWith mark = (t.after? mark).isSome := by
  rw [Bool.eq_iff_iff, startsWith_iff, Option.isSome_iff_exists]
  simp only [after?_eq_some_iff]

/-- A text that does not hold a mark is not cut at it. -/
theorem splitAtFirst?_eq_none {t mark : Text} (h : occursIn mark t = false) :
    t.splitAtFirst? mark = none := by
  induction t with
  | nil => rw [splitAtFirst?, show mark.isEmpty = false from h, if_neg Bool.false_ne_true]
  | cons c t ih =>
    rw [occursIn, Bool.or_eq_false_iff] at h
    have hafter : after? (c :: t) mark = none := by
      rw [← Option.not_isSome_iff_eq_none, ← startsWith_eq_isSome, startsWith, h.1]
      exact Bool.false_ne_true
    rw [splitAtFirst?, hafter, ih h.2]
    rfl

/-- A text is cut at a mark of two characters that differ, behind a front that does not hold it. -/
theorem splitAtFirst?_append {a b : Char} (hab : a ≠ b) {front : Text}
    (hfront : occursIn [a, b] front = false) (rest : Text) :
    (front ++ [a, b] ++ rest).splitAtFirst? [a, b] = some (front, rest) := by
  induction front with
  | nil => simp [splitAtFirst?, after?]
  | cons c front ih =>
    rw [occursIn, Bool.or_eq_false_iff] at hfront
    have hnone : after? (c :: (front ++ [a, b] ++ rest)) [a, b] = none := by
      rw [Option.eq_none_iff_forall_ne_some]
      intro t ht
      obtain ⟨rfl, ht⟩ := List.cons.inj (after?_eq_some_iff.mp ht)
      cases front with
      | nil => exact hab (List.cons.inj ht).1
      | cons d front =>
        obtain rfl : d = b := (List.cons.inj ht).1
        simp [List.isPrefixOf] at hfront
    rw [List.cons_append, List.cons_append, splitAtFirst?, hnone, ih hfront.2]
    rfl

/-- A text is cut at a character behind a front that does not hold it. -/
theorem splitAtFirst?_append_cons {a : Char} {front : Text} (hfront : a ∉ front) (rest : Text) :
    (front ++ a :: rest).splitAtFirst? [a] = some (front, rest) := by
  induction front with
  | nil =>
    have hafter : after? (a :: rest) [a] = some rest := after?_append [a] rest
    rw [List.nil_append, splitAtFirst?, hafter]
  | cons c front ih =>
    rw [List.mem_cons, not_or] at hfront
    obtain ⟨hne, hfront⟩ := hfront
    rw [List.cons_append, splitAtFirst?, after?, if_neg hne, ih hfront]
    rfl

/-- A front stays where none of its characters is to be cut off. -/
theorem dropEndWhile_append {p : Char → Bool} {front : Text} (hp : front.any p = false)
    (t : Text) : dropEndWhile p (front ++ t) = front ++ dropEndWhile p t := by
  have hf : front.reverse.dropWhile p = front.reverse := by
    cases hr : front.reverse with
    | nil => rfl
    | cons c rest =>
      have hc : c ∈ front := List.mem_reverse.mp (by simp [hr])
      simp [List.any_eq_false.mp hp c hc]
  rw [dropEndWhile, dropEndWhile, List.reverse_append, List.dropWhile_append]
  split
  · rename_i he
    simp [hf, List.isEmpty_iff.mp he]
  · simp

theorem dropEndWhile_append_of_pos {p : Char → Bool} {back : Text} (hback : ∀ c ∈ back, p c = true)
    (t : Text) : dropEndWhile p (t ++ back) = dropEndWhile p t := by
  have hall : ∀ c ∈ back.reverse, p c = true := fun c hc => hback c (List.mem_reverse.mp hc)
  rw [dropEndWhile, dropEndWhile, List.reverse_append, List.dropWhile_append_of_pos hall]

/-- What is trimmed from a text is white space in front of it and behind it. -/
theorem exists_trim (t : Text) :
    ∃ front back : Text, front.isBlank = true ∧ back.isBlank = true ∧
      t = front ++ (t.trim ++ back) := by
  have hblank : ∀ s : Text, isBlank (s.takeWhile isSpace) = true := by
    intro s
    rw [isBlank, List.all_eq_true]
    exact fun c hc => List.mem_takeWhile_imp hc
  refine ⟨t.takeWhile isSpace, (t.trimStart.reverse.takeWhile isSpace).reverse, hblank t, ?_, ?_⟩
  · have := hblank t.trimStart.reverse
    rwa [isBlank, ← List.all_reverse] at this
  · rw [trim, trimEnd, dropEndWhile, ← List.reverse_append, List.takeWhile_append_dropWhile,
      List.reverse_reverse, trimStart, List.takeWhile_append_dropWhile]

/-- White space around a text does not matter when it is trimmed. -/
theorem trim_append {front back : Text} (hfront : front.isBlank = true)
    (hback : back.isBlank = true) (t : Text) : trim (front ++ (t ++ back)) = t.trim := by
  rw [isBlank, List.all_eq_true] at hfront hback
  rw [trim, trim, trimStart, trimStart, List.dropWhile_append_of_pos hfront, List.dropWhile_append]
  split
  · rename_i hempty
    rw [List.isEmpty_iff.mp hempty, List.dropWhile_eq_nil_iff.mpr hback]
  · exact dropEndWhile_append_of_pos hback _

/-- Nothing is trimmed from a text with no white space at its two ends. -/
theorem trim_eq_self_of_ends {t : Text} {c d : Char} (hhead : t.head? = some c)
    (hc : isSpace c = false) (hlast : t.getLast? = some d) (hd : isSpace d = false) :
    t.trim = t := by
  have hkeep : ∀ {s : Text} {c : Char}, s.head? = some c → isSpace c = false →
      s.dropWhile isSpace = s := by
    intro s c hs hc
    obtain ⟨rest, rfl⟩ := List.head?_eq_some_iff.mp hs
    exact List.dropWhile_cons_of_neg (by simp [hc])
  rw [← List.head?_reverse] at hlast
  rw [trim, trimStart, hkeep hhead hc, trimEnd, dropEndWhile, hkeep hlast hd, List.reverse_reverse]

/-- Nothing is trimmed from a text without white space. -/
theorem trim_eq_self {t : Text} (h : ∀ c ∈ t, isSpace c = false) : t.trim = t := by
  cases t with
  | nil => rfl
  | cons c t =>
    exact trim_eq_self_of_ends rfl (h c List.mem_cons_self)
      (List.getLast?_eq_some_getLast (List.cons_ne_nil c t)) (h _ (List.getLast_mem _))

end CatalogLint.Text
