import CatalogLint.Proofs.Text.Basic
import Mathlib.Data.List.DropRight
import Mathlib.Data.List.Forall2
import Mathlib.Tactic.SplitIfs

/-!
# Endings of lines

A line ends in a line feed, in a carriage return and a line feed, or in nothing, as the last line
of a text may. `body` is a line without its ending. A mark holds no line break, so that whether a
text starts with it, holds it or is cut at it is the same with and without line breaks at its end,
and is seen in its body (`apply_body`).

`SameBody` relates lines that differ in their endings at most (`sameBody_iff`,
`forall₂_sameBody_iff`).
-/

namespace CatalogLint.Text

/-- Whether a character breaks lines. -/
def isBreak (c : Char) : Bool := c = '\n' || c = '\r'

/-- No character of the text breaks lines. -/
def Unbroken (t : Text) : Prop := t.any isBreak = false

instance (t : Text) : Decidable (Unbroken t) := inferInstanceAs (Decidable (_ = _))

/-- A line without the line breaks at its end. -/
def body (line : Text) : Text := line.dropEndWhile isBreak

theorem unbroken_cons {c : Char} {t : Text} :
    Unbroken (c :: t) ↔ isBreak c = false ∧ Unbroken t := by
  rw [Unbroken, List.any_cons, Bool.or_eq_false_iff, Unbroken]

theorem unbroken_append {s t : Text} : Unbroken (s ++ t) ↔ Unbroken s ∧ Unbroken t := by
  rw [Unbroken, List.any_append, Bool.or_eq_false_iff, Unbroken, Unbroken]

theorem ne_of_isBreak {m c : Char} (hm : isBreak m = false) (hc : isBreak c = true) : m ≠ c := by
  rintro rfl
  rw [hm] at hc
  cases hc

theorem Unbroken.eq_nil {t : Text} (h : Unbroken t) (ht : t.all isBreak = true) : t = [] := by
  cases t with
  | nil => rfl
  | cons c t =>
    rw [List.all_cons, (unbroken_cons.mp h).1] at ht
    cases ht

theorem isSpace_of_isBreak {c : Char} (h : isBreak c = true) : isSpace c = true := by
  simp only [isBreak, Bool.or_eq_true, decide_eq_true_eq] at h
  rcases h with rfl | rfl
  · decide
  · decide

/-! ## Bodies -/

/-- What holds no line break stays in front of the body. -/
theorem body_append {front : Text} (h : Unbroken front) (t : Text) :
    body (front ++ t) = front ++ body t := dropEndWhile_append h t

theorem body_append_breaks {e : Text} (he : e.all isBreak = true) (t : Text) :
    body (t ++ e) = body t := by
  have hall : ∀ c ∈ e.reverse, isBreak c = true := fun c hc =>
    List.all_eq_true.mp he c (List.mem_reverse.mp hc)
  rw [body, body, dropEndWhile, List.reverse_append, List.dropWhile_append_of_pos hall,
    dropEndWhile]

theorem Unbroken.body_eq {t : Text} (h : Unbroken t) : body t = t := by
  have ht := body_append h []
  rwa [List.append_nil, show body [] = [] from rfl, List.append_nil] at ht

/-- A line is its body and line breaks. -/
theorem exists_eq_body_append (line : Text) : ∃ e, e.all isBreak = true ∧ line = body line ++ e :=
  ⟨line.rtakeWhile isBreak, List.all_eq_true.mpr fun _ hc => List.mem_rtakeWhile_imp hc,
    (List.rdropWhile_append_rtakeWhile).symm⟩

theorem isPrefix_body (line : Text) : body line <+: line := List.rdropWhile_prefix isBreak line

/-- What does not depend on line breaks at the end is seen in the body. -/
theorem apply_body {α : Type} {f : Text → α}
    (hf : ∀ e : Text, e.all isBreak = true → ∀ t, f (t ++ e) = f t) (line : Text) :
    f (body line) = f line := by
  obtain ⟨e, he, hline⟩ := exists_eq_body_append line
  have h := hf e he (body line)
  rw [← hline] at h
  exact h.symm

/-! ## Marks and line breaks -/

section Marks

variable {mark e : Text}

theorem after?_append_breaks (hmark : Unbroken mark) (he : e.all isBreak = true) (t : Text) :
    (t ++ e).after? mark = (t.after? mark).map (· ++ e) := by
  induction mark generalizing t with
  | nil =>
    have hnil : ∀ s : Text, s.after? [] = some s := after?_append []
    rw [hnil, hnil, Option.map_some]
  | cons m mark ih =>
    obtain ⟨hm, hmark⟩ := unbroken_cons.mp hmark
    cases t with
    | nil =>
      cases e with
      | nil => rfl
      | cons c e =>
        have hc : isBreak c = true := List.all_eq_true.mp he c List.mem_cons_self
        simp [after?, ne_of_isBreak hm hc]
    | cons c t =>
      rw [List.cons_append, after?, after?]
      split_ifs
      · exact ih hmark t
      · rfl

theorem startsWith_append_breaks (hmark : Unbroken mark) (he : e.all isBreak = true) (t : Text) :
    (t ++ e).startsWith mark = t.startsWith mark := by
  rw [startsWith_eq_isSome, startsWith_eq_isSome, after?_append_breaks hmark he, Option.isSome_map]

/-- Line breaks hold no mark. -/
theorem occursIn_breaks (hmark : Unbroken mark) (hne : mark ≠ []) (he : e.all isBreak = true) :
    occursIn mark e = false := by
  induction e with
  | nil => simpa [occursIn] using hne
  | cons c e ih =>
    have hstart := startsWith_append_breaks hmark he []
    rw [List.all_cons, Bool.and_eq_true] at he
    rw [occursIn, ih he.2, Bool.or_false]
    obtain ⟨m, mark, rfl⟩ := List.exists_cons_of_ne_nil hne
    exact hstart

theorem occursIn_append_breaks (hmark : Unbroken mark) (hne : mark ≠ []) (he : e.all isBreak = true)
    (t : Text) : occursIn mark (t ++ e) = occursIn mark t := by
  induction t with
  | nil => rw [List.nil_append, occursIn_breaks hmark hne he, occursIn_breaks hmark hne rfl]
  | cons c t ih =>
    have hstart := startsWith_append_breaks hmark he (c :: t)
    rw [List.cons_append, occursIn, occursIn, ih]
    exact congrArg (· || occursIn mark t) hstart

/-- Line breaks are not cut at a mark. -/
theorem splitAtFirst?_breaks (hmark : Unbroken mark) (hne : mark ≠ []) (he : e.all isBreak = true) :
    e.splitAtFirst? mark = none := by
  induction e with
  | nil => simp [splitAtFirst?, hne]
  | cons c e ih =>
    have hafter := after?_append_breaks hmark he []
    obtain ⟨m, mark, rfl⟩ := List.exists_cons_of_ne_nil hne
    rw [List.all_cons, Bool.and_eq_true] at he
    rw [List.nil_append] at hafter
    rw [splitAtFirst?, hafter, ih he.2]
    rfl

theorem splitAtFirst?_append_breaks (hmark : Unbroken mark) (hne : mark ≠ [])
    (he : e.all isBreak = true) (t : Text) :
    (t ++ e).splitAtFirst? mark = (t.splitAtFirst? mark).map fun cut => (cut.1, cut.2 ++ e) := by
  induction t with
  | nil =>
    rw [List.nil_append, splitAtFirst?_breaks hmark hne he, splitAtFirst?_breaks hmark hne rfl]
    rfl
  | cons c t ih =>
    have hafter := after?_append_breaks hmark he (c :: t)
    rw [List.cons_append] at hafter
    rw [List.cons_append, splitAtFirst?, splitAtFirst?, hafter, ih]
    cases after? (c :: t) mark with
    | some rest => rfl
    | none =>
      cases splitAtFirst? t mark with
      | some cut => rfl
      | none => rfl

theorem isBlank_append_breaks (he : e.all isBreak = true) (t : Text) :
    (t ++ e).isBlank = t.isBlank := by
  have hspace : e.all isSpace = true := by
    rw [List.all_eq_true]
    intro c hc
    exact isSpace_of_isBreak (List.all_eq_true.mp he c hc)
  rw [isBlank, List.all_append, hspace, Bool.and_true, isBlank]

end Marks

/-! ## Lines with the same body -/

/-- The ending of a line. -/
def IsEnding (e : Text) : Prop := e = [] ∨ e = ['\n'] ∨ e = ['\r', '\n']

instance (e : Text) : Decidable (IsEnding e) := inferInstanceAs (Decidable (_ ∨ _))

/-- A line is a text without line breaks and an ending. -/
def EndsWell (line : Text) : Prop := ∃ front e, Unbroken front ∧ IsEnding e ∧ line = front ++ e

/-- Two lines are the same text without line breaks, each with an ending. -/
def SameBody (line line' : Text) : Prop :=
  ∃ front e e', Unbroken front ∧ IsEnding e ∧ IsEnding e' ∧ line = front ++ e ∧ line' = front ++ e'

theorem IsEnding.all_isBreak {e : Text} (h : IsEnding e) : e.all isBreak = true := by
  rcases h with rfl | rfl | rfl
  · rfl
  · decide
  · decide

theorem body_append_ending {front e : Text} (h : Unbroken front) (he : IsEnding e) :
    body (front ++ e) = front := by
  rw [body_append_breaks he.all_isBreak, h.body_eq]

theorem endsWell_iff {line : Text} :
    EndsWell line ↔ Unbroken (body line) ∧ IsEnding (line.drop (body line).length) := by
  constructor
  · rintro ⟨front, e, hfront, he, rfl⟩
    rw [body_append_ending hfront he, List.drop_left]
    exact ⟨hfront, he⟩
  · rintro ⟨hbody, he⟩
    exact ⟨body line, _, hbody, he, (List.prefix_iff_eq_append.mp (isPrefix_body line)).symm⟩

instance (line : Text) : Decidable (EndsWell line) := decidable_of_iff _ endsWell_iff.symm

theorem sameBody_iff {line line' : Text} :
    SameBody line line' ↔ EndsWell line ∧ EndsWell line' ∧ body line = body line' := by
  constructor
  · rintro ⟨front, e, e', hfront, he, he', rfl, rfl⟩
    refine ⟨⟨front, e, hfront, he, rfl⟩, ⟨front, e', hfront, he', rfl⟩, ?_⟩
    rw [body_append_ending hfront he, body_append_ending hfront he']
  · rintro ⟨⟨front, e, hfront, he, rfl⟩, ⟨front', e', hfront', he', rfl⟩, hbody⟩
    rw [body_append_ending hfront he, body_append_ending hfront' he'] at hbody
    exact ⟨front, e, e', hfront, he, he', rfl, by rw [hbody]⟩

instance (line line' : Text) : Decidable (SameBody line line') :=
  decidable_of_iff _ sameBody_iff.symm

theorem forall₂_sameBody_iff {lines lines' : List Text} :
    List.Forall₂ SameBody lines lines' ↔
      (∀ line ∈ lines, EndsWell line) ∧ (∀ line ∈ lines', EndsWell line) ∧
        lines.map body = lines'.map body := by
  induction lines generalizing lines' with
  | nil => cases lines' <;> simp
  | cons line lines ih =>
    cases lines' with
    | nil => simp
    | cons line' lines' =>
      rw [List.forall₂_cons, ih, sameBody_iff, List.forall_mem_cons, List.forall_mem_cons,
        List.map_cons, List.map_cons, List.cons.injEq]
      constructor
      · rintro ⟨⟨hline, hline', hbody⟩, hlines, hlines', hbodies⟩
        exact ⟨⟨hline, hlines⟩, ⟨hline', hlines'⟩, hbody, hbodies⟩
      · rintro ⟨⟨hline, hlines⟩, ⟨hline', hlines'⟩, hbody, hbodies⟩
        exact ⟨⟨hline, hline', hbody⟩, hlines, hlines', hbodies⟩

/-- What holds no line break does not matter to how a line ends. -/
theorem endsWell_append_iff {front rest : Text} (hfront : Unbroken front) :
    EndsWell (front ++ rest) ↔ EndsWell rest := by
  constructor
  · rintro ⟨front', e, hfront', he, heq⟩
    rcases List.append_eq_append_iff.mp heq with ⟨a, rfl, rfl⟩ | ⟨a, rfl, rfl⟩
    · exact ⟨a, e, (unbroken_append.mp hfront').2, he, rfl⟩
    · -- What the front takes of the ending holds line breaks only, and none.
      have hbreaks := he.all_isBreak
      rw [List.all_append, Bool.and_eq_true] at hbreaks
      obtain rfl := (unbroken_append.mp hfront).2.eq_nil hbreaks.1
      exact ⟨[], rest, rfl, he, rfl⟩
  · rintro ⟨front', e, hfront', he, rfl⟩
    exact ⟨front ++ front', e, unbroken_append.mpr ⟨hfront, hfront'⟩, he, by rw [List.append_assoc]⟩

end CatalogLint.Text
