import CatalogLint.Proofs.Rule.Reapplication
import CatalogLint.Proofs.Rule.Rewrite
import CatalogLint.Proofs.Text.Splitting
import Mathlib.Logic.Function.Iterate

/-!
# Replacing comments until none is left

A run of the rule on extracted comments can leave one that starts with what it takes: another one
may stand behind the first, and a comment that loses its line feed goes on with the line below. If
what is put is shorter than what is taken (`Shrinks`), each run that changes something shortens the
text (`Shrinks.lt_of_failed`), so that runs one after the other come to a text that they leave alone
(`rewritten_converges`).

Lengths are in bytes. In characters a text may grow: three bytes may be one character, and two bytes
two of them.
-/

namespace CatalogLint

theorem Text.utf8Length_append (s t : Text) :
    utf8Length (s ++ t) = utf8Length s + utf8Length t := by
  rw [← length_bytes, bytes_append, List.length_append, length_bytes, length_bytes]

namespace CommentStart

variable {s : CommentStart} {t : Text} {lines : List Text}

/-- The text after a run that is not dry. -/
def rewritten (s : CommentStart) (t : Text) : Text := (s.inspect false t.lines).textAfter t

/-- What is put has fewer bytes than what is taken. -/
def Shrinks : CommentStart → Prop
  | literal mark replacement => Text.utf8Length replacement < Text.utf8Length mark
  | translators => True

instance : DecidablePred Shrinks
  | literal mark replacement =>
    inferInstanceAs (Decidable (Text.utf8Length replacement < Text.utf8Length mark))
  | translators => inferInstanceAs (Decidable True)

theorem rewritten_eq (s : CommentStart) (t : Text) :
    s.rewritten t = (s.replaceLines t.lines).flatten := rfl

/-- A run that passes leaves the text alone. -/
theorem rewritten_eq_self (h : (s.inspect false t.lines).failed = false) : s.rewritten t = t := by
  rw [rewritten_eq, inspect_failed_eq_false_iff.mp h, Text.flatten_lines]

namespace Shrinks

theorem substitute_lt (hs : s.Shrinks) {m : Text} (hm : s.Takes m) :
    Text.utf8Length s.substitute < Text.utf8Length m := by
  cases s with
  | literal mark replacement =>
    obtain rfl : m = mark := hm
    exact hs
  | translators =>
    obtain ⟨c, -, -, -, rfl⟩ := hm
    rw [Text.utf8Length_append]
    exact Nat.lt_of_lt_of_le (by decide) (Nat.le_add_right _ _)

theorem not_isIdle (hs : s.Shrinks) : ¬ s.IsIdle := by
  intro hidle
  exact Nat.lt_irrefl _ (hs.substitute_lt hidle)

theorem replaceLine?_lt (hs : s.Shrinks) {line new : Text} (h : s.replaceLine? line = some new) :
    Text.utf8Length new < Text.utf8Length line := by
  obtain ⟨m, rest, hm, rfl, rfl⟩ := replaceLine?_eq_some_iff.mp h
  have := hs.substitute_lt hm
  simp only [Text.utf8Length_append]
  omega

/-- Each comment that is replaced makes the text shorter, by a byte at least. -/
theorem replaceLines_add_le (hs : s.Shrinks) (lines : List Text) :
    Text.utf8Length (s.replaceLines lines).flatten +
        lines.countP (fun line => (s.replaceLine? line).isSome) ≤
      Text.utf8Length lines.flatten := by
  induction lines with
  | nil => exact Nat.le_refl _
  | cons line rest ih =>
    rw [replaceLines_cons, List.flatten_cons, List.flatten_cons, Text.utf8Length_append,
      Text.utf8Length_append, List.countP_cons]
    cases h : s.replaceLine? line with
    | none =>
      rw [Option.getD_none, Option.isSome_none, if_neg Bool.false_ne_true]
      omega
    | some new =>
      have := hs.replaceLine?_lt h
      rw [Option.getD_some, Option.isSome_some, if_pos rfl]
      omega

/-- A run passes exactly if no comment starts with what is taken. -/
theorem failed_eq_false_iff (hs : s.Shrinks) :
    (s.inspect false lines).failed = false ↔ ∀ line ∈ lines, ¬ s.Bears line := by
  rw [inspect_failed_eq_false_iff, replaceLines_eq_self_iff]
  exact or_iff_right hs.not_isIdle

/-- A run that fails shortens the text. -/
theorem lt_of_failed (hs : s.Shrinks) (h : (s.inspect false t.lines).failed = true) :
    Text.utf8Length (s.rewritten t) < Text.utf8Length t := by
  have hbears : ∃ line ∈ t.lines, (s.replaceLine? line).isSome = true := by
    by_contra hnone
    rw [hs.failed_eq_false_iff.mpr] at h
    · cases h
    · intro line hline
      rw [← replaceLine?_eq_none_iff, ← Option.not_isSome_iff_eq_none]
      intro hsome
      exact hnone ⟨line, hline, hsome⟩
  have hcount := List.countP_pos_iff.mpr hbears
  have hle := hs.replaceLines_add_le t.lines
  rw [Text.flatten_lines] at hle
  rw [rewritten_eq]
  omega

end Shrinks

/-- Runs one after the other come to an end, if what is put is shorter than what is taken. After no
more runs than the text has bytes there is a text that passes and that further runs leave alone; no
comment in it starts with what is taken. Every run up to then fails and shortens the text. -/
theorem rewritten_converges (hs : s.Shrinks) (t : Text) :
    ∃ n ≤ Text.utf8Length t,
      (s.inspect false (s.rewritten^[n] t).lines).failed = false ∧
      (∀ k, s.rewritten^[k] (s.rewritten^[n] t) = s.rewritten^[n] t) ∧
      (∀ line ∈ (s.rewritten^[n] t).lines, ¬ s.Bears line) ∧
      ∀ k < n, (s.inspect false (s.rewritten^[k] t).lines).failed = true ∧
        Text.utf8Length (s.rewritten^[k + 1] t) < Text.utf8Length (s.rewritten^[k] t) := by
  induction hsize : Text.utf8Length t using Nat.strong_induction_on generalizing t with
  | _ size ih =>
    cases hfailed : (s.inspect false t.lines).failed with
    | false =>
      refine ⟨0, Nat.zero_le _, hfailed, ?_, hs.failed_eq_false_iff.mp hfailed, ?_⟩
      · intro k
        exact Function.iterate_fixed (rewritten_eq_self hfailed) k
      · intro k hk
        exact absurd hk (Nat.not_lt_zero k)
    | true =>
      -- The first run shortens the text, and the others are those of the text that it leaves.
      have hlt := hs.lt_of_failed hfailed
      obtain ⟨n, hn, hpass, hfixed, hbears, hbefore⟩ := ih _ (hsize ▸ hlt) (s.rewritten t) rfl
      refine ⟨n + 1, by omega, hpass, hfixed, hbears, ?_⟩
      intro k hk
      cases k with
      | zero => exact ⟨hfailed, hlt⟩
      | succ k => exact hbefore k (by omega)

/-- A comment that loses its line feed goes on with a line that is taken as well, and a third run
finds nothing. -/
theorem rewritten_converges_merged :
    let s := literal "a\n" ""
    let t : Text := "#. a\na\n#. a"
    s.Shrinks ∧ s.rewritten^[2] t = "#. #. a" ∧
      ∀ k, s.rewritten^[k] "#. #. a" = "#. #. a" := by
  intro s t
  have hs : s.Shrinks := by decide
  have hfinal : s.rewritten^[2] t = "#. #. a" := by decide
  obtain ⟨n, -, hpass, hfixed, -, hbefore⟩ := rewritten_converges hs t
  have hn : n = 2 := by
    rcases Nat.lt_trichotomy n 2 with hlt | heq | hgt
    · have hfails : ∀ k < 2, (s.inspect false (s.rewritten^[k] t).lines).failed = true := by decide
      rw [hfails n hlt] at hpass
      cases hpass
    · exact heq
    · exact absurd (hbefore 2 hgt).1 (by decide)
  subst hn
  rw [hfinal] at hfixed
  exact ⟨hs, hfinal, hfixed⟩

end CommentStart

end CatalogLint
