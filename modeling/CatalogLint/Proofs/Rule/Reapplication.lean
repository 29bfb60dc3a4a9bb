import CatalogLint.Proofs.Rule.CommentStart

/-!
# Replacing comments again

The rule on extracted comments takes one start from each comment. What it writes is read again as
lines, and a comment may then start with what is taken again: with a second address of translators,
or with a replacement that starts with the mark. A second run leaves a catalogue alone exactly if no
comment does, or if the rule puts back what it takes (`Settled`, `inspect_written_iff`).

Unless line feeds are taken or put, the lines that are read again are those that were written, so
that this is seen in the catalogue before the first run.
-/

namespace CatalogLint.CommentStart

variable {s : CommentStart}

/-- The text that a run writes, which is not dry. -/
def written (s : CommentStart) (t : Text) : Option Text :=
  (s.inspect false t.lines).rewrite.map (·.lines.flatten)

/-- The rule puts back what it takes, or no comment starts with what it takes. -/
def Settled (s : CommentStart) (t : Text) : Prop :=
  s.IsIdle ∨ ∀ line ∈ t.lines, ¬ s.Bears line

theorem written_eq (s : CommentStart) (t : Text) :
    s.written t = some (s.replaceLines t.lines).flatten := rfl

/-- A run passes if it changes no line. -/
theorem inspect_failed_eq_false_iff {lines : List Text} :
    (s.inspect false lines).failed = false ↔ s.replaceLines lines = lines := by
  simp [inspect]

theorem written_eq_self_iff {t : Text} :
    s.written t = some t ↔ s.replaceLines t.lines = t.lines := by
  rw [written_eq, Option.some.injEq, ← flatten_replaceLines_eq_iff, Text.flatten_lines]

/-- Unless line feeds are taken or put, the lines that were written are read again. -/
theorem KeepsLines.lines_flatten (hs : s.KeepsLines) (t : Text) :
    Text.lines (s.replaceLines t.lines).flatten = s.replaceLines t.lines :=
  Text.lines_flatten (hs.areLines_replaceLines (Text.areLines_lines t))

/-- The lines that were written bear no start that is taken if none does that was put there; a line
that was left alone bears none. -/
theorem forall_mem_replaceLines_iff {lines : List Text} :
    (∀ line ∈ s.replaceLines lines, ¬ s.Bears line) ↔
      ∀ m rest, s.Takes m → Line.extractedCommentMark ++ (m ++ rest) ∈ lines →
        ¬ s.Bears (Line.extractedCommentMark ++ (s.substitute ++ rest)) := by
  rw [replaceLines, List.forall_mem_map]
  constructor
  · intro h m rest hm hmem
    have hline := replaceLine?_eq_some_iff.mpr ⟨m, rest, hm, rfl, rfl⟩
    have := h _ hmem
    rwa [hline, Option.getD_some] at this
  · intro h line hmem
    cases hline : s.replaceLine? line with
    | none => exact replaceLine?_eq_none_iff.mp hline
    | some new =>
      obtain ⟨m, rest, hm, rfl, rfl⟩ := replaceLine?_eq_some_iff.mp hline
      exact h m rest hm hmem

/-- After a run a second one passes, changes no line and writes the same text, each of them exactly
if it puts back what it takes or no comment that was written starts with what it takes. If no line
feeds are taken or put, that is so exactly if it puts back what it takes or no comment of the first
text starts with what it takes once its start was replaced. -/
theorem inspect_written_iff (s : CommentStart) (t : Text) :
    ∃ t', s.written t = some t' ∧
      ((s.inspect false t'.lines).failed = false ↔ s.Settled t') ∧
      (s.replaceLines t'.lines = t'.lines ↔ s.Settled t') ∧
      (s.written t' = some t' ↔ s.Settled t') ∧
      (s.KeepsLines → (s.Settled t' ↔
        s.IsIdle ∨ ∀ m rest, s.Takes m → Line.extractedCommentMark ++ (m ++ rest) ∈ t.lines →
          ¬ s.Bears (Line.extractedCommentMark ++ (s.substitute ++ rest)))) := by
  refine ⟨_, written_eq s t, ?_, replaceLines_eq_self_iff, ?_, ?_⟩
  · exact inspect_failed_eq_false_iff.trans replaceLines_eq_self_iff
  · exact written_eq_self_iff.trans replaceLines_eq_self_iff
  · intro hs
    rw [Settled, hs.lines_flatten, forall_mem_replaceLines_iff]

/-- One address of translators goes away, and there is nothing left to do. -/
theorem settled_one_address :
    ∃ t', translators.written "#. Translators: a\n" = some t' ∧
      (translators.inspect false t'.lines).failed = false := by
  obtain ⟨t', ht, hpass, -, -, hsettled⟩ := inspect_written_iff translators "#. Translators: a\n"
  refine ⟨t', ht, hpass.mpr ((hsettled trivial).mpr (Or.inr ?_))⟩
  rw [← forall_mem_replaceLines_iff]
  intro line hline
  have hline : line = "#. a\n" := by
    have hlines : translators.replaceLines (Text.lines "#. Translators: a\n") =
        ["#. a\n".toList] := by decide
    rw [hlines] at hline
    exact List.mem_singleton.mp hline
  rw [hline, ← replaceLine?_eq_none_iff]
  decide

/-- The second of two addresses of translators is left to a second run, and a replacement that
starts with the mark is replaced again by each run. -/
theorem exists_not_settled :
    (∃ t', translators.written "#. Translators: Translators: a\n" = some t' ∧
      (translators.inspect false t'.lines).failed = true ∧
      translators.replaceLines t'.lines ≠ t'.lines ∧ translators.written t' ≠ some t') ∧
    (∃ t', (literal "a" "ab").written "#. a\n" = some t' ∧
      ((literal "a" "ab").inspect false t'.lines).failed = true ∧
      (literal "a" "ab").replaceLines t'.lines ≠ t'.lines ∧
      (literal "a" "ab").written t' ≠ some t') :=
  ⟨⟨"#. Translators: a\n", by decide⟩, ⟨"#. ab\n", by decide⟩⟩

end CatalogLint.CommentStart
