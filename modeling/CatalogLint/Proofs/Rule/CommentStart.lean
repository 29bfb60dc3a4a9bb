import CatalogLint.Proofs.Catalog.Line
import CatalogLint.Proofs.Text.Lines
import CatalogLint.Rule.CommentStart

/-!
# Replaced comments

The rule on extracted comments takes a text `m` from the front of a comment and puts `substitute`
in its place; `Takes m` tells which texts it takes. All of them have the same length, so that all
replaced comments grow, or all shrink, or all keep their length.

* `replaceLine?_eq_some_iff`: the line that is replaced and the one in its place.
* `replaceLines_eq_self_iff`: no line changes only if no comment is replaced, or if the rule puts
  back what it takes (`IsIdle`).
* `flatten_replaceLines_eq_iff`: the text changes if one of its lines does.
* `areLines_replaceLines`: without line feeds in what is taken and put, lines remain lines.
-/

namespace CatalogLint.CommentStart

variable {s : CommentStart}

/-- What is put in place of the start. -/
def substitute : CommentStart → Text
  | literal _ replacement => replacement
  | translators => []

/-- The rule takes `m` from the front of comments. -/
def Takes : CommentStart → Text → Prop
  | literal mark _, m => m = mark
  | translators, m => ∃ c, isSpace c = true ∧ c ≠ '\n' ∧ c ≠ '\r' ∧ m = address ++ [c]

/-- A line is an extracted comment that starts with what the rule takes. -/
def Bears (s : CommentStart) (line : Text) : Prop :=
  ∃ m, s.Takes m ∧ Line.extractedCommentMark ++ m <+: line

/-- The number of characters that the rule takes. -/
def width : CommentStart → Nat
  | literal mark _ => mark.length
  | translators => address.length + 1

/-- The rule puts back what it takes. -/
def IsIdle (s : CommentStart) : Prop := s.Takes s.substitute

/-- No line feed is taken or put. -/
def KeepsLines : CommentStart → Prop
  | literal mark replacement => '\n' ∉ mark ∧ '\n' ∉ replacement
  | translators => True

theorem Takes.length_eq {m : Text} (h : s.Takes m) : m.length = s.width := by
  cases s with
  | literal mark replacement => rw [show m = mark from h, width]
  | translators =>
    obtain ⟨c, -, -, -, rfl⟩ := h
    rw [List.length_append, List.length_singleton, width]

theorem Takes.eq_substitute_iff {m : Text} (h : s.Takes m) : m = s.substitute ↔ s.IsIdle := by
  constructor
  · intro heq
    rw [IsIdle, ← heq]
    exact h
  · intro hidle
    cases s with
    | literal mark replacement => exact Eq.trans h (Eq.symm hidle)
    | translators =>
      obtain ⟨c, -, -, -, heq⟩ := hidle
      simp [substitute] at heq

theorem Takes.not_mem {m : Text} (h : s.Takes m) (hs : s.KeepsLines) : '\n' ∉ m := by
  cases s with
  | literal mark replacement =>
    rw [show m = mark from h]
    exact hs.1
  | translators =>
    obtain ⟨c, -, hc, -, rfl⟩ := h
    intro hmem
    rcases List.mem_append.mp hmem with hmem | hmem
    · exact absurd hmem (by decide)
    · exact hc (List.mem_singleton.mp hmem).symm

theorem KeepsLines.not_mem (hs : s.KeepsLines) : '\n' ∉ s.substitute := by
  cases s with
  | literal mark replacement => exact hs.2
  | translators => exact List.not_mem_nil

/-! ## One line -/

theorem replaceIn?_eq_some_iff {t new : Text} :
    s.replaceIn? t = some new ↔
      ∃ m rest, s.Takes m ∧ t = m ++ rest ∧ new = s.substitute ++ rest := by
  cases s with
  | literal mark replacement =>
    simp only [replaceIn?, Option.map_eq_some_iff, Text.after?_eq_some_iff, Takes, substitute]
    constructor
    · rintro ⟨rest, rfl, rfl⟩
      exact ⟨mark, rest, rfl, rfl, rfl⟩
    · rintro ⟨m, rest, rfl, rfl, rfl⟩
      exact ⟨rest, rfl, rfl⟩
  | translators =>
    simp only [replaceIn?, afterAddress?, substitute, List.nil_append]
    constructor
    · intro h
      split at h
      · rename_i c rest hafter
        rw [Text.after?_eq_some_iff] at hafter
        split_ifs at h with hc
        cases h
        simp only [Bool.and_eq_true, bne_iff_ne] at hc
        exact ⟨address ++ [c], _, ⟨c, hc.1.1, hc.1.2, hc.2, rfl⟩, by simp [hafter], rfl⟩
      · cases h
    · rintro ⟨m, rest, ⟨c, hspace, hlf, hcr, rfl⟩, rfl, rfl⟩
      rw [List.append_assoc, Text.after?_append, List.singleton_append]
      simp [hspace, hlf, hcr]

/-- A line is replaced if it is the mark of extracted comments, what the rule takes and a rest. -/
theorem replaceLine?_eq_some_iff {line new : Text} :
    s.replaceLine? line = some new ↔
      ∃ m rest, s.Takes m ∧ line = Line.extractedCommentMark ++ (m ++ rest) ∧
        new = Line.extractedCommentMark ++ (s.substitute ++ rest) := by
  rw [replaceLine?]
  constructor
  · intro h
    split_ifs at h with hk
    rw [Option.map_eq_some_iff] at h
    obtain ⟨t, ht, rfl⟩ := h
    obtain ⟨u, hu, ht⟩ := Option.bind_eq_some_iff.mp ht
    obtain ⟨m, rest, hm, rfl, rfl⟩ := replaceIn?_eq_some_iff.mp ht
    exact ⟨m, rest, hm, Text.after?_eq_some_iff.mp hu, rfl⟩
  · rintro ⟨m, rest, hm, rfl, rfl⟩
    have hk : Line.kind (Line.extractedCommentMark ++ (m ++ rest)) = .extractedComment :=
      Line.kind_eq_extractedComment_iff.mpr (Text.startsWith_iff.mpr ⟨_, rfl⟩)
    rw [if_pos hk, Text.after?_append, Option.bind_some,
      replaceIn?_eq_some_iff.mpr ⟨m, rest, hm, rfl, rfl⟩, Option.map_some]

theorem replaceLine?_eq_none_iff {line : Text} : s.replaceLine? line = none ↔ ¬ s.Bears line := by
  rw [Option.eq_none_iff_forall_ne_some, ← not_exists, not_iff_not]
  constructor
  · rintro ⟨new, h⟩
    obtain ⟨m, rest, hm, rfl, -⟩ := replaceLine?_eq_some_iff.mp h
    exact ⟨m, hm, rest, List.append_assoc _ _ _⟩
  · rintro ⟨m, hm, rest, rfl⟩
    exact ⟨_, replaceLine?_eq_some_iff.mpr ⟨m, rest, hm, List.append_assoc _ _ _, rfl⟩⟩

theorem eq_of_replaceLine?_iff {line new : Text} (h : s.replaceLine? line = some new) :
    new = line ↔ s.IsIdle := by
  obtain ⟨m, rest, hm, rfl, rfl⟩ := replaceLine?_eq_some_iff.mp h
  rw [← hm.eq_substitute_iff, List.append_cancel_left_eq, List.append_cancel_right_eq, eq_comm]

theorem length_of_replaceLine? {line new : Text} (h : s.replaceLine? line = some new) :
    new.length + s.width = line.length + s.substitute.length := by
  obtain ⟨m, rest, hm, rfl, rfl⟩ := replaceLine?_eq_some_iff.mp h
  have := hm.length_eq
  simp only [List.length_append]
  omega

/-! ## All lines -/

@[simp] theorem replaceLines_nil : s.replaceLines [] = [] := rfl

@[simp] theorem replaceLines_cons (line : Text) (rest : List Text) :
    s.replaceLines (line :: rest) = (s.replaceLine? line).getD line :: s.replaceLines rest := rfl

theorem replaceLines_eq_self_iff {lines : List Text} :
    s.replaceLines lines = lines ↔ s.IsIdle ∨ ∀ line ∈ lines, ¬ s.Bears line := by
  induction lines with
  | nil => simp
  | cons line rest ih =>
    rw [replaceLines_cons, List.cons.injEq, ih, List.forall_mem_cons, ← replaceLine?_eq_none_iff]
    cases h : s.replaceLine? line with
    | none => simp
    | some new =>
      rw [Option.getD_some, eq_of_replaceLine?_iff h]
      constructor
      · rintro ⟨hidle, -⟩
        exact Or.inl hidle
      · rintro (hidle | ⟨hnone, -⟩)
        · exact ⟨hidle, Or.inl hidle⟩
        · cases hnone

/-- Each replaced comment changes the length of the text by as much. -/
theorem length_flatten_replaceLines (lines : List Text) :
    (s.replaceLines lines).flatten.length +
        lines.countP (fun line => (s.replaceLine? line).isSome) * s.width =
      lines.flatten.length +
        lines.countP (fun line => (s.replaceLine? line).isSome) * s.substitute.length := by
  induction lines with
  | nil => simp
  | cons line rest ih =>
    rw [replaceLines_cons, List.flatten_cons, List.flatten_cons, List.countP_cons]
    cases h : s.replaceLine? line with
    | none =>
      simp only [Option.getD_none, Option.isSome_none, Bool.false_eq_true, if_false,
        Nat.add_zero, List.length_append]
      omega
    | some new =>
      have := length_of_replaceLine? h
      simp only [Option.getD_some, Option.isSome_some, if_true, List.length_append, Nat.add_mul,
        Nat.one_mul]
      omega

/-- The text changes if one of its lines does. -/
theorem flatten_replaceLines_eq_iff {lines : List Text} :
    (s.replaceLines lines).flatten = lines.flatten ↔ s.replaceLines lines = lines := by
  refine ⟨fun h => ?_, fun h => by rw [h]⟩
  by_cases hlen : s.substitute.length = s.width
  · -- Each line keeps its length, so that the lines are found in the text at the same places.
    refine List.eq_iff_flatten_eq.mpr ⟨h, ?_⟩
    rw [replaceLines, List.map_map]
    refine List.map_congr_left fun line _ => ?_
    cases hline : s.replaceLine? line with
    | none => simp [hline]
    | some new =>
      have := length_of_replaceLine? hline
      simp only [Function.comp_apply, hline, Option.getD_some]
      omega
  · -- No line is replaced, as the length of the text would tell.
    have htotal := length_flatten_replaceLines (s := s) lines
    rw [h, Nat.add_left_cancel_iff] at htotal
    have hzero : lines.countP (fun line => (s.replaceLine? line).isSome) = 0 := by
      by_contra hne
      exact hlen (Nat.eq_of_mul_eq_mul_left (Nat.pos_of_ne_zero hne) htotal).symm
    refine replaceLines_eq_self_iff.mpr (Or.inr fun line hline => ?_)
    rw [← replaceLine?_eq_none_iff]
    simpa using List.countP_eq_zero.mp hzero line hline

/-- A line that ends in a line feed still does, and has no other one. -/
theorem KeepsLines.getD_append (hs : s.KeepsLines) {body : Text} (hbody : '\n' ∉ body) :
    ∃ new, '\n' ∉ new ∧
      (s.replaceLine? (body ++ ['\n'])).getD (body ++ ['\n']) = new ++ ['\n'] := by
  cases h : s.replaceLine? (body ++ ['\n']) with
  | none => exact ⟨body, hbody, rfl⟩
  | some new =>
    obtain ⟨m, rest, hm, hline, rfl⟩ := replaceLine?_eq_some_iff.mp h
    have hfront : '\n' ∉ Line.extractedCommentMark ++ m := by
      simp only [List.mem_append, not_or]
      exact ⟨by decide, hm.not_mem hs⟩
    rw [← List.append_assoc] at hline
    rcases List.eq_nil_or_concat rest with rfl | ⟨rest, c, rfl⟩
    · rw [List.append_nil] at hline
      exact absurd (by simp) (hline ▸ hfront)
    · rw [List.concat_eq_append, ← List.append_assoc] at hline
      obtain ⟨rfl, hc⟩ := List.append_inj' hline rfl
      cases hc
      simp only [List.mem_append, not_or] at hbody
      refine ⟨Line.extractedCommentMark ++ (s.substitute ++ rest), ?_, by simp⟩
      simp only [List.mem_append, not_or]
      exact ⟨by decide, hs.not_mem, hbody.2⟩

theorem KeepsLines.areLines_replaceLines (hs : s.KeepsLines) {lines : List Text}
    (h : Text.AreLines lines) : Text.AreLines (s.replaceLines lines) := by
  induction h with
  | nil => exact .nil
  | @last line hne hline =>
    rw [replaceLines_cons, replaceLines_nil]
    cases hr : s.replaceLine? line with
    | none => exact .last hne hline
    | some new =>
      obtain ⟨m, rest, hm, rfl, rfl⟩ := replaceLine?_eq_some_iff.mp hr
      simp only [List.mem_append, not_or] at hline
      refine .last (by simp [Line.extractedCommentMark]) ?_
      simp only [Option.getD_some, List.mem_append, not_or]
      exact ⟨by decide, hs.not_mem, hline.2.2⟩
  | cons hbody _ ih =>
    obtain ⟨new, hnew, heq⟩ := hs.getD_append hbody
    rw [replaceLines_cons, heq]
    exact .cons hnew ih

end CatalogLint.CommentStart
