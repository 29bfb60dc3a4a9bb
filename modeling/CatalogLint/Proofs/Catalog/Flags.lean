import CatalogLint.Proofs.Catalog.Extent
import Mathlib.Data.List.Induction

/-!
# Which message a flag belongs to

A `fuzzy` flag belongs to the message that starts next, unless an obsolete line comes first. The
scan knows no more of it than whether one waits (`flagAfter`). Told by lines, one waits behind a list
of lines if a line of it is such a flag and no line below that one takes it, which messages and
obsolete lines do (`flagAfter_eq_true_iff`). A message that starts below a flag is the next one
exactly if the message in front of it starts above the flag (`lastLine_lt_iff`). So a message is
fuzzy exactly if it takes a flag, and no flag is taken twice (`fuzzy_iff_takesFlag`).
-/

namespace CatalogLint.Message

/-- A line that leaves a flag for what stands below it. -/
def LetsPass (line : Text) : Prop :=
  Line.kind line ≠ .messageStart ∧ Line.kind line ≠ .obsolete

/-- The line on which the last of a list of messages starts, zero if there is none. -/
def lastLine (before : List Message) : Nat := (before.getLast?.map (·.line)).getD 0

/-- The message `m` behind the messages `before` takes the flag on line `f`: the flag stands between
the starts of the two messages, and no obsolete line stands between the flag and `m`. -/
def TakesFlag (lines : List Text) (before : List Message) (m : Message) (f : Nat) : Prop :=
  lastLine before < f ∧ f < m.line ∧
    (∃ i line, f = i + 1 ∧ lines[i]? = some line ∧ Line.isFuzzy line = true) ∧
    ∀ j other, f < j + 1 → j + 1 < m.line → lines[j]? = some other → Line.kind other ≠ .obsolete

/-! ## What waits behind a list of lines -/

theorem kind_of_isFuzzy {line : Text} (h : Line.isFuzzy line = true) : Line.kind line = .flags := by
  rw [Line.isFuzzy, Bool.and_eq_true] at h
  exact beq_iff_eq.mp h.1

theorem flagBehind_eq_true_iff {waiting : Bool} {line : Text} :
    flagBehind waiting line = true ↔
      Line.isFuzzy line = true ∨ (waiting = true ∧ LetsPass line) := by
  have hfuzzy : Line.kind line ≠ .flags → Line.isFuzzy line ≠ true :=
    fun hk hf => hk (kind_of_isFuzzy hf)
  cases hk : Line.kind line with
  | flags => simp [flagBehind, LetsPass, hk, or_comm]
  | messageStart => simp [flagBehind, LetsPass, hk, hfuzzy]
  | obsolete => simp [flagBehind, LetsPass, hk, hfuzzy]
  | extractedComment => simp [flagBehind, LetsPass, hk, hfuzzy]
  | emptyTranslation => simp [flagBehind, LetsPass, hk, hfuzzy]
  | other => simp [flagBehind, LetsPass, hk, hfuzzy]

theorem flagAfter_concat (waiting : Bool) (lines : List Text) (line : Text) :
    flagAfter waiting (lines ++ [line]) = flagBehind (flagAfter waiting lines) line := by
  rw [flagAfter, List.foldl_append, List.foldl_cons, List.foldl_nil, flagAfter]

theorem getElem?_concat_eq_some_iff {lines : List Text} {last line : Text} {i : Nat} :
    (lines ++ [last])[i]? = some line ↔ lines[i]? = some line ∨ (i = lines.length ∧ last = line) := by
  rw [List.getElem?_append]
  split
  · rename_i hi
    exact (or_iff_left fun h => absurd h.1 (Nat.ne_of_lt hi)).symm
  · rename_i hi
    rw [List.getElem?_eq_none (Nat.le_of_not_lt hi), List.getElem?_singleton]
    constructor
    · intro h
      split at h
      · exact Or.inr ⟨by omega, Option.some.inj h⟩
      · cases h
    · rintro (h | ⟨rfl, rfl⟩)
      · cases h
      · simp

/-- A flag waits behind the lines exactly if one of them is a flag and the lines below it let it
pass. -/
theorem flagAfter_eq_true_iff {lines : List Text} :
    flagAfter false lines = true ↔
      ∃ i line, lines[i]? = some line ∧ Line.isFuzzy line = true ∧
        ∀ (j : Nat) (other : Text), i < j → lines[j]? = some other → LetsPass other := by
  -- The last line decides first: it is a flag, or it lets what waits above it pass.
  induction lines using List.reverseRecOn with
  | nil => simp [flagAfter]
  | append_singleton lines last ih =>
    rw [flagAfter_concat, flagBehind_eq_true_iff, ih]
    simp only [getElem?_concat_eq_some_iff]
    constructor
    · rintro (hlast | ⟨⟨i, line, hi, hf, hpass⟩, hlast⟩)
      · refine ⟨lines.length, last, Or.inr ⟨rfl, rfl⟩, hlast, fun j other hj hother => ?_⟩
        rcases hother with hother | ⟨rfl, -⟩
        · obtain ⟨hlt, -⟩ := List.getElem?_eq_some_iff.mp hother
          omega
        · omega
      · refine ⟨i, line, Or.inl hi, hf, fun j other hj hother => ?_⟩
        rcases hother with hother | ⟨-, rfl⟩
        · exact hpass j other hj hother
        · exact hlast
    · rintro ⟨i, line, hi | ⟨rfl, rfl⟩, hf, hpass⟩
      · obtain ⟨hlt, -⟩ := List.getElem?_eq_some_iff.mp hi
        exact Or.inr ⟨⟨i, line, hi, hf, fun j other hj hother => hpass j other hj (Or.inl hother)⟩,
          hpass lines.length last hlt (Or.inr ⟨rfl, rfl⟩)⟩
      · exact Or.inl hf

/-! ## The message in front -/

section Order

variable {lines : List Text} {before after : List Message} {m : Message}

theorem lastLine_concat (front : List Message) (last : Message) :
    lastLine (front ++ [last]) = last.line := by
  rw [lastLine, List.getLast?_concat]
  rfl

theorem le_lastLine {ms : List Message} (hms : (ms.map (·.line)).Pairwise (· < ·))
    (hm : m ∈ ms) : m.line ≤ lastLine ms := by
  obtain ⟨front, last, rfl⟩ := (List.eq_nil_or_concat' ms).resolve_left (List.ne_nil_of_mem hm)
  rw [lastLine_concat]
  rw [List.map_append, List.pairwise_append] at hms
  rcases List.mem_append.mp hm with hfront | hlast
  · have hlt := hms.2.2 m.line (List.mem_map_of_mem hfront) last.line (by simp)
    omega
  · rw [List.mem_singleton.mp hlast]

/-- The messages in front of `m` start above it, one below the other, and those behind it below. -/
theorem line_order (h : scan lines = before ++ m :: after) :
    (before.map (·.line)).Pairwise (· < ·) ∧ (∀ m' ∈ before, m'.line < m.line) ∧
      ∀ m' ∈ after, m.line < m'.line := by
  have hall := pairwise_line_scan lines
  rw [h, List.map_append, List.map_cons, List.pairwise_append, List.pairwise_cons] at hall
  obtain ⟨hbefore, ⟨hafter, -⟩, hacross⟩ := hall
  exact ⟨hbefore,
    fun m' hm' => hacross m'.line (List.mem_map_of_mem hm') m.line List.mem_cons_self,
    fun m' hm' => hafter m'.line (List.mem_map_of_mem hm')⟩

theorem mem_before_of_line_lt (h : scan lines = before ++ m :: after) {m' : Message}
    (hm' : m' ∈ scan lines) (hlt : m'.line < m.line) : m' ∈ before := by
  rw [h] at hm'
  rcases List.mem_append.mp hm' with hbefore | hrest
  · exact hbefore
  · rcases List.mem_cons.mp hrest with rfl | hafter
    · omega
    · have hgt := (line_order h).2.2 m' hafter
      omega

/-- The messages in front of `m` start above a line that starts none exactly if no message starts
between that line and `m`. -/
theorem lastLine_lt_iff (h : scan lines = before ++ m :: after) {i : Nat} {line : Text}
    (hline : lines[i]? = some line) (hk : Line.kind line ≠ .messageStart) :
    lastLine before < i + 1 ↔
      ∀ j other, i < j → j + 1 < m.line → lines[j]? = some other →
        Line.kind other ≠ .messageStart := by
  constructor
  · intro hlast j other hj hjm hother hstart
    have hnumber : j + 1 ∈ (scan lines).map (·.line) := by
      rw [map_line_scan, mem_numbersWhere_iff]
      exact ⟨j, other, by omega, hother, Line.kind_eq_messageStart_iff.mp hstart⟩
    obtain ⟨m', hm', hline'⟩ := List.mem_map.mp hnumber
    have hbefore := mem_before_of_line_lt h hm' (by omega)
    have hle := le_lastLine (line_order h).1 hbefore
    omega
  · intro hnone
    rcases List.eq_nil_or_concat' before with rfl | ⟨front, last, rfl⟩
    · exact Nat.succ_pos i
    · have hbefore : last ∈ front ++ [last] := List.mem_append_right _ List.mem_cons_self
      have hscan : last ∈ scan lines := h ▸ List.mem_append_left _ hbefore
      have hlt := (line_order h).2.1 last hbefore
      obtain ⟨k, other, hk', hother, hstart, -⟩ := exists_getElem?_of_mem_scan hscan
      have hstart := Line.kind_eq_messageStart_iff.mpr hstart
      rw [lastLine_concat]
      by_contra hge
      have hne : k ≠ i := by
        rintro rfl
        rw [hline] at hother
        exact hk (Option.some.inj hother ▸ hstart)
      exact hnone k other (by omega) (by omega) hother hstart

/-- A message is fuzzy exactly if it takes a flag. -/
theorem fuzzy_eq_true_iff (h : scan lines = before ++ m :: after) :
    m.fuzzy = true ↔ ∃ f, TakesFlag lines before m f := by
  obtain ⟨above, first, below, hlines, -, hm, -⟩ := exists_of_scanFrom_eq h
  have hnumber : m.line = above.length + 1 := by
    rw [hm]
    simp only [begun]
    omega
  have hfuzzy : m.fuzzy = flagAfter false above := by rw [hm, begun]
  have hget : ∀ j, j < above.length → lines[j]? = above[j]? := by
    intro j hj
    rw [hlines, List.getElem?_append_left hj]
  rw [hfuzzy, flagAfter_eq_true_iff]
  constructor
  · rintro ⟨i, line, hi, hf, hpass⟩
    obtain ⟨hlt, -⟩ := List.getElem?_eq_some_iff.mp hi
    have hline : lines[i]? = some line := by rw [hget i hlt, hi]
    have hnostart : Line.kind line ≠ .messageStart := by
      rw [kind_of_isFuzzy hf]
      decide
    refine ⟨i + 1, (lastLine_lt_iff h hline hnostart).mpr ?_, by omega,
      ⟨i, line, rfl, hline, hf⟩, ?_⟩
    · intro j other hj hjm hother
      exact (hpass j other hj (by rw [← hget j (by omega), hother])).1
    · intro j other hj hjm hother
      exact (hpass j other (by omega) (by rw [← hget j (by omega), hother])).2
  · rintro ⟨f, hlast, hfm, ⟨i, line, rfl, hline, hf⟩, hobsolete⟩
    have hnostart : Line.kind line ≠ .messageStart := by
      rw [kind_of_isFuzzy hf]
      decide
    refine ⟨i, line, by rw [← hget i (by omega), hline], hf, fun j other hj hother => ?_⟩
    obtain ⟨hjl, -⟩ := List.getElem?_eq_some_iff.mp hother
    have hother' : lines[j]? = some other := by rw [hget j hjl, hother]
    exact ⟨(lastLine_lt_iff h hline hnostart).mp hlast j other hj (by omega) hother',
      hobsolete j other (by omega) (by omega) hother'⟩

end Order

/-! ## Messages one at a time -/

/-- A flag is taken by one message. -/
theorem TakesFlag.unique {lines : List Text} {before before' after after' : List Message}
    {m m' : Message} {f : Nat} (h : scan lines = before ++ m :: after)
    (h' : scan lines = before' ++ m' :: after') (hf : TakesFlag lines before m f)
    (hf' : TakesFlag lines before' m' f) : m = m' := by
  have hm : m ∈ scan lines := by rw [h]; simp
  have hm' : m' ∈ scan lines := by rw [h']; simp
  -- Of two messages the later one has the other in front of it, below the flag.
  rcases Nat.lt_trichotomy m.line m'.line with hlt | heq | hlt
  · have hle := le_lastLine (line_order h').1 (mem_before_of_line_lt h' hm hlt)
    have := hf.2.1
    have := hf'.1
    omega
  · exact eq_of_line_eq hm hm' heq
  · have hle := le_lastLine (line_order h).1 (mem_before_of_line_lt h hm' hlt)
    have := hf'.2.1
    have := hf.1
    omega

/-- A message that is handed out is fuzzy exactly if it takes a flag. No two messages take the same
flag. A flag between the starts of a message and of the one in front of it is taken, unless an
obsolete line comes first; and every obsolete line above a message is above the flag that the
message takes. -/
theorem fuzzy_iff_takesFlag {lines : List Text} {ms : List Message}
    (hms : (Cursor.atTop lines).Yields ms) :
    (∀ before m after, ms = before ++ m :: after →
      (m.fuzzy = true ↔ ∃ f, TakesFlag lines before m f)) ∧
    (∀ before m after before' m' after' f, ms = before ++ m :: after →
      ms = before' ++ m' :: after' → TakesFlag lines before m f → TakesFlag lines before' m' f →
      m = m') ∧
    (∀ before m after i line, ms = before ++ m :: after → lines[i]? = some line →
      Line.isFuzzy line = true → lastLine before < i + 1 → i + 1 < m.line →
      TakesFlag lines before m (i + 1) ∨
        ∃ j other, i < j ∧ j + 1 < m.line ∧ lines[j]? = some other ∧
          Line.kind other = .obsolete) ∧
    ∀ before m after f j other, ms = before ++ m :: after → TakesFlag lines before m f →
      lines[j]? = some other → Line.kind other = .obsolete → j + 1 < m.line → j + 1 < f := by
  obtain rfl : ms = scan lines := Cursor.yields_iff.mp hms
  refine ⟨fun before m after h => fuzzy_eq_true_iff h,
    fun before m after before' m' after' f h h' hf hf' => hf.unique h h' hf', ?_, ?_⟩
  · intro before m after i line h hline hf hlast hm
    by_cases hobsolete : ∃ j other, i < j ∧ j + 1 < m.line ∧ lines[j]? = some other ∧
        Line.kind other = .obsolete
    · exact Or.inr hobsolete
    · refine Or.inl ⟨hlast, hm, ⟨i, line, rfl, hline, hf⟩, fun j other hj hjm hother hk => ?_⟩
      exact hobsolete ⟨j, other, by omega, hjm, hother, hk⟩
  · rintro before m after f j other h ⟨-, -, ⟨i, line, rfl, hline, hf⟩, hnone⟩ hother hk hjm
    by_contra hge
    have hne : j ≠ i := by
      rintro rfl
      rw [hline] at hother
      rw [← Option.some.inj hother, kind_of_isFuzzy hf] at hk
      cases hk
    exact hnone j other (by omega) hjm hother hk

/-- A flag below the start of a message is the next one's, and a flag above an obsolete line nobody's
below it. -/
theorem fuzzy_iff_takesFlag_obsolete :
    let lines : List Text := ["msgid \"a\"\n", "#, fuzzy\n", "msgstr \"b\"\n", "msgid \"c\"\n",
      "#, fuzzy\n", "#~ msgid \"d\"\n", "msgid \"e\"\n"]
    ∃ a c e, (Cursor.atTop lines).Yields [a, c, e] ∧ (∃ f, TakesFlag lines [a] c f) ∧
      ¬ ∃ f, TakesFlag lines [a, c] e f := by
  intro lines
  have hyields : (Cursor.atTop lines).Yields (scan lines) := Cursor.yields_iff.mpr rfl
  have hscan : scan lines =
      [⟨1, false, false, none, false⟩, ⟨4, false, false, none, true⟩,
        ⟨7, false, false, none, false⟩] := by
    decide
  rw [hscan] at hyields
  have hfuzzy := (fuzzy_iff_takesFlag hyields).1
  refine ⟨_, _, _, hyields, (hfuzzy [_] _ [_] rfl).mp rfl, fun h => ?_⟩
  cases (hfuzzy [_, _] _ [] rfl).mpr h

end CatalogLint.Message
