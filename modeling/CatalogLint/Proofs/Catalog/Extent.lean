import CatalogLint.Proofs.Catalog.Partition
import Mathlib.Order.Bounds.Basic

/-!
# How far a message goes

A message goes from the line on which it starts to the line on which the next one starts, or to the
end. In the scan the next message is the next element (`exists_of_scanFrom_eq`), and the number of
its line is what the lines in front of it come to (`nextLine_scanFrom`).

Within these bounds the search for the first empty translation is exact: it finds the least line
that starts one with nothing or a blank line behind it, and nothing if there is no such line
(`firstEmpty_spec`). What follows a line may be behind the end of the message, where the next one
starts; that is no blank line.
-/

namespace CatalogLint.Message

/-- The number of lines in front of the first that starts a message. -/
def countBefore (lines : List Text) : Nat := lines.findIdx (Line.kind · == .messageStart)

/-- The line behind the lines of a message, if `after` are the messages behind it and the last line
has the number in front of `stop`. -/
def nextLine (after : List Message) (stop : Nat) : Nat := (after.head?.map (·.line)).getD stop

/-- Line `u` starts an empty translation, and nothing or a blank line comes next. The first of the
lines has the number `n`. -/
def EndsEmpty (n : Nat) (lines : List Text) (u : Nat) : Prop :=
  ∃ i line, u = n + i ∧ lines[i]? = some line ∧ Line.kind line = .emptyTranslation ∧
    ∀ next, lines[i + 1]? = some next → next.isBlank = true

/-! ## The lines in front of the next message -/

theorem countBefore_cons (line : Text) (rest : List Text) :
    countBefore (line :: rest) =
      if Line.kind line = .messageStart then 0 else countBefore rest + 1 := by
  rw [countBefore, List.findIdx_cons]
  by_cases hk : Line.kind line = .messageStart
  · simp [hk]
  · rw [if_neg hk, beq_false_of_ne hk]
    rfl

/-- The first message of a scan starts behind the lines that start none. -/
theorem nextLine_scanFrom (header : Option Nat) (n : Nat) (waiting : Bool) (lines : List Text) :
    nextLine (scanFrom header n waiting none lines) (n + lines.length) = n + countBefore lines := by
  induction lines generalizing n waiting with
  | nil => rfl
  | cons line rest ih =>
    rw [scanFrom_none_cons, countBefore_cons]
    by_cases hk : Line.kind line = .messageStart
    · rw [if_pos hk, if_pos hk]
      rfl
    · have hlength : n + (line :: rest).length = n + 1 + rest.length := by
        rw [List.length_cons]
        omega
      rw [if_neg hk, if_neg hk, List.nil_append, hlength, ih]
      omega

theorem countBefore_append_start_le {line : Text} (hk : Line.kind line = .messageStart)
    (above below : List Text) : countBefore (above ++ line :: below) ≤ above.length := by
  induction above with
  | nil => simp [countBefore_cons, hk]
  | cons first above ih =>
    rw [List.cons_append, countBefore_cons, List.length_cons]
    split <;> omega

/-- What stands around a message of a scan: the lines above it, its own lines, and the scan of
these for the messages behind it. -/
theorem exists_of_scanFrom_eq {header : Option Nat} {n : Nat} {waiting : Bool}
    {lines : List Text} {before after : List Message} {m : Message}
    (h : scanFrom header n waiting none lines = before ++ m :: after) :
    ∃ above line below, lines = above ++ line :: below ∧ Line.kind line = .messageStart ∧
      m = begun header (n + above.length) (flagAfter waiting above) line below ∧
      after = scanFrom header (n + above.length + 1) false none below := by
  induction lines generalizing n waiting before with
  | nil => simp at h
  | cons first rest ih =>
    rw [scanFrom_none_cons] at h
    have hlater : ∀ before', scanFrom header (n + 1) (flagBehind waiting first) none rest =
        before' ++ m :: after →
        ∃ above line below, first :: rest = above ++ line :: below ∧
          Line.kind line = .messageStart ∧
          m = begun header (n + above.length) (flagAfter waiting above) line below ∧
          after = scanFrom header (n + above.length + 1) false none below := by
      intro before' hrest
      obtain ⟨above, line, below, rfl, hk, hm, hafter⟩ := ih hrest
      refine ⟨first :: above, line, below, rfl, hk, ?_, ?_⟩
      · rw [hm, List.length_cons, show n + (above.length + 1) = n + 1 + above.length by omega]
        rfl
      · rw [hafter, List.length_cons, show n + (above.length + 1) = n + 1 + above.length by omega]
    by_cases hk : Line.kind first = .messageStart
    · rw [if_pos hk, List.singleton_append] at h
      cases before with
      | nil =>
        obtain ⟨hm, hafter⟩ := List.cons.inj h
        refine ⟨[], first, rest, rfl, hk, hm.symm, ?_⟩
        rw [← hafter]
        simp [flagBehind, hk]
      | cons m' before => exact hlater before (List.cons.inj h).2
    · rw [if_neg hk, List.nil_append] at h
      exact hlater before h

/-! ## The first empty translation -/

theorem endsEmpty_cons_iff {n u : Nat} {line : Text} {rest : List Text} :
    EndsEmpty n (line :: rest) u ↔
      (u = n ∧ Line.kind line = .emptyTranslation ∧ endsTranslation rest = true) ∨
        EndsEmpty (n + 1) rest u := by
  have hends : endsTranslation rest = true ↔
      ∀ next, rest[0]? = some next → next.isBlank = true := by
    cases rest with
    | nil => simp [endsTranslation]
    | cons next rest => simp [endsTranslation]
  constructor
  · rintro ⟨i, line', rfl, hline, hk, hnext⟩
    cases i with
    | zero =>
      obtain rfl : line = line' := Option.some.inj hline
      exact Or.inl ⟨rfl, hk, hends.mpr hnext⟩
    | succ i => exact Or.inr ⟨i, line', by omega, hline, hk, hnext⟩
  · rintro (⟨rfl, hk, hrest⟩ | ⟨i, line', rfl, hline, hk, hnext⟩)
    · exact ⟨0, line, rfl, rfl, hk, hends.mp hrest⟩
    · exact ⟨i + 1, line', by omega, hline, hk, hnext⟩

theorem EndsEmpty.le {n u : Nat} {lines : List Text} (h : EndsEmpty n lines u) : n ≤ u := by
  obtain ⟨i, -, rfl, -⟩ := h
  omega

theorem endsEmpty_append_iff {n u : Nat} {above below : List Text} (hu : n + above.length ≤ u) :
    EndsEmpty n (above ++ below) u ↔ EndsEmpty (n + above.length) below u := by
  induction above generalizing n with
  | nil => rfl
  | cons line rest ih =>
    rw [List.length_cons] at hu ⊢
    rw [List.cons_append, endsEmpty_cons_iff, ih (by omega),
      show n + (rest.length + 1) = n + 1 + rest.length by omega]
    refine or_iff_right ?_
    rintro ⟨rfl, -⟩
    omega

/-- The search finds the least line in front of the next message that starts an empty translation
with nothing or a blank line behind it; it fails if there is none. -/
theorem firstEmpty_spec (n : Nat) (lines : List Text) :
    match firstEmpty n lines with
    | some u => IsLeast {v | EndsEmpty n lines v ∧ v < n + countBefore lines} u
    | none => ∀ v, EndsEmpty n lines v → n + countBefore lines ≤ v := by
  induction lines generalizing n with
  | nil =>
    rintro v ⟨i, line, -, hline, -⟩
    simp at hline
  | cons line rest ih =>
    rw [firstEmpty, countBefore_cons]
    by_cases hk : Line.kind line = .messageStart
    · rw [if_pos hk, if_pos hk]
      exact fun v hv => hv.le
    · rw [if_neg hk, if_neg hk]
      by_cases hends : Line.kind line = .emptyTranslation ∧ endsTranslation rest = true
      · rw [if_pos hends]
        exact ⟨⟨endsEmpty_cons_iff.mpr (Or.inl ⟨rfl, hends⟩), by omega⟩, fun v hv => hv.1.le⟩
      · -- The line is no candidate, so that the candidates are those of the rest.
        have hcons : ∀ v, EndsEmpty n (line :: rest) v ↔ EndsEmpty (n + 1) rest v := by
          intro v
          rw [endsEmpty_cons_iff]
          exact or_iff_right fun h => hends h.2
        rw [if_neg hends]
        simp only [hcons, show n + (countBefore rest + 1) = n + 1 + countBefore rest by omega]
        exact ih (n + 1)

theorem firstEmpty_eq_some_iff {n u : Nat} {lines : List Text} :
    firstEmpty n lines = some u ↔
      IsLeast {v | EndsEmpty n lines v ∧ v < n + countBefore lines} u := by
  have hspec := firstEmpty_spec n lines
  cases hf : firstEmpty n lines with
  | none =>
    rw [hf] at hspec
    refine ⟨nofun, fun hleast => ?_⟩
    have := hspec u hleast.1.1
    have := hleast.1.2
    omega
  | some u' =>
    rw [hf] at hspec
    refine ⟨fun h => Option.some.inj h ▸ hspec, fun hleast => ?_⟩
    rw [hspec.unique hleast]

theorem firstEmpty_eq_none_iff_forall {n : Nat} {lines : List Text} :
    firstEmpty n lines = none ↔ ∀ v, EndsEmpty n lines v → n + countBefore lines ≤ v := by
  have hspec := firstEmpty_spec n lines
  cases hf : firstEmpty n lines with
  | none =>
    rw [hf] at hspec
    exact ⟨fun _ => hspec, fun _ => rfl⟩
  | some u =>
    rw [hf] at hspec
    refine ⟨nofun, fun hnone => ?_⟩
    have := hnone u hspec.1.1
    have := hspec.1.2
    omega

/-! ## The empty translation of a message -/

section Message

variable {lines : List Text} {before after : List Message} {m : Message}

/-- Where the search for the empty translation of a message goes, in numbers of the catalogue. -/
theorem exists_extent (h : scan lines = before ++ m :: after) :
    ∃ below, m.untranslatedLine = firstEmpty (m.line + 1) below ∧
      nextLine after (lines.length + 1) = m.line + 1 + countBefore below ∧
      ∀ u, m.line < u → (EndsEmpty 1 lines u ↔ EndsEmpty (m.line + 1) below u) := by
  obtain ⟨above, line, below, rfl, -, rfl, rfl⟩ := exists_of_scanFrom_eq h
  refine ⟨below, rfl, ?_, fun u hu => ?_⟩
  · have hlength : (above ++ line :: below).length + 1 = 1 + above.length + 1 + below.length := by
      rw [List.length_append, List.length_cons]
      omega
    rw [hlength, nextLine_scanFrom]
    rfl
  · have hlength : 1 + above.length + 1 = 1 + (above ++ [line]).length := by
      rw [List.length_append, List.length_singleton]
      omega
    simp only [begun] at hu ⊢
    rw [hlength, ← endsEmpty_append_iff (by omega), List.append_assoc, List.singleton_append]

theorem untranslatedLine_eq_some_iff (h : scan lines = before ++ m :: after) {u : Nat} :
    m.untranslatedLine = some u ↔
      IsLeast {v | m.line < v ∧ v < nextLine after (lines.length + 1) ∧ EndsEmpty 1 lines v} u := by
  obtain ⟨below, hempty, hnext, hends⟩ := exists_extent h
  have hset : {v | m.line < v ∧ v < nextLine after (lines.length + 1) ∧ EndsEmpty 1 lines v} =
      {v | EndsEmpty (m.line + 1) below v ∧ v < m.line + 1 + countBefore below} := by
    ext v
    rw [Set.mem_ofPred_eq, Set.mem_ofPred_eq, hnext]
    constructor
    · rintro ⟨hlt, hstop, hv⟩
      exact ⟨(hends v hlt).mp hv, hstop⟩
    · rintro ⟨hv, hstop⟩
      exact ⟨hv.le, hstop, (hends v hv.le).mpr hv⟩
  rw [hempty, hset, firstEmpty_eq_some_iff]

theorem untranslatedLine_eq_none_iff (h : scan lines = before ++ m :: after) :
    m.untranslatedLine = none ↔
      ∀ v, m.line < v → v < nextLine after (lines.length + 1) → ¬ EndsEmpty 1 lines v := by
  obtain ⟨below, hempty, hnext, hends⟩ := exists_extent h
  rw [hempty, hnext, firstEmpty_eq_none_iff_forall]
  constructor
  · intro hnone v hlt hstop hv
    have := hnone v ((hends v hlt).mp hv)
    omega
  · intro hnone v hv
    by_contra hstop
    exact hnone v hv.le (by omega) ((hends v hv.le).mpr hv)

end Message

/-! ## All of them -/

theorem line_lt_of_untranslatedLine {header : Option Nat} {n u : Nat} {waiting : Bool}
    {lines : List Text} {m : Message} (hm : m ∈ scanFrom header n waiting none lines)
    (hu : m.untranslatedLine = some u) : n + countBefore lines ≤ m.line ∧ m.line < u := by
  obtain ⟨above, line, below, rfl, hk, rfl⟩ := mem_scanFrom.mp hm
  have habove := countBefore_append_start_le hk above below
  have hends := (firstEmpty_eq_some_iff.mp hu).1.1.le
  simp only [begun]
  omega

/-- A message has its empty translation in front of the next message, which has its own behind
that. -/
theorem pairwise_untranslatedLine_scanFrom (header : Option Nat) (n : Nat) (waiting : Bool)
    (lines : List Text) :
    ((scanFrom header n waiting none lines).filterMap (·.untranslatedLine)).Pairwise (· < ·) := by
  induction lines generalizing n waiting with
  | nil => exact .nil
  | cons line rest ih =>
    have hrest := ih (n + 1) (flagBehind waiting line)
    rw [scanFrom_none_cons]
    by_cases hk : Line.kind line = .messageStart
    · rw [if_pos hk, List.singleton_append, List.filterMap_cons]
      cases hempty : (begun header n waiting line rest).untranslatedLine with
      | none => exact hrest
      | some u =>
        refine .cons (fun v hv => ?_) hrest
        obtain ⟨m, hm, hmv⟩ := List.mem_filterMap.mp hv
        have hbounds := line_lt_of_untranslatedLine hm hmv
        have hu := (firstEmpty_eq_some_iff.mp hempty).1.2
        omega
    · rw [if_neg hk, List.nil_append]
      exact hrest

end CatalogLint.Message
