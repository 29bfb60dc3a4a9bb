import CatalogLint.Catalog.Obsolete
import Mathlib.Tactic.SplitIfs

/-!
# Runs of obsolete lines

The runs of two lists of lines, one behind the other, are the runs of each, where the second
list has to know whether the first one ends inside a run (`insideAfter`).
-/

namespace CatalogLint.Obsolete

/-- Whether lines end inside a run, where `inside` tells whether the line above them is obsolete. -/
def insideAfter (inside : Bool) (lines : List Text) : Bool :=
  lines.foldl (fun _ line => Line.kind line == .obsolete) inside

theorem runsFrom_append (inside : Bool) (n : Nat) (first second : List Text) :
    runsFrom inside n (first ++ second) =
      runsFrom inside n first ++
        runsFrom (insideAfter inside first) (n + first.length) second := by
  induction first generalizing inside n with
  | nil => rfl
  | cons line rest ih =>
    have hl : n + (line :: rest).length = n + 1 + rest.length := by
      rw [List.length_cons]
      omega
    rw [List.cons_append, runsFrom, runsFrom, ih, hl]
    split_ifs <;> rfl

theorem runsFrom_map {f : Nat → Nat} {n n' : Nat} (hf : ∀ i, f (n + i) = n' + i) (inside : Bool)
    (lines : List Text) : runsFrom inside n' lines = (runsFrom inside n lines).map f := by
  induction lines generalizing n n' inside with
  | nil => rfl
  | cons line rest ih =>
    have hf' : ∀ i, f (n + 1 + i) = n' + 1 + i := fun i => by
      rw [Nat.add_assoc, hf, Nat.add_assoc]
    have hi := ih hf' (Line.kind line == .obsolete)
    have hn : f n = n' := hf 0
    rw [runsFrom, runsFrom, hi]
    split_ifs
    · rw [List.map_cons, hn]
    · rfl

theorem mem_runsFrom_bounds {inside : Bool} {n k : Nat} {lines : List Text}
    (hk : k ∈ runsFrom inside n lines) : n ≤ k ∧ k < n + lines.length := by
  induction lines generalizing inside n with
  | nil => cases hk
  | cons line rest ih =>
    rw [List.length_cons]
    rw [runsFrom] at hk
    split_ifs at hk
    · rcases List.mem_cons.mp hk with rfl | hk
      · omega
      · have := ih hk
        omega
    · have := ih hk
      omega

/-- Below a line that is not obsolete there is no run exactly if no line is obsolete. -/
theorem runsFrom_eq_nil_iff {n : Nat} {lines : List Text} :
    runsFrom false n lines = [] ↔ ∀ line ∈ lines, Line.kind line ≠ .obsolete := by
  induction lines generalizing n with
  | nil => simp [runsFrom]
  | cons line rest ih =>
    rw [runsFrom]
    by_cases hk : Line.kind line = .obsolete
    · simp [startsRun, hk]
    · have hb : (Line.kind line == .obsolete) = false := beq_false_of_ne hk
      simp [startsRun, hk, hb, ih]

/-- A line that is not obsolete ends the run above it. -/
theorem runsFrom_of_head {n : Nat} {lines : List Text}
    (hh : ∀ line, lines.head? = some line → Line.kind line ≠ .obsolete) (inside : Bool) :
    runsFrom inside n lines = runsFrom false n lines := by
  cases lines with
  | nil => rfl
  | cons line rest =>
    have hb : (Line.kind line == .obsolete) = false := beq_false_of_ne (hh line rfl)
    simp [runsFrom, startsRun, hb]

end CatalogLint.Obsolete
