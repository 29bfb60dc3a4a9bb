import CatalogLint.Rule.Inspection

/-!
# Numbers of lines

`numbersWhere p n` lists the numbers of the lines that satisfy `p`, each once and in increasing
order; changing the lines changes the property (`numbersWhere_map`).
-/

namespace CatalogLint

theorem mem_numbersWhere_iff {p : Text → Bool} {n k : Nat} {lines : List Text} :
    k ∈ numbersWhere p n lines ↔ ∃ i line, k = n + i ∧ lines[i]? = some line ∧ p line = true := by
  induction lines generalizing n with
  | nil => simp [numbersWhere]
  | cons first rest ih =>
    have hcons : k ∈ numbersWhere p n (first :: rest) ↔
        (k = n ∧ p first = true) ∨ k ∈ numbersWhere p (n + 1) rest := by
      rw [numbersWhere]
      by_cases hp : p first = true
      · simp [hp]
      · simp [hp]
    rw [hcons, ih]
    constructor
    · rintro (⟨rfl, hp⟩ | ⟨i, line, rfl, hline, hp⟩)
      · exact ⟨0, first, rfl, rfl, hp⟩
      · exact ⟨i + 1, line, by omega, hline, hp⟩
    · rintro ⟨i, line, rfl, hline, hp⟩
      cases i with
      | zero =>
        obtain rfl : first = line := Option.some.inj hline
        exact Or.inl ⟨rfl, hp⟩
      | succ i => exact Or.inr ⟨i, line, by omega, hline, hp⟩

theorem pairwise_numbersWhere (p : Text → Bool) (n : Nat) (lines : List Text) :
    (numbersWhere p n lines).Pairwise (· < ·) := by
  induction lines generalizing n with
  | nil => exact .nil
  | cons first rest ih =>
    rw [numbersWhere]
    split
    · refine .cons ?_ (ih (n + 1))
      intro k hk
      obtain ⟨i, -, rfl, -⟩ := mem_numbersWhere_iff.mp hk
      omega
    · exact ih (n + 1)

theorem length_numbersWhere (p : Text → Bool) (n : Nat) (lines : List Text) :
    (numbersWhere p n lines).length = lines.countP p := by
  induction lines generalizing n with
  | nil => rfl
  | cons first rest ih =>
    rw [numbersWhere]
    split
    · rename_i hp
      rw [List.length_cons, ih, List.countP_cons_of_pos hp]
    · rename_i hp
      rw [ih, List.countP_cons_of_neg hp]

theorem numbersWhere_map (f : Text → Text) (p : Text → Bool) (n : Nat) (lines : List Text) :
    numbersWhere p n (lines.map f) = numbersWhere (p ∘ f) n lines := by
  induction lines generalizing n with
  | nil => rfl
  | cons line rest ih =>
    rw [List.map_cons, numbersWhere, numbersWhere, ih]
    rfl

end CatalogLint
