/-!
# Sorting by insertion

A stable sort on the structure of the list: of two elements that the order does not tell
apart, the one that stood first stays first.
-/

namespace CatalogLint.Order

variable {α : Type}

/-- Puts an element before the first that it is at most. -/
def insertBy (le : α → α → Bool) (a : α) : List α → List α
  | [] => [a]
  | b :: rest => if le a b then a :: b :: rest else b :: insertBy le a rest

/-- The elements of a list in increasing order. -/
def sortBy (le : α → α → Bool) (list : List α) : List α := list.foldr (insertBy le) []

theorem insertBy_perm (le : α → α → Bool) (a : α) (list : List α) :
    (insertBy le a list).Perm (a :: list) := by
  induction list with
  | nil => exact .refl _
  | cons b rest ih =>
    rw [insertBy]
    split
    · exact .refl _
    · exact (ih.cons b).trans (.swap a b rest)

/-- Sorting keeps every element as often as it occurs. -/
theorem sortBy_perm (le : α → α → Bool) (list : List α) : (sortBy le list).Perm list := by
  induction list with
  | nil => exact .refl _
  | cons a rest ih => exact (insertBy_perm le a _).trans (ih.cons a)

theorem pairwise_insertBy {le : α → α → Bool} (total : ∀ a b, le a b = true ∨ le b a = true)
    (trans : ∀ a b c, le a b = true → le b c = true → le a c = true) (a : α) {list : List α}
    (h : list.Pairwise fun b c => le b c = true) :
    (insertBy le a list).Pairwise fun b c => le b c = true := by
  induction h with
  | nil => exact .cons (fun _ hc => nomatch hc) .nil
  | @cons b rest hb hrest ih =>
    rw [insertBy]
    split
    · rename_i hab
      refine .cons (fun c hc => ?_) (.cons hb hrest)
      rcases List.mem_cons.mp hc with rfl | hc
      · exact hab
      · exact trans a b c hab (hb c hc)
    · rename_i hab
      refine .cons (fun c hc => ?_) ih
      rcases List.mem_cons.mp ((insertBy_perm le a rest).mem_iff.mp hc) with rfl | hc
      · exact (total b c).resolve_right hab
      · exact hb c hc

/-- Sorting by a total order puts the elements in that order. -/
theorem pairwise_sortBy {le : α → α → Bool} (total : ∀ a b, le a b = true ∨ le b a = true)
    (trans : ∀ a b c, le a b = true → le b c = true → le a c = true) (list : List α) :
    (sortBy le list).Pairwise fun b c => le b c = true := by
  induction list with
  | nil => exact .nil
  | cons a rest ih => exact pairwise_insertBy total trans a ih

end CatalogLint.Order
