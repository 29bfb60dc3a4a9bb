import CatalogLint.Order.Insertion
import Mathlib.Data.List.Pairwise
import Mathlib.Data.List.Perm.Basic
import Mathlib.Order.Lattice

/-!
# Sorting by keys

Elements with different keys are sorted into the strict order of their keys
(`pairwise_sortBy_key`), and in that order there is one list of them only (`eq_of_perm`,
`eq_of_mem_iff`).
-/

namespace CatalogLint.Order

variable {α β : Type} [LinearOrder β] {le : α → α → Bool} {key : α → β} {l m : List α}

theorem pairwise_sortBy_key (hle : ∀ a b, le a b = true ↔ key a ≤ key b)
    (hkeys : l.Pairwise fun a b => key a ≠ key b) :
    (sortBy le l).Pairwise fun a b => key a < key b := by
  have hsorted : (sortBy le l).Pairwise fun a b => le a b = true := by
    apply pairwise_sortBy
    · intro a b
      rw [hle, hle]
      exact le_total _ _
    · intro a b c
      rw [hle, hle, hle]
      exact le_trans
  have hdistinct := hkeys.perm (sortBy_perm le l).symm fun h => h.symm
  refine (hsorted.and hdistinct).imp ?_
  rintro a b ⟨h, hne⟩
  exact lt_of_le_of_ne ((hle a b).mp h) hne

theorem eq_of_perm (hperm : l.Perm m) (hl : l.Pairwise fun a b => key a < key b)
    (hm : m.Pairwise fun a b => key a < key b) : l = m := by
  refine hperm.eq_of_pairwise ?_ hl hm
  intro a b _ _ hab hba
  exact absurd hba (lt_asymm hab)

theorem nodup_of_pairwise (hl : l.Pairwise fun a b => key a < key b) : l.Nodup :=
  hl.imp fun hlt heq => (congrArg key heq).not_lt hlt

theorem eq_of_mem_iff (hmem : ∀ a, a ∈ l ↔ a ∈ m) (hl : l.Pairwise fun a b => key a < key b)
    (hm : m.Pairwise fun a b => key a < key b) : l = m :=
  eq_of_perm ((List.perm_ext_iff_of_nodup (nodup_of_pairwise hl) (nodup_of_pairwise hm)).mpr hmem)
    hl hm

end CatalogLint.Order
