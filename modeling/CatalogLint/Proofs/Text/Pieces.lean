import CatalogLint.Text.Basic

/-!
# Pieces between separators

A text is cut at a separator character, and pieces are joined by a separator. Neither makes up
characters (`mem_of_mem_pieces`, `mem_of_mem_join`), a text with a separator in it is cut on each side
of that (`pieces_append_cons`), and pieces without the separator are what their join is cut into
(`pieces_join`).
-/

namespace CatalogLint.Text

variable {c : Char} {t : Text}

theorem mem_of_mem_pieces {separator : Char} {piece : Text} (hpiece : piece ∈ pieces separator t)
    (hc : c ∈ piece) : c ∈ t := by
  induction t generalizing piece with
  | nil =>
    rw [pieces, List.mem_singleton] at hpiece
    rw [hpiece] at hc
    exact hc
  | cons d t ih =>
    rw [pieces] at hpiece
    split at hpiece
    · rcases List.mem_cons.mp hpiece with rfl | hpiece
      · cases hc
      · exact List.mem_cons_of_mem d (ih hpiece hc)
    · -- The character goes to the front of the first piece.
      split at hpiece
      · rw [List.mem_singleton.mp hpiece] at hc
        rw [List.mem_singleton.mp hc]
        exact List.mem_cons_self
      · rename_i first rest hpieces
        rcases List.mem_cons.mp hpiece with rfl | hpiece
        · rcases List.mem_cons.mp hc with rfl | hc
          · exact List.mem_cons_self
          · apply List.mem_cons_of_mem
            exact ih (by rw [hpieces]; exact List.mem_cons_self) hc
        · apply List.mem_cons_of_mem
          exact ih (by rw [hpieces]; exact List.mem_cons_of_mem first hpiece) hc

theorem mem_of_mem_join {separator : Text} {pieces : List Text} (hc : c ∈ join separator pieces) :
    c ∈ separator ∨ ∃ piece ∈ pieces, c ∈ piece := by
  induction pieces with
  | nil => cases hc
  | cons piece rest ih =>
    cases rest with
    | nil =>
      right
      rw [join, List.intersperse_singleton, List.flatten_singleton] at hc
      exact ⟨piece, List.mem_cons_self, hc⟩
    | cons next rest =>
      rw [join, List.intersperse_cons_cons, List.flatten_cons, List.flatten_cons] at hc
      rcases List.mem_append.mp hc with hc | hc
      · exact Or.inr ⟨piece, List.mem_cons_self, hc⟩
      · rcases List.mem_append.mp hc with hc | hc
        · exact Or.inl hc
        · rcases ih hc with hc | ⟨other, hother, hc⟩
          · exact Or.inl hc
          · exact Or.inr ⟨other, List.mem_cons_of_mem piece hother, hc⟩

/-- There is no separator in a piece. -/
theorem not_mem_of_mem_pieces {piece : Text} (hpiece : piece ∈ pieces c t) : c ∉ piece := by
  induction t generalizing piece with
  | nil =>
    rw [pieces, List.mem_singleton] at hpiece
    rw [hpiece]
    exact List.not_mem_nil
  | cons d t ih =>
    rw [pieces] at hpiece
    split at hpiece
    · rcases List.mem_cons.mp hpiece with rfl | hpiece
      · exact List.not_mem_nil
      · exact ih hpiece
    · rename_i hd
      have hne : c ≠ d := Ne.symm hd
      split at hpiece
      · rw [List.mem_singleton.mp hpiece, List.mem_singleton]
        exact hne
      · rename_i first rest hpieces
        rcases List.mem_cons.mp hpiece with rfl | hpiece
        · rw [List.mem_cons, not_or]
          exact ⟨hne, ih (by rw [hpieces]; exact List.mem_cons_self)⟩
        · exact ih (by rw [hpieces]; exact List.mem_cons_of_mem first hpiece)

theorem pieces_ne_nil (separator : Char) (t : Text) : pieces separator t ≠ [] := by
  cases t with
  | nil => exact List.cons_ne_nil _ _
  | cons d t =>
    rw [pieces]
    split
    · exact List.cons_ne_nil _ _
    · split
      · exact List.cons_ne_nil _ _
      · exact List.cons_ne_nil _ _

theorem pieces_of_not_mem (h : c ∉ t) : pieces c t = [t] := by
  induction t with
  | nil => rfl
  | cons d t ih =>
    rw [List.mem_cons, not_or] at h
    rw [pieces, if_neg (Ne.symm h.1), ih h.2]

/-- A separator stands between the pieces on its two sides. -/
theorem pieces_append_cons (c : Char) (front back : Text) :
    pieces c (front ++ c :: back) = pieces c front ++ pieces c back := by
  induction front with
  | nil => simp [pieces]
  | cons d front ih =>
    rw [List.cons_append, pieces, pieces]
    split
    · rw [ih, List.cons_append]
    · cases hfront : pieces c front with
      | nil => exact absurd hfront (pieces_ne_nil c front)
      | cons piece rest => rw [ih, hfront, List.cons_append, List.cons_append]

theorem join_cons_cons (separator piece next : Text) (rest : List Text) :
    join separator (piece :: next :: rest) = piece ++ separator ++ join separator (next :: rest) := by
  rw [join, List.intersperse_cons_cons, List.flatten_cons, List.flatten_cons, List.append_assoc, join]

/-- Pieces without the separator are the pieces of their join. -/
theorem pieces_join {names : List Text} (hne : names ≠ []) (h : ∀ name ∈ names, c ∉ name) :
    pieces c (join [c] names) = names := by
  induction names with
  | nil => exact absurd rfl hne
  | cons name rest ih =>
    rw [List.forall_mem_cons] at h
    cases rest with
    | nil =>
      rw [join, List.intersperse_singleton, List.flatten_singleton]
      exact pieces_of_not_mem h.1
    | cons next rest =>
      rw [join_cons_cons, List.append_assoc, List.singleton_append, pieces_append_cons,
        pieces_of_not_mem h.1, ih (List.cons_ne_nil _ _) h.2, List.singleton_append]

end CatalogLint.Text
