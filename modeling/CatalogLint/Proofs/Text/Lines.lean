import CatalogLint.Text.Lines

/-!
# Lists of lines

`AreLines` tells which lists of texts are the lines of a text: no line is empty, each ends at its
first line feed, and only the last one may lack it. On these lists `Text.lines` undoes
concatenation (`lines_flatten`), as concatenation undoes it on every text.
-/

namespace CatalogLint.Text

/-- A list of texts that are the lines of a text. -/
inductive AreLines : List Text → Prop
  | nil : AreLines []
  | last {line : Text} (hne : line ≠ []) (hline : '\n' ∉ line) : AreLines [line]
  | cons {body : Text} {rest : List Text} (hbody : '\n' ∉ body) (hrest : AreLines rest) :
      AreLines ((body ++ ['\n']) :: rest)

/-- A text without line feed is one line, unless it is empty. -/
theorem lines_of_not_mem {t : Text} (hne : t ≠ []) (ht : '\n' ∉ t) : t.lines = [t] := by
  induction t with
  | nil => exact absurd rfl hne
  | cons c t ih =>
    obtain ⟨hc, ht⟩ := not_or.mp (fun h => ht (List.mem_cons.mpr h))
    rw [lines, if_neg (Ne.symm hc)]
    cases t with
    | nil => rfl
    | cons d t => rw [ih (List.cons_ne_nil d t) ht]

/-- The first line ends at the first line feed. -/
theorem lines_append {body : Text} (hbody : '\n' ∉ body) (t : Text) :
    (body ++ '\n' :: t).lines = (body ++ ['\n']) :: t.lines := by
  induction body with
  | nil => rfl
  | cons c body ih =>
    obtain ⟨hc, hbody⟩ := not_or.mp (fun h => hbody (List.mem_cons.mpr h))
    rw [List.cons_append, lines, if_neg (Ne.symm hc), ih hbody, List.cons_append]

theorem lines_flatten {ls : List Text} (h : AreLines ls) : lines ls.flatten = ls := by
  induction h with
  | nil => rfl
  | last hne hline =>
    rw [List.flatten_singleton, lines_of_not_mem hne hline]
  | cons hbody _ ih =>
    rw [List.flatten_cons, List.append_assoc, List.singleton_append, lines_append hbody, ih]

theorem areLines_lines (t : Text) : AreLines t.lines := by
  induction t with
  | nil => exact .nil
  | cons c t ih =>
    rw [lines]
    generalize lines t = ls at ih ⊢
    split
    · rename_i hc
      exact .cons List.not_mem_nil ih
    · rename_i hc
      -- The character goes to the front of the first line.
      have hfront : ∀ body : Text, '\n' ∉ body → '\n' ∉ c :: body := fun body hb => by
        simpa [hb] using Ne.symm hc
      cases ih with
      | nil => exact .last (List.cons_ne_nil _ _) (hfront [] List.not_mem_nil)
      | last hne hline => exact .last (List.cons_ne_nil _ _) (hfront _ hline)
      | cons hbody hrest => exact .cons (hfront _ hbody) hrest

theorem AreLines.tail {line : Text} {rest : List Text} (h : AreLines (line :: rest)) :
    AreLines rest := by
  cases h with
  | last hne hline => exact .nil
  | cons hbody hrest => exact hrest

/-- The lines of a text from one of them on are the lines of a text. -/
theorem AreLines.of_append {ls rest : List Text} (h : AreLines (ls ++ rest)) : AreLines rest := by
  induction ls with
  | nil => exact h
  | cons line ls ih => exact ih h.tail

/-- Lines that another one follows keep their line feeds, so that any lines may follow them. -/
theorem AreLines.append {ls rest other : List Text} {line : Text}
    (h : AreLines (ls ++ line :: rest)) (hother : AreLines other) : AreLines (ls ++ other) := by
  induction ls with
  | nil => exact hother
  | cons first ls ih =>
    rw [List.cons_append] at h
    cases h' : ls ++ line :: rest with
    | nil => exact absurd h' (by simp)
    | cons next tail =>
      rw [h'] at h ih
      cases h with
      | cons hbody hrest => exact .cons hbody (ih hrest)

end CatalogLint.Text
