import CatalogLint.Text.Basic

/-!
# Lines

A text is cut into lines after each line feed. A line keeps its line feed, the last line
may lack one, and the empty text has no line, so that the lines of a text are its pieces:
`flatten_lines`.
-/

namespace CatalogLint.Text

/-- The lines of a text, each with its line feed. -/
def lines : Text → List Text
  | [] => []
  | c :: t =>
    if c = '\n' then ['\n'] :: lines t
    else
      match lines t with
      | [] => [[c]]
      | line :: rest => (c :: line) :: rest

/-- The lines of a text, one after the other, are the text. -/
@[simp] theorem flatten_lines (t : Text) : t.lines.flatten = t := by
  induction t with
  | nil => rfl
  | cons c t ih =>
    rw [lines]
    split
    · rename_i hc
      simp [hc, ih]
    · split
      · rename_i hl
        rw [hl] at ih
        simp_all
      · rename_i line rest hl
        rw [hl] at ih
        simp_all

end CatalogLint.Text
