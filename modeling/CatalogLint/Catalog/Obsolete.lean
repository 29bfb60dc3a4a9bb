import CatalogLint.Catalog.Line

/-!
# Obsolete messages

Consecutive obsolete lines are one obsolete message, a run, known by its first line.
-/

namespace CatalogLint.Obsolete

/-- Whether a line starts a run, where `inside` tells whether the line above is obsolete. -/
def startsRun (inside : Bool) (line : Text) : Bool :=
  !inside && Line.kind line == .obsolete

/-- For each line in turn whether it starts a run. -/
def starts (inside : Bool) : List Text → List Bool
  | [] => []
  | line :: rest => startsRun inside line :: starts (Line.kind line == .obsolete) rest

/-- The lines that start a run, where the first line has the number `n`. -/
def runsFrom (inside : Bool) (n : Nat) : List Text → List Nat
  | [] => []
  | line :: rest =>
    let later := runsFrom (Line.kind line == .obsolete) (n + 1) rest
    if startsRun inside line then n :: later else later

/-- The first line of each run of a catalogue, counted from one. -/
def runs (lines : List Text) : List Nat := runsFrom false 1 lines

end CatalogLint.Obsolete
