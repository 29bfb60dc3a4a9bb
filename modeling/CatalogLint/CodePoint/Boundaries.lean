import CatalogLint.Text.Basic

/-!
# Sets of code points

A set of code points is kept as its boundaries: the code points, in increasing order, at
which membership changes, from outside at zero. The tables write boundaries as text, each as
its distance from the one before, in base 26: capital letters for all digits of a distance
but the last, which is a small letter.
-/

namespace CatalogLint

/-- The code points at which membership in a set changes. -/
abbrev Boundaries := List Nat

namespace Boundaries

/-- Whether a code point is in the set. -/
def contains : Boundaries → Nat → Bool
  | [], _ => false
  | b :: rest, n => b ≤ n && !contains rest n

/-- The distances that a text writes, where `high` is the value of the capital letters read
so far. -/
def distancesFrom (high : Nat) : Text → List Nat
  | [] => []
  | c :: t =>
    if c.isUpper then distancesFrom (26 * high + (c.toNat - 'A'.toNat)) t
    else (26 * high + (c.toNat - 'a'.toNat)) :: distancesFrom 0 t

/-- The distances that a text writes, given in parts. -/
def readDistances (parts : List String) : List Nat :=
  distancesFrom 0 (parts.flatMap String.toList)

/-- The running sums of a list of distances, from `start`. -/
def sums (start : Nat) : List Nat → List Nat
  | [] => []
  | distance :: rest => (start + distance) :: sums (start + distance) rest

/-- The boundaries that a text writes, given in parts. -/
def decode (parts : List String) : Boundaries := sums 0 (readDistances parts)

end Boundaries

namespace CodePoint

/-- A set of code points with a standard name, in the form of the tables. -/
structure NamedSet where
  /-- The names, in small letters and without separators. -/
  names : List String
  /-- The boundaries as text, in parts. -/
  code : List String

/-- The boundaries of the set with this name. -/
def NamedSet.lookup? (table : List NamedSet) (name : Text) : Option Boundaries :=
  (table.find? (·.names.any (·.toList == name))).map fun set => Boundaries.decode set.code

end CodePoint

end CatalogLint
