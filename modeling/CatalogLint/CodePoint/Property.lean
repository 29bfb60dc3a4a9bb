import CatalogLint.CodePoint.Age
import CatalogLint.CodePoint.Break
import CatalogLint.CodePoint.Category
import CatalogLint.CodePoint.Script
import CatalogLint.CodePoint.Binary

/-!
# Properties by name

The sets that a pattern can ask for by name. Names are matched loosely: the case of letters,
spaces, underscores, hyphens and the word `is` in front do not count. A name alone is a
binary property, else a general category, else a script; a name with a value is one of the
properties `General_Category`, `Script`, `Script_Extensions` and `Age` or a break property.
-/

namespace CatalogLint.CodePoint.Property

/-- A name without the word `is` in front, if it has it. -/
def dropIs : Text → Bool × Text
  | c :: d :: t =>
    if c.toLower = 'i' && d.toLower = 's' then (true, t) else (false, c :: d :: t)
  | t => (false, t)

/-- The letters of a name in lower case, without separators and characters beyond ASCII. -/
def fold (t : Text) : Text :=
  (t.filter fun c => c.toNat < 0x80 && c != ' ' && c != '_' && c != '-').map Char.toLower

/-- The form of a name that the tables know. The name `isc` is that of a property of its own,
so that the word in front stays. -/
def normalize (t : Text) : Text :=
  match dropIs t with
  | (true, rest) => if fold rest = "c".toList then "isc" else fold rest
  | (false, rest) => fold rest

/-- All code points. -/
def any : Boundaries := [0]

/-- The code points of ASCII. -/
def ascii : Boundaries := [0, 0x80]

/-- The sets whose union is the general category with this name, or a set defined by way of
general categories. -/
def category? (name : Text) : Option (List Boundaries) :=
  if name = "any".toList then some [any]
  else if name = "ascii".toList then some [ascii]
  else if name = "assigned".toList then
    some (["l", "m", "n", "p", "s", "z", "cc", "cf", "co"].flatMap fun part =>
      (Category.members? part.toList).getD [])
  else Category.members? name

/-- The sets whose union has this name. -/
def named? (name : Text) : Option (List Boundaries) :=
  let name := normalize name
  ((Binary.boundaries? name).map ([·])).or
    ((category? name).or ((Script.boundaries? name).map ([·])))

/-- The properties that take values, by their short and their long names. -/
def valuedTable : List (List String × (Text → Option (List Boundaries))) :=
  [(["gc", "generalcategory"], category?),
    (["sc", "script"], fun value => (Script.boundaries? value).map ([·])),
    (["scx", "scriptextensions"], fun value => (Script.extensions? value).map ([·])),
    (["age"], Age.members?),
    (["gcb", "graphemeclusterbreak"], fun value => (Break.grapheme? value).map ([·])),
    (["wb", "wordbreak"], fun value => (Break.word? value).map ([·])),
    (["sb", "sentencebreak"], fun value => (Break.sentence? value).map ([·]))]

/-- The sets whose union is the value of the property with this name. -/
def valued? (property value : Text) : Option (List Boundaries) :=
  let property := normalize property
  (valuedTable.find? (·.1.any (·.toList == property))).bind fun (_, sets?) =>
    sets? (normalize value)

/-- The boundaries of the decimal digits. -/
def decimalDigit : Boundaries := (Category.boundaries? "nd").getD []

/-- Whether a character is a letter or may be used as one. -/
def isAlphabetic (c : Char) : Bool :=
  Boundaries.contains ((Binary.boundaries? "alphabetic").getD []) c.toNat

/-- Whether a character is alphabetic or a number of any kind. -/
def isAlphanumeric (c : Char) : Bool :=
  isAlphabetic c ||
    ((Category.members? "n").getD []).any fun set => Boundaries.contains set c.toNat

end CatalogLint.CodePoint.Property
