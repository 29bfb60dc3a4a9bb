import CatalogLint.CodePoint.Property
import CatalogLint.CodePoint.Folding
import CatalogLint.Text.Blank

/-!
# Character sets

The sets of characters that a pattern names, kept as the expressions that build them.
Membership is decided by evaluating the expression at a character.
-/

namespace CatalogLint

/-- An expression for a set of characters. -/
inductive CharSet where
  /-- The characters of a table. -/
  | table (set : Boundaries)
  /-- The characters from `first` to `last`. -/
  | range (first last : Char)
  /-- White space. -/
  | space
  | union (a b : CharSet)
  | inter (a b : CharSet)
  | diff (a b : CharSet)
  | compl (a : CharSet)
  /-- The characters equal to a member up to case. -/
  | folded (a : CharSet)
  /-- The characters equal to a member up to the case of ASCII letters. -/
  | asciiFolded (a : CharSet)
  deriving DecidableEq, Repr

namespace CharSet

/-- Whether a character is in the set. -/
def contains : CharSet → Char → Bool
  | table set, c => Boundaries.contains set c.toNat
  | range first last, c => first ≤ c && c ≤ last
  | space, c => isSpace c
  | union a b, c => a.contains c || b.contains c
  | inter a b, c => a.contains c && b.contains c
  | diff a b, c => a.contains c && !b.contains c
  | compl a, c => !a.contains c
  | folded a, c =>
    (CodePoint.Folding.equivalents c.toNat).any fun n => a.contains (Char.ofNat n)
  | asciiFolded a, c =>
    (CodePoint.Folding.asciiEquivalents c.toNat).any fun n => a.contains (Char.ofNat n)

/-- No character. -/
def empty : CharSet := table []

/-- Every character. -/
def any : CharSet := compl empty

/-- One character. -/
def single (c : Char) : CharSet := range c c

/-- The union of a list of sets. -/
def unions (sets : List CharSet) : CharSet := sets.foldr union empty

/-- The characters of a text. -/
def ofText (t : Text) : CharSet := unions (t.map single)

/-- The characters in exactly one of two sets. -/
def symmDiff (a b : CharSet) : CharSet := union (diff a b) (diff b a)

/-- The set, or its complement if `negated`. -/
def negateIf (negated : Bool) (a : CharSet) : CharSet := if negated then compl a else a

/-- Whether none of the characters from U+0080 to U+00FF is in the set. A set meant for bytes
matches whole characters only if this holds. -/
def isAscii (a : CharSet) : Bool :=
  (List.range 128).all fun n => !a.contains (Char.ofNat (128 + n))

/-! ## Named sets -/

/-- The ASCII digits. -/
def asciiDigit : CharSet := range '0' '9'

/-- The ASCII letters. -/
def asciiLetter : CharSet := union (range 'A' 'Z') (range 'a' 'z')

/-- The ASCII letters, digits and the underscore. -/
def asciiWord : CharSet := unions [asciiDigit, asciiLetter, single '_']

/-- The ASCII white space. -/
def asciiSpace : CharSet := union (range '\t' '\r') (single ' ')

/-- The set of a class name between `[:` and `:]`. -/
def asciiClass? (name : Text) : Option CharSet :=
  [("alnum", union asciiDigit asciiLetter),
    ("alpha", asciiLetter),
    ("ascii", range '\x00' '\x7f'),
    ("blank", union (single '\t') (single ' ')),
    ("cntrl", union (range '\x00' '\x1f') (single '\x7f')),
    ("digit", asciiDigit),
    ("graph", range '!' '~'),
    ("lower", range 'a' 'z'),
    ("print", range ' ' '~'),
    ("punct", unions [range '!' '/', range ':' '@', range '[' '\x60', range '\x7b' '~']),
    ("space", asciiSpace),
    ("upper", range 'A' 'Z'),
    ("word", asciiWord),
    ("xdigit", unions [asciiDigit, range 'A' 'F', range 'a' 'f'])].findSome?
      fun (known, set) => if name = known.toList then some set else none

/-- The decimal digits of all scripts. -/
def digit : CharSet := table CodePoint.Property.decimalDigit

/-- The word characters of all scripts. -/
def word : CharSet := table CodePoint.Binary.word

end CharSet

end CatalogLint
