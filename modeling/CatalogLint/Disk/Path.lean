import CatalogLint.Text.Basic

/-!
# Paths

A path is a text of names between slashes. A `Location` is what a path leads to once `.`,
`..` and links are gone: the list of names from the root of the disk.

* `Path.fileName?` is the last name of a path, `Path.absolute` makes a path absolute by its
  text alone, and `Path.dropHere` removes a leading `./`.
* `Location.le` compares locations name by name.
-/

namespace CatalogLint

/-- The names from the root of the disk to an entry. -/
abbrev Location := List Text

namespace Location

/-- The order of names: character by character, a shorter name before its extensions. -/
def leName : Text → Text → Bool
  | [], _ => true
  | _ :: _, [] => false
  | c :: a, d :: b => c < d || (c == d && leName a b)

/-- The order of locations: name by name, a directory before what is in it. -/
def le : Location → Location → Bool
  | [], _ => true
  | _ :: _, [] => false
  | a :: l, b :: m => if a = b then le l m else leName a b

/-- What is left of `l` below `base`, if `l` is `base` or in it. -/
def below? : (base l : Location) → Option Location
  | [], l => some l
  | _ :: _, [] => none
  | a :: base, b :: l => if a = b then below? base l else none

/-- The location as an absolute path. -/
def render (l : Location) : Text := '/' :: Text.join "/" l

end Location

namespace Path

/-- The pieces of a path between its slashes, empty ones included. -/
def pieces (path : Text) : List Text := Text.pieces '/' path

/-- Whether a path starts at the root of the disk. -/
def isAbsolute (path : Text) : Bool := path.head? == some '/'

/-- Whether a piece stays in the directory it is met in. -/
def isHere (piece : Text) : Bool := piece = [] || piece = ".".toList

/-- The pieces of a path that lead somewhere. -/
def names (path : Text) : List Text := (pieces path).filter (!isHere ·)

/-- The last name of a path, unless it is empty or leads up. -/
def fileName? (path : Text) : Option Text :=
  match (names path).getLast? with
  | some name => if name = "..".toList then none else some name
  | none => none

/-- One step of making a path absolute: `..` goes back, even where a link leads elsewhere. -/
def enter (l : Location) (name : Text) : Location :=
  if name = "..".toList then l.dropLast else l ++ [name]

/-- The location that a path names by its text alone, seen from `directory`. -/
def absolute (directory : Location) (path : Text) : Location :=
  (names path).foldl enter (if isAbsolute path then [] else directory)

/-- The path without a leading `.` and the slashes and further dots behind it. -/
def dropHere (path : Text) : Text :=
  match pieces path with
  | ['.'] :: rest => Text.join "/" (rest.dropWhile isHere)
  | _ => path

/-- The path of something below a directory, given the path of that. -/
def descend (path : Text) (l : Location) : Text :=
  path ++ (if path.getLast? = some '/' then [] else ['/']) ++ Text.join "/" l

/-- Whether a file name has the extension `po`: a point and the two letters, with something in
front of them. -/
def hasCatalogExtension (name : Text) : Bool :=
  name.endsWith ".po" && 3 < name.length

end Path

end CatalogLint
