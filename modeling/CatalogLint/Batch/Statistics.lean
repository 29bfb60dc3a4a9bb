import CatalogLint.Batch.Run
import CatalogLint.Catalog.Tally

/-!
# Statistics

The tallies of the catalogues that a list of paths stands for, as a table with a line for each
catalogue or as a JSON array. The column of paths is as many characters wide as the longest
path has bytes.
-/

namespace CatalogLint

/-- The tally as a JSON object. -/
def Tally.toJson (t : Tally) : Json :=
  .object [("total".toList, .number t.total), ("translated".toList, .number t.translated),
    ("fuzzy".toList, .number t.fuzzy), ("untranslated".toList, .number t.untranslated),
    ("obsolete".toList, .number t.obsolete)]

/-- The tally of the catalogue at a path. -/
structure FileTally where
  path : Text
  tally : Tally
  deriving DecidableEq, Repr

namespace FileTally

/-- Reads a catalogue and counts its messages. -/
def read (disk : Disk) (path : Text) : Except DiskError FileTally :=
  (disk.read path).map fun text => { path, tally := Tally.ofLines text.lines }

/-- The tallies of the files at the given paths up to the first that cannot be read. -/
def readAll (disk : Disk) : List Text → List FileTally × Option FileError
  | [] => ([], none)
  | path :: rest =>
    match read disk path with
    | .error cause => ([], some { path, cause })
    | .ok tally =>
      let (tallies, error) := readAll disk rest
      (tally :: tallies, error)

/-- The tally with its path as a JSON object. -/
def toJson (f : FileTally) : Json :=
  .object [("path".toList, .string f.path), ("entries".toList, f.tally.toJson)]

/-- The width of the column of paths. -/
def columnWidth (tallies : List FileTally) : Nat :=
  tallies.foldl (fun n f => max n f.path.utf8Length) 0

/-- A line of the table. -/
def renderLine (colours : Bool) (width : Nat) (f : FileTally) : Text :=
  f.path ++ Text.fill ' ' (width - f.path.length) ++ " " ++ f.tally.render colours ++ "\n"

/-- The tallies as a table. -/
def renderTable (colours : Bool) (tallies : List FileTally) : Text :=
  tallies.flatMap (renderLine colours (columnWidth tallies))

/-- The tallies as a line with a JSON array. -/
def renderJson (tallies : List FileTally) : Text :=
  (Json.array (tallies.map toJson)).render ++ "\n"

end FileTally

end CatalogLint
