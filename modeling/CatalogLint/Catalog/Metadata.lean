import CatalogLint.Catalog.Line

/-!
# Metadata

The metadata of a catalogue is the translation of its header entry: the first message with
an empty identifier whose next line starts an empty translation. Its quoted lines hold one
`Name: value` each:

    msgid ""
    msgstr ""
    "Project-Id-Version: 1.2.3\n"
    "Language: fr\n"

The block of metadata starts two lines below the header entry and ends before the first
blank line. Indices count lines from zero, line numbers from one.
-/

namespace CatalogLint

/-- A block of metadata: the lines from `start` up to and without `stop`. -/
structure MetadataBlock where
  /-- The index of the first line of the header entry. -/
  header : Nat
  /-- The index of the first line below the block. -/
  stop : Nat
  deriving DecidableEq, Repr

/-- What a catalogue has by way of metadata. -/
inductive Metadata where
  /-- No header entry. -/
  | noHeader
  /-- A header entry at this index, with no metadata. -/
  | empty (header : Nat)
  /-- A header entry with metadata. -/
  | block (b : MetadataBlock)
  deriving DecidableEq, Repr

/-- A line `Name: value` of the metadata. -/
structure MetadataField where
  line : Nat
  name : Text
  value : Text
  deriving DecidableEq, Repr

namespace Metadata

/-- The index of the header entry. -/
def headerIndex? : List Text → Option Nat
  | first :: second :: rest =>
    if Line.hasEmptyId first && Line.hasEmptyTranslation second then some 0
    else (headerIndex? (second :: rest)).map (· + 1)
  | _ => none

/-- Finds the metadata of a catalogue. -/
def locate (lines : List Text) : Metadata :=
  match headerIndex? lines with
  | none => noHeader
  | some header =>
    let body := lines.drop (header + 2)
    if body.head?.any Line.isQuoted then
      block ⟨header, header + 2 + (body.takeWhile fun line => !line.isBlank).length⟩
    else empty header

/-- A value without its escaped line feeds, each a backslash and an `n`, and without line
feeds proper. -/
def dropLineFeeds : Text → Text
  | '\\' :: 'n' :: t => dropLineFeeds t
  | c :: t => if c = '\n' then dropLineFeeds t else c :: dropLineFeeds t
  | [] => []

/-- The value that the end of a metadata line holds: the line ending, then one closing quote
and then the line feeds are removed. -/
def cleanValue (t : Text) : Text :=
  dropLineFeeds ((t.dropEndWhile fun c => c = '\n' || c = '\r').dropLastIf '"')

/-- The name and the value of a metadata line, if it has the separator `": "`. -/
def readField? (line : Text) : Option (Text × Text) :=
  (line.splitAtFirst? ": ").map fun (name, value) =>
    (name.dropWhile (· = '"'), cleanValue value)

end Metadata

namespace MetadataBlock

/-- The index of the first line of the block. -/
def start (b : MetadataBlock) : Nat := b.header + 2

/-- The number of the line that starts the translation of the header entry. -/
def translationLine (b : MetadataBlock) : Nat := b.header + 2

/-- The number of the first line of the block. -/
def firstLine (b : MetadataBlock) : Nat := b.start + 1

/-- The lines of the block. -/
def slice (b : MetadataBlock) (lines : List Text) : List Text :=
  (lines.take b.stop).drop b.start

/-- The fields of a list of lines of which the first has the number `n`. -/
def fieldsFrom (n : Nat) : List Text → List MetadataField
  | [] => []
  | line :: rest =>
    match Metadata.readField? line with
    | some (name, value) => ⟨n, name, value⟩ :: fieldsFrom (n + 1) rest
    | none => fieldsFrom (n + 1) rest

/-- The fields of the block, in the order of their lines. -/
def fields (b : MetadataBlock) (lines : List Text) : List MetadataField :=
  fieldsFrom b.firstLine (b.slice lines)

/-- The lines outside the block. -/
def removeFrom (b : MetadataBlock) (lines : List Text) : List Text :=
  lines.take b.start ++ lines.drop b.stop

end MetadataBlock

end CatalogLint
