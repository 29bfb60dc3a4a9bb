import CatalogLint.Catalog.Metadata
import CatalogLint.Order.Insertion
import CatalogLint.Pattern.Reader
import CatalogLint.Rule.Inspection

/-!
# Header specifications

A header specification lists the fields that metadata must have, each with a pattern that must
match its value from the first character on. Inserting a pattern for a name that is listed
already changes it in its place.

* `HeaderSpec.insert?` is `none` for a text that is no pattern.
* `HeaderSpec.violations` compares a specification with the fields of a block: of the fields
  of one name the last counts, wrong values come first, in the order of their lines, and then
  the missing names, in the order of the specification.
-/

namespace CatalogLint

/-- A field that metadata must have. -/
structure HeaderPattern where
  name : Text
  /-- The pattern as it was given. -/
  text : Text
  pattern : Pattern
  deriving DecidableEq, Repr

/-- The fields that metadata must have. -/
structure HeaderSpec where
  headers : List HeaderPattern := []
  deriving DecidableEq, Repr

namespace HeaderPattern

/-- The text of the pattern that looks for a given one at the start of a value. -/
def anchored (text : Text) : Text := "^(?:" ++ text ++ ")"

/-- A field with the pattern of a text. -/
def ofText? (name text : Text) : Option HeaderPattern :=
  (Pattern.ofText? (anchored text)).map fun pattern => { name, text, pattern }

/-- Whether the pattern matches a value. -/
def accepts (h : HeaderPattern) (value : Text) : Bool := h.pattern.matchesAnywhere value

end HeaderPattern

namespace HeaderSpec

/-- Puts a field in the place of the one of its name, or at the end. -/
def place (h : HeaderPattern) : List HeaderPattern → List HeaderPattern
  | [] => [h]
  | g :: rest => if g.name = h.name then h :: rest else g :: place h rest

/-- Lists a name with the pattern of a text. -/
def insert? (spec : HeaderSpec) (name text : Text) : Option HeaderSpec :=
  (HeaderPattern.ofText? name text).map fun h => ⟨place h spec.headers⟩

/-- Lists names with the patterns of their texts, one after the other. -/
def insertAll? (spec : HeaderSpec) : List (Text × Text) → Option HeaderSpec
  | [] => some spec
  | (name, text) :: rest => (spec.insert? name text).bind (·.insertAll? rest)

/-- A contact, an address behind a name. -/
def contact : Text := ".+\\s<.+@.+\\..+>"

/-- The fields that catalogues usually have. -/
def standardHeaders : List (Text × Text) :=
  [("Project-Id-Version", "\\d+\\.\\d+\\.\\d"),
    ("Report-Msgid-Bugs-To", contact),
    ("Last-Translator", contact),
    ("Language-Team", contact),
    ("Language", "\\w\\w_?\\w?\\w?(@\\w+)?"),
    ("Content-Type", "text/plain; charset=[0-9a-zA-Z\\-]+"),
    ("Content-Transfer-Encoding", "\\d+bits?")]

/-- The specification of the fields that catalogues usually have. -/
def standard? : Option HeaderSpec := ({} : HeaderSpec).insertAll? standardHeaders

/-! ## Comparing with metadata -/

/-- The last of the fields with a name. -/
def lastField? (name : Text) (fields : List MetadataField) : Option MetadataField :=
  fields.reverse.find? (·.name = name)

/-- The listed names that occur, each with its last field, in the order of the lines. -/
def found (spec : HeaderSpec) (fields : List MetadataField) :
    List (HeaderPattern × MetadataField) :=
  Order.sortBy (fun a b => a.2.line ≤ b.2.line)
    (spec.headers.filterMap fun h => (lastField? h.name fields).map (h, ·))

/-- The listed names that do not occur. -/
def missing (spec : HeaderSpec) (fields : List MetadataField) : List HeaderPattern :=
  spec.headers.filter fun h => (lastField? h.name fields).isNone

/-- The finding for a value that its pattern does not match. -/
def wrongValue (h : HeaderPattern) (field : MetadataField) : Finding :=
  { line := some field.line
    message := "Wrong metadata value"
    detail := some ("regex '" ++ h.text ++ "' not matching for value '" ++ field.value ++
      "' in header '" ++ field.name ++ "'") }

/-- The finding, at the line `line`, for a name that does not occur. -/
def absent (line : Nat) (h : HeaderPattern) : Finding :=
  { line := some line, message := "Expected metadata header '" ++ h.name ++ "' not found" }

/-- What is wrong with the fields of a block whose translation starts at the line `line`. -/
def violations (spec : HeaderSpec) (line : Nat) (fields : List MetadataField) : List Finding :=
  ((spec.found fields).filter fun (h, field) => !h.accepts field.value).map
    (fun (h, field) => wrongValue h field) ++
    (spec.missing fields).map (absent line)

end HeaderSpec

end CatalogLint
