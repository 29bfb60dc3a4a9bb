import CatalogLint.Text.Json

/-!
# Diagnostics

A finding is what a rule has to say about the lines of one catalogue. A diagnostic is a finding
with the name of the rule and the path of the catalogue. It has two forms: one line of text,

    message at path:line (detail)

and a JSON object. The line and the detail may be missing; an object without a line has `null`
there, and one without a detail has no such member.
-/

namespace CatalogLint

/-- What a rule found. Without a line it is about the whole catalogue. -/
structure Finding where
  line : Option Nat := none
  message : Text
  detail : Option Text := none
  deriving DecidableEq, Repr

/-- A finding in a catalogue. -/
structure Diagnostic extends Finding where
  path : Text
  rule : Text
  deriving DecidableEq, Repr

/-- The diagnostic of a finding in the catalogue at `path`. -/
def Finding.diagnostic (f : Finding) (path rule : Text) : Diagnostic := { f with path, rule }

namespace Diagnostic

/-- The diagnostic as a line of text. -/
def render (d : Diagnostic) : Text :=
  d.message ++ " at " ++ d.path ++
    (match d.line with
    | some n => ':' :: Text.ofNat n
    | none => []) ++
    (match d.detail with
    | some detail => " (" ++ detail ++ ")"
    | none => [])

/-- The diagnostic as a JSON object. -/
def toJson (d : Diagnostic) : Json :=
  .object ([("path".toList, .string d.path), ("check".toList, .string d.rule),
    ("line".toList, d.line.elim .null .number), ("message".toList, .string d.message)] ++
    d.detail.toList.map fun detail => ("detail".toList, .string detail))

end Diagnostic

end CatalogLint
