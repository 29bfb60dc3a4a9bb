import CatalogLint.Rule.HeaderSpec

/-!
# The rule on metadata

What is demanded of the metadata of a catalogue: that it fits a specification, that there is
none, or that there is none any more. A catalogue without a header entry satisfies all of them.
-/

namespace CatalogLint

/-- What is demanded of metadata. -/
inductive MetadataDemand where
  /-- The fields of a specification. -/
  | fields (spec : HeaderSpec)
  /-- No metadata. -/
  | absence
  /-- The removal of metadata. -/
  | removal
  deriving DecidableEq, Repr

namespace MetadataDemand

/-- Applies the demand to the lines of a catalogue. -/
def inspect (demand : MetadataDemand) (lines : List Text) : Inspection :=
  match demand, Metadata.locate lines with
  | _, .noHeader => .pass
  | fields spec, .block b => .ofViolations (spec.violations b.translationLine (b.fields lines))
  | fields _, .empty _ => .ofViolations [{ message := "No metadata found" }]
  | absence, .block b =>
    .ofViolations [{ line := some b.firstLine, message := "Found unexpected metadata" }]
  | removal, .block b =>
    { Inspection.pass with
      rewrite := some
        { lines := b.removeFrom lines
          done := [{ line := some b.firstLine, message := "Metadata removed" }] } }
  | absence, .empty _ => .pass
  | removal, .empty _ => .pass

end MetadataDemand

end CatalogLint
