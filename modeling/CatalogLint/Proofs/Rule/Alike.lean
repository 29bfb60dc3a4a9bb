import CatalogLint.Proofs.Catalog.Alike
import CatalogLint.Proofs.Rule.Numbers
import CatalogLint.Rule.Basic

/-!
# Rules and lines that read alike

The rules on obsolete, fuzzy and untranslated messages, on the size of catalogues and on the absence
of metadata put no further question to a line, so that a catalogue and one of lines like its lines
are the same to them (`Rule.inspect_alike`). The other rules read more: the values of the metadata,
or the text of comments.
-/

namespace CatalogLint

variable {f : Text → Text} (hf : ∀ line, Line.Alike (f line) line)

include hf

theorem Translation.inspect_alike (requirement : Option Requirement) (lines : List Text) :
    inspect requirement (lines.map f) = inspect requirement lines := by
  unfold inspect untranslatedLines countTranslated
  rw [Message.scanBody_alike hf]

theorem Limits.inspect_alike (limits : Limits) (lines : List Text) :
    limits.inspect (lines.map f) = limits.inspect lines := by
  unfold inspect countMessages
  rw [Message.countStarts_alike hf, List.length_map]

theorem MetadataDemand.inspect_absence_alike (lines : List Text) :
    absence.inspect (lines.map f) = absence.inspect lines := by
  unfold inspect
  rw [Metadata.locate_alike hf]
  cases Metadata.locate lines <;> rfl

namespace Rule

omit hf in
/-- The rule reads no more of a line than tells it from lines that are not like it. -/
def ReadsLittle : Rule → Prop
  | metadata demand => demand = .absence
  | comments _ _ => False
  | _ => True

theorem inspect_alike (rule : Rule) (hrule : rule.ReadsLittle) (lines : List Text) :
    rule.inspect (lines.map f) = rule.inspect lines := by
  cases rule with
  | noObsolete => rw [inspect, Obsolete.runs_alike hf, inspect]
  | noFuzzy =>
    have hfuzzy : Line.isFuzzy ∘ f = Line.isFuzzy := funext fun line => (hf line).isFuzzy_eq
    rw [inspect, numbersWhere_map, hfuzzy, inspect]
  | translated requirement => exact Translation.inspect_alike hf requirement lines
  | limited limits => exact limits.inspect_alike hf lines
  | metadata demand =>
    cases hrule
    exact MetadataDemand.inspect_absence_alike hf lines
  | comments start dryRun => exact hrule.elim

end Rule

end CatalogLint
