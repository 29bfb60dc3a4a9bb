import CatalogLint.Proofs.Catalog.Alike
import CatalogLint.Proofs.Text.Endings

/-!
# Catalogues without line endings

What is read from the lines of a catalogue is read from their bodies. A line and its body are alike
(`Line.alike_body`), so that the messages, the extent of the metadata and the runs of obsolete lines
are the same for `lines.map Text.body` as for `lines`; the fields of the metadata are the same as
well (`MetadataBlock.fields_map_body`).
-/

namespace CatalogLint

open Text (body)

namespace Line

@[simp] theorem kind_body (line : Text) : kind (body line) = kind line := by
  refine Text.apply_body (fun e he t => ?_) line
  simp (disch := first | assumption | decide) only [kind, Text.startsWith_append_breaks]

@[simp] theorem hasEmptyId_body (line : Text) : hasEmptyId (body line) = hasEmptyId line :=
  Text.apply_body (fun _ he => Text.startsWith_append_breaks (by decide) he) line

@[simp] theorem isFuzzy_body (line : Text) : isFuzzy (body line) = isFuzzy line := by
  have hword : Text.occursIn "fuzzy" (body line) = Text.occursIn "fuzzy" line :=
    Text.apply_body (fun _ he => Text.occursIn_append_breaks (by decide) (by decide) he) line
  rw [isFuzzy, isFuzzy, kind_body, hword]

@[simp] theorem isBlank_body (line : Text) : (body line).isBlank = line.isBlank :=
  Text.apply_body (fun _ he => Text.isBlank_append_breaks he) line

/-- A line is quoted if it starts with a quote. -/
theorem isQuoted_eq_startsWith (line : Text) : isQuoted line = line.startsWith ['"'] := by
  cases line with
  | nil => rfl
  | cons c t =>
    rw [isQuoted, Text.startsWith, List.isPrefixOf, List.isPrefixOf, Bool.and_true]
    exact BEq.comm

@[simp] theorem isQuoted_body (line : Text) : isQuoted (body line) = isQuoted line := by
  rw [isQuoted_eq_startsWith, isQuoted_eq_startsWith]
  exact Text.apply_body (fun _ he => Text.startsWith_append_breaks (by decide) he) line

theorem alike_body (line : Text) : Alike (body line) line :=
  ⟨kind_body line, hasEmptyId_body line, isQuoted_body line, isFuzzy_body line, isBlank_body line⟩

end Line

/-! ## Metadata -/

namespace Metadata

/-- A value ends before its line breaks. -/
theorem cleanValue_append_breaks {e : Text} (he : e.all Text.isBreak = true) (t : Text) :
    cleanValue (t ++ e) = cleanValue t :=
  congrArg (fun value : Text => dropLineFeeds (value.dropLastIf '"')) (Text.body_append_breaks he t)

@[simp] theorem readField?_body (line : Text) : readField? (body line) = readField? line := by
  refine Text.apply_body (fun e he t => ?_) line
  rw [readField?, Text.splitAtFirst?_append_breaks (by decide) (by decide) he, readField?,
    Option.map_map]
  refine congrArg (Option.map · _) (funext fun cut => ?_)
  simp only [Function.comp_apply, cleanValue_append_breaks he]

end Metadata

namespace MetadataBlock

theorem slice_map_body (b : MetadataBlock) (lines : List Text) :
    b.slice (lines.map body) = (b.slice lines).map body := by
  rw [slice, slice, ← List.map_take, ← List.map_drop]

theorem fieldsFrom_map_body (n : Nat) (lines : List Text) :
    fieldsFrom n (lines.map body) = fieldsFrom n lines := by
  induction lines generalizing n with
  | nil => rfl
  | cons line rest ih => rw [List.map_cons, fieldsFrom, fieldsFrom, Metadata.readField?_body, ih]

@[simp] theorem fields_map_body (b : MetadataBlock) (lines : List Text) :
    b.fields (lines.map body) = b.fields lines := by
  rw [fields, slice_map_body, fieldsFrom_map_body, fields]

theorem removeFrom_map_body (b : MetadataBlock) (lines : List Text) :
    b.removeFrom (lines.map body) = (b.removeFrom lines).map body := by
  rw [removeFrom, removeFrom, List.map_append, List.map_take, List.map_drop]

end MetadataBlock

/-- Endings do not count. -/
@[simp] theorem Tally.ofLines_map_body (lines : List Text) :
    ofLines (lines.map body) = ofLines lines := ofLines_alike Line.alike_body lines

end CatalogLint
