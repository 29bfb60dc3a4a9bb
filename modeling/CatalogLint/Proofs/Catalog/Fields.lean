import CatalogLint.Catalog.Metadata
import CatalogLint.Proofs.Text.Basic

/-!
# Where the fields of metadata stand

The lines of a block of metadata are those from its first line on that are not blank
(`MetadataBlock.slice_of_locate`). Its fields are read from line to line: those of two parts are
those of the first and then those of the second (`fieldsFrom_append`), and no line holds two
(`pairwise_fieldsFrom`). Each is what the line with its number reads as (`mem_fields_iff`).
-/

namespace CatalogLint.MetadataBlock

/-- The lines of a block are those below the header entry, up to the first blank one. -/
theorem slice_of_locate {lines : List Text} {b : MetadataBlock}
    (hb : Metadata.locate lines = .block b) :
    b.slice lines = (lines.drop b.start).takeWhile fun line => !line.isBlank := by
  unfold Metadata.locate at hb
  cases hh : Metadata.headerIndex? lines with
  | none => simp [hh] at hb
  | some header =>
    simp only [hh] at hb
    split at hb
    · cases hb
      rw [slice, start, List.drop_take, Nat.add_sub_cancel_left]
      exact (List.prefix_iff_eq_take.mp (List.takeWhile_prefix _)).symm
    · cases hb

/-! ## Fields of a list of lines -/

theorem mem_fieldsFrom_bounds {n : Nat} {lines : List Text} {field : MetadataField}
    (h : field ∈ fieldsFrom n lines) : n ≤ field.line ∧ field.line < n + lines.length := by
  induction lines generalizing n with
  | nil => cases h
  | cons line rest ih =>
    rw [List.length_cons]
    rw [fieldsFrom] at h
    split at h
    · rcases List.mem_cons.mp h with rfl | h
      · simp
      · have := ih h
        omega
    · have := ih h
      omega

theorem fieldsFrom_append (n : Nat) (first second : List Text) :
    fieldsFrom n (first ++ second) = fieldsFrom n first ++ fieldsFrom (n + first.length) second := by
  induction first generalizing n with
  | nil => rfl
  | cons line rest ih =>
    have hlength : n + (line :: rest).length = n + 1 + rest.length := by
      rw [List.length_cons]
      omega
    rw [List.cons_append, fieldsFrom, fieldsFrom, ih, hlength]
    split <;> rfl

/-- Lines without the separator hold no field. -/
theorem fieldsFrom_eq_nil {lines : List Text}
    (h : ∀ line ∈ lines, Text.occursIn ": " line = false) (n : Nat) : fieldsFrom n lines = [] := by
  induction lines generalizing n with
  | nil => rfl
  | cons line rest ih =>
    have hnone : Metadata.readField? line = none := by
      rw [Metadata.readField?, Text.splitAtFirst?_eq_none (h line List.mem_cons_self),
        Option.map_none]
    rw [fieldsFrom, hnone]
    exact ih (fun line' hline' => h line' (List.mem_cons_of_mem line hline')) (n + 1)

/-- Each field stands below the one in front of it. -/
theorem pairwise_fieldsFrom (n : Nat) (lines : List Text) :
    (fieldsFrom n lines).Pairwise (·.line < ·.line) := by
  induction lines generalizing n with
  | nil => exact .nil
  | cons line rest ih =>
    rw [fieldsFrom]
    split
    · refine .cons (fun field hfield => ?_) (ih (n + 1))
      exact (mem_fieldsFrom_bounds hfield).1
    · exact ih (n + 1)

theorem pairwise_fields (b : MetadataBlock) (lines : List Text) :
    (b.fields lines).Pairwise (·.line < ·.line) := pairwise_fieldsFrom b.firstLine _

/-! ## The lines of the fields -/

section Lines

variable {lines : List Text} {b : MetadataBlock}

theorem mem_fieldsFrom_iff {n : Nat} {field : MetadataField} :
    field ∈ fieldsFrom n lines ↔
      ∃ i line, field.line = n + i ∧ lines[i]? = some line ∧
        Metadata.readField? line = some (field.name, field.value) := by
  induction lines generalizing n with
  | nil => simp [fieldsFrom]
  | cons first rest ih =>
    have hcons : field ∈ fieldsFrom n (first :: rest) ↔
        (field.line = n ∧ Metadata.readField? first = some (field.name, field.value)) ∨
          field ∈ fieldsFrom (n + 1) rest := by
      rw [fieldsFrom]
      cases hread : Metadata.readField? first with
      | none => simp
      | some pair =>
        obtain ⟨k, name, value⟩ := field
        obtain ⟨name', value'⟩ := pair
        simp [eq_comm]
    rw [hcons, ih]
    constructor
    · rintro (⟨hline, hread⟩ | ⟨i, line, hi, hline, hread⟩)
      · exact ⟨0, first, hline, rfl, hread⟩
      · exact ⟨i + 1, line, by omega, hline, hread⟩
    · rintro ⟨i, line, hi, hline, hread⟩
      cases i with
      | zero =>
        obtain rfl : first = line := Option.some.inj hline
        exact Or.inl ⟨hi, hread⟩
      | succ i => exact Or.inr ⟨i, line, by omega, hline, hread⟩

theorem getElem?_slice_eq_some_iff {i : Nat} {line : Text} :
    (b.slice lines)[i]? = some line ↔ b.start + i < b.stop ∧ lines[b.start + i]? = some line := by
  rw [slice, List.getElem?_drop, List.getElem?_take]
  by_cases hlt : b.start + i < b.stop
  · simp [hlt]
  · simp [hlt]

/-- A field of the block is what one of its lines reads as. -/
theorem mem_fields_iff {field : MetadataField} :
    field ∈ b.fields lines ↔
      ∃ i line, b.start ≤ i ∧ i < b.stop ∧ lines[i]? = some line ∧ field.line = i + 1 ∧
        Metadata.readField? line = some (field.name, field.value) := by
  rw [fields, mem_fieldsFrom_iff, firstLine]
  simp only [getElem?_slice_eq_some_iff]
  constructor
  · rintro ⟨i, line, hnumber, ⟨hlt, hline⟩, hread⟩
    exact ⟨b.start + i, line, by omega, hlt, hline, by omega, hread⟩
  · rintro ⟨i, line, hle, hlt, hline, hnumber, hread⟩
    obtain ⟨k, rfl⟩ := Nat.exists_eq_add_of_le hle
    exact ⟨k, line, by omega, ⟨hlt, hline⟩, hread⟩

end Lines

end CatalogLint.MetadataBlock
