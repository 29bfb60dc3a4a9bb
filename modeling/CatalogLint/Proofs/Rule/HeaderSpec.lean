import CatalogLint.Proofs.Catalog.Fields
import CatalogLint.Proofs.Catalog.Metadata
import CatalogLint.Proofs.Order.Sorting
import CatalogLint.Rule.Options
import Mathlib.Data.List.Nodup
import Mathlib.Data.List.Perm.Basic
import Mathlib.Tactic.SplitIfs

/-!
# The verdict on metadata

Specifications are made by insertion, which changes the pattern of a name that is there already in
its place, so that no name is listed twice (`HeaderSpec.Built.nodup_names`). Of the fields of a block
no two stand on one line. A value that its pattern does not match therefore has one finding, and the
findings on values stand in the strict order of their lines, in whatever order the specification lists
the names (`HeaderSpec.pairwise_found`, `HeaderSpec.found_eq_of_perm`).

The verdict depends on the last value of each name that is listed and on nothing else
(`Rule.inspect_fields_verdict`).
-/

namespace CatalogLint

namespace HeaderSpec

/-! ## Specifications as they are made -/

/-- A specification that insertions make of the empty one. -/
inductive Built : HeaderSpec → Prop
  | empty : Built {}
  | insert {spec spec' : HeaderSpec} {name text : Text} (h : Built spec)
      (hinsert : spec.insert? name text = some spec') : Built spec'

theorem map_name_place (h : HeaderPattern) (headers : List HeaderPattern) :
    (place h headers).map (·.name) =
      if h.name ∈ headers.map (·.name) then headers.map (·.name)
      else headers.map (·.name) ++ [h.name] := by
  induction headers with
  | nil => rfl
  | cons g rest ih =>
    rw [place]
    by_cases hg : g.name = h.name
    · simp [hg]
    · have hne : h.name ≠ g.name := Ne.symm hg
      rw [if_neg hg, List.map_cons, ih]
      by_cases hmem : h.name ∈ rest.map (·.name)
      · simp [hmem]
      · simp [hmem, hne]

/-- No name is listed twice. -/
theorem Built.nodup_names {spec : HeaderSpec} (h : spec.Built) :
    (spec.headers.map (·.name)).Nodup := by
  induction h with
  | empty => exact List.nodup_nil
  | insert _ hinsert ih =>
    obtain ⟨header, -, rfl⟩ := Option.map_eq_some_iff.mp hinsert
    simp only [map_name_place]
    split
    · exact ih
    · rename_i hmem
      exact List.nodup_append.mpr ⟨ih, List.nodup_singleton _, fun a ha b hb => by
        rintro rfl
        exact hmem (List.mem_singleton.mp hb ▸ ha)⟩

theorem Built.insertAll? {spec spec' : HeaderSpec} (h : spec.Built)
    {pairs : List (Text × Text)} (hall : spec.insertAll? pairs = some spec') : spec'.Built := by
  induction pairs generalizing spec with
  | nil =>
    cases hall
    exact h
  | cons pair rest ih =>
    obtain ⟨next, hnext, hrest⟩ := Option.bind_eq_some_iff.mp hall
    exact ih (h.insert hnext) hrest

/-- The specifications that options make are made by insertion. -/
theorem built_of_demand {options : MetadataOptions} {spec : HeaderSpec}
    (h : options.demand = .ok (.fields spec)) : spec.Built := by
  have hstart : ∀ start,
      (if options.standardHeaders then standard? else some {}) = some start → start.Built := by
    intro start hstart
    split_ifs at hstart
    · exact Built.empty.insertAll? hstart
    · cases hstart
      exact .empty
  unfold MetadataOptions.demand at h
  dsimp only at h
  generalize (if options.standardHeaders then standard? else some {}) = start? at h hstart
  split_ifs at h
  · cases h
  · cases h
  · cases hall : start?.bind (·.insertAll? (options.headers.zip options.values)) with
    | none => simp [hall] at h
    | some spec' =>
      obtain ⟨start, rfl, hpairs⟩ := Option.bind_eq_some_iff.mp hall
      simp only [hall, Except.ok.injEq, MetadataDemand.fields.injEq] at h
      exact h ▸ (hstart start rfl).insertAll? hpairs

/-! ## The last field of a name -/

/-- The field is the last of its name. -/
def IsLast (name : Text) (field : MetadataField) (fields : List MetadataField) : Prop :=
  ∃ before after, fields = before ++ field :: after ∧ field.name = name ∧
    ∀ g ∈ after, g.name ≠ name

theorem lastField?_eq_some_iff {name : Text} {field : MetadataField}
    {fields : List MetadataField} :
    lastField? name fields = some field ↔ IsLast name field fields := by
  rw [lastField?, List.find?_eq_some_iff_append]
  constructor
  · rintro ⟨hname, after, before, hsplit, hafter⟩
    refine ⟨before.reverse, after.reverse, ?_, by simpa using hname, fun g hg => ?_⟩
    · rw [← List.reverse_reverse fields, hsplit]
      simp
    · simpa using hafter g (List.mem_reverse.mp hg)
  · rintro ⟨before, after, rfl, hname, hafter⟩
    refine ⟨by simpa using hname, after.reverse, before.reverse, by simp, fun g hg => ?_⟩
    simpa using hafter g (List.mem_reverse.mp hg)

theorem lastField?_eq_none_iff {name : Text} {fields : List MetadataField} :
    lastField? name fields = none ↔ ∀ field ∈ fields, field.name ≠ name := by
  rw [lastField?, List.find?_eq_none]
  simp

theorem IsLast.mem {name : Text} {field : MetadataField} {fields : List MetadataField}
    (h : IsLast name field fields) : field ∈ fields := by
  obtain ⟨before, after, rfl, -⟩ := h
  simp

theorem IsLast.name_eq {name : Text} {field : MetadataField} {fields : List MetadataField}
    (h : IsLast name field fields) : field.name = name := by
  obtain ⟨before, after, -, hname, -⟩ := h
  exact hname

/-! ## Names that occur -/

section Found

variable {spec spec' : HeaderSpec} {fields : List MetadataField}

theorem mem_found_iff {h : HeaderPattern} {field : MetadataField} :
    (h, field) ∈ spec.found fields ↔ h ∈ spec.headers ∧ IsLast h.name field fields := by
  rw [found, (Order.sortBy_perm _ _).mem_iff, List.mem_filterMap]
  constructor
  · rintro ⟨h', hmem, hfield⟩
    obtain ⟨field', hlast, heq⟩ := Option.map_eq_some_iff.mp hfield
    obtain ⟨rfl, rfl⟩ := Prod.mk.inj heq
    exact ⟨hmem, lastField?_eq_some_iff.mp hlast⟩
  · rintro ⟨hmem, hlast⟩
    exact ⟨h, hmem, by rw [lastField?_eq_some_iff.mpr hlast, Option.map_some]⟩

theorem eq_of_line_eq (hfields : fields.Pairwise (·.line < ·.line)) {f g : MetadataField}
    (hf : f ∈ fields) (hg : g ∈ fields) (h : f.line = g.line) : f = g := by
  have hnodup : (fields.map (·.line)).Nodup :=
    List.pairwise_map.mpr (hfields.imp fun hlt => Nat.ne_of_lt hlt)
  exact List.inj_on_of_nodup_map hnodup hf hg h

/-- Two names do not share a line, so that the lines of the fields increase strictly. -/
theorem pairwise_found (hspec : (spec.headers.map (·.name)).Nodup)
    (hfields : fields.Pairwise (·.line < ·.line)) :
    (spec.found fields).Pairwise fun a b => a.2.line < b.2.line := by
  refine Order.pairwise_sortBy_key (fun a b => decide_eq_true_iff) ?_
  have hnames : spec.headers.Pairwise fun h h' => h.name ≠ h'.name := List.pairwise_map.mp hspec
  refine hnames.filterMap _ ?_
  intro h h' hname a ha b hb hline
  obtain ⟨f, hf, rfl⟩ := Option.map_eq_some_iff.mp ha
  obtain ⟨g, hg, rfl⟩ := Option.map_eq_some_iff.mp hb
  have hf := lastField?_eq_some_iff.mp hf
  have hg := lastField?_eq_some_iff.mp hg
  obtain rfl : f = g := eq_of_line_eq hfields hf.mem hg.mem hline
  exact hname (hf.name_eq.symm.trans hg.name_eq)

/-- The order of the specification does not matter to the order of the names that occur. -/
theorem found_eq_of_perm (hspec : (spec.headers.map (·.name)).Nodup)
    (hfields : fields.Pairwise (·.line < ·.line)) (hperm : spec'.headers.Perm spec.headers) :
    spec'.found fields = spec.found fields := by
  have hspec' : (spec'.headers.map (·.name)).Nodup := (hperm.map _).nodup_iff.mpr hspec
  have hfound : (spec'.found fields).Perm (spec.found fields) :=
    (Order.sortBy_perm _ _).trans ((hperm.filterMap _).trans (Order.sortBy_perm _ _).symm)
  exact Order.eq_of_perm hfound (pairwise_found hspec' hfields) (pairwise_found hspec hfields)

/-- The values that their patterns do not match, each with its pattern. -/
def wrong (spec : HeaderSpec) (fields : List MetadataField) :
    List (HeaderPattern × MetadataField) :=
  (spec.found fields).filter fun (h, field) => !h.accepts field.value

theorem mem_wrong_iff {h : HeaderPattern} {field : MetadataField} :
    (h, field) ∈ spec.wrong fields ↔
      h ∈ spec.headers ∧ IsLast h.name field fields ∧ h.accepts field.value = false := by
  rw [wrong, List.mem_filter, mem_found_iff, Bool.not_eq_true', and_assoc]

theorem pairwise_wrong (hspec : (spec.headers.map (·.name)).Nodup)
    (hfields : fields.Pairwise (·.line < ·.line)) :
    (spec.wrong fields).Pairwise fun a b => a.2.line < b.2.line :=
  (pairwise_found hspec hfields).filter _

/-- In the order of their lines there is one list of the values that are not matched. -/
theorem eq_wrong {wrong : List (HeaderPattern × MetadataField)}
    (hspec : (spec.headers.map (·.name)).Nodup) (hfields : fields.Pairwise (·.line < ·.line))
    (hmem : ∀ h field, (h, field) ∈ wrong ↔
      h ∈ spec.headers ∧ IsLast h.name field fields ∧ h.accepts field.value = false)
    (hlines : wrong.Pairwise fun a b => a.2.line < b.2.line) : wrong = spec.wrong fields :=
  Order.eq_of_mem_iff (fun ⟨h, field⟩ => (hmem h field).trans mem_wrong_iff.symm) hlines
    (pairwise_wrong hspec hfields)

theorem missing_eq (spec : HeaderSpec) (fields : List MetadataField) :
    spec.missing fields = spec.headers.filter fun h => ∀ field ∈ fields, field.name ≠ h.name := by
  refine List.filter_congr fun h _ => ?_
  rw [Bool.eq_iff_iff, Option.isNone_iff_eq_none, lastField?_eq_none_iff, decide_eq_true_eq]

/-- Nothing is wrong exactly if each name occurs and its last value is matched. -/
theorem violations_eq_nil_iff {line : Nat} :
    spec.violations line fields = [] ↔
      ∀ h ∈ spec.headers, ∃ field, IsLast h.name field fields ∧ h.accepts field.value = true := by
  have hsplit : spec.violations line fields = [] ↔
      spec.wrong fields = [] ∧ spec.missing fields = [] := by
    rw [violations, List.append_eq_nil_iff, List.map_eq_nil_iff, List.map_eq_nil_iff, wrong]
  rw [hsplit]
  constructor
  · rintro ⟨hwrong, hmissing⟩ h hmem
    cases hlast : lastField? h.name fields with
    | none =>
      have hin : h ∈ spec.missing fields := List.mem_filter.mpr ⟨hmem, by rw [hlast]; rfl⟩
      rw [hmissing] at hin
      cases hin
    | some field =>
      have hlast := lastField?_eq_some_iff.mp hlast
      refine ⟨field, hlast, ?_⟩
      by_contra haccepts
      have hin := mem_wrong_iff.mpr ⟨hmem, hlast, by simpa using haccepts⟩
      rw [hwrong] at hin
      cases hin
  · intro hall
    constructor
    · refine List.eq_nil_iff_forall_not_mem.mpr fun ⟨h, field⟩ hin => ?_
      obtain ⟨hmem, hlast, hrejects⟩ := mem_wrong_iff.mp hin
      obtain ⟨field', hlast', haccepts⟩ := hall h hmem
      have heq : some field = some field' := by
        rw [← lastField?_eq_some_iff.mpr hlast, lastField?_eq_some_iff.mpr hlast']
      cases heq
      rw [haccepts] at hrejects
      cases hrejects
    · refine List.filter_eq_nil_iff.mpr fun h hmem hnone => ?_
      obtain ⟨field, hlast, -⟩ := hall h hmem
      rw [lastField?_eq_some_iff.mpr hlast] at hnone
      cases hnone

end Found

end HeaderSpec

namespace Rule

open HeaderSpec

theorem inspect_fields_of_block {lines : List Text} {b : MetadataBlock}
    (hb : Metadata.locate lines = .block b) (spec : HeaderSpec) :
    (metadata (.fields spec)).inspect lines =
      .ofViolations (spec.violations b.translationLine (b.fields lines)) := by
  simp only [inspect, MetadataDemand.inspect, hb]

theorem failed_inspect_fields_iff {lines : List Text} {b : MetadataBlock}
    (hb : Metadata.locate lines = .block b) (spec : HeaderSpec) :
    ((metadata (.fields spec)).inspect lines).failed = false ↔
      ∀ h ∈ spec.headers, ∃ field, IsLast h.name field (b.fields lines) ∧
        h.accepts field.value = true := by
  have hnil : spec.violations b.translationLine (b.fields lines) = [] ↔ _ :=
    violations_eq_nil_iff
  rw [inspect_fields_of_block hb, ← hnil]
  simp [Inspection.ofViolations]

/-- Below the first line of a header entry its translation starts, as an empty text. -/
theorem exists_translationLine {lines : List Text} {b : MetadataBlock}
    (hb : Metadata.locate lines = .block b) :
    ∃ line, lines[b.header + 1]? = some line ∧ Line.hasEmptyTranslation line = true := by
  obtain ⟨above, first, second, body, below, hparts⟩ := Metadata.exists_blockParts hb
  refine ⟨second, ?_, hparts.second_emptyTranslation⟩
  rw [hparts.lines_eq, hparts.header_eq]
  simp

/-- Metadata passes exactly if each name that the specification lists occurs and the last value of
it is matched by its pattern. Otherwise there is first one finding for each name whose last value is
not matched, on the line of that value, in the strict order of the lines and whatever the order of
the specification, and then one for each name that does not occur, in the order of the specification,
on the line where the translation of the header entry starts. Metadata in which each of these names
has the same last value, or none in both, has the same verdict from the specification in any
order. -/
theorem inspect_fields_verdict {lines : List Text} {b : MetadataBlock}
    (hb : Metadata.locate lines = .block b) {spec : HeaderSpec} (hspec : spec.Built) :
    (((metadata (.fields spec)).inspect lines).failed = false ↔
      ∀ h ∈ spec.headers, ∃ field, IsLast h.name field (b.fields lines) ∧
        h.accepts field.value = true) ∧
    (∃ wrong : List (HeaderPattern × MetadataField),
      (∀ h field, (h, field) ∈ wrong ↔
        h ∈ spec.headers ∧ IsLast h.name field (b.fields lines) ∧
          h.accepts field.value = false) ∧
      (wrong.Pairwise fun a c => a.2.line < c.2.line) ∧
      ∀ spec' : HeaderSpec, spec'.headers.Perm spec.headers →
        let found := (metadata (.fields spec')).inspect lines
        found.findings =
          (wrong.map fun (h, field) =>
            { line := some field.line
              message := "Wrong metadata value"
              detail := some ("regex '" ++ h.text ++ "' not matching for value '" ++ field.value ++
                "' in header '" ++ field.name ++ "'") }) ++
          ((spec'.headers.filter fun h => ∀ field ∈ b.fields lines, field.name ≠ h.name).map
            fun h =>
              { line := some (b.header + 2)
                message := "Expected metadata header '" ++ h.name ++ "' not found"
                detail := none }) ∧
        found.rewrite = none) ∧
    (∀ field ∈ b.fields lines, ∃ i line, field.line = i + 1 ∧ lines[i]? = some line ∧
      b.header + 2 ≤ i ∧ i < b.stop ∧
      Metadata.readField? line = some (field.name, field.value)) ∧
    (∃ line, lines[b.header + 1]? = some line ∧ Line.hasEmptyTranslation line = true) ∧
    ∀ (spec' : HeaderSpec) (lines' : List Text) (b' : MetadataBlock),
      spec'.headers.Perm spec.headers → Metadata.locate lines' = .block b' →
      (∀ h ∈ spec.headers, ∀ value,
        (∃ field, IsLast h.name field (b'.fields lines') ∧ field.value = value) ↔
          ∃ field, IsLast h.name field (b.fields lines) ∧ field.value = value) →
      ((metadata (.fields spec')).inspect lines').failed =
        ((metadata (.fields spec)).inspect lines).failed := by
  have hfields := b.pairwise_fields lines
  refine ⟨failed_inspect_fields_iff hb spec, ⟨spec.wrong (b.fields lines),
    fun h field => mem_wrong_iff, pairwise_wrong hspec.nodup_names hfields,
    fun spec' hperm => ⟨?_, ?_⟩⟩, fun field hfield => ?_, exists_translationLine hb, ?_⟩
  · rw [inspect_fields_of_block hb, Inspection.ofViolations, violations,
      found_eq_of_perm hspec.nodup_names hfields hperm, missing_eq]
    rfl
  · rw [inspect_fields_of_block hb, Inspection.ofViolations]
  · obtain ⟨i, line, hle, hlt, hline, hnumber, hread⟩ := MetadataBlock.mem_fields_iff.mp hfield
    exact ⟨i, line, hnumber, hline, hle, hlt, hread⟩
  · intro spec' lines' b' hperm hb' hvalues
    rw [← Bool.not_inj_iff, Bool.eq_iff_iff, Bool.not_eq_true', Bool.not_eq_true',
      failed_inspect_fields_iff hb', failed_inspect_fields_iff hb]
    constructor
    · intro hall h hmem
      obtain ⟨field, hlast, haccepts⟩ := hall h (hperm.mem_iff.mpr hmem)
      obtain ⟨field', hlast', hvalue⟩ := (hvalues h hmem field.value).mp ⟨field, hlast, rfl⟩
      exact ⟨field', hlast', hvalue ▸ haccepts⟩
    · intro hall h hmem
      obtain ⟨field, hlast, haccepts⟩ := hall h (hperm.mem_iff.mp hmem)
      obtain ⟨field', hlast', hvalue⟩ :=
        (hvalues h (hperm.mem_iff.mp hmem) field.value).mpr ⟨field, hlast, rfl⟩
      exact ⟨field', hlast', hvalue ▸ haccepts⟩

/-- Of two values of one name the last counts, here for specifications that options make; the other
one and a name that is not listed do not matter. Two values that are not matched are found in the
order of their lines, and then the name that does not occur. -/
theorem inspect_fields_verdict_last :
    let lines : List Text := ["msgid \"\"\n", "msgstr \"\"\n", "\"Language: xx\\n\"\n",
      "\"X: y\\n\"\n", "\"Language: fr\\n\"\n"]
    let found : List Finding :=
      [{ line := some 4
         message := "Wrong metadata value"
         detail := some "regex 'z' not matching for value 'y' in header 'X'" },
        { line := some 5
          message := "Wrong metadata value"
          detail := some "regex 'xx' not matching for value 'fr' in header 'Language'" },
        { line := some 2, message := "Expected metadata header 'N' not found" }]
    ∃ spec strict, MetadataOptions.demand { headers := ["Language"], values := ["fr"] } =
        .ok (.fields spec) ∧
      MetadataOptions.demand { headers := ["Language", "N", "X"], values := ["xx", "n", "z"] } =
        .ok (.fields strict) ∧
      ((metadata (.fields spec)).inspect lines).failed = false ∧
      ((metadata (.fields strict)).inspect lines).findings = found := by
  intro lines found
  have hb : Metadata.locate lines = .block ⟨0, 5⟩ := by decide
  have hfields : MetadataBlock.fields ⟨0, 5⟩ lines =
    [⟨3, "Language", "xx"⟩, ⟨4, "X", "y"⟩, ⟨5, "Language", "fr"⟩] := by decide
  obtain ⟨spec, hspec, hheaders⟩ : ∃ spec,
      MetadataOptions.demand { headers := ["Language"], values := ["fr"] } = .ok (.fields spec) ∧
      ∀ h ∈ spec.headers, h.name = "Language".toList ∧ h.accepts "fr" = true :=
    ⟨_, rfl, by decide⟩
  obtain ⟨strict, hstrict, hviolations⟩ : ∃ strict,
      MetadataOptions.demand { headers := ["Language", "N", "X"], values := ["xx", "n", "z"] } =
        .ok (.fields strict) ∧
      strict.violations 2 [⟨3, "Language", "xx"⟩, ⟨4, "X", "y"⟩, ⟨5, "Language", "fr"⟩] = found :=
    ⟨_, rfl, by decide⟩
  refine ⟨spec, strict, hspec, hstrict, ?_, ?_⟩
  · refine (inspect_fields_verdict hb (built_of_demand hspec)).1.mpr fun h hmem => ?_
    obtain ⟨hname, haccepts⟩ := hheaders h hmem
    exact ⟨⟨5, "Language", "fr"⟩, ⟨[⟨3, "Language", "xx"⟩, ⟨4, "X", "y"⟩], [], hfields, hname.symm,
      nofun⟩, haccepts⟩
  · have hbuilt := built_of_demand hstrict
    obtain ⟨-, ⟨wrong, hmem, hlines, hfindings⟩, -⟩ := inspect_fields_verdict hb hbuilt
    obtain rfl := eq_wrong hbuilt.nodup_names (MetadataBlock.pairwise_fields _ _) hmem hlines
    rw [(hfindings strict (.refl _)).1, ← missing_eq, hfields]
    exact hviolations

end Rule

end CatalogLint
