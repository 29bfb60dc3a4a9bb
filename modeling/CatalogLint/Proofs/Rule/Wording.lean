import CatalogLint.Proofs.Catalog.Location
import CatalogLint.Proofs.Number.Decimal
import CatalogLint.Proofs.Rule.HeaderSpec
import CatalogLint.Proofs.Rule.Insertion
import CatalogLint.Proofs.Rule.Rewrite

/-!
# What findings say

A finding takes its words from the rule, from numbers and from the catalogue. Only a value of the
metadata comes from the catalogue, and no line feed is left in one (`Metadata.not_mem_cleanValue`): a
name is repeated only if the specification lists it. So if the texts that a rule was given hold no
line feed, no finding of it does (`Rule.oneLine_of_mem_reported`). The texts of a rule are those of
the options that ask for it, and those of the usual headers (`RuleOptions.not_mem_texts_of_rule`).
-/

namespace CatalogLint

/-- Neither the message nor the detail of a finding holds a line feed. -/
structure Finding.OneLine (g : Finding) : Prop where
  message : '\n' ∉ g.message
  detail : ∀ detail, g.detail = some detail → '\n' ∉ detail

variable {lines : List Text} {g : Finding}

theorem Finding.oneLine_of_message {message : Text} (h : '\n' ∉ message) (line : Option Nat) :
    Finding.OneLine { line, message } := ⟨h, nofun⟩

/-! ## Numbers and values -/

namespace Text

theorem not_mem_ofNat (n : Nat) : '\n' ∉ ofNat n := by
  intro h
  exact absurd (isDigit_of_mem_ofNat h) (by decide)

theorem not_mem_ofInt (n : Int) : '\n' ∉ ofInt n := by
  cases n with
  | ofNat n => exact not_mem_ofNat n
  | negSucc n =>
    rw [ofInt, List.mem_cons, not_or]
    exact ⟨by decide, not_mem_ofNat (n + 1)⟩

end Text

theorem Metadata.not_mem_dropLineFeeds (t : Text) : '\n' ∉ dropLineFeeds t := by
  fun_induction dropLineFeeds t with
  | case1 t ih => exact ih
  | case2 t _ ih => exact ih
  | case3 c t _ hc ih =>
    rw [List.mem_cons, not_or]
    exact ⟨Ne.symm hc, ih⟩
  | case4 => exact List.not_mem_nil

theorem Metadata.not_mem_cleanValue (t : Text) : '\n' ∉ cleanValue t := not_mem_dropLineFeeds _

/-- The value of a field holds no line feed, whatever its line holds. -/
theorem MetadataBlock.not_mem_value {b : MetadataBlock} {field : MetadataField}
    (h : field ∈ b.fields lines) : '\n' ∉ field.value := by
  obtain ⟨i, line, -, -, -, -, hread⟩ := mem_fields_iff.mp h
  obtain ⟨cut, -, hcut⟩ := Option.map_eq_some_iff.mp hread
  rw [← (Prod.mk.inj hcut).2]
  exact Metadata.not_mem_cleanValue cut.2

/-! ## The findings of each rule -/

namespace HeaderSpec

variable {spec : HeaderSpec} {fields : List MetadataField} {line : Nat}

/-- The texts that a specification was given. -/
def texts (spec : HeaderSpec) : List Text := spec.headers.flatMap fun h => [h.name, h.text]

theorem mem_texts {h : HeaderPattern} (hmem : h ∈ spec.headers) :
    h.name ∈ spec.texts ∧ h.text ∈ spec.texts := by
  constructor
  · exact List.mem_flatMap.mpr ⟨h, hmem, by simp⟩
  · exact List.mem_flatMap.mpr ⟨h, hmem, by simp⟩

/-- The detail of a wrong value repeats the pattern, the value and the name. -/
theorem oneLine_wrongValue {h : HeaderPattern} {field : MetadataField} (htext : '\n' ∉ h.text)
    (hvalue : '\n' ∉ field.value) (hname : '\n' ∉ field.name) : (wrongValue h field).OneLine := by
  constructor
  · show '\n' ∉ "Wrong metadata value".toList
    decide
  · intro detail hdetail
    rw [← Option.some.inj hdetail]
    simp only [List.mem_append, not_or]
    exact ⟨⟨⟨⟨⟨⟨by decide, htext⟩, by decide⟩, hvalue⟩, by decide⟩, hname⟩, by decide⟩

theorem oneLine_absent {h : HeaderPattern} (hname : '\n' ∉ h.name) : (absent line h).OneLine := by
  apply Finding.oneLine_of_message
  simp only [List.mem_append, not_or]
  exact ⟨⟨by decide, hname⟩, by decide⟩

/-- The name of a field that is found is one that the specification lists. -/
theorem oneLine_of_mem_violations (htexts : ∀ text ∈ spec.texts, '\n' ∉ text)
    (hvalues : ∀ field ∈ fields, '\n' ∉ field.value) (h : g ∈ spec.violations line fields) :
    g.OneLine := by
  rw [violations] at h
  rcases List.mem_append.mp h with h | h
  · obtain ⟨⟨header, field⟩, hmem, rfl⟩ := List.mem_map.mp h
    obtain ⟨hheader, hlast⟩ := mem_found_iff.mp (List.mem_filter.mp hmem).1
    have hname : '\n' ∉ field.name := by
      rw [hlast.name_eq]
      exact htexts _ (mem_texts hheader).1
    exact oneLine_wrongValue (htexts _ (mem_texts hheader).2) (hvalues field hlast.mem) hname
  · obtain ⟨header, hmem, rfl⟩ := List.mem_map.mp h
    exact oneLine_absent (htexts _ (mem_texts (List.mem_filter.mp hmem).1).1)

end HeaderSpec

/-- The texts that a demand was given. -/
def MetadataDemand.texts : MetadataDemand → List Text
  | fields spec => spec.texts
  | absence => []
  | removal => []

theorem MetadataDemand.oneLine_of_mem_reported {demand : MetadataDemand}
    (htexts : ∀ text ∈ demand.texts, '\n' ∉ text) (h : g ∈ (demand.inspect lines).reported) :
    g.OneLine := by
  unfold inspect at h
  cases hm : Metadata.locate lines with
  | noHeader => simp [hm] at h
  | empty header =>
    cases demand with
    | fields spec =>
      simp only [hm, Inspection.reported_ofViolations] at h
      rw [List.mem_singleton.mp h]
      exact Finding.oneLine_of_message (by decide) _
    | absence => simp [hm] at h
    | removal => simp [hm] at h
  | block b =>
    cases demand with
    | fields spec =>
      simp only [hm, Inspection.reported_ofViolations] at h
      exact HeaderSpec.oneLine_of_mem_violations htexts (fun _ => MetadataBlock.not_mem_value) h
    | absence =>
      simp only [hm, Inspection.reported_ofViolations] at h
      rw [List.mem_singleton.mp h]
      exact Finding.oneLine_of_message (by decide) _
    | removal =>
      simp only [hm] at h
      rw [List.mem_singleton.mp h]
      exact Finding.oneLine_of_message (by decide) _

theorem Limits.oneLine_of_mem_exceeded {things : Text} {count : Int} {limit : Option Int}
    (hthings : '\n' ∉ things) (h : g ∈ exceeded things count limit) : g.OneLine := by
  unfold exceeded at h
  split at h
  · split at h
    · rename_i most _
      rw [List.mem_singleton.mp h]
      apply Finding.oneLine_of_message
      simp only [List.mem_append, not_or]
      exact ⟨⟨⟨⟨⟨⟨by decide, hthings⟩, by decide⟩, Text.not_mem_ofInt count⟩, by decide⟩,
        Text.not_mem_ofInt most⟩, by decide⟩
    · cases h
  · cases h

theorem Translation.not_mem_shortfall {r : Requirement} (htext : '\n' ∉ r.text)
    (translated : Nat) : '\n' ∉ shortfall r translated := by
  unfold shortfall
  split
  · simp only [List.mem_append, not_or]
    exact ⟨⟨by decide, htext⟩, by decide⟩
  · simp only [List.mem_append, not_or]
    exact ⟨⟨⟨⟨by decide, Text.not_mem_ofNat translated⟩, by decide⟩, htext⟩, by decide⟩

namespace Rule

/-- The texts that a rule was given. -/
def texts : Rule → List Text
  | translated (some r) => [r.text]
  | metadata demand => demand.texts
  | comments (.literal mark replacement) _ => [mark, replacement]
  | _ => []

theorem oneLine_of_mem_map {message : Text} {numbers : List Nat} (hmessage : '\n' ∉ message)
    (h : g ∈ numbers.map fun n => { line := some n, message }) : g.OneLine := by
  obtain ⟨n, -, rfl⟩ := List.mem_map.mp h
  exact Finding.oneLine_of_message hmessage (some n)

/-- No finding holds a line feed, if the texts of the rule hold none. -/
theorem oneLine_of_mem_reported {rule : Rule} (htexts : ∀ text ∈ rule.texts, '\n' ∉ text)
    (h : g ∈ (rule.inspect lines).reported) : g.OneLine := by
  cases rule with
  | noObsolete =>
    rw [inspect, violationsAt, Inspection.reported_ofViolations] at h
    exact oneLine_of_mem_map (by decide) h
  | noFuzzy =>
    rw [inspect, violationsAt, Inspection.reported_ofViolations] at h
    exact oneLine_of_mem_map (by decide) h
  | translated requirement =>
    cases requirement with
    | none =>
      rw [inspect, Translation.inspect, Inspection.reported_ofViolations] at h
      exact oneLine_of_mem_map (by decide) h
    | some r =>
      rw [inspect, Translation.inspect] at h
      split at h
      · cases h
      · rw [List.mem_singleton.mp h]
        have hshortfall := Translation.not_mem_shortfall (htexts r.text List.mem_cons_self)
        exact Finding.oneLine_of_message (hshortfall _) none
  | limited limits =>
    rw [inspect, Limits.inspect, Inspection.reported_ofViolations] at h
    rcases List.mem_append.mp h with h | h
    · exact Limits.oneLine_of_mem_exceeded (by decide) h
    · exact Limits.oneLine_of_mem_exceeded (by decide) h
  | metadata demand => exact MetadataDemand.oneLine_of_mem_reported htexts h
  | comments start dryRun =>
    cases dryRun with
    | true =>
      rw [inspect, CommentStart.inspect, Inspection.reported] at h
      simp only [if_true, Inspection.pending, Option.map_none, Option.getD_none,
        List.append_nil] at h
      exact oneLine_of_mem_map (by decide) h
    | false => cases h

end Rule

/-! ## The texts of options -/

namespace RuleOptions

/-- The texts that options give. -/
def texts : RuleOptions → List Text
  | untranslated minimum => minimum.toList
  | metadata options => options.headers ++ options.values
  | comments options => options.mark.toList ++ options.replacement.toList
  | _ => []

end RuleOptions

namespace HeaderSpec

/-- Options make the specification of their pairs, behind the usual ones if these are asked for. -/
theorem records_of_demand {options : MetadataOptions} {spec : HeaderSpec}
    (h : options.demand = .ok (.fields spec)) :
    Records (initial options.standardHeaders ++ options.headers.zip options.values) spec := by
  have hrecords := records_insertEach options.standardHeaders (options.headers.zip options.values)
  unfold MetadataOptions.demand at h
  dsimp only at h
  rw [start?_eq, Option.bind_some, insertAll?_eq] at h
  by_cases hall : (options.headers.zip options.values).all (isInsertable ·.2) = true
  · rw [if_pos hall] at h
    dsimp only at h
    split_ifs at h
    · cases h
    · cases h
    · rw [MetadataDemand.fields.inj (Except.ok.inj h)] at hrecords
      exact hrecords
  · rw [if_neg hall] at h
    dsimp only at h
    split_ifs at h
    · cases h
    · cases h

/-- The texts of the specification that options make are among those of the options and those of
the usual headers. -/
theorem not_mem_texts_of_demand {options : MetadataOptions} {spec : HeaderSpec}
    (h : options.demand = .ok (.fields spec))
    (htexts : ∀ text ∈ options.headers ++ options.values, '\n' ∉ text) :
    ∀ text ∈ spec.texts, '\n' ∉ text := by
  have hstandard : ∀ pair ∈ initial options.standardHeaders, '\n' ∉ pair.1 ∧ '\n' ∉ pair.2 := by
    cases options.standardHeaders with
    | false => exact nofun
    | true => decide
  have hpairs : ∀ pair ∈ initial options.standardHeaders ++ options.headers.zip options.values,
      '\n' ∉ pair.1 ∧ '\n' ∉ pair.2 := by
    intro pair hpair
    rcases List.mem_append.mp hpair with hpair | hpair
    · exact hstandard pair hpair
    · obtain ⟨hname, hvalue⟩ := List.of_mem_zip hpair
      exact ⟨htexts _ (List.mem_append_left _ hname), htexts _ (List.mem_append_right _ hvalue)⟩
  intro text htext
  obtain ⟨header, hheader, htext⟩ := List.mem_flatMap.mp htext
  -- What a header has is what it was last given.
  obtain ⟨before, after, hsplit, -⟩ := ((records_of_demand h).last header hheader).1
  have hgiven := hpairs (header.name, header.text) (by rw [hsplit]; simp)
  rcases List.mem_pair.mp htext with rfl | rfl
  · exact hgiven.1
  · exact hgiven.2

end HeaderSpec

/-- A literal start is made of the two texts that the options give. -/
theorem CommentOptions.given_of_start? {options : CommentOptions} {mark replacement : Text}
    (h : options.start? = some (.literal mark replacement)) :
    options.mark = some mark ∧ options.replacement = some replacement := by
  unfold start? at h
  split_ifs at h
  · cases h
  · split at h
    · rename_i hmark hreplacement
      cases h
      exact ⟨hmark, hreplacement⟩
    · cases h

/-- A rule that options ask for has no text with a line feed if they give none. -/
theorem RuleOptions.not_mem_texts_of_rule {options : RuleOptions} {rule : Rule}
    (hrule : options.rule = .ok rule) (htexts : ∀ text ∈ options.texts, '\n' ∉ text) :
    ∀ text ∈ rule.texts, '\n' ∉ text := by
  cases options with
  | obsolete =>
    cases hrule
    exact nofun
  | fuzzy =>
    cases hrule
    exact nofun
  | untranslated minimum =>
    cases minimum with
    | none =>
      cases hrule
      exact nofun
    | some text =>
      rw [RuleOptions.rule, requirement] at hrule
      cases hthreshold : Threshold.ofText? text with
      | none => simp [hthreshold, Except.map] at hrule
      | some threshold =>
        simp only [hthreshold, Except.map, Except.ok.injEq] at hrule
        subst hrule
        exact htexts
  | entries limits =>
    rw [RuleOptions.rule] at hrule
    split_ifs at hrule
    cases hrule
    exact nofun
  | metadata options =>
    rw [RuleOptions.rule] at hrule
    cases hdemand : options.demand with
    | error e => simp [hdemand, Except.map] at hrule
    | ok demand =>
      simp only [hdemand, Except.map, Except.ok.injEq] at hrule
      subst hrule
      cases demand with
      | fields spec => exact HeaderSpec.not_mem_texts_of_demand hdemand htexts
      | absence => exact nofun
      | removal => exact nofun
  | comments options =>
    rw [RuleOptions.rule] at hrule
    cases hstart : options.start? with
    | none => simp [hstart] at hrule
    | some start =>
      simp only [hstart, Except.ok.injEq] at hrule
      subst hrule
      cases start with
      | translators => exact nofun
      | literal mark replacement =>
        obtain ⟨hmark, hreplacement⟩ := CommentOptions.given_of_start? hstart
        rw [texts, hmark, hreplacement] at htexts
        exact htexts

end CatalogLint
