import CatalogLint.Proofs.Catalog.Line
import CatalogLint.Proofs.Rule.HeaderSpec

/-!
# How far the validation of metadata reads

A block of metadata goes on to the first blank line, and the quoted lines of the header entry may be
only its front: a comment, an obsolete line or a message that stands right below them, with no blank
line in between, is read for fields as well. `EntrySplit` cuts a catalogue behind the quoted lines;
what is read of the rest are its `strays`.

Two catalogues with the same front are judged alike if the strays of both have the same last field of
each name that the specification lists, or none. For the specifications together this is exact: where
the strays differ in the last field of a name, a specification tells the catalogues apart that lists
this name with a pattern that matches nothing (`Rule.inspect_fields_eq_iff`). A message below the
header entry can make valid metadata invalid (`Rule.inspect_fields_reads_message`).
-/

namespace CatalogLint

/-- A catalogue is cut behind its header entry: `front` ends with the two lines of the entry and the
quoted lines below them, and `tail` does not start with a quoted line. -/
structure EntrySplit (front tail : List Text) (header : Nat) : Prop where
  headerIndex?_eq : Metadata.headerIndex? (front ++ tail) = some header
  entry_le : header + 2 ≤ front.length
  quoted : ∀ line ∈ front.drop (header + 2), Line.isQuoted line = true
  tail_unquoted : tail.head?.any Line.isQuoted = false

namespace EntrySplit

variable {front tail : List Text} {header : Nat}

/-- The lines below the header entry that belong to the block of metadata all the same. -/
def strays (tail : List Text) : List Text := tail.takeWhile fun line => !line.isBlank

/-- The fields that are read from these lines. -/
def strayFields (front tail : List Text) : List MetadataField :=
  MetadataBlock.fieldsFrom (front.length + 1) (strays tail)

/-- The fields of the quoted lines of the header entry. -/
def ownFields (front : List Text) (header : Nat) : List MetadataField :=
  MetadataBlock.fieldsFrom (header + 3) (front.drop (header + 2))

theorem drop_eq (h : EntrySplit front tail header) :
    (front ++ tail).drop (header + 2) = front.drop (header + 2) ++ tail :=
  List.drop_append_of_le_length h.entry_le

theorem locate_of_eq (h : EntrySplit front tail header) (hlength : front.length = header + 2) :
    Metadata.locate (front ++ tail) = .empty header := by
  have hnone : front.drop (header + 2) = [] := List.drop_eq_nil_of_le (by omega)
  rw [Metadata.locate, h.headerIndex?_eq]
  simp only [h.drop_eq, hnone, List.nil_append, h.tail_unquoted]
  rfl

theorem locate_of_lt (h : EntrySplit front tail header) (hlength : header + 2 < front.length) :
    ∃ b, Metadata.locate (front ++ tail) = .block b ∧ b.header = header := by
  have hquoted : ((front ++ tail).drop (header + 2)).head?.any Line.isQuoted = true := by
    obtain ⟨line, rest, hfront⟩ := List.exists_cons_of_length_pos
      (l := front.drop (header + 2)) (by rw [List.length_drop]; omega)
    have hline := h.quoted line (by rw [hfront]; exact List.mem_cons_self)
    rw [h.drop_eq, hfront]
    exact hline
  rw [Metadata.locate, h.headerIndex?_eq]
  simp only [hquoted, if_true]
  exact ⟨_, rfl, rfl⟩

/-- The block holds the fields of the quoted lines and then those of the strays. -/
theorem fields_eq (h : EntrySplit front tail header) {b : MetadataBlock}
    (hb : Metadata.locate (front ++ tail) = .block b) (hheader : b.header = header) :
    b.fields (front ++ tail) = ownFields front header ++ strayFields front tail := by
  have hquoted : ∀ line ∈ front.drop (header + 2), (!line.isBlank) = true := fun line hline => by
    rw [Line.isBlank_of_isQuoted (h.quoted line hline), Bool.not_false]
  have hnumber : header + 3 + (front.drop (header + 2)).length = front.length + 1 := by
    have := h.entry_le
    rw [List.length_drop]
    omega
  rw [MetadataBlock.fields, MetadataBlock.slice_of_locate hb, MetadataBlock.firstLine,
    MetadataBlock.start, hheader, h.drop_eq, List.takeWhile_append_of_pos hquoted,
    MetadataBlock.fieldsFrom_append, hnumber]
  rfl

end EntrySplit

namespace HeaderSpec

open EntrySplit

/-! ## The last field in two parts -/

theorem lastField?_append (name : Text) (first second : List MetadataField) :
    lastField? name (first ++ second) = (lastField? name second).or (lastField? name first) := by
  rw [lastField?, List.reverse_append, List.find?_append, lastField?, lastField?]

theorem lastField?_eq_iff {name : Text} {fields fields' : List MetadataField} :
    lastField? name fields = lastField? name fields' ↔
      ∀ field, IsLast name field fields ↔ IsLast name field fields' := by
  simp only [← lastField?_eq_some_iff]
  exact ⟨fun h field => by rw [h], Option.ext⟩

/-- The strays stand below the quoted lines, so that the last field of both tells the last one of the
strays. -/
theorem lastField?_append_strays_iff {front tail tail' : List Text} {header : Nat} {name : Text}
    (hentry : header + 2 ≤ front.length) :
    lastField? name (ownFields front header ++ strayFields front tail) =
        lastField? name (ownFields front header ++ strayFields front tail') ↔
      lastField? name (strayFields front tail) = lastField? name (strayFields front tail') := by
  have hown : ∀ field, lastField? name (ownFields front header) = some field →
      field.line < front.length + 1 := by
    intro field hfield
    have hbounds := (MetadataBlock.mem_fieldsFrom_bounds (lastField?_eq_some_iff.mp hfield).mem).2
    rw [List.length_drop] at hbounds
    omega
  have hstray : ∀ tail field, lastField? name (strayFields front tail) = some field →
      front.length + 1 ≤ field.line := fun tail field hfield =>
    (MetadataBlock.mem_fieldsFrom_bounds (lastField?_eq_some_iff.mp hfield).mem).1
  rw [lastField?_append, lastField?_append]
  refine ⟨fun h => ?_, fun h => by rw [h]⟩
  cases hfirst : lastField? name (strayFields front tail) with
  | none =>
    cases hsecond : lastField? name (strayFields front tail') with
    | none => rfl
    | some field =>
      rw [hfirst, hsecond] at h
      have := hown field h
      have := hstray tail' field hsecond
      omega
  | some field =>
    cases hsecond : lastField? name (strayFields front tail') with
    | none =>
      rw [hfirst, hsecond] at h
      have := hown field h.symm
      have := hstray tail field hfirst
      omega
    | some field' =>
      rw [hfirst, hsecond] at h
      exact h

/-- What is wrong depends on the last fields of the names that are listed. -/
theorem violations_congr {spec : HeaderSpec} {line : Nat} {fields fields' : List MetadataField}
    (h : ∀ p ∈ spec.headers, lastField? p.name fields = lastField? p.name fields') :
    spec.violations line fields = spec.violations line fields' := by
  have hfound : spec.found fields = spec.found fields' := by
    rw [found, found]
    refine congrArg _ (List.filterMap_congr fun p hp => ?_)
    rw [h p hp]
  have hmissing : spec.missing fields = spec.missing fields' :=
    List.filter_congr fun p hp => by rw [h p hp]
  rw [violations, violations, hfound, hmissing]

/-! ## A pattern that matches nothing -/

/-- No place is both an edge of a word and none. -/
theorem ends_edge_eq_nil (ascii : Bool) (spots : List Spot) :
    (Pattern.anchor (.word .noBoundary ascii)).ends
      ((Pattern.anchor (.word .boundary ascii)).ends spots) = [] := by
  rw [Pattern.ends, Pattern.ends, List.filter_filter]
  refine List.filter_eq_nil_iff.mpr fun spot _ h => ?_
  simp [Anchor.holds] at h

/-- A name can be listed with a pattern that matches nothing. -/
theorem exists_rejecting (name : Text) :
    ∃ h : HeaderPattern, HeaderPattern.ofText? name "\\b\\B" = some h ∧ h.name = name ∧
      ∀ value, h.accepts value = false := by
  have hread : Pattern.ofText? (HeaderPattern.anchored "\\b\\B") =
      some (.seq (.anchor .textStart)
        (.seq (.seq (.anchor (.word .boundary false))
          (.seq (.anchor (.word .noBoundary false)) .empty)) .empty)) := rfl
  refine ⟨_, congrArg (Option.map _) hread, rfl, fun value => ?_⟩
  rw [HeaderPattern.accepts, Pattern.matchesAnywhere, Bool.not_eq_false', List.isEmpty_iff]
  exact ends_edge_eq_nil false _

/-- The finding on a value tells the field. -/
theorem wrongValue_inj {h : HeaderPattern} {field field' : MetadataField}
    (hname : field.name = field'.name) (heq : wrongValue h field = wrongValue h field') :
    field = field' := by
  obtain ⟨hline, -, hdetail⟩ := Finding.mk.inj heq
  rw [hname] at hdetail
  have hvalue : field.value = field'.value := by simpa using hdetail
  obtain ⟨line, name, value⟩ := field
  obtain ⟨line', name', value'⟩ := field'
  obtain rfl := Option.some.inj hline
  obtain rfl := hname
  obtain rfl := hvalue
  rfl

theorem wrongValue_ne_absent (h : HeaderPattern) (field : MetadataField) (line : Nat) :
    wrongValue h field ≠ absent line h := by
  intro heq
  have hmessage := congrArg Finding.message heq
  cases hmessage

/-- With such a pattern the findings are told by the last field, and the other way round. -/
theorem violations_rejecting {h : HeaderPattern} (hrejects : ∀ value, h.accepts value = false)
    (line : Nat) (fields : List MetadataField) :
    HeaderSpec.violations ⟨[h]⟩ line fields =
      [(lastField? h.name fields).elim (absent line h) (wrongValue h)] := by
  cases hlast : lastField? h.name fields with
  | none => simp [violations, found, missing, hlast, Order.sortBy]
  | some field => simp [violations, found, missing, hlast, Order.sortBy, Order.insertBy, hrejects]

theorem lastField?_eq_of_violations_rejecting {h : HeaderPattern}
    (hrejects : ∀ value, h.accepts value = false) {line : Nat} {fields fields' : List MetadataField}
    (heq : HeaderSpec.violations ⟨[h]⟩ line fields = HeaderSpec.violations ⟨[h]⟩ line fields') :
    lastField? h.name fields = lastField? h.name fields' := by
  rw [violations_rejecting hrejects, violations_rejecting hrejects] at heq
  have heq := List.singleton_inj.mp heq
  cases hfirst : lastField? h.name fields with
  | none =>
    cases hsecond : lastField? h.name fields' with
    | none => rfl
    | some field =>
      rw [hfirst, hsecond] at heq
      exact absurd heq.symm (wrongValue_ne_absent h field line)
  | some field =>
    cases hsecond : lastField? h.name fields' with
    | none =>
      rw [hfirst, hsecond] at heq
      exact absurd heq (wrongValue_ne_absent h field line)
    | some field' =>
      rw [hfirst, hsecond] at heq
      have hname := (lastField?_eq_some_iff.mp hfirst).name_eq.trans
        (lastField?_eq_some_iff.mp hsecond).name_eq.symm
      exact congrArg some (wrongValue_inj hname heq)

end HeaderSpec

/-! ## Two catalogues with the same header entry -/

namespace Rule

open EntrySplit HeaderSpec

variable {front tail tail' : List Text} {header : Nat}

/-- Behind quoted lines the fields of these and of the strays are judged. -/
theorem inspect_fields_of_lt (h : EntrySplit front tail header) (hlt : header + 2 < front.length)
    (spec : HeaderSpec) : (metadata (.fields spec)).inspect (front ++ tail) =
      .ofViolations (spec.violations (header + 2)
        (ownFields front header ++ strayFields front tail)) := by
  obtain ⟨b, hb, rfl⟩ := h.locate_of_lt hlt
  rw [inspect_fields_of_block hb, h.fields_eq hb rfl, MetadataBlock.translationLine]

/-- Without quoted lines nothing of the catalogue below the header entry matters. -/
theorem inspect_fields_of_length_eq (h : EntrySplit front tail header)
    (h' : EntrySplit front tail' header) (hlength : front.length = header + 2)
    (spec : HeaderSpec) : (metadata (.fields spec)).inspect (front ++ tail) =
      (metadata (.fields spec)).inspect (front ++ tail') := by
  simp only [inspect, MetadataDemand.inspect, h.locate_of_eq hlength, h'.locate_of_eq hlength]

/-- Validation gives the same for two catalogues if the strays agree on the names that are listed. -/
theorem inspect_fields_eq_of_strays (h : EntrySplit front tail header)
    (h' : EntrySplit front tail' header) {spec : HeaderSpec}
    (hstrays : ∀ p ∈ spec.headers,
      lastField? p.name (strayFields front tail) = lastField? p.name (strayFields front tail')) :
    (metadata (.fields spec)).inspect (front ++ tail) =
      (metadata (.fields spec)).inspect (front ++ tail') := by
  rcases Nat.lt_or_eq_of_le h.entry_le with hlt | heq
  · rw [inspect_fields_of_lt h hlt, inspect_fields_of_lt h' hlt]
    refine congrArg _ (violations_congr fun p hp => ?_)
    exact (lastField?_append_strays_iff h.entry_le).mpr (hstrays p hp)
  · exact inspect_fields_of_length_eq h h' heq.symm spec

/-- Two catalogues with the same lines down to the end of the header entry are validated alike by a
specification if the lines between the entry and the first blank line have the same last field of each
listed name in both, or none; so they are if none of these lines holds the separator. They are
validated alike by every specification exactly if the entry has no quoted line, or if these lines have
the same last field of every name. -/
theorem inspect_fields_eq_iff (h : EntrySplit front tail header)
    (h' : EntrySplit front tail' header) :
    (∀ spec : HeaderSpec,
      (∀ p ∈ spec.headers, ∀ field, IsLast p.name field (strayFields front tail) ↔
        IsLast p.name field (strayFields front tail')) →
      (metadata (.fields spec)).inspect (front ++ tail) =
        (metadata (.fields spec)).inspect (front ++ tail')) ∧
    ((∀ line ∈ strays tail ++ strays tail', Text.occursIn ": " line = false) →
      ∀ spec : HeaderSpec, (metadata (.fields spec)).inspect (front ++ tail) =
        (metadata (.fields spec)).inspect (front ++ tail')) ∧
    ((∀ spec : HeaderSpec, spec.Built → (metadata (.fields spec)).inspect (front ++ tail) =
        (metadata (.fields spec)).inspect (front ++ tail')) ↔
      front.length = header + 2 ∨
        ∀ name field, IsLast name field (strayFields front tail) ↔
          IsLast name field (strayFields front tail')) := by
  refine ⟨fun spec hspec => ?_, fun hlines spec => ?_, ?_⟩
  · exact inspect_fields_eq_of_strays h h' fun p hp => lastField?_eq_iff.mpr (hspec p hp)
  · have hnone : ∀ tail'', (∀ line ∈ strays tail'', Text.occursIn ": " line = false) →
        strayFields front tail'' = [] := fun _ hline => MetadataBlock.fieldsFrom_eq_nil hline _
    refine inspect_fields_eq_of_strays h h' fun p _ => ?_
    rw [hnone tail fun line hline => hlines line (List.mem_append_left _ hline),
      hnone tail' fun line hline => hlines line (List.mem_append_right _ hline)]
  · constructor
    · intro hall
      rcases Nat.lt_or_eq_of_le h.entry_le with hlt | heq
      · refine Or.inr fun name => lastField?_eq_iff.mp ?_
        -- The name is listed with a pattern that matches nothing, so that its last field shows.
        obtain ⟨p, hp, rfl, hrejects⟩ := exists_rejecting name
        have hbuilt : Built ⟨[p]⟩ :=
          Built.empty.insert (show HeaderSpec.insert? {} p.name "\\b\\B" = _ by
            rw [HeaderSpec.insert?, hp]
            rfl)
        have heq := hall ⟨[p]⟩ hbuilt
        rw [inspect_fields_of_lt h hlt, inspect_fields_of_lt h' hlt] at heq
        have hlast := lastField?_eq_of_violations_rejecting hrejects
          (congrArg Inspection.findings heq)
        exact (lastField?_append_strays_iff h.entry_le).mp hlast
      · exact Or.inl heq.symm
    · rintro (heq | hlast) spec -
      · exact inspect_fields_of_length_eq h h' heq spec
      · exact inspect_fields_eq_of_strays h h' fun p _ => lastField?_eq_iff.mpr (hlast p.name)

/-- A comment and an obsolete line right below the header entry hold fields of other names. -/
theorem inspect_fields_eq_iff_comment :
    let front : List Text := ["msgid \"\"\n", "msgstr \"\"\n", "\"Language: fr\\n\"\n"]
    let tail : List Text := ["\n", "\"Language: de\\n\"\n"]
    let tail' : List Text := ["# Language: de\n", "#~ \"Language: de\\n\"\n"]
    ∃ spec, MetadataOptions.demand { headers := ["Language"], values := ["fr"] } = .ok (.fields spec) ∧
      EntrySplit front tail 0 ∧ EntrySplit front tail' 0 ∧
      (metadata (.fields spec)).inspect (front ++ tail) =
        (metadata (.fields spec)).inspect (front ++ tail') := by
  intro front tail tail'
  have hsplit : EntrySplit front tail 0 := ⟨by decide, by decide, by decide, by decide⟩
  have hsplit' : EntrySplit front tail' 0 := ⟨by decide, by decide, by decide, by decide⟩
  have hdemand : ∃ spec, MetadataOptions.demand { headers := ["Language"], values := ["fr"] } =
      .ok (.fields spec) ∧ ∀ p ∈ spec.headers, lastField? p.name (strayFields front tail) =
        lastField? p.name (strayFields front tail') := by
    refine ⟨_, rfl, ?_⟩
    decide
  obtain ⟨spec, hspec, hnames⟩ := hdemand
  exact ⟨spec, hspec, hsplit, hsplit', (inspect_fields_eq_iff hsplit hsplit').1 spec
    fun p hp => lastField?_eq_iff.mp (hnames p hp)⟩

/-- A message right below valid metadata makes it invalid. -/
theorem inspect_fields_reads_message :
    let front : List Text := ["msgid \"\"\n", "msgstr \"\"\n", "\"Language: fr\\n\"\n"]
    let tail : List Text := ["\n", "msgid \"a\"\n", "msgstr \"\"\n", "\"Language: de\\n\"\n"]
    let tail' : List Text := ["msgid \"a\"\n", "msgstr \"\"\n", "\"Language: de\\n\"\n"]
    ∃ spec, MetadataOptions.demand { headers := ["Language"], values := ["fr"] } = .ok (.fields spec) ∧
      EntrySplit front tail 0 ∧ EntrySplit front tail' 0 ∧
      ((metadata (.fields spec)).inspect (front ++ tail)).failed = false ∧
      ((metadata (.fields spec)).inspect (front ++ tail')).failed = true := by
  refine ⟨_, rfl, ⟨by decide, by decide, by decide, by decide⟩,
    ⟨by decide, by decide, by decide, by decide⟩, ?_, ?_⟩
  · decide
  · decide

end Rule

end CatalogLint
