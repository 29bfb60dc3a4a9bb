import CatalogLint.Proofs.Rule.HeaderSpec

/-!
# Specifications as ordered maps

A specification is made by a history of insertions, of which those of a text that is no pattern are
refused. It records the history (`HeaderSpec.Records`): a name is listed if an insertion of it was
accepted, names stand in the order of their first accepted insertion, and each has the pattern of its
last one. One more insertion keeps this (`HeaderSpec.Records.insert`), so that every history is
recorded (`HeaderSpec.records_insertEach`), whether it starts with nothing listed or with the usual
names.
-/

namespace CatalogLint

namespace HeaderSpec

/-- Whether a text can be inserted for a name. -/
def isInsertable (text : Text) : Bool := (Pattern.ofText? (HeaderPattern.anchored text)).isSome

/-- The specification after insertions one after the other, where those that are refused leave it as
it is. -/
def insertEach (spec : HeaderSpec) : List (Text × Text) → HeaderSpec
  | [] => spec
  | (name, text) :: rest => ((spec.insert? name text).getD spec).insertEach rest

/-- The position of the first accepted insertion of a name. -/
def firstInsertion (history : List (Text × Text)) (name : Text) : Nat :=
  history.findIdx fun (other, text) => other = name && isInsertable text

/-- The last accepted insertion of a name is that of the text. -/
def IsLastInsertion (name text : Text) (history : List (Text × Text)) : Prop :=
  ∃ before after, history = before ++ (name, text) :: after ∧ isInsertable text = true ∧
    ∀ pair ∈ after, pair.1 = name → isInsertable pair.2 = false

/-- What a specification lists after a history of insertions. -/
structure Records (history : List (Text × Text)) (spec : HeaderSpec) : Prop where
  mem_names_iff : ∀ name, name ∈ spec.headers.map (·.name) ↔
    ∃ text, (name, text) ∈ history ∧ isInsertable text = true
  ordered : (spec.headers.map (·.name)).Pairwise fun a b =>
    firstInsertion history a < firstInsertion history b
  last : ∀ h ∈ spec.headers, IsLastInsertion h.name h.text history ∧
    HeaderPattern.ofText? h.name h.text = some h

/-! ## One insertion -/

theorem insert?_eq_none_iff {spec : HeaderSpec} {name text : Text} :
    spec.insert? name text = none ↔ isInsertable text = false := by
  rw [insert?, HeaderPattern.ofText?, Option.map_eq_none_iff, Option.map_eq_none_iff, isInsertable,
    Option.isSome_eq_false_iff, Option.isNone_iff_eq_none]

theorem exists_insert?_eq {text : Text} (h : isInsertable text = true) (spec : HeaderSpec)
    (name : Text) :
    ∃ header, header.name = name ∧ header.text = text ∧
      HeaderPattern.ofText? name text = some header ∧
      spec.insert? name text = some ⟨place header spec.headers⟩ := by
  obtain ⟨pattern, hpattern⟩ := Option.isSome_iff_exists.mp h
  have hheader : HeaderPattern.ofText? name text = some ⟨name, text, pattern⟩ := by
    rw [HeaderPattern.ofText?, hpattern]
    rfl
  exact ⟨⟨name, text, pattern⟩, rfl, rfl, hheader, by rw [insert?, hheader]; rfl⟩

theorem mem_names_place (h : HeaderPattern) (headers : List HeaderPattern) (name : Text) :
    name ∈ (place h headers).map (·.name) ↔ name ∈ headers.map (·.name) ∨ name = h.name := by
  rw [map_name_place]
  split
  · rename_i hlisted
    constructor
    · exact Or.inl
    · rintro (hname | rfl)
      · exact hname
      · exact hlisted
  · rw [List.mem_append, List.mem_singleton]

/-- What is listed for other names stays. -/
theorem mem_place {g h : HeaderPattern} {headers : List HeaderPattern}
    (hnodup : (headers.map (·.name)).Nodup) (hg : g ∈ place h headers) :
    g = h ∨ g ∈ headers ∧ g.name ≠ h.name := by
  induction headers with
  | nil =>
    rw [place, List.mem_singleton] at hg
    exact Or.inl hg
  | cons f rest ih =>
    rw [List.map_cons, List.nodup_cons] at hnodup
    rw [place] at hg
    by_cases hf : f.name = h.name
    · rw [if_pos hf, List.mem_cons] at hg
      refine hg.imp_right fun hrest => ⟨List.mem_cons_of_mem f hrest, ?_⟩
      intro hname
      exact hnodup.1 (List.mem_map.mpr ⟨g, hrest, hname.trans hf.symm⟩)
    · rw [if_neg hf, List.mem_cons] at hg
      rcases hg with rfl | hg
      · exact Or.inr ⟨List.mem_cons_self, hf⟩
      · refine (ih hnodup.2 hg).imp_right ?_
        rintro ⟨hmem, hne⟩
        exact ⟨List.mem_cons_of_mem f hmem, hne⟩

/-! ## Histories -/

section History

variable {history : List (Text × Text)} {name text : Text}

theorem firstInsertion_lt_iff :
    firstInsertion history name < history.length ↔
      ∃ text, (name, text) ∈ history ∧ isInsertable text = true := by
  rw [firstInsertion, List.findIdx_lt_length]
  constructor
  · rintro ⟨⟨other, text⟩, hmem, hfound⟩
    simp only [Bool.and_eq_true, decide_eq_true_eq] at hfound
    obtain ⟨rfl, htext⟩ := hfound
    exact ⟨text, hmem, htext⟩
  · rintro ⟨text, hmem, htext⟩
    exact ⟨(name, text), hmem, by simpa using htext⟩

theorem firstInsertion_append (history more : List (Text × Text)) (name : Text) :
    firstInsertion (history ++ more) name =
      if firstInsertion history name < history.length then firstInsertion history name
      else firstInsertion more name + history.length :=
  List.findIdx_append

/-- A name that is listed keeps its position. -/
theorem firstInsertion_concat_of_lt (h : firstInsertion history name < history.length)
    (pair : Text × Text) :
    firstInsertion (history ++ [pair]) name = firstInsertion history name := by
  rw [firstInsertion_append, if_pos h]

/-- A name that is new takes the position behind all others. -/
theorem firstInsertion_concat_self (h : history.length ≤ firstInsertion history name)
    (htext : isInsertable text = true) :
    firstInsertion (history ++ [(name, text)]) name = history.length := by
  rw [firstInsertion_append, if_neg (Nat.not_lt.mpr h)]
  simp [firstInsertion, htext]

/-- Another insertion, or one that is refused, leaves the last one of a name. -/
theorem IsLastInsertion.concat (h : IsLastInsertion name text history) {pair : Text × Text}
    (hpair : pair.1 = name → isInsertable pair.2 = false) :
    IsLastInsertion name text (history ++ [pair]) := by
  obtain ⟨before, after, rfl, htext, hafter⟩ := h
  refine ⟨before, after ++ [pair], by simp, htext, fun p hp => ?_⟩
  rcases List.mem_append.mp hp with hp | hp
  · exact hafter p hp
  · rw [List.mem_singleton.mp hp]
    exact hpair

theorem isLastInsertion_concat_self (history : List (Text × Text)) (name : Text)
    (h : isInsertable text = true) : IsLastInsertion name text (history ++ [(name, text)]) :=
  ⟨history, [], rfl, h, fun _ hp => nomatch hp⟩

/-- Nothing accepted for a name stands behind its last insertion. -/
theorem text_eq_of_accepted {text' : Text} {mid after after' : List (Text × Text)}
    (hsplit : (name, text) :: after = mid ++ (name, text') :: after')
    (hafter : ∀ pair ∈ after, pair.1 = name → isInsertable pair.2 = false)
    (htext' : isInsertable text' = true) : text = text' := by
  cases mid with
  | nil => exact (Prod.mk.inj (List.cons.inj hsplit).1).2
  | cons pair mid =>
    have hmem : (name, text') ∈ after := by
      rw [(List.cons.inj hsplit).2]
      simp
    rw [hafter _ hmem rfl] at htext'
    cases htext'

/-- A name has one last insertion. -/
theorem IsLastInsertion.unique {text' : Text} (h : IsLastInsertion name text history)
    (h' : IsLastInsertion name text' history) : text = text' := by
  obtain ⟨before, after, rfl, htext, hafter⟩ := h
  obtain ⟨before', after', hsplit, htext', hafter'⟩ := h'
  rcases List.append_eq_append_iff.mp hsplit with ⟨mid, -, hmid⟩ | ⟨mid, -, hmid⟩
  · exact text_eq_of_accepted hmid hafter htext'
  · exact (text_eq_of_accepted hmid hafter' htext).symm

end History

/-! ## Runs of insertions -/

section Runs

variable {history : List (Text × Text)} {spec : HeaderSpec}

theorem records_nil : Records [] {} where
  mem_names_iff := by simp
  ordered := List.Pairwise.nil
  last := by simp

theorem Records.nodup (h : Records history spec) : (spec.headers.map (·.name)).Nodup :=
  h.ordered.imp fun hlt heq => by
    rw [heq] at hlt
    exact Nat.lt_irrefl _ hlt

theorem Records.firstInsertion_lt (h : Records history spec) {name : Text}
    (hname : name ∈ spec.headers.map (·.name)) : firstInsertion history name < history.length :=
  firstInsertion_lt_iff.mpr ((h.mem_names_iff name).mp hname)

/-- The names that are listed keep their order. -/
theorem Records.ordered_concat (h : Records history spec) (pair : Text × Text) :
    (spec.headers.map (·.name)).Pairwise fun a b =>
      firstInsertion (history ++ [pair]) a < firstInsertion (history ++ [pair]) b := by
  refine h.ordered.imp_of_mem fun {a b} ha hb hlt => ?_
  rw [firstInsertion_concat_of_lt (h.firstInsertion_lt ha),
    firstInsertion_concat_of_lt (h.firstInsertion_lt hb)]
  exact hlt

/-- An insertion that is refused leaves no trace. -/
theorem Records.refuse (h : Records history spec) {name text : Text}
    (htext : isInsertable text = false) : Records (history ++ [(name, text)]) spec where
  mem_names_iff := by
    intro other
    rw [h.mem_names_iff]
    constructor
    · rintro ⟨text', hmem, htext'⟩
      exact ⟨text', List.mem_append_left _ hmem, htext'⟩
    · rintro ⟨text', hmem, htext'⟩
      rcases List.mem_append.mp hmem with hmem | hmem
      · exact ⟨text', hmem, htext'⟩
      · cases List.mem_singleton.mp hmem
        rw [htext] at htext'
        cases htext'
  ordered := h.ordered_concat _
  last := fun g hg => ⟨(h.last g hg).1.concat fun _ => htext, (h.last g hg).2⟩

/-- An insertion that is accepted changes what is listed for its name, or lists that behind all
others. -/
theorem Records.accept (h : Records history spec) {header : HeaderPattern}
    (hheader : HeaderPattern.ofText? header.name header.text = some header)
    (htext : isInsertable header.text = true) :
    Records (history ++ [(header.name, header.text)]) ⟨place header spec.headers⟩ where
  mem_names_iff := by
    intro other
    rw [mem_names_place, h.mem_names_iff]
    constructor
    · rintro (⟨text, hin, hok⟩ | rfl)
      · exact ⟨text, List.mem_append_left _ hin, hok⟩
      · exact ⟨header.text, by simp, htext⟩
    · rintro ⟨text, hin, hok⟩
      rcases List.mem_append.mp hin with hin | hin
      · exact Or.inl ⟨text, hin, hok⟩
      · exact Or.inr (Prod.mk.inj (List.mem_singleton.mp hin)).1
  ordered := by
    rw [map_name_place]
    split
    · exact h.ordered_concat _
    · rename_i hnew
      refine List.pairwise_append.mpr ⟨h.ordered_concat _, List.pairwise_singleton _ _, ?_⟩
      intro a ha b hb
      obtain rfl := List.mem_singleton.mp hb
      -- The new name was not inserted before, so that its first insertion is the last of all.
      have hle : history.length ≤ firstInsertion history header.name :=
        Nat.le_of_not_lt fun hlt => hnew ((h.mem_names_iff _).mpr (firstInsertion_lt_iff.mp hlt))
      have hlt := h.firstInsertion_lt ha
      rw [firstInsertion_concat_of_lt hlt, firstInsertion_concat_self hle htext]
      exact hlt
  last := by
    intro g hg
    rcases mem_place h.nodup hg with rfl | ⟨hmem, hne⟩
    · exact ⟨isLastInsertion_concat_self _ _ htext, hheader⟩
    · obtain ⟨hlast, hpattern⟩ := h.last g hmem
      exact ⟨hlast.concat fun hname => absurd hname.symm hne, hpattern⟩

/-- One more insertion, accepted or refused. -/
theorem Records.insert (h : Records history spec) (name text : Text) :
    Records (history ++ [(name, text)]) ((spec.insert? name text).getD spec) := by
  cases htext : isInsertable text with
  | false =>
    rw [insert?_eq_none_iff.mpr htext]
    exact h.refuse htext
  | true =>
    obtain ⟨header, rfl, rfl, hheader, hinsert⟩ := exists_insert?_eq htext spec name
    rw [hinsert]
    exact h.accept hheader htext

theorem Records.insertEach (h : Records history spec) (pairs : List (Text × Text)) :
    Records (history ++ pairs) (spec.insertEach pairs) := by
  induction pairs generalizing history spec with
  | nil =>
    rw [List.append_nil]
    exact h
  | cons pair rest ih =>
    have hrest := ih (h.insert pair.1 pair.2)
    rw [List.append_assoc] at hrest
    exact hrest

/-- Names that are listed stay where they are. -/
theorem prefix_names_insertEach (spec : HeaderSpec) (pairs : List (Text × Text)) :
    spec.headers.map (·.name) <+: (spec.insertEach pairs).headers.map (·.name) := by
  induction pairs generalizing spec with
  | nil => exact List.prefix_rfl
  | cons pair rest ih =>
    refine List.IsPrefix.trans ?_ (ih _)
    cases htext : isInsertable pair.2 with
    | false => rw [insert?_eq_none_iff.mpr htext]; exact List.prefix_rfl
    | true =>
      obtain ⟨header, -, -, -, hinsert⟩ := exists_insert?_eq htext spec pair.1
      rw [hinsert, Option.getD_some, map_name_place]
      split
      · exact List.prefix_rfl
      · exact List.prefix_append _ _

/-- Insertions all succeed if none of them is refused. -/
theorem insertAll?_eq (spec : HeaderSpec) (pairs : List (Text × Text)) :
    spec.insertAll? pairs =
      if pairs.all (isInsertable ·.2) then some (spec.insertEach pairs) else none := by
  induction pairs generalizing spec with
  | nil => rfl
  | cons pair rest ih =>
    rw [insertAll?]
    cases htext : isInsertable pair.2 with
    | false =>
      rw [insert?_eq_none_iff.mpr htext, List.all_cons, htext]
      rfl
    | true =>
      obtain ⟨header, -, -, -, hinsert⟩ := exists_insert?_eq htext spec pair.1
      rw [hinsert, Option.bind_some, ih, List.all_cons, htext, Bool.true_and, insertEach, hinsert]
      rfl

theorem insertEach_concat (spec : HeaderSpec) (pairs : List (Text × Text)) (name text : Text) :
    spec.insertEach (pairs ++ [(name, text)]) =
      ((spec.insertEach pairs).insert? name text).getD (spec.insertEach pairs) := by
  induction pairs generalizing spec with
  | nil => rfl
  | cons pair rest ih => exact ih _

end Runs

/-! ## The two ways to start -/

/-- What is inserted before the options ask for anything. -/
def initial (standard : Bool) : List (Text × Text) := if standard then standardHeaders else []

theorem isInsertable_of_mem_initial (standard : Bool) {pair : Text × Text}
    (h : pair ∈ initial standard) : isInsertable pair.2 = true := by
  cases standard with
  | false => cases h
  | true =>
    have hall : ∀ pair ∈ standardHeaders, isInsertable pair.2 = true := by decide
    exact hall pair h

theorem start?_eq (standard : Bool) :
    (if standard then standard? else some {}) =
      some (({} : HeaderSpec).insertEach (initial standard)) := by
  cases standard with
  | false => rfl
  | true =>
    refine (insertAll?_eq _ _).trans (if_pos ?_)
    exact List.all_eq_true.mpr fun _ => isInsertable_of_mem_initial true

theorem map_name_initial (standard : Bool) :
    (({} : HeaderSpec).insertEach (initial standard)).headers.map (·.name) =
      (initial standard).map (·.1) := by
  cases standard with
  | false => rfl
  | true => decide

theorem records_insertEach (standard : Bool) (pairs : List (Text × Text)) :
    Records (initial standard ++ pairs)
      ((({} : HeaderSpec).insertEach (initial standard)).insertEach pairs) :=
  (records_nil.insertEach (initial standard)).insertEach pairs

/-- Options that demand fields make the specification of their pairs, unless one is refused. -/
theorem demand_eq {options : MetadataOptions} (hno : options.noMetadata = false)
    (hremove : options.removeMetadata = false)
    (hlength : options.headers.length = options.values.length) :
    options.demand =
      if (options.headers.zip options.values).all (isInsertable ·.2) then
        .ok (.fields ((({} : HeaderSpec).insertEach (initial options.standardHeaders)).insertEach
          (options.headers.zip options.values)))
      else .error .invalidPattern := by
  unfold MetadataOptions.demand
  dsimp only
  rw [start?_eq, Option.bind_some, insertAll?_eq, hno, hremove, if_neg (not_not_intro hlength)]
  simp only [Bool.or_self, Bool.false_and, Bool.false_eq_true, if_false]
  split
  · rename_i spec hspec
    split at hspec
    · rename_i hall
      rw [if_pos hall, Option.some.inj hspec]
    · cases hspec
  · rename_i hnone
    split at hnone
    · cases hnone
    · rename_i hall
      rw [if_neg hall]

/-- Insertions one after the other, of which some may be refused, leave an ordered map, whether they
start with nothing listed or with the usual names. No name is listed twice, a name is listed if an
insertion of it was accepted, names stand in the order of their first accepted insertion, the usual
ones first and where they were, and each has the pattern of its last accepted insertion. An insertion
that is refused changes nothing. Options make the specification of the insertions of their pairs and
fail exactly if one of these is refused. -/
theorem insertEach_ordered (standard : Bool) (calls : List (Text × Text)) :
    ∃ start : HeaderSpec, (if standard then standard? else some {}) = some start ∧
      start.headers.map (·.name) = (initial standard).map (·.1) ∧
      start.headers.map (·.name) <+: (start.insertEach calls).headers.map (·.name) ∧
      ((start.insertEach calls).headers.map (·.name)).Nodup ∧
      (∀ name, name ∈ (start.insertEach calls).headers.map (·.name) ↔
        ∃ text, (name, text) ∈ initial standard ++ calls ∧ isInsertable text = true) ∧
      (((start.insertEach calls).headers.map (·.name)).Pairwise fun a b =>
        firstInsertion (initial standard ++ calls) a <
          firstInsertion (initial standard ++ calls) b) ∧
      (∀ h ∈ (start.insertEach calls).headers,
        IsLastInsertion h.name h.text (initial standard ++ calls) ∧
          ∃ pattern, Pattern.ofText? (HeaderPattern.anchored h.text) = some pattern ∧
            ∀ value, h.accepts value = pattern.matchesAnywhere value) ∧
      (∀ name text, start.insertEach (calls ++ [(name, text)]) =
        ((start.insertEach calls).insert? name text).getD (start.insertEach calls)) ∧
      (∀ name text, isInsertable text = false →
        (start.insertEach calls).insert? name text = none ∧
          start.insertEach (calls ++ [(name, text)]) = start.insertEach calls) ∧
      ∀ options : MetadataOptions, options.standardHeaders = standard →
        options.noMetadata = false → options.removeMetadata = false →
        options.headers.length = options.values.length →
        options.headers.zip options.values = calls →
        options.demand =
          if calls.all (isInsertable ·.2) then .ok (.fields (start.insertEach calls))
          else .error .invalidPattern := by
  have hrecords := records_insertEach standard calls
  refine ⟨({} : HeaderSpec).insertEach (initial standard), start?_eq standard,
    map_name_initial standard, prefix_names_insertEach _ _, hrecords.nodup,
    hrecords.mem_names_iff, hrecords.ordered, ?_, insertEach_concat _ _, ?_, ?_⟩
  · intro h hmem
    obtain ⟨hlast, hpattern⟩ := hrecords.last h hmem
    obtain ⟨pattern, hread, heq⟩ := Option.map_eq_some_iff.mp hpattern
    refine ⟨hlast, pattern, hread, fun value => ?_⟩
    rw [← heq]
    rfl
  · intro name text htext
    refine ⟨insert?_eq_none_iff.mpr htext, ?_⟩
    rw [insertEach_concat, insert?_eq_none_iff.mpr htext]
    rfl
  · intro options hstandard hno hremove hlength hcalls
    subst hstandard hcalls
    exact demand_eq hno hremove hlength

/-- A usual name that is given again keeps its place and has the later pattern, another name stands
behind the usual ones, and a text that is no pattern is refused. -/
theorem insertEach_ordered_override :
    ∃ spec, MetadataOptions.demand
        { headers := ["Language", "X", "Language"], values := ["es", "a", "fr"]
          standardHeaders := true } = .ok (.fields spec) ∧
      spec.headers.map (·.name) = standardHeaders.map (·.1) ++ ["X".toList] ∧
      (∀ h ∈ spec.headers, h.name = "Language".toList → h.text = "fr".toList) ∧
      spec.insert? "X" "(" = none := by
  let calls : List (Text × Text) := [("Language", "es"), ("X", "a"), ("Language", "fr")]
  obtain ⟨start, hstart, -, -, -, -, -, -, -, hrefused, hdemand⟩ := insertEach_ordered true calls
  have hspec : start.insertEach calls =
      (({} : HeaderSpec).insertEach standardHeaders).insertEach calls := by
    rw [← Option.some.inj ((start?_eq true).symm.trans hstart)]
    rfl
  refine ⟨start.insertEach calls, ?_, ?_, ?_, (hrefused "X" "(" (by decide)).1⟩
  · rw [hdemand _ rfl rfl rfl rfl rfl]
    exact if_pos (by decide)
  · rw [hspec]
    decide
  · rw [hspec]
    decide

end HeaderSpec

end CatalogLint
