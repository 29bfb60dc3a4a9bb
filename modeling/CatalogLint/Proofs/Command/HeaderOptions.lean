import CatalogLint.Command.Invocation
import CatalogLint.Proofs.Rule.Insertion
import CatalogLint.Proofs.Text.Basic
import Mathlib.Data.List.Forall2

/-!
# Headers and their values

The names and the values of headers stand in options of two kinds. However these are written, the
reading takes each with its text, in the order in which they stand (`Arguments.readFrom_spelled`).
Names and values are then put together by their position among those of their kind: if there are as
many of the one as of the other, the options make a specification (`Invocation.demand_by_position`).
Where each name is directly followed by its value these are the pairs that stand together. Where
names and values stand otherwise, there may be as many of them all the same, and a name is paired with a
value that follows another name (`Invocation.exists_unpaired_demand`).
-/

namespace CatalogLint

/-- An option with the name of a header or with the value that it must have. -/
inductive HeaderOption where
  | header (name : Text)
  | value (text : Text)
  deriving DecidableEq, Repr

namespace HeaderOption

/-- How the option is given. -/
def spec : HeaderOption → OptionSpec
  | header _ => .header
  | value _ => .value

/-- The text that is given with the option. -/
def text : HeaderOption → Text
  | header name => name
  | value text => text

/-- The letter of the option. -/
def letter : HeaderOption → Char
  | header _ => 'h'
  | value _ => 'v'

/-- The names, in order. -/
def names (options : List HeaderOption) : List Text :=
  options.filterMap fun
    | header name => some name
    | value _ => none

/-- The values, in order. -/
def texts (options : List HeaderOption) : List Text :=
  options.filterMap fun
    | header _ => none
    | value text => some text

/-- Each name directly followed by its value. -/
def paired (pairs : List (Text × Text)) : List HeaderOption :=
  pairs.flatMap fun (name, text) => [header name, value text]

/-- A text that is not read as an option. -/
def IsWord (t : Text) : Prop := t.head? = some '-' → t = "-".toList

instance (t : Text) : Decidable (IsWord t) := inferInstanceAs (Decidable (_ → _))

/-- The arguments that give an option. -/
inductive Spelled (o : HeaderOption) : List Text → Prop
  | long : Spelled o ["--" ++ o.spec.long ++ "=" ++ o.text]
  | longApart (h : IsWord o.text) : Spelled o ["--" ++ o.spec.long, o.text]
  | short (h : o.text ≠ []) (hsign : o.text.head? ≠ some '=') :
    Spelled o ['-' :: o.letter :: o.text]
  | shortSign : Spelled o ['-' :: o.letter :: '=' :: o.text]
  | shortApart (h : IsWord o.text) : Spelled o [['-', o.letter], o.text]

theorem names_paired (pairs : List (Text × Text)) : names (paired pairs) = pairs.map (·.1) := by
  induction pairs with
  | nil => rfl
  | cons pair rest ih => exact congrArg (pair.1 :: ·) ih

theorem texts_paired (pairs : List (Text × Text)) : texts (paired pairs) = pairs.map (·.2) := by
  induction pairs with
  | nil => rfl
  | cons pair rest ih => exact congrArg (pair.2 :: ·) ih

end HeaderOption

open HeaderOption

namespace Arguments

/-- The arguments with an option behind all others. -/
def taking (a : Arguments) (o : HeaderOption) : Arguments :=
  { a with options := a.options ++ [(o.spec.name, o.text)] }

variable {a b : Arguments} {o : HeaderOption} {t : Text}

theorem pending_of_settle (h : a.settle = .ok b) : b.pending = none ∧ a.awaited? = none := by
  unfold settle at h
  unfold awaited?
  cases hpending : a.pending with
  | none =>
    simp only [hpending] at h
    cases h
    exact ⟨rfl, rfl⟩
  | some p =>
    cases p with
    | awaited spec => simp [hpending] at h
    | given spec value =>
      refine ⟨?_, rfl⟩
      simp only [hpending] at h
      split at h
      · rename_i v _
        unfold take at h
        split at h
        · cases h
        · split at h
          · cases h
          · cases h
            rfl
      · cases h
        rfl
    | files paths =>
      refine ⟨?_, rfl⟩
      simp only [hpending] at h
      split at h
      · cases h
      · cases h
        rfl

theorem settle_eq_self (h : a.pending = none) : a.settle = .ok a := by
  obtain ⟨options, files, pending⟩ := a
  cases h
  rfl

/-- Both options take any text and may be given again. -/
theorem take_headerOption (a : Arguments) (o : HeaderOption) {v : ValueSpec}
    (hv : o.spec.takes = some v) : a.take o.spec v o.text = .ok (a.taking o) := by
  cases o <;> cases hv <;> rfl

theorem exists_takes (o : HeaderOption) : ∃ v, o.spec.takes = some v := by
  cases o <;> exact ⟨_, rfl⟩

theorem attach_headerOption (h : a.settle = .ok b) {v : ValueSpec}
    (hv : o.spec.takes = some v) : a.attach o.spec v o.text = .ok (b.taking o) := by
  rw [attach, h]
  exact take_headerOption b o hv

theorem await_headerOption (h : a.settle = .ok b) (o : HeaderOption) :
    a.await o.spec = .ok { b with pending := some (.awaited o.spec) } := by
  rw [await, h]
  rfl

/-! ## One option -/

theorem find?_long (o : HeaderOption) :
    Command.metadata.options.find? (·.hasLongName o.spec.long) = some o.spec := by
  cases o <;> rfl

theorem find?_letter (o : HeaderOption) :
    Command.metadata.options.find? (·.letter = some o.letter) = some o.spec := by
  cases o <;> rfl

theorem sign_not_mem_long (o : HeaderOption) : '=' ∉ o.spec.long := by
  cases o with
  | header name => exact (by decide : '=' ∉ OptionSpec.header.long)
  | value text => exact (by decide : '=' ∉ OptionSpec.value.long)

theorem letter_ne (o : HeaderOption) (value : Text) : '-' :: o.letter :: value ≠ "--".toList := by
  cases o <;> simp [HeaderOption.letter]

theorem long_ne_nil (o : HeaderOption) : o.spec.long ≠ [] := by
  cases o <;> exact nofun

theorem readLong_attached (h : a.settle = .ok b) (o : HeaderOption) :
    a.readLong (some .metadata) Command.metadata.options (o.spec.long ++ "=" ++ o.text) =
      .ok (b.taking o) := by
  obtain ⟨v, hv⟩ := exists_takes o
  have hsplit : (o.spec.long ++ "=" ++ o.text).splitAtFirst? "=" =
      some (o.spec.long, o.text) := by
    rw [List.append_assoc]
    exact Text.splitAtFirst?_append_cons (sign_not_mem_long o) o.text
  rw [readLong, hsplit]
  dsimp only
  rw [find?_long]
  dsimp only
  rw [hv]
  exact attach_headerOption h hv

theorem readLong_apart (h : a.settle = .ok b) (o : HeaderOption) :
    a.readLong (some .metadata) Command.metadata.options o.spec.long =
      .ok { b with pending := some (.awaited o.spec) } := by
  obtain ⟨v, hv⟩ := exists_takes o
  have hsplit : Text.splitAtFirst? o.spec.long "=" = none := by
    cases o <;> rfl
  rw [readLong, hsplit]
  dsimp only
  rw [find?_long]
  dsimp only
  rw [hv]
  exact await_headerOption h o

theorem readShort_headerOption (o : HeaderOption) (a : Arguments) (value : Text) {v : ValueSpec}
    (hv : o.spec.takes = some v) :
    a.readShort (some .metadata) Command.metadata.options (o.letter :: value) =
      match value with
      | [] => a.await o.spec
      | '=' :: value => a.attach o.spec v value
      | value => a.attach o.spec v value := by
  rw [readShort, find?_letter]
  dsimp only
  rw [hv]
  rfl

theorem readOption?_long (a : Arguments) (body : Text) :
    a.readOption? (some .metadata) Command.metadata.options ('-' :: '-' :: body) =
      some (a.readLong (some .metadata) Command.metadata.options body) := rfl

theorem readOption?_letter (h : a.settle = .ok b) (o : HeaderOption) (value : Text) :
    a.readOption? (some .metadata) Command.metadata.options ('-' :: o.letter :: value) =
      some (a.readShort (some .metadata) Command.metadata.options (o.letter :: value)) := by
  have hawaited := (pending_of_settle h).2
  cases o <;> simp [readOption?, HeaderOption.letter, hawaited]

/-- A word is the value that an option waits for. -/
theorem readOption?_of_isWord (ht : IsWord t) (a : Arguments) (command : Option Command)
    (specs : List OptionSpec) :
    a.readOption? command specs t =
      a.awaited?.map fun o => .ok { a with pending := some (.given o t) } := by
  unfold readOption?
  split
  · cases ht rfl
  · cases ht rfl
  · rfl

theorem readFrom_cons {command : Command} {argument : Text} (hne : argument ≠ "--".toList)
    (hoption : a.readOption? (some command) command.options argument = some (.ok b))
    (rest : List Text) :
    a.readFrom command false (argument :: rest) = b.readFrom command false rest := by
  rw [readFrom, if_neg Bool.false_ne_true, if_neg hne, hoption]
  rfl

/-- An option that waits takes the next argument, if that is a word. -/
theorem readFrom_awaited (o : HeaderOption) (ht : IsWord o.text) (b : Arguments)
    (rest : List Text) :
    ({ b with pending := some (.awaited o.spec) } : Arguments).readFrom .metadata false
        (o.text :: rest) =
      ({ b with pending := some (.given o.spec o.text) } : Arguments).readFrom .metadata false
        rest := by
  refine readFrom_cons ?_ ?_ rest
  · intro heq
    rw [heq] at ht
    cases ht rfl
  · rw [readOption?_of_isWord ht]
    rfl

theorem settle_given (o : HeaderOption) (b : Arguments) (hb : b.pending = none) :
    ({ b with pending := some (.given o.spec o.text) } : Arguments).settle = .ok (b.taking o) := by
  obtain ⟨v, hv⟩ := exists_takes o
  obtain ⟨options, files, pending⟩ := b
  cases hb
  rw [settle]
  dsimp only
  rw [hv]
  exact take_headerOption _ o hv

/-- However an option is written, it is taken behind all others. -/
theorem readFrom_spelled_one {arguments : List Text} (hspell : Spelled o arguments)
    (h : a.settle = .ok b) (rest : List Text) :
    ∃ c : Arguments, a.readFrom .metadata false (arguments ++ rest) = c.readFrom .metadata false rest ∧
      c.settle = .ok (b.taking o) := by
  obtain ⟨v, hv⟩ := exists_takes o
  have hpending := (pending_of_settle h).1
  have hattached : (b.taking o).settle = .ok (b.taking o) := settle_eq_self hpending
  have hdashes : ∀ body, body ≠ [] → "--".toList ++ body ≠ "--".toList := by
    intro body hbody
    simpa using hbody
  cases hspell with
  | long =>
    rw [List.append_assoc "--".toList, List.append_assoc "--".toList]
    refine ⟨b.taking o, readFrom_cons (hdashes _ ?_) ?_ rest, hattached⟩
    · simp [long_ne_nil o]
    · rw [← readLong_attached h o]
      exact readOption?_long a _
  | longApart hword =>
    refine ⟨{ b with pending := some (.given o.spec o.text) }, ?_, settle_given o b hpending⟩
    refine (readFrom_cons (hdashes _ (long_ne_nil o)) ?_ (o.text :: rest)).trans
      (readFrom_awaited o hword b rest)
    rw [← readLong_apart h o]
    exact readOption?_long a _
  | short hne hsign =>
    refine ⟨b.taking o, readFrom_cons (letter_ne o _) ?_ rest, hattached⟩
    rw [readOption?_letter h, readShort_headerOption o a o.text hv]
    split
    · rename_i hnil
      exact absurd hnil hne
    · rename_i value hvalue
      rw [hvalue] at hsign
      exact absurd rfl hsign
    · rw [attach_headerOption h hv]
  | shortSign =>
    refine ⟨b.taking o, readFrom_cons (letter_ne o _) ?_ rest, hattached⟩
    rw [readOption?_letter h, readShort_headerOption o a _ hv]
    exact congrArg some (attach_headerOption h hv)
  | shortApart hword =>
    refine ⟨{ b with pending := some (.given o.spec o.text) }, ?_, settle_given o b hpending⟩
    refine (readFrom_cons (letter_ne o []) ?_ (o.text :: rest)).trans
      (readFrom_awaited o hword b rest)
    rw [readOption?_letter h, readShort_headerOption o a [] hv]
    exact congrArg some (await_headerOption h o)

/-- Options are taken in the order in which they stand. -/
theorem readFrom_spelled {options : List HeaderOption} {arguments : List (List Text)}
    (hspell : List.Forall₂ Spelled options arguments) (h : a.settle = .ok b) (rest : List Text) :
    ∃ c : Arguments, a.readFrom .metadata false (arguments.flatten ++ rest) =
        c.readFrom .metadata false rest ∧
      c.settle = .ok (options.foldl taking b) := by
  induction hspell generalizing a b with
  | nil => exact ⟨a, rfl, h⟩
  | @cons o argument options arguments ho hrest ih =>
    obtain ⟨c, hc, hsettle⟩ := readFrom_spelled_one ho h (arguments.flatten ++ rest)
    obtain ⟨c', hc', hsettle'⟩ := ih hsettle
    refine ⟨c', ?_, hsettle'⟩
    rw [List.flatten_cons, List.append_assoc, hc, hc']

/-! ## Files -/

theorem addFile_of_settle (h : a.settle = .ok b) {path : Text} (hpath : path ≠ []) :
    ∃ c : Arguments, a.addFile path = .ok c ∧
      c.settle = .ok { b with files := b.files ++ [path] } := by
  have hempty : path.isEmpty = false := by simpa using hpath
  unfold addFile
  split
  · rename_i paths hfiles
    refine ⟨_, rfl, ?_⟩
    rw [settle, hfiles] at h
    dsimp only at h
    split at h
    · cases h
    · rename_i hpaths
      cases h
      rw [settle]
      dsimp only
      rw [if_neg (by simpa [hempty] using hpaths), List.append_assoc]
  · rw [h]
    refine ⟨_, rfl, ?_⟩
    have hpending := (pending_of_settle h).1
    obtain ⟨options, files, pending⟩ := b
    cases hpending
    rw [settle]
    dsimp only
    rw [if_neg (by simpa using hempty)]

/-- Words behind the options are files. -/
theorem readFrom_files {files : List Text} (hfiles : ∀ path ∈ files, IsWord path ∧ path ≠ [])
    (h : a.settle = .ok b) :
    a.readFrom .metadata false files = .ok { b with files := b.files ++ files } := by
  induction files generalizing a b with
  | nil =>
    rw [readFrom, h, List.append_nil]
  | cons path rest ih =>
    obtain ⟨hword, hpath⟩ := hfiles path List.mem_cons_self
    obtain ⟨c, hc, hsettle⟩ := addFile_of_settle h hpath
    have hne : path ≠ "--".toList := by
      rintro rfl
      cases hword rfl
    have hnone : a.readOption? (some .metadata) Command.metadata.options path = none := by
      rw [readOption?_of_isWord hword, (pending_of_settle h).2]
      rfl
    rw [readFrom, if_neg Bool.false_ne_true, if_neg hne, hnone, Option.getD_none, hc]
    dsimp only
    rw [ih (fun p hp => hfiles p (List.mem_cons_of_mem path hp)) hsettle]
    simp only [List.append_assoc, List.singleton_append]

/-! ## What is taken -/

theorem foldl_taking (options : List HeaderOption) (a : Arguments) :
    options.foldl taking a =
      { a with options := a.options ++ options.map fun o => (o.spec.name, o.text) } := by
  induction options generalizing a with
  | nil => simp
  | cons o rest ih => simp [ih, taking]

/-- The arguments that ask for the usual names, or for nothing. -/
def flagged (standard : Bool) : Arguments :=
  { options := if standard then [(.standardHeaders, [])] else [] }

theorem has_taken (standard : Bool) (options : List HeaderOption) (n : OptionName)
    (hheader : n ≠ .header) (hvalue : n ≠ .value) :
    (options.foldl taking (flagged standard)).has n = (flagged standard).has n := by
  rw [foldl_taking, has, has, List.any_append]
  have hnone : (options.map fun o => (o.spec.name, o.text)).any (·.1 = n) = false := by
    simp only [List.any_map, List.any_eq_false]
    intro o _
    cases o with
    | header name => simpa [HeaderOption.spec, OptionSpec.header] using hheader.symm
    | value text => simpa [HeaderOption.spec, OptionSpec.value] using hvalue.symm
  rw [hnone, Bool.or_false]

theorem values_taken (standard : Bool) (options : List HeaderOption) {n : OptionName}
    (hn : (flagged standard).values n = []) :
    (options.foldl taking (flagged standard)).values n =
      options.filterMap fun o => if o.spec.name = n then some o.text else none := by
  unfold values at hn ⊢
  rw [foldl_taking, List.filterMap_append, hn, List.nil_append, List.filterMap_map]
  rfl

end Arguments

/-! ## Pairs -/

namespace Invocation

/-- The option for the usual names, or nothing. -/
def standardFlag (standard : Bool) : List Text :=
  if standard then ["--standard-headers"] else []

/-- The options of the rule that names and values make. -/
def metadataOptions (standard : Bool) (options : List HeaderOption) : MetadataOptions :=
  { headers := names options, values := texts options, standardHeaders := standard }

theorem metadataOptions_taken (standard : Bool) (options : List HeaderOption) :
    (options.foldl Arguments.taking (Arguments.flagged standard)).metadataOptions =
      metadataOptions standard options := by
  have hhas := Arguments.has_taken standard options
  rw [Arguments.metadataOptions, hhas .standardHeaders nofun nofun, hhas .noMetadata nofun nofun,
    hhas .removeMetadata nofun nofun, Arguments.values_taken _ _ (by cases standard <;> rfl),
    Arguments.values_taken _ _ (by cases standard <;> rfl), metadataOptions]
  have hnames : (options.filterMap fun o =>
      if o.spec.name = .header then some o.text else none) = names options :=
    List.filterMap_congr fun o _ => by cases o <;> rfl
  have htexts : (options.filterMap fun o =>
      if o.spec.name = .value then some o.text else none) = texts options :=
    List.filterMap_congr fun o _ => by cases o <;> rfl
  rw [hnames, htexts]
  cases standard <;> rfl

theorem readFrom_standardFlag (standard : Bool) (rest : List Text) :
    ({} : Arguments).readFrom .metadata false (standardFlag standard ++ rest) =
      (Arguments.flagged standard).readFrom .metadata false rest := by
  cases standard <;> rfl

theorem ofArguments_checkMetadata {arguments : List Text} {a : Arguments}
    (h : ({} : Arguments).readFrom .metadata false arguments = .ok a) :
    ofArguments ("check-metadata" :: arguments) = .ok (({} : Arguments).invocation a .metadata) := by
  have hcommand : ofArguments ("check-metadata" :: arguments) =
      readCommand {} .metadata arguments := rfl
  rw [hcommand, readCommand, h]
  rfl

/-- The options of names and values are read in their order, with the files behind them. -/
theorem ofArguments_spelled {options : List HeaderOption} {arguments : List (List Text)}
    (hspell : List.Forall₂ Spelled options arguments) {files : List Text}
    (hfiles : ∀ path ∈ files, IsWord path ∧ path ≠ []) (standard : Bool) :
    ∃ i : Invocation, ofArguments
        ("check-metadata" :: (standardFlag standard ++ (arguments.flatten ++ files))) = .ok i ∧
      i.task = .check false (.metadata (metadataOptions standard options)) ∧ i.files = files := by
  have hflagged : (Arguments.flagged standard).settle = .ok (Arguments.flagged standard) :=
    Arguments.settle_eq_self rfl
  obtain ⟨c, hc, hsettle⟩ := Arguments.readFrom_spelled hspell hflagged files
  have hread : ({} : Arguments).readFrom .metadata false
      (standardFlag standard ++ (arguments.flatten ++ files)) = _ :=
    (readFrom_standardFlag standard _).trans (hc.trans (Arguments.readFrom_files hfiles hsettle))
  refine ⟨_, ofArguments_checkMetadata hread, ?_, ?_⟩
  · have hquiet : (options.foldl Arguments.taking (Arguments.flagged standard)).has .quiet = false := by
      rw [Arguments.has_taken standard options .quiet nofun nofun]
      cases standard <;> rfl
    rw [← metadataOptions_taken, ← hquiet]
    rfl
  · rw [Arguments.foldl_taking]
    rfl

/-- Names and values make a specification if there are as many of the one as of the other, and no
value is refused. -/
theorem demand_metadataOptions (standard : Bool) (options : List HeaderOption) :
    (metadataOptions standard options).demand =
      if (names options).length ≠ (texts options).length then .error .unpairedHeaders
      else if ((names options).zip (texts options)).all (HeaderSpec.isInsertable ·.2) then
        .ok (.fields ((({} : HeaderSpec).insertEach (HeaderSpec.initial standard)).insertEach
          ((names options).zip (texts options))))
      else .error .invalidPattern := by
  split
  · rename_i hlength
    exact if_pos hlength
  · rename_i hlength
    exact HeaderSpec.demand_eq rfl rfl (not_not.mp hlength)

theorem all_zip_eq_true_iff {options : List HeaderOption}
    (hlength : (names options).length = (texts options).length) :
    ((names options).zip (texts options)).all (HeaderSpec.isInsertable ·.2) = true ↔
      ∀ text ∈ texts options, HeaderSpec.isInsertable text = true := by
  conv_rhs => rw [← List.map_snd_zip (Nat.le_of_eq hlength.symm), ← List.all_eq_true, List.all_map]
  rfl

theorem demand_unpaired_iff (standard : Bool) (options : List HeaderOption) :
    (metadataOptions standard options).demand = .error .unpairedHeaders ↔
      (names options).length ≠ (texts options).length := by
  rw [demand_metadataOptions]
  split
  · rename_i hlength
    exact iff_of_true rfl hlength
  · rename_i hlength
    refine iff_of_false ?_ hlength
    split <;> exact nofun

theorem demand_invalid_iff (standard : Bool) (options : List HeaderOption) :
    (metadataOptions standard options).demand = .error .invalidPattern ↔
      (names options).length = (texts options).length ∧
        ∃ text ∈ texts options, HeaderSpec.isInsertable text = false := by
  rw [demand_metadataOptions]
  split
  · rename_i hlength
    exact iff_of_false nofun fun h => hlength h.1
  · rename_i hlength
    rw [not_not] at hlength
    split
    · rename_i hall
      refine iff_of_false nofun ?_
      rintro ⟨-, text, hmem, htext⟩
      rw [(all_zip_eq_true_iff hlength).mp hall text hmem] at htext
      cases htext
    · rename_i hall
      rw [all_zip_eq_true_iff hlength] at hall
      push Not at hall
      exact iff_of_true rfl ⟨hlength, by simpa using hall⟩

theorem demand_ok_iff (standard : Bool) (options : List HeaderOption) :
    (∃ spec, (metadataOptions standard options).demand = .ok (.fields spec)) ↔
      (names options).length = (texts options).length ∧
        ∀ text ∈ texts options, HeaderSpec.isInsertable text = true := by
  rw [demand_metadataOptions]
  split
  · rename_i hlength
    refine iff_of_false ?_ fun h => hlength h.1
    rintro ⟨spec, hspec⟩
    cases hspec
  · rename_i hlength
    rw [not_not] at hlength
    rw [← all_zip_eq_true_iff hlength]
    split
    · rename_i hall
      exact iff_of_true ⟨_, rfl⟩ ⟨hlength, hall⟩
    · rename_i hall
      refine iff_of_false ?_ fun h => hall h.2
      rintro ⟨spec, hspec⟩
      cases hspec

/-- The names that are held to values are the usual ones, if they are asked for, and those given. -/
theorem mem_names_insertEach_iff {standard : Bool} {options : List HeaderOption}
    (hlength : (names options).length = (texts options).length)
    (htexts : ∀ text ∈ texts options, HeaderSpec.isInsertable text = true) (name : Text) :
    (∃ text, (name, text) ∈ HeaderSpec.initial standard ++ (names options).zip (texts options) ∧
        HeaderSpec.isInsertable text = true) ↔
      name ∈ (HeaderSpec.initial standard).map (·.1) ∨ name ∈ names options := by
  constructor
  · rintro ⟨text, hmem, -⟩
    rcases List.mem_append.mp hmem with hmem | hmem
    · exact Or.inl (List.mem_map.mpr ⟨(name, text), hmem, rfl⟩)
    · exact Or.inr (List.of_mem_zip hmem).1
  · rintro (hname | hname)
    · obtain ⟨⟨other, text⟩, hmem, rfl⟩ := List.mem_map.mp hname
      exact ⟨text, List.mem_append_left _ hmem, HeaderSpec.isInsertable_of_mem_initial standard hmem⟩
    · rw [← List.map_fst_zip (Nat.le_of_eq hlength)] at hname
      obtain ⟨⟨other, text⟩, hmem, rfl⟩ := List.mem_map.mp hname
      exact ⟨text, List.mem_append_right _ hmem, htexts text (List.of_mem_zip hmem).2⟩

theorem zip_of_paired {options : List HeaderOption} {pairs : List (Text × Text)}
    (h : options = paired pairs) :
    (names options).length = (texts options).length ∧
      (names options).zip (texts options) = pairs := by
  rw [h, names_paired, texts_paired]
  exact ⟨by rw [List.length_map, List.length_map], (List.zip_of_prod rfl rfl).symm⟩

/-- Options of names and values, written in any way, are read in their order. There has to be a value
for each name: otherwise, or if a value is no pattern, they make nothing. The name that is the `n`-th
of the names is then held to the `n`-th of the values, where a later one for the same name counts. If
each name is directly followed by its value, these are the pairs that stand together; if not, as many
patterns as names are taken all the same. -/
theorem demand_by_position {options : List HeaderOption} {arguments : List (List Text)}
    (hspell : List.Forall₂ Spelled options arguments) {files : List Text}
    (hfiles : ∀ path ∈ files, IsWord path ∧ path ≠ []) (standard : Bool) :
    ∃ i o, ofArguments
        ("check-metadata" :: (standardFlag standard ++ (arguments.flatten ++ files))) = .ok i ∧
      i.task = .check false (.metadata o) ∧ i.files = files ∧
      (o.demand = .error .unpairedHeaders ↔ (names options).length ≠ (texts options).length) ∧
      (o.demand = .error .invalidPattern ↔
        (names options).length = (texts options).length ∧
          ∃ text ∈ texts options, HeaderSpec.isInsertable text = false) ∧
      ((names options).length = (texts options).length →
        (∀ text ∈ texts options, HeaderSpec.isInsertable text = true) →
        ∃ spec, o.demand = .ok (.fields spec) ∧
          (∀ name, name ∈ spec.headers.map (·.name) ↔
            name ∈ (HeaderSpec.initial standard).map (·.1) ∨ name ∈ names options) ∧
          ∀ h ∈ spec.headers, HeaderPattern.ofText? h.name h.text = some h ∧
            HeaderSpec.IsLastInsertion h.name h.text
              (HeaderSpec.initial standard ++ (names options).zip (texts options))) ∧
      (∀ pairs, options = paired pairs →
        (names options).length = (texts options).length ∧
          (names options).zip (texts options) = pairs) ∧
      ((∀ pairs, options ≠ paired pairs) →
        ((∃ spec, o.demand = .ok (.fields spec)) ↔
          (names options).length = (texts options).length ∧
            ∀ text ∈ texts options, HeaderSpec.isInsertable text = true)) := by
  obtain ⟨i, hread, htask, hpaths⟩ := ofArguments_spelled hspell hfiles standard
  refine ⟨i, metadataOptions standard options, hread, htask, hpaths,
    demand_unpaired_iff standard options, demand_invalid_iff standard options,
    fun hlength htexts => ?_, fun pairs => zip_of_paired, fun _ => demand_ok_iff standard options⟩
  have hdemand := demand_metadataOptions standard options
  rw [if_neg (not_not_intro hlength), if_pos ((all_zip_eq_true_iff hlength).mpr htexts)] at hdemand
  have hrecords := HeaderSpec.records_insertEach standard ((names options).zip (texts options))
  refine ⟨_, hdemand, fun name => ?_, fun h hmem => ?_⟩
  · exact (hrecords.mem_names_iff name).trans (mem_names_insertEach_iff hlength htexts name)
  · exact (hrecords.last h hmem).symm

/-- Three pairs, written in several ways. Of the two values of one name the later one counts. -/
theorem demand_by_position_repeated :
    ∃ i o spec, ofArguments ["check-metadata".toList, "--header=Language".toList, "-vfr".toList,
        "-h".toList, "X".toList, "--value".toList, "a".toList, "-h=Language".toList, "-v".toList,
        "es".toList, "fr.po".toList] = .ok i ∧
      i.task = .check false (.metadata o) ∧ o.demand = .ok (.fields spec) ∧
      "X".toList ∈ spec.headers.map (·.name) ∧
      ∀ h ∈ spec.headers, h.name = "Language".toList → h.text = "es".toList := by
  let pairs : List (Text × Text) := [("Language", "fr"), ("X", "a"), ("Language", "es")]
  have hspell : List.Forall₂ Spelled (paired pairs)
      [["--header=Language".toList], ["-vfr".toList], ["-h".toList, "X".toList],
        ["--value".toList, "a".toList], ["-h=Language".toList], ["-v".toList, "es".toList]] :=
    .cons .long <| .cons (.short nofun (by decide)) <| .cons (.shortApart (by decide)) <|
      .cons (.longApart (by decide)) <| .cons .shortSign <| .cons (.shortApart (by decide)) .nil
  have hfiles : ∀ path ∈ ["fr.po".toList], IsWord path ∧ path ≠ [] := by decide
  obtain ⟨i, o, hread, htask, -, -, -, hdemand, hpairs, -⟩ :=
    demand_by_position hspell hfiles false
  obtain ⟨hlength, hzip⟩ := hpairs pairs rfl
  obtain ⟨spec, hspec, hnames, hlast⟩ := hdemand hlength (by decide)
  refine ⟨i, o, spec, hread, htask, hspec, (hnames _).mpr (Or.inr (by decide)), ?_⟩
  intro h hmem hname
  have htext := (hlast h hmem).2
  rw [hzip, hname] at htext
  have hes : HeaderSpec.IsLastInsertion "Language" "es" pairs :=
    HeaderSpec.isLastInsertion_concat_self [("Language", "fr"), ("X", "a")] "Language" (by decide)
  exact htext.unique hes

/-- As many values as names are taken even if the names stand together: here the value `fr` stands
behind the name `Plural`, and it is the name `Language` that is held to it. -/
theorem exists_unpaired_demand :
    ∃ i o spec, ofArguments ["check-metadata".toList, "-h".toList, "Language".toList, "-h".toList,
        "Plural".toList, "-v".toList, "fr".toList, "-v".toList, "x".toList, "fr.po".toList] = .ok i ∧
      i.task = .check false (.metadata o) ∧ o.demand = .ok (.fields spec) ∧
      (∃ h ∈ spec.headers, h.name = "Language".toList ∧ h.text = "fr".toList) ∧
      ∀ pairs, [.header "Language", .header "Plural", .value "fr", .value "x"] ≠ paired pairs := by
  refine ⟨_, _, _, rfl, rfl, rfl, by decide, fun pairs hpairs => ?_⟩
  cases pairs with
  | nil => cases hpairs
  | cons pair rest =>
    have hsecond : HeaderOption.header "Plural" = .value pair.2 :=
      (List.cons.inj (List.cons.inj hpairs).2).1
    cases hsecond

end Invocation

end CatalogLint
