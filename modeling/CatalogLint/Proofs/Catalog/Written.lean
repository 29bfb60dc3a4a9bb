import CatalogLint.Proofs.Catalog.Endings
import CatalogLint.Proofs.Catalog.Fields
import CatalogLint.Proofs.Catalog.Metadata

/-!
# Metadata is read as it was written

A field is written as its name, the separator and its value between quotes, with an escaped line
feed behind the value (`Metadata.fieldLine`). Reading takes off what writing puts on: the first
separator is the one that was written, since the name holds none and none begins in it
(`Text.splitAtFirst?_append`), one quote goes at either end, and of the escapes only the one behind
the value is there (`Metadata.dropLineFeeds_append`).

A header entry written below lines that have none is found where it stands, and its metadata ends
where something blank or nothing follows. All this is about the bodies of the lines, so that it holds
for any endings (`Metadata.locate_written`).
-/

namespace CatalogLint

namespace Text

/-- A line is a text and an ending. -/
def Ended (t line : Text) : Prop := ∃ e, IsEnding e ∧ line = t ++ e

/-- A line is a text and an ending with a line feed. -/
def Terminated (t line : Text) : Prop := line = t ++ ['\n'] ∨ line = t ++ ['\r', '\n']

theorem Terminated.ended {t line : Text} (h : Terminated t line) : Ended t line := by
  rcases h with rfl | rfl
  · exact ⟨_, Or.inr (Or.inl rfl), rfl⟩
  · exact ⟨_, Or.inr (Or.inr rfl), rfl⟩

theorem map_body_of_ended {texts lines : List Text} (h : List.Forall₂ Ended texts lines) :
    lines.map body = texts.map body := by
  induction h with
  | nil => rfl
  | cons hline _ ih =>
    obtain ⟨e, he, rfl⟩ := hline
    rw [List.map_cons, List.map_cons, body_append_breaks he.all_isBreak, ih]

/-- Texts without line feeds become lines when they are terminated. -/
theorem areLines_of_terminated {texts lines : List Text} (htexts : ∀ t ∈ texts, '\n' ∉ t)
    (h : List.Forall₂ Terminated texts lines) : AreLines lines := by
  induction h with
  | nil => exact .nil
  | @cons t line texts lines hline _ ih =>
    have ht : '\n' ∉ t := htexts t List.mem_cons_self
    have hrest := ih fun t' ht' => htexts t' (List.mem_cons_of_mem t ht')
    rcases hline with rfl | rfl
    · exact .cons ht hrest
    · have hbreak : t ++ ['\r', '\n'] = (t ++ ['\r']) ++ ['\n'] := by simp
      rw [hbreak]
      exact .cons (by simp [ht]) hrest

end Text

namespace Metadata

/-- A name that a field can have. -/
structure IsName (name : Text) : Prop where
  no_lineFeed : '\n' ∉ name
  no_separator : Text.occursIn ": " name = false
  not_quoted : name.head? ≠ some '"'

/-- A value that a field can have. -/
structure IsValue (value : Text) : Prop where
  no_lineFeed : '\n' ∉ value
  no_escape : Text.occursIn "\\n" value = false

/-- The line of a field, without its ending. -/
def fieldLine (field : Text × Text) : Text := '"' :: (field.1 ++ ": " ++ field.2 ++ "\\n\"")

/-- A catalogue with a header entry that has the given fields, without the endings of its lines. -/
def written (above : List Text) (fields : List (Text × Text)) (below : List Text) : List Text :=
  above ++ Line.emptyIdMark :: Line.emptyTranslationMark :: (fields.map fieldLine ++ below)

/-! ## One field -/

/-- A value ends in front of its closing quote. -/
theorem cleanValue_concat (value : Text) : cleanValue (value ++ ['"']) = dropLineFeeds value := by
  have hend : Text.dropEndWhile (fun c => c = '\n' || c = '\r') (value ++ ['"']) =
      value ++ ['"'] := by
    rw [Text.dropEndWhile, List.reverse_concat, List.dropWhile_cons_of_neg (by decide),
      List.reverse_cons, List.reverse_reverse]
  rw [cleanValue, hend, Text.dropLastIf, if_pos List.getLast?_concat, List.dropLast_concat]

/-- Of the escapes only the one behind the value is there. -/
theorem dropLineFeeds_append {value : Text} (h : IsValue value) :
    dropLineFeeds (value ++ ['\\', 'n']) = value := by
  obtain ⟨hfeed, hescape⟩ := h
  induction value with
  | nil => rfl
  | cons c value ih =>
    rw [Text.occursIn, Bool.or_eq_false_iff] at hescape
    obtain ⟨hc, hvalue⟩ := not_or.mp (fun h => hfeed (List.mem_cons.mpr h))
    have hnext : ∀ t, c = '\\' → value ++ ['\\', 'n'] = 'n' :: t → False := by
      rintro t rfl ht
      cases value with
      | nil => cases ht
      | cons d value =>
        obtain rfl : d = 'n' := (List.cons.inj ht).1
        exact absurd hescape.1 (by simp [List.isPrefixOf])
    rw [List.cons_append, dropLineFeeds, if_neg (Ne.symm hc), ih hvalue hescape.2]
    exact hnext

/-- A field is read as it was written. -/
theorem readField?_fieldLine {name value : Text} (hname : IsName name) (hvalue : IsValue value) :
    readField? (fieldLine (name, value)) = some (name, value) := by
  have hfront : Text.occursIn [':', ' '] ('"' :: name) = false := by
    rw [Text.occursIn, Bool.or_eq_false_iff]
    exact ⟨rfl, hname.no_separator⟩
  have hline : fieldLine (name, value) =
      '"' :: name ++ [':', ' '] ++ (value ++ ['\\', 'n'] ++ ['"']) := by
    simp [fieldLine]
  have hunquote : ('"' :: name).dropWhile (· = '"') = name := by
    rw [List.dropWhile_cons_of_pos (by decide)]
    cases name with
    | nil => rfl
    | cons c name =>
      have hc : c ≠ '"' := fun h => hname.not_quoted (congrArg some h)
      exact List.dropWhile_cons_of_neg (by simpa using hc)
  have hclean : cleanValue (value ++ ['\\', 'n'] ++ ['"']) = value := by
    rw [cleanValue_concat, dropLineFeeds_append hvalue]
  have hsplit := Text.splitAtFirst?_append (by decide) hfront (value ++ ['\\', 'n'] ++ ['"'])
  rw [readField?, hline]
  refine (congrArg _ hsplit).trans ?_
  rw [Option.map_some]
  exact congrArg some (Prod.ext hunquote hclean)

theorem isQuoted_fieldLine (field : Text × Text) : Line.isQuoted (fieldLine field) = true := rfl

theorem not_mem_fieldLine {field : Text × Text} (hname : IsName field.1)
    (hvalue : IsValue field.2) : '\n' ∉ fieldLine field := by
  have h₁ := hname.no_lineFeed
  have h₂ := hvalue.no_lineFeed
  simp [fieldLine, h₁, h₂]

/-- Fields are read on the lines on which they were written. -/
theorem fieldsFrom_map_fieldLine {fields : List (Text × Text)}
    (h : ∀ field ∈ fields, IsName field.1 ∧ IsValue field.2) (n : Nat) :
    MetadataBlock.fieldsFrom n (fields.map fieldLine) =
      (fields.zipIdx n).map fun (field, k) => ⟨k, field.1, field.2⟩ := by
  induction fields generalizing n with
  | nil => rfl
  | cons field fields ih =>
    obtain ⟨hname, hvalue⟩ := h field List.mem_cons_self
    have hrest := ih (fun field' hf => h field' (List.mem_cons_of_mem field hf)) (n + 1)
    rw [List.map_cons, MetadataBlock.fieldsFrom, readField?_fieldLine hname hvalue, hrest,
      List.zipIdx_cons, List.map_cons]

/-! ## The header entry -/

/-- A catalogue has no header entry if no line with an empty identifier stands right above one with
the start of an empty translation. -/
theorem headerIndex?_eq_none_iff {lines : List Text} :
    headerIndex? lines = none ↔
      ∀ i first second, lines[i]? = some first → lines[i + 1]? = some second →
        ¬ (Line.hasEmptyId first = true ∧ Line.hasEmptyTranslation second = true) := by
  induction lines with
  | nil => simp [headerIndex?]
  | cons line rest ih =>
    cases rest with
    | nil => simp [headerIndex?]
    | cons next rest =>
      rw [headerIndex?]
      by_cases hp : Line.hasEmptyId line = true ∧ Line.hasEmptyTranslation next = true
      · rw [if_pos (Bool.and_eq_true_iff.mpr hp)]
        exact ⟨fun h => absurd h (Option.some_ne_none 0), fun h => absurd hp (h 0 line next rfl rfl)⟩
      · rw [if_neg (fun h => hp (Bool.and_eq_true_iff.mp h)), Option.map_eq_none_iff, ih]
        constructor
        · intro h i first second hfirst hsecond
          cases i with
          | zero =>
            obtain rfl : line = first := Option.some.inj hfirst
            obtain rfl : next = second := Option.some.inj hsecond
            exact hp
          | succ i => exact h i first second hfirst hsecond
        · intro h i first second hfirst hsecond
          exact h (i + 1) first second hfirst hsecond

/-- Below lines without one, a header entry is found where it stands. -/
theorem headerIndex?_append {above : List Text} {first second : Text}
    (habove : headerIndex? above = none) (hid : Line.hasEmptyId first = true)
    (hnot : Line.hasEmptyTranslation first = false)
    (htranslation : Line.hasEmptyTranslation second = true) (below : List Text) :
    headerIndex? (above ++ first :: second :: below) = some above.length := by
  induction above with
  | nil => simp [headerIndex?, hid, htranslation]
  | cons line above ih =>
    cases above with
    | nil => simp [headerIndex?, hid, hnot, htranslation]
    | cons next above =>
      rw [headerIndex?] at habove
      split at habove
      · cases habove
      · rename_i hp
        have hrest := ih (Option.map_eq_none_iff.mp habove)
        rw [List.cons_append] at hrest
        rw [List.cons_append, List.cons_append, headerIndex?, if_neg hp, hrest]
        rfl

section Written

variable {above below : List Text} {fields : List (Text × Text)}

/-- Below the header entry the fields are all that is not blank before what follows them. -/
theorem takeWhile_written (hbelow : ∀ line, below.head? = some line → line.isBlank = true) :
    ((written above fields below).drop (above.length + 2)).takeWhile (fun line => !line.isBlank) =
      fields.map fieldLine := by
  have hfields : ∀ line ∈ fields.map fieldLine, (!line.isBlank) = true := by
    intro line hline
    obtain ⟨field, -, rfl⟩ := List.mem_map.mp hline
    rw [Line.isBlank_of_isQuoted (isQuoted_fieldLine field), Bool.not_false]
  have hstop : below.takeWhile (fun line => !line.isBlank) = [] := by
    cases below with
    | nil => rfl
    | cons line below =>
      exact List.takeWhile_cons_of_neg (by simpa using hbelow line rfl)
  rw [written, drop_entry, List.takeWhile_append_of_pos hfields, hstop, List.append_nil]

theorem locate_written_eq (habove : headerIndex? above = none) (hne : fields ≠ [])
    (hbelow : ∀ line, below.head? = some line → line.isBlank = true) :
    locate (written above fields below) =
      .block ⟨above.length, above.length + 2 + fields.length⟩ := by
  have hheader : headerIndex? (written above fields below) = some above.length :=
    headerIndex?_append habove (by decide) (by decide) (by decide) _
  have hquoted : ((written above fields below).drop (above.length + 2)).head?.any
      Line.isQuoted = true := by
    obtain ⟨field, rest, rfl⟩ := List.exists_cons_of_ne_nil hne
    rw [written, drop_entry]
    exact isQuoted_fieldLine field
  rw [locate, hheader]
  simp only [hquoted, if_true, takeWhile_written hbelow, List.length_map]

/-- Endings do not matter to where the metadata is. -/
theorem locate_eq_of_map_body {lines lines' : List Text}
    (h : lines.map Text.body = lines'.map Text.body) : locate lines = locate lines' := by
  rw [← locate_alike Line.alike_body lines, h, locate_alike Line.alike_body]

/-- A catalogue is written with a header entry, one line for each field and then nothing or a blank
line, below lines that hold no header entry. Whatever the endings of the lines, its metadata is found
there, from the line below the header entry for as many lines as there are fields, and its fields
are read as they were written, each on its line. Where the other lines hold no line feed and each
line is terminated by one, or by a carriage return and one, these are the lines of the text. -/
theorem locate_written
    (habove : ∀ i first second, above[i]? = some first → above[i + 1]? = some second →
      ¬ (Line.hasEmptyId first = true ∧ Line.hasEmptyTranslation second = true))
    (hne : fields ≠ []) (hfields : ∀ field ∈ fields, IsName field.1 ∧ IsValue field.2)
    (hbelow : ∀ line, below.head? = some line → line.isBlank = true) {lines : List Text}
    (hlines : List.Forall₂ Text.Ended (written above fields below) lines) :
    (∃ b : MetadataBlock, locate lines = .block b ∧ b.header = above.length ∧
      b.start = above.length + 2 ∧ b.stop = b.start + fields.length ∧
      b.fields lines =
        (fields.zipIdx (b.start + 1)).map fun (field, n) => ⟨n, field.1, field.2⟩) ∧
    ((∀ line ∈ above ++ below, '\n' ∉ line) →
      List.Forall₂ Text.Terminated (written above fields below) lines →
      Text.lines lines.flatten = lines) := by
  have hbodies := Text.map_body_of_ended hlines
  refine ⟨⟨⟨above.length, above.length + 2 + fields.length⟩, ?_, rfl, rfl, rfl, ?_⟩, ?_⟩
  · rw [locate_eq_of_map_body hbodies,
      locate_written_eq (headerIndex?_eq_none_iff.mpr habove) hne hbelow]
  · have hblock := locate_written_eq (headerIndex?_eq_none_iff.mpr habove) hne hbelow
    rw [← MetadataBlock.fields_map_body, hbodies, MetadataBlock.fields_map_body,
      MetadataBlock.fields, MetadataBlock.slice_of_locate hblock]
    exact (congrArg _ (takeWhile_written hbelow)).trans (fieldsFrom_map_fieldLine hfields _)
  · intro hfeeds hterminated
    refine Text.lines_flatten (Text.areLines_of_terminated (fun t ht => ?_) hterminated)
    rw [written, List.mem_append, List.mem_cons, List.mem_cons, List.mem_append] at ht
    rcases ht with ht | rfl | rfl | ht | ht
    · exact hfeeds t (List.mem_append_left _ ht)
    · decide
    · decide
    · obtain ⟨field, hfield, rfl⟩ := List.mem_map.mp ht
      exact not_mem_fieldLine (hfields field hfield).1 (hfields field hfield).2
    · exact hfeeds t (List.mem_append_right _ ht)

/-- A name that ends in a colon, values with quotes, with a separator and with a backslash at the
end, and lines with both kinds of endings. -/
theorem locate_written_separators :
    let lines : List Text := ["# c\n", "msgid \"\"\n", "msgstr \"\"\r\n", "\"a:: b: c\"\\n\"\r\n",
      "\"A: \\\\n\"\n", " \r\n"]
    ∃ b : MetadataBlock, locate lines = .block b ∧ b.header = 1 ∧
      b.fields lines = [⟨4, "a:", "b: c\""⟩, ⟨5, "A", "\\"⟩] ∧ Text.lines lines.flatten = lines := by
  intro lines
  have hlines : List.Forall₂ Text.Terminated
      (written ["# c"] [("a:", "b: c\""), ("A", "\\")] [" "]) lines :=
    .cons (.inl rfl) (.cons (.inl rfl) (.cons (.inr rfl) (.cons (.inr rfl)
      (.cons (.inl rfl) (.cons (.inr rfl) .nil)))))
  have habove : ∀ i (first second : Text), [("# c" : Text)][i]? = some first →
      [("# c" : Text)][i + 1]? = some second →
      ¬ (Line.hasEmptyId first = true ∧ Line.hasEmptyTranslation second = true) :=
    headerIndex?_eq_none_iff.mp rfl
  have hfields : ∀ field ∈ [(("a:" : Text), ("b: c\"" : Text)), ("A", "\\")],
      IsName field.1 ∧ IsValue field.2 := by
    simp only [List.forall_mem_cons]
    exact ⟨⟨⟨by decide, by decide, by decide⟩, ⟨by decide, by decide⟩⟩,
      ⟨⟨by decide, by decide, by decide⟩, ⟨by decide, by decide⟩⟩, nofun⟩
  have hbelow : ∀ line : Text, [(" " : Text)].head? = some line → line.isBlank = true := by
    intro line hline
    obtain rfl := Option.some.inj hline
    decide
  obtain ⟨⟨b, hb, hheader, hstart, -, hread⟩, htext⟩ :=
    locate_written habove (List.cons_ne_nil _ _) hfields hbelow
      (hlines.imp fun _ _ h => h.ended)
  refine ⟨b, hb, hheader, ?_, htext (by decide) hlines⟩
  rw [hread, hstart]
  rfl

end Written

end Metadata

end CatalogLint
