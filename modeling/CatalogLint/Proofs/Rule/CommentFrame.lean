import CatalogLint.Proofs.Catalog.Cursor
import CatalogLint.Proofs.Rule.Alike
import CatalogLint.Proofs.Rule.Reapplication

/-!
# What replaced comments leave alone

A comment whose start is replaced is a comment still, and any two comments are alike to whoever
looks for messages, metadata or runs of obsolete lines (`alike_getD`). So these are where they were
in the text that is written, and the rules that look at nothing else find in it what they found
before (`written_frame`).

That the lines are where they were needs that no line feed is taken or put; what replaces the start
of a comment may otherwise be anything, a line of a message included.
-/

namespace CatalogLint.CommentStart

variable {s : CommentStart}

/-- What a line becomes: itself, or the comment with another start. -/
theorem getD_cases (s : CommentStart) (line : Text) :
    (s.replaceLine? line).getD line = line ∨
      ∃ m rest, s.Takes m ∧ line = Line.extractedCommentMark ++ (m ++ rest) ∧
        (s.replaceLine? line).getD line = Line.extractedCommentMark ++ (s.substitute ++ rest) := by
  cases h : s.replaceLine? line with
  | none => exact Or.inl rfl
  | some new =>
    obtain ⟨m, rest, hm, hline, hnew⟩ := replaceLine?_eq_some_iff.mp h
    exact Or.inr ⟨m, rest, hm, hline, hnew⟩

theorem kind_extractedCommentMark_append (t : Text) :
    Line.kind (Line.extractedCommentMark ++ t) = .extractedComment :=
  Line.kind_eq_extractedComment_iff.mpr (Text.startsWith_iff.mpr ⟨t, rfl⟩)

/-- A line and what it becomes are alike. -/
theorem alike_getD (s : CommentStart) (line : Text) :
    Line.Alike ((s.replaceLine? line).getD line) line := by
  rcases getD_cases s line with heq | ⟨m, rest, -, hline, hnew⟩
  · rw [heq]
    exact .refl line
  · rw [hnew, hline]
    exact Line.alike_of_extractedComment (kind_extractedCommentMark_append _)
      (kind_extractedCommentMark_append _)

/-- Behind a text without line feed a line ends in one if the rest of it does. -/
theorem getLast?_append_eq_some_iff {front : Text} (h : '\n' ∉ front) (rest : Text) :
    (front ++ rest).getLast? = some '\n' ↔ rest.getLast? = some '\n' := by
  rcases List.eq_nil_or_concat rest with rfl | ⟨rest, c, rfl⟩
  · rw [List.append_nil]
    constructor
    · intro hlast
      exact absurd (List.mem_of_getLast? hlast) h
    · intro hlast
      cases hlast
  · rw [List.concat_eq_append, ← List.append_assoc, List.getLast?_concat, List.getLast?_concat]

/-- A line keeps its line feed, and gets none, if no line feed is taken or put. -/
theorem KeepsLines.getLast?_eq_some_iff (hs : s.KeepsLines) {m : Text} (hm : s.Takes m)
    (rest : Text) :
    (Line.extractedCommentMark ++ (s.substitute ++ rest)).getLast? = some '\n' ↔
      (Line.extractedCommentMark ++ (m ++ rest)).getLast? = some '\n' := by
  have hmark : '\n' ∉ Line.extractedCommentMark := by decide
  rw [getLast?_append_eq_some_iff hmark, getLast?_append_eq_some_iff hs.not_mem,
    getLast?_append_eq_some_iff hmark, getLast?_append_eq_some_iff (hm.not_mem hs)]

/-- The text that is written has the lines of the first text in their places. One that is not as it
was is a comment that started with what the rule takes; it is a comment still and ends in a line
feed if it did. The messages, the metadata, the runs of obsolete lines and the tally are the same,
and so is what the rules that read no values and no comments find. -/
theorem written_frame (hs : s.KeepsLines) (t : Text) :
    ∃ t' : Text, s.written t = some t' ∧
      t'.lines.length = t.lines.length ∧
      (∀ (i : Nat) (line line' : Text),
        t.lines[i]? = some line → t'.lines[i]? = some line' → line' ≠ line →
        (∃ m rest, s.Takes m ∧ line = Line.extractedCommentMark ++ (m ++ rest) ∧
          line' = Line.extractedCommentMark ++ (s.substitute ++ rest)) ∧
        Line.kind line = .extractedComment ∧ Line.kind line' = .extractedComment ∧
        (line'.getLast? = some '\n' ↔ line.getLast? = some '\n')) ∧
      (∀ ms, (Message.Cursor.atTop t'.lines).Yields ms ↔ (Message.Cursor.atTop t.lines).Yields ms) ∧
      Message.scan t'.lines = Message.scan t.lines ∧
      Message.countStarts t'.lines = Message.countStarts t.lines ∧
      Obsolete.runs t'.lines = Obsolete.runs t.lines ∧
      Metadata.locate t'.lines = Metadata.locate t.lines ∧
      Tally.ofLines t'.lines = Tally.ofLines t.lines ∧
      Rule.noObsolete.inspect t'.lines = Rule.noObsolete.inspect t.lines ∧
      Rule.noFuzzy.inspect t'.lines = Rule.noFuzzy.inspect t.lines ∧
      (∀ requirement, (Rule.translated requirement).inspect t'.lines =
        (Rule.translated requirement).inspect t.lines) ∧
      (∀ limits, (Rule.limited limits).inspect t'.lines = (Rule.limited limits).inspect t.lines) ∧
      (Rule.metadata .absence).inspect t'.lines = (Rule.metadata .absence).inspect t.lines := by
  have halike := alike_getD s
  have hscan := Message.scan_alike halike t.lines
  have hrule := fun rule (h : Rule.ReadsLittle rule) => Rule.inspect_alike halike rule h t.lines
  refine ⟨_, written_eq s t, ?_⟩
  rw [hs.lines_flatten, replaceLines]
  refine ⟨List.length_map _, ?_, ?_, hscan, Message.countStarts_alike halike t.lines,
    Obsolete.runs_alike halike t.lines, Metadata.locate_alike halike t.lines,
    Tally.ofLines_alike halike t.lines, hrule .noObsolete trivial, hrule .noFuzzy trivial,
    fun requirement => hrule (.translated requirement) trivial,
    fun limits => hrule (.limited limits) trivial, hrule (.metadata .absence) rfl⟩
  · intro i line line' hline hline' hne
    rw [List.getElem?_map, hline, Option.map_some] at hline'
    obtain rfl := Option.some.inj hline'
    rcases getD_cases s line with heq | ⟨m, rest, hm, rfl, hnew⟩
    · exact absurd heq hne
    · rw [hnew]
      exact ⟨⟨m, rest, hm, rfl, rfl⟩, kind_extractedCommentMark_append _,
        kind_extractedCommentMark_append _, hs.getLast?_eq_some_iff hm rest⟩
  · intro ms
    rw [Message.Cursor.yields_iff, Message.Cursor.yields_iff]
    exact Eq.congr_right hscan

/-- What is put in the place of a start makes no message, and a space that is no ASCII character is
taken in front of a carriage return. -/
theorem written_frame_message :
    (∃ t', (literal "a" "~ msgid \"b\"").written "#. a\r\nmsgid \"c\"\nmsgstr \"\"\n#. a" = some t' ∧
      Message.scan t'.lines = [⟨2, false, false, none, false⟩]) ∧
    ∃ t', translators.written "#. Translators:\u2003\r\n#~ msgid \"a\"\n" = some t' ∧
      Obsolete.runs t'.lines = [2] := by
  constructor
  · have hs : (literal "a" "~ msgid \"b\"").KeepsLines := ⟨by decide, by decide⟩
    obtain ⟨t', ht, -, -, -, hscan, -⟩ :=
      written_frame hs "#. a\r\nmsgid \"c\"\nmsgstr \"\"\n#. a"
    exact ⟨t', ht, hscan.trans (by decide)⟩
  · have hs : translators.KeepsLines := trivial
    obtain ⟨t', ht, -, -, -, -, -, hruns, -⟩ :=
      written_frame hs "#. Translators:\u2003\r\n#~ msgid \"a\"\n"
    exact ⟨t', ht, hruns.trans (by decide)⟩

end CatalogLint.CommentStart
