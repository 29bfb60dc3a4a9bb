import CatalogLint.Catalog.Line
import CatalogLint.Rule.Inspection

/-!
# The rule on extracted comments

The start of extracted comments is replaced: a given text by another, or the address
`Translators:` with the white space character behind it by nothing. A catalogue fails if that
changes it. In a dry run nothing is written, and each comment with such a start is a notice.
-/

namespace CatalogLint

/-- The start of a comment and what is to stand in its place. -/
inductive CommentStart where
  /-- A text and its replacement. -/
  | literal (mark replacement : Text)
  /-- The address of translators, which goes away. -/
  | translators
  deriving DecidableEq, Repr

namespace CommentStart

/-- The address of translators. -/
def address : Text := "Translators:"

/-- What follows the address and one character of white space, which may not end the line. -/
def afterAddress? (t : Text) : Option Text :=
  match t.after? address with
  | some (c :: rest) => if isSpace c && c != '\n' && c != '\r' then some rest else none
  | _ => none

/-- The text of a comment with its start replaced, if it has that start. -/
def replaceIn? : CommentStart → Text → Option Text
  | literal mark replacement, t => (t.after? mark).map (replacement ++ ·)
  | translators, t => afterAddress? t

/-- A line with the start of its comment replaced, if it is a comment with that start. -/
def replaceLine? (s : CommentStart) (line : Text) : Option Text :=
  if Line.kind line = .extractedComment then
    ((line.after? Line.extractedCommentMark).bind s.replaceIn?).map
      (Line.extractedCommentMark ++ ·)
  else none

/-- The lines with the starts of their comments replaced. -/
def replaceLines (s : CommentStart) (lines : List Text) : List Text :=
  lines.map fun line => (s.replaceLine? line).getD line

/-- The numbers of the lines with such a comment. -/
def occurrences (s : CommentStart) (lines : List Text) : List Nat :=
  numbersWhere (fun line => (s.replaceLine? line).isSome) 1 lines

/-- Applies the rule to the lines of a catalogue. -/
def inspect (s : CommentStart) (dryRun : Bool) (lines : List Text) : Inspection :=
  let new := s.replaceLines lines
  if dryRun then
    { failed := new != lines
      findings := (s.occurrences lines).map fun n =>
        { line := some n, message := "Translator comment would be replaced" } }
  else { failed := new != lines, findings := [], rewrite := some { lines := new } }

end CommentStart

end CatalogLint
