import CatalogLint.Text.Blank
import CatalogLint.Text.Lines

/-!
# Lines of a catalogue

A line is classified by its first characters alone. The marks are tried in the order in
which the constructors of `LineKind` stand, and the first that fits decides.
-/

namespace CatalogLint

/-- What the first characters of a line say that it is. -/
inductive LineKind where
  /-- A line of a message that the sources no longer contain. -/
  | obsolete
  /-- A comment taken from the sources. -/
  | extractedComment
  /-- A list of flags. -/
  | flags
  /-- The first line of a message. -/
  | messageStart
  /-- The first line of a translation whose quoted text on that line is empty. -/
  | emptyTranslation
  /-- Any other line. -/
  | other
  deriving DecidableEq, Repr

namespace Line

/-- The front of a line of an obsolete message. -/
def obsoleteMark : Text := "#~ "

/-- The front of an extracted comment. -/
def extractedCommentMark : Text := "#. "

/-- The front of a list of flags. -/
def flagsMark : Text := "#,"

/-- The front of the first line of a message. -/
def messageMark : Text := "msgid \""

/-- The front of the first line of a message whose identifier starts with an empty text. -/
def emptyIdMark : Text := "msgid \"\""

/-- The front of the first line of a translation that starts with an empty text. -/
def emptyTranslationMark : Text := "msgstr \"\""

/-- The kind of a line. -/
def kind (line : Text) : LineKind :=
  if line.startsWith obsoleteMark then .obsolete
  else if line.startsWith extractedCommentMark then .extractedComment
  else if line.startsWith flagsMark then .flags
  else if line.startsWith messageMark then .messageStart
  else if line.startsWith emptyTranslationMark then .emptyTranslation
  else .other

/-- Whether a line continues a quoted text. -/
def isQuoted (line : Text) : Bool := line.head? == some '"'

/-- Whether a line starts a message with an empty identifier. -/
def hasEmptyId (line : Text) : Bool := line.startsWith emptyIdMark

/-- Whether a line starts a translation with an empty text. -/
def hasEmptyTranslation (line : Text) : Bool := line.startsWith emptyTranslationMark

/-- Whether a line is a list of flags with the word `fuzzy` anywhere in it. -/
def isFuzzy (line : Text) : Bool :=
  kind line == .flags && Text.occursIn "fuzzy" line

end Line

end CatalogLint
