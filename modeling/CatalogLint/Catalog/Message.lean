import CatalogLint.Catalog.Metadata

/-!
# Messages

A message starts at a line `msgid "`, the header entry included; obsolete messages are not
messages. `Message.scan` walks the lines once and keeps two things: the message that is
open, and whether a `fuzzy` flag waits for the next message. Such a flag belongs to the next
message that starts, unless an obsolete line comes first and takes it.
-/

namespace CatalogLint

/-- A message of a catalogue. Line numbers count from one. -/
structure Message where
  /-- The line on which the message starts. -/
  line : Nat
  /-- Whether its identifier starts with an empty text. -/
  emptyId : Bool
  /-- Whether it is the header entry. -/
  isHeader : Bool
  /-- The first line of its first empty translation. -/
  untranslatedLine : Option Nat
  /-- Whether a `fuzzy` flag stands before it. -/
  fuzzy : Bool
  deriving DecidableEq, Repr

namespace Message

/-- Whether no empty translation was found. -/
def isTranslated (m : Message) : Bool := m.untranslatedLine.isNone

/-- Whether a line that starts an empty translation is all of it: nothing or a blank line
comes next. -/
def endsTranslation : List Text → Bool
  | [] => true
  | next :: _ => next.isBlank

/-- Records an empty translation on line `n`, unless the message has one already. -/
def markUntranslated (n : Nat) (m : Message) : Message :=
  { m with untranslatedLine := m.untranslatedLine.or (some n) }

/-- The messages of a list of lines of which the first has the number `n`, after the message
`open?` was begun; `fuzzy` tells whether a flag waits for the next message, and `header` is
the index of the header entry. -/
def scanFrom (header : Option Nat) (n : Nat) (fuzzy : Bool) (open? : Option Message) :
    List Text → List Message
  | [] => open?.toList
  | line :: rest =>
    match Line.kind line with
    | .messageStart =>
      let message : Message :=
        { line := n
          emptyId := Line.hasEmptyId line
          isHeader := header.any (· + 1 == n)
          untranslatedLine := none
          fuzzy }
      open?.toList ++ scanFrom header (n + 1) false (some message) rest
    | .emptyTranslation =>
      let open? := if endsTranslation rest then open?.map (markUntranslated n) else open?
      scanFrom header (n + 1) fuzzy open? rest
    | .flags => scanFrom header (n + 1) (fuzzy || Line.isFuzzy line) open? rest
    | .obsolete => scanFrom header (n + 1) false open? rest
    | .extractedComment | .other => scanFrom header (n + 1) fuzzy open? rest

/-- The messages of a catalogue, in the order of its lines. -/
def scan (lines : List Text) : List Message :=
  scanFrom (Metadata.headerIndex? lines) 1 false none lines

/-- The messages of a catalogue other than its header entry. -/
def scanBody (lines : List Text) : List Message :=
  (scan lines).filter (!·.isHeader)

/-- The number of lines that start a message, the header entry included. -/
def countStarts (lines : List Text) : Nat :=
  lines.countP (·.startsWith Line.messageMark)

end Message

end CatalogLint
