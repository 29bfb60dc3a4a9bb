import CatalogLint.Catalog.Message
import CatalogLint.Rule.Inspection

/-!
# The rule on the size of catalogues

A catalogue may have up to a number of messages and up to a number of lines. The first message
is taken for the header entry and does not count, so that an empty catalogue has one message
less than none.
-/

namespace CatalogLint

/-- The greatest number of messages and of lines. -/
structure Limits where
  messages : Option Int := none
  lines : Option Int := none
  deriving DecidableEq, Repr

namespace Limits

/-- The number of messages that counts. -/
def countMessages (lines : List Text) : Int := (Message.countStarts lines : Int) - 1

/-- The finding for a number of things that is above its limit. -/
def exceeded (things : Text) (count : Int) (limit : Option Int) : List Finding :=
  match limit with
  | some most =>
    if most < count then
      [{ message := "More " ++ things ++ " (" ++ Text.ofInt count ++ ") than allowed (" ++
          Text.ofInt most ++ ")" }]
    else []
  | none => []

/-- Applies the limits to the lines of a catalogue. -/
def inspect (l : Limits) (lines : List Text) : Inspection :=
  .ofViolations (exceeded "messages" (countMessages lines) l.messages ++
    exceeded "lines" lines.length l.lines)

end Limits

end CatalogLint
