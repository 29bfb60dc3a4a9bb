import CatalogLint.Catalog.Message
import CatalogLint.Rule.Inspection
import CatalogLint.Rule.Threshold

/-!
# The rule on untranslated messages

Without a threshold each message with an empty translation is a finding, at the line of that.
With one a catalogue that does not meet it is a single finding, about the whole catalogue. The
header entry is no message here.
-/

namespace CatalogLint.Translation

/-- A threshold with the text that gave it. -/
structure Requirement where
  threshold : Threshold
  text : Text
  deriving DecidableEq, Repr

/-- The lines of the empty translations, one for each message that has one. -/
def untranslatedLines (lines : List Text) : List Nat :=
  (Message.scanBody lines).filterMap (·.untranslatedLine)

/-- The number of messages without an empty translation. -/
def countTranslated (lines : List Text) : Nat :=
  (Message.scanBody lines).countP (·.isTranslated)

/-- The percentage of messages that are translated, in double arithmetic, and of one message at
least. -/
def percentage? (total translated : Nat) : Option Binary64 :=
  (Binary64.ofNat translated).bind fun found =>
    (Binary64.ofNat (max total 1)).bind fun all =>
      (found.div all).bind fun share => (Binary64.ofNat 100).bind share.mul

/-- The wording for a catalogue that does not meet a requirement. The percentage shown is the greater
one of 100 and that of the translated messages; that is 100 (`percentage?_le`). -/
def shortfall (r : Requirement) (translated : Nat) : Text :=
  if r.threshold.percent then
    "Lower percent of translation (100) than minimum required (" ++ r.text ++ ")"
  else
    "Lower number of messages translated (" ++ Text.ofNat translated ++ ") than required (" ++
      r.text ++ ")"

/-- Applies the rule to the lines of a catalogue. -/
def inspect (requirement : Option Requirement) (lines : List Text) : Inspection :=
  match requirement with
  | none =>
    .ofViolations ((untranslatedLines lines).map fun n =>
      { line := some n, message := "Untranslated message" })
  | some r =>
    let translated := countTranslated lines
    if r.threshold.isMet (Message.scanBody lines).length translated then .pass
    else .ofViolations [{ message := shortfall r translated }]

end CatalogLint.Translation
