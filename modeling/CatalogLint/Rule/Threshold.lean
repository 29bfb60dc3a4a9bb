import CatalogLint.Number.Binary64
import CatalogLint.Text.Blank

/-!
# Thresholds

How many messages of a catalogue must be translated: a number, or a percentage of its messages
if a percent sign follows. White space around the number does not count. A threshold keeps its
number as the nearest double, and a percentage is taken of the messages in double arithmetic:
the double nearest to their number divided by a hundred, rounded, times the percentage, rounded.
What comes of that is compared with the double nearest to the number of translated messages.
-/

namespace CatalogLint

/-- The least number or percentage of translated messages. -/
structure Threshold where
  /-- Whether the value is a percentage. -/
  percent : Bool
  value : Binary64
  deriving DecidableEq, Repr

namespace Threshold

/-- The number in front of the percent sign, if the text ends with one. -/
def percentage? (text : Text) : Option Text :=
  if text.getLast? = some '%' then some text.dropLast else none

/-- The double that a text writes, with white space around it. -/
def number? (text : Text) : Option Binary64 := (Decimal.ofText? text.trim).bind Binary64.ofDecimal

/-- The threshold that a text writes. -/
def ofText? (text : Text) : Option Threshold :=
  match percentage? text.trim with
  | some number => (number? number).map (⟨true, ·⟩)
  | none => (number? text.trim).map (⟨false, ·⟩)

/-- A hundredth of a number of messages. -/
def hundredth (total : Nat) : Option Binary64 := (Binary64.ofNat total).bind (·.divNat 100)

/-- The number of translated messages that a catalogue with `total` messages needs; `none`
stands for an infinite one, of the sign of the threshold. -/
def required (t : Threshold) (total : Nat) : Option Binary64 :=
  if t.percent then (hundredth total).bind (·.mul t.value) else some t.value

/-- Whether a catalogue meets the threshold. An infinite number of messages is met by none, or
by any when it is below zero; more translated messages than all doubles meet any. -/
def isMet (t : Threshold) (total translated : Nat) : Bool :=
  match t.required total, Binary64.ofNat translated with
  | some needed, some found => needed.le found
  | none, some _ => t.value.negative
  | _, none => true

end Threshold

end CatalogLint
