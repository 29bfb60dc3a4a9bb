import CatalogLint.Catalog.Message
import CatalogLint.Catalog.Obsolete
import CatalogLint.Text.Style

/-!
# Tallies

How many messages of a catalogue are translated, fuzzy, untranslated and obsolete, and the
line that shows it: a bar of twenty cells with one segment for each status, then the counts
with their percentages. Percentages and segment widths are rounded down, each on its own.
-/

namespace CatalogLint

/-- The counts of a catalogue; the header entry is not counted. -/
structure Tally where
  total : Nat
  translated : Nat
  fuzzy : Nat
  untranslated : Nat
  obsolete : Nat
  deriving DecidableEq, Repr

namespace Tally

/-- The tally of a catalogue. A fuzzy message counts as fuzzy alone, and each run of obsolete
lines is one message. -/
def ofLines (lines : List Text) : Tally :=
  let messages := Message.scanBody lines
  let obsolete := (Obsolete.runs lines).length
  { total := messages.length + obsolete
    translated := messages.countP fun m => !m.fuzzy && m.isTranslated
    fuzzy := messages.countP fun m => m.fuzzy
    untranslated := messages.countP fun m => !m.fuzzy && !m.isTranslated
    obsolete }

/-- The percentage of the total that a count makes, rounded down. -/
def percent (t : Tally) (count : Nat) : Nat :=
  if t.total = 0 then 0 else count * 100 / t.total

/-- The number of cells between the brackets of the bar. -/
def barWidth : Nat := 20

/-- The number of cells of the bar that a count fills. -/
def cells (t : Tally) (count : Nat) : Nat := t.percent count * barWidth / 100

/-- The bar: translated, fuzzy and untranslated messages fill their cells, and the obsolete
ones take the cells that are left. The translated cells are bright when nothing else is
there. -/
def bar (colours : Bool) (t : Tally) : Text :=
  let translated := t.cells t.translated
  let fuzzy := t.cells t.fuzzy
  let untranslated := t.cells t.untranslated
  let bracket : Style := { dimmed := true }
  let full : Style := { colour := some .green, dimmed := t.translated != t.total }
  let half : Style := { colour := some .yellow, dimmed := true }
  bracket.paint colours "[" ++
    full.paint colours (Text.fill '█' translated) ++
    half.paint colours (Text.fill '▒' fuzzy) ++
    Style.paint colours { colour := some .red } (Text.fill ' ' untranslated) ++
    Style.paint colours { colour := some .magenta }
      (Text.fill ' ' (barWidth - (translated + fuzzy + untranslated))) ++
    bracket.paint colours "]"

/-- A count and its percentage, in a bright and a plain shade of one colour. -/
def share (colours : Bool) (t : Tally) (bright plain : Colour) (count : Nat) : Text :=
  Style.paint colours { colour := some bright } (Text.ofNat count) ++ " " ++
    Style.paint colours { colour := some plain } ("(" ++ Text.ofNat (t.percent count) ++ "%)")

/-- The line that shows a tally. -/
def render (colours : Bool) (t : Tally) : Text :=
  t.bar colours ++ " " ++ Text.ofNat t.total ++ " = " ++
    t.share colours .brightGreen .green t.translated ++ " + " ++
    t.share colours .brightYellow .yellow t.fuzzy ++ " + " ++
    t.share colours .brightRed .red t.untranslated ++ " + " ++
    t.share colours .brightMagenta .magenta t.obsolete

end Tally

end CatalogLint
