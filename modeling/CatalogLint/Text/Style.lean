import CatalogLint.Text.Basic

/-!
# Styled text

Terminal colours: a styled text stands between an escape sequence that switches its style
on and one that resets it, even when the text is empty. Where colours are off the text
stands alone.
-/

namespace CatalogLint

/-- The foreground colours in use. -/
inductive Colour where
  | red
  | green
  | yellow
  | magenta
  | brightRed
  | brightGreen
  | brightYellow
  | brightMagenta
  deriving DecidableEq, Repr

/-- The number that selects a colour. -/
def Colour.code : Colour → Nat
  | red => 31
  | green => 32
  | yellow => 33
  | magenta => 35
  | brightRed => 91
  | brightGreen => 92
  | brightYellow => 93
  | brightMagenta => 95

/-- How a text is drawn. -/
structure Style where
  bold : Bool := false
  dimmed : Bool := false
  colour : Option Colour := none
  deriving DecidableEq, Repr

namespace Style

/-- The numbers that select a style: first its weight, then its colour. -/
def codes (s : Style) : List Nat :=
  (if s.bold then [1] else []) ++ (if s.dimmed then [2] else []) ++
    s.colour.toList.map Colour.code

/-- A text in a style, where `colours` tells whether colours are on. -/
def paint (colours : Bool) (s : Style) (t : Text) : Text :=
  if colours then
    "\x1b[" ++ Text.join ";" (s.codes.map Text.ofNat) ++ "m" ++ t ++ "\x1b[0m"
  else t

end Style

end CatalogLint
