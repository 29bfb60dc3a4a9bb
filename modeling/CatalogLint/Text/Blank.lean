import CatalogLint.Text.Basic

/-!
# Blank text

White space is the Unicode property `White_Space`: the ASCII spaces and line breaks, the
next-line and no-break spaces, the typographic spaces and the two Unicode line separators.
The zero-width space and the information separators are not in it.
-/

namespace CatalogLint

/-- Whether a character has the Unicode property `White_Space`. -/
def isSpace (c : Char) : Bool :=
  let n := c.toNat
  (0x09 ≤ n && n ≤ 0x0D) || n == 0x20 || n == 0x85 || n == 0xA0 || n == 0x1680 ||
    (0x2000 ≤ n && n ≤ 0x200A) || n == 0x2028 || n == 0x2029 || n == 0x202F ||
    n == 0x205F || n == 0x3000

namespace Text

/-- The text without the white space at its front. -/
def trimStart (t : Text) : Text := t.dropWhile isSpace

/-- The text without the white space at its end. -/
def trimEnd (t : Text) : Text := t.dropEndWhile isSpace

/-- The text without the white space at its two ends. -/
def trim (t : Text) : Text := t.trimStart.trimEnd

/-- Whether the text holds nothing but white space. -/
def isBlank (t : Text) : Bool := t.all isSpace

end Text

end CatalogLint
