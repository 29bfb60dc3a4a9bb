import CatalogLint.Text.Basic

/-!
# JSON text

The compact form of JSON that reports are written in: no space between the parts, the
members of an object in the order given, and in a string only the quote, the backslash and
the characters below the space are escaped.
-/

namespace CatalogLint

/-- A JSON value of a report; numbers are natural numbers. -/
inductive Json where
  | null
  | number (n : Nat)
  | string (t : Text)
  | array (items : List Json)
  | object (members : List (Text × Json))
  deriving Inhabited

namespace Json

/-- A character below the space without a short escape, as four hexadecimal digits. -/
def unicodeEscape (c : Char) : Text :=
  let digits := Nat.toDigits 16 c.toNat
  "\\u" ++ Text.fill '0' (4 - digits.length) ++ digits

/-- The form of a character inside a string. -/
def escape (c : Char) : Text :=
  if c = '"' then "\\\""
  else if c = '\\' then "\\\\"
  else if c = '\x08' then "\\b"
  else if c = '\t' then "\\t"
  else if c = '\n' then "\\n"
  else if c = '\x0c' then "\\f"
  else if c = '\r' then "\\r"
  else if c.toNat < 0x20 then unicodeEscape c
  else [c]

/-- A text between quotes, with its characters escaped. -/
def quote (t : Text) : Text :=
  '"' :: t.flatMap escape ++ ['"']

mutual

/-- The compact form of a value. -/
def render : Json → Text
  | null => "null"
  | number n => Text.ofNat n
  | string t => quote t
  | array items => '[' :: renderItems items ++ [']']
  | object members => '\x7b' :: renderMembers members ++ ['\x7d']

/-- Values separated by commas. -/
def renderItems : List Json → Text
  | [] => []
  | [item] => render item
  | item :: rest => render item ++ ',' :: renderItems rest

/-- Members separated by commas, each name before its value. -/
def renderMembers : List (Text × Json) → Text
  | [] => []
  | [(name, value)] => quote name ++ ':' :: render value
  | (name, value) :: rest => quote name ++ ':' :: render value ++ ',' :: renderMembers rest

end

end Json

end CatalogLint
