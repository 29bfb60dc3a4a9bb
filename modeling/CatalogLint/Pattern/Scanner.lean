import CatalogLint.Pattern.Basic
import CatalogLint.Number.Decimal

/-!
# Reading the parts of a pattern

The parts of a written pattern that stand below its groups: flags, escapes and numbers. Every
reader takes the text after the characters that announce the part and returns the part with
the text behind it; `none` means that the pattern is not well formed.

In spaced mode white space and comments from `#` to the end of the line do not count between
the characters of a part, and `takeSpaced` is the one place that passes over them.
-/

namespace CatalogLint.Pattern

/-- The flags in force at a place of a pattern. -/
structure Flags where
  ignoreCase : Bool := false
  multiLine : Bool := false
  dotAll : Bool := false
  /-- A carriage return ends a line as well. -/
  crlf : Bool := false
  /-- Classes hold ASCII characters only, and patterns are about bytes. -/
  ascii : Bool := false
  /-- White space and comments in the pattern do not count. -/
  spaced : Bool := false
  deriving DecidableEq, Repr

namespace Flags

/-- Sets or clears the flag with this letter. The letter `U` swaps greedy and reluctant
repetition, which makes no difference to whether a pattern matches. -/
def set? (f : Flags) (letter : Char) (on : Bool) : Option Flags :=
  match letter with
  | 'i' => some { f with ignoreCase := on }
  | 'm' => some { f with multiLine := on }
  | 's' => some { f with dotAll := on }
  | 'R' => some { f with crlf := on }
  | 'u' => some { f with ascii := !on }
  | 'x' => some { f with spaced := on }
  | 'U' => some f
  | _ => none

/-- The set closed under changes of case, if case is ignored. -/
def foldCase (f : Flags) (set : CharSet) : CharSet :=
  if f.ignoreCase then (if f.ascii then .asciiFolded set else .folded set) else set

/-- The set, unless it is one of bytes and has members beyond ASCII. -/
def guard? (f : Flags) (set : CharSet) : Option CharSet :=
  if f.ascii && !set.isAscii then none else some set

end Flags

/-! ## White space and comments -/

/-- The characters that satisfy `p` and the text from the first that does not; in spaced mode
white space and comments are passed over. The last flag but one tells whether a comment is
open. -/
def takeSpaced (spaced : Bool) (p : Char → Bool) : Bool → Text → Text × Text
  | _, [] => ([], [])
  | true, c :: t => takeSpaced spaced p (c != '\n') t
  | false, c :: t =>
    if spaced && isSpace c then takeSpaced spaced p false t
    else if spaced && c = '#' then takeSpaced spaced p true t
    else if p c then
      let (taken, rest) := takeSpaced spaced p false t
      (c :: taken, rest)
    else ([], c :: t)

/-- The characters that satisfy `p` and the text from the first that does not. -/
def Flags.take (f : Flags) (p : Char → Bool) (t : Text) : Text × Text :=
  takeSpaced f.spaced p false t

/-- The text from its first character that counts. -/
def Flags.skip (f : Flags) (t : Text) : Text := (f.take (fun _ => false) t).2

/-- The next character that counts, for one look ahead inside a class: of a comment only its
mark is passed over, and when nothing counts the next character is taken as it stands. -/
def Flags.peek? (f : Flags) (t : Text) : Option Char :=
  if f.spaced then
    let ahead :=
      match t.dropWhile isSpace with
      | '#' :: comment => comment.dropWhile isSpace
      | ahead => ahead
    ahead.head?.or t.head?
  else t.head?

/-! ## Numbers -/

/-- The value of a hexadecimal digit. -/
def hexDigit? (c : Char) : Option Nat :=
  if '0' ≤ c && c ≤ '9' then some (c.toNat - '0'.toNat)
  else if 'a' ≤ c && c ≤ 'f' then some (c.toNat - 'a'.toNat + 10)
  else if 'A' ≤ c && c ≤ 'F' then some (c.toNat - 'A'.toNat + 10)
  else none

/-- The number that a text of hexadecimal digits writes. -/
def hexValue (digits : Text) : Nat :=
  digits.foldl (fun n c => 16 * n + (hexDigit? c).getD 0) 0

/-- The character with this code point, if there is one. -/
def charOf? (n : Nat) : Option Char := if n.isValidChar then some (Char.ofNat n) else none

/-- Exactly `count` hexadecimal digits. -/
def hexDigits? (f : Flags) : (count : Nat) → Text → Option (Text × Text)
  | 0, t => some ([], t)
  | count + 1, c :: t =>
    if (hexDigit? c).isSome then
      (hexDigits? f count (f.skip t)).map fun (digits, rest) => (c :: digits, rest)
    else none
  | _ + 1, [] => none

/-- A code point in hexadecimal: `count` digits, or any number of digits between braces. -/
def readCodePoint? (f : Flags) (count : Nat) (t : Text) : Option (Char × Text) :=
  match f.skip t with
  | '\x7b' :: t =>
    match f.take (fun c => (hexDigit? c).isSome) t with
    | ([], _) => none
    | (digits, '\x7d' :: rest) => (charOf? (hexValue digits)).map fun c => (c, f.skip rest)
    | _ => none
  | t =>
    (hexDigits? f count t).bind fun (digits, rest) =>
      (charOf? (hexValue digits)).map fun c => (c, rest)

/-- A count of repetitions. White space around it does not count in any mode. -/
def readCount? (f : Flags) (t : Text) : Option (Nat × Text) :=
  let (digits, rest) := f.take Decimal.isDigit (t.dropWhile isSpace)
  let count := Decimal.digitsValue digits
  if digits.isEmpty || Nat.pow 2 32 ≤ count then none else some (count, rest.dropWhile isSpace)

/-- The counts of a repetition, up to and with the closing brace. -/
def readCounts? (f : Flags) (t : Text) : Option ((Nat × Option Nat) × Text) :=
  (readCount? f (f.skip t)).bind fun (least, t) =>
    match t with
    | '\x7d' :: t => some ((least, some least), t)
    | ',' :: t =>
      match f.skip t with
      | '\x7d' :: t => some ((least, none), t)
      | t =>
        (readCount? f t).bind fun (most, t) =>
          match t with
          | '\x7d' :: t => if least ≤ most then some ((least, some most), t) else none
          | _ => none
    | _ => none

/-! ## Escapes -/

/-- What one character or one escape stands for. -/
inductive Atom where
  /-- A character; `byte` tells that it was written as a byte, with two hexadecimal digits. -/
  | char (c : Char) (byte : Bool)
  | set (s : CharSet)
  | anchor (a : Anchor)
  deriving DecidableEq, Repr

/-- Whether a backslash before this character gives the character. -/
def isEscapable (c : Char) : Bool :=
  c.toNat < 0x80 && !c.isAlphanum && c != '<' && c != '>'

/-- A class by its letter: digits, white space or word characters, negated for a capital. -/
def letterClass? (f : Flags) (letter : Char) : Option CharSet :=
  let set? : Option CharSet :=
    match letter.toLower with
    | 'd' => some (if f.ascii then .asciiDigit else .digit)
    | 's' => some (if f.ascii then .asciiSpace else .space)
    | 'w' => some (if f.ascii then .asciiWord else .word)
    | _ => none
  set?.bind fun set => f.guard? (set.negateIf letter.isUpper)

/-- The sets with the name, or the property and the value, between the braces of a class. Of
the signs between property and value `!=` is tried first; it does not negate the class. -/
def property? (content : Text) : Option (List Boundaries) :=
  match content.splitAtFirst? "!=" with
  | some (property, value) => CodePoint.Property.valued? property value
  | none =>
    match content.splitAtFirst? ":" with
    | some (property, value) => CodePoint.Property.valued? property value
    | none =>
      match content.splitAtFirst? "=" with
      | some (property, value) => CodePoint.Property.valued? property value
      | none => CodePoint.Property.named? content

/-- A class by a property of its characters: one letter, or text between braces. -/
def readProperty? (f : Flags) (negated : Bool) (t : Text) : Option (CharSet × Text) :=
  let content? : Option (Text × Text) :=
    match f.skip t with
    | '\x7b' :: t =>
      match f.take (· != '\x7d') t with
      | (content, '\x7d' :: rest) => some (content, rest)
      | _ => none
    | '\\' :: _ => none
    | c :: rest => some ([c], rest)
    | [] => none
  content?.bind fun (content, rest) =>
    if f.ascii then none
    else
      (property? content).map fun sets =>
        ((f.foldCase (.unions (sets.map .table))).negateIf negated, rest)

/-- The edge that a word between the braces behind `\b` names. -/
def wordEdge? (name : Text) : Option WordEdge :=
  if name = "start".toList then some .start
  else if name = "end".toList then some .stop
  else if name = "start-half".toList then some .startHalf
  else if name = "end-half".toList then some .stopHalf
  else none

/-- The edge of a word behind `\b`: a word between braces says which, and braces that hold
something else are left for a repetition. -/
def readWordEdge? (f : Flags) (t : Text) : Option (WordEdge × Text) :=
  let isNameChar (c : Char) : Bool := c.isAlpha || c == '-'
  match t with
  | '\x7b' :: inner =>
    match f.skip inner with
    | [] => none
    | c :: body =>
      if isNameChar c then
        match f.take isNameChar (c :: body) with
        | (name, '\x7d' :: rest) => (wordEdge? name).map fun edge => (edge, rest)
        | _ => none
      else some (.boundary, t)
  | _ => some (.boundary, t)

/-- The control character that a letter names. -/
def controlChar? : Char → Option Char
  | 'a' => some '\x07'
  | 'f' => some '\x0c'
  | 't' => some '\t'
  | 'n' => some '\n'
  | 'r' => some '\r'
  | 'v' => some '\x0b'
  | _ => none

/-- What stands behind a backslash. -/
def readEscape? (f : Flags) : Text → Option (Atom × Text)
  | [] => none
  | c :: t =>
    if c = 'x' || c = 'u' || c = 'U' then
      let count := if c = 'x' then 2 else if c = 'u' then 4 else 8
      (readCodePoint? f count t).map fun (d, rest) =>
        (.char d (c = 'x' && (f.skip t).head? != some '\x7b'), rest)
    else if c = 'p' || c = 'P' then
      (readProperty? f (c = 'P') t).map fun (set, rest) => (.set set, rest)
    else if c.toLower = 'd' || c.toLower = 's' || c.toLower = 'w' then
      (letterClass? f c).map fun set => (.set set, t)
    else if isEscapable c then some (.char c false, t)
    else if let some d := controlChar? c then some (.char d false, t)
    else
      match c with
      | 'A' => some (.anchor .textStart, t)
      | 'z' => some (.anchor .textEnd, t)
      | 'b' => (readWordEdge? f t).map fun (edge, rest) => (.anchor (.word edge f.ascii), rest)
      | 'B' => some (.anchor (.word .noBoundary f.ascii), t)
      | '<' => some (.anchor (.word .start f.ascii), t)
      | '>' => some (.anchor (.word .stop f.ascii), t)
      | _ => none

/-- The set of one character outside a class. -/
def literal? (f : Flags) (c : Char) (byte : Bool) : Option CharSet :=
  if f.ascii && byte && 0x7F < c.toNat then none else some (f.foldCase (.single c))

end CatalogLint.Pattern
