import CatalogLint.Pattern.Class

/-!
# Reading patterns

A pattern is read from left to right with the groups that are open on a stack. Flags set
inside a group hold to its end, over all its alternatives. `Pattern.ofText?` is `none` on a
text that is not a well-formed pattern: look-around, references to groups, classes that match
bytes beyond ASCII, names given twice and repetitions of nothing are refused.

An engine also refuses a pattern that is nested too deeply, or too large when it is compiled. These
limits are left out: every text that is well formed is a pattern here.
-/

namespace CatalogLint.Pattern

/-- What has been read of a group, or of the pattern outside all groups. -/
structure Branches where
  /-- The alternatives that are complete. -/
  done : Option Pattern := none
  /-- The items of the alternative at hand, the last first; `none` is a group of flags, which
  cannot be repeated. -/
  items : List (Option Pattern) := []
  deriving DecidableEq, Repr

namespace Branches

/-- The items of the alternative at hand, in sequence. -/
def sequence (b : Branches) : Pattern :=
  b.items.foldl (fun rest item => match item with
    | some p => .seq p rest
    | none => rest) .empty

/-- The alternatives with the one at hand. -/
def close (b : Branches) : Pattern :=
  match b.done with
  | none => b.sequence
  | some p => .alt p b.sequence

/-- Starts the next alternative. -/
def split (b : Branches) : Branches := { done := some b.close }

/-- Adds an item to the alternative at hand. -/
def push (b : Branches) (item : Option Pattern) : Branches :=
  { b with items := item :: b.items }

/-- Repeats the last item, if there is one and it is not a group of flags. -/
def repeatLast? (b : Branches) (least : Nat) (most : Option Nat) : Option Branches :=
  match b.items with
  | some p :: items => some { b with items := some (.times p least most) :: items }
  | _ => none

end Branches

/-- The state of the reader. -/
structure Reader where
  flags : Flags := {}
  /-- The innermost open group. -/
  inner : Branches := {}
  /-- The groups around it, the innermost first, each with the flags to return to when the
  group inside it closes. -/
  outer : List (Flags × Branches) := []
  /-- The names of groups read so far. -/
  names : List Text := []
  deriving DecidableEq, Repr

namespace Reader

/-- Adds an item to the group at hand. -/
def push (r : Reader) (p : Pattern) : Reader := { r with inner := r.inner.push (some p) }

/-- Opens a group in which these flags hold. -/
def openGroup (r : Reader) (flags : Flags) : Reader :=
  { r with flags, inner := {}, outer := (r.flags, r.inner) :: r.outer }

/-- Closes the group at hand. -/
def closeGroup? (r : Reader) : Option Reader :=
  match r.outer with
  | [] => none
  | (flags, parent) :: outer =>
    some { r with flags, inner := parent.push (some r.inner.close), outer }

/-- The name of a group up to its closing bracket. It starts with a letter or an underscore;
digits, points and square brackets may follow. -/
def readName? (t : Text) : Option (Text × Text) :=
  let isFirst (c : Char) : Bool := c == '_' || CodePoint.Property.isAlphabetic c
  let isLater (c : Char) : Bool :=
    c == '_' || c == '.' || c == '[' || c == ']' || CodePoint.Property.isAlphanumeric c
  match t.takeWhile (· != '>'), t.dropWhile (· != '>') with
  | c :: name, _ :: rest =>
    if isFirst c && name.all isLater then some (c :: name, rest) else none
  | _, _ => none

/-- Letters of flags, a hyphen among them switching the later ones off, up to a colon or a
closing parenthesis: the flags, whether any letter was given, and the text from there on. No
letter and no hyphen may stand twice, and a letter has to follow the hyphen. -/
def readFlags? (on : Bool) (seen : Text) (f : Flags) : Text → Option (Flags × Bool × Text)
  | [] => none
  | c :: t =>
    if c = ':' || c = ')' then
      if seen.head? = some '-' then none else some (f, !seen.isEmpty, c :: t)
    else if seen.contains c then none
    else if c = '-' then readFlags? false (c :: seen) f t
    else (f.set? c on).bind fun f => readFlags? on (c :: seen) f t

/-- A group behind its opening parenthesis. -/
def readGroup? (r : Reader) (t : Text) : Option (Reader × Text) :=
  let name? : Option (Text × Text) → Option (Reader × Text) := fun found =>
    found.bind fun (name, rest) =>
      if r.names.contains name then none
      else some ({ r.openGroup r.flags with names := name :: r.names }, rest)
  match r.flags.skip t with
  | '?' :: '=' :: _ | '?' :: '!' :: _ | '?' :: '<' :: '=' :: _ | '?' :: '<' :: '!' :: _ => none
  | '?' :: 'P' :: '<' :: t => name? (readName? t)
  | '?' :: '<' :: t => name? (readName? t)
  | '?' :: t =>
    match readFlags? true [] r.flags t with
    | some (flags, given, ')' :: rest) =>
      if given then some ({ r with flags, inner := r.inner.push none }, rest) else none
    | some (flags, _, _ :: rest) => some (r.openGroup flags, rest)
    | _ => none
  | t => some (r.openGroup r.flags, t)

/-- A question mark behind a repetition makes it reluctant, which does not matter here. -/
def dropReluctant : Text → Text
  | '?' :: t => t
  | t => t

/-- Repeats the last item. -/
def repeatLast? (r : Reader) (least : Nat) (most : Option Nat) : Option Reader :=
  (r.inner.repeatLast? least most).map fun inner => { r with inner }

/-- The set of the characters that a point matches. -/
def point? (f : Flags) : Option CharSet :=
  if f.ascii then none
  else if f.dotAll then some .any
  else if f.crlf then some (.compl (.ofText "\r\n"))
  else some (.compl (.single '\n'))

/-- Adds what a character or an escape stands for. -/
def pushAtom? (r : Reader) : Atom → Option Reader
  | .char c byte => (literal? r.flags c byte).map fun set => r.push (.char set)
  | .set set => some (r.push (.char set))
  | .anchor a => some (r.push (.anchor a))

/-- Reads the part of a pattern that starts with the character `c`, before the text `t`. -/
def step? (r : Reader) (c : Char) (t : Text) : Option (Reader × Text) :=
  match c with
  | '(' => r.readGroup? t
  | ')' => r.closeGroup?.map (·, t)
  | '|' => some ({ r with inner := r.inner.split }, t)
  | '[' => (readClass? r.flags t).map fun (set, rest) => (r.push (.char set), rest)
  | '?' => (r.repeatLast? 0 (some 1)).map (·, dropReluctant t)
  | '*' => (r.repeatLast? 0 none).map (·, dropReluctant t)
  | '+' => (r.repeatLast? 1 none).map (·, dropReluctant t)
  | '\x7b' =>
    (readCounts? r.flags t).bind fun ((least, most), rest) =>
      (r.repeatLast? least most).map (·, dropReluctant (r.flags.skip rest))
  | '\\' =>
    (readEscape? r.flags t).bind fun (atom, rest) => (r.pushAtom? atom).map (·, rest)
  | '.' => (point? r.flags).map fun set => (r.push (.char set), t)
  | '^' =>
    let a := if r.flags.multiLine then .lineStart r.flags.crlf else .textStart
    some (r.push (.anchor a), t)
  | '$' =>
    let a := if r.flags.multiLine then .lineEnd r.flags.crlf else .textEnd
    some (r.push (.anchor a), t)
  | c => (r.pushAtom? (.char c false)).map (·, t)

/-- Reads a text to its end. Each turn reads at least one character, so that the length of
the text bounds the number of turns. -/
def run? : (bound : Nat) → Reader → Text → Option Pattern
  | 0, _, _ => none
  | bound + 1, r, t =>
    match r.flags.skip t with
    | [] => if r.outer.isEmpty then some r.inner.close else none
    | c :: t => (r.step? c t).bind fun (r, t) => run? bound r t

end Reader

/-- The pattern that a text writes, if it writes one. -/
def ofText? (t : Text) : Option Pattern := Reader.run? (t.length + 1) {} t

end CatalogLint.Pattern
