import CatalogLint.Pattern.Scanner

/-!
# Reading classes

A class between brackets: characters, ranges, escapes and nested classes, joined by the
operators `&&`, `--` and `~~`, which bind alike and to the left. The classes that are open
stand on a stack of levels. Case is folded before a class is negated and before an operator
is applied.
-/

namespace CatalogLint.Pattern

/-- An operator between the two sides of a class. -/
inductive SetOperator where
  | inter
  | diff
  | symmDiff
  deriving DecidableEq, Repr

/-- The set that an operator makes of its two sides. -/
def SetOperator.apply : SetOperator → CharSet → CharSet → CharSet
  | inter => .inter
  | diff => .diff
  | symmDiff => .symmDiff

/-- A class that is open. -/
structure ClassLevel where
  negated : Bool
  /-- The operator that waits for its right side, with its left side. -/
  pending : Option (SetOperator × CharSet) := none
  /-- The union of the members read since the last operator. -/
  members : CharSet := .empty
  deriving DecidableEq, Repr

namespace ClassLevel

/-- Adds a member. -/
def add (level : ClassLevel) (set : CharSet) : ClassLevel :=
  { level with members := .union level.members set }

/-- The set read so far. -/
def value (f : Flags) (level : ClassLevel) : CharSet :=
  match level.pending with
  | none => level.members
  | some (operator, left) => operator.apply (f.foldCase left) (f.foldCase level.members)

/-- Makes the set read so far the left side of an operator. -/
def operate (f : Flags) (operator : SetOperator) (level : ClassLevel) : ClassLevel :=
  { level with pending := some (operator, level.value f), members := .empty }

/-- The set of a class at its closing bracket. -/
def close? (f : Flags) (level : ClassLevel) : Option CharSet :=
  f.guard? ((f.foldCase (level.value f)).negateIf level.negated)

end ClassLevel

/-- A class name such as `[:alpha:]` behind its first bracket: whether it is negated, its set
and the text behind it. -/
def readClassName? : Text → Option (Bool × CharSet × Text)
  | ':' :: t =>
    let (negated, t) :=
      match t with
      | '^' :: t => (true, t)
      | t => (false, t)
    match t.dropWhile (· != ':') with
    | ':' :: ']' :: rest =>
      (CharSet.asciiClass? (t.takeWhile (· != ':'))).map fun set => (negated, set, rest)
    | _ => none
  | _ => none

/-- The hyphens in front of a class, which are members of it. -/
def readHyphens (f : Flags) : (bound : Nat) → ClassLevel → Text → ClassLevel × Text
  | bound + 1, level, '-' :: t => readHyphens f bound (level.add (.single '-')) (f.skip t)
  | _, level, t => (level, t)

/-- The front of a class behind its bracket: a caret that negates it, then hyphens, or one
closing bracket, as its first members. -/
def openClass? (f : Flags) (t : Text) : Option (ClassLevel × Text) :=
  let (negated, t) :=
    match f.skip t with
    | '^' :: t => (true, f.skip t)
    | t => (false, t)
  let level : ClassLevel := { negated }
  let (level, t) :=
    match t with
    | ']' :: t => (level.add (.single ']'), f.skip t)
    | t => readHyphens f t.length level t
  if t.isEmpty then none else some (level, t)

/-- One character or escape of a class. -/
def readClassItem? (f : Flags) : Text → Option (Atom × Text)
  | '\\' :: t => readEscape? f t
  | c :: t => some (.char c false, t)
  | [] => none

/-- Whether a character can be a member of a class; a class of bytes has ASCII members. -/
def isClassChar (f : Flags) (c : Char) : Bool := !f.ascii || c.toNat < 0x80

/-- The set of a single item of a class. -/
def itemSet? (f : Flags) : Atom → Option CharSet
  | .char c _ => if isClassChar f c then some (.single c) else none
  | .set set => some set
  | .anchor _ => none

/-- The set between two items of a class. -/
def rangeSet? (f : Flags) : Atom → Atom → Option CharSet
  | .char first _, .char last _ =>
    if first ≤ last && isClassChar f first && isClassChar f last then
      some (.range first last)
    else none
  | _, _ => none

/-- One member of a class. A hyphen makes a range unless a closing bracket or another hyphen
follows it. -/
def readMember? (f : Flags) (t : Text) : Option (CharSet × Text) :=
  (readClassItem? f t).bind fun (first, t) =>
    match f.skip t with
    | [] => none
    | '-' :: rest =>
      if f.peek? rest = some ']' || f.peek? rest = some '-' then
        (itemSet? f first).map fun set => (set, '-' :: rest)
      else
        (readClassItem? f (f.skip rest)).bind fun (last, rest) =>
          (rangeSet? f first last).map fun set => (set, rest)
    | rest => (itemSet? f first).map fun set => (set, rest)

/-- The rest of a class behind its front, where `outer` holds the classes around it, the
innermost first. Each turn reads at least one character, so that the length of the text
bounds the number of turns. -/
def readMembers? (f : Flags) :
    (bound : Nat) → ClassLevel → (outer : List ClassLevel) → Text → Option (CharSet × Text)
  | 0, _, _, _ => none
  | bound + 1, level, outer, t =>
    match f.skip t with
    | [] => none
    | '[' :: t =>
      match readClassName? t with
      | some (negated, set, rest) =>
        (f.guard? ((f.foldCase set).negateIf negated)).bind fun set =>
          readMembers? f bound (level.add set) outer rest
      | none =>
        (openClass? f t).bind fun (inner, t) =>
          readMembers? f bound inner (level :: outer) t
    | ']' :: t =>
      (level.close? f).bind fun set =>
        match outer with
        | [] => some (set, t)
        | parent :: outer => readMembers? f bound (parent.add set) outer t
    | '&' :: '&' :: t => readMembers? f bound (level.operate f .inter) outer t
    | '-' :: '-' :: t => readMembers? f bound (level.operate f .diff) outer t
    | '~' :: '~' :: t => readMembers? f bound (level.operate f .symmDiff) outer t
    | t =>
      (readMember? f t).bind fun (set, rest) =>
        readMembers? f bound (level.add set) outer rest

/-- A class behind its opening bracket. -/
def readClass? (f : Flags) (t : Text) : Option (CharSet × Text) :=
  (openClass? f t).bind fun (level, t) => readMembers? f (t.length + 1) level [] t

end CatalogLint.Pattern
