import CatalogLint.Pattern.CharSet

/-!
# Patterns

A pattern is a regular expression over characters with conditions on the place between two
characters. Only whether a pattern matches is asked, never where a match ends, so that there
is no difference between greedy and reluctant repetition and groups are not recorded.

* `Spot` is a place in a text, `Anchor.holds` decides a condition there.
* `Pattern.ends` takes a list of spots to the spots at which a match from one of them ends.
* `Pattern.matchesAtStart` and `Pattern.matchesAnywhere` ask for a match from the first spot
  and from any spot.
-/

namespace CatalogLint

/-- A place in a text: the character before it and the text after it. -/
structure Spot where
  before : Option Char
  rest : Text
  deriving DecidableEq, Repr

/-- Where a word begins or ends. -/
inductive WordEdge where
  /-- A word character on exactly one side. -/
  | boundary
  /-- Word characters on both sides or on none. -/
  | noBoundary
  /-- A word character after, none before. -/
  | start
  /-- A word character before, none after. -/
  | stop
  /-- No word character before. -/
  | startHalf
  /-- No word character after. -/
  | stopHalf
  deriving DecidableEq, Repr

/-- A condition on a spot. -/
inductive Anchor where
  | textStart
  | textEnd
  /-- The start of a line; with `crlf` a carriage return ends a line too, and one with the line
  feed behind it counts as a single line ending. -/
  | lineStart (crlf : Bool)
  /-- The end of a line. -/
  | lineEnd (crlf : Bool)
  /-- An edge of a word of ASCII characters, or of characters of all scripts. -/
  | word (edge : WordEdge) (ascii : Bool)
  deriving DecidableEq, Repr

/-- A regular expression. -/
inductive Pattern where
  | empty
  | char (set : CharSet)
  | anchor (a : Anchor)
  | seq (p q : Pattern)
  | alt (p q : Pattern)
  /-- At least `least` times and, with a bound, at most `most` times. -/
  | times (p : Pattern) (least : Nat) (most : Option Nat)
  deriving DecidableEq, Repr

namespace Spot

/-- The first spot of a text. -/
def first (t : Text) : Spot := ⟨none, t⟩

/-- The spot behind the next character, if that is in `set`. -/
def step? (set : CharSet) (s : Spot) : Option Spot :=
  match s.rest with
  | [] => none
  | c :: rest => if set.contains c then some ⟨some c, rest⟩ else none

/-- A spot and all spots behind it, where `before` is the character before the text. -/
def onward (before : Option Char) : Text → List Spot
  | [] => [⟨before, []⟩]
  | c :: t => ⟨before, c :: t⟩ :: onward (some c) t

/-- All spots of a text. -/
def all (t : Text) : List Spot := onward none t

end Spot

namespace Anchor

/-- Whether the condition holds at a spot. -/
def holds (s : Spot) : Anchor → Bool
  | textStart => s.before.isNone
  | textEnd => s.rest.isEmpty
  | lineStart false => s.before.isNone || s.before == some '\n'
  | lineStart true =>
    s.before.isNone || s.before == some '\n' ||
      (s.before == some '\r' && s.rest.head? != some '\n')
  | lineEnd false => s.rest.isEmpty || s.rest.head? == some '\n'
  | lineEnd true =>
    s.rest.isEmpty || s.rest.head? == some '\r' ||
      (s.rest.head? == some '\n' && s.before != some '\r')
  | word edge ascii =>
    let set := if ascii then CharSet.asciiWord else CharSet.word
    let before := s.before.any set.contains
    let after := s.rest.head?.any set.contains
    match edge with
    | .boundary => before != after
    | .noBoundary => before == after
    | .start => !before && after
    | .stop => before && !after
    | .startHalf => !before
    | .stopHalf => !after

end Anchor

namespace Pattern

/-! ## Sets of spots -/

/-- Adds the spots of the first list that are not yet in the second. -/
def merge (new old : List Spot) : List Spot :=
  new.foldr (fun s spots => if spots.any (·.rest.length == s.rest.length) then spots
    else s :: spots) old

/-- Applies `step` a number of times. -/
def repeated (step : List Spot → List Spot) : Nat → List Spot → List Spot
  | 0, spots => spots
  | n + 1, spots => repeated step n (step spots)

/-- The spots reached in up to the given number of steps. -/
def reached (step : List Spot → List Spot) (bound : Nat) (spots : List Spot) : List Spot :=
  repeated (fun spots => merge (step spots) spots) bound spots

/-- The length of the longest rest of a spot. After so many steps no new spot is reached. -/
def span (spots : List Spot) : Nat := spots.foldl (fun n s => max n s.rest.length) 0

/-- The spots at which a match that starts at one of the given spots ends. -/
def ends : Pattern → List Spot → List Spot
  | empty, spots => spots
  | char set, spots => spots.filterMap (Spot.step? set)
  | anchor a, spots => spots.filter a.holds
  | seq p q, spots => q.ends (p.ends spots)
  | alt p q, spots => merge (p.ends spots) (q.ends spots)
  | times p least most, spots =>
    let start := repeated (fun spots => p.ends spots) least spots
    let bound :=
      match most with
      | none => span start
      | some most => min (most - least) (span start)
    reached (fun spots => p.ends spots) bound start

/-! ## Matching -/

/-- Whether a match starts at the first spot of the text. -/
def matchesAtStart (p : Pattern) (t : Text) : Bool := !(p.ends [Spot.first t]).isEmpty

/-- Whether a match starts anywhere in the text. -/
def matchesAnywhere (p : Pattern) (t : Text) : Bool := !(p.ends (Spot.all t)).isEmpty

/-- Whether a match takes the whole text. -/
def matchesAll (p : Pattern) (t : Text) : Bool := (p.ends [Spot.first t]).any (·.rest.isEmpty)

end Pattern

end CatalogLint
