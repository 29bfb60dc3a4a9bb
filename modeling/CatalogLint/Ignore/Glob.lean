import CatalogLint.Pattern.Basic

/-!
# Globs

A glob describes paths: `?` stands for a byte and `*` for any number of bytes of a name, `**`
for any number of directories, `[…]` for a byte of a class and `{…,…}` for one of several
globs. All of them speak of bytes, so a glob is read into a `Pattern` over texts in which each
character stands for a byte, as `Glob.bytes` writes them.

* `Glob.pattern?` reads a glob; `none` is a glob with an open group, a group closed twice, a
  reversed range or a backslash at its end. A bracket without its partner is a plain character.
* `Glob.matchesPath` asks whether a glob describes a whole path.
-/

namespace CatalogLint.Glob

/-- The bytes of a text in UTF-8, each as the character of that number. -/
def bytes (t : Text) : Text :=
  t.flatMap fun c => (String.utf8EncodeChar c).map fun b => Char.ofNat b.toNat

/-- A piece of a glob. -/
inductive Piece where
  /-- A part that has become a pattern. -/
  | plain (p : Pattern)
  /-- Directories in front of the rest of the path, or none. -/
  | leading
  /-- Something below the directory that the glob describes so far. -/
  | trailing
  /-- A slash, with or without directories behind it. -/
  | between
  deriving DecidableEq, Repr

namespace Piece

/-- A slash. -/
def slash : Pattern := .char (.single '/')

/-- Any text. -/
def anything : Pattern := .times (.char .any) 0 none

/-- A byte other than a slash. -/
def one : Pattern := .char (.compl (.single '/'))

/-- Any number of bytes other than slashes. -/
def many : Pattern := .times one 0 none

/-- The paths that a piece describes. -/
def pattern : Piece → Pattern
  | plain p => p
  | leading => .alt (.times slash 0 (some 1)) (.seq anything slash)
  | trailing => .seq slash anything
  | between => .alt slash (.seq slash (.seq anything slash))

/-- The bytes of a character, in sequence. -/
def literal (c : Char) : Piece :=
  plain ((bytes [c]).foldr (fun b p => .seq (.char (.single b)) p) .empty)

end Piece

/-! ## Classes -/

/-- The bytes of a range of a class: the last byte of the first character up to the first byte
of the last one, and the other bytes of both. -/
def rangeBytes (range : Char × Char) : CharSet :=
  let first := bytes [range.1]
  let last := bytes [range.2]
  if range.1 = range.2 then .ofText first
  else
    .unions [.ofText first.dropLast,
      .range (first.getLast?.getD range.1) (last.head?.getD range.2), .ofText last.tail]

/-- What comes of the text behind an opening bracket. -/
inductive ClassResult where
  /-- A class, and the text behind it. -/
  | closed (set : CharSet) (rest : Text)
  /-- No bracket closes the class. -/
  | unclosed
  /-- A range ends before it starts. -/
  | reversed
  deriving DecidableEq, Repr

/-- Reads a class, where `ranges` are the ranges read so far, the last first, and `dash` tells
whether a dash waits for the end of a range. Only the first character of a class may be a
closing bracket that does not close it. -/
def readRanges (negated : Bool) (ranges : List (Char × Char)) (dash : Bool) :
    Text → ClassResult
  | [] => .unclosed
  | c :: t =>
    match ranges with
    | [] => readRanges negated [(c, c)] false t
    | (first, last) :: others =>
      if c = ']' then
        let all := if dash then ('-', '-') :: ranges else ranges
        .closed (.negateIf negated (.unions (all.map rangeBytes))) t
      else if dash then
        if c < first then .reversed
        else readRanges negated ((first, c) :: others) false t
      else if c = '-' then readRanges negated ((first, last) :: others) true t
      else readRanges negated ((c, c) :: ranges) false t

/-- Reads a class behind its opening bracket. -/
def readClass : Text → ClassResult
  | '!' :: t => readRanges true [] false t
  | '^' :: t => readRanges true [] false t
  | t => readRanges false [] false t

/-! ## Groups -/

/-- What has been read of a group, or of the glob outside all groups. -/
structure Branches where
  /-- The alternatives that are complete, the last first. -/
  done : List (List Piece) := []
  /-- The pieces of the alternative at hand, the last first. -/
  current : List Piece := []
  deriving DecidableEq, Repr

/-- The pieces of an alternative, the last first, in sequence. -/
def sequence (pieces : List Piece) : Pattern :=
  pieces.foldl (fun rest piece => if piece = .plain .empty then rest
    else .seq piece.pattern rest) .empty

/-- One of several patterns; those that describe only the empty text do not count, and without
any other the whole describes that alone. -/
def choice : List Pattern → Pattern
  | [] => .empty
  | p :: rest =>
    if p = .empty then choice rest
    else
      match choice rest with
      | .empty => p
      | q => .alt p q

namespace Branches

/-- Adds a piece to the alternative at hand. -/
def push (b : Branches) (piece : Piece) : Branches := { b with current := piece :: b.current }

/-- Starts the next alternative. -/
def split (b : Branches) : Branches := { done := b.current :: b.done }

/-- The alternatives as a pattern. -/
def close (b : Branches) : Pattern := choice ((b.current :: b.done).reverse.map sequence)

/-- Puts a piece for directories in the place of the slash in front of it. A piece for
directories at the start or the end of a path stays. -/
def replaceSlash (b : Branches) (piece : Piece) : Branches :=
  match b.current with
  | .leading :: _ => b
  | .trailing :: _ => b
  | _ :: others => { b with current := piece :: others }
  | [] => b

end Branches

/-! ## Reading -/

/-- The state of the reader. -/
structure Reader where
  /-- The innermost open group. -/
  inner : Branches := {}
  /-- The groups around it, the innermost first. -/
  outer : List Branches := []
  /-- The character read last. -/
  before : Option Char := none
  /-- Whether brackets are plain characters, after one without a partner. -/
  plainBrackets : Bool := false
  deriving DecidableEq, Repr

namespace Reader

/-- Adds a piece, read up to the character `c`. -/
def push (r : Reader) (c : Char) (piece : Piece) : Reader :=
  { r with inner := r.inner.push piece, before := some c }

/-- Adds two stars that speak of names alone. -/
def pushStars (r : Reader) : Reader :=
  (r.push '*' (.plain Piece.many)).push '*' (.plain Piece.many)

/-- Whether two stars that follow speak of directories: they stand behind a slash or at the
start of an alternative. -/
def atBoundary (r : Reader) : Bool :=
  r.before == some '/' ||
    (!r.outer.isEmpty && (r.before == some ',' || r.before == some '\x7b'))

/-- Whether an alternative ends in front of the text. -/
def endsBranch (r : Reader) : Text → Bool
  | [] => true
  | c :: _ => !r.outer.isEmpty && (c == ',' || c == '\x7d')

/-- Reads two stars, given the text behind them, and leaves the text that is still to read. -/
def readStars (r : Reader) (rest : Text) : Reader × Text :=
  if r.inner.current.isEmpty then
    match rest with
    | [] => (r.push '*' .leading, [])
    | '/' :: rest => (r.push '/' .leading, rest)
    | _ => (r.pushStars, rest)
  else if !r.atBoundary then (r.pushStars, rest)
  else if r.endsBranch rest then
    ({ r with inner := r.inner.replaceSlash .trailing, before := some '*' }, rest)
  else
    match rest with
    | '/' :: rest => ({ r with inner := r.inner.replaceSlash .between, before := some '/' }, rest)
    | _ => (r.pushStars, rest)

/-- Opens a group. -/
def openGroup (r : Reader) : Reader :=
  { r with inner := {}, outer := r.inner :: r.outer, before := some '\x7b' }

/-- Closes the group at hand. -/
def closeGroup? (r : Reader) : Option Reader :=
  match r.outer with
  | [] => none
  | parent :: outer =>
    some { r with inner := parent.push (.plain r.inner.close), outer, before := some '\x7d' }

/-- Reads one piece and leaves the text that is still to read. -/
def step? (r : Reader) (c : Char) (t : Text) : Option (Reader × Text) :=
  match c with
  | '?' => some (r.push '?' (.plain Piece.one), t)
  | '*' =>
    match t with
    | '*' :: rest => some (r.readStars rest)
    | _ => some (r.push '*' (.plain Piece.many), t)
  | '[' =>
    if r.plainBrackets then some (r.push '[' (Piece.literal '['), t)
    else
      match readClass t with
      | .closed set rest => some (r.push ']' (.plain (.char set)), rest)
      | .unclosed => some (({ r with plainBrackets := true }).push '[' (Piece.literal '['), t)
      | .reversed => none
  | '\x7b' => some (r.openGroup, t)
  | '\x7d' => r.closeGroup?.map (·, t)
  | ',' =>
    if r.outer.isEmpty then some (r.push ',' (Piece.literal ','), t)
    else some ({ r with inner := r.inner.split, before := some ',' }, t)
  | '\\' =>
    match t with
    | [] => none
    | d :: rest => some (r.push d (Piece.literal d), rest)
  | c => some (r.push c (Piece.literal c), t)

/-- Reads a text to its end. Each step takes at least one character, so `fuel` is enough when
it is the length of the text. -/
def read? (fuel : Nat) (r : Reader) : Text → Option Reader
  | [] => some r
  | c :: t =>
    match fuel with
    | 0 => none
    | fuel + 1 =>
      match r.step? c t with
      | none => none
      | some (r, rest) => read? fuel r rest

end Reader

/-- The pattern of a glob. A glob that asks for directories and nothing else describes every
path. -/
def pattern? (glob : Text) : Option Pattern :=
  match ({} : Reader).read? glob.length glob with
  | none => none
  | some r =>
    if !r.outer.isEmpty then none
    else if r.inner.current = [.leading] then some Piece.anything
    else some (sequence r.inner.current)

/-- Whether a pattern of a glob describes a whole path. -/
def matchesPath (p : Pattern) (path : Text) : Bool := p.matchesAll (bytes path)

end CatalogLint.Glob
