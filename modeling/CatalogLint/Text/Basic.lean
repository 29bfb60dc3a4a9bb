/-!
# Text

Everything the library reads and writes is a `Text`, the list of its characters, so
that each function on it recurses on the data and each property of it is an induction.

* `after?` removes a mark from the front, `occursIn` looks for one anywhere, and
  `splitAtFirst?` cuts at its first occurrence.
* `ofNat` and `ofInt` write numbers in decimal.
* `utf8Length` is the number of bytes that a text takes in UTF-8.
-/

namespace CatalogLint

/-- A text is the list of its characters. -/
abbrev Text := List Char

/-- A string literal stands for the text of its characters. -/
instance : Coe String Text := ⟨String.toList⟩

namespace Text

/-! ## Marks -/

/-- What follows `mark` at the front of a text, if the text starts with it. -/
def after? : Text → (mark : Text) → Option Text
  | t, [] => some t
  | [], _ :: _ => none
  | c :: t, m :: mark => if m = c then after? t mark else none

/-- Whether the text starts with `mark`. -/
def startsWith (t mark : Text) : Bool := mark.isPrefixOf t

/-- Whether the text ends with `mark`. -/
def endsWith (t mark : Text) : Bool := mark.isSuffixOf t

/-- Whether `mark` stands somewhere in the text. -/
def occursIn (mark : Text) : Text → Bool
  | [] => mark.isEmpty
  | c :: t => mark.isPrefixOf (c :: t) || occursIn mark t

/-- The texts before and after the first occurrence of `mark`. -/
def splitAtFirst? (t mark : Text) : Option (Text × Text) :=
  match t with
  | [] => if mark.isEmpty then some ([], []) else none
  | c :: t =>
    match after? (c :: t) mark with
    | some rest => some ([], rest)
    | none => (splitAtFirst? t mark).map fun (before, rest) => (c :: before, rest)

/-- The text without the characters at its end that satisfy `p`. -/
def dropEndWhile (p : Char → Bool) (t : Text) : Text :=
  (t.reverse.dropWhile p).reverse

/-- The text without its last character if that is `c`. -/
def dropLastIf (c : Char) (t : Text) : Text :=
  if t.getLast? = some c then t.dropLast else t

/-- The pieces between the occurrences of `separator`; a text without it is one piece. -/
def pieces (separator : Char) : Text → List Text
  | [] => [[]]
  | c :: t =>
    if c = separator then [] :: pieces separator t
    else
      match pieces separator t with
      | [] => [[c]]
      | piece :: rest => (c :: piece) :: rest

/-- The pieces joined by `separator`. -/
def join (separator : Text) (pieces : List Text) : Text :=
  (pieces.intersperse separator).flatten

/-! ## Numbers and sizes -/

/-- A natural number in decimal. -/
def ofNat (n : Nat) : Text := Nat.toDigits 10 n

/-- An integer in decimal, with a minus sign when it is negative. -/
def ofInt : Int → Text
  | .ofNat n => ofNat n
  | .negSucc n => '-' :: ofNat (n + 1)

/-- The number of bytes of the text in UTF-8. -/
def utf8Length : Text → Nat
  | [] => 0
  | c :: t => c.utf8Size + utf8Length t

/-- `n` copies of a character. -/
def fill (c : Char) (n : Nat) : Text := List.replicate n c

/-! ## Lemmas -/

@[simp] theorem after?_append (mark t : Text) : after? (mark ++ t) mark = some t := by
  induction mark with
  | nil => cases t <;> rfl
  | cons m mark ih => simp [after?, ih]

/-- Removing a mark succeeds on exactly the texts that start with it. -/
theorem after?_eq_some_iff {mark t rest : Text} :
    after? t mark = some rest ↔ t = mark ++ rest := by
  constructor
  · intro h
    induction mark generalizing t with
    | nil => cases t <;> simpa [after?] using h
    | cons m mark ih =>
      cases t with
      | nil => simp [after?] at h
      | cons c t =>
        by_cases hc : m = c
        · subst hc
          simp only [after?, if_true] at h
          simp [ih h]
        · simp [after?, hc] at h
  · rintro rfl
    simp

end Text

end CatalogLint
