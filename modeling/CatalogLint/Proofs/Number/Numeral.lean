import CatalogLint.Proofs.Number.Decimal

/-!
# The grammar of decimal numbers

A text writes a decimal number (`Decimal.Writes`) if it is a sign, a mantissa and an exponent, where
only the mantissa has to be there: digits, with at most one point and at least one digit. These are
the texts that `Decimal.ofText?` reads, and with these numbers (`ofText?_eq_some_iff`). The readers
of the three parts take as much as they can and do not go back; they do not need to, since what a part
ends with and what the next one starts with are different characters.
-/

namespace CatalogLint.Decimal

/-! ## The parts of a number -/

/-- A sign, and whether it makes a number negative. -/
inductive IsSign : Text → Bool → Prop
  | none : IsSign [] false
  | plus : IsSign ['+'] false
  | minus : IsSign ['-'] true

/-- A text of digits. -/
def IsDigits (t : Text) : Prop := ∀ c ∈ t, isDigit c = true

instance (t : Text) : Decidable (IsDigits t) := List.decidableBAll (isDigit · = true) t

/-- Digits, among them perhaps a point, and the digits in front of it and behind it. -/
inductive IsMantissa : (t whole fraction : Text) → Prop
  | integer {whole : Text} (hwhole : IsDigits whole) (hne : whole ≠ []) :
      IsMantissa whole whole []
  | point {whole fraction : Text} (hwhole : IsDigits whole) (hfraction : IsDigits fraction)
      (hne : whole ++ fraction ≠ []) : IsMantissa (whole ++ '.' :: fraction) whole fraction

/-- A power of ten and its exponent. -/
inductive IsExponent : Text → Int → Prop
  | none : IsExponent [] 0
  | power {letter : Char} {sign digits : Text} {negative : Bool}
      (hletter : letter = 'e' ∨ letter = 'E') (hsign : IsSign sign negative)
      (hdigits : IsDigits digits) (hne : digits ≠ []) :
      IsExponent (letter :: (sign ++ digits))
        (if negative then -(digitsValue digits : Int) else digitsValue digits)

/-- A text writes a decimal number. -/
inductive Writes : Text → Decimal → Prop
  | intro {sign mantissa whole fraction power : Text} {negative : Bool} {exponent : Int}
      (hsign : IsSign sign negative) (hmantissa : IsMantissa mantissa whole fraction)
      (hpower : IsExponent power exponent) :
      Writes (sign ++ (mantissa ++ power))
        ⟨negative, digitsValue (whole ++ fraction), exponent - fraction.length⟩

/-! ## Signs -/

variable {t sign rest whole fraction : Text} {negative : Bool}

/-- A sign is taken off what does not start with another one. -/
theorem readSign_append (hsign : IsSign sign negative) (hplus : rest.head? ≠ some '+')
    (hminus : rest.head? ≠ some '-') : readSign (sign ++ rest) = (negative, rest) := by
  cases hsign with
  | none =>
    rw [List.nil_append, readSign]
    · rintro t rfl
      exact hminus rfl
    · rintro t rfl
      exact hplus rfl
  | plus => rfl
  | minus => rfl

theorem exists_readSign (t : Text) :
    ∃ sign, IsSign sign (readSign t).1 ∧ t = sign ++ (readSign t).2 := by
  unfold readSign
  split
  · exact ⟨_, .minus, rfl⟩
  · exact ⟨_, .plus, rfl⟩
  · exact ⟨_, .none, rfl⟩

/-- What starts with a digit or a point starts with no sign. -/
theorem head?_ne_sign {c : Char} (hc : rest.head? = some c) (hstart : isDigit c = true ∨ c = '.') :
    rest.head? ≠ some '+' ∧ rest.head? ≠ some '-' := by
  rw [hc]
  constructor
  · rintro h
    rw [Option.some.inj h] at hstart
    exact absurd hstart (by decide)
  · rintro h
    rw [Option.some.inj h] at hstart
    exact absurd hstart (by decide)

theorem IsDigits.exists_head? (h : IsDigits t) (hne : t ≠ []) :
    ∃ c, t.head? = some c ∧ isDigit c = true := by
  cases t with
  | nil => exact absurd rfl hne
  | cons c t => exact ⟨c, rfl, h c List.mem_cons_self⟩

/-! ## Exponents -/

/-- No exponent starts with a digit or a point. -/
theorem IsExponent.head?_cases {power : Text} {exponent : Int} (h : IsExponent power exponent)
    {c : Char} (hc : power.head? = some c) : isDigit c = false ∧ c ≠ '.' := by
  cases h with
  | none => cases hc
  | power hletter _ _ _ =>
    obtain rfl := Option.some.inj hc
    rcases hletter with rfl | rfl
    · decide
    · decide

theorem readExponent?_eq_some_iff {exponent : Int} :
    readExponent? t = some exponent ↔ IsExponent t exponent := by
  constructor
  · intro h
    cases t with
    | nil =>
      obtain rfl := Option.some.inj h
      exact .none
    | cons letter t =>
      rw [readExponent?] at h
      split at h
      · rename_i hletter
        obtain ⟨sign, hsign, ht⟩ := exists_readSign t
        generalize readSign t = read at h hsign ht
        obtain ⟨negative, digits⟩ := read
        dsimp only at h hsign ht
        split at h
        · rename_i hdigits
          rw [Bool.and_eq_true, Bool.not_eq_true', List.isEmpty_eq_false_iff, List.all_eq_true]
            at hdigits
          obtain rfl := Option.some.inj h
          rw [ht]
          exact .power (by simpa using hletter) hsign hdigits.2 hdigits.1
        · cases h
      · cases h
  · intro h
    cases h with
    | none => rfl
    | @power letter sign digits negative hletter hsign hdigits hne =>
      obtain ⟨c, hc, hdigit⟩ := hdigits.exists_head? hne
      obtain ⟨hplus, hminus⟩ := head?_ne_sign hc (Or.inl hdigit)
      have hall : digits.all isDigit = true := List.all_eq_true.mpr hdigits
      have hnonempty : digits.isEmpty = false := List.isEmpty_eq_false_iff.mpr hne
      rw [readExponent?, if_pos (by simpa using hletter), readSign_append hsign hplus hminus]
      simp [hall, hnonempty]

/-! ## Mantissas -/

/-- Digits are taken as far as they go. -/
theorem span_isDigit (hdigits : IsDigits t)
    (hrest : ∀ c, rest.head? = some c → isDigit c = false) :
    (t ++ rest).takeWhile isDigit = t ∧ (t ++ rest).dropWhile isDigit = rest := by
  rw [List.takeWhile_append_of_pos hdigits, List.dropWhile_append_of_pos hdigits]
  cases rest with
  | nil => simp
  | cons c rest => simp [hrest c rfl]

theorem readDigits_append {mantissa power : Text} {exponent : Int}
    (hmantissa : IsMantissa mantissa whole fraction) (hpower : IsExponent power exponent) :
    readDigits (mantissa ++ power) = (whole, fraction, power) := by
  have hstop : ∀ c, power.head? = some c → isDigit c = false := fun c hc => (hpower.head?_cases hc).1
  cases hmantissa with
  | integer hwhole _ =>
    obtain ⟨htake, hdrop⟩ := span_isDigit hwhole hstop
    rw [readDigits, htake, hdrop]
    split
    · exact absurd rfl (hpower.head?_cases rfl).2
    · rfl
  | point hwhole hfraction _ =>
    obtain ⟨htake, hdrop⟩ := span_isDigit hfraction hstop
    have hpoint : ∀ c, ('.' :: (fraction ++ power)).head? = some c → isDigit c = false := by
      intro c hc
      rw [← Option.some.inj hc]
      decide
    obtain ⟨htake', hdrop'⟩ := span_isDigit hwhole hpoint
    rw [List.append_assoc, List.cons_append, readDigits, htake', hdrop']
    simp only [htake, hdrop]

/-- What is read in front of the exponent is a mantissa, if there is a digit in it. -/
theorem exists_readDigits {tail : Text} (h : readDigits t = (whole, fraction, tail))
    (hne : whole ++ fraction ≠ []) :
    ∃ mantissa, IsMantissa mantissa whole fraction ∧ t = mantissa ++ tail := by
  have hsplit := t.takeWhile_append_dropWhile (p := isDigit)
  have hdigits : ∀ s : Text, IsDigits (s.takeWhile isDigit) := fun s c hc => List.mem_takeWhile_imp hc
  rw [readDigits] at h
  split at h
  · rename_i rest hdrop
    obtain ⟨rfl, hrest⟩ := Prod.mk.inj h
    obtain ⟨rfl, rfl⟩ := Prod.mk.inj hrest
    refine ⟨_, .point (hdigits t) (hdigits rest) hne, ?_⟩
    rw [List.append_assoc, List.cons_append, List.takeWhile_append_dropWhile, ← hdrop, hsplit]
  · obtain ⟨rfl, hrest⟩ := Prod.mk.inj h
    obtain ⟨rfl, rfl⟩ := Prod.mk.inj hrest
    rw [List.append_nil] at hne
    exact ⟨_, .integer (hdigits t) hne, hsplit.symm⟩

/-! ## Numbers -/

theorem IsMantissa.exists_head? {mantissa : Text} (h : IsMantissa mantissa whole fraction) :
    ∃ c, mantissa.head? = some c ∧ (isDigit c = true ∨ c = '.') := by
  cases h with
  | integer hwhole hne =>
    obtain ⟨c, hc, hdigit⟩ := hwhole.exists_head? hne
    exact ⟨c, hc, Or.inl hdigit⟩
  | point hwhole _ _ =>
    cases whole with
    | nil => exact ⟨'.', rfl, Or.inr rfl⟩
    | cons c whole => exact ⟨c, rfl, Or.inl (hwhole c List.mem_cons_self)⟩

theorem IsMantissa.append_ne_nil {mantissa : Text} (h : IsMantissa mantissa whole fraction) :
    whole ++ fraction ≠ [] := by
  cases h with
  | integer _ hne => rwa [List.append_nil]
  | point _ _ hne => exact hne

/-- The texts that are read as numbers are those that write them. -/
theorem ofText?_eq_some_iff {x : Decimal} : ofText? t = some x ↔ Writes t x := by
  constructor
  · intro h
    obtain ⟨sign, hsign, ht⟩ := exists_readSign t
    rw [ofText?] at h
    generalize readSign t = read at h hsign ht
    obtain ⟨negative, body⟩ := read
    obtain ⟨whole, fraction, tail, hread⟩ : ∃ whole fraction tail,
        readDigits body = (whole, fraction, tail) := ⟨_, _, _, rfl⟩
    simp only [hread] at h hsign ht
    split at h
    · cases h
    · rename_i hempty
      have hne : whole ++ fraction ≠ [] := by
        simpa [List.append_eq_nil_iff] using hempty
      obtain ⟨mantissa, hmantissa, hbody⟩ := exists_readDigits hread hne
      obtain ⟨exponent, hexponent, rfl⟩ := Option.map_eq_some_iff.mp h
      rw [ht, hbody]
      exact .intro hsign hmantissa (readExponent?_eq_some_iff.mp hexponent)
  · rintro ⟨hsign, hmantissa, hpower⟩
    rename_i sign mantissa whole fraction power negative exponent
    obtain ⟨c, hc, hstart⟩ := hmantissa.exists_head?
    have hhead : (mantissa ++ power).head? = some c := by
      rw [List.head?_append, hc, Option.some_or]
    obtain ⟨hplus, hminus⟩ := head?_ne_sign hhead hstart
    have hempty : ¬ (whole.isEmpty && fraction.isEmpty) = true := by
      simpa [List.append_eq_nil_iff] using hmantissa.append_ne_nil
    rw [ofText?, readSign_append hsign hplus hminus]
    simp only [readDigits_append hmantissa hpower, if_neg hempty,
      readExponent?_eq_some_iff.mpr hpower, Option.map_some]

/-- A natural number is written by its digits, with zeros in front or without. -/
theorem writes_ofNat (zeros n : Nat) :
    Writes (Text.fill '0' zeros ++ Text.ofNat n) ⟨false, n, 0⟩ := by
  have hdigits : IsDigits (Text.fill '0' zeros ++ Text.ofNat n) := by
    refine List.forall_mem_append.mpr ⟨fun c hc => ?_, fun c => Text.isDigit_of_mem_ofNat⟩
    rw [List.eq_of_mem_replicate hc]
    decide
  have hne : Text.fill '0' zeros ++ Text.ofNat n ≠ [] :=
    List.append_ne_nil_of_right_ne_nil _ Nat.toDigits_ne_nil
  have hwrites := Writes.intro .none (.integer hdigits hne) .none
  rwa [List.append_nil, digitsValue_fill_append, digitsValue_ofNat] at hwrites

end CatalogLint.Decimal
