import CatalogLint.Proofs.Number.Conversion
import CatalogLint.Proofs.Number.Numeral
import CatalogLint.Rule.Options

/-!
# The grammar of thresholds

A threshold is written as a decimal number, with a percent sign behind it for a percentage, and with
white space around either (`Threshold.Written`). These are the texts that are read as thresholds
(`ofText?_of_written`, `exists_written`) unless their numbers overflow, and the threshold is the
nearest double (`requirement_exact`).

A natural number of at most 53 bits is such a threshold as it is, with zeros in front or without, and
a catalogue meets it with that many translated messages and no less (`isMet_iff`): the number of
translated messages is a double itself if it is less, and if it is not it is rounded to a double that
is not less either.
-/

namespace CatalogLint

namespace Decimal

/-- There is neither white space nor a percent sign in a text. -/
def Plain (t : Text) : Prop := ∀ c ∈ t, isSpace c = false ∧ c ≠ '%'

variable {t : Text} {c : Char}

theorem Plain.append {s : Text} (hs : Plain s) (ht : Plain t) : Plain (s ++ t) :=
  List.forall_mem_append.mpr ⟨hs, ht⟩

theorem Plain.cons (hc : isSpace c = false ∧ c ≠ '%') (ht : Plain t) : Plain (c :: t) :=
  List.forall_mem_cons.mpr ⟨hc, ht⟩

theorem IsSign.plain {negative : Bool} (h : IsSign t negative) : Plain t := by
  cases h with
  | none => exact nofun
  | plus => exact Plain.cons (by decide) nofun
  | minus => exact Plain.cons (by decide) nofun

theorem IsDigits.plain (h : IsDigits t) : Plain t := by
  intro c hc
  refine ⟨Text.isSpace_of_isDigit (h c hc), ?_⟩
  rintro rfl
  exact absurd (h '%' hc) (by decide)

theorem IsMantissa.plain {whole fraction : Text} (h : IsMantissa t whole fraction) : Plain t := by
  cases h with
  | integer hwhole _ => exact hwhole.plain
  | point hwhole hfraction _ => exact hwhole.plain.append (Plain.cons (by decide) hfraction.plain)

theorem IsExponent.plain {exponent : Int} (h : IsExponent t exponent) : Plain t := by
  cases h with
  | none => exact nofun
  | power hletter hsign hdigits _ =>
    refine Plain.cons ?_ (hsign.plain.append hdigits.plain)
    rcases hletter with rfl | rfl
    · decide
    · decide

theorem Writes.plain {x : Decimal} (h : Writes t x) : Plain t := by
  obtain ⟨hsign, hmantissa, hpower⟩ := h
  exact hsign.plain.append (hmantissa.plain.append hpower.plain)

theorem Writes.trim_eq {x : Decimal} (h : Writes t x) : t.trim = t :=
  Text.trim_eq_self fun c hc => (h.plain c hc).1

theorem Writes.ne_nil {x : Decimal} (h : Writes t x) : t ≠ [] := by
  obtain ⟨-, hmantissa, -⟩ := h
  obtain ⟨c, hc, -⟩ := hmantissa.exists_head?
  intro hnil
  rw [List.append_eq_nil_iff, List.append_eq_nil_iff] at hnil
  rw [hnil.2.1] at hc
  cases hc

end Decimal

namespace Threshold

/-- A text writes a threshold, as a number or as a percentage. -/
inductive Written : Text → Bool → Decimal → Prop
  | number {front numeral back : Text} {x : Decimal} (hfront : front.isBlank = true)
      (hback : back.isBlank = true) (hnumeral : Decimal.Writes numeral x) :
      Written (front ++ (numeral ++ back)) false x
  | percentage {front numeral gap back : Text} {x : Decimal} (hfront : front.isBlank = true)
      (hgap : gap.isBlank = true) (hback : back.isBlank = true)
      (hnumeral : Decimal.Writes numeral x) :
      Written (front ++ (numeral ++ (gap ++ '%' :: back))) true x

variable {text : Text} {percent : Bool} {x : Decimal} {t : Threshold}

/-! ## Texts -/

theorem percentage?_eq_some_iff {number : Text} :
    percentage? text = some number ↔ text = number ++ ['%'] := by
  rw [percentage?]
  constructor
  · intro h
    split at h
    · rename_i hlast
      obtain ⟨front, rfl⟩ := List.getLast?_eq_some_iff.mp hlast
      rw [List.dropLast_concat] at h
      rw [Option.some.inj h]
    · cases h
  · rintro rfl
    simp

/-- The number of a text that writes one, perhaps with white space behind it. -/
theorem number?_of_writes {numeral gap : Text} (hnumeral : Decimal.Writes numeral x)
    (hgap : gap.isBlank = true) : number? (numeral ++ gap) = Binary64.ofDecimal x := by
  have htrim : Text.trim (numeral ++ gap) = numeral := by
    rw [← List.nil_append (numeral ++ gap), Text.trim_append rfl hgap, hnumeral.trim_eq]
  rw [number?, htrim, Decimal.ofText?_eq_some_iff.mpr hnumeral, Option.bind_some]

/-- A text that writes a threshold is read as the number in it, rounded. -/
theorem ofText?_of_written (h : Written text percent x) :
    ofText? text = (Binary64.ofDecimal x).map (⟨percent, ·⟩) := by
  cases h with
  | @number front numeral back _ hfront hback hnumeral =>
    have hnone : percentage? numeral = none := by
      rw [Option.eq_none_iff_forall_ne_some]
      intro number hnumber
      rw [percentage?_eq_some_iff] at hnumber
      exact (hnumeral.plain '%' (by simp [hnumber])).2 rfl
    rw [ofText?, Text.trim_append hfront hback, hnumeral.trim_eq, hnone]
    dsimp only
    rw [← List.append_nil numeral, number?_of_writes hnumeral rfl]
  | @percentage front numeral gap back _ hfront hgap hback hnumeral =>
    have htrim : Text.trim (numeral ++ gap ++ ['%']) = numeral ++ gap ++ ['%'] := by
      obtain ⟨c, rest, hc⟩ := List.exists_cons_of_ne_nil hnumeral.ne_nil
      refine Text.trim_eq_self_of_ends (c := c) ?_ (hnumeral.plain c (by simp [hc])).1
        List.getLast?_concat (by decide)
      simp [hc]
    have hsplit : numeral ++ (gap ++ '%' :: back) = (numeral ++ gap ++ ['%']) ++ back := by simp
    rw [ofText?, hsplit, Text.trim_append hfront hback, htrim, percentage?_eq_some_iff.mpr rfl]
    dsimp only
    rw [number?_of_writes hnumeral hgap]

/-- What is read as a number is one, perhaps with white space around it. -/
theorem exists_writes {number : Text} {value : Binary64} (h : number? number = some value) :
    ∃ front numeral back x, front.isBlank = true ∧ back.isBlank = true ∧
      Decimal.Writes numeral x ∧ number = front ++ (numeral ++ back) ∧
      Binary64.ofDecimal x = some value := by
  obtain ⟨x, hx, hvalue⟩ := Option.bind_eq_some_iff.mp h
  obtain ⟨front, back, hfront, hback, hnumber⟩ := Text.exists_trim number
  exact ⟨front, _, back, x, hfront, hback, Decimal.ofText?_eq_some_iff.mp hx, hnumber, hvalue⟩

theorem isBlank_append {front back : Text} (hfront : front.isBlank = true)
    (hback : back.isBlank = true) : Text.isBlank (front ++ back) = true := by
  rw [Text.isBlank] at hfront hback ⊢
  rw [List.all_append, hfront, hback, Bool.and_self]

/-- A text that is read as a threshold writes one. -/
theorem exists_written (h : ofText? text = some t) :
    ∃ x, Written text t.percent x ∧ Binary64.ofDecimal x = some t.value := by
  obtain ⟨front, back, hfront, hback, htext⟩ := Text.exists_trim text
  rw [ofText?] at h
  split at h
  · rename_i number hpercent
    obtain ⟨value, hnumber, rfl⟩ := Option.map_eq_some_iff.mp h
    obtain ⟨front', numeral, gap, x, hfront', hgap, hnumeral, rfl, hvalue⟩ := exists_writes hnumber
    have hall : text = (front ++ front') ++ (numeral ++ (gap ++ '%' :: back)) := by
      rw [htext, percentage?_eq_some_iff.mp hpercent]
      simp
    rw [hall]
    exact ⟨x, .percentage (isBlank_append hfront hfront') hgap hback hnumeral, hvalue⟩
  · obtain ⟨value, hnumber, rfl⟩ := Option.map_eq_some_iff.mp h
    obtain ⟨front', numeral, back', x, hfront', hback', hnumeral, htrim, hvalue⟩ :=
      exists_writes hnumber
    have hall : text = (front ++ front') ++ (numeral ++ (back' ++ back)) := by
      rw [htext, htrim]
      simp
    rw [hall]
    exact ⟨x, .number (isBlank_append hfront hfront') (isBlank_append hback' hback) hnumeral, hvalue⟩

/-- The threshold that a text writes, unless the number in it overflows. -/
theorem exists_ofText? (h : Written text percent x) (hlt : x.magnitude < Binary64.limit) :
    ∃ t, ofText? text = some t ∧ t.percent = percent ∧ t.value.negative = x.negative ∧
      Binary64.Rounds x.magnitude t.value := by
  obtain ⟨value, hvalue, hnegative, hrounds⟩ := Binary64.exists_ofDecimal_rounds hlt
  refine ⟨⟨percent, value⟩, ?_, rfl, hnegative, hrounds⟩
  rw [ofText?_of_written h, hvalue, Option.map_some]

/-- The texts that are read as thresholds. -/
theorem isSome_ofText?_iff :
    (∃ t, ofText? text = some t) ↔
      ∃ percent x, Written text percent x ∧ x.magnitude < Binary64.limit := by
  constructor
  · rintro ⟨t, ht⟩
    obtain ⟨x, hwritten, hvalue⟩ := exists_written ht
    refine ⟨t.percent, x, hwritten, ?_⟩
    by_contra hle
    rw [Binary64.ofDecimal_eq_none (not_lt.mp hle)] at hvalue
    cases hvalue
  · rintro ⟨percent, x, hwritten, hlt⟩
    obtain ⟨t, ht, -⟩ := exists_ofText? hwritten hlt
    exact ⟨t, ht⟩

/-- A natural number of at most 53 bits is read as it is. -/
theorem exists_ofText?_of_natural {n : Nat} (hn : n < 2 ^ 53)
    (h : Written text percent ⟨false, n, 0⟩) :
    ∃ t, ofText? text = some t ∧ t.percent = percent ∧ t.value.negative = false ∧
      t.value.WellFormed ∧ t.value.magnitude = n := by
  have hvalue : Decimal.magnitude ⟨false, n, 0⟩ = n := by simp [Decimal.magnitude]
  obtain ⟨t, ht, hpercent, hnegative, hrounds⟩ :=
    exists_ofText? h (hvalue ▸ Binary64.natCast_lt_limit (hn.trans (by decide)))
  rw [hvalue] at hrounds
  exact ⟨t, ht, hpercent, hnegative, hrounds.wellFormed, hrounds.eq_natCast hn⟩

/-! ## Numbers of messages -/

/-- A catalogue meets a number of messages exactly if that many of them are translated. -/
theorem isMet_iff {n total translated : Nat} (hn : n < 2 ^ 53) (hpercent : t.percent = false)
    (hnegative : t.value.negative = false) (hform : t.value.WellFormed)
    (hvalue : t.value.magnitude = n) : t.isMet total translated = true ↔ n ≤ translated := by
  have hrequired : t.required total = some t.value := by simp [required, hpercent]
  by_cases hlt : (translated : ℚ) < Binary64.limit
  · obtain ⟨found, hfound, hfoundNegative, hrounds⟩ := Binary64.exists_ofNat hlt
    rw [isMet, hrequired, hfound]
    dsimp only
    rw [Binary64.le_iff hform hrounds.wellFormed hnegative hfoundNegative, hvalue]
    constructor
    · intro hle
      by_contra hless
      rw [not_le] at hless
      rw [hrounds.eq_natCast (hless.trans hn)] at hle
      exact absurd (Nat.cast_le.mp hle) hless.not_ge
    · intro hle
      rw [← hvalue]
      exact hrounds.le_magnitude hform (by rw [hvalue]; exact_mod_cast hle)
  · rw [not_lt] at hlt
    have hless : (n : ℚ) < translated :=
      (Binary64.natCast_lt_limit (hn.trans (by decide))).trans_le hlt
    rw [isMet, hrequired, Binary64.ofNat_eq_none hlt]
    exact iff_of_true rfl (Nat.cast_lt.mp hless).le

/-- A catalogue with fewer translated messages than the number is reported, once. -/
theorem inspect_count {n : Nat} (hn : n < 2 ^ 53) (hpercent : t.percent = false)
    (hnegative : t.value.negative = false) (hform : t.value.WellFormed)
    (hvalue : t.value.magnitude = n) (text : Text) (lines : List Text) :
    Translation.inspect (some ⟨t, text⟩) lines =
      if Translation.countTranslated lines < n then
        .ofViolations [{
          message := "Lower number of messages translated (" ++
            Text.ofNat (Translation.countTranslated lines) ++ ") than required (" ++ text ++ ")" }]
      else .pass := by
  have hmet : t.isMet (Message.scanBody lines).length (Translation.countTranslated lines) = true ↔
      n ≤ Translation.countTranslated lines := isMet_iff hn hpercent hnegative hform hvalue
  rw [Translation.inspect]
  dsimp only
  by_cases hless : Translation.countTranslated lines < n
  · rw [if_pos hless, if_neg (fun h => absurd (hmet.mp h) hless.not_ge), Translation.shortfall]
    simp only [hpercent, Bool.false_eq_true, if_false]
  · rw [if_neg hless, if_pos (hmet.mpr (not_lt.mp hless))]

theorem requirement_eq (h : ofText? text = some t) :
    RuleOptions.requirement text = .ok ⟨t, text⟩ := by
  rw [RuleOptions.requirement, h]

theorem exists_eq_of_requirement {r : Translation.Requirement}
    (h : RuleOptions.requirement text = .ok r) : ∃ t, ofText? text = some t ∧ r = ⟨t, text⟩ := by
  rw [RuleOptions.requirement] at h
  split at h
  · rename_i t ht
    cases h
    exact ⟨t, ht, rfl⟩
  · cases h

/-- A minimum is read if it writes a threshold whose number is not rounded to infinity, and it is a
percentage if it ends with a percent sign. A natural number of at most 53 bits is read as it is, and
a catalogue with fewer translated messages is reported, once. -/
theorem requirement_exact :
    (∀ text, (∃ r, RuleOptions.requirement text = .ok r) ↔
      ∃ percent x, Written text percent x ∧ x.magnitude < Binary64.limit) ∧
    (∀ text percent x, Written text percent x → x.magnitude < Binary64.limit →
      ∃ r, RuleOptions.requirement text = .ok r ∧ r.text = text ∧ r.threshold.percent = percent ∧
        r.threshold.value.negative = x.negative ∧
        Binary64.Rounds x.magnitude r.threshold.value) ∧
    ∀ zeros n, n < 2 ^ 53 →
      let text := Text.fill '0' zeros ++ Text.ofNat n
      ∃ r, RuleOptions.requirement text = .ok r ∧ r.threshold.percent = false ∧
        r.threshold.value.negative = false ∧ r.threshold.value.magnitude = n ∧
        (RuleOptions.untranslated (some text)).rule = .ok (.translated (some r)) ∧
        ∀ lines, (Rule.translated (some r)).inspect lines =
          if Translation.countTranslated lines < n then
            .ofViolations [{
              message := "Lower number of messages translated (" ++
                Text.ofNat (Translation.countTranslated lines) ++ ") than required (" ++
                text ++ ")" }]
          else .pass := by
  refine ⟨fun text => ?_, fun text percent x hwritten hlt => ?_, fun zeros n hn => ?_⟩
  · rw [← isSome_ofText?_iff]
    constructor
    · rintro ⟨r, hr⟩
      exact (exists_eq_of_requirement hr).imp fun t ht => ht.1
    · rintro ⟨t, ht⟩
      exact ⟨_, requirement_eq ht⟩
  · obtain ⟨t, ht, hpercent, hnegative, hrounds⟩ := exists_ofText? hwritten hlt
    exact ⟨_, requirement_eq ht, rfl, hpercent, hnegative, hrounds⟩
  · intro text
    have hwritten : Written text false ⟨false, n, 0⟩ := by
      have h := @Written.number [] _ [] _ rfl rfl (Decimal.writes_ofNat zeros n)
      rwa [List.nil_append, List.append_nil] at h
    obtain ⟨t, ht, hpercent, hnegative, hform, hvalue⟩ := exists_ofText?_of_natural hn hwritten
    refine ⟨_, requirement_eq ht, hpercent, hnegative, hvalue, ?_, fun lines => ?_⟩
    · rw [RuleOptions.rule, requirement_eq ht]
      rfl
    · rw [Rule.inspect]
      exact inspect_count hn hpercent hnegative hform hvalue text lines

/-- Three quarters as a percentage, with a sign, a point, an exponent and white space of several
kinds; and two messages as a minimum for a catalogue of which one is translated. -/
theorem requirement_exact_quarters :
    (∃ r, RuleOptions.requirement "\u3000+.750E2\t%\n" = .ok r ∧ r.threshold.percent = true ∧
      Binary64.Rounds 75 r.threshold.value) ∧
    ∃ r, RuleOptions.requirement "002" = .ok r ∧
      ((Rule.translated (some r)).inspect ["msgid \"a\"\n", "msgstr \"b\"\n", "msgid \"c\"\n",
        "msgstr \"\"\n"]).findings =
        [{ message := "Lower number of messages translated (1) than required (002)" }] := by
  obtain ⟨-, hread, hcount⟩ := requirement_exact
  constructor
  · have hmantissa := @Decimal.IsMantissa.point [] ['7', '5', '0'] nofun (by decide) (by decide)
    have hpower := @Decimal.IsExponent.power 'E' [] ['2'] _ (Or.inr rfl) .none (by decide)
      (by decide)
    have hwritten : Written "\u3000+.750E2\t%\n" true ⟨false, 750, -1⟩ :=
      @Written.percentage ['\u3000'] _ ['\t'] ['\n'] _ (by decide) (by decide) (by decide)
        (.intro .plus hmantissa hpower)
    have hvalue : Decimal.magnitude ⟨false, 750, -1⟩ = 75 := by norm_num [Decimal.magnitude]
    obtain ⟨r, hr, -, hpercent, -, hrounds⟩ :=
      hread _ _ _ hwritten (hvalue ▸ Binary64.lt_limit (by norm_num))
    exact ⟨r, hr, hpercent, hvalue ▸ hrounds⟩
  · obtain ⟨r, hr, -, -, -, -, hinspect⟩ := hcount 2 2 (by decide)
    refine ⟨r, hr, ?_⟩
    rw [hinspect, if_pos (by decide)]
    decide

end Threshold

end CatalogLint
