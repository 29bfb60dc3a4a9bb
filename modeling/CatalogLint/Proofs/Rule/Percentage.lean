import CatalogLint.Proofs.Rule.Threshold

/-!
# Percentages of messages

A catalogue meets a percentage `P` if `found`, the double nearest to the number of translated
messages, is not less than `needed`, which takes three roundings: the number of messages, a
hundredth of that, and `P` times as much (`IsPercentage`). Each is off by at most one part in
`2 ^ 53`, so that the verdict is that of exact arithmetic unless the exact numbers are within one
part in `2 ^ 50` of each other (`abs_sub_le_of_verdict_ne`).

With less than `2 ^ 43` messages that leaves one case: exactly `P` hundredths of the messages are
translated. There the verdict should be that the catalogue passes, and it is not if `needed` is
rounded upwards past the exact number (`inspect_percentage_iff`), as it is for seven messages at a
hundred per cent (`inspect_percentage_seven_messages`).
-/

namespace CatalogLint

open Binary64

namespace Binary64

/-! ## The errors of the roundings -/

/-- A double is `percent` hundredths of `total`, rounded after each step. -/
def IsPercentage (percent total : Nat) (needed : Binary64) : Prop :=
  ∃ count hundredth : Binary64, Rounds total count ∧
    Rounds (count.magnitude / 100) hundredth ∧ Rounds (hundredth.magnitude * percent) needed

theorem IsPercentage.unique {percent total : Nat} {a b : Binary64}
    (ha : IsPercentage percent total a) (hb : IsPercentage percent total b) :
    a.magnitude = b.magnitude := by
  obtain ⟨count, hundredth, hc, hh, hn⟩ := ha
  obtain ⟨count', hundredth', hc', hh', hn'⟩ := hb
  rw [← hc.unique hc'] at hh'
  rw [← hh.unique hh'] at hn'
  exact hn.unique hn'

/-- A rounding multiplies by a number next to one. -/
theorem Rounds.bounds {x : ℚ} {a : Binary64} (h : Rounds x a) (hx : x = 0 ∨ 1 / 256 ≤ x)
    (hlt : x < limit) :
    x * (1 - 1 / 2 ^ 53) ≤ a.magnitude ∧ a.magnitude ≤ x * (1 + 1 / 2 ^ 53) := by
  rcases hx with rfl | hx
  · have := h.eq_of_magnitude (rounds_zero false).wellFormed (by simp [magnitude])
    simp [this]
  · have hsmall : (2 : ℚ) ^ (-1022 : Int) ≤ 1 / 256 := by
      rw [show (1 / 256 : ℚ) = 2 ^ (-8 : Int) by norm_num]
      exact zpow_le_zpow_right₀ (by norm_num) (by norm_num)
    have := abs_le.mp (h.error (hsmall.trans hx) hlt)
    constructor
    · linarith [this.1]
    · linarith [this.2]

theorem natCast_eq_zero_or (n : Nat) : (n : ℚ) = 0 ∨ 1 ≤ (n : ℚ) := by
  rcases Nat.eq_zero_or_pos n with rfl | h
  · exact Or.inl Nat.cast_zero
  · exact Or.inr (by exact_mod_cast h)

end Binary64

namespace Threshold

/-- A percentage of a number of messages is computed, and its three roundings together are off by
at most four parts in `2 ^ 53`. -/
theorem exists_required {t : Threshold} {percent total : Nat} (ht : t.percent = true)
    (hs : t.value.negative = false) (hv : t.value.magnitude = percent) (hp : percent ≤ 100)
    (hn : total < 2 ^ 64) :
    ∃ needed, t.required total = some needed ∧ needed.negative = false ∧
      needed.WellFormed ∧ IsPercentage percent total needed ∧
      (total / 100 * percent : ℚ) * (1 - 4 / 2 ^ 53) ≤ needed.magnitude ∧
      needed.magnitude ≤ (total / 100 * percent : ℚ) * (1 + 4 / 2 ^ 53) := by
  have hn' : (total : ℚ) < 2 ^ 64 := by exact_mod_cast hn
  have hp' : (percent : ℚ) ≤ 100 := by exact_mod_cast hp
  have hp0 : (0 : ℚ) ≤ percent := Nat.cast_nonneg percent
  have hn0 : (0 : ℚ) ≤ total := Nat.cast_nonneg total
  -- The number of messages.
  have hcount := natCast_lt_limit hn
  obtain ⟨count, hc, hcs, hcr⟩ := exists_ofNat hcount
  obtain ⟨hcl, hcu⟩ := hcr.bounds ((natCast_eq_zero_or total).imp_right fun h => by linarith) hcount
  -- A hundredth of that.
  have hshare : count.magnitude / (100 : Nat) < limit :=
    lt_limit (by rw [Nat.cast_ofNat]; linarith)
  obtain ⟨hundredth, hh, hhs, hhr⟩ := exists_divNat (by decide) hshare
  rw [Nat.cast_ofNat] at hhr hshare
  obtain ⟨hhl, hhu⟩ := hhr.bounds
    ((natCast_eq_zero_or total).imp (fun h => by rw [h] at hcl hcu; linarith)
      fun h => by linarith) hshare
  have hlow : (total / 100 : ℚ) * (1 - 2 / 2 ^ 53) ≤ hundredth.magnitude := by linarith
  have hhigh : hundredth.magnitude ≤ (total / 100 : ℚ) * (1 + 5 / 2 ^ 54) := by linarith
  -- The percentage times as much.
  have hlow' := mul_le_mul_of_nonneg_right hlow hp0
  have hhigh' := mul_le_mul_of_nonneg_right hhigh hp0
  have hy : (0 : ℚ) ≤ total / 100 * percent := by positivity
  have hsize : (total / 100 * percent : ℚ) ≤ total := by nlinarith
  have hproduct : hundredth.magnitude * t.value.magnitude < limit :=
    lt_limit (by rw [hv]; linarith)
  obtain ⟨needed, hm, hms, hmr⟩ := exists_mul hproduct
  rw [hv] at hmr hproduct
  have hzero : hundredth.magnitude * percent = 0 ∨ 1 / 256 ≤ hundredth.magnitude * percent := by
    rcases natCast_eq_zero_or percent with h | h
    · exact Or.inl (by rw [h, mul_zero])
    · rcases natCast_eq_zero_or total with h' | h'
      · rw [h'] at hlow hhigh
        exact Or.inl (by rw [show hundredth.magnitude = 0 by linarith, zero_mul])
      · exact Or.inr (by nlinarith)
  obtain ⟨hml, hmu⟩ := hmr.bounds hzero hproduct
  refine ⟨needed, ?_, ?_, hmr.wellFormed, ⟨count, hundredth, hcr, hhr, hmr⟩, ?_, ?_⟩
  · rw [required, if_pos ht, Threshold.hundredth, hc, Option.bind_some, hh, Option.bind_some, hm]
  · rw [hms, hhs, hcs, hs]
    rfl
  · linarith
  · linarith

theorem exists_ofText?_percentage {percent : Nat} (hp : percent ≤ 100) :
    ∃ t : Threshold, ofText? (Text.ofNat percent ++ "%") = some t ∧ t.percent = true ∧
      t.value.negative = false ∧ t.value.magnitude = percent := by
  have hwritten : Written (Text.ofNat percent ++ "%") true ⟨false, percent, 0⟩ :=
    @Written.percentage [] _ [] [] _ rfl rfl rfl (Decimal.writes_ofNat 0 percent)
  obtain ⟨t, ht, hpt, hs, -, hv⟩ :=
    exists_ofText?_of_natural (lt_of_le_of_lt hp (by norm_num)) hwritten
  exact ⟨t, ht, hpt, hs, hv⟩

/-! ## Verdicts -/

/-- A verdict by numbers that are off by so much is wrong only within one part in `2 ^ 50`. -/
theorem abs_sub_le_of_verdict_ne {percent total translated : Nat} {found needed : ℚ}
    (hfl : translated * (1 - 1 / 2 ^ 53) ≤ found) (hfu : found ≤ translated * (1 + 1 / 2 ^ 53))
    (hnl : (total / 100 * percent : ℚ) * (1 - 4 / 2 ^ 53) ≤ needed)
    (hnu : needed ≤ (total / 100 * percent : ℚ) * (1 + 4 / 2 ^ 53))
    (hne : ¬ (found < needed ↔ 100 * translated < percent * total)) :
    2 ^ 50 * |(100 * translated : Int) - percent * total| ≤ percent * total := by
  have hexact : 100 * translated < percent * total ↔
      (translated : ℚ) < total / 100 * percent := by
    rw [← Nat.cast_lt (α := ℚ)]
    push_cast
    constructor
    · intro h
      linarith
    · intro h
      linarith
  have hclose : 2 ^ 50 * |(100 * translated : ℚ) - percent * total| ≤ percent * total := by
    have hprod : (percent * total : ℚ) = 100 * (total / 100 * percent) := by ring
    have hy : (0 : ℚ) ≤ total / 100 * percent := by positivity
    have ht : (0 : ℚ) ≤ translated := Nat.cast_nonneg translated
    rw [hexact] at hne
    rw [hprod]
    generalize (total / 100 * percent : ℚ) = y at *
    by_cases hlt : (translated : ℚ) < y
    · have hge : needed ≤ found := by
        by_contra h
        exact hne ⟨fun _ => hlt, fun _ => not_le.mp h⟩
      rw [abs_of_nonpos (by linarith)]
      linarith
    · have hlt' : found < needed := by
        by_contra h
        exact hne ⟨fun h' => absurd h' h, fun h' => absurd h' hlt⟩
      rw [not_lt] at hlt
      rw [abs_of_nonneg (by linarith)]
      linarith
  exact_mod_cast hclose

/-- With few messages a verdict that is wrong only so close to the exact number is wrong only at that
number. -/
theorem verdict_iff {percent total translated : Nat} {p : Prop} (hp : percent ≤ 100)
    (hn : total < 2 ^ 43)
    (hclose : ¬ (p ↔ 100 * translated < percent * total) →
      2 ^ 50 * |(100 * translated : Int) - percent * total| ≤ percent * total) :
    p ↔ 100 * translated < percent * total ∨ 100 * translated = percent * total ∧ p := by
  have hbound : percent * total < 2 ^ 50 := by
    calc percent * total
        ≤ 100 * total := Nat.mul_le_mul_right total hp
      _ < 2 ^ 50 := by omega
  by_cases heq : 100 * translated = percent * total
  · simp [heq]
  · have hiff : p ↔ 100 * translated < percent * total := by
      by_contra hne
      have hone : 1 ≤ |(100 * translated : Int) - percent * total| :=
        Int.one_le_abs (sub_ne_zero.mpr (by exact_mod_cast heq))
      have := hclose hne
      have : (percent * total : Int) < 2 ^ 50 := by exact_mod_cast hbound
      omega
    rw [hiff]
    simp [heq]

end Threshold

namespace Translation

theorem countTranslated_le (lines : List Text) :
    countTranslated lines ≤ (Message.scanBody lines).length := List.countP_le_length

/-- The percentage of the translated messages is at most 100: their share in all messages is at most
one, and both numbers are doubles. -/
theorem percentage?_le {total translated : Nat} {a hundred : Binary64} (h : translated ≤ total)
    (ha : percentage? total translated = some a) (hhundred : Binary64.ofNat 100 = some hundred) :
    a.le hundred = true := by
  obtain ⟨found, hfound, ha⟩ := Option.bind_eq_some_iff.mp ha
  obtain ⟨all, hall, ha⟩ := Option.bind_eq_some_iff.mp ha
  obtain ⟨share, hshare, ha⟩ := Option.bind_eq_some_iff.mp ha
  rw [hhundred, Option.bind_some] at ha
  obtain ⟨hfoundSign, hfound⟩ := rounds_of_ofNat hfound
  obtain ⟨hallSign, hall⟩ := rounds_of_ofNat hall
  obtain ⟨hsign, hhundred⟩ := rounds_of_ofNat hhundred
  have hpos : 1 ≤ all.magnitude := by
    obtain ⟨one, hone, hvalue⟩ := exists_magnitude_eq (n := 1) (by norm_num)
    rw [Nat.cast_one] at hvalue
    refine hvalue ▸ hall.le_magnitude hone ?_
    rw [hvalue]
    exact_mod_cast le_max_right total 1
  have hle : found.magnitude ≤ all.magnitude :=
    hfound.mono hall (by exact_mod_cast h.trans (le_max_left total 1))
  obtain ⟨hshareSign, hshare⟩ := magnitude_div_le_one hshare hpos hle
  have hlimit : hundred.magnitude < limit := by
    rw [hhundred.eq_natCast (by norm_num)]
    exact natCast_lt_limit (by norm_num)
  obtain ⟨hwellFormed, haSign, hle⟩ := magnitude_mul_le ha hshare hhundred.wellFormed hlimit
  rw [le_iff hwellFormed hhundred.wellFormed ?_ hsign]
  · exact hle
  · rw [haSign, hshareSign, hfoundSign, hallSign, hsign]
    rfl

/-- Without a minimum a catalogue passes if each of its messages is translated. -/
theorem inspect_none_failed_iff (lines : List Text) :
    (inspect none lines).failed = true ↔
      countTranslated lines < (Message.scanBody lines).length := by
  rw [lt_iff_le_and_ne, and_iff_right (countTranslated_le lines), Ne, countTranslated,
    List.countP_eq_length]
  simp only [inspect, Inspection.ofViolations, untranslatedLines, Message.isTranslated,
    Bool.not_eq_true', List.isEmpty_eq_false_iff, ne_eq, List.map_eq_nil_iff,
    List.filterMap_eq_nil_iff, Option.isNone_iff_eq_none]

/-- The verdict on a percentage is a comparison of doubles, and wrong only within one part in
`2 ^ 50`. -/
theorem exists_inspect_eq (lines : List Text) {percent total translated : Nat}
    (hp : percent ≤ 100) (htotal : (Message.scanBody lines).length = total)
    (htranslated : countTranslated lines = translated) (hn : total < 2 ^ 64) :
    ∃ r needed found, RuleOptions.requirement (Text.ofNat percent ++ "%") = .ok r ∧
      IsPercentage percent total needed ∧ Rounds translated found ∧
      inspect (some r) lines =
        (if found.magnitude < needed.magnitude then
          .ofViolations [{ message := shortfall r translated }]
        else .pass) ∧
      (¬ (found.magnitude < needed.magnitude ↔ 100 * translated < percent * total) →
        2 ^ 50 * |(100 * translated : Int) - percent * total| ≤ percent * total) := by
  obtain ⟨t, ht, hpt, hs, hv⟩ := Threshold.exists_ofText?_percentage hp
  obtain ⟨needed, hreq, hsn, hwn, hneeded, hnl, hnu⟩ := Threshold.exists_required hpt hs hv hp hn
  have htr : (translated : ℚ) < limit := by
    have hle := countTranslated_le lines
    rw [htotal, htranslated] at hle
    exact natCast_lt_limit (hle.trans_lt hn)
  obtain ⟨found, hf, hsf, hfr⟩ := exists_ofNat htr
  obtain ⟨hfl, hfu⟩ := hfr.bounds
    ((natCast_eq_zero_or translated).imp_right fun h => by linarith) htr
  have hmet : t.isMet total translated = true ↔ ¬ found.magnitude < needed.magnitude := by
    rw [Threshold.isMet, hreq, hf, not_lt]
    exact le_iff hwn hfr.wellFormed hsn hsf
  refine ⟨⟨t, Text.ofNat percent ++ "%"⟩, needed, found, by rw [RuleOptions.requirement, ht],
    hneeded, hfr, ?_, Threshold.abs_sub_le_of_verdict_ne hfl hfu hnl hnu⟩
  simp only [inspect, htotal, htranslated]
  by_cases hlt : found.magnitude < needed.magnitude
  · rw [if_pos hlt, if_neg (fun h => hmet.mp h hlt)]
  · rw [if_neg hlt, if_pos (hmet.mpr hlt)]

/-- The verdict on a percentage: the catalogue fails if the double for the translated messages is
less than the double for the percentage. This is the verdict of exact arithmetic unless the exact
numbers are within one part in `2 ^ 50` of each other; below `2 ^ 43` messages, unless they are equal
and the double for the percentage is too large. For a hundred per cent that is where the verdict
differs from the one without a minimum. -/
theorem inspect_percentage_iff (lines : List Text) {percent total translated : Nat}
    (hp : percent ≤ 100) (htotal : (Message.scanBody lines).length = total)
    (htranslated : countTranslated lines = translated) (hn : total < 2 ^ 64) :
    ∃ r needed found, RuleOptions.requirement (Text.ofNat percent ++ "%") = .ok r ∧
      IsPercentage percent total needed ∧ Rounds translated found ∧
      inspect (some r) lines =
        (if found.magnitude < needed.magnitude then
          .ofViolations [{ message := shortfall r translated }]
        else .pass) ∧
      (¬ ((inspect (some r) lines).failed = true ↔ 100 * translated < percent * total) →
        2 ^ 50 * |(100 * translated : Int) - percent * total| ≤ percent * total) ∧
      (total < 2 ^ 43 →
        ((inspect (some r) lines).failed = true ↔
          100 * translated < percent * total ∨
            100 * translated = percent * total ∧ translated < needed.magnitude)) ∧
      (total < 2 ^ 43 → percent = 100 →
        ((inspect (some r) lines).failed = (inspect none lines).failed ↔
          ¬ (translated = total ∧ translated < needed.magnitude))) := by
  obtain ⟨r, needed, found, hr, hneeded, hfr, hinspect, hclose⟩ :=
    exists_inspect_eq lines hp htotal htranslated hn
  have hle : translated ≤ total := by
    rw [← htotal, ← htranslated]
    exact countTranslated_le lines
  have hfailed : (inspect (some r) lines).failed = true ↔
      found.magnitude < needed.magnitude := by
    rw [hinspect]
    split_ifs with hlt
    · simp [hlt, Inspection.ofViolations]
    · simp [hlt, Inspection.pass]
  have hfew : total < 2 ^ 43 →
      ((inspect (some r) lines).failed = true ↔
        100 * translated < percent * total ∨
          100 * translated = percent * total ∧ translated < needed.magnitude) := by
    intro hfew
    -- So few messages are a double.
    have hexact := hfr.eq_natCast (lt_of_le_of_lt hle (hfew.trans (by norm_num)))
    rw [hfailed, ← hexact]
    exact Threshold.verdict_iff hp hfew hclose
  refine ⟨r, needed, found, hr, hneeded, hfr, hinspect, fun hne => hclose (by rwa [hfailed] at hne),
    hfew, ?_⟩
  rintro hfew' rfl
  rw [Bool.eq_iff_iff, hfew hfew', inspect_none_failed_iff, htotal, htranslated]
  rcases hle.lt_or_eq with hlt | heq
  · simp [hlt, hlt.ne]
  · simp [heq]

/-- Three of four messages are not four fifths. -/
theorem inspect_percentage_four_messages :
    ∃ r, RuleOptions.requirement (Text.ofNat 80 ++ "%") = .ok r ∧
      (inspect (some r) ["msgid \"a\"\n", "msgstr \"A\"\n", "\n", "msgid \"b\"\n", "msgstr \"\"\n",
        "\n", "msgid \"c\"\n", "msgstr \"C\"\n", "\n", "msgid \"d\"\n", "msgstr \"D\"\n"]).failed =
          true := by
  obtain ⟨r, _, _, hr, _, _, _, _, hfew, _⟩ := inspect_percentage_iff
    ["msgid \"a\"\n", "msgstr \"A\"\n", "\n", "msgid \"b\"\n", "msgstr \"\"\n", "\n",
      "msgid \"c\"\n", "msgstr \"C\"\n", "\n", "msgid \"d\"\n", "msgstr \"D\"\n"]
    (show 80 ≤ 100 by decide) (show _ = 4 by decide) (show _ = 3 by decide) (by decide)
  exact ⟨r, hr, (hfew (by decide)).mpr (Or.inl (by decide))⟩

/-- A hundred per cent of seven messages is rounded upwards, past seven: the catalogue fails with
each message translated, and passes without a minimum. -/
theorem inspect_percentage_seven_messages :
    ∃ r lines, RuleOptions.requirement (Text.ofNat 100 ++ "%") = .ok r ∧
      (Message.scanBody lines).length = 7 ∧ countTranslated lines = 7 ∧
      (inspect (some r) lines).failed = true ∧ (inspect none lines).failed = false := by
  refine ⟨⟨⟨true, ⟨false, 7036874417766400, -46⟩⟩, "100%"⟩,
    (List.replicate 7 ["msgid \"i\"\n".toList, "msgstr \"x\"\n", "\n"]).flatten, ?_⟩
  decide +kernel

end Translation

end CatalogLint
