import CatalogLint.Proofs.Pattern.Reader
import CatalogLint.Proofs.Rule.Insertion

/-!
# Patterns at the start of a value

A pattern is looked for at the start of a value by putting its text into a group behind `^`. The text
is accepted there if and only if it is a pattern by itself, and then matches where this matches at
the start (`HeaderSpec.insert?_anchors_pattern`). There are two exceptions: a comment at the end of
a pattern passes over the parenthesis that closes the group, and a parenthesis in the text may close
the group.

The limits of an engine on nesting and compiled size are left out, as `Pattern.ofText?` has none of
them. With these there is one more exception: a pattern that is nested as deeply as the limit allows
is accepted by itself, and refused in the group, which is one level more.
-/

namespace CatalogLint

namespace Pattern

/-- A pattern with a comment at its end, in which a closing parenthesis can stand. -/
def EndsInComment (text : Text) : Prop :=
  (ofText? text).isSome = true ∧ (ofText? (text ++ [')'])).isSome = true

instance (text : Text) : Decidable (EndsInComment text) := inferInstanceAs (Decidable (_ ∧ _))

/-- A pattern with a closing parenthesis behind it, and more. -/
def ClosesGroup (text : Text) : Prop :=
  ∃ u v, text = u ++ ')' :: v ∧ (ofText? u).isSome = true ∧ ¬ EndsInComment u

/-! ## The start of a value -/

/-- Only the first spot has nothing before it. -/
theorem filter_textStart (t : Text) :
    (Spot.all t).filter Anchor.textStart.holds = [Spot.first t] := by
  have honward : ∀ (c : Char) (t : Text),
      (Spot.onward (some c) t).filter Anchor.textStart.holds = [] := by
    intro c t
    induction t generalizing c with
    | nil => rfl
    | cons d t ih => exact ih d
  cases t with
  | nil => rfl
  | cons c t =>
    rw [Spot.all, Spot.onward, List.filter_cons_of_pos rfl, honward]
    rfl

theorem matchesAnywhere_anchored (p : Pattern) (t : Text) :
    (seq (anchor .textStart) (seq p empty)).matchesAnywhere t = p.matchesAtStart t := by
  rw [matchesAnywhere, matchesAtStart, ends, ends, ends, ends, filter_textStart]

/-! ## The text of the group -/

/-- The alternative in front of the group. -/
def anchorFrame : Flags × Branches := ({}, { items := [some (anchor .textStart)] })

theorem ofText?_anchored (text : Text) :
    ofText? (HeaderPattern.anchored text) =
      Reader.run? (text.length + 4) (Reader.under {} anchorFrame) (text ++ [')']) := by
  have hlength : (HeaderPattern.anchored text).length = text.length + 5 := by
    simp [HeaderPattern.anchored]
  rw [ofText?, hlength]
  rfl

variable {text : Text} {p : Pattern}

theorem ofText?_close (text : Text) :
    ofText? (text ++ [')']) = Reader.run? (text.length + 2) {} (text ++ [')']) := by
  rw [ofText?, List.length_append]
  rfl

/-- The group around a pattern is closed behind it, unless the pattern ends in a comment. -/
theorem ofText?_anchored_of_some (h : ofText? text = some p) :
    ofText? (HeaderPattern.anchored text) =
      if EndsInComment text then none
      else some (seq (anchor .textStart) (seq p empty)) := by
  rcases Reader.closes_or_passesOver h with ⟨hgroup, hnone⟩ | ⟨hsame, hnone⟩
  · have hno : ¬ EndsInComment text := by
      rintro ⟨-, hclose⟩
      rw [ofText?_close, hnone] at hclose
      cases hclose
    rw [if_neg hno, ofText?_anchored]
    exact Reader.run?_mono (hgroup anchorFrame) (by omega)
  · have hcomment : EndsInComment text := by
      refine ⟨by rw [h]; rfl, ?_⟩
      rw [ofText?_close, hsame]
      rfl
    rw [if_pos hcomment, ofText?_anchored, hnone]

theorem ofText?_of_closesGroup (h : ClosesGroup text) : ofText? text = none := by
  obtain ⟨u, v, rfl, hu, hno⟩ := h
  obtain ⟨p, hp⟩ := Option.isSome_iff_exists.mp hu
  rcases Reader.closes_or_passesOver hp with ⟨-, hnone⟩ | ⟨hsame, -⟩
  · exact hnone _ v
  · refine absurd ⟨hu, ?_⟩ hno
    rw [ofText?_close, hsame]
    rfl

/-- What is a pattern in the group but not by itself closes the group. -/
theorem closesGroup_of_anchored (h : ofText? text = none)
    (hgroup : (ofText? (HeaderPattern.anchored text)).isSome = true) : ClosesGroup text := by
  rw [ofText?_anchored] at hgroup
  obtain ⟨q, hq⟩ := Option.isSome_iff_exists.mp hgroup
  obtain ⟨u, v, p, htext, hread, hclosed⟩ := Reader.exists_of_run?_under hq
  have hu : ofText? u = some p := hread _ (Nat.lt_succ_self _)
  have hno : ¬ EndsInComment u := by
    rintro ⟨-, hclose⟩
    rw [ofText?, hclosed] at hclose
    cases hclose
  rcases List.eq_nil_or_concat v with rfl | ⟨v, c, rfl⟩
  · -- The parenthesis that was read is not the one behind the group.
    obtain ⟨rfl, -⟩ := List.append_inj' htext rfl
    cases h.symm.trans hu
  · have hlast : text ++ [')'] = (u ++ ')' :: v) ++ [c] := by
      rw [htext]
      simp
    exact ⟨u, v, (List.append_inj' hlast rfl).1, by rw [hu]; rfl, hno⟩

end Pattern

namespace HeaderSpec

open Pattern

variable {text : Text}

theorem find?_place (h : HeaderPattern) (headers : List HeaderPattern) :
    (place h headers).find? (·.name = h.name) = some h := by
  induction headers with
  | nil => simp [place]
  | cons g rest ih =>
    rw [place]
    by_cases hg : g.name = h.name
    · rw [if_pos hg]
      simp
    · rw [if_neg hg, List.find?_cons_of_neg (by simpa using hg), ih]

theorem isSome_insert? (spec : HeaderSpec) (name text : Text) :
    (spec.insert? name text).isSome = (ofText? (HeaderPattern.anchored text)).isSome := by
  rw [insert?, HeaderPattern.ofText?, Option.isSome_map, Option.isSome_map]

theorem insert?_of_endsInComment (h : EndsInComment text) (spec : HeaderSpec) (name : Text) :
    spec.insert? name text = none := by
  obtain ⟨p, hp⟩ := Option.isSome_iff_exists.mp h.1
  rw [← Option.not_isSome_iff_eq_none, isSome_insert?, ofText?_anchored_of_some hp, if_pos h]
  exact nofun

/-- A text is accepted for a name if and only if it is a pattern, unless it ends in a comment, or
closes the group that it is put into and is accepted: a pattern that ends in a comment is refused,
and what closes the group is no pattern by itself. If a pattern is accepted, the name has one that
matches wherever this matches at the start of a value. -/
theorem insert?_anchors_pattern (spec : HeaderSpec) (name text : Text) :
    (((spec.insert? name text).isSome = true ↔ (ofText? text).isSome = true) ↔
      ¬ EndsInComment text ∧
        ¬ (ClosesGroup text ∧ (spec.insert? name text).isSome = true)) ∧
    (∀ p spec', ofText? text = some p → spec.insert? name text = some spec' →
      ∃ h, spec'.headers.find? (·.name = name) = some h ∧ h.text = text ∧
        ∀ value, h.accepts value = p.matchesAtStart value) ∧
    (EndsInComment text → (ofText? text).isSome = true ∧ spec.insert? name text = none) ∧
    (ClosesGroup text → ofText? text = none) := by
  refine ⟨⟨fun hiff => ⟨fun hcomment => ?_, ?_⟩, ?_⟩, fun p spec' hp hinsert => ?_,
    fun hcomment => ⟨hcomment.1, insert?_of_endsInComment hcomment spec name⟩,
    ofText?_of_closesGroup⟩
  · have hinsert := hiff.mpr hcomment.1
    rw [insert?_of_endsInComment hcomment] at hinsert
    cases hinsert
  · rintro ⟨hcloses, hinsert⟩
    have hpattern := hiff.mp hinsert
    rw [ofText?_of_closesGroup hcloses] at hpattern
    cases hpattern
  · rintro ⟨hcomment, hcloses⟩
    cases hp : ofText? text with
    | none =>
      refine ⟨fun hinsert => absurd ⟨?_, hinsert⟩ hcloses, nofun⟩
      rw [isSome_insert?] at hinsert
      exact closesGroup_of_anchored hp hinsert
    | some p =>
      rw [isSome_insert?, ofText?_anchored_of_some hp, if_neg hcomment]
      exact Iff.rfl
  · obtain ⟨h, hh, rfl⟩ := Option.map_eq_some_iff.mp hinsert
    obtain ⟨pattern, hpattern, rfl⟩ := Option.map_eq_some_iff.mp hh
    refine ⟨⟨name, text, pattern⟩, find?_place ⟨name, text, pattern⟩ _, rfl, fun value => ?_⟩
    rw [ofText?_anchored_of_some hp] at hpattern
    split at hpattern
    · cases hpattern
    · cases hpattern
      exact matchesAnywhere_anchored p value

/-- All alternatives are looked for at the start of a value. -/
theorem insert?_anchors_alternatives :
    ∃ spec h, ({} : HeaderSpec).insert? "Language" "fr|de" = some spec ∧
      spec.headers.find? (·.name = "Language".toList) = some h ∧ h.accepts "de_AT" = true ∧
      h.accepts "xx_de" = false := by
  obtain ⟨spec, hspec⟩ : ∃ spec, ({} : HeaderSpec).insert? "Language" "fr|de" = some spec :=
    ⟨_, rfl⟩
  obtain ⟨h, hfind, -, haccepts⟩ := (insert?_anchors_pattern {} "Language" "fr|de").2.1
    ((ofText? "fr|de").getD .empty) spec rfl hspec
  exact ⟨spec, h, hspec, hfind, (haccepts _).trans (by decide), (haccepts _).trans (by decide)⟩

/-- A comment passes over the parenthesis of the group, so that this pattern is refused, and a
parenthesis closes it, so that this text is no pattern but accepted for the value `xb`. -/
theorem exists_insert?_not_anchored :
    ((ofText? "(?x)fr # French").isSome = true ∧
      ({} : HeaderSpec).insert? "A" "(?x)fr # French" = none) ∧
    ofText? "a)|(?:b" = none ∧
      ∃ h, ({} : HeaderSpec).insert? "A" "a)|(?:b" = some ⟨[h]⟩ ∧ h.accepts "xb" = true :=
  ⟨⟨by decide, by decide⟩, by decide, _, rfl, by decide⟩

end HeaderSpec

end CatalogLint
