import CatalogLint.Pattern.Reader

/-!
# Readers before a closing parenthesis

A part of a pattern is read from the front of a text, with the text behind it left. When a closing
parenthesis and more text are put behind the text, the same part is read and the same is left in
front of the parenthesis, or else the reader came to the end of the text, and now it passes over the
parenthesis (`Extends`). Nearly all readers keep to this (`IsReader`), which is closed under doing
one thing after the other (`IsReader.bind`).
-/

namespace CatalogLint.Pattern

variable {α β : Type} {i j m n : Nat} {R : Text → Option (α × Text)} {a : Option (α × Text)}
  {b : Text → Option (α × Text)} {k : α × Text → Option (β × Text)}

/-- What is left is an end of the text, at least `n` characters shorter. -/
def Leaves (n : Nat) (R : Text → Option (α × Text)) : Prop :=
  ∀ t x rest, R t = some (x, rest) → rest <:+ t ∧ rest.length + n ≤ t.length

/-- The readings with a closing parenthesis and more behind the text leave these too, behind what is
left without them. -/
def Stops (a : Option (α × Text)) (b : Text → Option (α × Text)) : Prop :=
  ∃ x rest, a = some (x, rest) ∧ ∀ v, b v = some (x, rest ++ ')' :: v)

/-- A reading comes to the end of the text, and with a closing parenthesis and more behind the text
it leaves no more than this and `n` characters. If it succeeds at the end, the parenthesis alone
makes no difference to it. -/
def Overruns (n : Nat) (a : Option (α × Text)) (b : Text → Option (α × Text)) : Prop :=
  (∀ x rest, a = some (x, rest) → rest = [] ∧ b [] = a) ∧
    ∀ v x rest, b v = some (x, rest) → rest.length ≤ v.length + n

/-- A reading of a text, and its readings with a closing parenthesis and more behind the text. -/
def Extends (n : Nat) (a : Option (α × Text)) (b : Text → Option (α × Text)) : Prop :=
  Stops a b ∨ Overruns n a b

/-- A reader that leaves at least `n` characters fewer, and up to `m` characters more of what is
behind a closing parenthesis that it passes over. -/
structure IsReader (n m : Nat) (R : Text → Option (α × Text)) : Prop where
  leaves : Leaves n R
  extends_append : ∀ t, Extends m (R t) fun v => R (t ++ ')' :: v)

theorem length_append_close (t v : Text) :
    (t ++ ')' :: v).length = v.length + 1 + t.length := by
  rw [List.length_append, List.length_cons, Nat.add_comm]

/-! ## One thing after the other -/

theorem Extends.of_none (h : ∀ v x rest, b v = some (x, rest) → rest.length ≤ v.length + n) :
    Extends n none b :=
  Or.inr ⟨nofun, h⟩

theorem Extends.mono (h : Extends m a b) (hmn : m ≤ n) : Extends n a b := by
  rcases h with hstop | ⟨hend, hmore⟩
  · exact Or.inl hstop
  · exact Or.inr ⟨hend, fun v x rest hv => Nat.le_trans (hmore v x rest hv) (by omega)⟩

/-- The second thing may know what is behind the closing parenthesis. -/
theorem Extends.bind_with {k' : Text → α × Text → Option (β × Text)} (h : Extends n a b)
    (hleaves : ∀ x, Leaves j fun t => k (x, t)) (hleaves' : ∀ v x, Leaves j fun t => k' v (x, t))
    (hsame : ∀ x, k' [] (x, []) = k (x, []))
    (hk : ∀ x rest, a = some (x, rest) →
      Extends m (k (x, rest)) fun v => k' v (x, rest ++ ')' :: v))
    (hn : n ≤ j + m) : Extends m (a.bind k) fun v => (b v).bind (k' v) := by
  rcases h with ⟨x, rest, rfl, hb⟩ | ⟨hend, hmore⟩
  · simp only [hb, Option.bind_some]
    exact hk x rest rfl
  · refine Or.inr ⟨fun y left hleft => ?_, fun v y left hleft => ?_⟩
    · obtain ⟨⟨x, rest⟩, ha, hx⟩ := Option.bind_eq_some_iff.mp hleft
      obtain ⟨rfl, hb⟩ := hend x rest ha
      refine ⟨List.suffix_nil.mp (hleaves x _ _ _ hx).1, ?_⟩
      rw [ha] at hb
      simp only [ha, hb, Option.bind_some, hsame]
    · obtain ⟨⟨x, rest⟩, hb, hx⟩ := Option.bind_eq_some_iff.mp hleft
      have hlength := (hleaves' v x _ _ _ hx).2
      have := hmore v x rest hb
      omega

theorem Extends.bind (h : Extends n a b) (hleaves : ∀ x, Leaves j fun t => k (x, t))
    (hk : ∀ x rest, a = some (x, rest) → Extends m (k (x, rest)) fun v => k (x, rest ++ ')' :: v))
    (hn : n ≤ j + m) : Extends m (a.bind k) fun v => (b v).bind k :=
  h.bind_with hleaves (fun _ => hleaves) (fun _ => rfl) hk hn

theorem Extends.map {g : α × Text → β × Text} (h : Extends n a b)
    (hg : ∀ x, ∃ y, ∀ rest, g (x, rest) = (y, rest)) :
    Extends n (a.map g) fun v => (b v).map g := by
  rcases h with ⟨x, rest, rfl, hb⟩ | ⟨hend, hmore⟩
  · obtain ⟨y, hy⟩ := hg x
    exact Or.inl ⟨y, rest, congrArg some (hy rest), fun v => by simp only [hb, Option.map_some, hy]⟩
  · refine Or.inr ⟨fun y left hleft => ?_, fun v y left hleft => ?_⟩
    · obtain ⟨⟨x, rest⟩, ha, hx⟩ := Option.map_eq_some_iff.mp hleft
      obtain ⟨z, hz⟩ := hg x
      obtain ⟨rfl, hb⟩ := hend x rest ha
      cases (hz []).symm.trans hx
      exact ⟨rfl, congrArg (·.map g) hb⟩
    · obtain ⟨⟨x, rest⟩, hb, hx⟩ := Option.map_eq_some_iff.mp hleft
      obtain ⟨z, hz⟩ := hg x
      cases (hz rest).symm.trans hx
      exact hmore v x left hb

theorem Leaves.bind (h : Leaves i R) (hk : ∀ x, Leaves j fun t => k (x, t)) :
    Leaves (i + j) fun t => (R t).bind k := by
  intro t y left hleft
  obtain ⟨⟨x, rest⟩, hR, hx⟩ := Option.bind_eq_some_iff.mp hleft
  obtain ⟨hrest, hlength⟩ := h t x rest hR
  obtain ⟨hleft, hlength'⟩ := hk x _ _ _ hx
  exact ⟨hleft.trans hrest, by omega⟩

namespace IsReader

theorem mono (h : IsReader i j R) (hi : n ≤ i) (hj : j ≤ m) : IsReader n m R where
  leaves := fun t x rest hR =>
    ⟨(h.leaves t x rest hR).1, Nat.le_trans (by omega) (h.leaves t x rest hR).2⟩
  extends_append := fun t => (h.extends_append t).mono hj

theorem bind_of_le (h : IsReader i n R) (hk : ∀ x, IsReader j m fun t => k (x, t))
    (hn : n ≤ j + m) : IsReader (i + j) m fun t => (R t).bind k where
  leaves := h.leaves.bind fun x => (hk x).leaves
  extends_append := fun t =>
    (h.extends_append t).bind (fun x => (hk x).leaves) (fun x rest _ => (hk x).extends_append rest)
      hn

theorem bind (h : IsReader 0 0 R) (hk : ∀ x, IsReader n m fun t => k (x, t)) :
    IsReader n m fun t => (R t).bind k :=
  (h.bind_of_le hk (Nat.zero_le _)).mono (Nat.le_add_left n 0) (Nat.le_refl m)

theorem fail : IsReader n m fun _ => (none : Option (α × Text)) where
  leaves := nofun
  extends_append := fun _ => .of_none nofun

theorem pass (x : α) : IsReader 0 m fun t => some (x, t) where
  leaves := by
    intro t y rest h
    cases h
    exact ⟨List.suffix_rfl, Nat.le_refl _⟩
  extends_append := fun t => Or.inl ⟨x, t, rfl, fun _ => rfl⟩

/-- What is made of the part that was read makes no difference. -/
theorem map {g : α × Text → β × Text} (h : IsReader n m R)
    (hg : ∀ x, ∃ y, ∀ rest, g (x, rest) = (y, rest)) :
    IsReader n m fun t => (R t).map g where
  leaves := by
    intro t y rest hmap
    obtain ⟨⟨x, left⟩, hR, hx⟩ := Option.map_eq_some_iff.mp hmap
    obtain ⟨z, hz⟩ := hg x
    cases (hz left).symm.trans hx
    exact h.leaves t x rest hR
  extends_append := fun t => (h.extends_append t).map hg

theorem ite {S : Text → Option (α × Text)} (p : Prop) [Decidable p] (hR : p → IsReader n m R)
    (hS : ¬ p → IsReader n m S) : IsReader n m fun t => if p then R t else S t := by
  by_cases hp : p
  · simpa only [if_pos hp] using hR hp
  · simpa only [if_neg hp] using hS hp

theorem map_option {γ : Type} (o : Option γ) (g : γ → α) :
    IsReader 0 m fun t => o.map fun y => (g y, t) := by
  cases o with
  | none => exact fail
  | some y => exact pass (g y)

/-! ## The first character -/

/-- A reader of at least one character. -/
theorem cons (hnil : R [] = none) (h : ∀ c, IsReader n m fun t => R (c :: t)) :
    IsReader (n + 1) m R where
  leaves := by
    intro t x rest hR
    cases t with
    | nil => cases hnil.symm.trans hR
    | cons c t =>
      obtain ⟨hrest, hlength⟩ := (h c).leaves t x rest hR
      exact ⟨hrest.trans (List.suffix_cons c t), by simpa using by omega⟩
  extends_append := by
    intro t
    cases t with
    | nil =>
      rw [hnil]
      refine .of_none fun v x rest hR => ?_
      have := ((h ')').leaves v x rest hR).2
      omega
    | cons c t => exact (h c).extends_append t

theorem eq_none_of_nil (h : IsReader (n + 1) m R) : R [] = none := by
  cases hR : R [] with
  | none => rfl
  | some x => cases (h.leaves [] x.1 x.2 hR).2

/-- A reader of at least one character, behind its first one. -/
theorem tail (h : IsReader (n + 1) m R) (c : Char) : IsReader n m fun t => R (c :: t) where
  leaves := by
    intro t x rest hR
    obtain ⟨hrest, hlength⟩ := h.leaves (c :: t) x rest hR
    rw [List.length_cons] at hlength
    rcases List.suffix_cons_iff.mp hrest with rfl | hrest
    · rw [List.length_cons] at hlength
      omega
    · exact ⟨hrest, by omega⟩
  extends_append := fun t => h.extends_append (c :: t)

/-- A reader that does something else if the text starts with the character `c`. -/
theorem cons_or {S : Text → Option (α × Text)} {c : Char} (hc : c ≠ ')')
    (h : IsReader i m fun t => R (c :: t)) (hS : IsReader n m S) (hi : n ≤ i + 1)
    (hR : ∀ t, (∀ u, t ≠ c :: u) → R t = S t) : IsReader n m R where
  leaves := by
    intro t x rest ht
    by_cases hstart : ∃ u, t = c :: u
    · obtain ⟨u, rfl⟩ := hstart
      obtain ⟨hrest, hlength⟩ := h.leaves u x rest ht
      exact ⟨hrest.trans (List.suffix_cons c u), by simpa using by omega⟩
    · rw [hR t (not_exists.mp hstart)] at ht
      exact hS.leaves t x rest ht
  extends_append := by
    intro t
    by_cases hstart : ∃ u, t = c :: u
    · obtain ⟨u, rfl⟩ := hstart
      exact h.extends_append u
    · have hmore : ∀ v u, t ++ ')' :: v ≠ c :: u := by
        intro v u heq
        cases t with
        | nil => exact hc (List.cons.inj heq).1.symm
        | cons d t =>
          rw [List.cons_append] at heq
          exact hstart ⟨t, congrArg (· :: t) (List.cons.inj heq).1⟩
      simpa only [hR t (not_exists.mp hstart), hR _ (hmore _)] using hS.extends_append t

end IsReader

end CatalogLint.Pattern
