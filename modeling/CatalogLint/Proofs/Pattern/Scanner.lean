import CatalogLint.Proofs.Pattern.Extension

/-!
# Numbers and escapes before a closing parenthesis

The readers of numbers and of escapes keep to `IsReader`. They stop in front of a closing
parenthesis, or pass over it in a comment, or as what stands between braces or behind `\p`. Only
behind `\b` braces that nothing follows are left, for the reader of repetitions, which refuses them
(`readWordEdge?_cases`).
-/

namespace CatalogLint.Pattern

variable {α : Type} {m n : Nat} {R : Text → Option (α × Text)} {p : Char → Bool}

/-! ## White space and comments -/

theorem suffix_takeSpaced (spaced : Bool) (p : Char → Bool) (comment : Bool) (t : Text) :
    (takeSpaced spaced p comment t).2 <:+ t := by
  fun_induction takeSpaced spaced p comment t with
  | case1 => exact List.suffix_rfl
  | case2 c t ih => exact ih.trans (List.suffix_cons c t)
  | case3 c t h ih => exact ih.trans (List.suffix_cons c t)
  | case4 c t h h' ih => exact ih.trans (List.suffix_cons c t)
  | case5 c t h h' hp taken rest heq ih =>
    rw [heq] at ih
    exact ih.trans (List.suffix_cons c t)
  | case6 c t h h' hp => exact List.suffix_rfl

/-- The taking of characters ends inside a text, or it goes on behind it, maybe in a comment. -/
theorem takeSpaced_append (spaced : Bool) (p : Char → Bool) (comment : Bool) (t : Text) :
    (∃ taken c rest, takeSpaced spaced p comment t = (taken, c :: rest) ∧
      ∀ u, takeSpaced spaced p comment (t ++ u) = (taken, c :: rest ++ u)) ∨
    ∃ taken comment', takeSpaced spaced p comment t = (taken, []) ∧
      ∀ u, takeSpaced spaced p comment (t ++ u) =
        (taken ++ (takeSpaced spaced p comment' u).1, (takeSpaced spaced p comment' u).2) := by
  fun_induction takeSpaced spaced p comment t with
  | case1 comment => exact Or.inr ⟨[], comment, rfl, fun u => rfl⟩
  | case2 c t ih => exact ih
  | case3 c t h ih =>
    simp only [List.cons_append, takeSpaced, h, if_true]
    exact ih
  | case4 c t h h' ih =>
    simp only [List.cons_append, takeSpaced, h, h', if_true]
    exact ih
  | case5 c t h h' hp taken rest heq ih =>
    simp only [List.cons_append, takeSpaced, h, h', hp, if_true]
    rcases ih with ⟨taken', d, rest', ht, hmore⟩ | ⟨taken', comment', ht, hmore⟩
    · cases heq.symm.trans ht
      exact Or.inl ⟨c :: taken, d, rest', rfl, fun u => by rw [hmore]; rfl⟩
    · cases heq.symm.trans ht
      exact Or.inr ⟨c :: taken, comment', rfl, fun u => by rw [hmore]; rfl⟩
  | case6 c t h h' hp =>
    refine Or.inl ⟨[], c, t, rfl, fun u => ?_⟩
    simp only [List.cons_append, takeSpaced, h, h', hp]
    rfl

/-- A closing parenthesis that is not taken is passed over in a comment only. -/
theorem takeSpaced_close (spaced : Bool) (hp : p ')' = false) (comment : Bool) :
    (∀ v, takeSpaced spaced p comment (')' :: v) = ([], ')' :: v)) ∨
      ∀ v, takeSpaced spaced p comment (')' :: v) = takeSpaced spaced p true v := by
  cases comment with
  | true => exact Or.inr fun v => rfl
  | false =>
    refine Or.inl fun v => ?_
    have hspace : isSpace ')' = false := by decide
    simp [takeSpaced, hp, hspace]

theorem isReader_take (f : Flags) (hp : p ')' = false) :
    IsReader 0 0 fun t => some (f.take p t) where
  leaves := by
    intro t x rest h
    obtain ⟨rfl, rfl⟩ := Prod.mk.inj (Option.some.inj h).symm
    have hsuffix := suffix_takeSpaced f.spaced p false t
    exact ⟨hsuffix, hsuffix.length_le⟩
  extends_append := by
    intro t
    rcases takeSpaced_append f.spaced p false t with
      ⟨taken, c, rest, ht, hmore⟩ | ⟨taken, comment, ht, hmore⟩
    · exact Or.inl ⟨taken, c :: rest, congrArg some ht, fun v => congrArg some (hmore _)⟩
    · rcases takeSpaced_close f.spaced hp comment with hclose | hclose
      · refine Or.inl ⟨taken, [], congrArg some ht, fun v => congrArg some ((hmore _).trans ?_)⟩
        rw [hclose, List.append_nil, List.nil_append]
      · refine Or.inr ⟨fun x rest h => ?_, fun v x rest h => ?_⟩
        · obtain ⟨rfl, rfl⟩ := Prod.mk.inj (Option.some.inj ((congrArg some ht).symm.trans h))
          refine ⟨rfl, congrArg some ((hmore _).trans ?_)⟩
          rw [hclose, takeSpaced, List.append_nil]
          exact ht.symm
        · have hrest : (takeSpaced f.spaced p true v).2 = rest := by
            rw [← hclose]
            exact congrArg Prod.snd ((hmore _).symm.trans (Option.some.inj h))
          rw [← hrest]
          exact (suffix_takeSpaced f.spaced p true v).length_le

/-- What is taken, maybe beyond a closing parenthesis, and a character behind it. -/
theorem IsReader.take_cons {S : Text → Text → Option (α × Text)}
    (h : ∀ taken, IsReader (n + 1) m (S taken)) (f : Flags) (p : Char → Bool) :
    IsReader (n + 1) m fun t => S (f.take p t).1 (f.take p t).2 where
  leaves := by
    intro t x rest hS
    have hsuffix := suffix_takeSpaced f.spaced p false t
    obtain ⟨hrest, hlength⟩ := (h _).leaves _ x rest hS
    exact ⟨hrest.trans hsuffix, Nat.le_trans hlength hsuffix.length_le⟩
  extends_append := by
    intro t
    rcases takeSpaced_append f.spaced p false t with
      ⟨taken, c, rest, ht, hmore⟩ | ⟨taken, comment, ht, hmore⟩
    · simpa only [Flags.take, ht, hmore] using (h taken).extends_append (c :: rest)
    · simp only [Flags.take, ht, hmore, (h taken).eq_none_of_nil]
      refine .of_none fun v x rest hS => ?_
      have hlength := ((h _).leaves _ x rest hS).2
      have := (suffix_takeSpaced f.spaced p comment (')' :: v)).length_le
      rw [List.length_cons] at this
      omega

theorem IsReader.take {S : Text → Text → Option (α × Text)} (h : ∀ taken, IsReader n m (S taken))
    (f : Flags) (hp : p ')' = false) :
    IsReader n m fun t => S (f.take p t).1 (f.take p t).2 := by
  have hbind : IsReader n m fun t => (some (f.take p t)).bind fun x => S x.1 x.2 :=
    (isReader_take f hp).bind h
  exact hbind

theorem isReader_skip (f : Flags) : IsReader 0 0 fun t => some ((), f.skip t) :=
  .take (fun _ => .pass ()) f rfl

/-- What counts goes on at a closing parenthesis, unless a comment is open. -/
theorem skip_cases (f : Flags) (t : Text) :
    (∀ v, f.skip (t ++ ')' :: v) = f.skip t ++ ')' :: v) ∨
    f.skip t = [] ∧ f.skip (t ++ [')']) = [] ∧
      ∀ v, (f.skip (t ++ ')' :: v)).length ≤ v.length := by
  rcases (isReader_skip f).extends_append t with ⟨_, rest, ht, hmore⟩ | ⟨hend, hmore⟩
  · refine Or.inl fun v => ?_
    have hskip : f.skip t = rest := congrArg Prod.snd (Option.some.inj ht)
    rw [hskip]
    exact congrArg Prod.snd (Option.some.inj (hmore v))
  · obtain ⟨hnil, hsame⟩ := hend () _ rfl
    have hskip : f.skip (t ++ [')']) = f.skip t := (Prod.mk.inj (Option.some.inj hsame)).2
    exact Or.inr ⟨hnil, hskip.trans hnil, fun v => hmore v () _ rfl⟩

theorem skip_append {f : Flags} {t : Text} (h : f.skip t ≠ []) (v : Text) :
    f.skip (t ++ ')' :: v) = f.skip t ++ ')' :: v := by
  rcases skip_cases f t with hmore | ⟨hnil, -⟩
  · exact hmore v
  · exact absurd hnil h

/-- What counts before a closing parenthesis that counts. -/
theorem skip_of_append {f : Flags} {t rest v : Text}
    (h : f.skip (t ++ ')' :: v) = rest ++ ')' :: v) :
    f.skip t = rest ∧ ∀ v, f.skip (t ++ ')' :: v) = rest ++ ')' :: v := by
  rcases skip_cases f t with hmore | ⟨-, -, hmore⟩
  · obtain rfl := List.append_cancel_right ((hmore v).symm.trans h)
    exact ⟨rfl, hmore⟩
  · have hlength := hmore v
    rw [h, List.length_append, List.length_cons] at hlength
    omega

theorem length_skip_append {f : Flags} {t : Text} (h : f.skip t = []) (v : Text) :
    (f.skip (t ++ ')' :: v)).length ≤ v.length + 1 := by
  rcases skip_cases f t with hmore | ⟨-, -, hmore⟩
  · rw [hmore, h]
    exact Nat.le_refl _
  · exact Nat.le_succ_of_le (hmore v)

/-- A reading from the first character that counts, where the readings with more behind the text may
know what that is. -/
theorem Extends.skip {S : Text → Option (α × Text)} {T : Text → Text → Option (α × Text)}
    {f : Flags} {t : Text} (hS : Leaves n S) (hT : ∀ v, Leaves n (T v)) (hnil : T [] [] = S [])
    (h : Extends m (S (f.skip t)) fun v => T v (f.skip t ++ ')' :: v)) :
    Extends m (S (f.skip t)) fun v => T v (f.skip (t ++ ')' :: v)) := by
  have hbind : Extends m ((some ((), f.skip t)).bind fun x => S x.2) fun v =>
      (some ((), f.skip (t ++ ')' :: v))).bind fun x => T v x.2 := by
    refine ((isReader_skip f).extends_append t).bind_with (fun _ => hS) (fun v _ => hT v)
      (fun _ => hnil) (fun x rest hrest => ?_) (Nat.zero_le _)
    obtain ⟨-, rfl⟩ := Prod.mk.inj (Option.some.inj hrest)
    exact h
  exact hbind

theorem IsReader.skip (h : IsReader n m R) (f : Flags) : IsReader n m fun t => R (f.skip t) :=
  IsReader.take (fun _ => h) f rfl

theorem dropWhile_isSpace_append (t v : Text) :
    (t ++ ')' :: v).dropWhile isSpace = t.dropWhile isSpace ++ ')' :: v := by
  induction t with
  | nil => rfl
  | cons c t ih =>
    cases hc : isSpace c with
    | true => simpa [hc] using ih
    | false => simp [hc]

/-- White space ends in front of a closing parenthesis, and there are no comments. -/
theorem isReader_dropSpace : IsReader 0 0 fun t => some ((), t.dropWhile isSpace) where
  leaves := by
    intro t x rest h
    obtain ⟨-, rfl⟩ := Prod.mk.inj (Option.some.inj h).symm
    have hsuffix := List.dropWhile_suffix (l := t) isSpace
    exact ⟨hsuffix, hsuffix.length_le⟩
  extends_append := by
    intro t
    simp only [dropWhile_isSpace_append]
    exact Or.inl ⟨(), t.dropWhile isSpace, rfl, fun v => rfl⟩

theorem IsReader.dropSpace (h : IsReader n m R) :
    IsReader n m fun t => R (t.dropWhile isSpace) := by
  have hbind : IsReader n m fun t => (some ((), t.dropWhile isSpace)).bind fun x => R x.2 :=
    isReader_dropSpace.bind fun _ => h
  exact hbind

/-! ## Numbers -/

theorem isReader_hexDigits? (f : Flags) (count : Nat) : IsReader 0 0 (hexDigits? f count) := by
  induction count with
  | zero => exact .pass []
  | succ count ih =>
    refine (IsReader.cons rfl fun c => ?_).mono (Nat.zero_le 1) (Nat.le_refl 0)
    exact .ite _ (fun _ => (ih.skip f).map fun _ => ⟨_, fun _ => rfl⟩) fun _ => .fail

theorem isReader_readCount? (f : Flags) : IsReader 0 0 (readCount? f) := by
  have hcount : ∀ digits, IsReader 0 0 fun t =>
      if digits.isEmpty || Nat.pow 2 32 ≤ Decimal.digitsValue digits then none
      else some (Decimal.digitsValue digits, t.dropWhile isSpace) := fun digits =>
    .ite _ (fun _ => .fail) fun _ => (IsReader.pass _).dropSpace
  exact (IsReader.take hcount f rfl).dropSpace

/-- The upper bound of a repetition with its closing brace. -/
theorem isReader_mostCount (f : Flags) (least : Nat) : IsReader 0 0 fun t =>
    (readCount? f t).bind fun (most, t) =>
      match t with
      | '\x7d' :: t => if least ≤ most then some ((least, some most), t) else none
      | _ => none := by
  refine (isReader_readCount? f).bind fun most =>
    (IsReader.cons rfl fun c => ?_).mono (Nat.zero_le 1) (Nat.le_refl 0)
  by_cases hclose : c = '\x7d'
  · subst hclose
    exact .ite _ (fun _ => .pass _) fun _ => .fail
  · simpa [hclose] using .fail

/-- The upper bound of a repetition with its closing brace, or the brace alone. -/
theorem isReader_countBound (f : Flags) (least : Nat) : IsReader 0 0 fun t =>
    match t with
    | '\x7d' :: t => some ((least, none), t)
    | t => (readCount? f t).bind fun (most, t) =>
      match t with
      | '\x7d' :: t => if least ≤ most then some ((least, some most), t) else none
      | _ => none := by
  refine .cons_or (c := '\x7d') (by decide) (.pass _) (isReader_mostCount f least)
    (Nat.zero_le 1) fun t ht => ?_
  split
  · exact absurd rfl (ht _)
  · rfl

theorem isReader_readCounts? (f : Flags) : IsReader 0 0 (readCounts? f) := by
  refine ((isReader_readCount? f).skip f).bind fun least =>
    (IsReader.cons rfl fun c => ?_).mono (Nat.zero_le 1) (Nat.le_refl 0)
  by_cases hclose : c = '\x7d'
  · subst hclose
    exact .pass _
  · by_cases hcomma : c = ','
    · subst hcomma
      exact (isReader_countBound f least).skip f
    · simpa [hclose, hcomma] using .fail

theorem isReader_fixedPoint (f : Flags) (count : Nat) : IsReader 0 0 fun t =>
    (hexDigits? f count t).bind fun (digits, rest) =>
      (charOf? (hexValue digits)).map fun c => (c, rest) :=
  (isReader_hexDigits? f count).bind fun _ => .map_option _ fun c => c

theorem isReader_bracedPoint (f : Flags) (digits : Text) : IsReader 0 0 fun t =>
    match (digits, t) with
    | ([], _) => none
    | (digits, '\x7d' :: rest) => (charOf? (hexValue digits)).map fun c => (c, f.skip rest)
    | _ => none := by
  cases digits with
  | nil => exact .fail
  | cons d digits =>
    refine (IsReader.cons rfl fun c => ?_).mono (Nat.zero_le 1) (Nat.le_refl 0)
    by_cases hclose : c = '\x7d'
    · subst hclose
      exact (IsReader.map_option _ fun c => c).skip f
    · simpa [hclose] using .fail

theorem isReader_codePoint (f : Flags) (count : Nat) : IsReader 0 0 fun t =>
    match t with
    | '\x7b' :: t =>
      match f.take (fun c => (hexDigit? c).isSome) t with
      | ([], _) => none
      | (digits, '\x7d' :: rest) => (charOf? (hexValue digits)).map fun c => (c, f.skip rest)
      | _ => none
    | t => (hexDigits? f count t).bind fun (digits, rest) =>
      (charOf? (hexValue digits)).map fun c => (c, rest) := by
  refine .cons_or (c := '\x7b') (by decide) (.take (isReader_bracedPoint f) f rfl)
    (isReader_fixedPoint f count) (Nat.zero_le 1) fun t ht => ?_
  split
  · exact absurd rfl (ht _)
  · rfl

theorem isReader_readCodePoint? (f : Flags) (count : Nat) :
    IsReader 0 0 (readCodePoint? f count) :=
  (isReader_codePoint f count).skip f

theorem isReader_bracedContent (content : Text) : IsReader 1 0 fun t =>
    match (content, t) with
    | (content, '\x7d' :: rest) => some (content, rest)
    | _ => none := by
  refine IsReader.cons rfl fun c => ?_
  by_cases hclose : c = '\x7d'
  · subst hclose
    exact .pass content
  · simpa [hclose] using .fail

theorem isReader_content (f : Flags) : IsReader 1 0 fun t =>
    match t with
    | '\x7b' :: t =>
      match f.take (· != '\x7d') t with
      | (content, '\x7d' :: rest) => some (content, rest)
      | _ => none
    | '\\' :: _ => none
    | c :: rest => some ([c], rest)
    | [] => none := by
  refine IsReader.cons rfl fun c => ?_
  by_cases hopen : c = '\x7b'
  · subst hopen
    exact (IsReader.take_cons isReader_bracedContent f _).mono (Nat.zero_le 1) (Nat.le_refl 0)
  · by_cases hescape : c = '\\'
    · subst hescape
      exact .fail
    · simpa [hopen, hescape] using .pass [c]

theorem isReader_readProperty? (f : Flags) (negated : Bool) :
    IsReader 0 0 (readProperty? f negated) := by
  have hcontent := (isReader_content f).mono (Nat.zero_le 1) (Nat.le_refl 0)
  exact (hcontent.skip f).bind fun content =>
    .ite _ (fun _ => .fail) fun _ => .map_option _ _

/-! ## Escapes -/

theorem readCodePoint?_of_skip {f : Flags} {count : Nat} {t : Text} (h : f.skip t = []) :
    readCodePoint? f (count + 1) t = none := by
  rw [readCodePoint?, h]
  rfl

/-- A code point and whether it was written as a byte. -/
theorem isReader_readByte (f : Flags) (count : Nat) (byte : Bool) :
    IsReader 0 0 fun t => (readCodePoint? f (count + 1) t).map fun (d, rest) =>
      (Atom.char d (byte && (f.skip t).head? != some '\x7b'), rest) where
  leaves := by
    intro t x rest h
    obtain ⟨⟨d, left⟩, hread, hx⟩ := Option.map_eq_some_iff.mp h
    cases hx
    exact (isReader_readCodePoint? f _).leaves t d rest hread
  extends_append := by
    intro t
    have hread := (isReader_readCodePoint? f (count + 1)).extends_append t
    by_cases hskip : f.skip t = []
    · rcases hread with ⟨x, rest, hx, -⟩ | ⟨-, hmore⟩
      · cases (readCodePoint?_of_skip hskip).symm.trans hx
      · rw [readCodePoint?_of_skip hskip]
        refine .of_none fun v x rest hv => ?_
        obtain ⟨⟨d, left⟩, hd, hx⟩ := Option.map_eq_some_iff.mp hv
        cases hx
        exact hmore v d rest hd
    · have hhead : ∀ v, (f.skip (t ++ ')' :: v)).head? = (f.skip t).head? := fun v => by
        rw [skip_append hskip, List.head?_append, List.head?_eq_some_head hskip, Option.some_or]
      simp only [hhead]
      exact Extends.map hread fun d => ⟨.char d _, fun _ => rfl⟩

/-- A name between braces behind `\b`. -/
theorem isReader_edgeName (f : Flags) : IsReader 1 0 fun t =>
    match f.take (fun c => c.isAlpha || c == '-') t with
    | (name, '\x7d' :: rest) => (wordEdge? name).map fun edge => (edge, rest)
    | _ => none := by
  have hname : ∀ name : Text, IsReader 1 0 fun t =>
      match (name, t) with
      | (name, '\x7d' :: rest) => (wordEdge? name).map fun edge => (edge, rest)
      | _ => none := by
    refine fun name => IsReader.cons rfl fun c => ?_
    by_cases hclose : c = '\x7d'
    · subst hclose
      exact .map_option _ fun edge => edge
    · simpa [hclose] using .fail
  exact .take_cons hname f _

theorem readCounts?_of_skip {f : Flags} {t : Text} (h : f.skip t = []) :
    readCounts? f t = none := by
  rw [readCounts?, h]
  rfl

theorem readWordEdge?_brace (f : Flags) (inner : Text) :
    readWordEdge? f ('\x7b' :: inner) =
      match f.skip inner with
      | [] => none
      | c :: body =>
        if c.isAlpha || c == '-' then
          match f.take (fun c => c.isAlpha || c == '-') (c :: body) with
          | (name, '\x7d' :: rest) => (wordEdge? name).map fun edge => (edge, rest)
          | _ => none
        else some (.boundary, '\x7b' :: inner) :=
  rfl

theorem readWordEdge?_of_ne (f : Flags) {c : Char} (hc : c ≠ '\x7b') (t : Text) :
    readWordEdge? f (c :: t) = some (.boundary, c :: t) := by
  simp [readWordEdge?, hc]

theorem leaves_readWordEdge? (f : Flags) : Leaves 0 (readWordEdge? f) := by
  intro t edge rest h
  have hsuffix : rest <:+ t := by
    cases t with
    | nil =>
      cases h
      exact List.suffix_rfl
    | cons c inner =>
      by_cases hopen : c = '\x7b'
      · subst hopen
        have hskip : f.skip inner <:+ inner := suffix_takeSpaced f.spaced _ false inner
        rw [readWordEdge?_brace] at h
        split at h
        · cases h
        · rename_i c body hbody
          rw [hbody] at hskip
          split at h
          · have hrest := ((isReader_edgeName f).leaves (c :: body) edge rest h).1
            exact (hrest.trans hskip).trans (List.suffix_cons _ _)
          · cases h
            exact List.suffix_rfl
      · cases (readWordEdge?_of_ne f hopen inner).symm.trans h
        exact List.suffix_rfl
  exact ⟨hsuffix, hsuffix.length_le⟩

/-- A brace behind `\b` that nothing is behind is left if something is put behind it. -/
theorem readWordEdge?_cases (f : Flags) (t : Text) :
    (Extends 0 (readWordEdge? f t) fun v => readWordEdge? f (t ++ ')' :: v)) ∨
    readWordEdge? f t = none ∧ ∃ inner, t = '\x7b' :: inner ∧ readCounts? f inner = none ∧
      ∀ v edge rest, readWordEdge? f (t ++ ')' :: v) = some (edge, rest) →
        rest.length ≤ v.length ∨ rest = t ++ ')' :: v := by
  cases t with
  | nil => exact Or.inl (Or.inl ⟨.boundary, [], rfl, fun _ => rfl⟩)
  | cons c inner =>
    by_cases hopen : c = '\x7b'
    · subst hopen
      cases hskip : f.skip inner with
      | nil =>
        refine Or.inr ⟨?_, inner, rfl, readCounts?_of_skip hskip, fun v edge rest hread => ?_⟩
        · rw [readWordEdge?_brace, hskip]
        · have hlength := length_skip_append hskip v
          rw [List.cons_append, readWordEdge?_brace] at hread
          split at hread
          · cases hread
          · rename_i c body hmore
            split at hread
            · have := ((isReader_edgeName f).leaves (c :: body) edge rest hread).2
              rw [hmore] at hlength
              exact Or.inl (by omega)
            · cases hread
              exact Or.inr rfl
      | cons c body =>
        have hmore : ∀ v, f.skip (inner ++ ')' :: v) = c :: (body ++ ')' :: v) := fun v => by
          rw [skip_append (by simp [hskip]), hskip, List.cons_append]
        simp only [List.cons_append, readWordEdge?_brace, hskip, hmore]
        by_cases hname : (c.isAlpha || c == '-') = true
        · simp only [if_pos hname]
          exact Or.inl ((isReader_edgeName f).extends_append (c :: body))
        · simp only [if_neg hname]
          exact Or.inl (Or.inl ⟨.boundary, '\x7b' :: inner, rfl, fun _ => rfl⟩)
    · have hpass := readWordEdge?_of_ne f hopen
      exact Or.inl (Or.inl ⟨.boundary, c :: inner, hpass _, fun v => hpass _⟩)

theorem readEscape?_edge (f : Flags) (t : Text) :
    readEscape? f ('b' :: t) = (readWordEdge? f t).map fun (edge, rest) =>
      (.anchor (.word edge f.ascii), rest) :=
  rfl

theorem isReader_readEscape? (f : Flags) {c : Char} (hc : c ≠ 'b') :
    IsReader 0 0 fun t => readEscape? f (c :: t) := by
  refine .ite _ (fun hpoint => ?_) fun _ => .ite _ (fun _ => ?_) fun _ =>
    .ite _ (fun _ => .map_option _ _) fun _ => .ite _ (fun _ => .pass _) fun _ => ?_
  · simp only [Bool.or_eq_true, decide_eq_true_eq] at hpoint
    rcases hpoint with (rfl | rfl) | rfl
    · exact isReader_readByte f 1 true
    · exact isReader_readByte f 3 false
    · exact isReader_readByte f 7 false
  · exact (isReader_readProperty? f _).map fun _ => ⟨_, fun _ => rfl⟩
  · cases controlChar? c with
    | some d => exact .pass _
    | none =>
      by_cases hstart : c = 'A'
      · subst hstart
        exact .pass _
      · by_cases hend : c = 'z'
        · subst hend
          exact .pass _
        · by_cases hno : c = 'B'
          · subst hno
            exact .pass _
          · by_cases hleft : c = '<'
            · subst hleft
              exact .pass _
            · by_cases hright : c = '>'
              · subst hright
                exact .pass _
              · simpa [hc, hstart, hend, hno, hleft, hright] using .fail

end CatalogLint.Pattern
