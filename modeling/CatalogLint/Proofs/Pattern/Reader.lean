import CatalogLint.Proofs.Pattern.Class

/-!
# Patterns before a closing parenthesis

A pattern that is well formed by itself is read in the same way inside a group, up to the closing
parenthesis of the group, unless a comment of spaced mode passes over that parenthesis
(`run?_under_cases`). Whatever is read to the end inside a group starts with a pattern that is well
formed by itself and a closing parenthesis behind it (`exists_of_run?_under`).
-/

namespace CatalogLint.Pattern

variable {α : Type} {m n : Nat} {R : Text → Option (α × Text)}

/-! ## Groups -/

theorem take_of_not_spaced (p : Char → Bool) (t : Text) :
    Flags.take {} p t = (t.takeWhile p, t.dropWhile p) := by
  rw [Flags.take]
  induction t with
  | nil => rfl
  | cons c t ih =>
    cases hp : p c with
    | true => simp [takeSpaced, hp, ih]
    | false => simp [takeSpaced, hp]

namespace Reader

theorem isReader_name (isFirst isLater : Char → Bool) (name : Text) : IsReader 1 0 fun t =>
    match name, t with
    | c :: name, _ :: rest =>
      if isFirst c && name.all isLater then some (c :: name, rest) else none
    | _, _ => none := by
  cases name with
  | nil => exact .fail
  | cons c name => exact .cons rfl fun _ => .ite _ (fun _ => .pass _) fun _ => .fail

theorem isReader_readName? : IsReader 1 0 readName? := by
  let isFirst (c : Char) : Bool := c == '_' || CodePoint.Property.isAlphabetic c
  let isLater (c : Char) : Bool :=
    c == '_' || c == '.' || c == '[' || c == ']' || CodePoint.Property.isAlphanumeric c
  have htake := IsReader.take_cons (isReader_name isFirst isLater) {} (· != '>')
  simp only [take_of_not_spaced] at htake
  exact htake

theorem suffix_readFlags? {on : Bool} {seen t : Text} {f : Flags} {x : Flags × Bool × Text}
    (h : readFlags? on seen f t = some x) : x.2.2 <:+ t := by
  induction t generalizing on seen f with
  | nil => cases h
  | cons c t ih =>
    rw [readFlags?] at h
    split at h
    · split at h
      · cases h
      · cases h
        exact List.suffix_rfl
    · split at h
      · cases h
      · split at h
        · exact (ih h).trans (List.suffix_cons c t)
        · obtain ⟨f', -, hx⟩ := Option.bind_eq_some_iff.mp h
          exact (ih hx).trans (List.suffix_cons c t)

/-- The flags of a group, up to a colon or a closing parenthesis. -/
theorem isReader_readFlags? (on : Bool) (seen : Text) (f : Flags) : IsReader 0 1 fun t =>
    (readFlags? on seen f t).map fun (flags, given, rest) => ((flags, given), rest) where
  leaves := by
    intro t x rest h
    obtain ⟨⟨flags, given, left⟩, hflags, hx⟩ := Option.map_eq_some_iff.mp h
    cases hx
    have hsuffix := suffix_readFlags? hflags
    exact ⟨hsuffix, hsuffix.length_le⟩
  extends_append := by
    intro t
    induction t generalizing on seen f with
    | nil =>
      refine .of_none fun v x rest h => ?_
      obtain ⟨⟨flags, given, left⟩, hflags, hx⟩ := Option.map_eq_some_iff.mp h
      cases hx
      exact (suffix_readFlags? hflags).length_le
    | cons c t ih =>
      simp only [List.cons_append, readFlags?]
      by_cases hend : (c = ':' || c = ')') = true
      · simp only [if_pos hend]
        by_cases hhyphen : seen.head? = some '-'
        · simp only [if_pos hhyphen]
          exact .of_none nofun
        · simp only [if_neg hhyphen]
          exact Or.inl ⟨_, c :: t, rfl, fun v => rfl⟩
      · simp only [if_neg hend]
        by_cases hseen : seen.contains c = true
        · simp only [if_pos hseen]
          exact .of_none nofun
        · simp only [if_neg hseen]
          by_cases hhyphen : c = '-'
          · simp only [if_pos hhyphen]
            exact ih _ _ _
          · simp only [if_neg hhyphen]
            cases f.set? c on with
            | none => exact .of_none nofun
            | some f' => exact ih _ _ _

variable (r : Reader)

/-- What flags are for: the rest of the group at hand, or a group. -/
def endFlags? (flags : Flags) (given : Bool) : Text → Option (Reader × Text)
  | [] => none
  | ')' :: rest => if given then some ({ r with flags, inner := r.inner.push none }, rest) else none
  | _ :: rest => some (r.openGroup flags, rest)

theorem endFlags?_of_ne {c : Char} (hc : c ≠ ')') (flags : Flags) (given : Bool) (rest : Text) :
    r.endFlags? flags given (c :: rest) = some (r.openGroup flags, rest) := by
  rw [endFlags?]
  exact hc

def flagGroup? (t : Text) : Option (Reader × Text) :=
  match readFlags? true [] r.flags t with
  | some (flags, given, ')' :: rest) =>
    if given then some ({ r with flags, inner := r.inner.push none }, rest) else none
  | some (flags, _, _ :: rest) => some (r.openGroup flags, rest)
  | _ => none

def namedGroup? (t : Text) : Option (Reader × Text) :=
  (readName? t).bind fun (name, rest) =>
    if r.names.contains name then none
    else some ({ r.openGroup r.flags with names := name :: r.names }, rest)

/-- A group behind its opening parenthesis and what does not count there. -/
def startGroup? : Text → Option (Reader × Text)
  | '?' :: '=' :: _ | '?' :: '!' :: _ | '?' :: '<' :: '=' :: _ | '?' :: '<' :: '!' :: _ => none
  | '?' :: 'P' :: '<' :: t => r.namedGroup? t
  | '?' :: '<' :: t => r.namedGroup? t
  | '?' :: t => r.flagGroup? t
  | t => some (r.openGroup r.flags, t)

theorem readGroup?_eq (t : Text) : r.readGroup? t = r.startGroup? (r.flags.skip t) :=
  rfl

theorem flagGroup?_eq (t : Text) : r.flagGroup? t =
    ((readFlags? true [] r.flags t).map fun (flags, given, rest) => ((flags, given), rest)).bind
      fun x => r.endFlags? x.1.1 x.1.2 x.2 := by
  rw [flagGroup?]
  cases readFlags? true [] r.flags t with
  | none => rfl
  | some x =>
    obtain ⟨flags, given, rest⟩ := x
    cases rest with
    | nil => rfl
    | cons c rest =>
      by_cases hclose : c = ')'
      · subst hclose
        rfl
      · rw [Option.map_some, Option.bind_some, endFlags?_of_ne r hclose]
        split
        · rename_i heq
          cases heq
          exact absurd rfl hclose
        · rename_i heq
          cases heq
          rfl
        · rename_i hnone
          exact (hnone _ _ _ _ rfl).elim

theorem isReader_namedGroup? : IsReader 1 0 r.namedGroup? :=
  isReader_readName?.bind_of_le (j := 0) (fun _ => .ite _ (fun _ => .fail) fun _ => .pass _)
    (Nat.le_refl 0)

theorem isReader_flagGroup? : IsReader 1 0 r.flagGroup? := by
  have hend : ∀ x : Flags × Bool, IsReader 1 0 (r.endFlags? x.1 x.2) := by
    refine fun x => .cons rfl fun c => ?_
    by_cases hclose : c = ')'
    · subst hclose
      exact .ite _ (fun _ => .pass _) fun _ => .fail
    · simpa only [endFlags?_of_ne r hclose] using IsReader.pass (m := 0) (r.openGroup x.1)
  have hbind := (isReader_readFlags? true [] r.flags).bind_of_le (j := 1) (m := 0)
    (k := fun x => r.endFlags? x.1.1 x.1.2 x.2) hend (Nat.le_refl 1)
  simpa only [← flagGroup?_eq] using hbind

theorem isReader_startGroup? : IsReader 0 0 r.startGroup? := by
  refine .cons_or (c := '?') (n := 0) (by decide) (IsReader.cons (n := 0) rfl fun c => ?_)
    (.pass (r.openGroup r.flags)) (Nat.zero_le _) fun t ht => ?_
  · by_cases hahead : c = '=' ∨ c = '!'
    · rcases hahead with rfl | rfl
      · exact .fail
      · exact .fail
    · rw [not_or] at hahead
      by_cases hname : c = 'P'
      · subst hname
        refine .cons_or (c := '<') (by decide) r.isReader_namedGroup?
          (r.isReader_flagGroup?.tail 'P') (Nat.zero_le _) fun t ht => ?_
        cases t with
        | nil => rfl
        | cons c t =>
          have hc : c ≠ '<' := by
            rintro rfl
            exact ht t rfl
          simp [startGroup?, hc]
      · by_cases hangle : c = '<'
        · subst hangle
          refine IsReader.mono (IsReader.cons (n := 0) rfl fun c => ?_) (Nat.zero_le _)
            (Nat.le_refl 0)
          by_cases hbehind : c = '=' ∨ c = '!'
          · rcases hbehind with rfl | rfl
            · exact .fail
            · exact .fail
          · rw [not_or] at hbehind
            simpa [startGroup?, hbehind] using r.isReader_namedGroup?.tail c
        · simpa [startGroup?, hahead, hname, hangle] using r.isReader_flagGroup?.tail c
  · cases t with
    | nil => rfl
    | cons c t =>
      have hc : c ≠ '?' := by
        rintro rfl
        exact ht t rfl
      simp [startGroup?, hc]

theorem isReader_readGroup? : IsReader 0 0 r.readGroup? :=
  r.isReader_startGroup?.skip r.flags

/-! ## Steps -/

theorem isReader_dropReluctant : IsReader 0 0 fun t => some ((), dropReluctant t) := by
  refine .cons_or (c := '?') (by decide) (.pass ()) (.pass ()) (Nat.zero_le 1) fun t ht => ?_
  rw [dropReluctant]
  exact ht

/-- A repetition behind its sign. -/
theorem isReader_repeat (least : Nat) (most : Option Nat) : IsReader 0 0 fun t =>
    (r.repeatLast? least most).map fun r' => (r', dropReluctant t) := by
  have hbind : IsReader 0 0 fun t => (some ((), dropReluctant t)).bind fun x =>
      (r.repeatLast? least most).map fun r' => (r', x.2) :=
    isReader_dropReluctant.bind fun _ => .map_option _ fun r' => r'
  exact hbind

theorem isReader_step? {c : Char} (hc : c ≠ '\\') : IsReader 0 0 (r.step? c) := by
  unfold step?
  split
  · exact r.isReader_readGroup?
  · exact .map_option _ fun r' => r'
  · exact .pass _
  · exact ((isReader_readClass? r.flags).mono (Nat.zero_le 1) (Nat.le_refl 0)).map
      fun set => ⟨_, fun _ => rfl⟩
  · exact r.isReader_repeat 0 (some 1)
  · exact r.isReader_repeat 0 none
  · exact r.isReader_repeat 1 none
  · exact (isReader_readCounts? r.flags).bind fun counts =>
      (r.isReader_repeat counts.1 counts.2).skip r.flags
  · exact absurd rfl hc
  · exact .map_option _ fun set => r.push (.char set)
  · exact .pass _
  · exact .pass _
  · exact .map_option _ fun r' => r'

theorem isReader_step?_escape {c : Char} (hc : c ≠ 'b') :
    IsReader 0 0 fun t => r.step? '\\' (c :: t) :=
  (isReader_readEscape? r.flags hc).bind fun _ => .map_option _ fun r' => r'

/-- The edge of a word is pushed in front of what its reader leaves. -/
theorem step?_edge (t : Text) : r.step? '\\' ('b' :: t) =
    (readWordEdge? r.flags t).map fun (edge, rest) =>
      (r.push (.anchor (.word edge r.flags.ascii)), rest) := by
  rw [step?, readEscape?_edge]
  cases readWordEdge? r.flags t with
  | none => rfl
  | some x => rfl

theorem leaves_step? (c : Char) : Leaves 0 (r.step? c) := by
  by_cases hc : c = '\\'
  · subst hc
    intro t r' rest h
    have hsuffix : rest <:+ t := by
      cases t with
      | nil => cases h
      | cons c t =>
        refine List.IsSuffix.trans ?_ (List.suffix_cons c t)
        by_cases hedge : c = 'b'
        · subst hedge
          rw [step?_edge] at h
          obtain ⟨⟨edge, left⟩, hread, hx⟩ := Option.map_eq_some_iff.mp h
          cases hx
          exact (leaves_readWordEdge? r.flags t edge rest hread).1
        · exact ((r.isReader_step?_escape hedge).leaves t r' rest h).1
    exact ⟨hsuffix, hsuffix.length_le⟩
  · exact (r.isReader_step? hc).leaves

variable {r} {a : Option (Reader × Text)} {b : Text → Option (Reader × Text)}

/-- A step reads the same in front of a closing parenthesis, or it comes to the end of the text.
Then it passes over the parenthesis, or what it leaves in front of it is refused. -/
def Goes (a : Option (Reader × Text)) (b : Text → Option (Reader × Text)) : Prop :=
  Stops a b ∨
    (∀ r' rest, a = some (r', rest) → rest = [] ∧ b [] = a) ∧
      ∀ v r' rest, b v = some (r', rest) → rest.length ≤ v.length ∨
        ∃ u, rest = u ++ ')' :: v ∧ ∀ bound, run? bound r' u = none

theorem goes_of_extends (h : Extends 0 a b) : Goes a b :=
  h.imp_right fun ⟨hend, hmore⟩ => ⟨hend, fun v r' rest hv => Or.inl (hmore v r' rest hv)⟩

theorem run?_brace {inner : Text} (h : readCounts? r.flags inner = none) (bound : Nat) :
    run? bound r ('\x7b' :: inner) = none := by
  cases bound with
  | zero => rfl
  | succ bound =>
    have hskip : r.flags.skip ('\x7b' :: inner) = '\x7b' :: inner := by
      have hspace : isSpace '\x7b' = false := by decide
      simp [Flags.skip, Flags.take, takeSpaced, hspace]
    rw [run?, hskip]
    dsimp only
    rw [step?, h]
    rfl

theorem goes_step? (r : Reader) (c : Char) (t : Text) :
    Goes (r.step? c t) fun v => r.step? c (t ++ ')' :: v) := by
  by_cases hc : c = '\\'
  · subst hc
    cases t with
    | nil =>
      refine goes_of_extends (.of_none fun v r' rest h => ?_)
      exact ((r.isReader_step?_escape (c := ')') (by decide)).leaves v r' rest h).2
    | cons c t =>
      by_cases hedge : c = 'b'
      · subst hedge
        simp only [List.cons_append, step?_edge]
        rcases readWordEdge?_cases r.flags t with hread | ⟨hnone, inner, rfl, hcounts, hmore⟩
        · exact goes_of_extends (hread.map fun edge =>
            ⟨r.push (.anchor (.word edge r.flags.ascii)), fun _ => rfl⟩)
        · refine Or.inr ⟨?_, fun v r' rest h => ?_⟩
          · rw [hnone]
            exact nofun
          · obtain ⟨⟨edge, left⟩, hread, hx⟩ := Option.map_eq_some_iff.mp h
            cases hx
            refine (hmore v edge _ hread).imp_right fun hrest => ⟨_, hrest, fun bound => ?_⟩
            exact run?_brace (r := r.push _) hcounts bound
      · exact goes_of_extends ((r.isReader_step?_escape hedge).extends_append t)
  · exact goes_of_extends ((r.isReader_step? hc).extends_append t)

theorem step?_cases (r : Reader) (c : Char) (t : Text) :
    (∃ r' rest, r.step? c t = some (r', rest) ∧
      ∀ v, r.step? c (t ++ ')' :: v) = some (r', rest ++ ')' :: v)) ∨
    (∀ r' rest, r.step? c t = some (r', rest) →
      rest = [] ∧ r.step? c (t ++ [')']) = r.step? c t) ∧
    ∀ v r' rest, r.step? c (t ++ ')' :: v) = some (r', rest) → rest.length ≤ v.length ∨
      ∃ u, rest = u ++ ')' :: v ∧ ∀ bound, run? bound r' u = none :=
  goes_step? r c t

/-! ## Inside a group -/

/-- The reader inside one more group. -/
def under (r : Reader) (frame : Flags × Branches) : Reader := { r with outer := r.outer ++ [frame] }

variable {frame : Flags × Branches}

@[simp] theorem under_flags (r : Reader) : (r.under frame).flags = r.flags := rfl

@[simp] theorem under_inner (r : Reader) : (r.under frame).inner = r.inner := rfl

theorem outer_under (r : Reader) : (r.under frame).outer.isEmpty = false := by
  simp [under]

/-- The result of a step inside one more group. -/
def raise (frame : Flags × Branches) (x : Reader × Text) : Reader × Text := (x.1.under frame, x.2)

theorem namedGroup?_under (r : Reader) (t : Text) :
    (r.under frame).namedGroup? t = (r.namedGroup? t).map (raise frame) := by
  rw [namedGroup?, namedGroup?]
  cases readName? t with
  | none => rfl
  | some x =>
    simp only [Option.bind_some]
    by_cases hname : r.names.contains x.1 = true
    · rw [if_pos hname]
      exact if_pos hname
    · rw [if_neg hname]
      exact if_neg hname

theorem flagGroup?_under (r : Reader) (t : Text) :
    (r.under frame).flagGroup? t = (r.flagGroup? t).map (raise frame) := by
  rw [flagGroup?_eq, flagGroup?_eq, under_flags]
  cases readFlags? true [] r.flags t with
  | none => rfl
  | some x =>
    obtain ⟨flags, given, rest⟩ := x
    simp only [Option.map_some, Option.bind_some]
    cases rest with
    | nil => rfl
    | cons c rest =>
      by_cases hclose : c = ')'
      · subst hclose
        cases given with
        | true => rfl
        | false => rfl
      · rw [endFlags?_of_ne _ hclose, endFlags?_of_ne _ hclose]
        rfl

theorem readGroup?_under (r : Reader) (t : Text) :
    (r.under frame).readGroup? t = (r.readGroup? t).map (raise frame) := by
  rw [readGroup?_eq, readGroup?_eq, under_flags, startGroup?.eq_def, startGroup?.eq_def]
  split
  · rfl
  · rfl
  · rfl
  · rfl
  · exact r.namedGroup?_under _
  · exact r.namedGroup?_under _
  · exact r.flagGroup?_under _
  · rfl

theorem repeatLast?_under (r : Reader) (least : Nat) (most : Option Nat) :
    (r.under frame).repeatLast? least most =
      (r.repeatLast? least most).map fun r' => r'.under frame := by
  rw [repeatLast?, repeatLast?, under_inner]
  cases r.inner.repeatLast? least most with
  | none => rfl
  | some inner => rfl

theorem pushAtom?_under (r : Reader) (atom : Atom) :
    (r.under frame).pushAtom? atom = (r.pushAtom? atom).map fun r' => r'.under frame := by
  cases atom with
  | char c byte =>
    rw [pushAtom?, pushAtom?, under_flags]
    cases literal? r.flags c byte with
    | none => rfl
    | some set => rfl
  | set s => rfl
  | anchor a => rfl

/-- A step does not know about the groups around the one at hand, unless it closes this one. -/
theorem step?_under (r : Reader) {c : Char} (hc : c ≠ ')' ∨ r.outer ≠ []) (t : Text) :
    (r.under frame).step? c t = (r.step? c t).map (raise frame) := by
  have hmap : ∀ (o : Option Reader) (u : Text), ((o.map fun r' => r'.under frame).map fun r' =>
      (r', u)) = (o.map fun r' => (r', u)).map (raise frame) := by
    intro o u
    cases o with
    | none => rfl
    | some r' => rfl
  unfold step?
  split
  · exact r.readGroup?_under t
  · cases houter : r.outer with
    | nil => exact absurd houter (hc.resolve_left (fun h => h rfl))
    | cons parent outer =>
      simp [closeGroup?, under, houter, raise]
  · rfl
  · rw [under_flags]
    cases readClass? r.flags t with
    | none => rfl
    | some x => rfl
  · rw [repeatLast?_under]
    exact hmap _ _
  · rw [repeatLast?_under]
    exact hmap _ _
  · rw [repeatLast?_under]
    exact hmap _ _
  · rw [under_flags]
    cases readCounts? r.flags t with
    | none => rfl
    | some x =>
      simp only [Option.bind_some, repeatLast?_under]
      exact hmap _ _
  · rw [under_flags]
    cases readEscape? r.flags t with
    | none => rfl
    | some x =>
      simp only [Option.bind_some, pushAtom?_under]
      exact hmap _ _
  · rw [under_flags]
    cases point? r.flags with
    | none => rfl
    | some set => rfl
  · rfl
  · rfl
  · rw [pushAtom?_under]
    exact hmap _ _

/-! ## To the end -/

variable {bound : Nat} {c : Char} {t u : Text} {r' : Reader} {p q : Pattern}

theorem run?_of_nil (hskip : r.flags.skip t = []) :
    run? (bound + 1) r t = if r.outer.isEmpty then some r.inner.close else none := by
  rw [run?, hskip]

theorem run?_of_step (hskip : r.flags.skip t = c :: u) :
    run? (bound + 1) r t = (r.step? c u).bind fun (r', rest) => run? bound r' rest := by
  rw [run?, hskip]

theorem run?_close (hskip : r.flags.skip t = ')' :: u) (houter : r.outer = []) (bound : Nat) :
    run? bound r t = none := by
  cases bound with
  | zero => rfl
  | succ bound =>
    rw [run?_of_step hskip, step?, closeGroup?, houter]
    rfl

theorem run?_under_of_nil (hskip : r.flags.skip t = []) (bound : Nat) :
    run? bound (r.under frame) t = none := by
  cases bound with
  | zero => rfl
  | succ bound =>
    rw [run?_of_nil (r := r.under frame) hskip, outer_under]
    rfl

theorem run?_under_of_step (hskip : r.flags.skip t = c :: u) (hc : c ≠ ')' ∨ r.outer ≠ []) :
    run? (bound + 1) (r.under frame) t =
      (r.step? c u).bind fun (r', rest) => run? bound (r'.under frame) rest := by
  rw [run?_of_step (r := r.under frame) hskip, step?_under r hc]
  cases r.step? c u with
  | none => rfl
  | some x => rfl

/-- A parenthesis that was read closed a group. -/
theorem ne_or_outer_of_step? (h : r.step? c t ≠ none) : c ≠ ')' ∨ r.outer ≠ [] := by
  by_contra hnot
  obtain ⟨hc, houter⟩ := not_or.mp hnot
  rw [not_not] at hc houter
  subst hc
  rw [step?, closeGroup?, houter] at h
  exact h rfl

theorem run?_mono {bound' : Nat} (h : run? bound r t = some p) (hbound : bound ≤ bound') :
    run? bound' r t = some p := by
  induction bound generalizing bound' r t with
  | zero => cases h
  | succ bound ih =>
    obtain ⟨bound', rfl⟩ := Nat.exists_eq_add_one_of_ne_zero (Nat.ne_zero_of_lt hbound)
    cases hskip : r.flags.skip t with
    | nil =>
      rw [run?_of_nil hskip] at h ⊢
      exact h
    | cons c u =>
      rw [run?_of_step hskip] at h ⊢
      obtain ⟨⟨r', rest⟩, hstep, hrest⟩ := Option.bind_eq_some_iff.mp h
      rw [hstep]
      exact ih hrest (Nat.le_of_succ_le_succ hbound)

/-- A closing parenthesis behind a pattern closes the group around it, and there has to be one. -/
structure Closes (bound : Nat) (r : Reader) (t : Text) (p : Pattern) : Prop where
  group : ∀ frame, run? (bound + 1) (r.under frame) (t ++ [')']) =
    some (frame.2.push (some p)).close
  none : ∀ m v, run? m r (t ++ ')' :: v) = none

/-- A closing parenthesis behind a pattern does not count. -/
structure PassesOver (bound : Nat) (r : Reader) (t : Text) (p : Pattern) : Prop where
  same : run? (bound + 1) r (t ++ [')']) = some p
  none : ∀ frame m, run? m (r.under frame) (t ++ [')']) = none

theorem closes_or_passesOver_of_nil (hskip : r.flags.skip t = []) (houter : r.outer = []) :
    Closes (bound + 1) r t r.inner.close ∨ PassesOver (bound + 1) r t r.inner.close := by
  rcases skip_cases r.flags t with hmore | ⟨-, hsame, -⟩
  · -- The parenthesis is next, and no group is open but the one around the pattern.
    simp only [hskip, List.nil_append] at hmore
    refine Or.inl ⟨fun frame => ?_, fun m v => run?_close (hmore v) houter m⟩
    rw [run?_of_step (r := r.under frame) (hmore []), step?, closeGroup?, under, houter]
    rfl
  · refine Or.inr ⟨?_, fun frame m => run?_under_of_nil hsame m⟩
    rw [run?_of_nil hsame, houter]
    rfl

/-- What stands behind the text at hand does not change the next character. -/
theorem skip_append_of_cons (hskip : r.flags.skip t = c :: u) (v : Text) :
    r.flags.skip (t ++ ')' :: v) = c :: (u ++ ')' :: v) := by
  rw [skip_append (by simp [hskip]), hskip, List.cons_append]

theorem Closes.of_step {rest : Text} (hskip : r.flags.skip t = c :: u)
    (hc : c ≠ ')' ∨ r.outer ≠ [])
    (hsteps : ∀ v, r.step? c (u ++ ')' :: v) = some (r', rest ++ ')' :: v))
    (h : Closes bound r' rest p) : Closes (bound + 1) r t p where
  group := by
    intro frame
    rw [run?_under_of_step (skip_append_of_cons hskip []) hc, hsteps]
    exact h.group frame
  none := by
    intro m v
    cases m with
    | zero => rfl
    | succ m =>
      rw [run?_of_step (skip_append_of_cons hskip v), hsteps]
      exact h.none m v

theorem PassesOver.of_step {rest : Text} (hskip : r.flags.skip t = c :: u)
    (hc : c ≠ ')' ∨ r.outer ≠ [])
    (hsteps : ∀ v, r.step? c (u ++ ')' :: v) = some (r', rest ++ ')' :: v))
    (h : PassesOver bound r' rest p) : PassesOver (bound + 1) r t p where
  same := by
    rw [run?_of_step (skip_append_of_cons hskip []), hsteps]
    exact h.same
  none := by
    intro frame m
    cases m with
    | zero => rfl
    | succ m =>
      rw [run?_under_of_step (skip_append_of_cons hskip []) hc, hsteps]
      exact h.none frame m

/-- The last step may go on to the parenthesis when it is there. -/
theorem PassesOver.of_last (hskip : r.flags.skip t = c :: u) (hc : c ≠ ')' ∨ r.outer ≠ [])
    (hstep : r.step? c (u ++ [')']) = some (r', [])) (h : run? bound r' [] = some p) :
    PassesOver (bound + 1) r t p where
  same := by
    rw [run?_of_step (skip_append_of_cons hskip []), hstep]
    exact run?_mono h (Nat.le_succ _)
  none := by
    intro frame m
    cases m with
    | zero => rfl
    | succ m =>
      rw [run?_under_of_step (skip_append_of_cons hskip []) hc, hstep]
      exact run?_under_of_nil rfl m

/-- A pattern that is well formed by itself, with a closing parenthesis behind it: the parenthesis
closes the group around the pattern, or a comment passes over it. -/
theorem closes_or_passesOver (h : run? bound r t = some p) :
    Closes bound r t p ∨ PassesOver bound r t p := by
  induction bound generalizing r t with
  | zero => cases h
  | succ bound ih =>
    cases hskip : r.flags.skip t with
    | nil =>
      rw [run?_of_nil hskip] at h
      split at h
      · rename_i hempty
        cases h
        exact closes_or_passesOver_of_nil hskip (List.isEmpty_iff.mp hempty)
      · cases h
    | cons c u =>
      rw [run?_of_step hskip] at h
      obtain ⟨⟨r', rest⟩, hstep, hrest⟩ := Option.bind_eq_some_iff.mp h
      have hc : c ≠ ')' ∨ r.outer ≠ [] := ne_or_outer_of_step? (t := u) (by simp [hstep])
      rcases step?_cases r c u with ⟨x, rest', hx, hsteps⟩ | ⟨hend, -⟩
      · cases hstep.symm.trans hx
        exact (ih hrest).imp (Closes.of_step hskip hc hsteps) (PassesOver.of_step hskip hc hsteps)
      · obtain ⟨rfl, hlast⟩ := hend r' rest hstep
        exact Or.inr (.of_last hskip hc (hlast.trans hstep) hrest)

/-- A step is the same when the text ends before the parenthesis, if what it leaves can be read to
the end there. -/
theorem step?_cut {w v : Text} {m : Nat}
    (hcut : r.step? c (w ++ u ++ ')' :: v) = some (r', u ++ ')' :: v))
    (hread : run? m r' u = some p) :
    r.step? c (w ++ u) = some (r', u) ∧
      ∀ v, r.step? c (w ++ u ++ ')' :: v) = some (r', u ++ ')' :: v) := by
  rcases step?_cases r c (w ++ u) with ⟨x, left, hx, hmore⟩ | ⟨-, hmore⟩
  · obtain ⟨rfl, hleft⟩ := Prod.mk.inj (Option.some.inj ((hmore v).symm.trans hcut))
    obtain rfl := List.append_cancel_right hleft
    exact ⟨hx, hmore⟩
  · rcases hmore v r' _ hcut with hlength | ⟨u', hu', hnone⟩
    · rw [List.length_append, List.length_cons] at hlength
      omega
    · obtain rfl := List.append_cancel_right hu'
      cases (hnone _).symm.trans hread

/-- What is read to the end inside a group closes it behind a pattern that is well formed by
itself. -/
theorem exists_of_run?_under (h : run? bound (r.under frame) t = some q) :
    ∃ u v p, t = u ++ ')' :: v ∧ (∀ m, u.length < m → run? m r u = some p) ∧
      ∀ m v, run? m r (u ++ ')' :: v) = none := by
  induction bound generalizing r t with
  | zero => cases h
  | succ bound ih =>
    cases hskip : r.flags.skip t with
    | nil => cases (run?_under_of_nil hskip (bound + 1)).symm.trans h
    | cons c t' =>
      -- What does not count is in front of the character.
      obtain ⟨w, rfl⟩ : c :: t' <:+ t := hskip ▸ suffix_takeSpaced r.flags.spaced _ false t
      by_cases hc : c ≠ ')' ∨ r.outer ≠ []
      · rw [run?_under_of_step hskip hc] at h
        obtain ⟨⟨r', rest⟩, hstep, hrest⟩ := Option.bind_eq_some_iff.mp h
        obtain ⟨w', rfl⟩ := (r.leaves_step? c t' r' rest hstep).1
        obtain ⟨u, v, p, rfl, hread, hclosed⟩ := ih hrest
        -- The character is the same when the text ends before the parenthesis.
        have hcut : r.flags.skip (w ++ c :: (w' ++ u) ++ ')' :: v) =
            c :: (w' ++ u) ++ ')' :: v := by
          simpa using hskip
        have hcut' : r.step? c (w' ++ u ++ ')' :: v) = some (r', u ++ ')' :: v) := by
          simpa using hstep
        obtain ⟨hskip₀, hskips⟩ := skip_of_append hcut
        obtain ⟨hstep₀, hsteps⟩ := step?_cut hcut' (hread _ (Nat.lt_succ_self _))
        refine ⟨w ++ c :: (w' ++ u), v, p, by simp, fun m hm => ?_, fun m v => ?_⟩
        · obtain ⟨m, rfl⟩ := Nat.exists_eq_add_one_of_ne_zero (Nat.ne_zero_of_lt hm)
          rw [run?_of_step hskip₀, hstep₀]
          refine hread m ?_
          simp only [List.length_append, List.length_cons] at hm
          omega
        · cases m with
          | zero => rfl
          | succ m =>
            have hskip' : r.flags.skip (w ++ c :: (w' ++ u) ++ ')' :: v) =
                c :: (w' ++ u ++ ')' :: v) := hskips v
            rw [run?_of_step hskip', hsteps]
            exact hclosed m v
      · obtain ⟨hclose, houter⟩ := not_or.mp hc
        rw [not_not] at hclose houter
        subst hclose
        have hcut : r.flags.skip (w ++ ')' :: t') = [] ++ ')' :: t' := hskip
        obtain ⟨hskip₀, hskips⟩ := skip_of_append hcut
        refine ⟨w, t', r.inner.close, rfl, fun m hm => ?_,
          fun m v => run?_close (hskips v) houter m⟩
        obtain ⟨m, rfl⟩ := Nat.exists_eq_add_one_of_ne_zero (Nat.ne_zero_of_lt hm)
        rw [run?_of_nil hskip₀, houter]
        rfl

end Reader

end CatalogLint.Pattern
