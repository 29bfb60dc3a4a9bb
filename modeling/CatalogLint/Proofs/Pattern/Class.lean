import CatalogLint.Proofs.Pattern.Scanner
import Mathlib.Data.List.TakeWhile

/-!
# Classes before a closing parenthesis

A closing parenthesis is a member of a class that is open, so that the reader of a class passes over
the one behind the text if no bracket closes the class (`isReader_readClass?`).
-/

namespace CatalogLint.Pattern

variable {α : Type} {m n : Nat} {f : Flags} {t v : Text} {level : ClassLevel}

/-! ## Names -/

theorem asciiClass?_of_mem {name : Text} (h : ')' ∈ name) : CharSet.asciiClass? name = none := by
  have hknown : ∀ known ∈ ["alnum", "alpha", "ascii", "blank", "cntrl", "digit", "graph", "lower",
      "print", "punct", "space", "upper", "word", "xdigit"], ')' ∉ known.toList := by decide
  rw [CharSet.asciiClass?, List.findSome?_eq_none_iff]
  rintro ⟨known, set⟩ hmem
  have hne : name ≠ known.toList := by
    rintro rfl
    exact hknown known (List.mem_map_of_mem (f := Prod.fst) hmem) h
  exact if_neg hne

/-- The rest of the name of a class, up to its closing bracket. -/
def endClassName? (negated : Bool) (t : Text) : Option (Bool × CharSet × Text) :=
  match t.dropWhile (· != ':') with
  | ':' :: ']' :: rest =>
    (CharSet.asciiClass? (t.takeWhile (· != ':'))).map fun set => (negated, set, rest)
  | _ => none

theorem endClassName?_append (negated : Bool) (t v : Text) :
    endClassName? negated (t ++ ')' :: v) =
      (endClassName? negated t).map fun x => (x.1, x.2.1, x.2.2 ++ ')' :: v) := by
  cases hdrop : t.dropWhile (· != ':') with
  | nil =>
    -- A name that goes on behind the parenthesis holds it.
    have hall := List.dropWhile_eq_nil_iff.mp hdrop
    have hname : CharSet.asciiClass? ((t ++ ')' :: v).takeWhile (· != ':')) = none := by
      refine asciiClass?_of_mem ?_
      rw [List.takeWhile_append_of_pos hall]
      simp
    rw [endClassName?, hname, endClassName?, hdrop]
    split
    · rfl
    · rfl
  | cons c rest =>
    have hlength : (t.takeWhile (· != ':')).length ≠ t.length := by
      have hparts := congrArg List.length (t.takeWhile_append_dropWhile (p := (· != ':')))
      rw [List.length_append, hdrop, List.length_cons] at hparts
      omega
    have htake : (t ++ ')' :: v).takeWhile (· != ':') = t.takeWhile (· != ':') := by
      rw [List.takeWhile_append, if_neg hlength]
    have hdrop' : (t ++ ')' :: v).dropWhile (· != ':') = c :: (rest ++ ')' :: v) := by
      rw [List.dropWhile_append, hdrop]
      rfl
    rw [endClassName?, endClassName?, htake, hdrop, hdrop']
    cases rest with
    | nil => simp
    | cons d rest =>
      by_cases hend : c = ':' ∧ d = ']'
      · obtain ⟨rfl, rfl⟩ := hend
        simp [Option.map_map, Function.comp_def]
      · have hnone : ∀ u, (match c :: d :: u with
            | ':' :: ']' :: rest => (CharSet.asciiClass? (t.takeWhile (· != ':'))).map fun set =>
              (negated, set, rest)
            | _ => none) = none := by
          intro u
          split
          · rename_i heq
            cases heq
            exact absurd ⟨rfl, rfl⟩ hend
          · rfl
        rw [hnone]
        exact hnone _

theorem suffix_endClassName? {negated : Bool} {x : Bool × CharSet × Text}
    (h : endClassName? negated t = some x) : x.2.2 <:+ t := by
  rw [endClassName?] at h
  split at h
  · rename_i rest hdrop
    obtain ⟨set, -, rfl⟩ := Option.map_eq_some_iff.mp h
    have hend : rest <:+ ':' :: ']' :: rest := ⟨[':', ']'], rfl⟩
    exact hend.trans (hdrop ▸ List.dropWhile_suffix _)
  · cases h

/-- Whether a caret negates the name of a class, and the text of the name. -/
def classNameFront : Text → Bool × Text
  | '^' :: t => (true, t)
  | t => (false, t)

theorem classNameFront_of_ne {c : Char} (hc : c ≠ '^') (t : Text) :
    classNameFront (c :: t) = (false, c :: t) := by
  unfold classNameFront
  split
  · rename_i heq
    exact absurd (List.cons.inj heq).1 hc
  · rfl

theorem readClassName?_eq (t : Text) :
    readClassName? (':' :: t) = endClassName? (classNameFront t).1 (classNameFront t).2 :=
  rfl

theorem readClassName?_colon {c : Char} (hc : c ≠ '^') (t : Text) :
    readClassName? (':' :: c :: t) = endClassName? false (c :: t) := by
  rw [readClassName?_eq, classNameFront_of_ne hc]

/-- Names do not go beyond a closing parenthesis. -/
theorem readClassName?_append (t v : Text) :
    readClassName? (t ++ ')' :: v) =
      (readClassName? t).map fun x => (x.1, x.2.1, x.2.2 ++ ')' :: v) := by
  cases t with
  | nil => rfl
  | cons c t =>
    by_cases hcolon : c = ':'
    · subst hcolon
      cases t with
      | nil => exact endClassName?_append false [] v
      | cons c t =>
        by_cases hnegated : c = '^'
        · subst hnegated
          exact endClassName?_append true t v
        · rw [readClassName?_colon hnegated]
          exact (readClassName?_colon hnegated _).trans (endClassName?_append false (c :: t) v)
    · simp [readClassName?, hcolon]

theorem suffix_readClassName? {x : Bool × CharSet × Text} (h : readClassName? t = some x) :
    x.2.2 <:+ t := by
  cases t with
  | nil => cases h
  | cons c t =>
    by_cases hcolon : c = ':'
    · subst hcolon
      refine List.IsSuffix.trans ?_ (List.suffix_cons _ _)
      cases t with
      | nil => cases h
      | cons c t =>
        by_cases hnegated : c = '^'
        · subst hnegated
          exact (suffix_endClassName? h).trans (List.suffix_cons _ _)
        · rw [readClassName?_colon hnegated] at h
          exact suffix_endClassName? h
    · simp [readClassName?, hcolon] at h

/-! ## The front of a class -/

theorem readHyphens_of_ne (f : Flags) {c : Char} (hc : c ≠ '-') (bound : Nat) (level : ClassLevel)
    (t : Text) : readHyphens f bound level (c :: t) = (level, c :: t) := by
  cases bound with
  | zero => rfl
  | succ bound => simp [readHyphens, hc]

theorem readHyphens_nil (f : Flags) (bound : Nat) (level : ClassLevel) :
    readHyphens f bound level [] = (level, []) := by
  cases bound with
  | zero => rfl
  | succ bound => rfl

theorem isReader_readHyphens (f : Flags) (bound : Nat) (level : ClassLevel) :
    IsReader 0 0 fun t => some (readHyphens f bound level t) := by
  induction bound generalizing level with
  | zero => exact .pass level
  | succ bound ih =>
    refine .cons_or (c := '-') (by decide) ((ih _).skip f) (.pass level) (Nat.zero_le 1)
      fun t ht => ?_
    cases t with
    | nil => rfl
    | cons c t =>
      have hc : c ≠ '-' := by
        rintro rfl
        exact ht t rfl
      exact congrArg some (readHyphens_of_ne f hc _ _ _)

theorem extends_readHyphens (f : Flags) {bound : Nat} (level : ClassLevel)
    (ht : t.length ≤ bound) : Extends 0 (some (readHyphens f bound level t)) fun v =>
      some (readHyphens f (v.length + 1 + bound) level (t ++ ')' :: v)) := by
  induction bound generalizing level t with
  | zero =>
    cases List.length_eq_zero_iff.mp (Nat.le_zero.mp ht)
    exact Or.inl ⟨level, [], rfl, fun v => congrArg some (readHyphens_of_ne f (by decide) _ _ _)⟩
  | succ bound ih =>
    cases t with
    | nil =>
      exact Or.inl ⟨level, [], rfl, fun v => congrArg some (readHyphens_of_ne f (by decide) _ _ _)⟩
    | cons c t =>
      by_cases hc : c = '-'
      · subst hc
        have hlength : (f.skip t).length ≤ bound :=
          Nat.le_trans (suffix_takeSpaced f.spaced _ false t).length_le
            (Nat.le_of_succ_le_succ ht)
        exact Extends.skip (S := fun u => some (readHyphens f bound (level.add (.single '-')) u))
          (T := fun v u =>
            some (readHyphens f (v.length + 1 + bound) (level.add (.single '-')) u))
          (isReader_readHyphens _ _ _).leaves (fun _ => (isReader_readHyphens _ _ _).leaves)
          (by rw [readHyphens_nil, readHyphens_nil]) (ih _ hlength)
      · exact Or.inl ⟨level, c :: t, congrArg some (readHyphens_of_ne f hc _ _ _),
          fun v => congrArg some (readHyphens_of_ne f hc _ _ _)⟩

theorem isReader_hyphens (f : Flags) (level : ClassLevel) :
    IsReader 0 0 fun t => some (readHyphens f t.length level t) where
  leaves := fun t => (isReader_readHyphens f t.length level).leaves t
  extends_append := by
    intro t
    simp only [length_append_close]
    exact extends_readHyphens f level (Nat.le_refl _)

theorem isReader_caret (f : Flags) : IsReader 0 0 fun t =>
    some (match t with
      | '^' :: t => (true, f.skip t)
      | t => (false, t)) := by
  refine .cons_or (c := '^') (by decide) ((IsReader.pass true).skip f) (.pass false)
    (Nat.zero_le 1) fun t ht => ?_
  split
  · exact absurd rfl (ht _)
  · rfl

theorem isReader_firstMembers (f : Flags) (level : ClassLevel) : IsReader 0 0 fun t =>
    some (match t with
      | ']' :: t => (level.add (.single ']'), f.skip t)
      | t => readHyphens f t.length level t) := by
  refine .cons_or (c := ']') (by decide) ((IsReader.pass _).skip f) (isReader_hyphens f level)
    (Nat.zero_le 1) fun t ht => ?_
  split
  · exact absurd rfl (ht _)
  · rfl

theorem isReader_nonempty (level : ClassLevel) : IsReader 0 1 fun t =>
    if t.isEmpty then none else some (level, t) := by
  refine ⟨fun t x rest h => ?_, fun t => ?_⟩
  · split at h
    · cases h
    · cases h
      exact ⟨List.suffix_rfl, Nat.le_refl _⟩
  · cases t with
    | nil =>
      refine .of_none fun v x rest h => ?_
      cases h
      exact Nat.le_refl _
    | cons c t => exact Or.inl ⟨level, c :: t, rfl, fun v => rfl⟩

theorem isReader_classFront (f : Flags) : IsReader 0 1 fun t =>
    (some (match t with
      | '^' :: t => (true, f.skip t)
      | t => (false, t))).bind fun (negated, t) =>
    (some (match t with
      | ']' :: t => (({ negated } : ClassLevel).add (.single ']'), f.skip t)
      | t => readHyphens f t.length { negated } t)).bind fun (level, t) =>
    if t.isEmpty then none else some (level, t) :=
  (isReader_caret f).bind fun negated =>
    (isReader_firstMembers f { negated }).bind isReader_nonempty

/-- There is something behind the front of a class. -/
theorem isReader_openClass? (f : Flags) : IsReader 0 1 (openClass? f) :=
  (isReader_classFront f).skip f

/-! ## Members -/

/-- A condition between two characters, which no class has as a member. -/
def Atom.isAnchor : Atom → Bool
  | .anchor _ => true
  | _ => false

/-- An item of a class that can be a member. -/
theorem isReader_readClassItem? (f : Flags) : IsReader 1 0 fun t =>
    (readClassItem? f t).bind fun (item, rest) =>
      if item.isAnchor then none else some (item, rest) := by
  refine .cons rfl fun c => ?_
  by_cases hescape : c = '\\'
  · subst hescape
    refine IsReader.mono (IsReader.cons rfl fun c => ?_) (Nat.zero_le 1) (Nat.le_refl 0)
    by_cases hedge : c = 'b'
    · subst hedge
      have hnone : ∀ t, ((readClassItem? f ('\\' :: 'b' :: t)).bind fun (item, rest) =>
          if item.isAnchor then none else some (item, rest)) = none := by
        intro t
        rw [readClassItem?, readEscape?_edge]
        cases readWordEdge? f t with
        | none => rfl
        | some x => rfl
      simp only [hnone]
      exact .fail
    · exact (isReader_readEscape? f hedge).bind fun item =>
        .ite _ (fun _ => .fail) fun _ => .pass item
  · have hchar : ∀ t, readClassItem? f (c :: t) = some (.char c false, t) := by
      intro t
      simp [readClassItem?]
    simp only [hchar]
    exact .pass _

/-- An item and what is made of it, where nothing is made of a condition. -/
theorem isReader_bind_item {k : Atom × Text → Option (α × Text)}
    (hk : ∀ item, IsReader 0 m fun t => k (item, t))
    (hanchor : ∀ a rest, k (.anchor a, rest) = none) (f : Flags) : IsReader 1 m fun t => (readClassItem? f t).bind k := by
  have hbind := (isReader_readClassItem? f).bind_of_le hk (Nat.zero_le _)
  have hsame : ∀ t, ((readClassItem? f t).bind fun (item, rest) =>
      if item.isAnchor then none else some (item, rest)).bind k = (readClassItem? f t).bind k := by
    intro t
    cases readClassItem? f t with
    | none => rfl
    | some x =>
      obtain ⟨item, rest⟩ := x
      cases item with
      | anchor a => exact (hanchor a rest).symm
      | char c byte => rfl
      | set s => rfl
  simpa only [hsame] using hbind

/-- The text that a look ahead in spaced mode sees. -/
def ahead (t : Text) : Text :=
  match t.dropWhile isSpace with
  | '#' :: comment => comment.dropWhile isSpace
  | ahead => ahead

theorem ahead_of_dropWhile {c : Char} {u : Text} (ht : t.dropWhile isSpace = c :: u)
    (hc : c ≠ '#') : ahead t = c :: u := by
  rw [ahead, ht]
  split
  · rename_i heq
    exact absurd (List.cons.inj heq).1 hc
  · rfl

theorem ahead_append (t v : Text) : ahead (t ++ ')' :: v) = ahead t ++ ')' :: v := by
  have happend := dropWhile_isSpace_append t v
  cases hdrop : t.dropWhile isSpace with
  | nil =>
    rw [hdrop] at happend
    rw [ahead_of_dropWhile happend (by decide), ahead, hdrop]
    rfl
  | cons c u =>
    rw [hdrop] at happend
    by_cases hc : c = '#'
    · subst hc
      rw [ahead, happend, ahead, hdrop]
      exact dropWhile_isSpace_append u v
    · rw [ahead_of_dropWhile happend hc, ahead_of_dropWhile hdrop hc]
      rfl

theorem peek?_eq (f : Flags) (t : Text) :
    f.peek? t = if f.spaced then (ahead t).head?.or t.head? else t.head? :=
  rfl

/-- Whether a bracket or a hyphen is next does not depend on what is behind the text. -/
theorem peek?_append (f : Flags) (t v : Text) {c : Char} (hc : c = ']' ∨ c = '-') :
    f.peek? (t ++ ')' :: v) = some c ↔ f.peek? t = some c := by
  have hclose : some ')' ≠ some c := by
    rcases hc with rfl | rfl
    · decide
    · decide
  rw [peek?_eq, peek?_eq]
  cases f.spaced with
  | false =>
    cases t with
    | nil => simpa using hclose
    | cons d t => rfl
  | true =>
    rw [if_pos rfl, if_pos rfl, ahead_append]
    cases hahead : ahead t with
    | cons d u => rfl
    | nil =>
      refine ⟨fun h => absurd h hclose, fun h => ?_⟩
      -- Neither of them is passed over.
      cases t with
      | nil => cases h
      | cons d t =>
        obtain rfl : d = c := Option.some.inj h
        have hspace : isSpace d = false := by
          rcases hc with rfl | rfl
          · decide
          · decide
        have hmark : d ≠ '#' := by
          rcases hc with rfl | rfl
          · decide
          · decide
        have hdrop : (d :: t).dropWhile isSpace = d :: t := by
          rw [List.dropWhile_cons, hspace]
          rfl
        rw [ahead_of_dropWhile hdrop hmark] at hahead
        cases hahead

/-- A member of a class behind its first item. -/
def endMember? (f : Flags) (first : Atom) (t : Text) : Option (CharSet × Text) :=
  match t with
  | [] => none
  | '-' :: rest =>
    if f.peek? rest = some ']' || f.peek? rest = some '-' then
      (itemSet? f first).map fun set => (set, '-' :: rest)
    else
      (readClassItem? f (f.skip rest)).bind fun (last, rest) =>
        (rangeSet? f first last).map fun set => (set, rest)
  | rest => (itemSet? f first).map fun set => (set, rest)

theorem endMember?_of_ne {c : Char} (hc : c ≠ '-') (first : Atom) (t : Text) :
    endMember? f first (c :: t) = (itemSet? f first).map fun set => (set, c :: t) := by
  simp [endMember?, hc]

theorem endMember?_anchor (a : Anchor) (t : Text) : endMember? f (.anchor a) t = none := by
  cases t with
  | nil => rfl
  | cons c t =>
    by_cases hc : c = '-'
    · subst hc
      simp [endMember?, itemSet?, rangeSet?]
    · rw [endMember?_of_ne hc]
      rfl

/-- Whether a hyphen behind an item is a member itself. -/
def isMember (f : Flags) (rest : Text) : Bool := f.peek? rest = some ']' || f.peek? rest = some '-'

theorem isMember_append (f : Flags) (t v : Text) : isMember f (t ++ ')' :: v) = isMember f t := by
  simp only [isMember, peek?_append f t v (Or.inl rfl), peek?_append f t v (Or.inr rfl)]

theorem endMember?_hyphen (first : Atom) (rest : Text) :
    endMember? f first ('-' :: rest) =
      if isMember f rest then (itemSet? f first).map fun set => (set, '-' :: rest)
      else
        (readClassItem? f (f.skip rest)).bind fun (last, rest) =>
          (rangeSet? f first last).map fun set => (set, rest) :=
  rfl

/-- Something that leaves a text as it is. -/
theorem extends_map_option {γ : Type} (o : Option γ) (g : γ → α) (t : Text) :
    Extends n (o.map fun y => (g y, t)) fun v => o.map fun y => (g y, t ++ ')' :: v) :=
  (IsReader.map_option o g).extends_append t

theorem isReader_endMember? (f : Flags) (first : Atom) : IsReader 0 1 (endMember? f first) := by
  have hrange : IsReader 0 1 fun t => (readClassItem? f (f.skip t)).bind fun (last, rest) =>
      (rangeSet? f first last).map fun set => (set, rest) := by
    refine IsReader.mono (IsReader.skip (isReader_bind_item (fun last => ?_) (fun a _ => ?_) f) f)
      (Nat.zero_le 1) (Nat.le_refl 1)
    · exact .map_option _ fun set => set
    · cases first <;> rfl
  refine ⟨fun t x rest h => ?_, fun t => ?_⟩
  · have hsame : ∀ u : Text, ((itemSet? f first).map fun set => (set, u)) = some (x, rest) →
        rest = u := by
      intro u hu
      obtain ⟨set, -, hset⟩ := Option.map_eq_some_iff.mp hu
      exact (congrArg Prod.snd hset).symm
    have hsuffix : rest <:+ t := by
      cases t with
      | nil => cases h
      | cons c t =>
        by_cases hc : c = '-'
        · subst hc
          rw [endMember?_hyphen] at h
          split at h
          · exact (hsame _ h) ▸ List.suffix_rfl
          · exact (hrange.leaves t x rest h).1.trans (List.suffix_cons _ _)
        · rw [endMember?_of_ne hc] at h
          exact (hsame _ h) ▸ List.suffix_rfl
    exact ⟨hsuffix, hsuffix.length_le⟩
  · cases t with
    | nil =>
      refine .of_none fun v x rest h => ?_
      obtain ⟨set, -, hset⟩ := Option.map_eq_some_iff.mp h
      cases hset
      exact Nat.le_refl _
    | cons c t =>
      by_cases hc : c = '-'
      · subst hc
        simp only [List.cons_append, endMember?_hyphen, isMember_append]
        cases isMember f t with
        | true => exact extends_map_option _ (fun set => set) ('-' :: t)
        | false => exact hrange.extends_append t
      · simp only [List.cons_append, endMember?_of_ne hc]
        exact extends_map_option _ (fun set => set) (c :: t)

/-- A member may end in front of a closing parenthesis that its class goes beyond. -/
theorem isReader_readMember? (f : Flags) : IsReader 1 1 (readMember? f) :=
  isReader_bind_item (fun first => (isReader_endMember? f first).skip f)
    (fun a _ => endMember?_anchor a _) f

/-! ## The rest of a class -/

section Turn

/-- What the reader of a class does with the next characters, and `next` with those behind them. -/
def membersTurn? (f : Flags) (next : ClassLevel → List ClassLevel → Text → Option (CharSet × Text))
    (level : ClassLevel) (outer : List ClassLevel) : Text → Option (CharSet × Text)
  | [] => none
  | '[' :: t =>
    match readClassName? t with
    | some (negated, set, rest) =>
      (f.guard? ((f.foldCase set).negateIf negated)).bind fun set =>
        next (level.add set) outer rest
    | none => (openClass? f t).bind fun (inner, t) => next inner (level :: outer) t
  | ']' :: t =>
    (level.close? f).bind fun set =>
      match outer with
      | [] => some (set, t)
      | parent :: outer => next (parent.add set) outer t
  | '&' :: '&' :: t => next (level.operate f .inter) outer t
  | '-' :: '-' :: t => next (level.operate f .diff) outer t
  | '~' :: '~' :: t => next (level.operate f .symmDiff) outer t
  | t => (readMember? f t).bind fun (set, rest) => next (level.add set) outer rest

theorem readMembers?_succ (f : Flags) (bound : Nat) (level : ClassLevel) (outer : List ClassLevel)
    (t : Text) : readMembers? f (bound + 1) level outer t =
      membersTurn? f (readMembers? f bound) level outer (f.skip t) := by
  rfl

variable {next : ClassLevel → List ClassLevel → Text → Option (CharSet × Text)}
  {next' : Text → ClassLevel → List ClassLevel → Text → Option (CharSet × Text)}
  {outer : List ClassLevel}

/-- A character that is an operator when it stands twice. -/
def isOperatorChar (c : Char) : Bool := c = '&' || c = '-' || c = '~'

theorem membersTurn?_member {c : Char} (hopen : c ≠ '[') (hclose : c ≠ ']')
    (htwice : ¬ (isOperatorChar c = true ∧ t.head? = some c)) :
    membersTurn? f next level outer (c :: t) =
      (readMember? f (c :: t)).bind fun (set, rest) => next (level.add set) outer rest := by
  rw [membersTurn?]
  · exact nofun
  · rintro u ⟨⟩
    exact hopen rfl
  · rintro u ⟨⟩
    exact hclose rfl
  · rintro u ⟨⟩
    exact htwice ⟨by decide, rfl⟩
  · rintro u ⟨⟩
    exact htwice ⟨by decide, rfl⟩
  · rintro u ⟨⟩
    exact htwice ⟨by decide, rfl⟩

theorem exists_membersTurn?_operator (f : Flags) (level : ClassLevel) (outer : List ClassLevel)
    {c : Char} (hc : isOperatorChar c = true) :
    ∃ operator, ∀ (next : ClassLevel → List ClassLevel → Text → Option (CharSet × Text)) u,
      membersTurn? f next level outer (c :: c :: u) = next (level.operate f operator) outer u := by
  simp only [isOperatorChar, Bool.or_eq_true, decide_eq_true_eq] at hc
  rcases hc with (rfl | rfl) | rfl
  · exact ⟨.inter, fun _ _ => rfl⟩
  · exact ⟨.diff, fun _ _ => rfl⟩
  · exact ⟨.symmDiff, fun _ _ => rfl⟩

/-- A closing parenthesis is no operator. -/
theorem operator_append_iff (c : Char) (t v : Text) :
    (isOperatorChar c = true ∧ (t ++ ')' :: v).head? = some c) ↔
      isOperatorChar c = true ∧ t.head? = some c := by
  cases t with
  | nil =>
    refine iff_of_false ?_ nofun
    rintro ⟨hoperator, hhead⟩
    cases hhead
    cases hoperator
  | cons d t => rfl

theorem leaves_membersTurn? (hnext : ∀ level outer, Leaves 1 (next level outer)) :
    Leaves 1 (membersTurn? f next level outer) := by
  intro t x rest h
  cases t with
  | nil => cases h
  | cons c t =>
    have hbehind : ∀ {level : ClassLevel} {outer : List ClassLevel} {u : Text}, u <:+ t →
        next level outer u = some (x, rest) →
          rest <:+ c :: t ∧ rest.length + 1 ≤ (c :: t).length := by
      intro level outer u hu hx
      have hrest := hnext level outer u x rest hx
      refine ⟨(hrest.1.trans hu).trans (List.suffix_cons c t), ?_⟩
      exact Nat.le_trans hrest.2 (Nat.le_succ_of_le hu.length_le)
    by_cases hopen : c = '['
    · subst hopen
      simp only [membersTurn?] at h
      split at h
      · rename_i negated set left hname
        obtain ⟨set', -, hx⟩ := Option.bind_eq_some_iff.mp h
        exact hbehind (suffix_readClassName? hname) hx
      · obtain ⟨⟨inner, left⟩, hfront, hx⟩ := Option.bind_eq_some_iff.mp h
        exact hbehind ((isReader_openClass? f).leaves t inner left hfront).1 hx
    · by_cases hclose : c = ']'
      · subst hclose
        obtain ⟨set, -, hx⟩ := Option.bind_eq_some_iff.mp h
        cases outer with
        | nil =>
          cases hx
          exact ⟨List.suffix_cons _ _, Nat.le_refl _⟩
        | cons parent outer => exact hbehind List.suffix_rfl hx
      · by_cases htwice : isOperatorChar c = true ∧ t.head? = some c
        · obtain ⟨hoperator, hhead⟩ := htwice
          obtain ⟨u, rfl⟩ := List.head?_eq_some_iff.mp hhead
          obtain ⟨operator, heq⟩ := exists_membersTurn?_operator f level outer hoperator
          rw [heq] at h
          exact hbehind (List.suffix_cons c u) h
        · rw [membersTurn?_member hopen hclose htwice] at h
          obtain ⟨⟨set, left⟩, hmember, hx⟩ := Option.bind_eq_some_iff.mp h
          obtain ⟨hleft, hlength⟩ := (isReader_readMember? f).leaves (c :: t) set left hmember
          obtain ⟨hrest, hlength'⟩ := hnext _ _ left x rest hx
          exact ⟨hrest.trans hleft, by omega⟩

theorem extends_membersTurn? {t : Text} (hnext : ∀ level outer, Leaves 1 (next level outer))
    (hnext' : ∀ v level outer, Leaves 1 (next' v level outer))
    (hnil : ∀ level outer, next' [] level outer [] = next level outer [])
    (hbehind : ∀ level outer u, u.length < t.length →
      Extends 0 (next level outer u) fun v => next' v level outer (u ++ ')' :: v)) :
    Extends 0 (membersTurn? f next level outer t) fun v =>
      membersTurn? f (next' v) level outer (t ++ ')' :: v) := by
  cases t with
  | nil =>
    refine .of_none fun v x rest h => ?_
    exact Nat.le_of_succ_le_succ (leaves_membersTurn? (hnext' v) _ x rest h).2
  | cons c t =>
    simp only [List.length_cons, Nat.lt_succ_iff] at hbehind
    by_cases hopen : c = '['
    · subst hopen
      simp only [List.cons_append, membersTurn?, readClassName?_append]
      cases hname : readClassName? t with
      | some x =>
        obtain ⟨negated, set, left⟩ := x
        simp only [Option.map_some]
        cases f.guard? ((f.foldCase set).negateIf negated) with
        | none => exact .of_none nofun
        | some set => exact hbehind _ _ left (suffix_readClassName? hname).length_le
      | none =>
        exact ((isReader_openClass? f).extends_append t).bind_with
          (fun inner => hnext inner _) (fun v inner => hnext' v inner _) (fun inner => hnil inner _)
          (fun inner left hfront => hbehind _ _ left
            ((isReader_openClass? f).leaves t inner left hfront).1.length_le) (Nat.le_refl 1)
    · by_cases hclose : c = ']'
      · subst hclose
        simp only [List.cons_append, membersTurn?]
        cases level.close? f with
        | none => exact .of_none nofun
        | some set =>
          cases outer with
          | nil => exact Or.inl ⟨set, t, rfl, fun v => rfl⟩
          | cons parent outer => exact hbehind _ _ t (Nat.le_refl _)
      · by_cases htwice : isOperatorChar c = true ∧ t.head? = some c
        · obtain ⟨hoperator, hhead⟩ := htwice
          obtain ⟨u, rfl⟩ := List.head?_eq_some_iff.mp hhead
          obtain ⟨operator, heq⟩ := exists_membersTurn?_operator f level outer hoperator
          simp only [List.cons_append, heq]
          exact hbehind _ _ u (Nat.le_succ _)
        · have htwice' := fun v => htwice ∘ (operator_append_iff c t v).mp
          have hmember := (isReader_readMember? f).extends_append (c :: t)
          simp only [List.cons_append, membersTurn?_member hopen hclose htwice,
            membersTurn?_member hopen hclose (htwice' _)]
          exact hmember.bind_with (fun set => hnext (level.add set) outer)
            (fun v set => hnext' v (level.add set) outer) (fun set => hnil (level.add set) outer)
            (fun set left hx => hbehind (level.add set) outer left
              (Nat.le_of_succ_le_succ ((isReader_readMember? f).leaves (c :: t) set left hx).2))
            (Nat.le_refl 1)

end Turn

theorem readMembers?_nil (f : Flags) (bound : Nat) (level : ClassLevel) (outer : List ClassLevel) :
    readMembers? f bound level outer [] = none := by
  cases bound with
  | zero => rfl
  | succ bound => rfl

theorem leaves_readMembers? (f : Flags) (bound : Nat) (level : ClassLevel)
    (outer : List ClassLevel) : Leaves 1 (readMembers? f bound level outer) := by
  induction bound generalizing level outer with
  | zero => exact nofun
  | succ bound ih =>
    intro t x rest h
    rw [readMembers?_succ] at h
    obtain ⟨hrest, hlength⟩ := leaves_membersTurn? ih _ x rest h
    have hskip : f.skip t <:+ t := suffix_takeSpaced f.spaced _ false t
    exact ⟨hrest.trans hskip, Nat.le_trans hlength hskip.length_le⟩

theorem extends_readMembers? (f : Flags) {bound : Nat} {t : Text} (level : ClassLevel)
    (outer : List ClassLevel) (ht : t.length < bound) :
    Extends 0 (readMembers? f bound level outer t) fun v =>
      readMembers? f (v.length + 1 + bound) level outer (t ++ ')' :: v) := by
  induction bound generalizing level outer t with
  | zero => cases ht
  | succ bound ih =>
    have hskip : (f.skip t).length ≤ bound :=
      Nat.le_trans (suffix_takeSpaced f.spaced _ false t).length_le (Nat.le_of_lt_succ ht)
    have hturn : Extends 0 (membersTurn? f (readMembers? f bound) level outer (f.skip t)) fun v =>
        membersTurn? f (readMembers? f (v.length + 1 + bound)) level outer
          (f.skip t ++ ')' :: v) :=
      extends_membersTurn? (leaves_readMembers? f bound)
        (fun v => leaves_readMembers? f (v.length + 1 + bound))
        (fun _ _ => by rw [readMembers?_nil, readMembers?_nil])
        (fun level outer u hu => ih level outer (Nat.lt_of_lt_of_le hu hskip))
    exact Extends.skip (T := fun v =>
        membersTurn? f (readMembers? f (v.length + 1 + bound)) level outer)
      (leaves_membersTurn? (leaves_readMembers? f bound))
      (fun v => leaves_membersTurn? (leaves_readMembers? f _)) rfl hturn

/-- A class that no bracket closes goes beyond a closing parenthesis. -/
theorem isReader_readClass? (f : Flags) : IsReader 1 0 (readClass? f) where
  leaves := (isReader_openClass? f).leaves.bind (j := 1) fun level t =>
    leaves_readMembers? f _ level [] t
  extends_append := by
    intro t
    refine ((isReader_openClass? f).extends_append t).bind (j := 1)
      (fun level t => leaves_readMembers? f _ level [] t) (fun level rest _ => ?_) (Nat.le_refl 1)
    simp only [length_append_close]
    exact extends_readMembers? f level [] (Nat.lt_succ_self _)

end CatalogLint.Pattern
