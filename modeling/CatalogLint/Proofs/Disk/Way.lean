import CatalogLint.Disk.Resolve
import Mathlib.Data.List.Basic

/-!
# The way along a path

A piece of a path stays, leads up, is too long, or is a name that is looked up
(`advance_cons_cases`). From this follows how the way goes on behind the end of a path
(`advance_append`): from a directory it goes on there, and from a file nowhere. On two disks with
the same directories a way is the same up to an entry in which they differ
(`SameDirectories.follow_cases`).
-/

namespace CatalogLint.Disk

/-- A piece of a path that is looked up in the directory it is met in. -/
def IsName (piece : Text) : Prop :=
  Path.isHere piece = false ∧ piece ≠ "..".toList ∧ Text.utf8Length piece ≤ maxNameLength

/-! ## One piece -/

/-- What a piece of a path does, whatever the disk. -/
theorem advance_cons_cases (piece : Text) :
    (∀ (d : Disk) l rest, d.advance l (piece :: rest) = d.advance l rest) ∨
    (∀ (d : Disk) l rest, d.advance l (piece :: rest) = d.advance l.dropLast rest) ∨
    (∀ (d : Disk) l rest, d.advance l (piece :: rest) = .error .nameTooLong) ∨
    IsName piece := by
  by_cases hhere : Path.isHere piece = true
  · refine Or.inl fun d l rest => ?_
    rw [advance, if_pos hhere]
  · by_cases hup : piece = "..".toList
    · refine Or.inr (Or.inl fun d l rest => ?_)
      rw [advance, if_neg hhere, if_pos hup]
    · by_cases hlong : maxNameLength < Text.utf8Length piece
      · refine Or.inr (Or.inr (Or.inl fun d l rest => ?_))
        rw [advance, if_neg hhere, if_neg hup, if_pos hlong]
      · exact Or.inr (Or.inr (Or.inr ⟨Bool.eq_false_iff.mpr hhere, hup, Nat.le_of_not_lt hlong⟩))

/-- A name is looked up. -/
theorem advance_cons_of_isName {piece : Text} (h : IsName piece) (d : Disk) (l : Location)
    (rest : List Text) :
    d.advance l (piece :: rest) =
      match d.get? (l ++ [piece]) with
      | none => .error .notFound
      | some (.directory _) => d.advance (l ++ [piece]) rest
      | some (.file content mode) =>
        if rest.isEmpty then .ok (.target (.file (l ++ [piece]) content mode))
        else .error .notDirectory
      | some (.link target) => .ok (.link l target rest) := by
  obtain ⟨hhere, hup, hlong⟩ := h
  rw [advance]
  exact (if_neg (Bool.eq_false_iff.mp hhere)).trans
    ((if_neg hup).trans (if_neg (Nat.not_lt.mpr hlong)))

theorem advance_nil_of_not_directory {d : Disk} {l : Location}
    (h : ∀ mode, d.get? l ≠ some (.directory mode)) : d.advance l [] = .error .notFound := by
  rw [advance]
  split
  · rename_i mode hget
    exact absurd hget (h mode)
  · rfl

/-! ## Behind the end of a path -/

/-- How the way goes on from a halt with further pieces. -/
def resume (d : Disk) (halt : Halt) (rest : List Text) : Except DiskError Halt :=
  match halt with
  | .target (.directory m _) => d.advance m rest
  | .target (.file _ _ _) => if rest.isEmpty then .ok halt else .error .notDirectory
  | .link m target pieces => .ok (.link m target (pieces ++ rest))

theorem advance_append {d : Disk} {l : Location} {pieces : List Text} {halt : Halt}
    (h : d.advance l pieces = .ok halt) (rest : List Text) :
    d.advance l (pieces ++ rest) = d.resume halt rest := by
  induction pieces generalizing l with
  | nil =>
    rw [advance] at h
    split at h
    · cases h
      rfl
    · cases h
  | cons piece pieces ih =>
    rw [List.cons_append]
    rcases advance_cons_cases piece with hstay | hup | hlong | hname
    · rw [hstay] at h ⊢
      exact ih h
    · rw [hup] at h ⊢
      exact ih h
    · rw [hlong] at h
      cases h
    · rw [advance_cons_of_isName hname] at h ⊢
      cases hget : d.get? (l ++ [piece]) with
      | none => simp [hget] at h
      | some e =>
        cases e with
        | directory mode =>
          simp only [hget] at h ⊢
          exact ih h
        | file content mode =>
          simp only [hget] at h ⊢
          cases pieces with
          | nil =>
            cases h
            rfl
          | cons next pieces => cases h
        | link target =>
          simp only [hget] at h ⊢
          cases h
          rfl

/-- A file is at a name in a directory. -/
theorem get?_of_advance {d : Disk} {l f : Location} {pieces : List Text} {content : Content}
    {mode : Nat} (h : d.advance l pieces = .ok (.target (.file f content mode))) :
    ∃ m name, f = m ++ [name] ∧ IsName name ∧ d.get? f = some (.file content mode) := by
  induction pieces generalizing l with
  | nil =>
    rw [advance] at h
    split at h
    · cases h
    · cases h
  | cons piece pieces ih =>
    rcases advance_cons_cases piece with hstay | hup | hlong | hname
    · rw [hstay] at h
      exact ih h
    · rw [hup] at h
      exact ih h
    · rw [hlong] at h
      cases h
    · rw [advance_cons_of_isName hname] at h
      split at h
      · cases h
      · exact ih h
      · rename_i hget
        split at h
        · cases h
          exact ⟨l, piece, rfl, hname, hget⟩
        · cases h
      · cases h

/-- A directory that the way halts at is there. -/
theorem get?_directory_of_advance {d : Disk} {l m : Location} {pieces : List Text} {mode : Nat}
    (h : d.advance l pieces = .ok (.target (.directory m mode))) :
    d.get? m = some (.directory mode) := by
  induction pieces generalizing l with
  | nil =>
    rw [advance] at h
    split at h
    · rename_i hget
      cases h
      exact hget
    · cases h
  | cons piece pieces ih =>
    rcases advance_cons_cases piece with hstay | hup | hlong | hname
    · rw [hstay] at h
      exact ih h
    · rw [hup] at h
      exact ih h
    · rw [hlong] at h
      cases h
    · rw [advance_cons_of_isName hname] at h
      split at h
      · cases h
      · exact ih h
      · split at h
        · cases h
        · cases h
      · cases h

/-! ## Links -/

/-- Where the way goes on that halts at a link met in the directory `m`. -/
def linkOrigin (m : Location) (target : Text) : Location :=
  if Path.isAbsolute target then [] else m

theorem follow_of_error {d : Disk} {n : Nat} {l : Location} {pieces : List Text} {e : DiskError}
    (h : d.advance l pieces = .error e) : d.follow n l pieces = .error e := by
  rw [follow, h]

theorem follow_of_target {d : Disk} {n : Nat} {l : Location} {pieces : List Text} {t : Target}
    (h : d.advance l pieces = .ok (.target t)) : d.follow n l pieces = .ok t := by
  rw [follow, h]

theorem follow_zero_of_link {d : Disk} {l m : Location} {pieces rest : List Text} {target : Text}
    (h : d.advance l pieces = .ok (.link m target rest)) :
    d.follow 0 l pieces = .error .linkLoop := by
  rw [follow, h]

theorem follow_succ_of_link {d : Disk} {n : Nat} {l m : Location} {pieces rest : List Text}
    {target : Text} (h : d.advance l pieces = .ok (.link m target rest)) :
    d.follow (n + 1) l pieces =
      d.follow n (linkOrigin m target) (Path.pieces target ++ rest) := by
  rw [follow, h]
  rfl

/-- The way depends on where the first part of it leads. -/
theorem follow_congr {d : Disk} {l m : Location} {pieces rest : List Text}
    (h : d.advance l pieces = d.advance m rest) (n : Nat) :
    d.follow n l pieces = d.follow n m rest := by
  cases n with
  | zero => rw [follow, follow, h]
  | succ n => rw [follow, follow, h]

/-- A way that succeeds halts at its target, or at a link from which it succeeds. -/
theorem advance_of_follow {d : Disk} {n : Nat} {l : Location} {pieces : List Text} {t : Target}
    (h : d.follow n l pieces = .ok t) :
    d.advance l pieces = .ok (.target t) ∨
      ∃ k m target rest, n = k + 1 ∧ d.advance l pieces = .ok (.link m target rest) ∧
        d.follow k (linkOrigin m target) (Path.pieces target ++ rest) = .ok t := by
  cases hadvance : d.advance l pieces with
  | error e =>
    rw [follow_of_error hadvance] at h
    cases h
  | ok halt =>
    cases halt with
    | target t' =>
      rw [follow_of_target hadvance] at h
      cases h
      exact Or.inl rfl
    | link m target rest =>
      cases n with
      | zero =>
        rw [follow_zero_of_link hadvance] at h
        cases h
      | succ k =>
        rw [follow_succ_of_link hadvance] at h
        exact Or.inr ⟨k, m, target, rest, rfl, rfl, h⟩

/-- A way that succeeds does so with more links allowed. -/
theorem follow_mono {d : Disk} {n k : Nat} {l : Location} {pieces : List Text} {t : Target}
    (h : d.follow n l pieces = .ok t) (hle : n ≤ k) : d.follow k l pieces = .ok t := by
  induction n generalizing k l pieces with
  | zero =>
    rcases advance_of_follow h with hadvance | ⟨k', m, target, rest, hn, -, -⟩
    · exact follow_of_target hadvance
    · cases hn
  | succ n ih =>
    rcases advance_of_follow h with hadvance | ⟨k', m, target, rest, hn, hadvance, hrest⟩
    · exact follow_of_target hadvance
    · cases hn
      obtain ⟨k, rfl⟩ : ∃ j, k = j + 1 := ⟨k - 1, by omega⟩
      rw [follow_succ_of_link hadvance]
      exact ih hrest (by omega)

/-- Two ways from one place that succeed lead to one target. -/
theorem follow_unique {d : Disk} {n k : Nat} {l : Location} {pieces : List Text} {t t' : Target}
    (h : d.follow n l pieces = .ok t) (h' : d.follow k l pieces = .ok t') : t = t' := by
  have hmax := follow_mono h (Nat.le_max_left n k)
  have hmax' := follow_mono h' (Nat.le_max_right n k)
  rw [hmax] at hmax'
  exact Except.ok.inj hmax'

/-- A file is at a name in a directory. -/
theorem get?_of_follow {d : Disk} {n : Nat} {l f : Location} {pieces : List Text}
    {content : Content} {mode : Nat} (h : d.follow n l pieces = .ok (.file f content mode)) :
    ∃ m name, f = m ++ [name] ∧ IsName name ∧ d.get? f = some (.file content mode) := by
  induction n generalizing l pieces with
  | zero =>
    rcases advance_of_follow h with hadvance | ⟨k, m, target, rest, hn, -, -⟩
    · exact get?_of_advance hadvance
    · cases hn
  | succ n ih =>
    rcases advance_of_follow h with hadvance | ⟨k, m, target, rest, hn, -, hrest⟩
    · exact get?_of_advance hadvance
    · cases hn
      exact ih hrest

theorem get?_directory_of_follow {d : Disk} {n : Nat} {l m : Location} {pieces : List Text}
    {mode : Nat} (h : d.follow n l pieces = .ok (.directory m mode)) :
    d.get? m = some (.directory mode) := by
  induction n generalizing l pieces with
  | zero =>
    rcases advance_of_follow h with hadvance | ⟨k, m', target, rest, hn, -, -⟩
    · exact get?_directory_of_advance hadvance
    · cases hn
  | succ n ih =>
    rcases advance_of_follow h with hadvance | ⟨k, m', target, rest, hn, -, hrest⟩
    · exact get?_directory_of_advance hadvance
    · cases hn
      exact ih hrest

/-- From a directory the way goes on there. -/
theorem exists_follow_append {d : Disk} {n : Nat} {l m : Location} {pieces : List Text}
    {mode : Nat} (h : d.follow n l pieces = .ok (.directory m mode)) :
    ∃ k, ∀ rest, d.follow n l (pieces ++ rest) = d.follow k m rest := by
  induction n generalizing l pieces with
  | zero =>
    rcases advance_of_follow h with hadvance | ⟨k, m', target, rest, hn, -, -⟩
    · exact ⟨0, fun rest => follow_congr (advance_append hadvance rest) 0⟩
    · cases hn
  | succ n ih =>
    rcases advance_of_follow h with hadvance | ⟨k, m', target, rest, hn, hadvance, hrest⟩
    · exact ⟨n + 1, fun rest => follow_congr (advance_append hadvance rest) (n + 1)⟩
    · cases hn
      obtain ⟨k, hk⟩ := ih hrest
      refine ⟨k, fun rest' => ?_⟩
      rw [follow_succ_of_link (advance_append hadvance rest'), ← List.append_assoc]
      exact hk rest'

/-- From a file the way goes nowhere. -/
theorem follow_append_ne_ok {d : Disk} {n : Nat} {l f : Location} {pieces rest : List Text}
    {content : Content} {mode : Nat} (h : d.follow n l pieces = .ok (.file f content mode))
    (hrest : rest ≠ []) (k : Nat) (t : Target) : d.follow k l (pieces ++ rest) ≠ .ok t := by
  intro hk
  have hstop : d.advance l pieces ≠ .ok (.target (.file f content mode)) := by
    intro hadvance
    have happend := advance_append hadvance rest
    rw [resume, if_neg (by simpa using hrest)] at happend
    rw [follow_of_error happend] at hk
    cases hk
  induction n generalizing l pieces k with
  | zero =>
    rcases advance_of_follow h with hadvance | ⟨j, m, target, rest', hn, -, -⟩
    · exact hstop hadvance
    · cases hn
  | succ n ih =>
    rcases advance_of_follow h with hadvance | ⟨j, m, target, rest', hn, hadvance, hnext⟩
    · exact hstop hadvance
    · cases hn
      have happend := advance_append hadvance rest
      rcases advance_of_follow hk with hend | ⟨j', m', target', rest'', hn', hend, hnext'⟩
      · rw [happend] at hend
        cases hend
      · rw [happend] at hend
        cases hend
        rw [← List.append_assoc] at hnext'
        refine ih hnext j' hnext' ?_
        intro hadvance'
        have happend' := advance_append hadvance' rest
        rw [resume, if_neg (by simpa using hrest)] at happend'
        rw [follow_of_error happend'] at hnext'
        cases hnext'

/-! ## Two disks -/

/-- Two disks have the same directories. -/
def SameDirectories (d d' : Disk) : Prop :=
  ∀ l, d'.get? l = d.get? l ∨
    (∀ mode, d.get? l ≠ some (.directory mode)) ∧ ∀ mode, d'.get? l ≠ some (.directory mode)

variable {d d' : Disk} {m : Location} {name : Text}

namespace SameDirectories

/-- The ways are the same up to an entry in which the disks differ, and so are those that go on. -/
theorem advance_append_cases (h : SameDirectories d d') (l : Location) (pieces : List Text) :
    d'.advance l pieces = d.advance l pieces ∨
      ∃ m name rest, IsName name ∧ d'.get? (m ++ [name]) ≠ d.get? (m ++ [name]) ∧
        ∀ more, d.advance l (pieces ++ more) = d.advance m (name :: (rest ++ more)) ∧
          d'.advance l (pieces ++ more) = d'.advance m (name :: (rest ++ more)) := by
  induction pieces generalizing l with
  | nil =>
    left
    rcases h l with heq | ⟨hd, hd'⟩
    · rw [advance, advance, heq]
    · rw [advance_nil_of_not_directory hd, advance_nil_of_not_directory hd']
  | cons piece pieces ih =>
    simp only [List.cons_append]
    rcases advance_cons_cases piece with hstay | hup | hlong | hname
    · simp only [hstay]
      exact ih l
    · simp only [hup]
      exact ih l.dropLast
    · rw [hlong, hlong]
      exact Or.inl rfl
    · by_cases heq : d'.get? (l ++ [piece]) = d.get? (l ++ [piece])
      · simp only [advance_cons_of_isName hname, heq]
        cases d.get? (l ++ [piece]) with
        | none => exact Or.inl rfl
        | some e =>
          cases e with
          | directory mode => exact ih (l ++ [piece])
          | file content mode => exact Or.inl rfl
          | link target => exact Or.inl rfl
      · exact Or.inr ⟨l, piece, pieces, hname, heq, fun more => ⟨rfl, rfl⟩⟩

theorem advance_cases (h : SameDirectories d d') (l : Location) (pieces : List Text) :
    d'.advance l pieces = d.advance l pieces ∨
      ∃ m name rest, IsName name ∧ d'.get? (m ++ [name]) ≠ d.get? (m ++ [name]) ∧
        d.advance l pieces = d.advance m (name :: rest) ∧
        d'.advance l pieces = d'.advance m (name :: rest) := by
  refine (h.advance_append_cases l pieces).imp_right ?_
  rintro ⟨m, name, rest, hname, hne, hways⟩
  have hend := hways []
  rw [List.append_nil, List.append_nil] at hend
  exact ⟨m, name, rest, hname, hne, hend⟩

/-- So they are through links, since the same number of them is left to follow on both. -/
theorem follow_append_cases (h : SameDirectories d d') (n : Nat) (l : Location)
    (pieces : List Text) :
    d'.follow n l pieces = d.follow n l pieces ∨
      ∃ k m name rest, IsName name ∧ d'.get? (m ++ [name]) ≠ d.get? (m ++ [name]) ∧
        ∀ more, d.follow n l (pieces ++ more) = d.follow k m (name :: (rest ++ more)) ∧
          d'.follow n l (pieces ++ more) = d'.follow k m (name :: (rest ++ more)) := by
  induction n generalizing l pieces with
  | zero =>
    rcases h.advance_append_cases l pieces with heq | ⟨m, name, rest, hname, hne, hways⟩
    · rw [follow, follow, heq]
      exact Or.inl rfl
    · exact Or.inr ⟨0, m, name, rest, hname, hne, fun more =>
        ⟨follow_congr (hways more).1 0, follow_congr (hways more).2 0⟩⟩
  | succ n ih =>
    rcases h.advance_append_cases l pieces with heq | ⟨m, name, rest, hname, hne, hways⟩
    · cases hd : d.advance l pieces with
      | error e =>
        left
        rw [follow_of_error hd, follow_of_error (heq.trans hd)]
      | ok halt =>
        cases halt with
        | target t =>
          left
          rw [follow_of_target hd, follow_of_target (heq.trans hd)]
        | link m' target rest =>
          rw [follow_succ_of_link hd, follow_succ_of_link (heq.trans hd)]
          refine (ih _ _).imp_right ?_
          rintro ⟨k, m, name, rest', hname, hne, hways⟩
          refine ⟨k, m, name, rest', hname, hne, fun more => ?_⟩
          rw [follow_succ_of_link (advance_append hd more),
            follow_succ_of_link (advance_append (heq.trans hd) more), ← List.append_assoc]
          exact hways more
    · exact Or.inr ⟨n + 1, m, name, rest, hname, hne, fun more =>
        ⟨follow_congr (hways more).1 _, follow_congr (hways more).2 _⟩⟩

theorem follow_cases (h : SameDirectories d d') (n : Nat) (l : Location) (pieces : List Text) :
    d'.follow n l pieces = d.follow n l pieces ∨
      ∃ k m name rest, IsName name ∧ d'.get? (m ++ [name]) ≠ d.get? (m ++ [name]) ∧
        d.follow n l pieces = d.follow k m (name :: rest) ∧
        d'.follow n l pieces = d'.follow k m (name :: rest) := by
  refine (h.follow_append_cases n l pieces).imp_right ?_
  rintro ⟨k, m, name, rest, hname, hne, hways⟩
  have hend := hways []
  rw [List.append_nil, List.append_nil] at hend
  exact ⟨k, m, name, rest, hname, hne, hend⟩

end SameDirectories

/-- Two disks differ at the location at most, and neither has a directory there. -/
structure AgreesOff (d d' : Disk) (x : Location) : Prop where
  get?_eq : ∀ m, m ≠ x → d'.get? m = d.get? m
  not_directory : ∀ mode, d.get? x ≠ some (.directory mode)
  not_directory' : ∀ mode, d'.get? x ≠ some (.directory mode)

theorem AgreesOff.sameDirectories {x : Location} (h : AgreesOff d d' x) : SameDirectories d d' := by
  intro l
  by_cases hl : l = x
  · rw [hl]
    exact Or.inr ⟨h.not_directory, h.not_directory'⟩
  · exact Or.inl (h.get?_eq l hl)

/-- Up to the location the ways are the same, and so are those that go on. -/
theorem follow_append_agree (h : AgreesOff d d' (m ++ [name])) (n : Nat) (l : Location)
    (pieces : List Text) :
    d'.follow n l pieces = d.follow n l pieces ∨
      ∃ k rest, IsName name ∧
        ∀ more, d.follow n l (pieces ++ more) = d.follow k m (name :: (rest ++ more)) ∧
          d'.follow n l (pieces ++ more) = d'.follow k m (name :: (rest ++ more)) := by
  refine (h.sameDirectories.follow_append_cases n l pieces).imp_right ?_
  rintro ⟨k, m', name', rest, hname, hne, hways⟩
  have heq : m' ++ [name'] = m ++ [name] := by
    by_contra hoff
    exact hne (h.get?_eq _ hoff)
  obtain ⟨rfl, hlast⟩ := List.append_inj' heq rfl
  obtain rfl : name' = name := List.singleton_inj.mp hlast
  exact ⟨k, rest, hname, hways⟩

theorem follow_agree (h : AgreesOff d d' (m ++ [name])) (n : Nat) (l : Location)
    (pieces : List Text) :
    d'.follow n l pieces = d.follow n l pieces ∨
      ∃ k rest, IsName name ∧ d.follow n l pieces = d.follow k m (name :: rest) ∧
        d'.follow n l pieces = d'.follow k m (name :: rest) := by
  refine (follow_append_agree h n l pieces).imp_right ?_
  rintro ⟨k, rest, hname, hways⟩
  have hend := hways []
  rw [List.append_nil, List.append_nil] at hend
  exact ⟨k, rest, hname, hend⟩

/-- With a file at its end the way is over, or goes nowhere. -/
theorem follow_cons_of_file (hname : IsName name) {content : Content} {mode : Nat}
    (hget : d.get? (m ++ [name]) = some (.file content mode)) (n : Nat) (rest : List Text) :
    d.follow n m (name :: rest) =
      if rest.isEmpty then .ok (.file (m ++ [name]) content mode) else .error .notDirectory := by
  have hadvance := advance_cons_of_isName hname d m rest
  rw [hget] at hadvance
  cases rest with
  | nil => exact follow_of_target hadvance
  | cons next rest => exact follow_of_error hadvance

theorem follow_singleton_of_directory (hname : IsName name) {mode : Nat}
    (hget : d.get? (m ++ [name]) = some (.directory mode)) (n : Nat) :
    d.follow n m [name] = .ok (.directory (m ++ [name]) mode) := by
  refine follow_of_target ?_
  rw [advance_cons_of_isName hname, hget]
  simp only [advance, hget]

theorem follow_cons_of_none (hname : IsName name) (hget : d.get? (m ++ [name]) = none) (n : Nat)
    (rest : List Text) : d.follow n m (name :: rest) = .error .notFound := by
  have hadvance := advance_cons_of_isName hname d m rest
  rw [hget] at hadvance
  exact follow_of_error hadvance

end CatalogLint.Disk
