import CatalogLint.Disk.Replace
import CatalogLint.Proofs.Disk.Entries
import CatalogLint.Proofs.Disk.Way

/-!
# Where a path leads and what it names

A path is followed wherever it leads somewhere (`resolve_eq_follow`), and it names an entry in the
directory that all of it but its last name leads to (`place?_eq_some_iff`), which leads to what the
path leads to (`exists_follow_of_place?`). A file that is made where nothing was changes neither
(`follow_put_fresh`, `place?_put_fresh`).
-/

namespace CatalogLint.Disk

/-! ## Reading -/

/-- A path is no path by its text alone, or it is followed. -/
theorem resolve_cases (path : Text) :
    (∃ e, ∀ d : Disk, d.resolve path = .error e) ∨
      ∀ d : Disk, d.resolve path = d.follow maxLinks (d.origin path) (Path.pieces path) := by
  by_cases hnul : path.contains '\x00' = true
  · refine Or.inl ⟨.nulInPath, fun d => ?_⟩
    rw [resolve, if_pos hnul]
  · by_cases hempty : path.isEmpty = true
    · refine Or.inl ⟨.notFound, fun d => ?_⟩
      rw [resolve, if_neg hnul, if_pos hempty]
    · by_cases hlong : pathLimit ≤ Text.utf8Length path
      · refine Or.inl ⟨.nameTooLong, fun d => ?_⟩
        rw [resolve, if_neg hnul, if_neg hempty, if_pos hlong]
      · refine Or.inr fun d => ?_
        rw [resolve, if_neg hnul, if_neg hempty, if_neg hlong]

/-- A path that one disk resolves is followed on every disk. -/
theorem resolve_eq_follow {d : Disk} {path : Text} {t : Target} (h : d.resolve path = .ok t)
    (d' : Disk) : d'.resolve path = d'.follow maxLinks (d'.origin path) (Path.pieces path) := by
  rcases resolve_cases path with ⟨e, he⟩ | hfollow
  · rw [he] at h
    cases h
  · exact hfollow d'

theorem follow_of_resolve {d : Disk} {path : Text} {t : Target} (h : d.resolve path = .ok t) :
    d.follow maxLinks (d.origin path) (Path.pieces path) = .ok t :=
  (resolve_eq_follow h d).symm.trans h

/-- What a path leads to is there. -/
theorem get?_of_resolve {d : Disk} {path : Text} {l : Location} {content : Content} {mode : Nat}
    (h : d.resolve path = .ok (.file l content mode)) : d.get? l = some (.file content mode) := by
  obtain ⟨-, -, -, -, hget⟩ := get?_of_follow (follow_of_resolve h)
  exact hget

theorem read_eq_ok_iff {d : Disk} {path t : Text} :
    d.read path = .ok t ↔ ∃ f mode, d.resolve path = .ok (.file f (.text t) mode) := by
  rw [read_eq]
  constructor
  · intro h
    split at h
    · rename_i hresolve
      cases h
      exact ⟨_, _, hresolve⟩
    · cases h
    · cases h
    · cases h
  · rintro ⟨f, mode, hresolve⟩
    rw [hresolve]

section Fresh

variable {d : Disk} {directory : Location} {name : Text} {content : Content} {mode : Nat}

theorem agreesOff_put_fresh (hfree : d.get? (directory ++ [name]) = none) :
    AgreesOff d (d.put (directory ++ [name]) (.file content mode)) (directory ++ [name]) where
  get?_eq := fun _ hm => get?_put_of_ne hm
  not_directory := by
    intro mode' hget
    rw [hfree] at hget
    cases hget
  not_directory' := by
    intro mode' hget
    rw [get?_put_self (by simp)] at hget
    cases hget

/-- A file where nothing was is in the way of no path. -/
theorem follow_put_fresh (hfree : d.get? (directory ++ [name]) = none) {n : Nat} {l : Location}
    {pieces : List Text} {t : Target} (h : d.follow n l pieces = .ok t) :
    (d.put (directory ++ [name]) (.file content mode)).follow n l pieces = .ok t := by
  rcases follow_agree (agreesOff_put_fresh hfree) n l pieces with heq | ⟨k, rest, hname, hd, -⟩
  · exact heq.trans h
  · rw [hd, follow_cons_of_none hname hfree] at h
    cases h

/-- A file where nothing was makes no way to a directory. -/
theorem follow_directory_put_fresh_iff (hfree : d.get? (directory ++ [name]) = none) {n : Nat}
    {l m : Location} {pieces : List Text} {mode' : Nat} :
    (d.put (directory ++ [name]) (.file content mode)).follow n l pieces =
        .ok (.directory m mode') ↔
      d.follow n l pieces = .ok (.directory m mode') := by
  refine ⟨fun h => ?_, follow_put_fresh hfree⟩
  rcases follow_agree (agreesOff_put_fresh hfree) n l pieces with heq | ⟨k, rest, hname, -, hd'⟩
  · exact heq.symm.trans h
  · rw [hd', follow_cons_of_file hname (get?_put_self (by simp))] at h
    split at h
    · cases h
    · cases h

end Fresh

/-! ## The entry that a path names -/

/-- A path names an entry in the directory that the rest of it leads to. -/
theorem place?_eq_some_iff {d : Disk} {path : Text} {x : Location} :
    d.place? path = some x ↔
      ∃ front name l mode, Path.pieces path = front ++ [name] ∧ Path.isHere name = false ∧
        name ≠ "..".toList ∧ d.follow maxLinks (d.origin path) front = .ok (.directory l mode) ∧
        x = l ++ [name] := by
  unfold place?
  dsimp only
  constructor
  · intro h
    cases hlast : (Path.pieces path).getLast? with
    | none => simp [hlast] at h
    | some name =>
      simp only [hlast] at h
      split at h
      · cases h
      · rename_i hproper
        simp only [Bool.or_eq_true, decide_eq_true_eq, not_or, Bool.not_eq_true] at hproper
        split at h
        · rename_i l mode hfollow
          cases h
          obtain ⟨front, hfront⟩ := List.getLast?_eq_some_iff.mp hlast
          rw [hfront, List.dropLast_concat] at hfollow
          exact ⟨front, name, l, mode, hfront, hproper.1, hproper.2, hfollow, rfl⟩
        · cases h
  · rintro ⟨front, name, l, mode, hpieces, hhere, hup, hfollow, rfl⟩
    have hproper : ¬ (Path.isHere name || decide (name = "..".toList)) = true := by
      rw [hhere, decide_eq_false hup]
      decide
    rw [hpieces, List.getLast?_concat, List.dropLast_concat]
    dsimp only
    rw [if_neg hproper, hfollow]

theorem ne_nil_of_place? {d : Disk} {path : Text} {x : Location} (h : d.place? path = some x) :
    x ≠ [] := by
  obtain ⟨front, name, l, mode, -, -, -, -, rfl⟩ := place?_eq_some_iff.mp h
  simp

/-- Where the same ways lead to directories, a path names the same entry. -/
theorem place?_congr {d d' : Disk} {path : Text} (horigin : d'.origin path = d.origin path)
    (hways : ∀ n l pieces m mode, d'.follow n l pieces = .ok (.directory m mode) ↔
      d.follow n l pieces = .ok (.directory m mode)) : d'.place? path = d.place? path := by
  refine Option.ext fun x => ?_
  rw [place?_eq_some_iff, place?_eq_some_iff]
  simp only [horigin, hways]

theorem isName_of_follow {d : Disk} {n : Nat} {l : Location} {name : Text} {t : Target}
    (hhere : Path.isHere name = false) (hup : name ≠ "..".toList)
    (h : d.follow n l [name] = .ok t) : IsName name := by
  refine ⟨hhere, hup, Nat.le_of_not_lt fun hlong => ?_⟩
  have hadvance : d.advance l [name] = .error .nameTooLong := by
    rw [advance, if_neg (Bool.eq_false_iff.mp hhere), if_neg hup, if_pos hlong]
  rw [follow_of_error hadvance] at h
  cases h

/-- The entry that a path names leads to what the path leads to. -/
theorem exists_follow_of_place? {d : Disk} {path : Text} {x : Location} {t : Target}
    (hplace : d.place? path = some x) (hresolve : d.resolve path = .ok t) :
    ∃ front name l mode k, Path.pieces path = front ++ [name] ∧ x = l ++ [name] ∧ IsName name ∧
      d.follow maxLinks (d.origin path) front = .ok (.directory l mode) ∧
      d.follow k l [name] = .ok t := by
  obtain ⟨front, name, l, mode, hpieces, hhere, hup, hfront, rfl⟩ :=
    place?_eq_some_iff.mp hplace
  obtain ⟨k, hk⟩ := exists_follow_append hfront
  have hleads : d.follow k l [name] = .ok t := by
    rw [← hk, ← hpieces]
    exact follow_of_resolve hresolve
  exact ⟨front, name, l, mode, k, hpieces, rfl, isName_of_follow hhere hup hleads, hfront, hleads⟩

section Place

variable {d : Disk} {directory x : Location} {temporary path : Text} {c : Content} {mode : Nat}
  {t : Target}

/-- There is something at the entry that a path names if the path leads somewhere. -/
theorem get?_ne_none_of_place? (hresolve : d.resolve path = .ok t)
    (hplace : d.place? path = some x) : d.get? x ≠ none := by
  obtain ⟨front, name, l, mode, k, -, rfl, hname, -, hleads⟩ :=
    exists_follow_of_place? hplace hresolve
  intro hnone
  rw [follow_cons_of_none hname hnone] at hleads
  cases hleads

/-- A file where nothing was is not in the way to the entry that a path names. -/
theorem place?_put_fresh (hfree : d.get? (directory ++ [temporary]) = none) (path : Text) :
    (d.put (directory ++ [temporary]) (.file c mode)).place? path = d.place? path :=
  place?_congr rfl fun _ _ _ _ _ => follow_directory_put_fresh_iff hfree

end Place

end CatalogLint.Disk
