import CatalogLint.Disk.Replace
import CatalogLint.Proofs.Number.Decimal
import Mathlib.Data.List.Nodup
import Mathlib.Data.List.Range
import Mathlib.Data.List.Perm.Subperm

/-!
# Entries of a disk

Writing an entry changes what is at its location and nothing else, and removing it again leaves the
disk as it was if nothing was there (`erase_put_fresh`). A temporary file is made where nothing is
yet (`get?_temporaryLocation`): the names that are tried differ, and one more of them is tried than
the disk has entries.
-/

namespace CatalogLint.Disk

/-- What is left of a location below another one is what follows that. -/
theorem below?_eq_some_iff {base l below : Location} :
    Location.below? base l = some below ↔ l = base ++ below := by
  induction base generalizing l with
  | nil => simp [Location.below?]
  | cons a base ih =>
    cases l with
    | nil => simp [Location.below?]
    | cons b l =>
      rw [Location.below?]
      split
      · rename_i hab
        simp [hab, ih]
      · rename_i hab
        simp [Ne.symm hab]

theorem putEntry_of_lookup {l : Location} {e : Entry} {entries : List (Location × Entry)}
    (h : entries.lookup l = some e) : putEntry l e entries = entries := by
  induction entries with
  | nil => cases h
  | cons head rest ih =>
    obtain ⟨k, f⟩ := head
    rw [List.lookup_cons] at h
    rw [putEntry]
    by_cases hk : k = l
    · subst hk
      rw [beq_self_eq_true] at h
      rw [if_pos rfl, Option.some.inj h]
    · rw [beq_false_of_ne (Ne.symm hk)] at h
      rw [if_neg hk, ih h]

/-- An entry that is there already can be put without a change. -/
theorem put_eq_self {d : Disk} {l : Location} {content : Content} {mode : Nat}
    (h : d.get? l = some (.file content mode)) : d.put l (.file content mode) = d := by
  rw [get?] at h
  split at h
  · cases h
  · simp only [put, putEntry_of_lookup h]

theorem filter_ne_putEntry_of_ne {l m : Location} (hm : m ≠ l) (e : Entry)
    (entries : List (Location × Entry)) :
    (putEntry m e entries).filter (·.1 != l) = putEntry m e (entries.filter (·.1 != l)) := by
  induction entries with
  | nil => simp [putEntry, hm]
  | cons head rest ih =>
    obtain ⟨k, f⟩ := head
    by_cases hk : k = m
    · rw [putEntry, if_pos hk, List.filter_cons_of_pos (by simp [hm]),
        List.filter_cons_of_pos (by simp [hk, hm]), putEntry, if_pos hk]
    · rw [putEntry, if_neg hk]
      by_cases hl : k = l
      · rw [List.filter_cons_of_neg (by simp [hl]), List.filter_cons_of_neg (by simp [hl]), ih]
      · rw [List.filter_cons_of_pos (by simp [hl]), List.filter_cons_of_pos (by simp [hl]), ih,
          putEntry, if_neg hk]

theorem filter_ne_putEntry_of_lookup {l : Location} {entries : List (Location × Entry)}
    (h : entries.lookup l = none) (e : Entry) :
    (putEntry l e entries).filter (·.1 != l) = entries := by
  induction entries with
  | nil => simp [putEntry]
  | cons head rest ih =>
    obtain ⟨k, f⟩ := head
    rw [List.lookup_cons] at h
    by_cases hk : k = l
    · simp [hk] at h
    · rw [beq_false_of_ne (Ne.symm hk)] at h
      rw [putEntry, if_neg hk, List.filter_cons_of_pos (by simp [hk]), ih h]

theorem erase_put_of_ne {d : Disk} {l m : Location} (hm : m ≠ l) (e : Entry) :
    (d.put m e).erase l = (d.erase l).put m e := by
  simp only [erase, put, filter_ne_putEntry_of_ne hm]

/-- An entry that is put where nothing is and removed again leaves no trace. -/
theorem erase_put_fresh {d : Disk} {l : Location} (hfree : d.get? l = none) (e : Entry) :
    (d.put l e).erase l = d := by
  rw [get?] at hfree
  split at hfree
  · cases hfree
  · simp only [erase, put, filter_ne_putEntry_of_lookup hfree]

/-- What is at a location other than the root is one of the entries. -/
theorem mem_map_of_get? {d : Disk} {l : Location} (hl : l ≠ []) (h : (d.get? l).isSome = true) :
    l ∈ d.entries.map (·.1) := by
  rw [get?, if_neg hl] at h
  obtain ⟨e, he⟩ := Option.isSome_iff_exists.mp h
  obtain ⟨before, rest, hentries, -⟩ := List.lookup_eq_some_iff.mp he
  rw [hentries]
  simp

/-! ## Temporary files -/

/-- Different numbers make different names. -/
theorem temporaryName_injective (path : Text) : Function.Injective (temporaryName path) := by
  intro n k h
  have hdigits : Text.fill '0' (uniqueLength - (Text.ofNat n).length) ++ Text.ofNat n =
      Text.fill '0' (uniqueLength - (Text.ofNat k).length) ++ Text.ofNat k := by
    simpa [temporaryName, List.append_assoc] using h
  have hvalue := congrArg Decimal.digitsValue hdigits
  rwa [Decimal.digitsValue_fill_append, Decimal.digitsValue_fill_append, Decimal.digitsValue_ofNat,
    Decimal.digitsValue_ofNat] at hvalue

/-- Nothing is where a temporary file is made. -/
theorem get?_temporaryLocation (d : Disk) (directory : Location) (path : Text) :
    d.get? (d.temporaryLocation directory path) = none := by
  let candidates :=
    (List.range (d.entries.length + 1)).map fun n => directory ++ [temporaryName path n]
  have hne : ∀ l ∈ candidates, l ≠ [] := by
    intro l hl
    obtain ⟨n, -, rfl⟩ := List.mem_map.mp hl
    simp
  have hnodup : candidates.Nodup := by
    refine List.nodup_range.map fun n k h => ?_
    exact temporaryName_injective path (by simpa using h)
  -- Otherwise each candidate is an entry, and they are too many.
  have hfree : ∃ l ∈ candidates, (d.get? l).isNone = true := by
    by_contra hall
    have hsub : candidates ⊆ d.entries.map (·.1) := by
      intro l hl
      refine mem_map_of_get? (hne l hl) ?_
      rw [← Option.not_isNone, Bool.not_eq_true']
      exact Bool.eq_false_iff.mpr fun h => hall ⟨l, hl, h⟩
    have hlength := (List.subperm_of_subset hnodup hsub).length_le
    simp only [candidates, List.length_map, List.length_range] at hlength
    omega
  obtain ⟨l, hl⟩ := Option.isSome_iff_exists.mp (List.find?_isSome.mpr hfree)
  have hlocation : d.temporaryLocation directory path = l := by
    rw [temporaryLocation, hl]
    rfl
  have hnone := List.find?_some hl
  rw [hlocation]
  exact Option.isNone_iff_eq_none.mp hnone

theorem exists_temporaryLocation_eq (d : Disk) (directory : Location) (path : Text) :
    ∃ name, d.temporaryLocation directory path = directory ++ [name] := by
  rw [temporaryLocation]
  cases hfind : List.find? (fun l => (d.get? l).isNone)
      ((List.range (d.entries.length + 1)).map fun n => directory ++ [temporaryName path n]) with
  | none => exact ⟨temporaryName path 0, rfl⟩
  | some l =>
    obtain ⟨n, -, rfl⟩ := List.mem_map.mp (List.mem_of_find?_eq_some hfind)
    exact ⟨temporaryName path n, rfl⟩

end CatalogLint.Disk
