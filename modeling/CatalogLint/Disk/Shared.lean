import CatalogLint.Disk.Basic

/-!
# Files with several locations

One file may stand at several locations of a disk (hard links). What is written into it is seen at
all of them, and what is put over it at one of them leaves it at the others. A `SharedDisk` knows
the locations of such files.

* `SharedDisk.put` puts another entry at a location, and `SharedDisk.erase` removes the one there.
* `SharedDisk.write` writes into the file at a location.
-/

namespace CatalogLint

/-- A disk, and the locations of each of its files that has several. -/
structure SharedDisk extends Disk where
  shared : List (List Location) := []
  files : ∀ group ∈ shared, ∀ l ∈ group, toDisk.isFileAt l = true := by simp
  /-- The same file is at all locations of a group. -/
  alike : ∀ group ∈ shared, ∀ l ∈ group, ∀ m ∈ group, toDisk.get? l = toDisk.get? m := by simp
  apart : shared.Pairwise fun group group' => ∀ l ∈ group, l ∉ group' := by simp
  deriving DecidableEq, Repr

namespace Disk

theorem isFileAt_congr {d d' : Disk} {l m : Location} (h : d'.get? m = d.get? l) :
    d'.isFileAt m = d.isFileAt l := by
  rw [isFileAt, isFileAt, h]

/-- Writes an entry at each of several locations. -/
def putAll (d : Disk) (group : List Location) (e : Entry) : Disk :=
  group.foldl (fun d l => d.put l e) d

theorem get?_putAll_of_not_mem {d : Disk} {group : List Location} {l : Location} {e : Entry}
    (hl : l ∉ group) : (d.putAll group e).get? l = d.get? l := by
  induction group generalizing d with
  | nil => rfl
  | cons m group ih =>
    obtain ⟨hm, hgroup⟩ := not_or.mp (mt List.mem_cons.mpr hl)
    exact (ih hgroup).trans (get?_put_of_ne hm)

theorem get?_putAll_of_mem {d : Disk} {group : List Location} {l : Location} {e : Entry}
    (hl : l ∈ group) (hne : l ≠ []) : (d.putAll group e).get? l = some e := by
  induction group generalizing d with
  | nil => cases hl
  | cons m group ih =>
    by_cases hgroup : l ∈ group
    · exact ih hgroup
    · obtain rfl := (List.mem_cons.mp hl).resolve_right hgroup
      exact (get?_putAll_of_not_mem hgroup).trans (get?_put_self hne)

end Disk

namespace SharedDisk

/-- A disk on which each file has one location. -/
def ofDisk (d : Disk) : SharedDisk := { toDisk := d }

/-- The locations of the file at a location. -/
def locations (s : SharedDisk) (l : Location) : List Location :=
  (s.shared.find? (·.contains l)).getD [l]

variable {s : SharedDisk} {l : Location} {group : List Location}

/-- Two groups are one, or they have no location in common. -/
theorem eq_or_apart {shared : List (List Location)} {group' : List Location}
    (h : shared.Pairwise fun group group' => ∀ l ∈ group, l ∉ group') (hgroup : group ∈ shared)
    (hgroup' : group' ∈ shared) : group = group' ∨ ∀ l ∈ group, l ∉ group' := by
  induction h with
  | nil => cases hgroup
  | cons hhead _ ih =>
    rcases List.mem_cons.mp hgroup with rfl | hmem <;>
      rcases List.mem_cons.mp hgroup' with rfl | hmem'
    · exact .inl rfl
    · exact .inr (hhead _ hmem')
    · exact .inr fun l hl hl' => hhead _ hmem l hl' hl
    · exact ih hmem hmem'

/-- A group is the locations of a file, or has none of them. -/
theorem eq_locations_or_apart (hgroup : group ∈ s.shared) (l : Location) :
    group = s.locations l ∨ ∀ m ∈ group, m ∉ s.locations l := by
  rw [locations]
  cases hfind : s.shared.find? (·.contains l) with
  | some found => exact eq_or_apart s.apart hgroup (List.mem_of_find?_eq_some hfind)
  | none =>
    refine .inr fun m hm hml => ?_
    obtain rfl := List.mem_singleton.mp hml
    exact List.find?_eq_none.mp hfind group hgroup (List.contains_iff_mem.mpr hm)

/-- What two disks show alike, they show at the same groups. -/
theorem files_of_get?_eq {d : Disk} {shared : List (List Location)}
    (h : ∀ group ∈ shared, ∃ group' ∈ s.shared, ∀ m ∈ group, m ∈ group' ∧ d.get? m = s.get? m) :
    (∀ group ∈ shared, ∀ m ∈ group, d.isFileAt m = true) ∧
      ∀ group ∈ shared, ∀ m ∈ group, ∀ n ∈ group, d.get? m = d.get? n := by
  constructor
  · intro group hgroup m hm
    obtain ⟨group', hgroup', hsame⟩ := h group hgroup
    rw [Disk.isFileAt_congr (hsame m hm).2]
    exact s.files group' hgroup' m (hsame m hm).1
  · intro group hgroup m hm n hn
    obtain ⟨group', hgroup', hsame⟩ := h group hgroup
    rw [(hsame m hm).2, (hsame n hn).2]
    exact s.alike group' hgroup' m (hsame m hm).1 n (hsame n hn).1

/-- The groups without a location. -/
def without (shared : List (List Location)) (l : Location) : List (List Location) :=
  shared.map (·.filter (· != l))

theorem without_get?_eq {d : Disk} (h : ∀ m, m ≠ l → d.get? m = s.get? m) :
    ∀ group ∈ without s.shared l,
      ∃ group' ∈ s.shared, ∀ m ∈ group, m ∈ group' ∧ d.get? m = s.get? m := by
  intro group hgroup
  obtain ⟨group', hgroup', rfl⟩ := List.mem_map.mp hgroup
  refine ⟨group', hgroup', fun m hm => ?_⟩
  obtain ⟨hm, hne⟩ := List.mem_filter.mp hm
  exact ⟨hm, h m (bne_iff_ne.mp hne)⟩

theorem apart_without (s : SharedDisk) (l : Location) :
    (without s.shared l).Pairwise fun group group' => ∀ l ∈ group, l ∉ group' := by
  rw [without, List.pairwise_map]
  refine s.apart.imp fun h m hm hm' => ?_
  exact h m (List.mem_filter.mp hm).1 (List.mem_filter.mp hm').1

/-- Puts another entry at a location. -/
def put (s : SharedDisk) (l : Location) (e : Entry) : SharedDisk where
  toDisk := s.toDisk.put l e
  shared := without s.shared l
  files := (files_of_get?_eq (without_get?_eq fun _ hm => Disk.get?_put_of_ne hm)).1
  alike := (files_of_get?_eq (without_get?_eq fun _ hm => Disk.get?_put_of_ne hm)).2
  apart := apart_without s l

/-- Removes the entry at a location. -/
def erase (s : SharedDisk) (l : Location) : SharedDisk where
  toDisk := s.toDisk.erase l
  shared := without s.shared l
  files := (files_of_get?_eq (without_get?_eq fun _ hm => Disk.get?_erase_of_ne hm)).1
  alike := (files_of_get?_eq (without_get?_eq fun _ hm => Disk.get?_erase_of_ne hm)).2
  apart := apart_without s l

/-- Writing into a file makes it the same at all of its locations, and leaves those of others. -/
theorem get?_putAll_cases (s : SharedDisk) (l : Location) (e : Entry) (hgroup : group ∈ s.shared) :
    (∀ m ∈ group, (s.putAll (s.locations l) e).get? m = some e) ∨
      ∀ m ∈ group, (s.putAll (s.locations l) e).get? m = s.get? m := by
  rcases eq_locations_or_apart hgroup l with rfl | hapart
  · refine .inl fun m hm => Disk.get?_putAll_of_mem hm ?_
    exact Disk.ne_nil_of_isFileAt (s.files _ hgroup m hm)
  · exact .inr fun m hm => Disk.get?_putAll_of_not_mem (hapart m hm)

/-- Writes into the file at a location. -/
def write (s : SharedDisk) (l : Location) (content : Content) (mode : Nat) : SharedDisk where
  toDisk := s.putAll (s.locations l) (.file content mode)
  shared := s.shared
  files := by
    intro group hgroup m hm
    rcases s.get?_putAll_cases l (.file content mode) hgroup with hnew | hold
    · rw [Disk.isFileAt, hnew m hm]
    · rw [Disk.isFileAt_congr (hold m hm)]
      exact s.files group hgroup m hm
  alike := by
    intro group hgroup m hm n hn
    rcases s.get?_putAll_cases l (.file content mode) hgroup with hnew | hold
    · rw [hnew m hm, hnew n hn]
    · rw [hold m hm, hold n hn]
      exact s.alike group hgroup m hm n hn
  apart := s.apart

end SharedDisk

end CatalogLint
