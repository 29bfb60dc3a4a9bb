import CatalogLint.Disk.Find
import CatalogLint.Proofs.Disk.PathOrder
import CatalogLint.Proofs.Disk.Replacement
import CatalogLint.Proofs.Order.Sorting

/-!
# The catalogues in a directory

A walk from a directory comes to each entry there and below that is not skipped, nor in a directory
that is skipped or cannot be listed, once and in any order (`IsWalk`). What a path to the directory
stands for is the same for all of these orders: the files with the extension of catalogues that the
walk comes to, as paths without a leading dot, sorted by components (`IsWalk.find_eq_sorted`). No two
of these paths have the same components, so that the order is strict (`pairwise_find`). The walk has
an error for each directory that it comes to and cannot list, and for each entry that it comes to and
cannot read (`mem_walkErrors_iff`).
-/

namespace CatalogLint

/-- Whether a path is at most another one in the order of components. -/
def Path.le (p q : Text) : Bool := Path.components p ≤ Path.components q

namespace Disk

/-- The names on the way to each entry are names that an entry can have. -/
def WellNamed (d : Disk) : Prop := ∀ e ∈ d.entries, ∀ name ∈ e.1, Path.IsEntryName name

/-- A walk from the directory `base` comes to the entry at `below`, seen from there: neither it nor a
directory on the way is skipped, and these directories can be listed. -/
structure ComesTo (d : Disk) (base below : Location) : Prop where
  not_skipped : ∀ n < below.length, d.isSkipped (base ++ below.take (n + 1)) = false
  listed : ∀ n < below.length, d.isUnreadable (base ++ below.take n) = false

/-- A walk comes to an entry and learns what it is; a directory is known even if it cannot be
listed. -/
structure IsOpen (d : Disk) (base below : Location) : Prop extends d.ComesTo base below where
  known : d.isUnreadable (base ++ below) = false ∨ d.isDirectoryAt (base ++ below) = true

/-- An enumeration, in any order, of what a walk along a path to the directory `base` comes to and
learns of, seen from there: the directory itself and entries below it. Along the path of the standard
input it comes to none of them. -/
structure IsWalk (d : Disk) (path : Text) (base : Location) (walk : List Location) : Prop where
  nodup : walk.Nodup
  mem_iff : ∀ below, below ∈ walk ↔ path ≠ standardInput ∧ (d.get? (base ++ below)).isSome = true ∧
    d.IsOpen base below

/-- Whether a walk along a path finds a catalogue at a location seen from the directory. -/
def isFound (d : Disk) (path : Text) (base below : Location) : Bool :=
  d.isFileAt (base ++ below) && Path.extension? (Path.descend path below) == some "po".toList

/-- The paths of the catalogues that a walk finds. -/
def pathsFound (d : Disk) (path : Text) (base : Location) (walk : List Location) : List Text :=
  (walk.filter (d.isFound path base)).map fun below => Path.dropHere (Path.descend path below)

variable {d : Disk} {path : Text} {base : Location} {walk : List Location} {mode : Nat}

/-! ## Walks -/

/-- What is at a location other than the root is what there is an entry for. -/
theorem get?_isSome_iff {l : Location} (hl : l ≠ []) :
    (d.get? l).isSome = true ↔ ∃ e, (l, e) ∈ d.entries := by
  constructor
  · intro h
    obtain ⟨⟨m, e⟩, hmem, rfl⟩ := List.mem_map.mp (mem_map_of_get? hl h)
    exact ⟨e, hmem⟩
  · rintro ⟨e, hmem⟩
    rw [get?, if_neg hl, Option.isSome_iff_ne_none]
    intro hnone
    have := List.lookup_eq_none_iff.mp hnone (l, e) hmem
    simp at this

theorem isMet_eq_true_iff {below : Location} :
    d.isMet base below = true ↔ d.ComesTo base below := by
  simp only [isMet, List.all_eq_true, List.mem_range, Bool.and_eq_true, Bool.not_eq_true']
  constructor
  · intro hway
    exact ⟨fun n hn => (hway n hn).1, fun n hn => (hway n hn).2⟩
  · rintro ⟨hskipped, hlisted⟩ n hn
    exact ⟨hskipped n hn, hlisted n hn⟩

theorem isReached_iff {below : Location} :
    d.isReached base below = true ↔ below ≠ [] ∧ d.IsOpen base below := by
  simp only [isReached, isKnown, Bool.and_eq_true, Bool.not_eq_true', Bool.or_eq_true,
    List.isEmpty_eq_false_iff, isMet_eq_true_iff]
  constructor
  · rintro ⟨⟨hne, hcomes⟩, hknown⟩
    exact ⟨hne, hcomes, hknown⟩
  · rintro ⟨hne, hcomes, hknown⟩
    exact ⟨⟨hne, hcomes⟩, hknown⟩

/-- The entries that are reached from a directory are those below it to which a walk comes. -/
theorem mem_reached_iff {below : Location} :
    below ∈ d.reached base ↔
      below ≠ [] ∧ (d.get? (base ++ below)).isSome = true ∧ d.IsOpen base below := by
  have hmem : below ∈ d.reached base ↔
      (∃ e, (base ++ below, e) ∈ d.entries) ∧ d.isReached base below = true := by
    simp only [reached, List.mem_filterMap, Option.filter_eq_some_iff, below?_eq_some_iff]
    constructor
    · rintro ⟨⟨l, e⟩, hentry, rfl, hreached⟩
      exact ⟨⟨e, hentry⟩, hreached⟩
    · rintro ⟨⟨e, hentry⟩, hreached⟩
      exact ⟨(base ++ below, e), hentry, rfl, hreached⟩
  rw [hmem, isReached_iff]
  constructor
  · rintro ⟨hentry, hne, hall⟩
    exact ⟨hne, (get?_isSome_iff (List.append_ne_nil_of_right_ne_nil base hne)).mpr hentry, hall⟩
  · rintro ⟨hne, hentry, hall⟩
    exact ⟨(get?_isSome_iff (List.append_ne_nil_of_right_ne_nil base hne)).mp hentry, hne, hall⟩

theorem nodup_reached (d : Disk) (base : Location) : (d.reached base).Nodup := by
  have hdistinct : d.entries.Pairwise fun e f => e.1 ≠ f.1 := List.pairwise_map.mp d.distinct
  refine List.Pairwise.filterMap _ ?_ hdistinct
  intro e f hne below hbelow below' hbelow' heq
  simp only [Option.filter_eq_some_iff, below?_eq_some_iff] at hbelow hbelow'
  exact hne (hbelow.1.trans (by rw [heq, hbelow'.1]))

/-- The directory and what is reached from it are a walk, in one of its orders. -/
theorem isWalk_reached (hresolve : d.resolve path = .ok (.directory base mode))
    (hpath : path ≠ standardInput) : d.IsWalk path base ([] :: d.reached base) where
  nodup := by
    rw [List.nodup_cons, mem_reached_iff]
    exact ⟨fun h => h.1 rfl, nodup_reached d base⟩
  mem_iff := by
    have hbase := get?_directory_of_follow (follow_of_resolve hresolve)
    intro below
    rw [List.mem_cons, mem_reached_iff]
    by_cases hbelow : below = []
    · -- The directory itself is known even if it cannot be listed.
      have hopen : d.IsOpen base [] := ⟨⟨nofun, nofun⟩, .inr (by simp [isDirectoryAt, hbase])⟩
      simp [hbelow, hpath, hbase, hopen]
    · simp [hbelow, hpath]

/-- A walk may come to the same locations in another order. -/
theorem IsWalk.perm {walk' : List Location} (hwalk : d.IsWalk path base walk)
    (hperm : walk.Perm walk') : d.IsWalk path base walk' where
  nodup := hperm.nodup_iff.mp hwalk.nodup
  mem_iff below := by rw [← hperm.mem_iff, hwalk.mem_iff]

theorem exists_isWalk (hresolve : d.resolve path = .ok (.directory base mode)) :
    ∃ walk, d.IsWalk path base walk := by
  by_cases hpath : path = standardInput
  · refine ⟨[], .nil, fun below => ?_⟩
    simp [hpath]
  · exact ⟨_, isWalk_reached hresolve hpath⟩

/-! ## The paths that are found -/

theorem mem_pathsFound_iff {p : Text} :
    p ∈ d.pathsFound path base walk ↔ ∃ below ∈ walk, d.isFileAt (base ++ below) = true ∧
      Path.extension? (Path.descend path below) = some "po".toList ∧
      p = Path.dropHere (Path.descend path below) := by
  simp only [pathsFound, isFound, List.mem_map, List.mem_filter, Bool.and_eq_true, beq_iff_eq]
  constructor
  · rintro ⟨below, ⟨hmem, hfile, hext⟩, rfl⟩
    exact ⟨below, hmem, hfile, hext, rfl⟩
  · rintro ⟨below, hmem, hfile, hext, rfl⟩
    exact ⟨below, ⟨hmem, hfile, hext⟩, rfl⟩

theorem isEntryName_of_mem (hnames : d.WellNamed) {below : Location}
    (hentry : (d.get? (base ++ below)).isSome = true) : ∀ name ∈ below, Path.IsEntryName name := by
  intro name hname
  have hne : base ++ below ≠ [] :=
    List.append_ne_nil_of_right_ne_nil base (List.ne_nil_of_mem hname)
  obtain ⟨e, he⟩ := (get?_isSome_iff hne).mp hentry
  exact hnames _ he name (List.mem_append_right base hname)

/-- A walk finds the catalogues: by the paths of entries their extensions are those of their
names. -/
theorem isFound_eq (hnames : d.WellNamed) {below : Location} (hne : below ≠ [])
    (hentry : (d.get? (base ++ below)).isSome = true) (path : Text) :
    d.isFound path base below = d.isCatalogAt (base ++ below) := by
  have hext := Path.extension?_descend hne (isEntryName_of_mem hnames hentry) path
  have hlast : (base ++ below).getLast?.getD [] = below.getLast hne := by
    rw [List.getLast?_append_of_ne_nil _ hne, List.getLast?_eq_some_getLast hne, Option.getD_some]
  have hname : Path.hasCatalogExtension (below.getLast hne) =
      (Path.nameExtension? (below.getLast hne) == some "po".toList) := by
    rw [Bool.eq_iff_iff, Path.hasCatalogExtension_iff, beq_iff_eq]
  rw [isFound, hext, isCatalogAt, hlast, hname]
  rfl

/-- Every walk finds the same catalogues. -/
theorem IsWalk.filter_perm (hwalk : d.IsWalk path base walk) (hnames : d.WellNamed)
    (hresolve : d.resolve path = .ok (.directory base mode)) (hpath : path ≠ standardInput) :
    (walk.filter (d.isFound path base)).Perm (d.catalogsBelow base) := by
  have hbase := get?_directory_of_follow (follow_of_resolve hresolve)
  refine List.Perm.trans ?_ (Order.sortBy_perm _ _).symm
  rw [List.perm_ext_iff_of_nodup (hwalk.nodup.filter _) ((nodup_reached d base).filter _)]
  intro below
  rw [List.mem_filter, List.mem_filter, hwalk.mem_iff, mem_reached_iff]
  by_cases hbelow : below = []
  · -- The directory itself is no file.
    simp [hbelow, isFound, isFileAt, hbase]
  · constructor
    · rintro ⟨⟨-, hentry, hall⟩, hfound⟩
      rw [isFound_eq hnames hbelow hentry] at hfound
      exact ⟨⟨hbelow, hentry, hall⟩, hfound⟩
    · rintro ⟨⟨-, hentry, hall⟩, hfound⟩
      rw [← isFound_eq hnames hbelow hentry path] at hfound
      exact ⟨⟨hpath, hentry, hall⟩, hfound⟩

theorem find_singleton (d : Disk) (path : Text) : d.find [path] = d.catalogsAt path := by
  rw [find, List.flatMap_singleton]

/-- Paths that lead to no directory stand for themselves. -/
theorem find_of_not_directory {paths : List Text} (h : ∀ p ∈ paths, d.isDirectory p = false) :
    d.find paths = paths := by
  have hat : ∀ p ∈ paths, d.catalogsAt p = [p] := by
    intro p hp
    have hp := h p hp
    rw [isDirectory] at hp
    rw [catalogsAt]
    split
    · rename_i hresolve
      rw [hresolve] at hp
      cases hp
    · rfl
  rw [find, List.flatMap_congr hat, List.flatMap_singleton']

theorem find_directory (hresolve : d.resolve path = .ok (.directory base mode))
    (hpath : path ≠ standardInput) :
    d.find [path] =
      (d.catalogsBelow base).map fun below => Path.dropHere (Path.descend path below) := by
  rw [find_singleton, catalogsAt, hresolve]
  exact if_neg hpath

theorem find_standardInput (hresolve : d.resolve standardInput = .ok (.directory base mode)) :
    d.find [standardInput] = [] := by
  rw [find_singleton, catalogsAt, hresolve]
  exact if_pos rfl

theorem ne_nil_of_resolve {t : Target} (h : d.resolve path = .ok t) : path ≠ [] := by
  rintro rfl
  cases h

theorem mem_catalogsBelow {below : Location} (h : below ∈ d.catalogsBelow base) :
    below ∈ d.reached base :=
  (List.mem_filter.mp ((Order.sortBy_perm _ _).mem_iff.mp h)).1

/-- The catalogues below a directory are in the strict order of their names. -/
theorem pairwise_catalogsBelow (d : Disk) (base : Location) :
    (d.catalogsBelow base).Pairwise (· < ·) :=
  Order.pairwise_sortBy_key (fun _ _ => Location.le_iff) ((nodup_reached d base).filter _)

/-- What a path to a directory stands for is in the strict order of components. -/
theorem pairwise_find (hnames : d.WellNamed)
    (hresolve : d.resolve path = .ok (.directory base mode)) :
    (d.find [path]).Pairwise fun p q => Path.components p < Path.components q := by
  by_cases hpath : path = standardInput
  · subst hpath
    rw [find_standardInput hresolve]
    exact .nil
  · have hproper : ∀ below ∈ d.catalogsBelow base,
        below ≠ [] ∧ ∀ name ∈ below, Path.IsEntryName name := by
      intro below hbelow
      obtain ⟨hne, hentry, -⟩ := mem_reached_iff.mp (mem_catalogsBelow hbelow)
      exact ⟨hne, isEntryName_of_mem hnames hentry⟩
    rw [find_directory hresolve hpath, List.pairwise_map]
    refine (pairwise_catalogsBelow d base).imp_of_mem ?_
    intro a b ha hb hlt
    exact Path.components_lt_of_lt (ne_nil_of_resolve hresolve) (hproper a ha).1 (hproper a ha).2
      (hproper b hb).2 hlt

/-- A walk finds what the path stands for. -/
theorem IsWalk.pathsFound_perm (hwalk : d.IsWalk path base walk) (hnames : d.WellNamed)
    (hresolve : d.resolve path = .ok (.directory base mode)) :
    (d.pathsFound path base walk).Perm (d.find [path]) := by
  by_cases hpath : path = standardInput
  · have hnil : walk = [] := by
      rw [List.eq_nil_iff_forall_not_mem]
      intro below hbelow
      exact ((hwalk.mem_iff below).mp hbelow).1 hpath
    rw [hnil, hpath, find_standardInput (hpath ▸ hresolve)]
    exact .nil
  · rw [find_directory hresolve hpath]
    exact (hwalk.filter_perm hnames hresolve hpath).map _

/-- Whatever its order, what a walk finds is sorted to what the path stands for. -/
theorem IsWalk.find_eq_sorted (hwalk : d.IsWalk path base walk) (hnames : d.WellNamed)
    (hresolve : d.resolve path = .ok (.directory base mode)) :
    d.find [path] = Order.sortBy Path.le (d.pathsFound path base walk) := by
  have hperm := hwalk.pathsFound_perm hnames hresolve
  have hstrict := pairwise_find hnames hresolve
  have hkeys := (hstrict.imp fun h => h.ne).perm hperm.symm fun h => h.symm
  exact Order.eq_of_perm ((Order.sortBy_perm _ _).trans hperm).symm hstrict
    (Order.pairwise_sortBy_key (fun p q => decide_eq_true_iff) hkeys)

/-- Each path stands for its files whatever the paths before and after it, a path to no directory for
itself. A path to a directory stands for the catalogues that a walk comes to, without a leading dot
and in the strict order of components, in whatever order the walk comes to them. -/
theorem find_exact (d : Disk) (hnames : d.WellNamed) :
    (∀ xs ys, d.find (xs ++ ys) = d.find xs ++ d.find ys) ∧
    (∀ path, d.isDirectory path = false → d.find [path] = [path]) ∧
    ∀ path base mode, d.resolve path = .ok (.directory base mode) →
      (∃ walk, d.IsWalk path base walk) ∧
      (d.find [path]).Pairwise (fun p q => Path.components p < Path.components q) ∧
      (d.find [path]).Nodup ∧
      ∀ walk, d.IsWalk path base walk →
        d.find [path] = Order.sortBy Path.le (d.pathsFound path base walk) ∧
        ∀ p, p ∈ d.find [path] ↔ ∃ below ∈ walk, d.isFileAt (base ++ below) = true ∧
          Path.extension? (Path.descend path below) = some "po".toList ∧
          p = Path.dropHere (Path.descend path below) := by
  refine ⟨fun xs ys => List.flatMap_append, ?_, ?_⟩
  · intro path hpath
    exact find_of_not_directory (by simpa using hpath)
  · intro path base mode hresolve
    have hstrict := pairwise_find hnames hresolve
    refine ⟨exists_isWalk hresolve, hstrict, hstrict.imp ?_, ?_⟩
    · rintro p q hlt rfl
      exact lt_irrefl _ hlt
    · intro walk hwalk
      refine ⟨hwalk.find_eq_sorted hnames hresolve, fun p => ?_⟩
      rw [← (hwalk.pathsFound_perm hnames hresolve).mem_iff, mem_pathsFound_iff]

/-- A disk with catalogues in a directory and below it, with a hidden one, and with a link to one. -/
def nested : Disk :=
  { entries := [(["d".toList], .directory 0o755),
      (["d".toList, "a.po".toList], .file (.text []) 0o644),
      (["d".toList, ".b.po".toList], .file (.text []) 0o644),
      (["d".toList, "a-b.po".toList], .file (.text []) 0o644),
      (["d".toList, "c.po".toList], .link "a.po"),
      (["d".toList, "a".toList], .directory 0o755),
      (["d".toList, "a".toList, "b.po".toList], .file (.text []) 0o644)] }

/-- A walk through the directory comes to the link as well, but not to the hidden catalogue. What is
in a directory goes before what has a longer name, other than in the order of the texts. -/
theorem find_exact_nested :
    let walk : List Location := [["a.po".toList], ["a-b.po".toList], ["c.po".toList], [],
      ["a".toList, "b.po".toList], ["a".toList]]
    nested.IsWalk "./d" ["d".toList] walk ∧
      Order.sortBy Path.le (nested.pathsFound "./d" ["d".toList] walk) =
        ["d/a/b.po".toList, "d/a-b.po".toList, "d/a.po".toList] := by
  intro walk
  have hnames : nested.WellNamed := by
    have hproper : ∀ e ∈ nested.entries, ∀ name ∈ e.1,
        Path.isHere name = false ∧ name ≠ "..".toList ∧ '/' ∉ name := by decide
    intro e he name hname
    obtain ⟨hhere, hup, hslash⟩ := hproper e he name hname
    exact ⟨hhere, hup, hslash⟩
  have hresolve : nested.resolve "./d" = .ok (.directory ["d".toList] 0o755) := by decide
  have hwalk : nested.IsWalk "./d" ["d".toList] walk :=
    (isWalk_reached hresolve (by decide)).perm (by decide)
  obtain ⟨-, -, hdirectory⟩ := find_exact nested hnames
  obtain ⟨-, -, -, hevery⟩ := hdirectory _ _ _ hresolve
  refine ⟨hwalk, ?_⟩
  rw [← (hevery walk hwalk).1]
  decide

end Disk

end CatalogLint
