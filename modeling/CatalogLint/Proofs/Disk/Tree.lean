import CatalogLint.Proofs.Disk.Replacement

/-!
# Disks of one tree

Two disks with the same directories and links, and with files in the same places, differ in what is
in the files alone (`SameTree`). A path leads to the same place on both (`SameTree.resolve_cases`),
and to the same file if that is the same on both (`SameTree.resolve_eq`).

A path that is no link and leads to a file is replaced where it leads, so that the tree stays
(`replace_of_resolve`). A disk to which this was done for several files has each from a disk to
which it was done for that file alone (`Gathers`).
-/

namespace CatalogLint

/-- The entry of a file or directory. -/
def Target.entry : Target → Entry
  | .file _ content mode => .file content mode
  | .directory _ mode => .directory mode

namespace Disk

/-- Where the file is that a path leads to. -/
def fileAt? (d : Disk) (path : Text) : Option Location :=
  match d.resolve path with
  | .ok (.file l _ _) => some l
  | _ => none

/-- Whether the entry that a path names is a link. -/
def isLink (d : Disk) (path : Text) : Bool :=
  match (d.place? path).bind d.get? with
  | some (.link _) => true
  | _ => false

/-- Two paths lead to one file. -/
def SameFile (d : Disk) (p q : Text) : Prop := ∃ l, d.fileAt? p = some l ∧ d.fileAt? q = some l

instance (d : Disk) (p q : Text) : Decidable (d.SameFile p q) :=
  decidable_of_iff ((d.fileAt? p).isSome = true ∧ d.fileAt? p = d.fileAt? q) <| by
    rw [SameFile, Option.isSome_iff_exists]
    constructor
    · rintro ⟨⟨l, hp⟩, heq⟩
      exact ⟨l, hp, heq.symm.trans hp⟩
    · rintro ⟨l, hp, hq⟩
      exact ⟨⟨l, hp⟩, hp.trans hq.symm⟩

/-- Two disks differ in what is in the files at most. -/
structure SameTree (d d' : Disk) : Prop where
  get?_cases : ∀ l, d'.get? l = d.get? l ∨
    ∃ content mode content' mode', d.get? l = some (.file content mode) ∧
      d'.get? l = some (.file content' mode')
  mounts_eq : d'.mounts = d.mounts
  workingDirectory_eq : d'.workingDirectory = d.workingDirectory

variable {d d' : Disk} {path : Text} {l : Location}

theorem isLink_eq_true_iff :
    d.isLink path = true ↔ ∃ x target, d.place? path = some x ∧ d.get? x = some (.link target) := by
  rw [isLink]
  constructor
  · intro h
    split at h
    · rename_i target hlink
      obtain ⟨x, hplace, hx⟩ := Option.bind_eq_some_iff.mp hlink
      exact ⟨x, target, hplace, hx⟩
    · cases h
  · rintro ⟨x, target, hplace, hx⟩
    rw [hplace, Option.bind_some, hx]

theorem fileAt?_eq_some_iff :
    d.fileAt? path = some l ↔ ∃ content mode, d.resolve path = .ok (.file l content mode) := by
  rw [fileAt?]
  split
  · rename_i hresolve
    simp [hresolve]
  · rename_i hother
    simp only [reduceCtorEq, false_iff]
    rintro ⟨content, mode, hresolve⟩
    exact hother _ _ _ hresolve

namespace SameTree

theorem refl (d : Disk) : SameTree d d := ⟨fun _ => Or.inl rfl, rfl, rfl⟩

/-- The tree stays where a file is put over a file. -/
theorem put (h : SameTree d d') {content : Content} {mode : Nat}
    (hl : d.get? l = some (.file content mode)) (content' : Content) (mode' : Nat) :
    SameTree d (d'.put l (.file content' mode')) where
  get?_cases := by
    intro m
    by_cases hm : m = l
    · have hne : l ≠ [] := by
        rintro rfl
        cases hl
      rw [hm]
      exact Or.inr ⟨content, mode, content', mode', hl, get?_put_self hne⟩
    · rw [get?_put_of_ne hm]
      exact h.get?_cases m
  mounts_eq := h.mounts_eq
  workingDirectory_eq := h.workingDirectory_eq

/-! ## Ways -/

theorem sameDirectories (h : SameTree d d') : SameDirectories d d' := by
  intro l
  refine (h.get?_cases l).imp_right ?_
  rintro ⟨content, mode, content', mode', hd, hd'⟩
  exact ⟨by simp [hd], by simp [hd']⟩

theorem follow_cases (h : SameTree d d') (n : Nat) (l : Location) (pieces : List Text) :
    d'.follow n l pieces = d.follow n l pieces ∨
      ∃ f content mode content' mode', d.follow n l pieces = .ok (.file f content mode) ∧
        d'.follow n l pieces = .ok (.file f content' mode') := by
  rcases h.sameDirectories.follow_cases n l pieces with
    heq | ⟨k, m, name, rest, hname, hne, hd, hd'⟩
  · exact Or.inl heq
  · rcases h.get?_cases (m ++ [name]) with heq | ⟨content, mode, content', mode', hget, hget'⟩
    · exact absurd heq hne
    · -- With a file on both disks the way ends there, or goes nowhere.
      rw [hd, hd', follow_cons_of_file hname hget, follow_cons_of_file hname hget']
      cases rest with
      | nil => exact Or.inr ⟨_, _, _, _, _, rfl, rfl⟩
      | cons next rest => exact Or.inl rfl

theorem origin_eq (h : SameTree d d') (path : Text) : d'.origin path = d.origin path := by
  rw [origin, origin, h.workingDirectory_eq]

/-! ## Paths -/

/-- A path leads to files in the same place, or else to the same. -/
theorem resolve_cases (h : SameTree d d') (path : Text) :
    d'.resolve path = d.resolve path ∨
      ∃ f content mode content' mode', d.resolve path = .ok (.file f content mode) ∧
        d'.resolve path = .ok (.file f content' mode') := by
  rcases Disk.resolve_cases path with ⟨e, he⟩ | hfollow
  · exact Or.inl ((he d').trans (he d).symm)
  · rw [hfollow d, hfollow d', h.origin_eq]
    exact h.follow_cases _ _ _

/-- A path leads to the same if the file that it leads to is the same. -/
theorem resolve_eq (h : SameTree d d') (hpath : ∀ l, d.fileAt? path = some l → d'.get? l = d.get? l) :
    d'.resolve path = d.resolve path := by
  rcases h.resolve_cases path with heq | ⟨f, content, mode, content', mode', hd, hd'⟩
  · exact heq
  · have hget := hpath f (fileAt?_eq_some_iff.mpr ⟨content, mode, hd⟩)
    rw [get?_of_resolve hd, get?_of_resolve hd'] at hget
    cases hget
    rw [hd, hd']

theorem place?_eq (h : SameTree d d') (path : Text) : d'.place? path = d.place? path := by
  unfold place?
  dsimp only
  rcases h.follow_cases maxLinks (d.origin path) (Path.pieces path).dropLast with
    heq | ⟨_, _, _, _, _, hd, hd'⟩
  · rw [h.origin_eq, heq]
  · rw [h.origin_eq, hd, hd']

theorem isLink_eq (h : SameTree d d') (path : Text) : d'.isLink path = d.isLink path := by
  rw [isLink, isLink, h.place?_eq]
  cases d.place? path with
  | none => rfl
  | some l =>
    rw [Option.bind_some, Option.bind_some]
    rcases h.get?_cases l with heq | ⟨_, _, _, _, hd, hd'⟩
    · rw [heq]
    · rw [hd, hd']

theorem scratchDirectory_eq (h : SameTree d d') (scratch : Text) :
    d'.scratchDirectory scratch = d.scratchDirectory scratch := by
  rw [scratchDirectory, scratchDirectory]
  rcases h.resolve_cases (if scratch.isEmpty then "." else scratch) with
    heq | ⟨_, _, _, _, _, hd, hd'⟩
  · rw [heq]
  · rw [hd, hd']

theorem obstacle?_eq (h : SameTree d d') (scratch path : Text) :
    d'.obstacle? scratch path = d.obstacle? scratch path := by
  rw [obstacle?, obstacle?, h.scratchDirectory_eq]

end SameTree

/-! ## Replacing what is no link -/

/-- An entry that is no link is what the path leads to. -/
theorem get?_of_place? {x : Location} {t : Target} (hresolve : d.resolve path = .ok t)
    (hlink : d.isLink path = false) (hplace : d.place? path = some x) :
    x = t.location ∧ d.get? x = some t.entry := by
  obtain ⟨front, name, l, mode', k, -, rfl, hname, -, hleads⟩ :=
    exists_follow_of_place? hplace hresolve
  cases hget : d.get? (l ++ [name]) with
  | none =>
    rw [follow_cons_of_none hname hget] at hleads
    cases hleads
  | some e =>
    cases e with
    | file content mode =>
      rw [follow_cons_of_file hname hget] at hleads
      cases hleads
      exact ⟨rfl, rfl⟩
    | directory mode =>
      rw [follow_singleton_of_directory hname hget] at hleads
      cases hleads
      exact ⟨rfl, rfl⟩
    | link target =>
      rw [isLink_eq_true_iff.mpr ⟨_, target, hplace, hget⟩] at hlink
      cases hlink

/-- A path that is no link is replaced where it leads, unless no temporary file can be made. -/
theorem replace_of_resolve {f : Location} {content : Content} {mode : Nat}
    (hresolve : d.resolve path = .ok (.file f content mode)) (hlink : d.isLink path = false)
    (scratch new : Text) :
    d.replace scratch path new =
      match d.obstacle? scratch path with
      | some e => { disk := d, error := some e }
      | none => { disk := d.put f (.file (.text new) mode) } := by
  rcases replace_cases hresolve scratch new with ⟨e, he, h⟩ | ⟨hnone, x, rfl | hplace, h⟩
  · rw [h, he]
  · rw [h, hnone]
  · rw [h, hnone, (get?_of_place? hresolve hlink hplace).1]
    rfl

/-! ## Files from several disks -/

/-- A disk has in the place of each of these files what the disk `alone` of its path has there, and
all else from `d`. -/
structure Gathers (d : Disk) (files : List Text) (alone : Text → Disk) (d' : Disk) : Prop where
  sameTree : SameTree d d'
  file : ∀ p ∈ files, ∀ l, d.fileAt? p = some l → d'.get? l = (alone p).get? l
  other : ∀ l, (∀ p ∈ files, d.fileAt? p ≠ some l) → d'.get? l = d.get? l

namespace Gathers

variable {files : List Text} {alone : Text → Disk}

theorem nil (d : Disk) (alone : Text → Disk) : Gathers d [] alone d where
  sameTree := .refl d
  file := nofun
  other := fun _ _ => rfl

/-- A file that no other is the same as is still what it was on `d`. -/
theorem get?_eq_of_not_sameFile (h : Gathers d files alone d')
    (hpath : ∀ q ∈ files, ¬ d.SameFile q path) (hl : d.fileAt? path = some l) :
    d'.get? l = d.get? l :=
  h.other l fun q hq hql => hpath q hq ⟨l, hql, hl⟩

/-- A file that stays as it was. -/
theorem concat_of_eq (h : Gathers d files alone d') (hpath : ∀ q ∈ files, ¬ d.SameFile q path)
    (halone : alone path = d) : Gathers d (files ++ [path]) alone d' where
  sameTree := h.sameTree
  file := by
    intro p hp l hl
    rcases List.mem_append.mp hp with hp | hp
    · exact h.file p hp l hl
    · obtain rfl := List.mem_singleton.mp hp
      rw [halone, h.get?_eq_of_not_sameFile hpath hl]
  other := fun l hl => h.other l fun p hp => hl p (List.mem_append_left _ hp)

/-- A file that is put over another. -/
theorem concat_of_put (h : Gathers d files alone d') (hpath : ∀ q ∈ files, ¬ d.SameFile q path)
    {f : Location} {content content' : Content} {mode mode' : Nat}
    (hresolve : d.resolve path = .ok (.file f content mode))
    (halone : alone path = d.put f (.file content' mode')) :
    Gathers d (files ++ [path]) alone (d'.put f (.file content' mode')) where
  sameTree := h.sameTree.put (get?_of_resolve hresolve) content' mode'
  file := by
    have hf : d.fileAt? path = some f := fileAt?_eq_some_iff.mpr ⟨content, mode, hresolve⟩
    intro p hp l hl
    rcases List.mem_append.mp hp with hp | hp
    · -- The file that is put is none of those in front of it.
      have hne : l ≠ f := by
        rintro rfl
        exact hpath p hp ⟨l, hl, hf⟩
      rw [get?_put_of_ne hne, h.file p hp l hl]
    · obtain rfl := List.mem_singleton.mp hp
      obtain rfl := Option.some.inj (hf.symm.trans hl)
      have hne : f ≠ [] := by
        rintro rfl
        cases get?_of_resolve hresolve
      rw [halone, get?_put_self hne, get?_put_self hne]
  other := by
    intro l hl
    have hne : l ≠ f := by
      rintro rfl
      exact hl path (by simp) (fileAt?_eq_some_iff.mpr ⟨content, mode, hresolve⟩)
    rw [get?_put_of_ne hne]
    exact h.other l fun p hp => hl p (List.mem_append_left _ hp)

/-- The order of the files does not matter. -/
theorem get?_eq_of_perm {files' : List Text} {d'' : Disk} (h : Gathers d files alone d')
    (h' : Gathers d files' alone d'') (hperm : files'.Perm files) (l : Location) :
    d''.get? l = d'.get? l := by
  by_cases hl : ∃ p ∈ files, d.fileAt? p = some l
  · obtain ⟨p, hp, hl⟩ := hl
    rw [h.file p hp l hl, h'.file p (hperm.mem_iff.mpr hp) l hl]
  · have hother : ∀ p ∈ files, d.fileAt? p ≠ some l := fun p hp hpl => hl ⟨p, hp, hpl⟩
    rw [h.other l hother, h'.other l fun p hp => hother p (hperm.mem_iff.mp hp)]

end Gathers

end Disk

end CatalogLint
