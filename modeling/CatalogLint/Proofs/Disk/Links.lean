import CatalogLint.Proofs.Disk.Tree

/-!
# Links that become files

A file with the content that was read can be put over the link by which it was read. A disk to which
this was done for some links (`Unlinked`) is no other to those who follow paths: what led to a file
leads to one with the same content and mode, and what led to a directory leads there
(`Unlinked.resolve`). A path can lead further than before, since there are fewer links to follow,
but not to anything else (`Unlinked.exists_of_follow`).

Writing what was read does that, or nothing (`replace_self_cases`).
-/

namespace CatalogLint.Disk

/-- What the entry at a location leads to, by however many links, is a file. -/
def LeadsTo (d : Disk) (l : Location) (content : Content) (mode : Nat) : Prop :=
  ∃ m name k f, l = m ++ [name] ∧ IsName name ∧ d.follow k m [name] = .ok (.file f content mode)

/-- Some links of a disk are files on another, with the content and mode of what they led to. -/
structure Unlinked (d d' : Disk) : Prop where
  get?_cases : ∀ l, d'.get? l = d.get? l ∨
    ∃ target content mode, d.get? l = some (.link target) ∧ d.LeadsTo l content mode ∧
      d'.get? l = some (.file content mode)
  mounts_eq : d'.mounts = d.mounts
  workingDirectory_eq : d'.workingDirectory = d.workingDirectory

variable {d d' : Disk} {path t scratch : Text} {l directory : Location} {content : Content}
  {mode : Nat}

theorem leadsTo_concat_iff {m : Location} {name : Text} :
    d.LeadsTo (m ++ [name]) content mode ↔
      IsName name ∧ ∃ k f, d.follow k m [name] = .ok (.file f content mode) := by
  constructor
  · rintro ⟨m', name', k, f, heq, hname, hleads⟩
    obtain ⟨rfl, hlast⟩ := List.append_inj' heq rfl
    obtain rfl := List.singleton_inj.mp hlast
    exact ⟨hname, k, f, hleads⟩
  · rintro ⟨hname, k, f, hleads⟩
    exact ⟨m, name, k, f, rfl, hname, hleads⟩

/-- The entry that a path names leads to the file that the path leads to. -/
theorem leadsTo_of_place? {f x : Location} (hresolve : d.resolve path = .ok (.file f content mode))
    (hplace : d.place? path = some x) : d.LeadsTo x content mode := by
  obtain ⟨front, name, m, mode', k, -, rfl, hname, -, hleads⟩ :=
    exists_follow_of_place? hplace hresolve
  exact ⟨m, name, k, f, rfl, hname, hleads⟩

theorem scratchDirectory_eq_ok_iff :
    d.scratchDirectory scratch = .ok directory ↔
      ∃ mode, d.resolve (if scratch.isEmpty then "." else scratch) =
        .ok (.directory directory mode) := by
  rw [scratchDirectory]
  cases d.resolve (if scratch.isEmpty then "." else scratch) with
  | error e => simp
  | ok t =>
    cases t with
    | file f c mode => simp
    | directory m mode => simp

namespace Unlinked

theorem refl (d : Disk) : Unlinked d d := ⟨fun _ => Or.inl rfl, rfl, rfl⟩

theorem sameDirectories (h : Unlinked d d') : SameDirectories d d' := by
  intro l
  refine (h.get?_cases l).imp_right ?_
  rintro ⟨target, content, mode, hd, -, hd'⟩
  exact ⟨by simp [hd], by simp [hd']⟩

/-- At an entry that differs there is a file, and it was led to one with the same content. -/
theorem file_of_ne (h : Unlinked d d') {m : Location} {name : Text}
    (hne : d'.get? (m ++ [name]) ≠ d.get? (m ++ [name])) :
    ∃ k f content mode, d.follow k m [name] = .ok (.file f content mode) ∧
      d'.get? (m ++ [name]) = some (.file content mode) := by
  rcases h.get?_cases (m ++ [name]) with heq | ⟨target, content, mode, -, hleads, hget⟩
  · exact absurd heq hne
  · obtain ⟨-, k, f, hk⟩ := leadsTo_concat_iff.mp hleads
    exact ⟨k, f, content, mode, hk, hget⟩

/-! ## Ways -/

/-- A way that succeeded still does, to the same target or to a file with the same content. -/
theorem follow (h : Unlinked d d') {n : Nat} {l : Location} {pieces : List Text} {t : Target}
    (ht : d.follow n l pieces = .ok t) :
    d'.follow n l pieces = .ok t ∨
      ∃ f f' content mode, t = .file f content mode ∧
        d'.follow n l pieces = .ok (.file f' content mode) := by
  rcases h.sameDirectories.follow_cases n l pieces with
    heq | ⟨k, m, name, rest, hname, hne, hd, hd'⟩
  · exact Or.inl (heq.trans ht)
  · obtain ⟨k₀, f, content, mode, hleads, hget⟩ := h.file_of_ne hne
    rw [hd] at ht
    rw [hd', follow_cons_of_file hname hget]
    cases rest with
    | nil => exact Or.inr ⟨f, m ++ [name], content, mode, follow_unique ht hleads, rfl⟩
    | cons next rest => exact absurd ht (follow_append_ne_ok hleads (List.cons_ne_nil _ _) k t)

/-- A way leads to a directory exactly if it did. -/
theorem follow_directory_iff (h : Unlinked d d') {n : Nat} {l m : Location} {pieces : List Text} :
    d'.follow n l pieces = .ok (.directory m mode) ↔
      d.follow n l pieces = .ok (.directory m mode) := by
  constructor
  · intro ht
    rcases h.sameDirectories.follow_cases n l pieces with
      heq | ⟨k, m', name, rest, hname, hne, -, hd'⟩
    · exact heq.symm.trans ht
    · obtain ⟨-, -, content, mode', -, hget⟩ := h.file_of_ne hne
      rw [hd', follow_cons_of_file hname hget] at ht
      split at ht
      · cases ht
      · cases ht
  · intro ht
    rcases h.follow ht with hsame | ⟨f, f', content, mode', hfile, -⟩
    · exact hsame
    · cases hfile

/-- A way that leads to a file led to one with the same content, by more links perhaps. -/
theorem exists_of_follow (h : Unlinked d d') {n : Nat} {l f' : Location} {pieces : List Text}
    (ht : d'.follow n l pieces = .ok (.file f' content mode)) :
    ∃ k f, d.follow k l pieces = .ok (.file f content mode) := by
  induction n using Nat.strong_induction_on generalizing l pieces with
  | h n ih =>
    rcases h.sameDirectories.advance_cases l pieces with
      heq | ⟨m, name, rest, hname, hne, hd, hd'⟩
    · rcases advance_of_follow ht with hadvance | ⟨k, m, target, rest, rfl, hadvance, hrest⟩
      · exact ⟨0, f', follow_of_target (heq.symm.trans hadvance)⟩
      · obtain ⟨k', f, hk'⟩ := ih k (Nat.lt_succ_self k) hrest
        exact ⟨k' + 1, f, (follow_succ_of_link (heq.symm.trans hadvance)).trans hk'⟩
    · -- The way ends at the entry that differs, and goes on from there on the old disk.
      obtain ⟨k, f, content', mode', hleads, hget⟩ := h.file_of_ne hne
      rw [follow_congr hd', follow_cons_of_file hname hget] at ht
      cases rest with
      | nil =>
        cases ht
        exact ⟨k, f, (follow_congr hd k).trans hleads⟩
      | cons next rest => cases ht

/-! ## Paths -/

theorem origin_eq (h : Unlinked d d') (path : Text) : d'.origin path = d.origin path := by
  rw [origin, origin, h.workingDirectory_eq]

/-- A path that led somewhere leads to the same, or to a file with the same content and mode. -/
theorem resolve (h : Unlinked d d') {t : Target} (ht : d.resolve path = .ok t) :
    d'.resolve path = .ok t ∨
      ∃ f f' content mode, t = .file f content mode ∧
        d'.resolve path = .ok (.file f' content mode) := by
  rw [resolve_eq_follow ht, h.origin_eq]
  exact h.follow (follow_of_resolve ht)

theorem place?_eq (h : Unlinked d d') (path : Text) : d'.place? path = d.place? path :=
  place?_congr (h.origin_eq path) fun _ _ _ _ _ => h.follow_directory_iff

theorem scratchDirectory_iff (h : Unlinked d d') :
    d'.scratchDirectory scratch = .ok directory ↔ d.scratchDirectory scratch = .ok directory := by
  rw [scratchDirectory_eq_ok_iff, scratchDirectory_eq_ok_iff]
  rcases resolve_cases (if scratch.isEmpty then "." else scratch) with ⟨e, he⟩ | hfollow
  · simp only [he]
  · simp only [hfollow, h.origin_eq, h.follow_directory_iff]

/-- An entry that is a link still was one. -/
theorem link_of_link (h : Unlinked d d') {target : Text} (hl : d'.get? l = some (.link target)) :
    d.get? l = some (.link target) := by
  rcases h.get?_cases l with heq | ⟨_, _, _, -, -, hget⟩
  · rw [← heq, hl]
  · rw [hget] at hl
    cases hl

theorem leadsTo_of_leadsTo (h : Unlinked d d') (hl : d'.LeadsTo l content mode) :
    d.LeadsTo l content mode := by
  obtain ⟨m, name, k, f', rfl, hname, hleads⟩ := hl
  obtain ⟨k', f, hk⟩ := h.exists_of_follow hleads
  exact ⟨m, name, k', f, rfl, hname, hk⟩

theorem volume_eq (h : Unlinked d d') (l : Location) : d'.volume l = d.volume l := by
  rw [volume, volume, h.mounts_eq]

/-- Where volumes are mounted there still is something. -/
theorem mounted (h : Unlinked d d') (hmounts : ∀ m ∈ d.mounts, d.get? m ≠ none) :
    ∀ m ∈ d'.mounts, d'.get? m ≠ none := by
  intro m hm
  rw [h.mounts_eq] at hm
  rcases h.get?_cases m with heq | ⟨_, _, _, -, -, hget⟩
  · rw [heq]
    exact hmounts m hm
  · rw [hget]
    exact Option.some_ne_none _

/-- One more link becomes a file. -/
theorem put (h : Unlinked d d') {target : Text} (hlink : d'.get? l = some (.link target))
    (hleads : d'.LeadsTo l content mode) : Unlinked d (d'.put l (.file content mode)) where
  get?_cases := by
    intro m
    by_cases hm : m = l
    · have hne : l ≠ [] := by
        rintro rfl
        cases hlink
      rw [hm]
      exact Or.inr ⟨target, content, mode, h.link_of_link hlink, h.leadsTo_of_leadsTo hleads,
        get?_put_self hne⟩
    · rw [get?_put_of_ne hm]
      exact h.get?_cases m
  mounts_eq := h.mounts_eq
  workingDirectory_eq := h.workingDirectory_eq

end Unlinked

/-! ## Volumes -/

theorem isSome_below?_iff {base l : Location} :
    (Location.below? base l).isSome = true ↔ base <+: l := by
  rw [Option.isSome_iff_exists]
  exact exists_congr fun below => below?_eq_some_iff.trans eq_comm

/-- A temporary file is on the volume of its directory, if volumes are mounted where something
is. -/
theorem volume_temporaryLocation (hmounts : ∀ m ∈ d.mounts, d.get? m ≠ none)
    (directory : Location) (path : Text) :
    d.volume (d.temporaryLocation directory path) = d.volume directory := by
  obtain ⟨name, hname⟩ := exists_temporaryLocation_eq d directory path
  have hfree := get?_temporaryLocation d directory path
  rw [hname] at hfree ⊢
  have hbelow : ∀ m ∈ d.mounts, (Location.below? m (directory ++ [name])).isSome =
      (Location.below? m directory).isSome := by
    intro m hm
    have hne : m ≠ directory ++ [name] := by
      rintro rfl
      exact hmounts _ hm hfree
    rw [Bool.eq_iff_iff, isSome_below?_iff, isSome_below?_iff, List.prefix_concat_iff]
    exact or_iff_right hne
  rw [volume, volume, List.filter_congr hbelow]

/-! ## Writing what was read -/

theorem overwritten?_eq_some_iff :
    d.overwritten? directory path = some x ↔ d.place? path = some x ∧
      d.volume (d.temporaryLocation directory path) = d.volume x ∧
      ∀ mode, d.get? x ≠ some (.directory mode) := by
  rw [overwritten?, Option.filter_eq_some_iff, canRename_eq_true_iff]

/-- What is no link is replaced where it leads, from any volume. -/
theorem replace_eq_of_not_link {t : Target} (hresolve : d.resolve path = .ok t)
    (hscratch : d.scratchDirectory scratch = .ok directory)
    (hshort : temporaryLength path ≤ maxNameLength) (hlink : d.isLink path = false)
    (content : Text) :
    d.replace scratch path content = d.fill content t := by
  rw [replace_eq hresolve hscratch hshort]
  cases hover : d.overwritten? directory path with
  | none => rfl
  | some x =>
    obtain ⟨hplace, -, hnot⟩ := overwritten?_eq_some_iff.mp hover
    obtain ⟨hx, hget⟩ := get?_of_place? hresolve hlink hplace
    cases t with
    | file f c mode =>
      rw [hx]
      rfl
    | directory l mode => exact absurd hget (hnot mode)

/-- Writing what was read changes nothing, unless the path names a link on the volume of the
temporary file: that becomes a file. -/
theorem replace_self_cases {f : Location} (hresolve : d.resolve path = .ok (.file f (.text t) mode))
    (hok : (d.replace scratch path t).error = none) :
    ∃ directory, d.scratchDirectory scratch = .ok directory ∧
      ((d.replace scratch path t).disk = d ∧
          (∀ x target, d.place? path = some x → d.get? x = some (.link target) →
            d.volume (d.temporaryLocation directory path) ≠ d.volume x) ∨
        ∃ x target, d.place? path = some x ∧ d.get? x = some (.link target) ∧
          d.volume (d.temporaryLocation directory path) = d.volume x ∧
          (d.replace scratch path t).disk = d.put x (.file (.text t) mode)) := by
  cases hscratch : d.scratchDirectory scratch with
  | error e =>
    rw [replace_of_scratch hresolve hscratch] at hok
    cases hok
  | ok directory =>
    rcases Nat.lt_or_ge maxNameLength (temporaryLength path) with hlong | hshort
    · rw [replace_of_long hresolve hscratch hlong] at hok
      cases hok
    · refine ⟨directory, rfl, ?_⟩
      have hself : d.put f (.file (.text t) mode) = d := put_eq_self (get?_of_resolve hresolve)
      cases hlink : d.isLink path with
      | false =>
        rw [replace_eq_of_not_link hresolve hscratch hshort hlink]
        refine Or.inl ⟨hself, fun x target hplace hx => ?_⟩
        rw [isLink_eq_true_iff.mpr ⟨x, target, hplace, hx⟩] at hlink
        cases hlink
      | true =>
        obtain ⟨x, target, hplace, hx⟩ := isLink_eq_true_iff.mp hlink
        by_cases hvolume : d.volume (d.temporaryLocation directory path) = d.volume x
        · have hover := overwritten?_eq_some_iff.mpr ⟨hplace, hvolume, by simp [hx]⟩
          rw [replace_eq hresolve hscratch hshort, hover]
          exact Or.inr ⟨x, target, hplace, hx, hvolume, rfl⟩
        · have hover : d.overwritten? directory path = none := by
            rw [Option.eq_none_iff_forall_ne_some]
            intro y hy
            obtain ⟨hplace', hvolume', -⟩ := overwritten?_eq_some_iff.mp hy
            obtain rfl := Option.some.inj (hplace.symm.trans hplace')
            exact hvolume hvolume'
          rw [replace_eq hresolve hscratch hshort, hover]
          refine Or.inl ⟨hself, fun y _ hy _ => ?_⟩
          obtain rfl := Option.some.inj (hplace.symm.trans hy)
          exact hvolume

end CatalogLint.Disk
