import CatalogLint.Proofs.Disk.Place

/-!
# Staging a new content

A temporary file stands where nothing was, so that no other file has its location and it is gone
without a trace when it is removed (`SharedDisk.erase_put_fresh`). Hence a replacement that makes one
puts the new file over the entry that the path names, or writes into the file that the path leads
to, or leaves the disk as it was (`SharedDisk.replace_eq`); and one that makes none leaves the disk
as it was.
-/

namespace CatalogLint

namespace Disk

theorem putEntry_putEntry (l : Location) (e e' : Entry) (entries : List (Location × Entry)) :
    putEntry l e' (putEntry l e entries) = putEntry l e' entries := by
  induction entries with
  | nil => simp [putEntry]
  | cons head rest ih =>
    obtain ⟨m, f⟩ := head
    by_cases hm : m = l
    · simp [putEntry, hm]
    · simp [putEntry, hm, ih]

theorem erase_putAll {d : Disk} {group : List Location} {l : Location} (hl : l ∉ group)
    (e : Entry) : (d.putAll group e).erase l = (d.erase l).putAll group e := by
  induction group generalizing d with
  | nil => rfl
  | cons m group ih =>
    obtain ⟨hm, hgroup⟩ := not_or.mp (mt List.mem_cons.mpr hl)
    exact (ih hgroup).trans (congrArg (putAll · group e) (erase_put_of_ne (Ne.symm hm) e))

theorem canRename_eq_true_iff {d : Disk} {source x : Location} :
    d.canRename source x = true ↔
      d.volume source = d.volume x ∧ ∀ mode, d.get? x ≠ some (.directory mode) := by
  rw [canRename, Bool.and_eq_true, beq_iff_eq]
  refine and_congr_right fun _ => ?_
  split
  · rename_i mode hx
    simp [hx]
  · rename_i hx
    exact ⟨fun _ => hx, fun _ => rfl⟩

end Disk

namespace SharedDisk

variable {s : SharedDisk} {l m f x : Location} {e : Entry} {content : Content} {mode : Nat}

/-! ## The locations of a file -/

theorem mem_locations_self (s : SharedDisk) (l : Location) : l ∈ s.locations l := by
  rw [locations]
  cases hfind : s.shared.find? (·.contains l) with
  | none => exact List.mem_singleton_self l
  | some group => simpa using List.find?_some hfind

/-- The same is at all locations of a file. -/
theorem get?_of_mem_locations (hm : m ∈ s.locations l) : s.get? m = s.get? l := by
  have hl := s.mem_locations_self l
  rw [locations] at hm hl
  cases hfind : s.shared.find? (·.contains l) with
  | none =>
    rw [hfind] at hm
    rw [List.mem_singleton.mp hm]
  | some group =>
    rw [hfind] at hm hl
    exact s.alike group (List.mem_of_find?_eq_some hfind) m hm l hl

theorem get?_write_of_mem (hm : m ∈ s.locations l) (hne : m ≠ []) :
    (s.write l content mode).get? m = some (.file content mode) :=
  Disk.get?_putAll_of_mem hm hne

theorem get?_write_of_not_mem (hm : m ∉ s.locations l) :
    (s.write l content mode).get? m = s.get? m :=
  Disk.get?_putAll_of_not_mem hm

/-! ## A file where nothing was -/

/-- A location where nothing is is none of a file. -/
theorem not_mem_of_fresh (hfree : s.get? l = none) : ∀ group ∈ s.shared, l ∉ group := by
  intro group hgroup hl
  have hfile := s.files group hgroup l hl
  rw [Disk.isFileAt, hfree] at hfile
  cases hfile

theorem without_of_fresh (hfree : s.get? l = none) : without s.shared l = s.shared := by
  refine (List.map_congr_left fun group hgroup => ?_).trans (List.map_id _)
  refine List.filter_eq_self.mpr fun m hm => bne_iff_ne.mpr ?_
  rintro rfl
  exact not_mem_of_fresh hfree group hgroup hm

theorem ext_of_toDisk {s' : SharedDisk} (hdisk : s.toDisk = s'.toDisk)
    (hshared : s.shared = s'.shared) : s = s' := by
  cases s
  cases s'
  obtain rfl := hdisk
  obtain rfl := hshared
  rfl

/-- An entry that is put where nothing is and removed again leaves no trace. -/
theorem erase_put_fresh (hfree : s.get? l = none) (e : Entry) : (s.put l e).erase l = s := by
  refine ext_of_toDisk (Disk.erase_put_fresh hfree e) ?_
  change without (without s.shared l) l = s.shared
  rw [without_of_fresh hfree, without_of_fresh hfree]

theorem put_put_fresh (hfree : s.get? l = none) (e e' : Entry) :
    (s.put l e).put l e' = s.put l e' := by
  refine ext_of_toDisk ?_ ?_
  · simp only [put, Disk.put, Disk.putEntry_putEntry]
  · change without (without s.shared l) l = without s.shared l
    rw [without_of_fresh hfree, without_of_fresh hfree]

theorem locations_put_fresh (hfree : s.get? l = none) (e : Entry) (f : Location) :
    (s.put l e).locations f = s.locations f := by
  have hshared : (s.put l e).shared = s.shared := without_of_fresh hfree
  rw [locations, locations, hshared]

/-- What is written while another entry is where nothing was stays when that is removed. -/
theorem erase_write_put_fresh (hfree : s.get? l = none) (hf : s.get? f ≠ none) :
    ((s.put l e).write f content mode).erase l = s.write f content mode := by
  have hl : l ∉ s.locations f := fun hl => hf ((get?_of_mem_locations hl).symm.trans hfree)
  refine ext_of_toDisk ?_ ?_
  · change ((s.toDisk.put l e).putAll ((s.put l e).locations f) _).erase l = s.putAll _ _
    rw [locations_put_fresh hfree, Disk.erase_putAll hl, Disk.erase_put_fresh hfree]
  · change without (without s.shared l) l = s.shared
    rw [without_of_fresh hfree, without_of_fresh hfree]

/-! ## Installing the new file -/

variable {ρ : Type} {refusals : Refusals ρ} {directory : Location} {scratch path text : Text}
  {t : Target}

/-- The entry that the temporary file for a path, made in a directory, is renamed over. -/
def overwritten? (s : SharedDisk) (refusals : Refusals ρ) (directory : Location) (path : Text) :
    Option Location :=
  (s.place? path).filter fun x =>
    s.canRename (s.temporaryLocation directory path) x && (refusals.rename directory x).isNone

theorem overwritten?_eq_some_iff :
    s.overwritten? refusals directory path = some x ↔
      s.place? path = some x ∧
        s.volume (s.temporaryLocation directory path) = s.volume x ∧
        (∀ mode, s.get? x ≠ some (.directory mode)) ∧ refusals.rename directory x = none := by
  rw [overwritten?, Option.filter_eq_some_iff, Bool.and_eq_true, Disk.canRename_eq_true_iff,
    Option.isNone_iff_eq_none, and_assoc]

/-- What is left when a content was copied into what a path leads to. -/
def fill (s : SharedDisk) (refusals : Refusals ρ) (content : Text) : Target → Replacement ρ
  | .directory _ _ => { disk := s, error := some (.disk .isDirectory) }
  | .file f _ mode =>
    match refusals.copy f with
    | some reason => { disk := s, error := some (.refused reason) }
    | none => { disk := s.write f (.text content) mode }

/-- A temporary file for a path can be made in the scratch directory, which is `directory`, and be
given its content and its mode. -/
structure Stages (s : SharedDisk) (refusals : Refusals ρ) (scratch path : Text)
    (directory : Location) : Prop where
  scratch : s.scratchDirectory scratch = .ok directory
  short : Disk.temporaryLength path ≤ Disk.maxNameLength
  create : refusals.create directory = none
  write : refusals.write directory = none
  setMode : refusals.setMode directory = none

/-- What a process follows a path to is what the path leads to. -/
theorem resolve_of_resolveAs {d : Disk} (h : d.resolveAs refusals path = .ok t) :
    d.resolve path = .ok t := by
  rw [Disk.resolveAs] at h
  split at h
  · cases h
  · cases hresolve : d.resolve path with
    | error e =>
      rw [hresolve] at h
      cases h
    | ok t' =>
      rw [hresolve] at h
      cases h
      rfl

section Install

variable {temporary : Text}

/-- The new file is renamed over an entry that can be overwritten. -/
theorem rename?_put_fresh (hfree : s.get? (directory ++ [temporary]) = none)
    (hx : s.get? x ≠ none) :
    (s.put (directory ++ [temporary]) e).rename? refusals directory (directory ++ [temporary]) x =
      if s.canRename (directory ++ [temporary]) x && (refusals.rename directory x).isNone then
        some (s.put x e)
      else none := by
  have hne : x ≠ directory ++ [temporary] := by
    rintro rfl
    exact hx hfree
  have hcan : (s.put (directory ++ [temporary]) e).canRename (directory ++ [temporary]) x =
      s.canRename (directory ++ [temporary]) x := by
    change (s.toDisk.put _ e).canRename _ x = _
    rw [Disk.canRename, Disk.canRename, Disk.get?_put_of_ne hne]
    rfl
  have hget : (s.put (directory ++ [temporary]) e).get? (directory ++ [temporary]) = some e :=
    Disk.get?_put_self (by simp)
  rw [rename?, hcan, hget, erase_put_fresh hfree]
  rfl

/-- What a path leads to decides what a copy of the new file leaves. -/
theorem install_put_fresh_of_copy (hfree : s.get? (directory ++ [temporary]) = none)
    (hresolve : s.resolve path = .ok t)
    (hrename : (s.place? path).filter (fun x => s.canRename (directory ++ [temporary]) x &&
      (refusals.rename directory x).isNone) = none) :
    (s.put (directory ++ [temporary]) (.file (.text text) t.mode)).install refusals directory
        (directory ++ [temporary]) path = s.fill refusals text t := by
  let staged := s.put (directory ++ [temporary]) (.file (.text text) t.mode)
  have hresolve' : staged.resolve path = .ok t := by
    rw [Disk.resolve_eq_follow hresolve]
    exact Disk.follow_put_fresh hfree (Disk.follow_of_resolve hresolve)
  have hplace' : staged.place? path = s.place? path := Disk.place?_put_fresh hfree path
  have hnone : (staged.place? path).bind
      (staged.rename? refusals directory (directory ++ [temporary])) = none := by
    rw [hplace']
    cases hplace : s.place? path with
    | none => rfl
    | some x =>
      rw [hplace, Option.filter_some, ite_eq_right_iff] at hrename
      rw [Option.bind_some, rename?_put_fresh hfree (Disk.get?_ne_none_of_place? hresolve hplace),
        if_neg fun hcan => nomatch hrename hcan]
  rw [install, hnone]
  dsimp only
  rw [copy, hresolve']
  cases t with
  | directory l mode =>
    dsimp only
    rw [erase_put_fresh hfree]
    rfl
  | file f c mode =>
    have hf : s.get? f ≠ none := by simp [Disk.get?_of_resolve hresolve]
    have hget : staged.get? (directory ++ [temporary]) = some (.file (.text text) mode) :=
      Disk.get?_put_self (by simp)
    dsimp only
    rw [fill, hget]
    cases refusals.copy f with
    | some reason =>
      dsimp only
      rw [erase_put_fresh hfree]
    | none =>
      dsimp only
      rw [erase_write_put_fresh hfree hf]

theorem install_put_fresh_of_rename (hfree : s.get? (directory ++ [temporary]) = none)
    (hresolve : s.resolve path = .ok t)
    (hrename : (s.place? path).filter (fun x => s.canRename (directory ++ [temporary]) x &&
      (refusals.rename directory x).isNone) = some x) :
    (s.put (directory ++ [temporary]) (.file content mode)).install refusals directory
        (directory ++ [temporary]) path = { disk := s.put x (.file content mode) } := by
  obtain ⟨hplace, hcan⟩ := Option.filter_eq_some_iff.mp hrename
  have hplace' : (s.put (directory ++ [temporary]) (.file content mode)).place? path = some x :=
    (Disk.place?_put_fresh hfree path).trans hplace
  rw [install, hplace', Option.bind_some,
    rename?_put_fresh hfree (Disk.get?_ne_none_of_place? hresolve hplace), if_pos hcan]

/-- A temporary file that is given its content and its mode is installed. -/
theorem stage_eq (hwrite : refusals.write directory = none)
    (hmode : refusals.setMode directory = none) (path text : Text) (mode : Nat) :
    s.stage refusals directory path text mode =
      (s.put (s.temporaryLocation directory path) (.file (.text text) mode)).install refusals
        directory (s.temporaryLocation directory path) path := by
  have hfree := Disk.get?_temporaryLocation s.toDisk directory path
  rw [stage, hwrite]
  dsimp only
  rw [hmode, put_put_fresh hfree, put_put_fresh hfree]

theorem stage_of_refused
    (h : ¬ (refusals.write directory = none ∧ refusals.setMode directory = none))
    (path text : Text) (mode : Nat) :
    ∃ e, s.stage refusals directory path text mode = { disk := s, error := some e } := by
  have hfree := Disk.get?_temporaryLocation s.toDisk directory path
  rw [stage]
  cases hwrite : refusals.write directory with
  | some reason => exact ⟨.refused reason, by rw [erase_put_fresh hfree]⟩
  | none =>
    cases hmode : refusals.setMode directory with
    | some reason =>
      refine ⟨.refused reason, ?_⟩
      dsimp only
      rw [put_put_fresh hfree, erase_put_fresh hfree]
    | none => exact absurd ⟨hwrite, hmode⟩ h

end Install

/-! ## Replacing -/

/-- Where a temporary file can be made, a replacement puts the new file over the entry that the path
names, or else into the file that the path leads to; a directory stays. -/
theorem replace_eq (hresolve : s.resolveAs refusals path = .ok t)
    (hstages : s.Stages refusals scratch path directory) (text : Text) :
    s.replace refusals scratch path text =
      match s.overwritten? refusals directory path with
      | some x => { disk := s.put x (.file (.text text) t.mode) }
      | none => s.fill refusals text t := by
  obtain ⟨temporary, htemporary⟩ := Disk.exists_temporaryLocation_eq s.toDisk directory path
  have hfree := Disk.get?_temporaryLocation s.toDisk directory path
  have hreplace : s.replace refusals scratch path text =
      s.stage refusals directory path text t.mode := by
    rw [replace, hresolve, hstages.scratch]
    dsimp only
    rw [if_neg (Nat.not_lt.mpr hstages.short), hstages.create]
  have hresolve' := resolve_of_resolveAs hresolve
  rw [hreplace, stage_eq hstages.write hstages.setMode, overwritten?]
  rw [htemporary] at hfree ⊢
  cases hover : (s.place? path).filter (fun x => s.canRename (directory ++ [temporary]) x &&
      (refusals.rename directory x).isNone) with
  | some x => exact install_put_fresh_of_rename hfree hresolve' hover
  | none => exact install_put_fresh_of_copy hfree hresolve' hover

theorem replace_of_error {e : Failure ρ} (hresolve : s.resolveAs refusals path = .error e)
    (scratch text : Text) :
    s.replace refusals scratch path text = { disk := s, error := some e } := by
  rw [replace, hresolve]

/-- Where no temporary file can be made, the disk stays as it was. -/
theorem replace_of_not_stages (hresolve : s.resolveAs refusals path = .ok t)
    (h : ∀ directory, ¬ s.Stages refusals scratch path directory) (text : Text) :
    ∃ e, s.replace refusals scratch path text = { disk := s, error := some e } := by
  rw [replace, hresolve]
  cases hscratch : s.scratchDirectory scratch with
  | error e => exact ⟨.disk e, rfl⟩
  | ok directory =>
    dsimp only
    split
    · exact ⟨.disk .nameTooLong, rfl⟩
    · rename_i hshort
      cases hcreate : refusals.create directory with
      | some reason => exact ⟨.refused reason, rfl⟩
      | none =>
        exact stage_of_refused (fun hrest => h directory
          ⟨hscratch, Nat.le_of_not_lt hshort, hcreate, hrest.1, hrest.2⟩) path text t.mode

end SharedDisk

end CatalogLint
