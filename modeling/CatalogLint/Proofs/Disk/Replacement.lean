import CatalogLint.Proofs.Disk.Staging

/-!
# What a replacement leaves

Replacing the file that a path leads to changes one entry: a file, or a link that leads to one,
becomes a file with the new content (`Overwrites`). The temporary file is gone again; once it can be
made nothing fails but a copy over a directory (`replace_eq`). A path that led to a file still does.
It reads what it read before, or the new content (`Overwrites.read`); the path that was replaced
reads the new content (`exists_overwrites_of_replace`).
-/

namespace CatalogLint.Disk

/-- A file stands on `d'` where `d` has a file, or a link that leads to one, and all else is as it
was. -/
structure Overwrites (d d' : Disk) (m : Location) (name content : Text) (mode : Nat) : Prop where
  isName : IsName name
  get?_eq : ∀ l, l ≠ m ++ [name] → d'.get? l = d.get? l
  file : d'.get? (m ++ [name]) = some (.file (.text content) mode)
  leads : ∃ k f c mode, d.follow k m [name] = .ok (.file f c mode)
  workingDirectory_eq : d'.workingDirectory = d.workingDirectory

namespace Overwrites

variable {d d' : Disk} {m : Location} {name content : Text} {mode : Nat}

theorem agreesOff (h : Overwrites d d' m name content mode) : AgreesOff d d' (m ++ [name]) where
  get?_eq := h.get?_eq
  not_directory := by
    intro mode' hget
    obtain ⟨k, f, c, mode'', hleads⟩ := h.leads
    rw [follow_singleton_of_directory h.isName hget] at hleads
    cases hleads
  not_directory' := by
    intro mode' hget
    rw [h.file] at hget
    cases hget

/-- A way that succeeded still does, to the same target or, if that was a file, to the new one. -/
theorem follow (h : Overwrites d d' m name content mode) {n : Nat} {l : Location}
    {pieces : List Text} {t : Target} (ht : d.follow n l pieces = .ok t) :
    d'.follow n l pieces = .ok t ∨
      (∃ f c mode', t = .file f c mode') ∧
        d'.follow n l pieces = .ok (.file (m ++ [name]) (.text content) mode) := by
  obtain ⟨k₀, f, c, mode', hleads⟩ := h.leads
  rcases follow_agree h.agreesOff n l pieces with heq | ⟨k, rest, hname, hd, hd'⟩
  · exact Or.inl (heq.trans ht)
  · rw [hd] at ht
    rw [hd', follow_cons_of_file hname h.file]
    cases rest with
    | nil => exact Or.inr ⟨⟨f, c, mode', follow_unique ht hleads⟩, rfl⟩
    | cons next rest => exact absurd ht (follow_append_ne_ok hleads (List.cons_ne_nil _ _) k t)

theorem origin_eq (h : Overwrites d d' m name content mode) (path : Text) :
    d'.origin path = d.origin path := by
  rw [origin, origin, h.workingDirectory_eq]

/-- What a way leads to is what its path reads. -/
theorem read_of_follow (h : Overwrites d d' m name content mode) {path t : Text} {target : Target}
    {f : Location} {mode' : Nat} (hresolve : d.resolve path = .ok target)
    (hfollow : d'.follow maxLinks (d.origin path) (Path.pieces path) =
      .ok (.file f (.text t) mode')) : d'.read path = .ok t := by
  refine read_eq_ok_iff.mpr ⟨f, mode', ?_⟩
  rw [resolve_eq_follow hresolve, h.origin_eq, hfollow]

/-- A path that led to a file reads as before, or as the new content. -/
theorem read (h : Overwrites d d' m name content mode) {path t : Text}
    (ht : d.read path = .ok t) : d'.read path = .ok t ∨ d'.read path = .ok content := by
  obtain ⟨f, mode', hresolve⟩ := read_eq_ok_iff.mp ht
  rcases h.follow (follow_of_resolve hresolve) with hsame | ⟨-, hnew⟩
  · exact Or.inl (h.read_of_follow hresolve hsame)
  · exact Or.inr (h.read_of_follow hresolve hnew)

end Overwrites

section Overwrite

variable {d : Disk} {f x : Location} {path : Text} {c : Content} {mode' : Nat}

/-- A file is put over an entry that leads to one. -/
theorem overwrites_put {k : Nat} {l : Location} {name : Text} (hname : IsName name)
    (hleads : d.follow k l [name] = .ok (.file f c mode')) (content : Text) (mode : Nat) :
    Overwrites d (d.put (l ++ [name]) (.file (.text content) mode)) l name content mode :=
  ⟨hname, fun _ hy => get?_put_of_ne hy, get?_put_self (by simp), ⟨k, f, c, mode', hleads⟩, rfl⟩

theorem exists_overwrites_put_place (hresolve : d.resolve path = .ok (.file f c mode'))
    (hplace : d.place? path = some x) (content : Text) (mode : Nat) :
    ∃ m name, Overwrites d (d.put x (.file (.text content) mode)) m name content mode ∧
      (d.put x (.file (.text content) mode)).read path = .ok content := by
  obtain ⟨front, name, l, mode'', k, hpieces, rfl, hname, hfront, hleads⟩ :=
    exists_follow_of_place? hplace hresolve
  have hover := overwrites_put hname hleads content mode
  -- The new file is no directory, so the path still leads to the one it stands in.
  have hfront' : (d.put (l ++ [name]) (.file (.text content) mode)).follow maxLinks
      (d.origin path) front = .ok (.directory l mode'') := by
    rcases hover.follow hfront with hsame | ⟨⟨f', c, mode'', ht⟩, -⟩
    · exact hsame
    · cases ht
  obtain ⟨k', hk'⟩ := exists_follow_append hfront'
  have hway : (d.put (l ++ [name]) (.file (.text content) mode)).follow maxLinks (d.origin path)
      (Path.pieces path) = .ok (.file (l ++ [name]) (.text content) mode) := by
    rw [hpieces, hk', follow_cons_of_file hover.isName hover.file]
    rfl
  exact ⟨l, name, hover, hover.read_of_follow hresolve hway⟩

theorem exists_overwrites_put_file (hresolve : d.resolve path = .ok (.file f c mode'))
    (content : Text) (mode : Nat) :
    ∃ m name, Overwrites d (d.put f (.file (.text content) mode)) m name content mode ∧
      (d.put f (.file (.text content) mode)).read path = .ok content := by
  have hfollow := follow_of_resolve hresolve
  obtain ⟨m, name, rfl, hname, hget⟩ := get?_of_follow hfollow
  have hover := overwrites_put hname (follow_cons_of_file hname hget 0 []) content mode
  refine ⟨m, name, hover, ?_⟩
  rcases hover.follow hfollow with hsame | ⟨-, hnew⟩
  · -- The path leads where it led, and the new content is there.
    obtain ⟨-, -, -, -, hget'⟩ := get?_of_follow hsame
    rw [hover.file] at hget'
    cases hget'
    exact hover.read_of_follow hresolve hsame
  · exact hover.read_of_follow hresolve hnew

end Overwrite

/-! ## Replacing -/

/-- What is left when a content was copied into what a path leads to. -/
def fill (d : Disk) (content : Text) : Target → Replacement
  | .file f _ mode => { disk := d.put f (.file (.text content) mode) }
  | .directory _ _ => { disk := d, error := some .isDirectory }

/-- The entry that the temporary file for a path is renamed over. -/
def overwritten? (d : Disk) (directory : Location) (path : Text) : Option Location :=
  (d.place? path).filter (d.canRename (d.temporaryLocation directory path))

section Replace

variable {d : Disk} {directory : Location} {scratch path : Text} {t : Target}

theorem resolveAs_of_resolve (hresolve : d.resolve path = .ok t) :
    (SharedDisk.ofDisk d).resolveAs ({} : Refusals Empty) path = .ok t := by
  rw [resolveAs]
  exact congrArg (Except.mapError Failure.disk) hresolve

theorem overwritten?_ofDisk (d : Disk) (directory : Location) (path : Text) :
    (SharedDisk.ofDisk d).overwritten? ({} : Refusals Empty) directory path =
      d.overwritten? directory path := by
  simp [SharedDisk.overwritten?, overwritten?, SharedDisk.ofDisk]

/-- Where a temporary file can be made, a replacement puts the new file over the entry that the path
names, or else into the file that the path leads to; a directory stays. -/
theorem replace_eq (hresolve : d.resolve path = .ok t)
    (hscratch : d.scratchDirectory scratch = .ok directory)
    (hshort : temporaryLength path ≤ maxNameLength) (content : Text) :
    d.replace scratch path content =
      match d.overwritten? directory path with
      | some x => { disk := d.put x (.file (.text content) t.mode) }
      | none => d.fill content t := by
  have hstages : (SharedDisk.ofDisk d).Stages ({} : Refusals Empty) scratch path directory :=
    ⟨hscratch, hshort, rfl, rfl, rfl⟩
  rw [replace, SharedDisk.replace_eq (resolveAs_of_resolve hresolve) hstages, overwritten?_ofDisk]
  cases d.overwritten? directory path with
  | some x => rfl
  | none =>
    cases t with
    | file f c mode => rfl
    | directory l mode => rfl

theorem replace_of_scratch {e : DiskError} (hresolve : d.resolve path = .ok t)
    (hscratch : d.scratchDirectory scratch = .error e) (content : Text) :
    d.replace scratch path content = { disk := d, error := some e } := by
  have hscratch' : (SharedDisk.ofDisk d).scratchDirectory scratch = .error e := hscratch
  rw [replace, SharedDisk.replace, resolveAs_of_resolve hresolve, hscratch']
  rfl

theorem replace_of_long (hresolve : d.resolve path = .ok t)
    (hscratch : d.scratchDirectory scratch = .ok directory)
    (hlong : maxNameLength < temporaryLength path) (content : Text) :
    d.replace scratch path content = { disk := d, error := some .nameTooLong } := by
  have hscratch' : (SharedDisk.ofDisk d).scratchDirectory scratch = .ok directory := hscratch
  rw [replace, SharedDisk.replace, resolveAs_of_resolve hresolve, hscratch']
  dsimp only
  rw [if_pos hlong]
  rfl

end Replace

/-- Why no temporary file for a path can be made. -/
def obstacle? (d : Disk) (scratch path : Text) : Option DiskError :=
  match d.scratchDirectory scratch with
  | .error e => some e
  | .ok _ => if maxNameLength < temporaryLength path then some .nameTooLong else none

/-- The file that a path leads to is replaced there, or over the entry that the path names, unless
no temporary file can be made. -/
theorem replace_cases {d : Disk} {path : Text} {f : Location} {c : Content} {mode : Nat}
    (hresolve : d.resolve path = .ok (.file f c mode)) (scratch content : Text) :
    (∃ e, d.obstacle? scratch path = some e ∧
      d.replace scratch path content = { disk := d, error := some e }) ∨
    d.obstacle? scratch path = none ∧ ∃ x, (x = f ∨ d.place? path = some x) ∧
      d.replace scratch path content = { disk := d.put x (.file (.text content) mode) } := by
  cases hscratch : d.scratchDirectory scratch with
  | error e =>
    refine Or.inl ⟨e, ?_, ?_⟩
    · rw [obstacle?, hscratch]
    · exact replace_of_scratch hresolve hscratch content
  | ok directory =>
    rcases Nat.lt_or_ge maxNameLength (temporaryLength path) with hlong | hshort
    · refine Or.inl ⟨.nameTooLong, ?_, replace_of_long hresolve hscratch hlong content⟩
      rw [obstacle?, hscratch]
      exact if_pos hlong
    · refine Or.inr ⟨?_, ?_⟩
      · rw [obstacle?, hscratch]
        exact if_neg (Nat.not_lt.mpr hshort)
      · rw [replace_eq hresolve hscratch hshort]
        cases hover : d.overwritten? directory path with
        | none => exact ⟨f, Or.inl rfl, rfl⟩
        | some x => exact ⟨x, Or.inr (Option.filter_eq_some_iff.mp hover).1, rfl⟩

theorem workingDirectory_replace {d : Disk} {path : Text} {f : Location} {c : Content} {mode : Nat}
    (hresolve : d.resolve path = .ok (.file f c mode)) (scratch content : Text) :
    (d.replace scratch path content).disk.workingDirectory = d.workingDirectory := by
  rcases replace_cases hresolve scratch content with ⟨e, -, h⟩ | ⟨-, x, -, h⟩
  · rw [h]
  · rw [h]
    rfl

/-- A replacement that succeeds overwrites one entry, and the path reads the new content. -/
theorem exists_overwrites_of_replace {d : Disk} {scratch path content t : Text}
    (hread : d.read path = .ok t) (hok : (d.replace scratch path content).error = none) :
    ∃ m name mode, Overwrites d (d.replace scratch path content).disk m name content mode ∧
      (d.replace scratch path content).disk.read path = .ok content := by
  obtain ⟨f, mode, hresolve⟩ := read_eq_ok_iff.mp hread
  rcases replace_cases hresolve scratch content with ⟨e, -, h⟩ | ⟨-, x, rfl | hplace, h⟩
  · rw [h] at hok
    cases hok
  · obtain ⟨m, name, hover⟩ := exists_overwrites_put_file hresolve content mode
    rw [h]
    exact ⟨m, name, mode, hover⟩
  · obtain ⟨m, name, hover⟩ := exists_overwrites_put_place hresolve hplace content mode
    rw [h]
    exact ⟨m, name, mode, hover⟩

end CatalogLint.Disk
