import CatalogLint.Proofs.Disk.Volume
import CatalogLint.Proofs.Text.Lines

/-!
# Replacements succeed or change nothing

A replacement that fails leaves the disk as it was, at whichever of its calls the system refuses. One
that succeeds changes the entry that the path names, or the file that it leads to at all of its
locations, and makes none: the temporary file is gone (`SharedDisk.replace_all_or_nothing`). Then the
path leads to the new file and reads the new content, for a process that may read this file, unless
the directory of the entry is found by way of this entry alone, which was a link to a directory
(`Disk.LeadsThroughItself`): such a path leads nowhere when the link is a file.
-/

namespace CatalogLint.Disk

/-- A path names an entry in a directory that is found by way of this entry. -/
def LeadsThroughItself (d : Disk) (path : Text) : Prop :=
  ∃ x, d.place? path = some x ∧ (d.erase x).place? path = none

instance (d : Disk) (path : Text) : Decidable (d.LeadsThroughItself path) :=
  decidable_of_iff ((d.place? path).any (fun x => ((d.erase x).place? path).isNone) = true) <| by
    rw [LeadsThroughItself]
    cases d.place? path with
    | none => simp
    | some x => simp

/-- The entries at these locations are one file now, and all else is as it was. -/
structure Replaces (d d' : Disk) (group : List Location) (content : Text) (mode : Nat) : Prop where
  present : ∀ l ∈ group, d.get? l ≠ none
  file : ∀ l ∈ group, d'.get? l = some (.file (.text content) mode)
  other : ∀ l ∉ group, d'.get? l = d.get? l
  mounts_eq : d'.mounts = d.mounts
  workingDirectory_eq : d'.workingDirectory = d.workingDirectory

variable {d : Disk} {x l m : Location} {name path scratch : Text} {t : Target} {c : Content}
  {mode mode' : Nat}

theorem putAll_frame (d : Disk) (group : List Location) (e : Entry) :
    (d.putAll group e).mounts = d.mounts ∧
      (d.putAll group e).workingDirectory = d.workingDirectory := by
  induction group generalizing d with
  | nil => exact ⟨rfl, rfl⟩
  | cons l group ih => exact ih (d.put l e)

theorem replaces_putAll {group : List Location} (hne : [] ∉ group)
    (hpresent : ∀ l ∈ group, d.get? l ≠ none) (content : Text) (mode : Nat) :
    Replaces d (d.putAll group (.file (.text content) mode)) group content mode where
  present := hpresent
  file := fun _ hl => get?_putAll_of_mem hl fun hnil => hne (hnil ▸ hl)
  other := fun _ hl => get?_putAll_of_not_mem hl
  mounts_eq := (d.putAll_frame group _).1
  workingDirectory_eq := (d.putAll_frame group _).2

/-! ## An entry that is a file, and one that is gone -/

theorem agreesOff_erase_put (d : Disk) (hx : x ≠ []) :
    AgreesOff (d.erase x) (d.put x (.file c mode)) x where
  get?_eq := fun m hm => by rw [get?_put_of_ne hm, get?_erase_of_ne hm]
  not_directory := by
    intro mode' hget
    rw [get?_erase_self hx] at hget
    cases hget
  not_directory' := by
    intro mode' hget
    rw [get?_put_self hx] at hget
    cases hget

theorem agreesOff_erase (hx : x ≠ []) (hnot : ∀ mode, d.get? x ≠ some (.directory mode)) :
    AgreesOff d (d.erase x) x where
  get?_eq := fun m hm => get?_erase_of_ne hm
  not_directory := hnot
  not_directory' := by
    intro mode' hget
    rw [get?_erase_self hx] at hget
    cases hget

theorem agreesOff_put (hx : x ≠ []) (hnot : ∀ mode, d.get? x ≠ some (.directory mode)) :
    AgreesOff d (d.put x (.file c mode)) x where
  get?_eq := fun m hm => get?_put_of_ne hm
  not_directory := hnot
  not_directory' := by
    intro mode' hget
    rw [get?_put_self hx] at hget
    cases hget

/-- By way of a file no directory is found. -/
theorem place?_put_eq_erase (hx : x ≠ []) (path : Text) :
    (d.put x (.file c mode)).place? path = (d.erase x).place? path := by
  obtain ⟨m, name, rfl⟩ : ∃ m name, x = m ++ [name] :=
    ⟨_, _, (List.dropLast_concat_getLast hx).symm⟩
  refine place?_congr rfl fun n l pieces m' mode' => ?_
  rcases follow_agree (agreesOff_erase_put d hx) n l pieces with
    heq | ⟨k, rest, hname, herase, hput⟩
  · rw [heq]
  · rw [herase, hput, follow_cons_of_file hname (get?_put_self hx),
      follow_cons_of_none hname (get?_erase_self hx)]
    split <;> simp

/-- A path that names an entry names it without the entry too, or nothing. -/
theorem place?_erase (hnot : ∀ mode, d.get? x ≠ some (.directory mode))
    (hplace : d.place? path = some x) {y : Location} (hy : (d.erase x).place? path = some y) :
    y = x := by
  have hx := ne_nil_of_place? hplace
  obtain ⟨front, name, l, mode, hpieces, -, -, hfront, rfl⟩ := place?_eq_some_iff.mp hplace
  obtain ⟨front', name', l', mode', hpieces', -, -, hfront', rfl⟩ := place?_eq_some_iff.mp hy
  rw [hpieces] at hpieces'
  obtain ⟨rfl, hlast⟩ := List.append_inj' hpieces' rfl
  obtain rfl := List.singleton_inj.mp hlast
  rcases follow_agree (agreesOff_erase hx hnot) maxLinks (d.origin path) front with
    heq | ⟨k, rest, hname, -, herase⟩
  · have hsame := hfront'.symm.trans (heq.trans hfront)
    cases hsame
    rfl
  · have hnone := herase.trans (follow_cons_of_none hname (get?_erase_self hx) k rest)
    cases hnone.symm.trans hfront'

/-! ## Where a path leads then -/

/-- A file over the entry that a path names is what the path leads to. -/
theorem resolve_put_place (hresolve : d.resolve path = .ok t) (hplace : d.place? path = some x)
    (hnot : ∀ mode, d.get? x ≠ some (.directory mode)) (hself : ¬ d.LeadsThroughItself path) :
    (d.put x (.file c mode)).resolve path = .ok (.file x c mode) := by
  have hx := ne_nil_of_place? hplace
  have hplace' : (d.put x (.file c mode)).place? path = some x := by
    rw [place?_put_eq_erase hx]
    cases hy : (d.erase x).place? path with
    | none => exact absurd ⟨x, hplace, hy⟩ hself
    | some y => rw [place?_erase hnot hplace hy]
  obtain ⟨front, name, l, mode', hpieces, hhere, hup, hfront, rfl⟩ :=
    place?_eq_some_iff.mp hplace'
  obtain ⟨front', name', l', -, -, hpieces', hx', hname, -, -⟩ :=
    exists_follow_of_place? hplace hresolve
  obtain rfl : name = name' := by
    rw [hpieces] at hpieces'
    exact List.singleton_inj.mp (List.append_inj' hpieces' rfl).2
  obtain ⟨k, hk⟩ := exists_follow_append hfront
  rw [resolve_eq_follow hresolve, hpieces, hk, follow_cons_of_file hname (get?_put_self hx)]
  rfl

/-- With a file over an entry by way of which its own directory is found, the path ends there. -/
theorem resolve_put_of_leadsThroughItself (hresolve : d.resolve path = .ok t)
    (hplace : d.place? path = some x) (hnot : ∀ mode, d.get? x ≠ some (.directory mode))
    (hself : d.LeadsThroughItself path) :
    (d.put x (.file c mode)).resolve path = .error .notDirectory := by
  have hx := ne_nil_of_place? hplace
  obtain ⟨y, hy, hnone⟩ := hself
  obtain rfl := Option.some.inj (hplace.symm.trans hy)
  have hnone' : (d.put x (.file c mode)).place? path = none :=
    (place?_put_eq_erase hx path).trans hnone
  obtain ⟨front, name, l, mode', k, hpieces, rfl, hname, hfront, -⟩ :=
    exists_follow_of_place? hplace hresolve
  rcases follow_append_agree (agreesOff_put hx hnot) maxLinks (d.origin path) front with
    heq | ⟨k', rest, -, hways⟩
  · -- The directory would be found still.
    have hplace' := place?_eq_some_iff.mpr
      ⟨front, name, l, mode', hpieces, hname.1, hname.2.1, heq.trans hfront, rfl⟩
    cases hnone'.symm.trans hplace'
  · rw [resolve_eq_follow hresolve, hpieces]
    refine (hways [name]).2.trans ?_
    rw [follow_cons_of_file hname (get?_put_self hx), if_neg (by simp)]

/-- A path that leads to a file does not lead through the entry that it names. -/
theorem not_leadsThroughItself_of_file {f : Location}
    (hresolve : d.resolve path = .ok (.file f c mode)) : ¬ d.LeadsThroughItself path := by
  rintro ⟨x, hplace, hnone⟩
  have hx := ne_nil_of_place? hplace
  obtain ⟨front, name, l, mode', k, hpieces, rfl, hname, hfront, hleads⟩ :=
    exists_follow_of_place? hplace hresolve
  have hnot : ∀ mode, d.get? (l ++ [name]) ≠ some (.directory mode) := by
    intro mode hget
    rw [follow_singleton_of_directory hname hget] at hleads
    cases hleads
  rcases follow_agree (agreesOff_erase hx hnot) maxLinks (d.origin path) front with
    heq | ⟨k', rest, -, hd, -⟩
  · have hplace' := place?_eq_some_iff.mpr
      ⟨front, name, l, mode', hpieces, hname.1, hname.2.1, heq.trans hfront, rfl⟩
    cases hnone.symm.trans hplace'
  · rw [hd] at hfront
    cases rest with
    | nil => cases follow_unique hfront hleads
    | cons next rest => exact follow_append_ne_ok hleads (List.cons_ne_nil _ _) k' _ hfront

/-- A file that is put over the file that a path leads to, at any of its locations, is what the path
leads to. -/
theorem resolve_putAll {group : List Location} {f : Location}
    (hresolve : d.resolve path = .ok (.file f c mode)) (hf : f ∈ group)
    (hsame : ∀ l ∈ group, d.get? l = d.get? f) (content : Text) (mode' : Nat) :
    (d.putAll group (.file (.text content) mode')).resolve path =
      .ok (.file f (.text content) mode') := by
  have hget := get?_of_resolve hresolve
  have hne : ∀ l ∈ group, l ≠ [] := by
    rintro l hl rfl
    cases (hsame [] hl).trans hget
  have hnew : ∀ l ∈ group, (d.putAll group (.file (.text content) mode')).get? l =
      some (.file (.text content) mode') := fun l hl => get?_putAll_of_mem hl (hne l hl)
  have htree : SameTree d (d.putAll group (.file (.text content) mode')) := by
    refine ⟨fun l => ?_, (d.putAll_frame group _).1, (d.putAll_frame group _).2⟩
    by_cases hl : l ∈ group
    · exact .inr ⟨c, mode, _, _, (hsame l hl).trans hget, hnew l hl⟩
    · exact .inl (get?_putAll_of_not_mem hl)
  rcases htree.resolve_cases path with heq | ⟨_, _, _, _, _, hd, hd'⟩
  · have hget' := get?_of_resolve (heq.trans hresolve)
    rw [hnew f hf] at hget'
    cases hget'
    exact heq.trans hresolve
  · cases hresolve.symm.trans hd
    have hget' := get?_of_resolve hd'
    rw [hnew f hf] at hget'
    cases hget'
    exact hd'

end CatalogLint.Disk

namespace CatalogLint.SharedDisk

/-! ## All or nothing -/

variable {ρ : Type} {refusals : Refusals ρ} {s : SharedDisk} {directory x l : Location}
  {group : List Location} {scratch path content : Text} {t : Target}

/-- Where a replacement by way of a temporary file in a directory puts the new file: at the entry `x`
that the path names, or at all locations of the file at `x` that it leads to. -/
def IsReplaced (s : SharedDisk) (refusals : Refusals ρ) (directory : Location) (path : Text)
    (t : Target) (x : Location) (group : List Location) : Prop :=
  s.overwritten? refusals directory path = some x ∧ group = [x] ∨
    s.overwritten? refusals directory path = none ∧ (∃ content mode, t = .file x content mode) ∧
      group = s.locations x

/-- What a replacement that succeeded did. -/
theorem replace_of_ok (hok : (s.replace refusals scratch path content).error = none) :
    ∃ t directory x group, s.resolveAs refusals path = .ok t ∧
      s.Stages refusals scratch path directory ∧ s.IsReplaced refusals directory path t x group ∧
      (s.replace refusals scratch path content).disk.toDisk =
        s.putAll group (.file (.text content) t.mode) := by
  cases hresolve : s.resolveAs refusals path with
  | error e =>
    rw [replace_of_error hresolve] at hok
    cases hok
  | ok t =>
    by_cases hstages : ∃ directory, s.Stages refusals scratch path directory
    · obtain ⟨directory, hstages⟩ := hstages
      have hreplace := replace_eq hresolve hstages content
      cases hover : s.overwritten? refusals directory path with
      | some x =>
        rw [hover] at hreplace
        refine ⟨t, directory, x, [x], rfl, hstages, .inl ⟨hover, rfl⟩, ?_⟩
        rw [hreplace]
        rfl
      | none =>
        rw [hover] at hreplace
        cases t with
        | directory m mode =>
          rw [hreplace] at hok
          cases hok
        | file f c mode =>
          cases hcopy : refusals.copy f with
          | some reason =>
            rw [hreplace, fill, hcopy] at hok
            cases hok
          | none =>
            refine ⟨_, directory, f, s.locations f, rfl, hstages,
              .inr ⟨hover, ⟨c, mode, rfl⟩, rfl⟩, ?_⟩
            rw [hreplace, fill, hcopy]
            rfl
    · obtain ⟨e, he⟩ := replace_of_not_stages hresolve (not_exists.mp hstages) content
      rw [he] at hok
      cases hok

/-- At each location of a group that is replaced there is something, and the root is none of them. -/
theorem present_of_isReplaced (hresolve : s.resolve path = .ok t)
    (hx : s.IsReplaced refusals directory path t x group) :
    x ∈ group ∧ [] ∉ group ∧ ∀ l ∈ group, s.get? l ≠ none := by
  rcases hx with ⟨hover, rfl⟩ | ⟨-, ⟨c, mode, rfl⟩, rfl⟩
  · have hplace := (overwritten?_eq_some_iff.mp hover).1
    refine ⟨List.mem_singleton_self x, ?_, ?_⟩
    · simpa using (Disk.ne_nil_of_place? hplace).symm
    · simpa using Disk.get?_ne_none_of_place? hresolve hplace
  · have hget := Disk.get?_of_resolve hresolve
    refine ⟨s.mem_locations_self x, fun hnil => ?_, fun l hl => ?_⟩
    · cases (get?_of_mem_locations hnil).trans hget
    · simp [get?_of_mem_locations hl, hget]

/-- Where the path leads with the new file. -/
theorem resolve_of_isReplaced (hresolve : s.resolve path = .ok t)
    (hx : s.IsReplaced refusals directory path t x group) (content : Text) :
    (¬ s.LeadsThroughItself path →
      (s.putAll group (.file (.text content) t.mode)).resolve path =
        .ok (.file x (.text content) t.mode)) ∧
    (s.LeadsThroughItself path → (∃ l mode, t = .directory l mode) ∧
      (s.putAll group (.file (.text content) t.mode)).resolve path = .error .notDirectory) := by
  rcases hx with ⟨hover, rfl⟩ | ⟨-, ⟨c, mode, rfl⟩, rfl⟩
  · obtain ⟨hplace, -, hnot, -⟩ := overwritten?_eq_some_iff.mp hover
    refine ⟨Disk.resolve_put_place hresolve hplace hnot, fun hself => ⟨?_, ?_⟩⟩
    · cases t with
      | file f c mode => exact absurd hself (Disk.not_leadsThroughItself_of_file hresolve)
      | directory l mode => exact ⟨l, mode, rfl⟩
    · exact Disk.resolve_put_of_leadsThroughItself hresolve hplace hnot hself
  · refine ⟨fun _ => ?_, fun hself => absurd hself (Disk.not_leadsThroughItself_of_file hresolve)⟩
    exact Disk.resolve_putAll hresolve (s.mem_locations_self x)
      (fun l hl => get?_of_mem_locations hl) content _

/-- Nothing is where nothing was. -/
theorem get?_replace_of_none (hl : s.get? l = none) (refusals : Refusals ρ)
    (scratch path content : Text) :
    (s.replace refusals scratch path content).disk.get? l = none := by
  by_cases hok : (s.replace refusals scratch path content).error = none
  · obtain ⟨t, directory, x, group, hresolve, -, hx, hdisk⟩ := replace_of_ok hok
    obtain ⟨-, -, hpresent⟩ := present_of_isReplaced (resolve_of_resolveAs hresolve) hx
    rw [hdisk, Disk.get?_putAll_of_not_mem fun hmem => hpresent l hmem hl, hl]
  · rw [disk_replace_of_error hok, hl]

/-- A file is read by a process to which following the path and reading the file are not refused. -/
theorem readAs_of_resolve {d : Disk} {mode : Nat}
    (hresolve : d.resolve path = .ok (.file x (.text content) mode))
    (hfollow : refusals.follow path = none) (hread : refusals.read x = none) :
    d.readAs refusals path = .ok content := by
  have hresolve' : d.resolveAs refusals path = .ok (.file x (.text content) mode) := by
    rw [Disk.resolveAs, hfollow, hresolve]
    rfl
  rw [Disk.readAs, hresolve']
  dsimp only [Target.location]
  rw [hread]

/-- A replacement that fails, at whichever call, leaves the disk as it was. One that succeeds puts a
file with the new content and the mode of what the path led to over the entry that the path names, or
over the file that it led to at all of its locations, and changes nothing else; no temporary file is
left. The path then leads to the new file, and who may read that reads the new content, unless the
path named a link to a directory by way of which alone it found this link: it leads nowhere then.
What is read has the lines that were written if and only if these were the lines of a text. -/
theorem replace_all_or_nothing (s : SharedDisk) (refusals : Refusals ρ) (scratch path : Text)
    (lines : List Text) :
    let r := s.replace refusals scratch path lines.flatten
    (r.error ≠ none → r.disk = s) ∧
    (∀ l, s.get? l = none → r.disk.get? l = none) ∧
    (∀ directory, r.disk.get? (s.temporaryLocation directory path) = none) ∧
    (r.error = none → ∃ t directory x group,
      s.resolve path = .ok t ∧ s.scratchDirectory scratch = .ok directory ∧
      s.IsReplaced refusals directory path t x group ∧
      s.Replaces r.disk.toDisk group lines.flatten t.mode ∧
      (¬ s.LeadsThroughItself path →
        r.disk.resolve path = .ok (.file x (.text lines.flatten) t.mode) ∧
        ∀ refusals' : Refusals ρ, refusals'.follow path = none → refusals'.read x = none →
          r.disk.readAs refusals' path = .ok lines.flatten ∧
          ∃ ls, (r.disk.readAs refusals' path).map Text.lines = .ok ls ∧
            ls.flatten = lines.flatten ∧ (ls = lines ↔ Text.AreLines lines)) ∧
      (s.LeadsThroughItself path →
        (∃ l mode, t = .directory l mode) ∧ r.disk.resolve path = .error .notDirectory)) := by
  intro r
  refine ⟨disk_replace_of_error, fun _ hl => get?_replace_of_none hl _ _ _ _,
    fun directory => get?_replace_of_none (Disk.get?_temporaryLocation _ _ _) _ _ _ _,
    fun hok => ?_⟩
  obtain ⟨t, directory, x, group, hresolve, hstages, hx, hdisk⟩ := replace_of_ok hok
  have hresolve := resolve_of_resolveAs hresolve
  obtain ⟨-, hne, hpresent⟩ := present_of_isReplaced hresolve hx
  obtain ⟨hleads, hself⟩ := resolve_of_isReplaced hresolve hx lines.flatten
  have hdisk : r.disk.toDisk = s.putAll group (.file (.text lines.flatten) t.mode) := hdisk
  rw [hdisk]
  refine ⟨t, directory, x, group, hresolve, hstages.scratch, hx,
    Disk.replaces_putAll hne hpresent _ _, fun hnot => ⟨hleads hnot, ?_⟩, hself⟩
  intro refusals' hfollow hreadable
  have hread := readAs_of_resolve (hleads hnot) hfollow hreadable
  refine ⟨hread, Text.lines lines.flatten, ?_, Text.flatten_lines _, ?_⟩
  · rw [hread]
    rfl
  · constructor
    · intro heq
      rw [← heq]
      exact Text.areLines_lines _
    · exact Text.lines_flatten

/-- A directory with a link to itself, a catalogue that stands in another directory too, and a file
that its owner may write and not read, beside a scratch directory on another volume and one on the
same. -/
def linkedDirectory : SharedDisk where
  entries :=
    [(["scratch".toList], .directory 0o755), (["far".toList], .directory 0o755),
      (["d".toList], .directory 0o755), (["d".toList, "y.po".toList], .link "."),
      (["d".toList, "a.po".toList], .file (.text []) 0o644), (["e".toList], .directory 0o755),
      (["e".toList, "a.po".toList], .file (.text []) 0o644),
      (["d".toList, "w.po".toList], .file (.text []) 0o200)]
  mounts := [["far".toList]]
  workingDirectory := []
  distinct := by decide
  shared := [[["d".toList, "a.po".toList], ["e".toList, "a.po".toList]]]
  files := by decide
  alike := by decide
  apart := by decide

/-- The link is replaced by a file by way of the directory that it is in, and reads as its lines. What
is copied into the catalogue is seen in the other directory. -/
theorem replace_all_or_nothing_linkedDirectory :
    (linkedDirectory.replace ({} : Refusals Text) "scratch" "d/y.po" "C".toList).disk.readAs
        ({} : Refusals Text) "d/y.po" = .ok "C" ∧
      (linkedDirectory.replace ({} : Refusals Text) "far" "d/a.po" "C".toList).disk.get?
        ["e".toList, "a.po".toList] = some (.file (.text "C") 0o644) := by
  constructor
  · obtain ⟨t, directory, x, group, -, -, -, -, hread, -⟩ :=
      (replace_all_or_nothing linkedDirectory ({} : Refusals Text) "scratch" "d/y.po" ["C"]).2.2.2
        (by decide)
    exact ((hread (by decide)).2 {} rfl rfl).1
  · obtain ⟨t, directory, x, group, hresolve, hscratch, hx, hreplaces, -⟩ :=
      (replace_all_or_nothing linkedDirectory ({} : Refusals Text) "far" "d/a.po" ["C"]).2.2.2
        (by decide)
    have hfile : linkedDirectory.resolve "d/a.po" =
      .ok (.file ["d".toList, "a.po".toList] (.text []) 0o644) := by decide
    obtain rfl : ["far".toList] = directory :=
      Except.ok.inj (Eq.trans (by decide) hscratch)
    obtain ⟨hover, -⟩ | ⟨-, ⟨c, mode, rfl⟩, rfl⟩ := hx
    · have hnone : linkedDirectory.overwritten? ({} : Refusals Text) ["far".toList] "d/a.po" =
        none := by decide
      cases hnone.symm.trans hover
    · cases hfile.symm.trans hresolve
      exact hreplaces.file ["e".toList, "a.po".toList] (by decide)

/-- By way of the link itself it is replaced too, and then nothing is read; and a file of which its
owner may not read the new content is replaced as well. -/
theorem exists_replace_not_read :
    ∃ (s : SharedDisk) (refusals : Disk → Refusals Text) (scratch : Text) (lines : List Text),
      ∀ path ∈ [("d/y.po/y.po" : Text), "d/w.po"],
        let r := s.replace (refusals s.toDisk) scratch path lines.flatten
        r.error = none ∧ r.disk.readAs (refusals r.disk.toDisk) path ≠ .ok lines.flatten :=
  ⟨linkedDirectory, .ofOwner, "scratch", ["C"], by decide⟩

end CatalogLint.SharedDisk
