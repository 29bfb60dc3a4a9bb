import CatalogLint.Proofs.Disk.Tree

/-!
# Two ways to replace a file

The temporary file is renamed over the entry that a path names where that can be, and else copied
into what the path leads to; `SharedDisk.replace_eq` says what is left in either case. For most paths
this is the same. The two ways part where the rename is possible and

* the path names a link, which is overwritten by the first way and followed by the second,
* the process may not copy into the file, or
* the file has other locations, which keep the old content by the first way and show the new one by
  the second.

Nowhere else do they part (`SharedDisk.replace_near_far`).
-/

namespace CatalogLint

namespace Disk

/-- A scratch directory on the volume of the entry that a path names. -/
def IsNear (d : Disk) (scratch path : Text) : Prop :=
  ∃ directory, d.scratchDirectory scratch = .ok directory ∧
    ∀ x ∈ d.place? path, d.volume (d.temporaryLocation directory path) = d.volume x

/-- A scratch directory on another volume than the entry that a path names. -/
def IsFar (d : Disk) (scratch path : Text) : Prop :=
  ∃ directory, d.scratchDirectory scratch = .ok directory ∧
    ∀ x ∈ d.place? path, d.volume (d.temporaryLocation directory path) ≠ d.volume x

end Disk

namespace SharedDisk

variable {ρ : Type} {refusals : Refusals ρ} {s : SharedDisk} {directory x : Location}
  {near far path content : Text} {t : Target}

/-! ## Over the entry or into the file -/

/-- From another volume nothing is renamed. -/
theorem overwritten?_of_far
    (hvolume : ∀ x ∈ s.place? path,
      s.volume (s.temporaryLocation directory path) ≠ s.volume x) :
    s.overwritten? refusals directory path = none := by
  rw [Option.eq_none_iff_forall_ne_some]
  intro x hover
  obtain ⟨hplace, hsame, -⟩ := overwritten?_eq_some_iff.mp hover
  exact hvolume x hplace hsame

theorem replace_far {scratch : Text} (hresolve : s.resolveAs refusals path = .ok t)
    (hstages : s.Stages refusals scratch path directory)
    (hfar : s.IsFar scratch path) (content : Text) :
    s.replace refusals scratch path content = s.fill refusals content t := by
  obtain ⟨directory', hscratch, hvolume⟩ := hfar
  obtain rfl := Except.ok.inj (hstages.scratch.symm.trans hscratch)
  rw [replace_eq hresolve hstages, overwritten?_of_far hvolume]

/-! ## Where the two ways agree -/

/-- Two replacements both succeed or both fail, and leave the same entries if they succeed. -/
def Replacement.Agree (a b : Replacement ρ) : Prop :=
  (a.error = none ↔ b.error = none) ∧ (a.error = none → ∀ l, a.disk.get? l = b.disk.get? l)

theorem Replacement.Agree.refl (a : Replacement ρ) : a.Agree a := ⟨Iff.rfl, fun _ _ => rfl⟩

theorem Replacement.agree_of_error {a b : Replacement ρ} (ha : a.error ≠ none)
    (hb : b.error ≠ none) : a.Agree b :=
  ⟨iff_of_false ha hb, fun h => absurd h ha⟩

/-- A new file is renamed over the entry `x` that a path names, and this is a link, or a file that is
not to be copied into, or a file with other locations that gets another content. -/
structure Parts (s : SharedDisk) (refusals : Refusals ρ) (directory : Location) (path : Text)
    (new : Entry) (x : Location) : Prop where
  place : s.place? path = some x
  not_directory : ∀ mode, s.get? x ≠ some (.directory mode)
  rename : refusals.rename directory x = none
  cause : s.isLink path = true ∨ refusals.copy x ≠ none ∨
    (∃ m ∈ s.locations x, m ≠ x) ∧ s.get? x ≠ some new

/-- A file over one of the locations of a file is all there is to see of the new content, unless the
file has other locations that show another one. -/
theorem agree_put_write_iff {c new : Content} {mode mode' : Nat}
    (hx : s.get? x = some (.file c mode)) :
    ({ disk := s.put x (.file new mode') } : Replacement ρ).Agree
        { disk := s.write x new mode' } ↔
      ¬ ((∃ m ∈ s.locations x, m ≠ x) ∧ s.get? x ≠ some (.file new mode')) := by
  have hne : x ≠ [] := by
    rintro rfl
    cases hx
  have hput : (s.put x (.file new mode')).get? x = some (.file new mode') := Disk.get?_put_self hne
  have hother : ∀ m, m ≠ x → (s.put x (.file new mode')).get? m = s.get? m :=
    fun m hm => Disk.get?_put_of_ne hm
  have hwrite : ∀ m ∈ s.locations x, (s.write x new mode').get? m = some (.file new mode') := by
    intro m hm
    refine get?_write_of_mem hm ?_
    rintro rfl
    cases (get?_of_mem_locations hm).trans hx
  constructor
  · rintro ⟨-, hagree⟩ ⟨⟨m, hm, hmx⟩, hold⟩
    have hget : (s.put x (.file new mode')).get? m = (s.write x new mode').get? m := hagree rfl m
    rw [hother m hmx, hwrite m hm, get?_of_mem_locations hm] at hget
    exact hold hget
  · intro h
    refine ⟨Iff.rfl, fun _ m => ?_⟩
    change (s.put x (.file new mode')).get? m = (s.write x new mode').get? m
    by_cases hmx : m = x
    · rw [hmx, hput, hwrite x (s.mem_locations_self x)]
    · rw [hother m hmx]
      by_cases hm : m ∈ s.locations x
      · rw [hwrite m hm, get?_of_mem_locations hm]
        exact not_not.mp fun hold => h ⟨⟨m, hm, hmx⟩, hold⟩
      · rw [get?_write_of_not_mem hm]

/-- A file over a link is not what a copy into what the link leads to makes of it. -/
theorem not_agree_of_isLink (hresolve : s.resolve path = .ok t) (hlink : s.isLink path = true)
    (hplace : s.place? path = some x) (content : Text) :
    ¬ ({ disk := s.put x (.file (.text content) t.mode) } : Replacement ρ).Agree
        (s.fill refusals content t) := by
  rintro ⟨herror, hdisk⟩
  obtain ⟨y, target, hy, hget⟩ := Disk.isLink_eq_true_iff.mp hlink
  obtain rfl := Option.some.inj (hplace.symm.trans hy)
  cases t with
  | directory l mode => cases herror.mp rfl
  | file f c mode =>
    rw [fill] at herror hdisk
    cases hcopy : refusals.copy f with
    | some reason =>
      rw [hcopy] at herror
      cases herror.mp rfl
    | none =>
      have hx : x ∉ s.locations f := by
        intro hx
        cases (hget.symm.trans (get?_of_mem_locations hx)).trans (Disk.get?_of_resolve hresolve)
      have hput : (s.put x (.file (.text content) mode)).get? x =
          some (.file (.text content) mode) :=
        Disk.get?_put_self (Disk.ne_nil_of_place? hplace)
      have hsame := hdisk rfl x
      rw [hcopy] at hsame
      cases (hput.symm.trans hsame).trans ((get?_write_of_not_mem hx).trans hget)

/-- A rename over the entry that a path names and a copy into what the path leads to. -/
theorem agree_put_fill_iff (hresolve : s.resolve path = .ok t) (hplace : s.place? path = some x)
    (hnot : ∀ mode, s.get? x ≠ some (.directory mode))
    (hrename : refusals.rename directory x = none) (content : Text) :
    ({ disk := s.put x (.file (.text content) t.mode) } : Replacement ρ).Agree
        (s.fill refusals content t) ↔
      ¬ s.Parts refusals directory path (.file (.text content) t.mode) x := by
  have hparts : s.Parts refusals directory path (.file (.text content) t.mode) x ↔
      s.isLink path = true ∨ refusals.copy x ≠ none ∨
        (∃ m ∈ s.locations x, m ≠ x) ∧ s.get? x ≠ some (.file (.text content) t.mode) :=
    ⟨fun h => h.cause, fun h => ⟨hplace, hnot, hrename, h⟩⟩
  rw [hparts]
  cases hlink : s.isLink path with
  | true => exact iff_of_false (not_agree_of_isLink hresolve hlink hplace content) (by simp)
  | false =>
    obtain ⟨hx, hget⟩ := Disk.get?_of_place? hresolve hlink hplace
    cases t with
    | directory l mode => exact absurd hget (hnot mode)
    | file f c mode =>
      obtain rfl : x = f := hx
      rw [fill]
      cases hcopy : refusals.copy x with
      | some reason =>
        refine iff_of_false ?_ (by simp)
        rintro ⟨herror, -⟩
        cases herror.mp rfl
      | none =>
        refine (agree_put_write_iff hget).trans ?_
        simp

/-! ## The two ways -/

/-- A temporary file can be made, and the two ways to install it part. -/
def Diverges (s : SharedDisk) (refusals : Refusals ρ) (near path content : Text) : Prop :=
  ∃ t directory x, s.resolveAs refusals path = .ok t ∧ s.Stages refusals near path directory ∧
    s.Parts refusals directory path (.file (.text content) t.mode) x

/-- A replacement that fails changes nothing. -/
theorem disk_replace_of_error {scratch : Text}
    (h : (s.replace refusals scratch path content).error ≠ none) :
    (s.replace refusals scratch path content).disk = s := by
  cases hresolve : s.resolveAs refusals path with
  | error e => rw [replace_of_error hresolve]
  | ok t =>
    by_cases hstages : ∃ directory, s.Stages refusals scratch path directory
    · obtain ⟨directory, hstages⟩ := hstages
      rw [replace_eq hresolve hstages] at h ⊢
      split at h
      · exact absurd rfl h
      · cases t with
        | directory l mode => rfl
        | file f c mode =>
          rw [fill] at h ⊢
          split at h
          · rfl
          · exact absurd rfl h
    · obtain ⟨e, he⟩ := replace_of_not_stages hresolve (not_exists.mp hstages) content
      rw [he]

theorem overwritten?_of_parts {new : Entry} (hnear : s.IsNear near path)
    (hstages : s.Stages refusals near path directory)
    (hparts : s.Parts refusals directory path new x) :
    s.overwritten? refusals directory path = some x := by
  obtain ⟨directory', hscratch, hvolume⟩ := hnear
  obtain rfl := Except.ok.inj (hstages.scratch.symm.trans hscratch)
  exact overwritten?_eq_some_iff.mpr
    ⟨hparts.place, hvolume x hparts.place, hparts.not_directory, hparts.rename⟩

theorem diverges_iff (hresolve : s.resolveAs refusals path = .ok t)
    (hstages : s.Stages refusals near path directory) :
    s.Diverges refusals near path content ↔
      ∃ x, s.Parts refusals directory path (.file (.text content) t.mode) x := by
  constructor
  · rintro ⟨t', directory', x, ht, hstages', hparts⟩
    obtain rfl := Except.ok.inj (hresolve.symm.trans ht)
    obtain rfl := Except.ok.inj (hstages.scratch.symm.trans hstages'.scratch)
    exact ⟨x, hparts⟩
  · rintro ⟨x, hparts⟩
    exact ⟨t, directory, x, hresolve, hstages, hparts⟩

theorem agree_iff_not_diverges (hnear : s.IsNear near path) (hfar : s.IsFar far path)
    (hstages : (∃ directory, s.Stages refusals near path directory) ↔
      ∃ directory, s.Stages refusals far path directory) (content : Text) :
    (s.replace refusals near path content).Agree (s.replace refusals far path content) ↔
      ¬ s.Diverges refusals near path content := by
  cases hresolve : s.resolveAs refusals path with
  | error e =>
    rw [replace_of_error hresolve, replace_of_error hresolve]
    refine iff_of_true (.refl _) ?_
    rintro ⟨t, directory, x, ht, -⟩
    cases hresolve.symm.trans ht
  | ok t =>
    by_cases hmade : ∃ directory, s.Stages refusals near path directory
    · obtain ⟨directory', hmade'⟩ := hstages.mp hmade
      obtain ⟨directory, hmade⟩ := hmade
      rw [replace_far hresolve hmade' hfar, replace_eq hresolve hmade, diverges_iff hresolve hmade]
      cases hover : s.overwritten? refusals directory path with
      | none =>
        -- Both ways copy.
        refine iff_of_true (.refl _) ?_
        rintro ⟨x, hparts⟩
        cases hover.symm.trans (overwritten?_of_parts hnear hmade hparts)
      | some x =>
        obtain ⟨hplace, -, hnot, hrename⟩ := overwritten?_eq_some_iff.mp hover
        have hagree := agree_put_fill_iff (resolve_of_resolveAs hresolve) hplace hnot hrename content
        refine hagree.trans (not_congr ⟨fun hparts => ⟨x, hparts⟩, ?_⟩)
        rintro ⟨y, hparts⟩
        obtain rfl := Option.some.inj (hplace.symm.trans hparts.place)
        exact hparts
    · obtain ⟨e, he⟩ := replace_of_not_stages hresolve (not_exists.mp hmade) content
      obtain ⟨e', he'⟩ :=
        replace_of_not_stages hresolve (not_exists.mp (mt hstages.mpr hmade)) content
      rw [he, he']
      refine iff_of_true (Replacement.agree_of_error (by simp) (by simp)) ?_
      rintro ⟨t, directory, x, -, hstages, -⟩
      exact hmade ⟨directory, hstages⟩

/-- By way of a scratch directory on its own volume and by way of one on another, in which a
temporary file can be made alike, what a path names is replaced alike, unless the two ways part: then
the first way puts the new file over the entry that the path names, and the second writes into the
file that it leads to, at all of its locations, if that is a file that may be copied into. A
replacement that fails changes nothing. -/
theorem replace_near_far (hnear : s.IsNear near path) (hfar : s.IsFar far path)
    (hstages : (∃ directory, s.Stages refusals near path directory) ↔
      ∃ directory, s.Stages refusals far path directory) (content : Text) :
    let a := s.replace refusals near path content
    let b := s.replace refusals far path content
    (a.Agree b ↔ ¬ s.Diverges refusals near path content) ∧
    (a.error ≠ none → a.disk = s) ∧ (b.error ≠ none → b.disk = s) ∧
    ∀ t directory x, s.resolveAs refusals path = .ok t → s.Stages refusals near path directory →
      s.Parts refusals directory path (.file (.text content) t.mode) x →
      a = { disk := s.put x (.file (.text content) t.mode) } ∧ b = s.fill refusals content t := by
  refine ⟨agree_iff_not_diverges hnear hfar hstages content, disk_replace_of_error,
    disk_replace_of_error, fun t directory x hresolve hmade hparts => ⟨?_, ?_⟩⟩
  · rw [replace_eq hresolve hmade, overwritten?_of_parts hnear hmade hparts]
  · obtain ⟨directory', hmade'⟩ := hstages.mp ⟨directory, hmade⟩
    exact replace_far hresolve hmade' hfar content

/-- A catalogue at two locations, one that may only be read, and a link to a catalogue, beside the
scratch directory `/near` and the scratch directory `/far` on another volume. -/
def twoVolumes : SharedDisk where
  entries :=
    [(["near".toList], .directory 0o755), (["far".toList], .directory 0o755),
      (["po".toList], .directory 0o755),
      (["po".toList, "a.po".toList], .file (.text "msgid \"a\"\n") 0o640),
      (["po".toList, "b.po".toList], .file (.text "msgid \"a\"\n") 0o640),
      (["po".toList, "r.po".toList], .file (.text "msgid \"a\"\n") 0o444),
      (["po".toList, "x.po".toList], .link "a.po")]
  mounts := [["far".toList]]
  workingDirectory := ["po".toList]
  distinct := by decide
  shared := [[["po".toList, "a.po".toList], ["po".toList, "b.po".toList]]]
  files := by decide
  alike := by decide
  apart := by decide

/-- Its owner can make temporary files in both scratch directories. -/
theorem twoVolumes_stages : ∀ path ∈ [("a.po" : Text), "r.po", "x.po"],
    twoVolumes.IsNear "/near" path ∧ twoVolumes.IsFar "/far" path ∧
      twoVolumes.Stages (.ofOwner twoVolumes.toDisk) "/near" path ["near".toList] ∧
      twoVolumes.Stages (.ofOwner twoVolumes.toDisk) "/far" path ["far".toList] := by
  intro path hpath
  refine ⟨⟨["near".toList], by decide, ?_⟩, ⟨["far".toList], by decide, ?_⟩,
    ⟨by decide, ?_, by decide, by decide, by decide⟩,
    ⟨by decide, ?_, by decide, by decide, by decide⟩⟩
  all_goals
    revert path
    decide

/-- For the owner the two ways part at each of the three. -/
theorem twoVolumes_parts : ∀ path ∈ [("a.po" : Text), "r.po", "x.po"], ∃ t x,
    twoVolumes.resolveAs (.ofOwner twoVolumes.toDisk) path = .ok t ∧
    twoVolumes.Parts (.ofOwner twoVolumes.toDisk) ["near".toList] path
      (.file (.text "C") t.mode) x := by
  have hshared : ∃ m ∈ twoVolumes.locations ["po".toList, "a.po".toList],
      m ≠ ["po".toList, "a.po".toList] := ⟨["po".toList, "b.po".toList], by decide⟩
  intro path hpath
  simp only [List.mem_cons, List.not_mem_nil, or_false] at hpath
  rcases hpath with rfl | rfl | rfl
  · exact ⟨.file ["po".toList, "a.po".toList] (.text "msgid \"a\"\n") 0o640,
      ["po".toList, "a.po".toList], by decide,
      ⟨by decide, nofun, by decide, .inr (.inr ⟨hshared, by decide⟩)⟩⟩
  · exact ⟨.file ["po".toList, "r.po".toList] (.text "msgid \"a\"\n") 0o444,
      ["po".toList, "r.po".toList], by decide,
      ⟨by decide, nofun, by decide, .inr (.inl (by decide))⟩⟩
  · exact ⟨.file ["po".toList, "a.po".toList] (.text "msgid \"a\"\n") 0o640,
      ["po".toList, "x.po".toList], by decide, ⟨by decide, nofun, by decide, .inl (by decide)⟩⟩

/-- The new content is at one location of the catalogue by the first way, and at both by the
second. -/
theorem replace_near_far_twoVolumes :
    (twoVolumes.replace (.ofOwner twoVolumes.toDisk) "/near" "a.po" "C").disk.get?
        ["po".toList, "b.po".toList] = some (.file (.text "msgid \"a\"\n") 0o640) ∧
      (twoVolumes.replace (.ofOwner twoVolumes.toDisk) "/far" "a.po" "C").disk.get?
        ["po".toList, "b.po".toList] = some (.file (.text "C") 0o640) := by
  obtain ⟨hnear, hfar, hstages, hstages'⟩ := twoVolumes_stages "a.po" (by simp)
  obtain ⟨t, x, hresolve, hparts⟩ := twoVolumes_parts "a.po" (by simp)
  have ht : t = .file ["po".toList, "a.po".toList] (.text "msgid \"a\"\n") 0o640 :=
    Except.ok.inj (hresolve.symm.trans (by decide))
  have hx : x = ["po".toList, "a.po".toList] :=
    Option.some.inj (hparts.place.symm.trans (by decide))
  obtain ⟨-, -, -, hways⟩ :=
    replace_near_far hnear hfar (iff_of_true ⟨_, hstages⟩ ⟨_, hstages'⟩) "C"
  obtain ⟨hrenamed, hcopied⟩ := hways t _ x hresolve hstages hparts
  rw [hrenamed, hcopied, ht, hx]
  decide

/-- The two ways do not agree on every path that leads somewhere: not where the file has other
locations, not where the process may not write into it, and not on a path that names a link. -/
theorem exists_near_far_differ :
    ∃ (s : SharedDisk) (refusals : Refusals Text) (near far content : Text),
      ∀ path ∈ [("a.po" : Text), "r.po", "x.po"], s.IsNear near path ∧ s.IsFar far path ∧
        (∃ t, s.resolve path = .ok t) ∧
        ¬ (s.replace refusals near path content).Agree (s.replace refusals far path content) := by
  refine ⟨twoVolumes, .ofOwner twoVolumes.toDisk, "/near", "/far", "C", fun path hpath => ?_⟩
  obtain ⟨hnear, hfar, hstages, hstages'⟩ := twoVolumes_stages path hpath
  obtain ⟨t, x, hresolve, hparts⟩ := twoVolumes_parts path hpath
  refine ⟨hnear, hfar, ⟨t, resolve_of_resolveAs hresolve⟩, ?_⟩
  rw [agree_iff_not_diverges hnear hfar (iff_of_true ⟨_, hstages⟩ ⟨_, hstages'⟩), not_not]
  exact ⟨t, _, x, hresolve, hstages, hparts⟩

/-- A link to a directory can be overwritten, and nothing can be copied into it. -/
example :
    let s := twoVolumes.put ["po".toList, "y.po".toList] (.link ".")
    (s.replace ({} : Refusals Empty) "/near" "y.po" "C").error = none ∧
      (s.replace ({} : Refusals Empty) "/far" "y.po" "C").error = some (.disk .isDirectory) := by
  decide

end SharedDisk

end CatalogLint
