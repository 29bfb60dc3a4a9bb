import CatalogLint.Proofs.Batch.Contents
import CatalogLint.Proofs.Batch.Sequence
import CatalogLint.Proofs.Disk.Tree

/-!
# Files of a batch do not get in each other's way

What a rule does to a file depends on the file, on where its path leads and on whether a temporary
file can be made for it; a file that another path leads to is none of these (`visit_of_sameTree`). So
a batch of files no two of which are the same does to each what a batch of that file alone does
(`run_of_forall_error_eq_none`), up to the first that fails, and a file that fails stays as it was
(`run_of_error`).

A link would be replaced by a file, and the file that it leads to would stay; a directory would
stand for the catalogues in it.
-/

namespace CatalogLint.Rule

variable {rule : Rule} {scratch path : Text} {d d' : Disk}

/-! ## One file -/

theorem run_singleton (rule : Rule) (scratch : Text) (h : d.isDirectory path = false) :
    rule.run scratch [path] d =
      { disk := (rule.visit scratch path d).disk
        report := (rule.visit scratch path d).report
        error := (rule.visit scratch path d).error.map ({ path, cause := · }) } := by
  rw [run_eq_runFiles fun p hp => List.mem_singleton.mp hp ▸ h, runFiles_singleton]

/-- A path that is no link is visited alike on two disks of one tree that have the same file there:
both disks stay, or the same file is put there on both. -/
theorem visit_of_sameTree (rule : Rule) (scratch : Text) (hsame : d.SameTree d')
    (hlink : d.isLink path = false)
    (hpath : ∀ l, d.fileAt? path = some l → d'.get? l = d.get? l) :
    (rule.visit scratch path d').report = (rule.visit scratch path d).report ∧
    (rule.visit scratch path d').error = (rule.visit scratch path d).error ∧
    ((rule.visit scratch path d).disk = d ∧ (rule.visit scratch path d').disk = d' ∨
      (rule.visit scratch path d).error = none ∧ ∃ f content mode content' mode',
        d.resolve path = .ok (.file f content mode) ∧
        (rule.visit scratch path d).disk = d.put f (.file content' mode') ∧
        (rule.visit scratch path d').disk = d'.put f (.file content' mode')) := by
  have hresolve := hsame.resolve_eq hpath
  have hread : d'.read path = d.read path := by rw [Disk.read_eq, Disk.read_eq, hresolve]
  unfold visit
  rw [hread]
  cases hd : d.read path with
  | error cause => exact ⟨rfl, rfl, Or.inl ⟨rfl, rfl⟩⟩
  | ok t =>
    obtain ⟨f, mode, hfile⟩ := Disk.read_eq_ok_iff.mp hd
    have hlink' : d'.isLink path = false := (hsame.isLink_eq path).trans hlink
    dsimp only
    cases hrewrite : (rule.inspect t.lines).rewrite with
    | none =>
      rw [apply_of_rewrite_none hrewrite, apply_of_rewrite_none hrewrite, hsame.workingDirectory_eq]
      exact ⟨rfl, rfl, Or.inl ⟨rfl, rfl⟩⟩
    | some new =>
      unfold apply
      simp only [hrewrite, hsame.workingDirectory_eq]
      rw [Disk.replace_of_resolve hfile hlink, Disk.replace_of_resolve (hresolve.trans hfile) hlink',
        hsame.obstacle?_eq]
      cases d.obstacle? scratch path with
      | some cause => exact ⟨rfl, rfl, Or.inl ⟨rfl, rfl⟩⟩
      | none => exact ⟨rfl, rfl, Or.inr ⟨rfl, f, _, _, _, _, hfile, rfl, rfl⟩⟩

/-- Of a file that fails nothing is reported: what is found is written first. -/
theorem diagnostics_visit_of_error (h : (rule.visit scratch path d).error ≠ none) :
    (rule.visit scratch path d).report.diagnostics = [] := by
  unfold visit at h ⊢
  cases hread : d.read path with
  | error cause => rfl
  | ok t =>
    simp only [hread] at h ⊢
    have hrewrite : (rule.inspect t.lines).rewrite ≠ none := by
      intro hnone
      rw [apply_of_rewrite_none hnone] at h
      exact h rfl
    rw [apply_report_of_error h, findings_eq_nil_of_rewrite hrewrite]
    rfl

/-! ## A batch -/

/-- After other files a file is visited as it is alone. If that fails the disk stays. -/
theorem visit_of_gathers {before : List Text}
    (h : d.Gathers before (fun p => (rule.run scratch [p] d).disk) d')
    (hpath : ∀ q ∈ before, ¬ d.SameFile q path)
    (hplain : d.isDirectory path = false ∧ d.isLink path = false) :
    (rule.visit scratch path d').report = (rule.visit scratch path d).report ∧
    (rule.visit scratch path d').error = (rule.visit scratch path d).error ∧
    ((rule.visit scratch path d).error ≠ none → (rule.visit scratch path d').disk = d') ∧
    d.Gathers (before ++ [path]) (fun p => (rule.run scratch [p] d).disk)
      (rule.visit scratch path d').disk := by
  have halone : (rule.run scratch [path] d).disk = (rule.visit scratch path d).disk := by
    rw [run_singleton rule scratch hplain.1]
  obtain ⟨hreport, herror, ⟨hd, hd'⟩ | ⟨hok, f, content, mode, content', mode', hresolve, hd, hd'⟩⟩ :=
    visit_of_sameTree rule scratch h.sameTree hplain.2 fun l => h.get?_eq_of_not_sameFile hpath
  · rw [hd']
    exact ⟨hreport, herror, fun _ => rfl, h.concat_of_eq hpath (halone.trans hd)⟩
  · rw [hd']
    exact ⟨hreport, herror, fun hfails => absurd hok hfails,
      h.concat_of_put hpath hresolve (halone.trans hd)⟩

section Batch

variable {paths before : List Text}

/-- A batch of files none of which fails alone does to each what is done to it alone. -/
theorem run_of_forall_error_eq_none
    (hplain : ∀ p ∈ paths, d.isDirectory p = false ∧ d.isLink p = false)
    (hdistinct : paths.Pairwise fun p q => ¬ d.SameFile p q)
    (hok : ∀ p ∈ paths, (rule.run scratch [p] d).error = none) :
    (rule.run scratch paths d).error = none ∧
    (rule.run scratch paths d).report.diagnostics =
      paths.flatMap (fun p => (rule.run scratch [p] d).report.diagnostics) ∧
    (rule.run scratch paths d).report.failed =
      paths.any (fun p => (rule.run scratch [p] d).report.failed) ∧
    d.Gathers paths (fun p => (rule.run scratch [p] d).disk) (rule.run scratch paths d).disk := by
  rw [run_eq_runFiles fun p hp => (hplain p hp).1]
  -- By the last file: the disk that it is visited on is `d` but for the files in front of it.
  induction paths using List.reverseRecOn with
  | nil => exact ⟨rfl, rfl, rfl, .nil d _⟩
  | append_singleton before path ih =>
    obtain ⟨hbefore, -, hpath⟩ := List.pairwise_append.mp hdistinct
    have hlast : path ∈ before ++ [path] := by simp
    have hok' := hok path hlast
    obtain ⟨herror, hdiagnostics, hfailed, hgathers⟩ :=
      ih (fun p hp => hplain p (List.mem_append_left _ hp)) hbefore
        (fun p hp => hok p (List.mem_append_left _ hp))
    obtain ⟨hreport, herror', -, hgathers'⟩ :=
      visit_of_gathers hgathers (fun q hq => hpath q hq path (by simp)) (hplain path hlast)
    rw [run_singleton rule scratch (hplain path hlast).1, Option.map_eq_none_iff, ← herror'] at hok'
    rw [runFiles_append herror, runFiles_cons_of_ok hok', hreport, List.flatMap_append,
      List.any_append, List.flatMap_singleton, List.any_cons, List.any_nil, Bool.or_false,
      run_singleton rule scratch (hplain path hlast).1, ← hdiagnostics, ← hfailed]
    exact ⟨rfl, rfl, rfl, hgathers'⟩

/-- A batch ends with the first file that fails alone, and leaves that file. -/
theorem run_of_error {rest : List Text} {e : FileError}
    (hplain : ∀ p ∈ before ++ path :: rest, d.isDirectory p = false ∧ d.isLink p = false)
    (hdistinct : (before ++ path :: rest).Pairwise fun p q => ¬ d.SameFile p q)
    (hok : ∀ p ∈ before, (rule.run scratch [p] d).error = none)
    (herr : (rule.run scratch [path] d).error = some e) :
    (rule.run scratch (before ++ path :: rest) d).error = some e ∧
    e.path = path ∧ (rule.visit scratch path d).error = some e.cause ∧
    (rule.run scratch (before ++ path :: rest) d).report.diagnostics =
      before.flatMap (fun p => (rule.run scratch [p] d).report.diagnostics) ∧
    (rule.run scratch (before ++ path :: rest) d).report.failed =
      (before ++ [path]).any (fun p => (rule.run scratch [p] d).report.failed) ∧
    d.Gathers before (fun p => (rule.run scratch [p] d).disk)
      (rule.run scratch (before ++ path :: rest) d).disk := by
  obtain ⟨hbefore, -, hpath⟩ := List.pairwise_append.mp hdistinct
  have hfiles : ∀ p ∈ before, d.isDirectory p = false ∧ d.isLink p = false :=
    fun p hp => hplain p (List.mem_append_left _ hp)
  have hfile := hplain path (by simp)
  obtain ⟨herror, hdiagnostics, hfailed, hgathers⟩ :=
    run_of_forall_error_eq_none hfiles hbefore hok
  rw [run_eq_runFiles fun p hp => (hfiles p hp).1] at herror hdiagnostics hfailed hgathers
  obtain ⟨hreport, herror', hdisk, -⟩ :=
    visit_of_gathers hgathers (fun q hq => hpath q hq path List.mem_cons_self) hfile
  rw [run_singleton rule scratch hfile.1] at herr
  obtain ⟨cause, hcause, rfl⟩ := Option.map_eq_some_iff.mp herr
  have hfails : (rule.visit scratch path d).error ≠ none := by simp [hcause]
  rw [run_eq_runFiles fun p hp => (hplain p hp).1, runFiles_append herror,
    runFiles_cons_of_error (herror'.trans hcause), hreport, hdisk hfails, Report.diagnostics_append,
    diagnostics_visit_of_error hfails, List.append_nil, Report.failed_append, List.any_append,
    List.any_cons, List.any_nil, Bool.or_false, run_singleton rule scratch hfile.1]
  exact ⟨rfl, rfl, hcause, hdiagnostics, by rw [hfailed], hgathers⟩

end Batch

/-- A batch of files that are no directories and no links, and no two of which are the same, does to
each what is done to it alone. If none fails alone the batch does not either; its diagnostics are
theirs, in the order of the files, it fails if one of them does, and each file is as it is alone.
Another order changes the order of the diagnostics and nothing else. If there is a first file that
fails alone the batch fails with its error; the diagnostics and the files in front of it are as they
are alone, and that file and all others are as they were. -/
theorem run_independent (rule : Rule) (scratch : Text) (d : Disk) (paths : List Text)
    (hplain : ∀ p ∈ paths, d.isDirectory p = false ∧ d.isLink p = false)
    (hdistinct : paths.Pairwise fun p q => ¬ d.SameFile p q) :
    let alone := fun p => rule.run scratch [p] d
    let batch := rule.run scratch paths d
    ((∀ p ∈ paths, (alone p).error = none) →
      batch.error = none ∧
      batch.report.diagnostics = paths.flatMap (fun p => (alone p).report.diagnostics) ∧
      batch.report.failed = paths.any (fun p => (alone p).report.failed) ∧
      d.Gathers paths (fun p => (alone p).disk) batch.disk ∧
      ∀ paths', paths'.Perm paths →
        let batch' := rule.run scratch paths' d
        batch'.error = none ∧
        batch'.report.diagnostics.Perm batch.report.diagnostics ∧
        batch'.report.failed = batch.report.failed ∧
        ∀ l, batch'.disk.get? l = batch.disk.get? l) ∧
    (∀ before path rest e, paths = before ++ path :: rest →
      (∀ p ∈ before, (alone p).error = none) → (alone path).error = some e →
        batch.error = some e ∧
        e.path = path ∧ (rule.visit scratch path d).error = some e.cause ∧
        e.message = path ++ ": " ++ e.cause.message ∧
        batch.report.diagnostics = before.flatMap (fun p => (alone p).report.diagnostics) ∧
        batch.report.failed = (before ++ [path]).any (fun p => (alone p).report.failed) ∧
        d.Gathers before (fun p => (alone p).disk) batch.disk ∧
        ∀ p ∈ path :: rest, ∀ l, d.fileAt? p = some l → batch.disk.get? l = d.get? l) := by
  intro alone batch
  constructor
  · intro hok
    obtain ⟨herror, hdiagnostics, hfailed, hgathers⟩ :=
      run_of_forall_error_eq_none hplain hdistinct hok
    refine ⟨herror, hdiagnostics, hfailed, hgathers, fun paths' hperm => ?_⟩
    have hmem : ∀ p, p ∈ paths' ↔ p ∈ paths := fun p => hperm.mem_iff
    have hsymm : ∀ {p q}, ¬ d.SameFile p q → ¬ d.SameFile q p :=
      fun h ⟨l, hq, hp⟩ => h ⟨l, hp, hq⟩
    have hok' : ∀ p ∈ paths', (rule.run scratch [p] d).error = none :=
      fun p hp => hok p ((hmem p).mp hp)
    obtain ⟨herror', hdiagnostics', hfailed', hgathers'⟩ :=
      run_of_forall_error_eq_none (fun p hp => hplain p ((hmem p).mp hp))
        ((hperm.pairwise_iff hsymm).mpr hdistinct) hok'
    refine ⟨herror', ?_, ?_, hgathers.get?_eq_of_perm hgathers' hperm⟩
    · rw [hdiagnostics']
      exact (hperm.flatMap_right _).trans (.of_eq hdiagnostics.symm)
    · rw [hfailed', hperm.any_eq]
      exact hfailed.symm
  · rintro before path rest e rfl hok herr
    obtain ⟨herror, hpath, hcause, hdiagnostics, hfailed, hgathers⟩ :=
      run_of_error hplain hdistinct hok herr
    refine ⟨herror, hpath, hcause, hpath ▸ rfl, hdiagnostics, hfailed, hgathers, ?_⟩
    intro p hp l hl
    exact hgathers.get?_eq_of_not_sameFile
      (fun q hq => (List.pairwise_append.mp hdistinct).2.2 q hq p hp) hl

/-- A disk with two catalogues that have metadata, and a scratch directory. -/
def twoCatalogues : Disk :=
  { entries := [(["t".toList], .directory 0o755),
      (["a.po".toList], .file (.text "msgid \"\"\nmsgstr \"\"\n\"A: b\"\n") 0o644),
      (["b.po".toList], .file (.text "msgid \"\"\nmsgstr \"\"\n\"C: d\"\n") 0o600)] }

/-- The metadata of one catalogue is removed, a file is missing, and the other catalogue stays. -/
theorem run_independent_missing :
    let removed := (metadata .removal).run "/t" ["./a.po"] twoCatalogues
    let batch := (metadata .removal).run "/t" ["./a.po", "c.po", "b.po"] twoCatalogues
    batch.error = some { path := "c.po", cause := .notFound } ∧
    batch.report.diagnostics = removed.report.diagnostics ∧ batch.report.failed = true ∧
    batch.disk.get? ["a.po".toList] = removed.disk.get? ["a.po".toList] ∧
    batch.disk.get? ["b.po".toList] = twoCatalogues.get? ["b.po".toList] := by
  intro removed batch
  obtain ⟨-, hfails⟩ := run_independent (metadata .removal) "/t" twoCatalogues
    ["./a.po", "c.po", "b.po"] (by decide) (by decide)
  obtain ⟨herror, -, -, -, hdiagnostics, hfailed, hgathers, hothers⟩ :=
    hfails ["./a.po"] "c.po" ["b.po"] { path := "c.po", cause := .notFound } rfl (by decide)
      (by decide)
  refine ⟨herror, hdiagnostics.trans (List.append_nil _), hfailed.trans (by decide), ?_, ?_⟩
  · exact hgathers.file "./a.po" (by simp) _ (by decide)
  · exact hothers "b.po" (by simp) _ (by decide)

end CatalogLint.Rule
