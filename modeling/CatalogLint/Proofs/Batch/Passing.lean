import CatalogLint.Command.Program
import CatalogLint.Proofs.Batch.DryRun
import CatalogLint.Proofs.Batch.Sequence
import CatalogLint.Proofs.Disk.Links
import Mathlib.Data.List.Induction

/-!
# What passes is left as it is

A catalogue that passes is not written, or written as it was read. So a batch that passes changes
nothing, unless it is one of the rule on comments that writes: that puts a file over each link that
one of its paths names, if the scratch directory is on the volume of the link (`Rule.Passed`). The
file has the content and the mode of what the link led to, and all paths lead where they led
(`Program.perform_passing`).

Where the system refuses the rename over a link, the link stays and the file that it leads to is
written as it was read. The process here is refused nothing, so that each such link on the volume of
the scratch directory is overwritten.
-/

namespace CatalogLint

namespace Rule

variable {rule : Rule} {scratch path : Text} {d d' : Disk} {before paths : List Text}

/-! ## One catalogue -/

/-- A visit neither fails nor finds a failure. -/
def Passes (rule : Rule) (scratch path : Text) (d : Disk) : Prop :=
  (rule.visit scratch path d).error = none ∧ (rule.visit scratch path d).report.failed = false

/-- Any rule but the one on comments that writes leaves what passes alone. -/
theorem disk_visit_of_passes (hrule : ∀ start, rule ≠ comments start false)
    (h : rule.Passes scratch path d) : (rule.visit scratch path d).disk = d := by
  obtain ⟨hok, hpass⟩ := h
  cases hread : d.read path with
  | error cause => simp only [visit, hread]
  | ok t =>
    simp only [visit, hread] at hok hpass ⊢
    rcases inspect_cases rule t.lines with ⟨findings, hi⟩ | ⟨b, -, -, hi⟩ | ⟨start, dryRun, rfl⟩
    · rw [apply_of_rewrite_none (by rw [hi]; rfl)]
    · -- The removal of metadata is reported once it is written.
      rw [apply_report hok, hi] at hpass
      cases hpass
    · cases dryRun with
      | true => rw [apply_of_rewrite_none rfl]
      | false => exact absurd rfl (hrule start)

/-- A catalogue that passes is written as it was read. -/
theorem replace_of_passes {s : CommentStart} (h : (comments s false).Passes scratch path d) :
    ∃ f t mode, d.resolve path = .ok (.file f (.text t) mode) ∧
      (d.replace scratch path t).error = none ∧
      ((comments s false).visit scratch path d).disk = (d.replace scratch path t).disk := by
  obtain ⟨hok, hpass⟩ := h
  cases hread : d.read path with
  | error cause =>
    simp only [visit, hread] at hok
    cases hok
  | ok t =>
    obtain ⟨f, mode, hresolve⟩ := Disk.read_eq_ok_iff.mp hread
    simp only [visit, hread] at hok hpass ⊢
    have hsame : (s.replaceLines t.lines).flatten = t := by
      rw [CommentStart.report_apply_writing] at hpass
      by_contra hne
      have hfailed : (s.inspect false t.lines).failed = true :=
        CommentStart.failed_inspect_lines_iff.mpr hne
      rw [Report.failIf, hfailed] at hpass
      cases hpass
    have hrewrite : ((comments s false).inspect t.lines).rewrite =
        some { lines := s.replaceLines t.lines } := rfl
    unfold apply at hok ⊢
    simp only [hrewrite, hsame] at hok ⊢
    cases herror : (d.replace scratch path t).error with
    | some e => simp [herror] at hok
    | none => exact ⟨f, t, mode, hresolve, herror, rfl⟩

/-! ## A batch -/

/-- What each visit that passes keeps, a batch that passes keeps. -/
theorem passing_induction {P : List Text → Disk → Prop} (hstart : P [] d)
    (hvisit : ∀ before path d', P before d' → rule.Passes scratch path d' →
      P (before ++ [path]) (rule.visit scratch path d').disk)
    (hok : (rule.runFiles scratch d {} paths).error = none)
    (hpass : (rule.runFiles scratch d {} paths).report.failed = false) :
    P paths (rule.runFiles scratch d {} paths).disk := by
  induction paths using List.reverseRecOn with
  | nil => exact hstart
  | append_singleton before path ih =>
    have hbefore : (rule.runFiles scratch d {} before).error = none := by
      by_contra hfails
      rw [runFiles_append_of_error hfails] at hok
      exact hfails hok
    rw [runFiles_append hbefore] at hok hpass ⊢
    cases hlast : (rule.visit scratch path (rule.runFiles scratch d {} before).disk).error with
    | some cause =>
      rw [runFiles_cons_of_error hlast] at hok
      cases hok
    | none =>
      rw [runFiles_cons_of_ok hlast] at hpass ⊢
      obtain ⟨hfirst, hrest⟩ := Bool.or_eq_false_iff.mp hpass
      exact hvisit before path _ (ih hbefore hfirst) ⟨hlast, hrest⟩

/-- What a batch that passes leaves of a disk, where the rule on comments writes. -/
structure Passed (d : Disk) (scratch : Text) (files : List Text) (d' : Disk) : Prop where
  unlinked : d.Unlinked d'
  /-- What changes is named. -/
  named : ∀ l, d'.get? l ≠ d.get? l → ∃ p ∈ files, d.place? p = some l
  unchanged : (∀ p ∈ files, d.isLink p = false) → d' = d
  /-- Where volumes are mounted on what is there, the links that change are those that are named
  and on the volume of the scratch directory. -/
  changed_iff : (∀ m ∈ d.mounts, d.get? m ≠ none) → ∀ directory,
    d.scratchDirectory scratch = .ok directory → ∀ l target, d.get? l = some (.link target) →
    (d'.get? l ≠ d.get? l ↔ ∃ p ∈ files, d.place? p = some l ∧ d.volume directory = d.volume l)

namespace Passed

theorem nil (d : Disk) (scratch : Text) : Passed d scratch [] d where
  unlinked := .refl d
  named := fun _ hne => absurd rfl hne
  unchanged := fun _ => rfl
  changed_iff := by simp

/-- A file that is written as it was read and is no link, or one on another volume. -/
theorem concat_same (h : Passed d scratch before d') {directory : Location}
    (hscratch : d'.scratchDirectory scratch = .ok directory)
    (hfar : ∀ x target, d'.place? path = some x → d'.get? x = some (.link target) →
      d'.volume (d'.temporaryLocation directory path) ≠ d'.volume x) :
    Passed d scratch (before ++ [path]) d' where
  unlinked := h.unlinked
  named := by
    intro l hne
    obtain ⟨p, hp, hplace⟩ := h.named l hne
    exact ⟨p, List.mem_append_left _ hp, hplace⟩
  unchanged := fun hlinks => h.unchanged fun p hp => hlinks p (List.mem_append_left _ hp)
  changed_iff := by
    intro hmounts directory' hscratch' l target hl
    obtain rfl : directory' = directory :=
      Except.ok.inj (hscratch'.symm.trans (h.unlinked.scratchDirectory_iff.mp hscratch))
    constructor
    · intro hne
      obtain ⟨p, hp, hplace⟩ := (h.changed_iff hmounts _ hscratch' l target hl).mp hne
      exact ⟨p, List.mem_append_left _ hp, hplace⟩
    · rintro ⟨p, hp, hplace, hvolume⟩ heq
      rcases List.mem_append.mp hp with hp | hp
      · exact (h.changed_iff hmounts _ hscratch' l target hl).mpr ⟨p, hp, hplace, hvolume⟩ heq
      · obtain rfl := List.mem_singleton.mp hp
        refine hfar l target ((h.unlinked.place?_eq p).trans hplace) (heq.trans hl) ?_
        rw [Disk.volume_temporaryLocation (h.unlinked.mounted hmounts), h.unlinked.volume_eq,
          h.unlinked.volume_eq, hvolume]

/-- A link that becomes a file. -/
theorem concat_put (h : Passed d scratch before d') {directory f x : Location}
    {content : Content} {mode : Nat} {target : Text}
    (hresolve : d'.resolve path = .ok (.file f content mode))
    (hscratch : d'.scratchDirectory scratch = .ok directory)
    (hplace : d'.place? path = some x) (hx : d'.get? x = some (.link target))
    (hnear : d'.volume (d'.temporaryLocation directory path) = d'.volume x) :
    Passed d scratch (before ++ [path]) (d'.put x (.file content mode)) where
  unlinked := h.unlinked.put hx (Disk.leadsTo_of_place? hresolve hplace)
  named := by
    intro l hne
    by_cases hl : l = x
    · exact ⟨path, by simp, by rw [← h.unlinked.place?_eq, hplace, hl]⟩
    · rw [Disk.get?_put_of_ne hl] at hne
      obtain ⟨p, hp, hplace⟩ := h.named l hne
      exact ⟨p, List.mem_append_left _ hp, hplace⟩
  unchanged := by
    intro hlinks
    have hlink : d.isLink path = true := Disk.isLink_eq_true_iff.mpr
      ⟨x, target, (h.unlinked.place?_eq path).symm.trans hplace, h.unlinked.link_of_link hx⟩
    rw [hlinks path (by simp)] at hlink
    cases hlink
  changed_iff := by
    intro hmounts directory' hscratch' l target' hl
    obtain rfl : directory' = directory :=
      Except.ok.inj (hscratch'.symm.trans (h.unlinked.scratchDirectory_iff.mp hscratch))
    by_cases hlx : l = x
    · rw [hlx] at hl ⊢
      have hne : x ≠ [] := by
        rintro rfl
        cases hx
      rw [Disk.get?_put_self hne, hl]
      refine iff_of_true nofun ⟨path, by simp, (h.unlinked.place?_eq path).symm.trans hplace, ?_⟩
      rw [← h.unlinked.volume_eq, ← h.unlinked.volume_eq, ← hnear,
        Disk.volume_temporaryLocation (h.unlinked.mounted hmounts)]
    · rw [Disk.get?_put_of_ne hlx, h.changed_iff hmounts _ hscratch' l target' hl]
      constructor
      · rintro ⟨p, hp, hplace⟩
        exact ⟨p, List.mem_append_left _ hp, hplace⟩
      · rintro ⟨p, hp, hpl, hvolume⟩
        rcases List.mem_append.mp hp with hp | hp
        · exact ⟨p, hp, hpl, hvolume⟩
        · obtain rfl := List.mem_singleton.mp hp
          rw [← h.unlinked.place?_eq, hplace] at hpl
          exact absurd (Option.some.inj hpl).symm hlx

theorem visit (h : Passed d scratch before d') {s : CommentStart}
    (hpass : (comments s false).Passes scratch path d') :
    Passed d scratch (before ++ [path]) ((comments s false).visit scratch path d').disk := by
  obtain ⟨f, t, mode, hresolve, hok, hdisk⟩ := replace_of_passes hpass
  obtain ⟨directory, hscratch, ⟨hsame, hfar⟩ | ⟨x, target, hplace, hx, hnear, hput⟩⟩ :=
    Disk.replace_self_cases hresolve hok
  · rw [hdisk, hsame]
    exact h.concat_same hscratch hfar
  · rw [hdisk, hput]
    exact h.concat_put hresolve hscratch hplace hx hnear

end Passed

theorem disk_run_of_pass (hrule : ∀ start, rule ≠ comments start false)
    (hok : (rule.run scratch paths d).error = none)
    (hpass : (rule.run scratch paths d).report.failed = false) :
    (rule.run scratch paths d).disk = d := by
  refine passing_induction (P := fun _ d' => d' = d) rfl ?_ hok hpass
  rintro before path d' rfl hvisit
  exact disk_visit_of_passes hrule hvisit

theorem passed_run {s : CommentStart} (hok : ((comments s false).run scratch paths d).error = none)
    (hpass : ((comments s false).run scratch paths d).report.failed = false) :
    Passed d scratch (d.find paths) ((comments s false).run scratch paths d).disk :=
  passing_induction (.nil d scratch) (fun _ _ _ h hvisit => h.visit hvisit) hok hpass

end Rule

/-! ## The program -/

/-- An invocation asks for comments to be replaced, and not in a dry run. -/
def Invocation.RewritesComments (i : Invocation) : Prop :=
  ∃ quiet options, i.task = .check quiet (.comments options) ∧ options.dryRun = false

/-- Only the options of the rule on comments make that rule. -/
theorem RuleOptions.eq_comments_of_rule {options : RuleOptions} {start : CommentStart}
    {dryRun : Bool} (h : options.rule = .ok (.comments start dryRun)) :
    ∃ o, options = .comments o ∧ o.dryRun = dryRun := by
  cases options with
  | obsolete => cases h
  | fuzzy => cases h
  | untranslated minimum =>
    cases minimum with
    | none => cases h
    | some text =>
      rw [rule] at h
      cases hr : requirement text with
      | error e =>
        rw [hr] at h
        cases h
      | ok r =>
        rw [hr] at h
        cases h
  | entries limits =>
    rw [rule] at h
    split at h
    · cases h
    · cases h
  | metadata options =>
    rw [rule] at h
    cases hd : options.demand with
    | error e =>
      rw [hd] at h
      cases h
    | ok demand =>
      rw [hd] at h
      cases h
  | comments o =>
    rw [rule] at h
    split at h
    · cases h
      exact ⟨o, rfl, rfl⟩
    · cases h

namespace Program

variable {env : Environment} {i : Invocation} {d : Disk}

theorem exitCode_ofRun_eq_zero_iff {colours quiet : Bool} {format : OutputFormat} {r : Run} :
    (ofRun colours quiet format r).exitCode = 0 ↔ r.error = none ∧ r.report.failed = false := by
  have hexit : (ofRun colours quiet format r).exitCode =
    if r.error.isSome then 2 else if r.report.failed then 1 else 0 := rfl
  rw [hexit]
  cases r.error with
  | some e => simp
  | none => cases r.report.failed with
    | true => simp
    | false => simp

theorem disk_statistics (colours : Bool) (format : OutputFormat) (files : List Text) (d : Disk) :
    (statistics colours format files d).disk = d := by
  unfold statistics
  dsimp only
  split
  · rfl
  · rfl

/-- What passes is left alone, or comments were to be replaced. -/
theorem perform_passing_cases (hexit : (perform env i d).exitCode = 0) :
    ¬ i.RewritesComments ∧ (perform env i d).disk = d ∨
      i.RewritesComments ∧
        Rule.Passed d (scratchFor env i) (d.find i.files) (perform env i d).disk := by
  unfold perform at hexit ⊢
  cases htask : i.task with
  | stats =>
    refine Or.inl ⟨?_, disk_statistics ..⟩
    rintro ⟨quiet, options, hcomments, -⟩
    rw [htask] at hcomments
    cases hcomments
  | check quiet options =>
    simp only [htask] at hexit ⊢
    cases hrule : options.rule with
    | error e =>
      rw [hrule] at hexit
      cases hexit
    | ok rule =>
      simp only [hrule, exitCode_withWarnings, disk_withWarnings] at hexit ⊢
      obtain ⟨hok, hpass⟩ := exitCode_ofRun_eq_zero_iff.mp hexit
      by_cases hwrites : ∃ start, rule = .comments start false
      · obtain ⟨start, rfl⟩ := hwrites
        obtain ⟨o, rfl, hdry⟩ := RuleOptions.eq_comments_of_rule hrule
        exact Or.inr ⟨⟨quiet, o, htask, hdry⟩, Rule.passed_run hok hpass⟩
      · refine Or.inl ⟨?_, Rule.disk_run_of_pass (fun start h => hwrites ⟨start, h⟩) hok hpass⟩
        rintro ⟨quiet', o, hcomments, hdry⟩
        rw [htask] at hcomments
        cases hcomments
        rw [RuleOptions.rule] at hrule
        split at hrule
        · cases hrule
          exact hwrites ⟨_, by rw [hdry]⟩
        · cases hrule

/-- After a command that exits with 0 the disk is as it was, unless the command replaced comments
and one of its paths names a link. Such a link can have become a file, with the content and the mode
of the file that it led to; it has become one if the scratch directory is on its volume, and else it
is as it was. Whatever led somewhere leads to the same directory, or to a file with the same content
and mode. -/
theorem perform_passing (env : Environment) (i : Invocation) (d : Disk)
    (hexit : (perform env i d).exitCode = 0) :
    let after := (perform env i d).disk
    let files := d.find i.files
    (¬ i.RewritesComments → after = d) ∧
    ((∀ p ∈ files, d.isLink p = false) → after = d) ∧
    (∀ l, after.get? l = d.get? l ∨
      ∃ p ∈ files, ∃ target content mode, d.place? p = some l ∧
        d.get? l = some (.link target) ∧ d.LeadsTo l content mode ∧
        after.get? l = some (.file content mode)) ∧
    (∀ path t, d.resolve path = .ok t →
      after.resolve path = .ok t ∨
        ∃ f f' content mode, t = .file f content mode ∧
          after.resolve path = .ok (.file f' content mode)) ∧
    (i.RewritesComments → (∀ m ∈ d.mounts, d.get? m ≠ none) →
      ∀ directory, d.scratchDirectory (scratchFor env i) = .ok directory →
      ∀ l target, d.get? l = some (.link target) →
        (after.get? l ≠ d.get? l ↔
          ∃ p ∈ files, d.place? p = some l ∧ d.volume directory = d.volume l)) := by
  intro after files
  rcases perform_passing_cases hexit with ⟨hnot, hsame⟩ | ⟨hwrites, hpassed⟩
  · have hafter : after = d := hsame
    rw [hafter]
    exact ⟨fun _ => rfl, fun _ => rfl, fun _ => Or.inl rfl, fun _ _ h => Or.inl h,
      fun h => absurd h hnot⟩
  · refine ⟨fun h => absurd hwrites h, hpassed.unchanged, fun l => ?_,
      fun _ _ => hpassed.unlinked.resolve, fun _ => hpassed.changed_iff⟩
    rcases hpassed.unlinked.get?_cases l with heq | ⟨target, content, mode, hl, hleads, hget⟩
    · exact Or.inl heq
    · obtain ⟨p, hp, hplace⟩ := hpassed.named l (by rw [hget, hl]; nofun)
      exact Or.inr ⟨p, hp, target, content, mode, hplace, hl, hleads, hget⟩

/-- A catalogue without such comments, a link to it and a scratch directory. -/
def besideLink : Disk :=
  { entries := [(["t".toList], .directory 0o755),
      (["a.po".toList], .file (.text "#. a\nmsgid \"b\"\n") 0o640),
      (["x.po".toList], .link "a.po")] }

/-- The address of translators is to be removed from what the link leads to. -/
def throughLink : Invocation :=
  { command := .comments
    task := .check false (.comments { translators := true })
    files := ["x.po", "a.po", "./x.po"]
    output := .human
    scratch := some "/t"
    scratchTwice := false }

/-- The link is no link any more, and leads to what it led to. -/
theorem perform_passing_throughLink :
    (perform {} throughLink besideLink).disk.get? ["x.po".toList] ≠
        besideLink.get? ["x.po".toList] ∧
      ∃ f, (perform {} throughLink besideLink).disk.resolve "x.po" =
        .ok (.file f (.text "#. a\nmsgid \"b\"\n") 0o640) := by
  obtain ⟨-, -, -, hresolve, hchanged⟩ :=
    perform_passing {} throughLink besideLink (by decide)
  constructor
  · exact (hchanged ⟨false, _, rfl, rfl⟩ (by decide) ["t".toList] (by decide) _ "a.po" rfl).mpr
      ⟨"x.po", by decide, by decide, by decide⟩
  · rcases hresolve "x.po" (.file ["a.po".toList] (.text "#. a\nmsgid \"b\"\n") 0o640)
        (by decide) with hsame | ⟨f, f', content, mode, heq, hfile⟩
    · exact ⟨_, hsame⟩
    · cases heq
      exact ⟨f', hfile⟩

/-- Not all that a command leaves that exits with 0 is as it was. -/
theorem exists_passing_change :
    ∃ (env : Environment) (i : Invocation) (d : Disk) (l : Location),
      (perform env i d).exitCode = 0 ∧ (perform env i d).disk.get? l ≠ d.get? l :=
  ⟨{}, throughLink, besideLink, ["x.po".toList], by decide, by decide⟩

end Program

end CatalogLint
