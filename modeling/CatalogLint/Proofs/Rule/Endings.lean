import CatalogLint.Proofs.Batch.Contents
import CatalogLint.Proofs.Catalog.Endings
import CatalogLint.Proofs.Rule.Alike
import CatalogLint.Proofs.Rule.Rewrite

/-!
# Rules and line endings

A rule does not see how the lines of a catalogue end: applied to their bodies it finds the same
and rewrites them to the bodies of what it rewrites the lines to (`Rule.inspect_map_body`). The
lines that it writes end as lines do (`Rule.endsWell_linesAfter`). So two catalogues that differ
in the endings of their lines get the same findings and the same verdict, and are rewritten to
catalogues that differ in the endings of their lines (`Rule.inspect_of_sameBody`).

The rule on extracted comments must not take or put a line break for that.
-/

namespace CatalogLint

open Text (body)

namespace Inspection

/-- An inspection with a function applied to each line of its rewrite. -/
def mapLines (f : Text → Text) (i : Inspection) : Inspection :=
  { i with rewrite := i.rewrite.map fun new => { new with lines := new.lines.map f } }

@[simp] theorem failed_mapLines (f : Text → Text) (i : Inspection) :
    (i.mapLines f).failed = i.failed := rfl

@[simp] theorem findings_mapLines (f : Text → Text) (i : Inspection) :
    (i.mapLines f).findings = i.findings := rfl

@[simp] theorem pending_mapLines (f : Text → Text) (i : Inspection) :
    (i.mapLines f).pending = i.pending := by
  rw [pending, mapLines, Option.map_map]
  rfl

@[simp] theorem reported_mapLines (f : Text → Text) (i : Inspection) :
    (i.mapLines f).reported = i.reported := by
  rw [reported, findings_mapLines, pending_mapLines, reported]

@[simp] theorem fails_mapLines (f : Text → Text) (i : Inspection) :
    (i.mapLines f).fails = i.fails := by
  rw [fails, failed_mapLines, pending_mapLines, fails]

theorem linesAfter_mapLines (f : Text → Text) (i : Inspection) (lines : List Text) :
    (i.mapLines f).linesAfter (lines.map f) = (i.linesAfter lines).map f := by
  rw [linesAfter, mapLines, linesAfter]
  cases i.rewrite with
  | none => rfl
  | some new => rfl

end Inspection

/-! ## Extracted comments -/

namespace CommentStart

variable {s : CommentStart}

/-- No line break is taken or put. -/
def Unbroken : CommentStart → Prop
  | literal mark replacement => Text.Unbroken mark ∧ Text.Unbroken replacement
  | translators => True

theorem Takes.unbroken {m : Text} (h : s.Takes m) (hs : s.Unbroken) : Text.Unbroken m := by
  cases s with
  | literal mark replacement =>
    rw [show m = mark from h]
    exact hs.1
  | translators =>
    obtain ⟨c, -, hlf, hcr, rfl⟩ := h
    refine Text.unbroken_append.mpr ⟨by decide, Text.unbroken_cons.mpr ⟨?_, rfl⟩⟩
    simp [Text.isBreak, hlf, hcr]

theorem Unbroken.substitute (hs : s.Unbroken) : Text.Unbroken s.substitute := by
  cases s with
  | literal mark replacement => exact hs.2
  | translators => rfl

theorem Unbroken.keepsLines (hs : s.Unbroken) : s.KeepsLines := by
  have hlf : ∀ t : Text, Text.Unbroken t → '\n' ∉ t := fun t ht hmem => by
    have := List.any_eq_false.mp ht '\n' hmem
    exact absurd rfl this
  cases s with
  | literal mark replacement => exact ⟨hlf mark hs.1, hlf replacement hs.2⟩
  | translators => trivial

/-- The body of a line is replaced by the body of what the line is replaced by. -/
theorem Unbroken.replaceLine?_body (hs : s.Unbroken) (line : Text) :
    s.replaceLine? (body line) = (s.replaceLine? line).map body := by
  cases h : s.replaceLine? line with
  | none =>
    rw [replaceLine?_eq_none_iff] at h
    rw [Option.map_none, replaceLine?_eq_none_iff]
    rintro ⟨m, hm, hprefix⟩
    exact h ⟨m, hm, hprefix.trans (Text.isPrefix_body line)⟩
  | some new =>
    obtain ⟨m, rest, hm, rfl, rfl⟩ := replaceLine?_eq_some_iff.mp h
    have hmark : Text.Unbroken Line.extractedCommentMark := by decide
    rw [Option.map_some, replaceLine?_eq_some_iff, Text.body_append hmark,
      Text.body_append (hm.unbroken hs), Text.body_append hmark, Text.body_append hs.substitute]
    exact ⟨m, body rest, hm, rfl, rfl⟩

theorem Unbroken.bears_body_iff (hs : s.Unbroken) {line : Text} :
    s.Bears (body line) ↔ s.Bears line := by
  rw [← not_iff_not, ← replaceLine?_eq_none_iff, ← replaceLine?_eq_none_iff, hs.replaceLine?_body,
    Option.map_eq_none_iff]

theorem Unbroken.replaceLines_map_body (hs : s.Unbroken) (lines : List Text) :
    s.replaceLines (lines.map body) = (s.replaceLines lines).map body := by
  rw [replaceLines, replaceLines, List.map_map, List.map_map]
  refine List.map_congr_left fun line _ => ?_
  rw [Function.comp_apply, Function.comp_apply, hs.replaceLine?_body, Option.getD_map]

theorem Unbroken.replaceLines_map_body_eq_iff (hs : s.Unbroken) {lines : List Text} :
    s.replaceLines (lines.map body) = lines.map body ↔ s.replaceLines lines = lines := by
  rw [replaceLines_eq_self_iff, replaceLines_eq_self_iff, List.forall_mem_map]
  simp only [hs.bears_body_iff]

theorem Unbroken.occurrences_map_body (hs : s.Unbroken) (lines : List Text) :
    s.occurrences (lines.map body) = s.occurrences lines := by
  rw [occurrences, numbersWhere_map, occurrences]
  refine congrArg (numbersWhere · 1 lines) (funext fun line => ?_)
  rw [Function.comp_apply, hs.replaceLine?_body, Option.isSome_map]

theorem Unbroken.inspect_map_body (hs : s.Unbroken) (dryRun : Bool) (lines : List Text) :
    s.inspect dryRun (lines.map body) = (s.inspect dryRun lines).mapLines body := by
  have hfailed : (s.replaceLines (lines.map body) != lines.map body) =
      (s.replaceLines lines != lines) := by
    rw [Bool.eq_iff_iff, bne_iff_ne, bne_iff_ne, Ne, Ne, hs.replaceLines_map_body_eq_iff]
  rw [inspect, inspect, hfailed, hs.occurrences_map_body, hs.replaceLines_map_body]
  cases dryRun with
  | false => rfl
  | true => rfl

/-- A replaced line ends as it did. -/
theorem Unbroken.endsWell_getD (hs : s.Unbroken) {line : Text} (h : Text.EndsWell line) :
    Text.EndsWell ((s.replaceLine? line).getD line) := by
  cases hline : s.replaceLine? line with
  | none => exact h
  | some new =>
    obtain ⟨m, rest, hm, rfl, rfl⟩ := replaceLine?_eq_some_iff.mp hline
    have hmark : Text.Unbroken Line.extractedCommentMark := by decide
    rw [Text.endsWell_append_iff hmark, Text.endsWell_append_iff (hm.unbroken hs)] at h
    rw [Option.getD_some, Text.endsWell_append_iff hmark, Text.endsWell_append_iff hs.substitute]
    exact h

end CommentStart

/-! ## Metadata -/

namespace MetadataDemand

theorem inspect_map_body (demand : MetadataDemand) (lines : List Text) :
    demand.inspect (lines.map body) = (demand.inspect lines).mapLines body := by
  unfold inspect
  rw [Metadata.locate_alike Line.alike_body]
  cases Metadata.locate lines with
  | noHeader => cases demand <;> rfl
  | empty header => cases demand <;> rfl
  | block b =>
    cases demand with
    | fields spec =>
      simp only [MetadataBlock.fields_map_body]
      rfl
    | absence => rfl
    | removal =>
      simp only [MetadataBlock.removeFrom_map_body]
      rfl

end MetadataDemand

/-! ## All rules -/

namespace Rule

variable {rule : Rule} {lines lines' : List Text}

/-- The rule takes and puts no line break. -/
def Unbroken : Rule → Prop
  | comments start _ => start.Unbroken
  | _ => True

theorem Unbroken.keepsLines (hrule : rule.Unbroken) : rule.KeepsLines := by
  cases rule with
  | comments start dryRun => exact CommentStart.Unbroken.keepsLines hrule
  | _ => trivial

theorem inspect_map_body_of_readsLittle (rule : Rule) (hrule : rule.ReadsLittle)
    (lines : List Text) : rule.inspect (lines.map body) = (rule.inspect lines).mapLines body := by
  rw [inspect_alike Line.alike_body rule hrule]
  rcases inspect_cases rule lines with ⟨findings, h⟩ | ⟨b, rfl, -, -⟩ | ⟨start, dryRun, rfl⟩
  · rw [h]
    rfl
  · cases hrule
  · exact hrule.elim

/-- A rule finds in the bodies of lines what it finds in the lines. -/
theorem inspect_map_body (hrule : rule.Unbroken) (lines : List Text) :
    rule.inspect (lines.map body) = (rule.inspect lines).mapLines body := by
  cases rule with
  | metadata demand => exact demand.inspect_map_body lines
  | comments start dryRun => exact hrule.inspect_map_body dryRun lines
  | noObsolete => exact inspect_map_body_of_readsLittle noObsolete trivial lines
  | noFuzzy => exact inspect_map_body_of_readsLittle noFuzzy trivial lines
  | translated requirement =>
    exact inspect_map_body_of_readsLittle (translated requirement) trivial lines
  | limited limits => exact inspect_map_body_of_readsLittle (limited limits) trivial lines

/-- The lines that a rule leaves end as lines do. -/
theorem endsWell_linesAfter (hrule : rule.Unbroken) (h : ∀ line ∈ lines, Text.EndsWell line) :
    ∀ line ∈ (rule.inspect lines).linesAfter lines, Text.EndsWell line := by
  rcases linesAfter_cases rule lines with heq | ⟨b, hb, heq⟩ | ⟨start, dryRun, rfl, heq⟩
  · rw [heq]
    exact h
  · rw [heq]
    intro line hline
    rcases List.mem_append.mp hline with hline | hline
    · exact h line (List.mem_of_mem_take hline)
    · exact h line (List.mem_of_mem_drop hline)
  · rw [heq, CommentStart.replaceLines, List.forall_mem_map]
    exact fun line hline => hrule.endsWell_getD (h line hline)

/-- Two catalogues whose lines have the same bodies, without line breaks, and endings of their own
are the same to each rule: it gives the same verdict and the same findings, before and after its
rewrite is written, and leaves two catalogues whose lines have the same bodies. They have the same
tally. -/
theorem inspect_of_sameBody (hrule : rule.Unbroken) {t t' : Text}
    (h : List.Forall₂ Text.SameBody t.lines t'.lines) :
    (rule.inspect t.lines).failed = (rule.inspect t'.lines).failed ∧
    (rule.inspect t.lines).findings = (rule.inspect t'.lines).findings ∧
    (rule.inspect t.lines).fails = (rule.inspect t'.lines).fails ∧
    (rule.inspect t.lines).reported = (rule.inspect t'.lines).reported ∧
    (∀ (scratch path : Text) (d d' : Disk) (report : Report),
      d.workingDirectory = d'.workingDirectory →
      (rule.apply scratch path t.lines d report).error = none →
      (rule.apply scratch path t'.lines d' report).error = none →
      (rule.apply scratch path t.lines d report).report =
        (rule.apply scratch path t'.lines d' report).report) ∧
    List.Forall₂ Text.SameBody ((rule.inspect t.lines).textAfter t).lines
      ((rule.inspect t'.lines).textAfter t').lines ∧
    Tally.ofLines t.lines = Tally.ofLines t'.lines := by
  obtain ⟨hends, hends', hbodies⟩ := Text.forall₂_sameBody_iff.mp h
  have hinspect : (rule.inspect t.lines).mapLines body = (rule.inspect t'.lines).mapLines body := by
    rw [← inspect_map_body hrule, hbodies, inspect_map_body hrule]
  have hfailed := congrArg Inspection.failed hinspect
  have hfindings := congrArg Inspection.findings hinspect
  have hfails := congrArg Inspection.fails hinspect
  have hreported := congrArg Inspection.reported hinspect
  simp only [Inspection.failed_mapLines, Inspection.findings_mapLines, Inspection.fails_mapLines,
    Inspection.reported_mapLines] at hfailed hfindings hfails hreported
  refine ⟨hfailed, hfindings, hfails, hreported, ?_, ?_, ?_⟩
  · intro scratch path d d' report hdirectory hok hok'
    rw [apply_report hok, apply_report hok', hfails, hreported, hdirectory]
  · rw [lines_textAfter rule hrule.keepsLines, lines_textAfter rule hrule.keepsLines,
      Text.forall₂_sameBody_iff]
    refine ⟨endsWell_linesAfter hrule hends, endsWell_linesAfter hrule hends', ?_⟩
    rw [← Inspection.linesAfter_mapLines, ← Inspection.linesAfter_mapLines, hinspect, hbodies]
  · rw [← Tally.ofLines_map_body, hbodies, Tally.ofLines_map_body]

/-- A disk with one catalogue and a scratch directory. -/
def holding (t : Text) : Disk :=
  { entries := [(["t".toList], .directory 0o755), (["a.po".toList], .file (.text t) 0o644)] }

/-- A catalogue with line feeds and one with carriage returns as well, whose last line lacks an
ending. -/
theorem inspect_of_sameBody_comments :
    ((comments (.literal "note: " "") false).apply "/t" "a.po"
        (Text.lines "#. note: a\nmsgid \"b\"\nmsgstr \"\"\n")
        (holding "#. note: a\nmsgid \"b\"\nmsgstr \"\"\n") {}).report =
      ((comments (.literal "note: " "") false).apply "/t" "a.po"
        (Text.lines "#. note: a\r\nmsgid \"b\"\nmsgstr \"\"")
        (holding "#. note: a\r\nmsgid \"b\"\nmsgstr \"\"") {}).report := by
  have hlines : List.Forall₂ Text.SameBody
      (Text.lines "#. note: a\nmsgid \"b\"\nmsgstr \"\"\n")
      (Text.lines "#. note: a\r\nmsgid \"b\"\nmsgstr \"\"") := by decide
  have hrule : (comments (.literal "note: " "") false).Unbroken := ⟨by decide, by decide⟩
  obtain ⟨-, -, -, -, hreport, -⟩ := inspect_of_sameBody hrule hlines
  have hdirectory : ∀ t t' : Text, (holding t).workingDirectory = (holding t').workingDirectory :=
    fun _ _ => rfl
  exact hreport "/t" "a.po" _ _ {} (hdirectory _ _) (by decide) (by decide)

end Rule

end CatalogLint
