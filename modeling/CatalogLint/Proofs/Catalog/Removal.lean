import CatalogLint.Proofs.Catalog.Metadata
import CatalogLint.Proofs.Catalog.Obsolete
import CatalogLint.Proofs.Catalog.Scan

/-!
# What the removal of metadata leaves

A block of metadata reaches down to the first blank line. Taking it out moves the lines below
it up (`MetadataBlock.lower`). The messages and runs of obsolete lines outside the block stay,
in their order and on their lines; those that start inside it go, and with them a flag that
waits at its end. So the removal leaves the messages alone exactly if no message starts in the
block and no flag of it reaches a message below, and the runs exactly if no line of the block
is obsolete (`removeFrom_keeps_iff`). A message right below the metadata, with no blank line
in between, is lost (`removeFrom_loses_message`).
-/

namespace CatalogLint

namespace MetadataBlock

/-- The number that a line outside the block has once the block is removed. -/
def lower (b : MetadataBlock) (n : Nat) : Nat := if b.stop < n then n - (b.stop - b.start) else n

/-- Whether the line with this number is outside the block. -/
def isOutside (b : MetadataBlock) (n : Nat) : Bool := n ≤ b.start || b.stop < n

theorem isOutside_iff {b : MetadataBlock} {n : Nat} :
    b.isOutside n = true ↔ n ≤ b.start ∨ b.stop < n := by
  simp [isOutside]

theorem lower_of_le {b : MetadataBlock} {n : Nat} (hn : n ≤ b.stop) : b.lower n = n := by
  rw [lower, if_neg (by omega)]

end MetadataBlock

namespace BlockParts

open Message

variable {lines above body below : List Text} {b : MetadataBlock} {first second : Text}

theorem stop_eq_start_add (h : BlockParts lines b above first second body below) :
    b.stop = b.start + body.length := by
  rw [h.stop_eq, h.start_eq]

theorem lower_below (h : BlockParts lines b above first second body below) (i : Nat) :
    b.lower (b.stop + 1 + i) = b.start + 1 + i := by
  have := h.stop_eq_start_add
  rw [MetadataBlock.lower, if_pos (by omega)]
  omega

theorem kind_first (h : BlockParts lines b above first second body below) :
    Line.kind first = .messageStart :=
  Line.kind_of_hasEmptyId h.first_emptyId

theorem kind_second (h : BlockParts lines b above first second body below) :
    Line.kind second = .emptyTranslation :=
  Line.kind_eq_emptyTranslation_iff.mpr h.second_emptyTranslation

theorem kind_below (h : BlockParts lines b above first second body below) {line : Text}
    (hl : below.head? = some line) : Line.kind line = .other :=
  Line.kind_of_isBlank (h.below_blank line hl)

/-! ## Messages -/

/-- The messages besides the header entry, whatever stands below it: those above, settled by
its first line, and those that a scan finds below. -/
theorem scanBody_eq (h : BlockParts lines b above first second body below) (tail : List Text) :
    scanBody (above ++ first :: second :: tail) =
      startsIn (some above.length) 1 false above [first] ++
        scanFrom (some above.length) (b.start + 1) false none tail := by
  have hk := h.kind_first
  have hn : 1 + above.length + 1 + 1 = b.start + 1 := by
    rw [h.start_eq]
    omega
  have hh : scan (above ++ first :: second :: tail) =
      startsIn (some above.length) 1 false above [first] ++
        begun (some above.length) (1 + above.length) (flagAfter false above) first
            (second :: tail) ::
          scanFrom (some above.length) (b.start + 1) false none tail := by
    rw [scan, h.headerIndex?, scanFrom_append, startsIn_append_start hk _ _ _ _ _ [],
      scanFrom_none_cons, if_pos hk, scanFrom_none_cons, h.kind_second, hn]
    simp [flagBehind, hk, h.kind_second]
  have hAbove : (startsIn (some above.length) 1 false above [first]).filter (!·.isHeader) =
      startsIn (some above.length) 1 false above [first] := by
    refine List.filter_eq_self.mpr fun m hm => ?_
    obtain ⟨-, hlt, hm⟩ := line_of_mem_startsIn hm
    have : (above.length + 1 == m.line) = false := beq_false_of_ne (by omega)
    simp [hm, this]
  have hBelow : (scanFrom (some above.length) (b.start + 1) false none tail).filter
      (!·.isHeader) = scanFrom (some above.length) (b.start + 1) false none tail := by
    refine List.filter_eq_self.mpr fun m hm => ?_
    obtain ⟨hle, hm⟩ := line_of_mem_scanFrom hm
    have : (above.length + 1 == m.line) = false := beq_false_of_ne (by omega)
    simp [hm, this]
  have hHeader : (begun (some above.length) (1 + above.length) (flagAfter false above) first
      (second :: tail)).isHeader = true := by
    simp [begun, Nat.add_comm]
  rw [scanBody, hh, List.filter_append, hAbove, List.filter_cons_of_neg (by simp [hHeader]), hBelow]

theorem scanFrom_lower (h : BlockParts lines b above first second body below) (waiting : Bool) :
    (scanFrom (some above.length) (b.stop + 1) waiting none below).map (mapLines b.lower) =
      scanFrom (some above.length) (b.start + 1) waiting none below := by
  have := h.stop_eq_start_add
  have := h.start_eq
  exact (scanFrom_map h.lower_below (by omega) (by omega) waiting below).symm

theorem startsIn_lower (h : BlockParts lines b above first second body below) :
    (startsIn (some above.length) 1 false above [first]).map (mapLines b.lower) =
      startsIn (some above.length) 1 false above [first] := by
  refine startsIn_map h.kind_first (fun k hk => MetadataBlock.lower_of_le ?_) _ _ _
  rw [h.stop_eq]
  omega

theorem scanBody_lines (h : BlockParts lines b above first second body below) :
    scanBody lines =
      startsIn (some above.length) 1 false above [first] ++
        (startsIn (some above.length) (b.start + 1) false body below ++
          scanFrom (some above.length) (b.stop + 1) (flagAfter false body) none below) := by
  have hn : b.start + 1 + body.length = b.stop + 1 := by
    have := h.stop_eq_start_add
    omega
  rw [h.lines_eq, h.scanBody_eq, scanFrom_append, hn]

/-- The messages outside the block, their flags aside, are what the removal leaves. -/
theorem scanBody_removeFrom (h : BlockParts lines b above first second body below) :
    (scanBody (b.removeFrom lines)).map unflag =
      (((scanBody lines).filter (b.isOutside ·.line)).map (mapLines b.lower)).map unflag := by
  have hstop := h.stop_eq_start_add
  have hstart := h.start_eq
  have hAbove : (startsIn (some above.length) 1 false above [first]).filter
      (b.isOutside ·.line) = startsIn (some above.length) 1 false above [first] := by
    refine List.filter_eq_self.mpr fun m hm => ?_
    obtain ⟨-, hlt, -⟩ := line_of_mem_startsIn hm
    rw [MetadataBlock.isOutside_iff]
    omega
  have hBody : (startsIn (some above.length) (b.start + 1) false body below).filter
      (b.isOutside ·.line) = [] := by
    refine List.filter_eq_nil_iff.mpr fun m hm => ?_
    obtain ⟨hle, hlt, -⟩ := line_of_mem_startsIn hm
    rw [MetadataBlock.isOutside_iff]
    omega
  have hBelow : (scanFrom (some above.length) (b.stop + 1) (flagAfter false body) none
      below).filter (b.isOutside ·.line) =
        scanFrom (some above.length) (b.stop + 1) (flagAfter false body) none below := by
    refine List.filter_eq_self.mpr fun m hm => ?_
    obtain ⟨hle, -⟩ := line_of_mem_scanFrom hm
    rw [MetadataBlock.isOutside_iff]
    omega
  rw [h.removeFrom_eq, h.scanBody_eq, h.scanBody_lines, List.filter_append, List.filter_append,
    hAbove, hBody, hBelow, List.nil_append, List.map_append (f := mapLines b.lower),
    h.startsIn_lower, h.scanFrom_lower, List.map_append, List.map_append,
    scanFrom_unflag _ _ false (flagAfter false body)]

/-- The removal leaves the messages alone exactly if none starts in the block and no flag of the
block reaches one below. -/
theorem scanBody_removeFrom_iff (h : BlockParts lines b above first second body below) :
    scanBody (b.removeFrom lines) = (scanBody lines).map (mapLines b.lower) ↔
      (∀ line ∈ body, Line.kind line ≠ .messageStart) ∧
        (flagAfter false body = true → flagReaches below = false) := by
  have hLength : ∀ w : Bool,
      (scanFrom (some above.length) (b.start + 1) w none below).length =
        (scanFrom (some above.length) (b.start + 1) false none below).length := by
    intro w
    have := scanFrom_unflag (some above.length) (b.start + 1) w false below
    simpa using congrArg List.length this
  have hStarts : startsIn (some above.length) (b.start + 1) false body below = [] ↔
      ∀ line ∈ body, Line.kind line ≠ .messageStart := by
    rw [← List.length_eq_zero_iff, length_startsIn, List.countP_eq_zero]
    simp
  rw [h.removeFrom_eq, h.scanBody_eq, h.scanBody_lines, List.map_append, List.map_append,
    h.startsIn_lower, h.scanFrom_lower, List.append_cancel_left_eq, ← hStarts]
  constructor
  · intro he
    have hl := congrArg List.length he
    rw [List.length_append, hLength (flagAfter false body), List.length_map] at hl
    have hNil : startsIn (some above.length) (b.start + 1) false body below = [] :=
      List.length_eq_zero_iff.mp (by omega)
    refine ⟨hNil, fun hw => ?_⟩
    rw [hNil, hw] at he
    exact (scanFrom_waiting_iff _ _ _).mp he
  · rintro ⟨hNil, hw⟩
    rw [hNil, List.map_nil, List.nil_append]
    cases hf : flagAfter false body with
    | false => rfl
    | true => exact (scanFrom_waiting_iff _ _ _).mpr (hw hf)

/-! ## Runs of obsolete lines -/

theorem runs_eq (h : BlockParts lines b above first second body below) (tail : List Text) :
    Obsolete.runs (above ++ first :: second :: tail) =
      Obsolete.runsFrom false 1 (above ++ [first, second]) ++
        Obsolete.runsFrom false (b.start + 1) tail := by
  have hs : (Line.kind second == .obsolete) = false := by
    rw [h.kind_second]
    rfl
  have hn : 1 + (above ++ [first, second]).length = b.start + 1 := by
    rw [h.start_eq, List.length_append]
    simp only [List.length_cons, List.length_nil]
    omega
  rw [Obsolete.runs, show above ++ first :: second :: tail = above ++ [first, second] ++ tail by simp,
    Obsolete.runsFrom_append, hn]
  simp [Obsolete.insideAfter, hs]

theorem runs_lines (h : BlockParts lines b above first second body below) :
    Obsolete.runs lines =
      Obsolete.runsFrom false 1 (above ++ [first, second]) ++
        (Obsolete.runsFrom false (b.start + 1) body ++
          Obsolete.runsFrom false (b.stop + 1) below) := by
  have hn : b.start + 1 + body.length = b.stop + 1 := by
    have := h.stop_eq_start_add
    omega
  have hb : ∀ line, below.head? = some line → Line.kind line ≠ .obsolete := fun line hl => by
    simp [h.kind_below hl]
  rw [h.lines_eq, h.runs_eq, Obsolete.runsFrom_append false (b.start + 1) body below, hn,
    Obsolete.runsFrom_of_head hb]

theorem runsFrom_lower (h : BlockParts lines b above first second body below) :
    (Obsolete.runsFrom false 1 (above ++ [first, second])).map b.lower =
      Obsolete.runsFrom false 1 (above ++ [first, second]) := by
  refine List.map_congr_left (g := id) (fun k hk => ?_) |>.trans (List.map_id _)
  have hk := (Obsolete.mem_runsFrom_bounds hk).2
  rw [List.length_append] at hk
  simp only [List.length_cons, List.length_nil] at hk
  have := h.stop_eq
  exact MetadataBlock.lower_of_le (by omega)

/-- The runs outside the block are what the removal leaves. -/
theorem runs_removeFrom (h : BlockParts lines b above first second body below) :
    Obsolete.runs (b.removeFrom lines) =
      ((Obsolete.runs lines).filter b.isOutside).map b.lower := by
  have hstop := h.stop_eq_start_add
  have hstart := h.start_eq
  have hAbove : (Obsolete.runsFrom false 1 (above ++ [first, second])).filter b.isOutside =
      Obsolete.runsFrom false 1 (above ++ [first, second]) := by
    refine List.filter_eq_self.mpr fun k hk => ?_
    have hk := (Obsolete.mem_runsFrom_bounds hk).2
    rw [List.length_append] at hk
    simp only [List.length_cons, List.length_nil] at hk
    rw [MetadataBlock.isOutside_iff]
    omega
  have hBody : (Obsolete.runsFrom false (b.start + 1) body).filter b.isOutside = [] := by
    refine List.filter_eq_nil_iff.mpr fun k hk => ?_
    have hk := Obsolete.mem_runsFrom_bounds hk
    rw [MetadataBlock.isOutside_iff]
    omega
  have hBelow : (Obsolete.runsFrom false (b.stop + 1) below).filter b.isOutside =
      Obsolete.runsFrom false (b.stop + 1) below := by
    refine List.filter_eq_self.mpr fun k hk => ?_
    have hk := Obsolete.mem_runsFrom_bounds hk
    rw [MetadataBlock.isOutside_iff]
    omega
  rw [h.removeFrom_eq, h.runs_eq, h.runs_lines, List.filter_append, List.filter_append, hAbove,
    hBody, hBelow, List.nil_append, List.map_append, h.runsFrom_lower,
    Obsolete.runsFrom_map h.lower_below]

/-- The removal leaves the runs alone exactly if no line of the block is obsolete. -/
theorem runs_removeFrom_iff (h : BlockParts lines b above first second body below) :
    Obsolete.runs (b.removeFrom lines) = (Obsolete.runs lines).map b.lower ↔
      ∀ line ∈ body, Line.kind line ≠ .obsolete := by
  rw [h.removeFrom_eq, h.runs_eq, h.runs_lines, List.map_append, List.map_append,
    h.runsFrom_lower, ← Obsolete.runsFrom_map h.lower_below, List.append_cancel_left_eq,
    List.self_eq_append_left, List.map_eq_nil_iff, Obsolete.runsFrom_eq_nil_iff]

end BlockParts

/-! ## The removal as a whole -/

open Message in
/-- The removal of a block of metadata keeps the messages outside the block, their flags aside,
and the runs outside it. It keeps all of them with their flags exactly if no message starts in
the block and no flag waiting at its end reaches one below, and all runs exactly if no line of
the block is obsolete. -/
theorem removeFrom_keeps_iff {lines : List Text} {b : MetadataBlock}
    (hb : Metadata.locate lines = .block b) :
    (scanBody (b.removeFrom lines)).map unflag =
        (((scanBody lines).filter (b.isOutside ·.line)).map (mapLines b.lower)).map unflag ∧
      Obsolete.runs (b.removeFrom lines) =
        ((Obsolete.runs lines).filter b.isOutside).map b.lower ∧
      (scanBody (b.removeFrom lines) = (scanBody lines).map (mapLines b.lower) ↔
        (∀ line ∈ b.slice lines, Line.kind line ≠ .messageStart) ∧
          (flagAfter false (b.slice lines) = true → flagReaches (lines.drop b.stop) = false)) ∧
      (Obsolete.runs (b.removeFrom lines) = (Obsolete.runs lines).map b.lower ↔
        ∀ line ∈ b.slice lines, Line.kind line ≠ .obsolete) := by
  obtain ⟨above, first, second, body, below, h⟩ := Metadata.exists_blockParts hb
  rw [h.slice_eq, h.drop_stop]
  exact ⟨h.scanBody_removeFrom, h.runs_removeFrom, h.scanBody_removeFrom_iff,
    h.runs_removeFrom_iff⟩

open Message in
/-- Metadata that a blank line ends is removed without a loss; the flag is that of a message. -/
theorem removeFrom_keeps_flagged :
    scanBody (MetadataBlock.removeFrom ⟨0, 3⟩ ["msgid \"\"\n", "msgstr \"\"\n", "\"A: b\"\n", "\n",
        "#, fuzzy\n", "msgid \"a\"\n", "msgstr \"\"\n", "#~ msgid \"b\"\n"]) =
      [⟨5, false, false, none, true⟩] ∧
    Obsolete.runs (MetadataBlock.removeFrom ⟨0, 3⟩ ["msgid \"\"\n", "msgstr \"\"\n",
        "\"A: b\"\n", "\n", "#, fuzzy\n", "msgid \"a\"\n", "msgstr \"\"\n", "#~ msgid \"b\"\n"]) =
      [7] := by
  have hb : Metadata.locate ["msgid \"\"\n", "msgstr \"\"\n", "\"A: b\"\n", "\n", "#, fuzzy\n",
      "msgid \"a\"\n", "msgstr \"\"\n", "#~ msgid \"b\"\n"] = .block ⟨0, 3⟩ := by decide
  obtain ⟨-, -, hMessages, hRuns⟩ := removeFrom_keeps_iff hb
  rw [hMessages.mpr ⟨by decide, by decide⟩, hRuns.mpr (by decide)]
  decide

open Message in
/-- What stands right below the metadata goes with it: a message, the flag of the next message, a
run of obsolete lines. -/
theorem removeFrom_loses_message :
    (∃ lines b, Metadata.locate lines = .block b ∧ (scanBody lines).length = 1 ∧
      scanBody (b.removeFrom lines) = []) ∧
    (∃ lines b, Metadata.locate lines = .block b ∧ scanBody lines = [⟨6, false, false, none, true⟩] ∧
      scanBody (b.removeFrom lines) = [⟨4, false, false, none, false⟩]) ∧
    (∃ lines b, Metadata.locate lines = .block b ∧ Obsolete.runs lines = [4] ∧
      Obsolete.runs (b.removeFrom lines) = []) := by
  refine ⟨⟨["msgid \"\"\n", "msgstr \"\"\n", "\"A: b\"\n", "msgid \"a\"\n", "msgstr \"b\"\n"],
    ⟨0, 5⟩, ?_⟩, ⟨["msgid \"\"\n", "msgstr \"\"\n", "\"A: b\"\n", "#, fuzzy\n", "\n",
    "msgid \"a\"\n"], ⟨0, 4⟩, ?_⟩, ⟨["msgid \"\"\n", "msgstr \"\"\n", "\"A: b\"\n",
    "#~ msgid \"a\"\n"], ⟨0, 4⟩, ?_⟩⟩
  · decide
  · decide
  · decide

end CatalogLint
