import CatalogLint.Proofs.Catalog.Cursor
import CatalogLint.Proofs.Catalog.Metadata
import CatalogLint.Proofs.Rule.Numbers
import Mathlib.Data.List.Nodup

/-!
# One message for each start

The scan of a catalogue finds one message for each line that starts one, in the order of the lines
(`map_line_scanFrom`). Whether a message is the header entry is known by its line alone: the header
entry is the one at the index that the metadata names, and there is no other
(`exists_filter_isHeader`, `filter_isHeader_of_noHeader`).
-/

namespace CatalogLint

namespace Metadata

/-- The index of the header entry, if there is one. -/
def header? : Metadata → Option Nat
  | noHeader => none
  | empty header => some header
  | block b => some b.header

theorem header?_locate (lines : List Text) : (locate lines).header? = headerIndex? lines := by
  unfold locate
  cases headerIndex? lines with
  | none => rfl
  | some h =>
    dsimp only
    split
    · rfl
    · rfl

theorem header?_eq_none_iff {m : Metadata} : m.header? = none ↔ m = .noHeader := by
  cases m with
  | noHeader => exact ⟨fun _ => rfl, fun _ => rfl⟩
  | empty h => exact ⟨nofun, nofun⟩
  | block b => exact ⟨nofun, nofun⟩

end Metadata

namespace Message

/-! ## The lines of the messages -/

theorem map_line_scanFrom (header : Option Nat) (n : Nat) (waiting : Bool) (lines : List Text) :
    (scanFrom header n waiting none lines).map (·.line) =
      numbersWhere (·.startsWith Line.messageMark) n lines := by
  induction lines generalizing n waiting with
  | nil => rfl
  | cons line rest ih =>
    rw [scanFrom_none_cons, List.map_append, ih, numbersWhere]
    by_cases hk : Line.kind line = .messageStart
    · rw [if_pos hk, if_pos (Line.kind_eq_messageStart_iff.mp hk)]
      rfl
    · rw [if_neg hk, if_neg (fun h => hk (Line.kind_eq_messageStart_iff.mpr h))]
      rfl

theorem map_line_scan (lines : List Text) :
    (scan lines).map (·.line) = numbersWhere (·.startsWith Line.messageMark) 1 lines :=
  map_line_scanFrom _ 1 false lines

theorem pairwise_line_scan (lines : List Text) : ((scan lines).map (·.line)).Pairwise (· < ·) := by
  rw [map_line_scan]
  exact pairwise_numbersWhere _ 1 lines

theorem length_scan (lines : List Text) : (scan lines).length = countStarts lines := by
  rw [← List.length_map (·.line), map_line_scan, length_numbersWhere]
  rfl

theorem nodup_line_scan (lines : List Text) : ((scan lines).map (·.line)).Nodup :=
  (pairwise_line_scan lines).imp Nat.ne_of_lt

/-- No two messages start on one line. -/
theorem eq_of_line_eq {lines : List Text} {m m' : Message} (hm : m ∈ scan lines)
    (hm' : m' ∈ scan lines) (h : m.line = m'.line) : m = m' :=
  List.inj_on_of_nodup_map (nodup_line_scan lines) hm hm' h

/-- What a message keeps of the line on which it starts. -/
theorem exists_getElem?_of_mem_scan {lines : List Text} {m : Message} (hm : m ∈ scan lines) :
    ∃ i line, m.line = i + 1 ∧ lines[i]? = some line ∧ line.startsWith Line.messageMark = true ∧
      m.emptyId = line.startsWith Line.emptyIdMark ∧
      (m.isHeader = true ↔ Metadata.headerIndex? lines = some i) := by
  obtain ⟨above, line, below, hlines, hk, rfl⟩ := mem_scan.mp hm
  refine ⟨above.length, line, ?_, ?_, Line.kind_eq_messageStart_iff.mp hk, rfl, ?_⟩
  · simp only [begun]
    omega
  · rw [hlines]
    simp
  · simp only [begun, Option.any_eq_true, beq_iff_eq]
    constructor
    · rintro ⟨h, hh, hline⟩
      rw [hh, show h = above.length by omega]
    · intro hh
      exact ⟨above.length, hh, by omega⟩

/-! ## The header entry -/

theorem isHeader_iff {lines : List Text} {m : Message} (hm : m ∈ scan lines) :
    m.isHeader = true ↔ ∃ h, Metadata.headerIndex? lines = some h ∧ m.line = h + 1 := by
  obtain ⟨i, line, hline, -, -, -, hheader⟩ := exists_getElem?_of_mem_scan hm
  rw [hheader]
  constructor
  · intro h
    exact ⟨i, h, hline⟩
  · rintro ⟨h, hh, hline'⟩
    rw [hh, show h = i by omega]

theorem filter_isHeader_of_noHeader {lines : List Text}
    (h : Metadata.headerIndex? lines = none) : (scan lines).filter (·.isHeader) = [] := by
  refine List.filter_eq_nil_iff.mpr fun m hm hheader => ?_
  obtain ⟨i, hi, -⟩ := (isHeader_iff hm).mp hheader
  rw [h] at hi
  cases hi

/-- A message starts at the index of the header entry. -/
theorem exists_mem_scan_of_headerIndex? {lines : List Text} {h : Nat}
    (hh : Metadata.headerIndex? lines = some h) :
    ∃ m ∈ scan lines, m.line = h + 1 ∧ m.emptyId = true := by
  obtain ⟨above, first, second, below, rfl, rfl, hid, -, -⟩ := Metadata.headerIndex?_eq_some hh
  refine ⟨_, mem_scan.mpr ⟨above, first, second :: below, rfl, Line.kind_of_hasEmptyId hid, rfl⟩,
    ?_, hid⟩
  simp only [begun]
  omega

theorem exists_filter_isHeader {lines : List Text} {h : Nat}
    (hh : Metadata.headerIndex? lines = some h) :
    ∃ m, (scan lines).filter (·.isHeader) = [m] ∧ m.line = h + 1 ∧ m.emptyId = true := by
  obtain ⟨m, hm, hline, hid⟩ := exists_mem_scan_of_headerIndex? hh
  have hheader : ∀ m' ∈ scan lines, m'.isHeader = (m' == m) := by
    intro m' hm'
    rw [Bool.eq_iff_iff, isHeader_iff hm', beq_iff_eq]
    constructor
    · rintro ⟨i, hi, hline'⟩
      rw [hh] at hi
      cases hi
      exact eq_of_line_eq hm' hm (hline'.trans hline.symm)
    · rintro rfl
      exact ⟨h, hh, hline⟩
  refine ⟨m, ?_, hline, hid⟩
  rw [List.filter_congr hheader, List.filter_beq,
    List.count_eq_one_of_mem (nodup_line_scan lines).of_map hm]
  rfl

/-- A catalogue has as many header entries as its metadata says: one or none. -/
theorem countP_isHeader (lines : List Text) :
    (scan lines).countP (·.isHeader) = if Metadata.locate lines = .noHeader then 0 else 1 := by
  have hlocate : Metadata.locate lines = .noHeader ↔ Metadata.headerIndex? lines = none := by
    rw [← Metadata.header?_eq_none_iff, Metadata.header?_locate]
  rw [List.countP_eq_length_filter]
  cases hh : Metadata.headerIndex? lines with
  | none => rw [filter_isHeader_of_noHeader hh, if_pos (hlocate.mpr hh), List.length_nil]
  | some h =>
    obtain ⟨m, hm, -⟩ := exists_filter_isHeader hh
    have hne : Metadata.locate lines ≠ .noHeader := by
      intro he
      rw [hlocate.mp he] at hh
      cases hh
    rw [hm, if_neg hne, List.length_singleton]

/-- The messages of a catalogue, taken one at a time to the end, are one for each line that starts
a message: in the order of the lines, each with the number of its line and the verdict on its
identifier. The header entry is the one at the index that the metadata names, if it names one, and
it has an empty identifier. -/
theorem scan_partition (lines : List Text) :
    (∀ ms, (Cursor.atTop lines).Yields ms ↔ ms = scan lines) ∧
    ((scan lines).map (·.line)).Pairwise (· < ·) ∧
    (∀ n, n ∈ (scan lines).map (·.line) ↔
      ∃ i line, n = i + 1 ∧ lines[i]? = some line ∧ line.startsWith Line.messageMark = true) ∧
    (scan lines).length = countStarts lines ∧
    (∀ m ∈ scan lines, ∃ i line, m.line = i + 1 ∧ lines[i]? = some line ∧
      m.emptyId = line.startsWith Line.emptyIdMark ∧
      (m.isHeader = true ↔ Metadata.headerIndex? lines = some i)) ∧
    (Metadata.locate lines = .noHeader → ∀ m ∈ scan lines, m.isHeader = false) ∧
    (∀ h, (Metadata.locate lines).header? = some h →
      ∃ m, (scan lines).filter (·.isHeader) = [m] ∧ m.line = h + 1 ∧ m.emptyId = true) := by
  refine ⟨fun ms => Cursor.yields_iff, pairwise_line_scan lines, ?_, length_scan lines, ?_, ?_, ?_⟩
  · intro n
    rw [map_line_scan, mem_numbersWhere_iff]
    simp only [Nat.add_comm 1]
  · intro m hm
    obtain ⟨i, line, hline, hget, -, hid, hheader⟩ := exists_getElem?_of_mem_scan hm
    exact ⟨i, line, hline, hget, hid, hheader⟩
  · intro h m hm
    rw [← Metadata.header?_eq_none_iff, Metadata.header?_locate] at h
    have hnil := List.filter_eq_nil_iff.mp (filter_isHeader_of_noHeader h) m hm
    exact Bool.eq_false_iff.mpr hnil
  · intro h hh
    rw [Metadata.header?_locate] at hh
    exact exists_filter_isHeader hh

/-- A header entry below a message whose identifier only starts with an empty text. -/
theorem scan_partition_second_header :
    ∃ m, (scan ["msgid \"\"\n", "\"a\"\n", "msgstr \"b\"\n", "#, fuzzy\n", "msgid \"\"\n",
      "msgstr \"\"\n", "\"A: b\"\n"]).filter (·.isHeader) = [m] ∧ m.line = 5 ∧ m.emptyId = true :=
  (scan_partition _).2.2.2.2.2.2 4 (by decide)

end Message

end CatalogLint
