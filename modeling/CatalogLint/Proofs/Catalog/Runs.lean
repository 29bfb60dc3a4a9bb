import CatalogLint.Proofs.Catalog.Obsolete
import Mathlib.Data.Set.Card
import Mathlib.Order.Bounds.Basic

/-!
# The maximal runs of obsolete lines

A run is a block of consecutive obsolete lines with no obsolete line next to it (`IsRun`). The runs
of a catalogue are known by their first lines, which are the obsolete lines without an obsolete line
right above (`mem_runs_iff`), and each obsolete line is in one run (`existsUnique_isRun`).

The lines can be fed to a tracker one by one, which is inside a run or not and moves where the next
line tells it to (`feed`). What it reports does not depend on where its input is cut
(`runs_append_track`), since all that it keeps of the lines behind it is whether the last one is
obsolete (`insideAfter_take_succ_iff`).
-/

namespace CatalogLint.Obsolete

/-- The line with the number `n`, counted from one, is there and obsolete. -/
def IsObsoleteAt (lines : List Text) (n : Nat) : Prop :=
  ∃ i line, n = i + 1 ∧ lines[i]? = some line ∧ Line.kind line = .obsolete

/-- The lines from `first` to `last` are obsolete and the ones next to them are not. -/
structure IsRun (lines : List Text) (first last : Nat) : Prop where
  first_le_last : first ≤ last
  obsolete : ∀ n, first ≤ n → n ≤ last → IsObsoleteAt lines n
  above : ¬ IsObsoleteAt lines (first - 1)
  below : ¬ IsObsoleteAt lines (last + 1)

/-- Feeds a line to a tracker, where `inside` tells whether it is inside a run: whether the line
starts a run, and whether the tracker is inside one then. -/
def feed (inside : Bool) (line : Text) : Bool × Bool :=
  match inside, Line.kind line == .obsolete with
  | false, true => (true, true)
  | true, false => (false, false)
  | inside, _ => (false, inside)

/-- Feeds lines to a tracker one after the other: which of them start a run, and whether the tracker
is inside one then. -/
def track (inside : Bool) : List Text → List Bool × Bool
  | [] => ([], inside)
  | line :: rest =>
    let (reported, inside) := feed inside line
    let (later, inside) := track inside rest
    (reported :: later, inside)

variable {lines : List Text} {first last n : Nat}

/-! ## Where runs start -/

theorem IsObsoleteAt.pos (h : IsObsoleteAt lines n) : 0 < n := by
  obtain ⟨i, line, rfl, -, -⟩ := h
  exact Nat.succ_pos i

theorem IsObsoleteAt.le_length (h : IsObsoleteAt lines n) : n ≤ lines.length := by
  obtain ⟨i, line, rfl, hline, -⟩ := h
  exact (List.getElem?_eq_some_iff.mp hline).1

/-- Of the lines behind it a tracker keeps only whether the last one is obsolete. -/
theorem insideAfter_take_succ_iff (inside : Bool) {i : Nat} (hi : i < lines.length) :
    insideAfter inside (lines.take (i + 1)) = true ↔ IsObsoleteAt lines (i + 1) := by
  rw [List.take_succ_eq_append_getElem hi, insideAfter, List.foldl_append, List.foldl_cons,
    List.foldl_nil, beq_iff_eq]
  constructor
  · intro h
    exact ⟨i, lines[i], rfl, List.getElem?_eq_getElem hi, h⟩
  · rintro ⟨j, line, hj, hline, hkind⟩
    obtain rfl : i = j := by omega
    rw [List.getElem?_eq_getElem hi] at hline
    rwa [Option.some.inj hline]

/-- A run starts at an obsolete line in front of which the tracker is not inside a run. -/
theorem mem_runsFrom_iff {inside : Bool} {k : Nat} :
    k ∈ runsFrom inside n lines ↔
      ∃ i line, k = n + i ∧ lines[i]? = some line ∧ Line.kind line = .obsolete ∧
        insideAfter inside (lines.take i) = false := by
  induction lines generalizing inside n with
  | nil => simp [runsFrom]
  | cons head rest ih =>
    have hcons : k ∈ runsFrom inside n (head :: rest) ↔
        (k = n ∧ startsRun inside head = true) ∨
          k ∈ runsFrom (Line.kind head == .obsolete) (n + 1) rest := by
      rw [runsFrom]
      split_ifs with hstarts
      · simp [hstarts]
      · simp [hstarts]
    rw [hcons, ih, startsRun, Bool.and_eq_true, Bool.not_eq_true', beq_iff_eq]
    constructor
    · rintro (⟨rfl, hinside, hkind⟩ | ⟨i, line, rfl, hline, hkind, hinside⟩)
      · exact ⟨0, head, rfl, rfl, hkind, hinside⟩
      · exact ⟨i + 1, line, by omega, hline, hkind, hinside⟩
    · rintro ⟨i, line, rfl, hline, hkind, hinside⟩
      cases i with
      | zero =>
        obtain rfl : head = line := Option.some.inj hline
        exact Or.inl ⟨rfl, hinside, hkind⟩
      | succ i => exact Or.inr ⟨i, line, by omega, hline, hkind, hinside⟩

/-- The runs start at the obsolete lines without an obsolete line right above. -/
theorem mem_runs_iff :
    n ∈ runs lines ↔ IsObsoleteAt lines n ∧ ¬ IsObsoleteAt lines (n - 1) := by
  have habove : ∀ i, i < lines.length →
      (insideAfter false (lines.take i) = false ↔ ¬ IsObsoleteAt lines i) := by
    intro i hi
    cases i with
    | zero => exact iff_of_true rfl fun h => h.pos.ne rfl
    | succ i =>
      rw [← insideAfter_take_succ_iff false (Nat.lt_of_succ_lt hi), Bool.not_eq_true]
  rw [runs, mem_runsFrom_iff]
  constructor
  · rintro ⟨i, line, rfl, hline, hkind, hinside⟩
    have hi : i < lines.length := (List.getElem?_eq_some_iff.mp hline).1
    rw [habove i hi] at hinside
    exact ⟨⟨i, line, Nat.add_comm 1 i, hline, hkind⟩, by rwa [Nat.add_sub_cancel_left]⟩
  · rintro ⟨⟨i, line, rfl, hline, hkind⟩, hnot⟩
    have hi : i < lines.length := (List.getElem?_eq_some_iff.mp hline).1
    rw [Nat.add_sub_cancel, ← habove i hi] at hnot
    exact ⟨i, line, Nat.add_comm i 1, hline, hkind, hnot⟩

theorem pairwise_runsFrom (inside : Bool) (n : Nat) (lines : List Text) :
    (runsFrom inside n lines).Pairwise (· < ·) := by
  induction lines generalizing inside n with
  | nil => exact .nil
  | cons line rest ih =>
    rw [runsFrom]
    split_ifs
    · refine .cons ?_ (ih _ _)
      intro k hk
      exact (mem_runsFrom_bounds hk).1
    · exact ih _ _

/-! ## Runs as blocks of lines -/

/-- Above an obsolete line the run goes up to a line where a run starts. -/
theorem exists_first (h : IsObsoleteAt lines n) :
    ∃ first, first ≤ n ∧ (∀ k, first ≤ k → k ≤ n → IsObsoleteAt lines k) ∧
      ¬ IsObsoleteAt lines (first - 1) := by
  induction n with
  | zero => exact absurd h.pos (Nat.lt_irrefl 0)
  | succ n ih =>
    by_cases habove : IsObsoleteAt lines n
    · obtain ⟨first, hle, hall, hfirst⟩ := ih habove
      refine ⟨first, Nat.le_succ_of_le hle, ?_, hfirst⟩
      intro k hk hkn
      rcases Nat.le_succ_iff.mp hkn with hkn | rfl
      · exact hall k hk hkn
      · exact h
    · refine ⟨n + 1, le_rfl, ?_, habove⟩
      intro k hk hkn
      rwa [Nat.le_antisymm hkn hk]

/-- Below an obsolete line the run goes down to a line with no obsolete line below; the induction is
on the number of lines below. -/
theorem exists_last (h : IsObsoleteAt lines n) :
    ∃ last, n ≤ last ∧ (∀ k, n ≤ k → k ≤ last → IsObsoleteAt lines k) ∧
      ¬ IsObsoleteAt lines (last + 1) := by
  generalize hm : lines.length - n = m
  induction m generalizing n with
  | zero =>
    refine ⟨n, le_rfl, ?_, ?_⟩
    · intro k hk hkn
      rwa [Nat.le_antisymm hkn hk]
    · intro hbelow
      have := hbelow.le_length
      omega
  | succ m ih =>
    by_cases hbelow : IsObsoleteAt lines (n + 1)
    · obtain ⟨last, hle, hall, hlast⟩ := ih hbelow (by omega)
      refine ⟨last, Nat.le_of_succ_le hle, ?_, hlast⟩
      intro k hk hkl
      rcases hk.eq_or_lt with rfl | hk
      · exact h
      · exact hall k hk hkl
    · refine ⟨n, le_rfl, ?_, hbelow⟩
      intro k hk hkn
      rwa [Nat.le_antisymm hkn hk]

namespace IsRun

variable {first' last' : Nat}

/-- Of two runs with a line in common none starts above the other. -/
theorem first_le (h : IsRun lines first last) (h' : IsRun lines first' last') (hn : n ≤ last)
    (hn' : first' ≤ n) : first' ≤ first := by
  by_contra hlt
  exact h'.above (h.obsolete (first' - 1) (by omega) (by omega))

/-- Of two runs with a line in common none ends below the other. -/
theorem last_le (h : IsRun lines first last) (h' : IsRun lines first' last') (hn : first ≤ n)
    (hn' : n ≤ last') : last ≤ last' := by
  by_contra hlt
  exact h'.below (h.obsolete (last' + 1) (by omega) (by omega))

/-- Runs with a line in common are the same. -/
theorem unique (h : IsRun lines first last) (h' : IsRun lines first' last')
    (hfirst : first ≤ n) (hlast : n ≤ last) (hfirst' : first' ≤ n) (hlast' : n ≤ last') :
    (first, last) = (first', last') := by
  have hf : first = first' :=
    Nat.le_antisymm (h'.first_le h hlast' hfirst) (h.first_le h' hlast hfirst')
  have hl : last = last' :=
    Nat.le_antisymm (h.last_le h' hfirst hlast') (h'.last_le h hfirst' hlast)
  rw [hf, hl]

theorem first_mem (h : IsRun lines first last) : first ∈ runs lines :=
  mem_runs_iff.mpr ⟨h.obsolete first le_rfl h.first_le_last, h.above⟩

/-- The first line of a run is the greatest start of a run at or above each of its lines. -/
theorem isGreatest (h : IsRun lines first last) (hfirst : first ≤ n) (hlast : n ≤ last) :
    IsGreatest {m | m ∈ runs lines ∧ m ≤ n} first := by
  refine ⟨⟨h.first_mem, hfirst⟩, ?_⟩
  rintro m ⟨hm, hmn⟩
  obtain ⟨-, habove⟩ := mem_runs_iff.mp hm
  by_contra hlt
  exact habove (h.obsolete (m - 1) (by omega) (by omega))

end IsRun

/-- Each obsolete line is in one run. -/
theorem existsUnique_isRun (h : IsObsoleteAt lines n) :
    ∃! run : Nat × Nat, IsRun lines run.1 run.2 ∧ run.1 ≤ n ∧ n ≤ run.2 := by
  obtain ⟨first, hfirst, hup, habove⟩ := exists_first h
  obtain ⟨last, hlast, hdown, hbelow⟩ := exists_last h
  have hall : ∀ k, first ≤ k → k ≤ last → IsObsoleteAt lines k := by
    intro k hk hkl
    rcases le_total k n with hkn | hkn
    · exact hup k hk hkn
    · exact hdown k hkn hkl
  have hrun : IsRun lines first last := ⟨hfirst.trans hlast, hall, habove, hbelow⟩
  refine ⟨(first, last), ⟨hrun, hfirst, hlast⟩, ?_⟩
  rintro ⟨first', last'⟩ ⟨hrun', hfirst', hlast'⟩
  exact hrun'.unique hrun hfirst' hlast' hfirst hlast

/-- The runs of a catalogue are its maximal blocks of obsolete lines, each known by its first
line. -/
theorem bijOn_runs (lines : List Text) :
    Set.BijOn Prod.fst {run : Nat × Nat | IsRun lines run.1 run.2} {n | n ∈ runs lines} := by
  refine ⟨?_, ?_, ?_⟩
  · intro run hrun
    exact IsRun.first_mem hrun
  · intro run hrun run' hrun' heq
    have hle : run.1 ≤ run'.1 := heq.le
    exact IsRun.unique hrun hrun' le_rfl (IsRun.first_le_last hrun) heq.ge
      (hle.trans (IsRun.first_le_last hrun'))
  · intro n hn
    obtain ⟨hobsolete, habove⟩ := mem_runs_iff.mp hn
    obtain ⟨run, ⟨hrun, hfirst, hlast⟩, -⟩ := existsUnique_isRun hobsolete
    refine ⟨run, hrun, Nat.le_antisymm hfirst ?_⟩
    exact (hrun.isGreatest hfirst hlast).2 ⟨hn, le_rfl⟩

theorem length_runs (lines : List Text) :
    (runs lines).length = {run : Nat × Nat | IsRun lines run.1 run.2}.ncard := by
  have hbij := bijOn_runs lines
  have hset : {n | n ∈ runs lines} = ((runs lines).toFinset : Set Nat) := by
    ext n
    simp
  rw [← hbij.injOn.ncard_image, hbij.image_eq, hset, Set.ncard_coe_finset,
    List.toFinset_card_of_nodup]
  exact (pairwise_runsFrom false 1 lines).imp Nat.ne_of_lt

/-! ## The tracker -/

theorem feed_eq (inside : Bool) (line : Text) :
    feed inside line = (startsRun inside line, Line.kind line == .obsolete) := by
  unfold feed startsRun
  cases inside <;> cases Line.kind line == .obsolete <;> rfl

theorem track_eq (inside : Bool) (lines : List Text) :
    track inside lines = (starts inside lines, insideAfter inside lines) := by
  induction lines generalizing inside with
  | nil => rfl
  | cons line rest ih =>
    simp only [track, feed_eq, ih, starts, insideAfter, List.foldl_cons]

/-- The runs of lines are at the lines that a tracker reports. -/
theorem runsFrom_eq_findIdxs (inside : Bool) (n : Nat) (lines : List Text) :
    runsFrom inside n lines = (track inside lines).1.findIdxs id n := by
  rw [track_eq]
  induction lines generalizing inside n with
  | nil => rfl
  | cons line rest ih =>
    rw [runsFrom, starts, List.findIdxs_cons, ih]
    rfl

/-- A tracker that was fed some lines reports of those that follow where the runs of all are behind
the first ones. -/
theorem runs_append_track (xs ys : List Text) :
    runs (xs ++ ys) =
      runs xs ++ (track (track false xs).2 ys).1.findIdxs id (xs.length + 1) := by
  rw [runs, runsFrom_append, runsFrom_eq_findIdxs _ _ ys, Nat.add_comm 1, track_eq false xs]
  rfl

theorem filter_runs_append (xs ys : List Text) :
    (runs (xs ++ ys)).filter (xs.length < ·) =
      (track (track false xs).2 ys).1.findIdxs id (xs.length + 1) := by
  have hfront : (runs xs).filter (xs.length < ·) = [] := by
    rw [List.filter_eq_nil_iff]
    intro n hn
    have := (mem_runsFrom_bounds hn).2
    rw [decide_eq_true_eq]
    omega
  rw [runs_append_track, List.filter_append, hfront, List.nil_append, List.filter_eq_self]
  intro n hn
  rw [← runsFrom_eq_findIdxs] at hn
  exact decide_eq_true (mem_runsFrom_bounds hn).1

/-- The runs of a catalogue, in increasing order, are the first lines of its maximal blocks of
consecutive obsolete lines, one for each: the obsolete lines whose line above is not there or not
obsolete. Between two of them there is a line that is not obsolete. Each obsolete line is in one
block, and that starts with the last run at or above the line. A tracker that is fed the catalogue in
two parts reports of the second part the runs behind the first one. -/
theorem runs_maximal (lines : List Text) :
    (runs lines).Pairwise (· < ·) ∧
    (∀ n, n ∈ runs lines ↔ IsObsoleteAt lines n ∧ ¬ IsObsoleteAt lines (n - 1)) ∧
    Set.BijOn Prod.fst {run : Nat × Nat | IsRun lines run.1 run.2} {n | n ∈ runs lines} ∧
    (runs lines).length = {run : Nat × Nat | IsRun lines run.1 run.2}.ncard ∧
    (∀ m ∈ runs lines, ∀ n ∈ runs lines, m < n →
      ∃ k, m < k ∧ k < n ∧ ¬ IsObsoleteAt lines k) ∧
    (∀ n, IsObsoleteAt lines n →
      ∃! run : Nat × Nat, IsRun lines run.1 run.2 ∧ run.1 ≤ n ∧ n ≤ run.2) ∧
    (∀ first last n, IsRun lines first last → first ≤ n → n ≤ last →
      IsGreatest {m | m ∈ runs lines ∧ m ≤ n} first) ∧
    ∀ xs ys, lines = xs ++ ys →
      runs lines = runs xs ++ (track (track false xs).2 ys).1.findIdxs id (xs.length + 1) ∧
      (runs lines).filter (xs.length < ·) =
        (track (track false xs).2 ys).1.findIdxs id (xs.length + 1) := by
  refine ⟨pairwise_runsFrom false 1 lines, fun n => mem_runs_iff, bijOn_runs lines,
    length_runs lines, ?_, fun n => existsUnique_isRun, fun _ _ _ h => h.isGreatest, ?_⟩
  · intro m hm n hn hlt
    obtain ⟨hobsolete, -⟩ := mem_runs_iff.mp hm
    obtain ⟨-, habove⟩ := mem_runs_iff.mp hn
    -- The line above the later start is not the earlier start.
    have hne : m ≠ n - 1 := by
      rintro rfl
      exact habove hobsolete
    exact ⟨n - 1, by omega, by omega, habove⟩
  · rintro xs ys rfl
    exact ⟨runs_append_track xs ys, filter_runs_append xs ys⟩

/-- Two blocks, the first one of two lines. -/
theorem runs_maximal_two_blocks :
    let lines : List Text :=
      ["#~ msgid \"a\"\n", "#~ msgstr \"b\"\n", "\n", "#~ msgid \"c\"\n"]
    runs lines = [1, 4] ∧ {run : Nat × Nat | IsRun lines run.1 run.2}.ncard = 2 := by
  intro lines
  have hruns : runs lines = [1, 4] := by decide
  obtain ⟨-, -, -, hlength, -⟩ := runs_maximal lines
  refine ⟨hruns, ?_⟩
  rw [← hlength, hruns]
  rfl

end CatalogLint.Obsolete
