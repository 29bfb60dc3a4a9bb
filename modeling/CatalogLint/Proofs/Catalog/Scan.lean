import CatalogLint.Catalog.Message
import Mathlib.Tactic.SplitIfs

/-!
# What a scan finds

`Message.scanFrom` carries the open message along. Read from the side of one message this
comes to two independent searches: downwards from its first line for its first empty
translation, up to the next message (`firstEmpty`), and through the lines above it for a flag
that waits (`flagAfter`).

* `scanFrom_some`: an open message only takes the first empty translation below it.
* `scanFrom_none_cons`: a scan one line at a time, without an open message.
* `mem_scan`: the messages of a catalogue are those `begun` at its lines that start one.
* `scanFrom_append`: a scan of two parts, `startsIn` the first and then in the second.
-/

namespace CatalogLint.Message

/-- The number of the first empty translation that ends at once, among lines of which the
first has the number `n`; the next message ends the search. -/
def firstEmpty (n : Nat) : List Text → Option Nat
  | [] => none
  | line :: rest =>
    if Line.kind line = .messageStart then none
    else if Line.kind line = .emptyTranslation ∧ endsTranslation rest = true then some n
    else firstEmpty (n + 1) rest

/-- Whether a flag waits behind a line, if `waiting` tells whether one waits in front of it. -/
def flagBehind (waiting : Bool) (line : Text) : Bool :=
  match Line.kind line with
  | .messageStart | .obsolete => false
  | .flags => waiting || Line.isFuzzy line
  | .extractedComment | .emptyTranslation | .other => waiting

/-- Whether a flag waits behind a list of lines. -/
def flagAfter (waiting : Bool) (lines : List Text) : Bool := lines.foldl flagBehind waiting

/-- The message that starts on line `n` with the given lines below, where `waiting` tells
whether a flag waits in front of it. -/
def begun (header : Option Nat) (n : Nat) (waiting : Bool) (line : Text) (below : List Text) :
    Message :=
  { line := n
    emptyId := Line.hasEmptyId line
    isHeader := header.any (· + 1 == n)
    untranslatedLine := firstEmpty (n + 1) below
    fuzzy := waiting }

/-- The messages that start in the first of two lists of lines. -/
def startsIn (header : Option Nat) (n : Nat) (waiting : Bool) :
    List Text → List Text → List Message
  | [], _ => []
  | line :: rest, below =>
    let later := startsIn header (n + 1) (flagBehind waiting line) rest below
    if Line.kind line = .messageStart then
      begun header n waiting line (rest ++ below) :: later
    else later

/-! ## The scan without an open message -/

/-- The message that is open takes the first empty translation of its lines, unless it has one,
and leaves the rest of the scan alone. -/
theorem scanFrom_some (header : Option Nat) (n : Nat) (waiting : Bool) (m : Message)
    (lines : List Text) :
    scanFrom header n waiting (some m) lines =
      { m with untranslatedLine := m.untranslatedLine.or (firstEmpty n lines) } ::
        scanFrom header n waiting none lines := by
  induction lines generalizing n waiting m with
  | nil => simp [scanFrom, firstEmpty]
  | cons line rest ih =>
    cases hk : Line.kind line with
    | messageStart => simp [scanFrom, firstEmpty, hk]
    | emptyTranslation =>
      by_cases he : endsTranslation rest = true
      · simp only [scanFrom, hk, he, if_true, Option.map_some, Option.map_none, ih]
        simp [firstEmpty, hk, he, markUntranslated]
      · simp [scanFrom, firstEmpty, hk, he, ih]
    | flags => simp [scanFrom, firstEmpty, hk, ih]
    | obsolete => simp [scanFrom, firstEmpty, hk, ih]
    | extractedComment => simp [scanFrom, firstEmpty, hk, ih]
    | other => simp [scanFrom, firstEmpty, hk, ih]

@[simp] theorem scanFrom_none_nil (header : Option Nat) (n : Nat) (waiting : Bool) :
    scanFrom header n waiting none [] = [] := rfl

/-- One step of the scan: a message begins at the line or not, and the flag moves on. -/
theorem scanFrom_none_cons (header : Option Nat) (n : Nat) (waiting : Bool) (line : Text)
    (rest : List Text) :
    scanFrom header n waiting none (line :: rest) =
      (if Line.kind line = .messageStart then [begun header n waiting line rest] else []) ++
        scanFrom header (n + 1) (flagBehind waiting line) none rest := by
  cases hk : Line.kind line with
  | messageStart => simp [scanFrom, hk, scanFrom_some, begun, flagBehind]
  | emptyTranslation => simp [scanFrom, hk, flagBehind]
  | flags => simp [scanFrom, hk, flagBehind]
  | obsolete => simp [scanFrom, hk, flagBehind]
  | extractedComment => simp [scanFrom, hk, flagBehind]
  | other => simp [scanFrom, hk, flagBehind]

/-- The messages of a scan, each with the line at which it starts and the lines above and
below that. -/
theorem mem_scanFrom {header : Option Nat} {n : Nat} {waiting : Bool} {lines : List Text}
    {m : Message} :
    m ∈ scanFrom header n waiting none lines ↔
      ∃ above line below, lines = above ++ line :: below ∧ Line.kind line = .messageStart ∧
        m = begun header (n + above.length) (flagAfter waiting above) line below := by
  induction lines generalizing n waiting with
  | nil => simp
  | cons first rest ih =>
    rw [scanFrom_none_cons, List.mem_append, ih]
    constructor
    · rintro (h | ⟨above, line, below, rfl, hk, rfl⟩)
      · split at h
        · rename_i hk
          exact ⟨[], first, rest, rfl, hk, List.mem_singleton.mp h⟩
        · cases h
      · refine ⟨first :: above, line, below, rfl, hk, ?_⟩
        rw [List.length_cons, show n + (above.length + 1) = n + 1 + above.length by omega]
        rfl
    · rintro ⟨above, line, below, he, hk, rfl⟩
      cases above with
      | nil =>
        obtain ⟨rfl, rfl⟩ := List.cons.inj he
        exact Or.inl (by simp [hk, flagAfter])
      | cons a above =>
        obtain ⟨rfl, rfl⟩ := List.cons.inj he
        refine Or.inr ⟨above, line, below, rfl, hk, ?_⟩
        rw [List.length_cons, show n + (above.length + 1) = n + 1 + above.length by omega]
        rfl

/-- The messages of a catalogue are those begun at its lines that start one. -/
theorem mem_scan {lines : List Text} {m : Message} :
    m ∈ scan lines ↔
      ∃ above line below, lines = above ++ line :: below ∧ Line.kind line = .messageStart ∧
        m = begun (Metadata.headerIndex? lines) (1 + above.length) (flagAfter false above)
          line below :=
  mem_scanFrom

/-! ## A scan in two parts -/

theorem scanFrom_append (header : Option Nat) (n : Nat) (waiting : Bool)
    (first second : List Text) :
    scanFrom header n waiting none (first ++ second) =
      startsIn header n waiting first second ++
        scanFrom header (n + first.length) (flagAfter waiting first) none second := by
  induction first generalizing n waiting with
  | nil => rfl
  | cons line rest ih =>
    have hl : n + (line :: rest).length = n + 1 + rest.length := by
      rw [List.length_cons]
      omega
    rw [List.cons_append, scanFrom_none_cons, ih, startsIn, hl]
    split <;> rfl

theorem length_startsIn (header : Option Nat) (n : Nat) (waiting : Bool)
    (first below : List Text) :
    (startsIn header n waiting first below).length =
      first.countP (Line.kind · == .messageStart) := by
  induction first generalizing n waiting with
  | nil => rfl
  | cons line rest ih =>
    by_cases hk : Line.kind line = .messageStart
    · simp [startsIn, hk, ih]
    · simp [startsIn, hk, ih]

theorem line_of_mem_startsIn {header : Option Nat} {n : Nat} {waiting : Bool}
    {first below : List Text} {m : Message} (hm : m ∈ startsIn header n waiting first below) :
    n ≤ m.line ∧ m.line < n + first.length ∧ m.isHeader = header.any (· + 1 == m.line) := by
  induction first generalizing n waiting with
  | nil => cases hm
  | cons line rest ih =>
    rw [List.length_cons]
    unfold startsIn at hm
    split at hm
    · rcases List.mem_cons.mp hm with rfl | hm
      · simp only [begun]
        exact ⟨Nat.le_refl _, by omega, trivial⟩
      · obtain ⟨h₁, h₂, h₃⟩ := ih hm
        exact ⟨by omega, by omega, h₃⟩
    · obtain ⟨h₁, h₂, h₃⟩ := ih hm
      exact ⟨by omega, by omega, h₃⟩

theorem line_of_mem_scanFrom {header : Option Nat} {n : Nat} {waiting : Bool}
    {lines : List Text} {m : Message} (hm : m ∈ scanFrom header n waiting none lines) :
    n ≤ m.line ∧ m.isHeader = header.any (· + 1 == m.line) := by
  have hs : scanFrom header n waiting none lines = startsIn header n waiting lines [] := by
    simpa using scanFrom_append header n waiting lines []
  rw [hs] at hm
  exact ⟨(line_of_mem_startsIn hm).1, (line_of_mem_startsIn hm).2.2⟩

/-! ## Where a message ends -/

/-- A message that starts behind the lines ends the search, and comes to be known no further. -/
theorem firstEmpty_append_start {first : Text} (hk : Line.kind first = .messageStart) (n : Nat)
    (lines below other : List Text) :
    firstEmpty n (lines ++ first :: below) = firstEmpty n (lines ++ first :: other) := by
  induction lines generalizing n with
  | nil => simp [firstEmpty, hk]
  | cons line rest ih =>
    have he : endsTranslation (rest ++ first :: below) = endsTranslation (rest ++ first :: other) := by
      cases rest <;> rfl
    rw [List.cons_append, List.cons_append, firstEmpty, firstEmpty, he, ih]

theorem firstEmpty_lt {first : Text} (hk : Line.kind first = .messageStart) {n k : Nat}
    {lines below : List Text} (hf : firstEmpty n (lines ++ first :: below) = some k) :
    n ≤ k ∧ k < n + lines.length := by
  induction lines generalizing n with
  | nil => simp [firstEmpty, hk] at hf
  | cons line rest ih =>
    rw [List.length_cons]
    rw [List.cons_append, firstEmpty] at hf
    split_ifs at hf with h₁ h₂
    · cases hf
      omega
    · have := ih hf
      omega

/-- The search ends at a line that starts an empty translation. -/
theorem exists_getElem?_of_firstEmpty {n k : Nat} {lines : List Text}
    (hf : firstEmpty n lines = some k) :
    ∃ i line, k = n + i ∧ lines[i]? = some line ∧ Line.kind line = .emptyTranslation := by
  induction lines generalizing n with
  | nil => cases hf
  | cons line rest ih =>
    rw [firstEmpty] at hf
    split_ifs at hf with h₁ h₂
    · cases hf
      exact ⟨0, line, rfl, rfl, h₂.1⟩
    · obtain ⟨i, line', rfl, hline, hk⟩ := ih hf
      exact ⟨i + 1, line', by omega, hline, hk⟩

/-- The messages of a part are settled once the next message starts. -/
theorem startsIn_append_start {first : Text} (hk : Line.kind first = .messageStart)
    (header : Option Nat) (n : Nat) (waiting : Bool) (lines below other : List Text) :
    startsIn header n waiting lines (first :: below) =
      startsIn header n waiting lines (first :: other) := by
  induction lines generalizing n waiting with
  | nil => rfl
  | cons line rest ih =>
    simp only [startsIn, begun, firstEmpty_append_start hk _ rest below other, ih]

/-! ## Moved lines -/

/-- A message with its line numbers changed. -/
def mapLines (f : Nat → Nat) (m : Message) : Message :=
  { m with line := f m.line, untranslatedLine := m.untranslatedLine.map f }

theorem firstEmpty_map {f : Nat → Nat} {n n' : Nat} (hf : ∀ i, f (n + i) = n' + i)
    (lines : List Text) : firstEmpty n' lines = (firstEmpty n lines).map f := by
  induction lines generalizing n n' with
  | nil => rfl
  | cons line rest ih =>
    have hn : f n = n' := hf 0
    have hi : firstEmpty (n' + 1) rest = (firstEmpty (n + 1) rest).map f := by
      refine ih fun i => ?_
      rw [Nat.add_assoc, hf, Nat.add_assoc]
    simp only [firstEmpty, hi]
    split_ifs <;> simp [hn]

/-- Lines that move as a whole below the header entry take their messages with them. -/
theorem scanFrom_map {f : Nat → Nat} {h n n' : Nat} (hf : ∀ i, f (n + i) = n' + i)
    (hn : h + 1 < n) (hn' : h + 1 < n') (waiting : Bool) (lines : List Text) :
    scanFrom (some h) n' waiting none lines =
      (scanFrom (some h) n waiting none lines).map (mapLines f) := by
  induction lines generalizing n n' waiting with
  | nil => rfl
  | cons line rest ih =>
    have hf' : ∀ i, f (n + 1 + i) = n' + 1 + i := fun i => by
      rw [Nat.add_assoc, hf, Nat.add_assoc]
    have hi := ih hf' (by omega) (by omega) (flagBehind waiting line)
    have hb : begun (some h) n' waiting line rest =
        mapLines f (begun (some h) n waiting line rest) := by
      have h₁ : (h + 1 == n) = false := beq_false_of_ne (by omega)
      have h₂ : (h + 1 == n') = false := beq_false_of_ne (by omega)
      simp only [begun, mapLines, firstEmpty_map hf', Option.any_some, h₁, h₂]
      rw [show f n = n' from hf 0]
    rw [scanFrom_none_cons, scanFrom_none_cons, hi, List.map_append, hb]
    split_ifs <;> rfl

theorem startsIn_map {first : Text} (hk : Line.kind first = .messageStart) {f : Nat → Nat}
    {n : Nat} {lines : List Text} (hf : ∀ k, k < n + lines.length → f k = k)
    (header : Option Nat) (waiting : Bool) (below : List Text) :
    (startsIn header n waiting lines (first :: below)).map (mapLines f) =
      startsIn header n waiting lines (first :: below) := by
  induction lines generalizing n waiting with
  | nil => rfl
  | cons line rest ih =>
    rw [List.length_cons] at hf
    have hi := ih (n := n + 1) (fun k hk => hf k (by omega)) (flagBehind waiting line)
    have hb : mapLines f (begun header n waiting line (rest ++ first :: below)) =
        begun header n waiting line (rest ++ first :: below) := by
      have he : (firstEmpty (n + 1) (rest ++ first :: below)).map f =
          firstEmpty (n + 1) (rest ++ first :: below) := by
        cases he : firstEmpty (n + 1) (rest ++ first :: below) with
        | none => rfl
        | some k =>
          have := firstEmpty_lt hk he
          rw [Option.map_some, hf k (by omega)]
      simp only [begun, mapLines, he]
      rw [hf n (by omega)]
    simp only [startsIn]
    split_ifs
    · rw [List.map_cons, hb, hi]
    · exact hi

/-! ## A flag in front of a scan -/

/-- Whether a flag that waits in front of the lines falls to a message which has no other. -/
def flagReaches : List Text → Bool
  | [] => false
  | line :: rest =>
    match Line.kind line with
    | .messageStart => true
    | .obsolete => false
    | .flags => !Line.isFuzzy line && flagReaches rest
    | .extractedComment | .emptyTranslation | .other => flagReaches rest

/-- A flag in front of a scan matters exactly if it reaches a message. -/
theorem scanFrom_waiting_iff (header : Option Nat) (n : Nat) (lines : List Text) :
    scanFrom header n false none lines = scanFrom header n true none lines ↔
      flagReaches lines = false := by
  induction lines generalizing n with
  | nil => simp [flagReaches]
  | cons line rest ih =>
    rw [scanFrom_none_cons, scanFrom_none_cons]
    cases hk : Line.kind line with
    | messageStart => simp [begun, flagReaches, hk]
    | obsolete => simp [flagBehind, flagReaches, hk]
    | flags =>
      by_cases hfz : Line.isFuzzy line = true
      · simp [flagBehind, flagReaches, hk, hfz]
      · simp [flagBehind, flagReaches, hk, hfz, ih]
    | emptyTranslation => simp [flagBehind, flagReaches, hk, ih]
    | extractedComment => simp [flagBehind, flagReaches, hk, ih]
    | other => simp [flagBehind, flagReaches, hk, ih]

/-- A message without its flag. -/
def unflag (m : Message) : Message := { m with fuzzy := false }

/-- The flags aside, a scan finds the same whether or not one waits in front of it. -/
theorem scanFrom_unflag (header : Option Nat) (n : Nat) (waiting waiting' : Bool)
    (lines : List Text) :
    (scanFrom header n waiting none lines).map unflag =
      (scanFrom header n waiting' none lines).map unflag := by
  induction lines generalizing n waiting waiting' with
  | nil => rfl
  | cons line rest ih =>
    rw [scanFrom_none_cons, scanFrom_none_cons, List.map_append, List.map_append,
      ih (n + 1) (flagBehind waiting line) (flagBehind waiting' line)]
    split_ifs <;> rfl

end CatalogLint.Message
