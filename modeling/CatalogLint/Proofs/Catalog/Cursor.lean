import CatalogLint.Proofs.Catalog.Scan

/-!
# Messages one at a time

A `Cursor` stands in front of a line and hands out the messages below it one by one. To hand out
a message it has to walk up to the line on which the next one starts, and it leaves that line to the
next call; a flag that waits there waits for the next call as well. `Cursor.Yields` tells what calls
hand out, one after the other, until there is no message any more: from any place the calls come to
an end, with the messages of the scan and nothing else (`Cursor.yields_iff`).
-/

namespace CatalogLint.Message

/-- A place in a catalogue. -/
structure Cursor where
  /-- The index of the header entry. -/
  header : Option Nat
  /-- The number of the line below the cursor. -/
  number : Nat
  /-- Whether a flag waits for the next message. -/
  waiting : Bool
  /-- The lines below the cursor. -/
  below : List Text
  deriving DecidableEq, Repr

namespace Cursor

/-- The cursor above the first line of a catalogue. -/
def atTop (lines : List Text) : Cursor := ⟨Metadata.headerIndex? lines, 1, false, lines⟩

/-- Walks down the lines with the message `open?`, to the end or to the line that starts the message
behind it. -/
def walk (header : Option Nat) (n : Nat) (waiting : Bool) (open? : Option Message) :
    List Text → Option Message × Cursor
  | [] => (open?, ⟨header, n, waiting, []⟩)
  | line :: rest =>
    match Line.kind line with
    | .messageStart =>
      match open? with
      | some m => (some m, ⟨header, n, waiting, line :: rest⟩)
      | none =>
        let message : Message :=
          { line := n
            emptyId := Line.hasEmptyId line
            isHeader := header.any (· + 1 == n)
            untranslatedLine := none
            fuzzy := waiting }
        walk header (n + 1) false (some message) rest
    | .emptyTranslation =>
      let open? := if endsTranslation rest then open?.map (markUntranslated n) else open?
      walk header (n + 1) waiting open? rest
    | .flags => walk header (n + 1) (waiting || Line.isFuzzy line) open? rest
    | .obsolete => walk header (n + 1) false open? rest
    | .extractedComment | .other => walk header (n + 1) waiting open? rest

/-- The next message, if there is one, and the place behind it. -/
def next (c : Cursor) : Option Message × Cursor := walk c.header c.number c.waiting none c.below

/-- The messages that calls hand out up to the first that has none. -/
inductive Yields : Cursor → List Message → Prop
  | stop {c rest : Cursor} (hnext : c.next = (none, rest)) : Yields c []
  | more {c rest : Cursor} {m : Message} {ms : List Message} (hnext : c.next = (some m, rest))
      (hrest : Yields rest ms) : Yields c (m :: ms)

/-- The messages that a scan finds below the cursor. -/
def messages (c : Cursor) : List Message := scanFrom c.header c.number c.waiting none c.below

/-- A walk hands out the first message of the scan and leaves the others for later. -/
theorem scanFrom_eq_walk (header : Option Nat) (n : Nat) (waiting : Bool)
    (open? : Option Message) (lines : List Text) :
    scanFrom header n waiting open? lines =
      (walk header n waiting open? lines).1.elim []
        (· :: (walk header n waiting open? lines).2.messages) := by
  induction lines generalizing n waiting open? with
  | nil => cases open? <;> rfl
  | cons line rest ih =>
    cases hk : Line.kind line with
    | messageStart =>
      cases open? with
      | none =>
        rw [walk, scanFrom, hk]
        exact ih (n + 1) false _
      | some m => simp [walk, scanFrom, messages, hk]
    | emptyTranslation => simp [walk, scanFrom, hk, ih]
    | flags => simp [walk, scanFrom, hk, ih]
    | obsolete => simp [walk, scanFrom, hk, ih]
    | extractedComment => simp [walk, scanFrom, hk, ih]
    | other => simp [walk, scanFrom, hk, ih]

/-- One call takes the first message away. -/
theorem messages_eq_next (c : Cursor) :
    c.messages = c.next.1.elim [] (· :: c.next.2.messages) :=
  scanFrom_eq_walk c.header c.number c.waiting none c.below

theorem yields_messages (c : Cursor) : c.Yields c.messages := by
  -- Each call leaves fewer messages.
  generalize hms : c.messages = ms
  induction ms generalizing c with
  | nil =>
    have hc := messages_eq_next c
    cases hnext : c.next with
    | mk m? rest =>
      cases m? with
      | none => exact .stop hnext
      | some m => simp [hms, hnext] at hc
  | cons m ms ih =>
    have hc := messages_eq_next c
    cases hnext : c.next with
    | mk m? rest =>
      cases m? with
      | none => simp [hms, hnext] at hc
      | some m' =>
        rw [hms, hnext] at hc
        obtain ⟨rfl, hrest⟩ := List.cons.inj hc
        exact .more hnext (ih rest hrest.symm)

/-- Calls hand out nothing but the messages of the scan. -/
theorem Yields.eq_messages {c : Cursor} {ms : List Message} (h : c.Yields ms) :
    ms = c.messages := by
  induction h with
  | stop hnext => rw [messages_eq_next, hnext]; rfl
  | more hnext _ ih => rw [messages_eq_next, hnext, ih]; rfl

/-- The calls from any place come to an end, with the messages of the scan. -/
theorem yields_iff {c : Cursor} {ms : List Message} : c.Yields ms ↔ ms = c.messages := by
  constructor
  · exact Yields.eq_messages
  · rintro rfl
    exact yields_messages c

end Cursor

end CatalogLint.Message
