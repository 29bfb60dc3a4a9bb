import CatalogLint.Catalog.Tally
import CatalogLint.Proofs.Catalog.Partition
import CatalogLint.Rule.Basic
import Mathlib.Tactic.SplitIfs

/-!
# What the rules count

The tally of a catalogue and the rules count the same messages. The messages besides the header
entry are translated, fuzzy or untranslated (`length_scanBody`); with the header entry they are
the lines that start a message (`length_scanBody_add`), which the limit on messages counts less
one. A fuzzy message with an empty translation is a finding of the rule on untranslated messages,
though the tally does not count it as untranslated.

A flag serves one message at most: what waits in front of a scan and what its lines hold bounds
the fuzzy messages (`countP_fuzzy_scanFrom_le`), so that there are at least as many findings on
flags as fuzzy messages.
-/

namespace CatalogLint

namespace Message

/-! ## Flags -/

/-- A line gives its flag, and the one that waits in front of it, to one message at most. -/
theorem flagBehind_toNat_le (waiting : Bool) (line : Text) :
    (if Line.kind line = .messageStart then waiting.toNat else 0) +
        (flagBehind waiting line).toNat ≤
      waiting.toNat + (Line.isFuzzy line).toNat := by
  cases hk : Line.kind line with
  | messageStart => simp [flagBehind, hk]
  | flags =>
    cases waiting with
    | false => simp [flagBehind, hk]
    | true => simp [flagBehind, hk]
  | obsolete => simp [flagBehind, hk]
  | extractedComment => simp [flagBehind, hk]
  | emptyTranslation => simp [flagBehind, hk]
  | other => simp [flagBehind, hk]

/-- A scan finds no more fuzzy messages than there are flags. -/
theorem countP_fuzzy_scanFrom_le (header : Option Nat) (n : Nat) (waiting : Bool)
    (lines : List Text) :
    (scanFrom header n waiting none lines).countP (·.fuzzy) ≤
      waiting.toNat + lines.countP Line.isFuzzy := by
  induction lines generalizing n waiting with
  | nil => simp
  | cons line rest ih =>
    have hline := flagBehind_toNat_le waiting line
    have hrest := ih (n + 1) (flagBehind waiting line)
    have hhead : (if Line.kind line = .messageStart then [begun header n waiting line rest]
        else []).countP (·.fuzzy) =
          if Line.kind line = .messageStart then waiting.toNat else 0 := by
      split_ifs
      · cases waiting <;> rfl
      · rfl
    have hcount : (line :: rest).countP Line.isFuzzy =
        rest.countP Line.isFuzzy + (Line.isFuzzy line).toNat := by
      rw [List.countP_cons]
      cases Line.isFuzzy line <;> rfl
    rw [scanFrom_none_cons, List.countP_append, hhead, hcount]
    omega

/-! ## Messages besides the header entry -/

theorem countP_fuzzy_scanBody_le (lines : List Text) :
    (scanBody lines).countP (·.fuzzy) ≤ lines.countP Line.isFuzzy := by
  have hscan := countP_fuzzy_scanFrom_le (Metadata.headerIndex? lines) 1 false lines
  have hbody : (scanBody lines).countP (·.fuzzy) ≤ (scan lines).countP (·.fuzzy) :=
    List.filter_sublist.countP_le
  simp only [Bool.toNat_false, Nat.zero_add] at hscan
  exact hbody.trans hscan

theorem length_scanBody_add (lines : List Text) :
    (scanBody lines).length + (if Metadata.locate lines = .noHeader then 0 else 1) =
      countStarts lines := by
  have hsplit := List.length_eq_countP_add_countP (·.isHeader) (l := scan lines)
  have hbody : (scanBody lines).length = (scan lines).countP (fun m => ¬ m.isHeader = true) := by
    rw [scanBody, List.countP_eq_length_filter]
    congr 1
    exact List.filter_congr fun m _ => by cases m.isHeader <;> rfl
  rw [← countP_isHeader, ← length_scan, hbody]
  omega

end Message

namespace Tally

/-- What satisfies `p` satisfies `q` as well or does not. -/
theorem countP_eq_and_add {α : Type} (p q : α → Bool) (l : List α) :
    l.countP p = l.countP (fun a => q a && p a) + l.countP (fun a => !q a && p a) := by
  rw [List.countP_eq_countP_filter_add l p q, List.countP_filter, List.countP_filter]
  simp only [Bool.and_comm (p _)]

/-- A message besides the header entry is translated, fuzzy or untranslated. -/
theorem length_scanBody (lines : List Text) :
    (Message.scanBody lines).length =
      (ofLines lines).translated + (ofLines lines).fuzzy + (ofLines lines).untranslated := by
  have hfuzzy := countP_eq_and_add (fun _ => true) (·.fuzzy) (Message.scanBody lines)
  have hrest := countP_eq_and_add (fun m => !m.fuzzy) (·.isTranslated) (Message.scanBody lines)
  simp only [List.countP_true, Bool.and_true] at hfuzzy
  simp only [Bool.and_comm _ (!Message.fuzzy _)] at hrest
  simp only [ofLines]
  omega

/-- The messages with an empty translation are the untranslated ones and some of the fuzzy ones. -/
theorem length_untranslatedLines (lines : List Text) :
    (Translation.untranslatedLines lines).length =
      (ofLines lines).untranslated +
        (Message.scanBody lines).countP (fun m => m.fuzzy && m.untranslatedLine.isSome) := by
  have hsplit := countP_eq_and_add (·.untranslatedLine.isSome) (·.fuzzy) (Message.scanBody lines)
  rw [Translation.untranslatedLines, List.length_filterMap_eq_countP, hsplit, Nat.add_comm]
  simp only [ofLines, Message.isTranslated, Option.not_isNone]

end Tally

namespace Rule

theorem length_findings_violationsAt (message : Text) (lines : List Nat) :
    (violationsAt message lines).findings.length = lines.length := by
  simp [violationsAt, Inspection.ofViolations]

theorem failed_violationsAt_eq_false_iff {message : Text} {lines : List Nat} :
    (violationsAt message lines).failed = false ↔ lines = [] := by
  simp [violationsAt, Inspection.ofViolations]

/-- The tally and the rules agree on the messages of a catalogue: the tally adds up; with the
header entry it counts the lines that start a message, and the limit on messages applies to their
number less one; obsolete messages are the findings on them; a finding on untranslated messages is
one that the tally counts as untranslated or a fuzzy one with an empty translation; and there is a
finding on flags for each fuzzy message. -/
theorem inspect_counts_messages (lines : List Text) (most : Int) (longest : Option Int) :
    let tally := Tally.ofLines lines
    let headers := if Metadata.locate lines = .noHeader then 0 else 1
    let count : Int := (tally.translated + tally.fuzzy + tally.untranslated + headers : Nat) - 1
    tally.total = tally.translated + tally.fuzzy + tally.untranslated + tally.obsolete ∧
    tally.translated + tally.fuzzy + tally.untranslated + headers = Message.countStarts lines ∧
    ((limited { messages := some most, lines := longest }).inspect lines).findings =
      (if most < count then
        [{ message := "More messages (" ++ Text.ofInt count ++ ") than allowed (" ++
            Text.ofInt most ++ ")" }]
      else []) ++ ((limited { lines := longest }).inspect lines).findings ∧
    (((limited { messages := some most }).inspect lines).failed = true ↔ most < count) ∧
    tally.obsolete = (noObsolete.inspect lines).findings.length ∧
    ((translated none).inspect lines).findings.length =
      tally.untranslated +
        (Message.scanBody lines).countP (fun m => m.fuzzy && m.untranslatedLine.isSome) ∧
    tally.fuzzy ≤ (noFuzzy.inspect lines).findings.length ∧
    ((noFuzzy.inspect lines).failed = false → tally.fuzzy = 0) := by
  intro tally headers count
  have hbody := Tally.length_scanBody lines
  have hstarts : tally.translated + tally.fuzzy + tally.untranslated + headers =
      Message.countStarts lines := by
    rw [← Message.length_scanBody_add, hbody]
  have hcount : Limits.countMessages lines = count := by
    rw [Limits.countMessages, ← hstarts]
  have hfuzzy : tally.fuzzy ≤ (noFuzzy.inspect lines).findings.length := by
    rw [inspect, length_findings_violationsAt, length_numbersWhere]
    exact Message.countP_fuzzy_scanBody_le lines
  refine ⟨?_, hstarts, ?_, ?_, ?_, ?_, hfuzzy, ?_⟩
  · rw [← hbody]
    rfl
  · simp only [inspect, Limits.inspect, Inspection.ofViolations, hcount]
    rfl
  · simp only [inspect, Limits.inspect, Inspection.ofViolations, Limits.exceeded, hcount]
    split_ifs with h
    · simp [h]
    · simp [h]
  · rw [inspect, length_findings_violationsAt]
    rfl
  · rw [← Tally.length_untranslatedLines]
    simp [inspect, Translation.inspect, Inspection.ofViolations]
  · intro hpass
    rw [inspect, failed_violationsAt_eq_false_iff] at hpass
    rw [inspect, length_findings_violationsAt, hpass, List.length_nil] at hfuzzy
    exact Nat.le_zero.mp hfuzzy

/-- An empty translation with a flag is a finding though it is not counted as untranslated; without
the flag there is no finding on flags. -/
theorem inspect_counts_messages_flagged :
    ((translated none).inspect ["#, fuzzy\n", "msgid \"a\"\n", "msgstr \"\"\n"]).findings.length =
        0 + 1 ∧
      (noFuzzy.inspect ["msgid \"a\"\n", "msgstr \"\"\n"]).failed = false ∧
      (Tally.ofLines ["msgid \"a\"\n", "msgstr \"\"\n"]).fuzzy = 0 := by
  obtain ⟨-, -, -, -, -, huntranslated, -, -⟩ := inspect_counts_messages
    ["#, fuzzy\n", "msgid \"a\"\n", "msgstr \"\"\n"] 0 none
  obtain ⟨-, -, -, -, -, -, -, hfuzzy⟩ := inspect_counts_messages
    ["msgid \"a\"\n", "msgstr \"\"\n"] 0 none
  exact ⟨huntranslated, by decide, hfuzzy (by decide)⟩

end Rule

end CatalogLint
