import CatalogLint.Proofs.Text.Lines
import Mathlib.Data.List.Basic
import Mathlib.Data.Set.Function
import Mathlib.Tactic.SplitIfs

/-!
# The one way to cut a text into lines

The lines of a text are not empty, have a line feed at their end at most, and have one there unless
they are the last (`IsSplit`). There is one such list for each text, and one text for each such list
(`lines_bijOn`).

A text can be cut by its bytes, too: at the positions of the bytes that are line feeds, each piece
from behind the last position on (`cutLines?`). No other character has the byte of a line feed in
UTF-8, so that every piece is within the bytes and is a line (`cutLines?_bytes`).
-/

namespace CatalogLint

/-! ## Slices -/

section Slices

variable {α : Type}

/-- The elements from the index `i` up to and without the index `j`, if these are in order and in
range. -/
def slice? (xs : List α) (i j : Nat) : Option (List α) :=
  if i ≤ j ∧ j ≤ xs.length then some ((xs.take j).drop i) else none

theorem slice?_append (front middle back : List α) {i j : Nat} (hi : i = front.length)
    (hj : j = front.length + middle.length) :
    slice? (front ++ (middle ++ back)) i j = some middle := by
  have hrange : i ≤ j ∧ j ≤ (front ++ (middle ++ back)).length := by
    simp only [List.length_append]
    omega
  have htake : (front ++ (middle ++ back)).take j = front ++ middle := by
    rw [← List.append_assoc]
    exact List.take_left' (by rw [hj, List.length_append])
  rw [slice?, if_pos hrange, htake, List.drop_left' hi.symm]

end Slices

namespace Text

/-! ## The form of lines -/

/-- A list of texts as a text is cut into them. -/
structure IsSplit (ls : List Text) : Prop where
  ne_nil : ∀ line ∈ ls, line ≠ []
  /-- A line feed is the last character of its line. -/
  feed_last : ∀ line ∈ ls, '\n' ∉ line.dropLast
  /-- Every line but the last ends with a line feed. -/
  ends : ∀ line ∈ ls.dropLast, line.getLast? = some '\n'

theorem IsSplit.tail {line : Text} {rest : List Text} (h : IsSplit (line :: rest)) :
    IsSplit rest := by
  refine ⟨?_, ?_, ?_⟩
  · intro l hl
    exact h.ne_nil l (List.mem_cons_of_mem line hl)
  · intro l hl
    exact h.feed_last l (List.mem_cons_of_mem line hl)
  · intro l hl
    apply h.ends
    cases rest with
    | nil => cases hl
    | cons next rest => exact List.mem_cons_of_mem line hl

theorem AreLines.isSplit {ls : List Text} (h : AreLines ls) : IsSplit ls := by
  induction h with
  | nil => exact ⟨nofun, nofun, nofun⟩
  | @last line hne hline =>
    refine ⟨?_, ?_, nofun⟩
    · intro l hl
      rw [List.mem_singleton.mp hl]
      exact hne
    · intro l hl
      rw [List.mem_singleton.mp hl]
      intro hmem
      exact hline (List.dropLast_subset line hmem)
  | @cons body rest hbody hrest ih =>
    refine ⟨?_, ?_, ?_⟩
    · rw [List.forall_mem_cons]
      exact ⟨by simp, ih.ne_nil⟩
    · rw [List.forall_mem_cons, List.dropLast_concat]
      exact ⟨hbody, ih.feed_last⟩
    · intro l hl
      cases rest with
      | nil => cases hl
      | cons next rest =>
        rw [List.dropLast_cons_cons, List.mem_cons] at hl
        rcases hl with rfl | hl
        · exact List.getLast?_concat
        · exact ih.ends l hl

theorem IsSplit.areLines {ls : List Text} (h : IsSplit ls) : AreLines ls := by
  induction ls with
  | nil => exact .nil
  | cons line rest ih =>
    have hrest : AreLines rest := ih h.tail
    obtain ⟨body, c, rfl⟩ : ∃ body c, line = body ++ [c] := by
      have hne := h.ne_nil line List.mem_cons_self
      exact ⟨line.dropLast, line.getLast hne, (List.dropLast_append_getLast hne).symm⟩
    have hbody : '\n' ∉ body := by
      have hfeed := h.feed_last _ List.mem_cons_self
      rwa [List.dropLast_concat] at hfeed
    by_cases hc : c = '\n'
    · subst hc
      exact .cons hbody hrest
    · -- Without its line feed the line is the last one.
      cases rest with
      | nil =>
        apply AreLines.last
        · simp
        · rw [List.mem_append, List.mem_singleton, not_or]
          exact ⟨hbody, Ne.symm hc⟩
      | cons next rest =>
        have hend := h.ends (body ++ [c]) List.mem_cons_self
        rw [List.getLast?_concat] at hend
        exact absurd (Option.some.inj hend) hc

/-! ## Bytes -/

/-- The bytes of a text in UTF-8. -/
def bytes (t : Text) : List UInt8 := t.flatMap String.utf8EncodeChar

/-- The byte of a line feed. -/
def feed : UInt8 := 10

theorem bytes_append (s t : Text) : bytes (s ++ t) = bytes s ++ bytes t := List.flatMap_append

theorem bytes_feed : bytes ['\n'] = [feed] := rfl

theorem length_bytes (t : Text) : t.bytes.length = utf8Length t := by
  induction t with
  | nil => rfl
  | cons c t ih =>
    rw [bytes, List.flatMap_cons, List.length_append, String.length_utf8EncodeChar, utf8Length, ← ih,
      bytes]

theorem bytes_ne_nil {t : Text} (h : t ≠ []) : t.bytes ≠ [] := by
  cases t with
  | nil => exact absurd rfl h
  | cons c t =>
    intro hnil
    exact String.utf8EncodeChar_ne_nil (List.append_eq_nil_iff.mp hnil).1

theorem feed_ne_toUInt8 {n : Nat} (h : n % 256 ≠ 10) : feed ≠ n.toUInt8 := by
  intro heq
  apply h
  have hval := congrArg UInt8.toNat heq
  rw [UInt8.toNat_ofNat'] at hval
  exact hval.symm

/-- All bytes of a character from 128 on are from 128 on. -/
theorem feed_not_mem_utf8EncodeChar {c : Char} (hc : c ≠ '\n') :
    feed ∉ String.utf8EncodeChar c := by
  have hval : c.toNat ≠ 10 := by
    intro h
    exact hc (Char.ext (UInt32.toNat_inj.mp h))
  unfold String.utf8EncodeChar
  dsimp only
  rw [Char.toNat_val]
  -- The cases are the numbers of bytes.
  split_ifs
  · rw [List.mem_singleton]
    exact feed_ne_toUInt8 (by omega)
  · simp only [List.mem_cons, List.not_mem_nil, or_false, not_or]
    exact ⟨feed_ne_toUInt8 (by omega), feed_ne_toUInt8 (by omega)⟩
  · simp only [List.mem_cons, List.not_mem_nil, or_false, not_or]
    exact ⟨feed_ne_toUInt8 (by omega), feed_ne_toUInt8 (by omega), feed_ne_toUInt8 (by omega)⟩
  · simp only [List.mem_cons, List.not_mem_nil, or_false, not_or]
    exact ⟨feed_ne_toUInt8 (by omega), feed_ne_toUInt8 (by omega), feed_ne_toUInt8 (by omega),
      feed_ne_toUInt8 (by omega)⟩

theorem feed_not_mem_bytes {t : Text} (h : '\n' ∉ t) : feed ∉ t.bytes := by
  intro hmem
  obtain ⟨c, hc, hbyte⟩ := List.mem_flatMap.mp hmem
  by_cases hfeed : c = '\n'
  · exact h (hfeed ▸ hc)
  · exact feed_not_mem_utf8EncodeChar hfeed hbyte

/-! ## Cutting bytes -/

/-- Cuts bytes behind each of the given positions, the first piece from `start` on. What stands
behind the last position is a piece if there is something. -/
def cutFrom? (bs : List UInt8) (start : Nat) : List Nat → Option (List (List UInt8))
  | [] => if start < bs.length then (slice? bs start bs.length).map ([·]) else some []
  | position :: rest =>
    match slice? bs start (position + 1), cutFrom? bs (position + 1) rest with
    | some piece, some pieces => some (piece :: pieces)
    | _, _ => none

/-- Cuts bytes behind each line feed. -/
def cutLines? (bs : List UInt8) : Option (List (List UInt8)) :=
  cutFrom? bs 0 (bs.findIdxs (· == feed))

theorem findIdxs_feed_eq_nil {t : Text} (h : '\n' ∉ t) (n : Nat) :
    t.bytes.findIdxs (· == feed) n = [] := by
  apply List.findIdxs_eq_nil_iff.mpr
  intro b hb
  apply beq_false_of_ne
  rintro rfl
  exact feed_not_mem_bytes h hb

/-- Behind bytes that are cut already, the pieces are the bytes of the lines to come. -/
theorem cutFrom?_append {ls : List Text} (h : AreLines ls) (front : List UInt8) :
    cutFrom? (front ++ bytes ls.flatten) front.length
        ((bytes ls.flatten).findIdxs (· == feed) front.length) = some (ls.map bytes) := by
  induction h generalizing front with
  | nil =>
    have hend : ¬ front.length < (front ++ bytes (List.flatten [])).length := by
      simp [bytes]
    rw [List.flatten_nil, show (bytes []).findIdxs (· == feed) front.length = [] from rfl, cutFrom?]
    exact if_neg hend
  | @last line hne hline =>
    have hrest : front.length < (front ++ bytes line).length := by
      have := List.length_pos_iff.mpr (bytes_ne_nil hne)
      rw [List.length_append]
      omega
    have hslice : slice? (front ++ bytes line) front.length (front ++ bytes line).length =
        some (bytes line) := by
      have := slice?_append front (bytes line) [] rfl rfl
      rwa [List.append_nil, ← List.length_append] at this
    rw [List.flatten_singleton, findIdxs_feed_eq_nil hline, cutFrom?, if_pos hrest, hslice]
    rfl
  | @cons body rest hbody hrest ih =>
    -- The first line feed is the one behind the body.
    have hbytes : bytes ((body ++ ['\n']) :: rest).flatten =
        bytes (body ++ ['\n']) ++ bytes rest.flatten := by
      rw [List.flatten_cons, bytes_append]
    have hlength : (bytes (body ++ ['\n'])).length = (bytes body).length + 1 := by
      rw [bytes_append, List.length_append, bytes_feed, List.length_singleton]
    have hpositions : (bytes ((body ++ ['\n']) :: rest).flatten).findIdxs (· == feed) front.length =
        (front.length + (bytes body).length) ::
          (bytes rest.flatten).findIdxs (· == feed) (front.length + (bytes body).length + 1) := by
      rw [hbytes, bytes_append, List.append_assoc, List.findIdxs_append,
        findIdxs_feed_eq_nil hbody, bytes_feed]
      simp
    have hslice : slice? (front ++ (bytes (body ++ ['\n']) ++ bytes rest.flatten)) front.length
        (front.length + (bytes body).length + 1) = some (bytes (body ++ ['\n'])) :=
      slice?_append front _ _ rfl (by omega)
    have hih := ih (front ++ bytes (body ++ ['\n']))
    rw [List.append_assoc, List.length_append, hlength, ← Nat.add_assoc] at hih
    rw [hpositions, hbytes, cutFrom?, hslice, hih]
    rfl

theorem cutLines?_bytes (t : Text) : cutLines? t.bytes = some (t.lines.map bytes) := by
  have h := cutFrom?_append (areLines_lines t) []
  rwa [flatten_lines] at h

/-- Cutting a text into lines and putting lines one after the other undo each other: the lines of a
text are in the form of lines and come to the text, and texts in that form are the lines of what they
come to. So there is one list of that form for each text. Cutting the bytes of a text at its line
feeds never leaves their range, and gives the bytes of its lines. -/
theorem lines_bijOn :
    (∀ t : Text, t.lines.flatten = t ∧ IsSplit t.lines) ∧
    (∀ ls : List Text, IsSplit ls → Text.lines ls.flatten = ls) ∧
    Set.BijOn lines Set.univ {ls | IsSplit ls} ∧
    Set.BijOn List.flatten {ls : List Text | IsSplit ls} Set.univ ∧
    ∀ t : Text, cutLines? t.bytes = some (t.lines.map bytes) := by
  have hsplit : ∀ t : Text, IsSplit t.lines := fun t => (areLines_lines t).isSplit
  have hlines : ∀ ls : List Text, IsSplit ls → Text.lines ls.flatten = ls := fun ls h =>
    lines_flatten h.areLines
  have hinv : Set.InvOn List.flatten lines Set.univ {ls | IsSplit ls} :=
    ⟨fun t _ => flatten_lines t, hlines⟩
  refine ⟨fun t => ⟨flatten_lines t, hsplit t⟩, hlines, ?_, ?_, cutLines?_bytes⟩
  · apply hinv.bijOn
    · exact fun t _ => hsplit t
    · exact fun ls _ => Set.mem_univ _
  · apply hinv.symm.bijOn
    · exact fun ls _ => Set.mem_univ _
    · exact fun t _ => hsplit t

end Text

end CatalogLint
