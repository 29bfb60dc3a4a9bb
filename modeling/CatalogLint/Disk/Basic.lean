import CatalogLint.Disk.Path

/-!
# The disk

A disk is a value: its entries by location, no two at the same one, the directories at which
other volumes are mounted, the working directory, and what cannot be listed. The root is a directory
that needs no entry.

* `Disk.get?` looks an entry up, `Disk.put` writes one and `Disk.erase` removes one; all else of a
  disk stays.
* `Disk.volume` tells two volumes apart, since a file cannot be renamed from one to another.
-/

namespace CatalogLint

/-- The content of a file: a text, or bytes that are no text in UTF-8. -/
inductive Content where
  | text (t : Text)
  | bytes (b : List UInt8)
  deriving DecidableEq, Repr

namespace Content

/-- The text that bytes write in UTF-8, if they do. -/
def decode? (b : List UInt8) : Option Text :=
  (String.fromUTF8? ⟨b.toArray⟩).map String.toList

/-- The text of the lines of `b` in front of the first that is no text in UTF-8, where `line`
is the start of the first line, its last byte first. -/
def decodeLines (line : List UInt8) : List UInt8 → Text
  | [] => (decode? line.reverse).getD []
  | b :: rest =>
    if b = 10 then
      match decode? (b :: line).reverse with
      | some t => t ++ decodeLines [] rest
      | none => []
    else decodeLines (b :: line) rest

/-- The text of the lines in front of the first that is no text. -/
def leadingText : Content → Text
  | text t => t
  | bytes b => decodeLines [] b

end Content

/-- An entry of a disk. A mode is the nine permission bits of a file or directory; the bits that set
the user or the group of a program, and the sticky bit, are not recorded. -/
inductive Entry where
  | file (content : Content) (mode : Nat)
  | link (target : Text)
  | directory (mode : Nat)
  deriving DecidableEq, Repr

/-- A disk. -/
structure Disk where
  entries : List (Location × Entry) := []
  /-- The directories that are roots of other volumes. -/
  mounts : List Location := []
  workingDirectory : Location := []
  /-- The directories that cannot be listed, and the other entries of which a listing says nothing,
  with the reason that the system gives. -/
  unreadable : List (Location × Text) := []
  distinct : (entries.map (·.1)).Nodup := by simp
  deriving DecidableEq, Repr

namespace Disk

/-- The mode of a directory that nobody gave one. -/
def directoryMode : Nat := 0o755

/-- The entry at a location. -/
def get? (d : Disk) (l : Location) : Option Entry :=
  if l = [] then some (.directory directoryMode) else d.entries.lookup l

/-- Whether there is a file at a location, and not a link to one. -/
def isFileAt (d : Disk) (l : Location) : Bool :=
  match d.get? l with
  | some (.file _ _) => true
  | _ => false

/-- Writes an entry over the first one of a list at its location, or adds it. -/
def putEntry (l : Location) (e : Entry) : List (Location × Entry) → List (Location × Entry)
  | [] => [(l, e)]
  | (m, f) :: rest => if m = l then (l, e) :: rest else (m, f) :: putEntry l e rest

theorem mem_putEntry {l m : Location} {e : Entry} {entries : List (Location × Entry)}
    (h : m ∈ (putEntry l e entries).map (·.1)) : m = l ∨ m ∈ entries.map (·.1) := by
  induction entries with
  | nil => simpa [putEntry] using h
  | cons head rest ih =>
    obtain ⟨n, f⟩ := head
    rw [putEntry] at h
    split at h
    · simp only [List.map_cons, List.mem_cons] at h ⊢
      exact h.imp id .inr
    · simp only [List.map_cons, List.mem_cons] at h ⊢
      rcases h with h | h
      · exact .inr (.inl h)
      · exact (ih h).imp id .inr

/-- Writing an entry leaves no two at the same location. -/
theorem nodup_putEntry {l : Location} {e : Entry} {entries : List (Location × Entry)}
    (h : (entries.map (·.1)).Nodup) : ((putEntry l e entries).map (·.1)).Nodup := by
  induction entries with
  | nil => simp [putEntry]
  | cons head rest ih =>
    obtain ⟨m, f⟩ := head
    simp only [List.map_cons, List.nodup_cons] at h
    rw [putEntry]
    split
    · rename_i hm
      simpa [← hm] using h
    · rename_i hm
      simp only [List.map_cons, List.nodup_cons]
      exact ⟨fun hmem => (mem_putEntry hmem).elim hm h.1, ih h.2⟩

theorem lookup_putEntry (l m : Location) (e : Entry) (entries : List (Location × Entry)) :
    (putEntry l e entries).lookup m = if m = l then some e else entries.lookup m := by
  induction entries with
  | nil =>
    rw [putEntry, List.lookup_cons]
    by_cases hm : m = l
    · simp [hm]
    · simp [hm, beq_false_of_ne hm]
  | cons head rest ih =>
    obtain ⟨k, f⟩ := head
    rw [putEntry]
    by_cases hk : k = l
    · rw [if_pos hk, List.lookup_cons, List.lookup_cons, hk]
      by_cases hm : m = l
      · simp [hm]
      · simp [hm, beq_false_of_ne hm]
    · rw [if_neg hk, List.lookup_cons, List.lookup_cons, ih]
      by_cases hm : m = k
      · simp [hm, hk]
      · simp [beq_false_of_ne hm]

theorem lookup_filter_ne (l x : Location) (entries : List (Location × Entry)) :
    (entries.filter (·.1 != x)).lookup l = if l = x then none else entries.lookup l := by
  induction entries with
  | nil => simp
  | cons head rest ih =>
    obtain ⟨k, f⟩ := head
    by_cases hk : k = x
    · rw [List.filter_cons_of_neg (by simp [hk]), ih, List.lookup_cons, hk]
      by_cases hl : l = x
      · rw [if_pos hl, if_pos hl]
      · rw [if_neg hl, if_neg hl, beq_false_of_ne hl]
    · rw [List.filter_cons_of_pos (by simp [hk]), List.lookup_cons, List.lookup_cons, ih]
      by_cases hl : l = k
      · have hlx : l ≠ x := by
          rw [hl]
          exact hk
        rw [if_neg hlx, if_neg hlx]
      · rw [beq_false_of_ne hl]

/-- Writes the entry at a location. -/
def put (d : Disk) (l : Location) (e : Entry) : Disk :=
  { d with entries := putEntry l e d.entries, distinct := nodup_putEntry d.distinct }

/-- Removes the entry at a location. -/
def erase (d : Disk) (l : Location) : Disk :=
  { d with
    entries := d.entries.filter (·.1 != l)
    distinct := d.distinct.sublist (List.filter_sublist.map _) }

theorem get?_put_of_ne {d : Disk} {l m : Location} {e : Entry} (hm : m ≠ l) :
    (d.put l e).get? m = d.get? m := by
  simp only [get?, put, lookup_putEntry, if_neg hm]

theorem get?_put_self {d : Disk} {l : Location} {e : Entry} (hl : l ≠ []) :
    (d.put l e).get? l = some e := by
  simp only [get?, put, lookup_putEntry, if_neg hl, if_pos]

theorem get?_erase_of_ne {d : Disk} {l x : Location} (hl : l ≠ x) :
    (d.erase x).get? l = d.get? l := by
  simp only [get?, erase, lookup_filter_ne, if_neg hl]

theorem get?_erase_self {d : Disk} {x : Location} (hx : x ≠ []) : (d.erase x).get? x = none := by
  simp only [get?, erase, lookup_filter_ne, if_neg hx, if_pos]

theorem ne_nil_of_isFileAt {d : Disk} {l : Location} (h : d.isFileAt l = true) : l ≠ [] := by
  rintro rfl
  cases h

/-- The directories above a location, the outermost first. -/
def parents (l : Location) : List Location :=
  (List.range l.length).map l.take

/-- Makes a directory and those above it where nothing is yet. -/
def makeDirectory (d : Disk) (l : Location) : Disk :=
  (parents l ++ [l]).foldl
    (fun d m => if (d.get? m).isSome then d else d.put m (.directory directoryMode)) d

/-- The root of the volume that a location is on. -/
def volume (d : Disk) (l : Location) : Location :=
  (d.mounts.filter fun m => (Location.below? m l).isSome).foldl
    (fun best m => if best.length < m.length then m else best) []

end Disk

end CatalogLint
