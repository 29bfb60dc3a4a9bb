import CatalogLint.Disk.Path
import CatalogLint.Proofs.Text.Pieces
import Mathlib.Data.Char
import Mathlib.Data.List.Lex
import Mathlib.Data.List.TakeWhile
import Mathlib.Data.Prod.Lex

/-!
# The order of paths

Paths are compared component by component (`Path.components`): first the root, then a leading dot,
then steps upwards, then names, and names character by character. This is a linear order on lists of
components, and other than that of the texts: `a/b` goes before `a-b`.

The paths of what is below a directory start with the same components, with which a leading dot is
not counted, and go on with the names (`components_dropHere_descend`). So they are in the order of the
locations (`components_lt_of_lt`).
-/

namespace CatalogLint

/-! ## Lexicographic order -/

section Lexicographic

variable {α : Type} [LinearOrder α]

theorem nil_le (l : List α) : [] ≤ l := by
  rw [← not_lt]
  exact List.not_lt_nil l

theorem cons_le_cons_iff {a b : α} {l m : List α} :
    a :: l ≤ b :: m ↔ a < b ∨ a = b ∧ l ≤ m := by
  rw [← not_lt, List.cons_lt_cons_iff, ← not_lt]
  rcases lt_trichotomy a b with h | rfl | h
  · simp [h, h.ne', h.not_gt]
  · simp
  · simp [h, h.ne', h.not_gt]

end Lexicographic

namespace Location

theorem leName_iff {a b : Text} : leName a b = true ↔ a ≤ b := by
  induction a generalizing b with
  | nil => simp [leName, nil_le]
  | cons c a ih =>
    cases b with
    | nil => simp [leName]
    | cons d b =>
      rw [leName, Bool.or_eq_true, Bool.and_eq_true, decide_eq_true_eq, beq_iff_eq, ih,
        cons_le_cons_iff]

/-- Locations are in the lexicographic order of their names. -/
theorem le_iff {l m : Location} : le l m = true ↔ l ≤ m := by
  induction l generalizing m with
  | nil => simp [le, nil_le]
  | cons a l ih =>
    cases m with
    | nil => simp [le]
    | cons b m =>
      rw [le, cons_le_cons_iff]
      split
      · rename_i hab
        simp [hab, ih]
      · rename_i hab
        simp [hab, leName_iff, lt_iff_le_and_ne]

end Location

namespace Path

/-- A component of a path. -/
inductive Component where
  /-- The slash in front of an absolute path. -/
  | root
  /-- The dot in front of a path. -/
  | here
  | up
  | name (n : Text)
  deriving DecidableEq

namespace Component

/-- The rank of the kind, and the name. -/
def key : Component → ℕ ×ₗ Text
  | root => toLex (0, [])
  | here => toLex (1, [])
  | up => toLex (2, [])
  | name n => toLex (3, n)

theorem key_injective : Function.Injective key := by
  intro a b h
  cases a <;> cases b <;> simp_all [key]

instance : LinearOrder Component := LinearOrder.lift' key key_injective

theorem name_lt_name {a b : Text} (h : a < b) : name a < name b :=
  Prod.Lex.toLex_lt_toLex.mpr (Or.inr ⟨rfl, h⟩)

/-- The component that a name in a path is. -/
def ofName (n : Text) : Component := if n = "..".toList then up else name n

end Component

/-- The components of a path. Slashes and dots count at its start only. -/
def components (path : Text) : List Component :=
  (if isAbsolute path then [.root]
    else if (pieces path).head? = some ['.'] then [.here]
    else []) ++ (names path).map .ofName

/-- A name that an entry of a directory can have. -/
structure IsEntryName (name : Text) : Prop where
  not_here : isHere name = false
  not_up : name ≠ "..".toList
  not_slash : '/' ∉ name

/-! ## Without a leading dot -/

/-- A path is what it is without a leading dot, or that and the slashes and dots behind it go. -/
theorem dropHere_cases (path : Text) :
    ((pieces path).head? ≠ some ['.'] ∧ dropHere path = path) ∨
      ∃ rest : List Text, pieces path = ['.'] :: rest ∧
        dropHere path = Text.join "/" (rest.dropWhile isHere) := by
  rw [dropHere]
  split
  · rename_i rest hpieces
    exact Or.inr ⟨rest, hpieces, rfl⟩
  · rename_i hother
    refine Or.inl ⟨?_, rfl⟩
    intro hhead
    obtain ⟨rest, hrest⟩ := List.head?_eq_some_iff.mp hhead
    exact hother rest hrest

/-- What is left behind a leading dot is nothing, or starts with a piece that leads somewhere. -/
theorem dropWhile_isHere_cases {path : Text} {rest : List Text} (h : pieces path = ['.'] :: rest) :
    rest.dropWhile isHere = [] ∨
      ∃ piece more, rest.dropWhile isHere = piece :: more ∧ isHere piece = false ∧
        '/' ∉ piece ∧ pieces (Text.join "/" (piece :: more)) = piece :: more := by
  cases hdrop : rest.dropWhile isHere with
  | nil => exact Or.inl rfl
  | cons piece more =>
    have hslash : ∀ p ∈ piece :: more, '/' ∉ p := by
      intro p hp
      rw [← hdrop] at hp
      have hp : p ∈ pieces path := by
        rw [h]
        exact List.mem_cons_of_mem _ ((List.dropWhile_sublist isHere).subset hp)
      exact Text.not_mem_of_mem_pieces hp
    have hpiece : isHere piece = false := by
      have := List.head?_dropWhile_not isHere rest
      rwa [hdrop, List.head?_cons] at this
    exact Or.inr ⟨piece, more, rfl, hpiece, hslash piece List.mem_cons_self,
      Text.pieces_join (List.cons_ne_nil _ _) hslash⟩

theorem filter_dropWhile_isHere (l : List Text) :
    (l.dropWhile isHere).filter (!isHere ·) = l.filter (!isHere ·) := by
  induction l with
  | nil => rfl
  | cons piece rest ih =>
    by_cases hpiece : isHere piece = true
    · simp [hpiece, ih]
    · simp [hpiece]

theorem names_dropHere (path : Text) : names (dropHere path) = names path := by
  rcases dropHere_cases path with ⟨-, heq⟩ | ⟨rest, hpieces, heq⟩
  · rw [heq]
  · have hnames : names path = (rest.dropWhile isHere).filter (!isHere ·) := by
      rw [names, hpieces, filter_dropWhile_isHere]
      rfl
    rw [heq, hnames]
    rcases dropWhile_isHere_cases hpieces with hdrop | ⟨piece, more, hdrop, -, -, hjoin⟩
    · rw [hdrop]
      rfl
    · rw [hdrop, names, hjoin]

theorem isAbsolute_of_pieces {path : Text} {rest : List Text} (h : pieces path = ['.'] :: rest) :
    isAbsolute path = false := by
  cases path with
  | nil => rfl
  | cons c t =>
    have hc : c ≠ '/' := by
      rintro rfl
      rw [pieces, Text.pieces, if_pos rfl] at h
      cases h
    simp [isAbsolute, hc]

theorem isAbsolute_dropHere (path : Text) : isAbsolute (dropHere path) = isAbsolute path := by
  rcases dropHere_cases path with ⟨-, heq⟩ | ⟨rest, hpieces, heq⟩
  · rw [heq]
  · rw [isAbsolute_of_pieces hpieces, heq]
    rcases dropWhile_isHere_cases hpieces with hdrop | ⟨piece, more, hdrop, hhere, hslash, -⟩
    · rw [hdrop]
      rfl
    · rw [hdrop]
      cases piece with
      | nil => cases hhere
      | cons c piece =>
        rw [List.mem_cons, not_or] at hslash
        have hhead : (Text.join "/" ((c :: piece) :: more)).head? = some c := by
          cases more with
          | nil => rfl
          | cons next more => rw [Text.join_cons_cons, List.cons_append, List.cons_append]; rfl
        rw [isAbsolute, hhead]
        exact beq_false_of_ne fun h => hslash.1 (Option.some.inj h).symm

theorem head?_pieces_dropHere (path : Text) : (pieces (dropHere path)).head? ≠ some ['.'] := by
  rcases dropHere_cases path with ⟨hhead, heq⟩ | ⟨rest, hpieces, heq⟩
  · rwa [heq]
  · rw [heq]
    rcases dropWhile_isHere_cases hpieces with hdrop | ⟨piece, more, hdrop, hhere, -, hjoin⟩
    · rw [hdrop]
      decide
    · rw [hdrop, hjoin, List.head?_cons]
      intro h
      rw [Option.some.inj h] at hhere
      exact absurd hhere (by decide)

/-- The components of a path without its leading dot. -/
def steps (path : Text) : List Component :=
  (if isAbsolute path then [.root] else []) ++ (names path).map .ofName

theorem components_dropHere (path : Text) : components (dropHere path) = steps path := by
  rw [components, steps, names_dropHere, isAbsolute_dropHere, if_neg (head?_pieces_dropHere path)]

/-! ## Below a directory -/

section Below

variable {path : Text} {a b : Location}

theorem names_descend (hne : a ≠ []) (ha : ∀ name ∈ a, IsEntryName name) (path : Text) :
    names (descend path a) = names path ++ a := by
  have hjoin : pieces (Text.join "/" a) = a :=
    Text.pieces_join hne fun name hname => (ha name hname).not_slash
  have hall : a.filter (!isHere ·) = a := by
    rw [List.filter_eq_self]
    intro name hname
    rw [(ha name hname).not_here]
    rfl
  have happend : ∀ front : Text, names (front ++ '/' :: Text.join "/" a) = names front ++ a := by
    intro front
    rw [names, pieces, Text.pieces_append_cons, List.filter_append]
    rw [pieces] at hjoin
    rw [hjoin, hall]
    rfl
  rw [descend]
  split
  · rename_i hlast
    -- The slash at the end of the path is the one in front of the names.
    obtain ⟨front, rfl⟩ := List.getLast?_eq_some_iff.mp hlast
    have hfront : names (front ++ ['/']) = names front := by
      rw [names, pieces, Text.pieces_append_cons, List.filter_append]
      exact List.append_nil _
    rw [List.append_nil, List.append_assoc, List.singleton_append, happend, hfront]
  · rw [List.append_assoc, List.singleton_append, happend]

theorem isAbsolute_descend (hpath : path ≠ []) (a : Location) :
    isAbsolute (descend path a) = isAbsolute path := by
  cases path with
  | nil => exact absurd rfl hpath
  | cons c path => rfl

/-- Below a directory the components of the directory are followed by names. -/
theorem components_dropHere_descend (hpath : path ≠ []) (hne : a ≠ [])
    (ha : ∀ name ∈ a, IsEntryName name) :
    components (dropHere (descend path a)) = steps path ++ a.map .name := by
  have hnames : a.map Component.ofName = a.map .name := by
    apply List.map_congr_left
    intro name hname
    exact if_neg (ha name hname).not_up
  rw [components_dropHere, steps, names_descend hne ha, isAbsolute_descend hpath, List.map_append,
    hnames, ← List.append_assoc, steps]

/-- The paths are in the order of the locations. -/
theorem components_lt_of_lt (hpath : path ≠ []) (hne : a ≠ [])
    (ha : ∀ name ∈ a, IsEntryName name) (hb : ∀ name ∈ b, IsEntryName name) (hlt : a < b) :
    components (dropHere (descend path a)) < components (dropHere (descend path b)) := by
  have hne' : b ≠ [] := by
    rintro rfl
    exact List.not_lt_nil a hlt
  rw [components_dropHere_descend hpath hne ha, components_dropHere_descend hpath hne' hb]
  exact List.append_left_lt (List.map_lt (fun _ _ => Component.name_lt_name) hlt)

end Below

/-! ## Extensions -/

/-- What follows the last point of a name, if something is in front of that point. -/
def nameExtension? (name : Text) : Option Text :=
  let stem := Text.dropEndWhile (· ≠ '.') name
  if stem.length ≤ 1 then none else some (name.drop stem.length)

/-- The extension of the last name of a path. -/
def extension? (path : Text) : Option Text := (fileName? path).bind nameExtension?

theorem extension?_descend {a : Location} (hne : a ≠ []) (ha : ∀ name ∈ a, IsEntryName name)
    (path : Text) : extension? (descend path a) = nameExtension? (a.getLast hne) := by
  have hlast : (names (descend path a)).getLast? = some (a.getLast hne) := by
    rw [names_descend hne ha, List.getLast?_append_of_ne_nil _ hne, List.getLast?_eq_some_getLast hne]
  rw [extension?, fileName?, hlast]
  simp only [if_neg (ha _ (List.getLast_mem hne)).not_up, Option.bind_some]

theorem dropEndWhile_point (front : Text) {ext : Text} (hext : '.' ∉ ext) :
    Text.dropEndWhile (· ≠ '.') (front ++ '.' :: ext) = front ++ ['.'] := by
  have hall : ∀ c ∈ ext.reverse, decide (c ≠ '.') = true := by
    intro c hc
    rw [decide_eq_true_eq]
    rintro rfl
    exact hext (List.mem_reverse.mp hc)
  rw [Text.dropEndWhile, List.reverse_append, List.reverse_cons, List.append_assoc,
    List.dropWhile_append_of_pos hall]
  simp

theorem nameExtension?_append (front : Text) {ext : Text} (hext : '.' ∉ ext) :
    nameExtension? (front ++ '.' :: ext) = if front = [] then none else some ext := by
  rw [nameExtension?, dropEndWhile_point front hext]
  cases front with
  | nil => rfl
  | cons c front => simp

theorem nameExtension?_of_not_mem {name : Text} (h : '.' ∉ name) : nameExtension? name = none := by
  have hstem : Text.dropEndWhile (· ≠ '.') name = [] := by
    rw [Text.dropEndWhile, List.reverse_eq_nil_iff, List.dropWhile_eq_nil_iff]
    intro c hc
    rw [decide_eq_true_eq]
    rintro rfl
    exact h (List.mem_reverse.mp hc)
  rw [nameExtension?, hstem]
  rfl

theorem nameExtension?_eq_some_iff {name ext : Text} :
    nameExtension? name = some ext ↔
      ∃ front, front ≠ [] ∧ name = front ++ '.' :: ext ∧ '.' ∉ ext := by
  constructor
  · intro h
    by_cases hpoint : '.' ∈ name
    · -- The last point is the first one from the end.
      obtain ⟨back, front, hname, hback⟩ :=
        List.eq_append_cons_of_mem (List.mem_reverse.mpr hpoint)
      have hname : name = front.reverse ++ '.' :: back.reverse := by
        rw [← List.reverse_reverse name, hname]
        simp
      have hext : '.' ∉ back.reverse := fun hc => hback (List.mem_reverse.mp hc)
      rw [hname, nameExtension?_append _ hext] at h
      split at h
      · cases h
      · rename_i hfront
        obtain rfl := Option.some.inj h
        exact ⟨front.reverse, hfront, hname, hext⟩
    · rw [nameExtension?_of_not_mem hpoint] at h
      cases h
  · rintro ⟨front, hfront, rfl, hext⟩
    rw [nameExtension?_append front hext, if_neg hfront]

/-- The names of catalogues are those with the extension `po`. -/
theorem hasCatalogExtension_iff {name : Text} :
    hasCatalogExtension name = true ↔ nameExtension? name = some "po".toList := by
  rw [nameExtension?_eq_some_iff, hasCatalogExtension, Text.endsWith, Bool.and_eq_true,
    List.isSuffixOf_iff_suffix, decide_eq_true_eq]
  constructor
  · rintro ⟨⟨front, rfl⟩, hlength⟩
    refine ⟨front, ?_, rfl, by decide⟩
    rintro rfl
    exact absurd hlength (by decide)
  · rintro ⟨front, hfront, rfl, -⟩
    refine ⟨⟨front, rfl⟩, ?_⟩
    have := List.length_pos_iff.mpr hfront
    simp
    omega

end Path

end CatalogLint
