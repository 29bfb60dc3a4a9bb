import CatalogLint.Disk.Resolve
import CatalogLint.Ignore.Rules
import CatalogLint.Order.Insertion

/-!
# Finding catalogues

A path that leads to a directory stands for the catalogues in it and below it, in the order of
their names; any other path stands for itself. Links below the directory are not followed,
hidden entries are skipped, and so is what the ignore files say.

* An entry is judged by the ignore files of the directories above it up to the root of the
  disk, the innermost first. The verdict of a file `.ignore` goes before that of a file
  `.gitignore`, and that before the one of a file `.git/info/exclude`.
* Files of the last two kinds count only within a repository, up to the directory that holds
  its `.git`.
* A directory that cannot be listed is passed over, as is an entry that cannot be read, with an
  error that does not end the walk.
* `Disk.find` is the list of files that a list of paths stands for, and `Disk.walkErrors` the list of
  the errors met when these are looked for.
-/

namespace CatalogLint.Disk

/-- The ignore files that count everywhere. -/
def ignoreName : Location := [".ignore".toList]

/-- The ignore files of a repository. -/
def repositoryIgnoreName : Location := [".gitignore".toList]

/-- The ignore file of a repository that is not shared. -/
def excludeName : Location := [".git".toList, "info".toList, "exclude".toList]

/-- The rules of the ignore file at a location. -/
def rulesAt (d : Disk) (l : Location) : List Ignore.Rule :=
  match d.follow maxLinks [] l with
  | .ok (.file _ content _) => Ignore.rules content.leadingText
  | _ => []

/-- Whether a repository starts at a directory. -/
def isRepository (d : Disk) (directory : Location) : Bool :=
  match d.follow maxLinks [] (directory ++ [".git".toList]) with
  | .ok _ => true
  | .error _ => false

/-- Whether there is a directory at a location, without following a link. -/
def isDirectoryAt (d : Disk) (l : Location) : Bool :=
  match d.get? l with
  | some (.directory _) => true
  | _ => false

/-- What the ignore files with a name in the given directories say of an entry; the first that
says something decides. -/
def verdictIn? (d : Disk) (name : Location) (directories : List Location) (l : Location) :
    Option Ignore.Verdict :=
  directories.findSome? fun directory =>
    Ignore.verdict? (d.rulesAt (directory ++ name)) (Text.join "/" (l.drop directory.length))
      (d.isDirectoryAt l)

/-- Of directories, the innermost first, those in the repository of the first; outside all
repositories none. -/
def inRepository (d : Disk) (directories : List Location) : List Location :=
  match directories.dropWhile (!d.isRepository ·) with
  | [] => []
  | top :: _ => directories.takeWhile (!d.isRepository ·) ++ [top]

/-- What the ignore files say of an entry. -/
def verdict? (d : Disk) (l : Location) : Option Ignore.Verdict :=
  let above := (parents l).reverse
  let repository := d.inRepository above
  (d.verdictIn? ignoreName above l).or
    ((d.verdictIn? repositoryIgnoreName repository l).or (d.verdictIn? excludeName repository l))

/-- Whether the name of an entry hides it. -/
def isHidden (l : Location) : Bool := (l.getLast?.getD []).head? == some '.'

/-- Whether an entry is skipped, with all that is in it. -/
def isSkipped (d : Disk) (l : Location) : Bool :=
  match d.verdict? l with
  | some .skip => true
  | some .keep => false
  | none => isHidden l

/-- Whether a listing says nothing of an entry, or nothing of what is in a directory. -/
def isUnreadable (d : Disk) (l : Location) : Bool := d.unreadable.any (·.1 == l)

/-- Whether a walk from the directory `base` comes to the entry at `below`, seen from there: neither
it nor a directory on the way to it is skipped, and these directories can be listed. -/
def isMet (d : Disk) (base below : Location) : Bool :=
  (List.range below.length).all fun n =>
    !d.isSkipped (base ++ below.take (n + 1)) && !d.isUnreadable (base ++ below.take n)

/-- Whether a walk that comes to a location learns what is there. A directory is known even where it
cannot be listed. -/
def isKnown (d : Disk) (l : Location) : Bool := !d.isUnreadable l || d.isDirectoryAt l

/-- Whether the entry at `below`, seen from the directory `base`, is reached: a walk comes to it and
learns what it is. -/
def isReached (d : Disk) (base below : Location) : Bool :=
  !below.isEmpty && d.isMet base below && d.isKnown (base ++ below)

/-- The entries that are reached from a directory, seen from there. -/
def reached (d : Disk) (base : Location) : List Location :=
  d.entries.filterMap fun (l, _) =>
    (Location.below? base l).filter fun below => d.isReached base below

/-- Whether there is a catalogue at a location: a file, not a link, with the extension of
catalogues. -/
def isCatalogAt (d : Disk) (l : Location) : Bool :=
  (match d.get? l with
  | some (.file _ _) => true
  | _ => false) &&
    Path.hasCatalogExtension (l.getLast?.getD [])

/-- The catalogues reached from a directory, seen from there and in order. -/
def catalogsBelow (d : Disk) (base : Location) : List Location :=
  Order.sortBy Location.le
    ((d.reached base).filter fun below => d.isCatalogAt (base ++ below))

/-- The path that stands for the standard input, even where a directory has that name. -/
def standardInput : Text := "-"

/-- The files that a path stands for. -/
def catalogsAt (d : Disk) (path : Text) : List Text :=
  match d.resolve path with
  | .ok (.directory base _) =>
    if path = standardInput then []
    else (d.catalogsBelow base).map fun below => Path.dropHere (Path.descend path below)
  | _ => [path]

/-- The files that a list of paths stands for, path by path. -/
def find (d : Disk) (paths : List Text) : List Text := paths.flatMap d.catalogsAt

/-- An error of a walk: the path of what it cannot read, and the reason that the system gives. -/
structure WalkError where
  path : Text
  reason : Text
  deriving DecidableEq, Repr

/-- The wording of an error of a walk. -/
def WalkError.message (e : WalkError) : Text :=
  e.path ++ ": IO error for operation on " ++ e.path ++ ": " ++ e.reason

/-- The errors of a walk along a path to the directory `base`. -/
def walkErrorsBelow (d : Disk) (path : Text) (base : Location) : List WalkError :=
  d.unreadable.filterMap fun (l, reason) =>
    ((Location.below? base l).filter fun below => (d.get? l).isSome && d.isMet base below).map
      fun below => { path := if below.isEmpty then path else Path.descend path below, reason }

/-- The errors of the walk that is made for a path. -/
def walkErrorsAt (d : Disk) (path : Text) : List WalkError :=
  match d.resolve path with
  | .ok (.directory base _) => if path = standardInput then [] else d.walkErrorsBelow path base
  | _ => []

/-- The errors of the walks that are made for a list of paths, path by path. -/
def walkErrors (d : Disk) (paths : List Text) : List WalkError := paths.flatMap d.walkErrorsAt

end CatalogLint.Disk
