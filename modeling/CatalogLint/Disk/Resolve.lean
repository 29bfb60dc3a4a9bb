import CatalogLint.Disk.Error

/-!
# Following paths

A path is followed name by name from the working directory or the root. A link is replaced by
its target, at most forty times; a name, or a slash, behind something that is no directory is
an error, and so are names of more than 255 bytes and paths of 4096 bytes or more.

* `Disk.resolve` is the file or directory that a path leads to.
* `Disk.readAs` is the text of the file that a path leads to, for a process with its refusals, and
  `Disk.read` the text for a process to which nothing is refused.
-/

namespace CatalogLint

/-- What a path leads to. -/
inductive Target where
  | file (l : Location) (content : Content) (mode : Nat)
  | directory (l : Location) (mode : Nat)
  deriving DecidableEq, Repr

namespace Target

/-- The permission bits of the file or directory. -/
def mode : Target → Nat
  | file _ _ mode => mode
  | directory _ mode => mode

/-- Where the file or directory is. -/
def location : Target → Location
  | file l _ _ => l
  | directory l _ => l

end Target

namespace Disk

/-- The greatest number of bytes in a name. -/
def maxNameLength : Nat := 255

/-- A path has fewer bytes than this. -/
def pathLimit : Nat := 4096

/-- The number of links that a path may lead through. -/
def maxLinks : Nat := 40

/-- Where the way along a list of pieces comes to a halt. -/
inductive Halt where
  | target (t : Target)
  /-- At a link met in the directory `l`, with the pieces still to follow. -/
  | link (l : Location) (target : Text) (rest : List Text)
  deriving DecidableEq, Repr

/-- Follows pieces of a path from the directory `l` to the end or to the first link. -/
def advance (d : Disk) (l : Location) : List Text → Except DiskError Halt
  | [] =>
    match d.get? l with
    | some (.directory mode) => .ok (.target (.directory l mode))
    | _ => .error .notFound
  | piece :: rest =>
    if Path.isHere piece then d.advance l rest
    else if piece = "..".toList then d.advance l.dropLast rest
    else if maxNameLength < Text.utf8Length piece then .error .nameTooLong
    else
      match d.get? (l ++ [piece]) with
      | none => .error .notFound
      | some (.directory _) => d.advance (l ++ [piece]) rest
      | some (.file content mode) =>
        if rest.isEmpty then .ok (.target (.file (l ++ [piece]) content mode))
        else .error .notDirectory
      | some (.link target) => .ok (.link l target rest)

/-- Follows pieces of a path through at most `links` links. -/
def follow (d : Disk) (links : Nat) (l : Location) (pieces : List Text) :
    Except DiskError Target :=
  match d.advance l pieces with
  | .error e => .error e
  | .ok (.target t) => .ok t
  | .ok (.link m target rest) =>
    match links with
    | 0 => .error .linkLoop
    | links + 1 =>
      d.follow links (if Path.isAbsolute target then [] else m) (Path.pieces target ++ rest)

/-- The directory at which the way along a path starts. -/
def origin (d : Disk) (path : Text) : Location :=
  if Path.isAbsolute path then [] else d.workingDirectory

/-- The file or directory that a path leads to. -/
def resolve (d : Disk) (path : Text) : Except DiskError Target :=
  if path.contains '\x00' then .error .nulInPath
  else if path.isEmpty then .error .notFound
  else if pathLimit ≤ Text.utf8Length path then .error .nameTooLong
  else d.follow maxLinks (d.origin path) (Path.pieces path)

/-- Whether a path leads to a directory. -/
def isDirectory (d : Disk) (path : Text) : Bool :=
  match d.resolve path with
  | .ok (.directory _ _) => true
  | _ => false

/-- The file or directory that a path leads to, for a process with its refusals. -/
def resolveAs {ρ : Type} (d : Disk) (refusals : Refusals ρ) (path : Text) :
    Except (Failure ρ) Target :=
  match refusals.follow path with
  | some reason => .error (.refused reason)
  | none => (d.resolve path).mapError .disk

/-- The text of the file that a path leads to, for a process with its refusals. -/
def readAs {ρ : Type} (d : Disk) (refusals : Refusals ρ) (path : Text) : Except (Failure ρ) Text :=
  match d.resolveAs refusals path with
  | .error e => .error e
  | .ok target =>
    match refusals.read target.location with
    | some reason => .error (.refused reason)
    | none =>
      match target with
      | .file _ (.text t) _ => .ok t
      | .file _ (.bytes _) _ => .error (.disk .notText)
      | .directory _ _ => .error (.disk .isDirectory)

/-- The text of the file that a path leads to. -/
def read (d : Disk) (path : Text) : Except DiskError Text :=
  (d.readAs {} path).mapError Failure.error

/-- Without refusals what a path leads to decides what is read. -/
theorem read_eq (d : Disk) (path : Text) :
    d.read path =
      match d.resolve path with
      | .ok (.file _ (.text t) _) => .ok t
      | .ok (.file _ (.bytes _) _) => .error .notText
      | .ok (.directory _ _) => .error .isDirectory
      | .error e => .error e := by
  rw [read, readAs, resolveAs]
  cases d.resolve path with
  | error e => rfl
  | ok target =>
    cases target with
    | directory l mode => rfl
    | file l content mode =>
      cases content with
      | text t => rfl
      | bytes b => rfl

end Disk

end CatalogLint
