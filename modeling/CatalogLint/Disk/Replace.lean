import CatalogLint.Disk.Resolve
import CatalogLint.Disk.Shared

/-!
# Replacing a file

A file is replaced in two steps: its new content goes into a temporary file in a scratch
directory, with the permissions of what the path leads to, and that is renamed over the entry
that the path names. A link is thereby replaced by a file. Where the rename is impossible, over
a directory or from another volume, or refused, the content is copied into the file that the path
leads to, and the temporary file is removed. A call of the system is carried out as a whole or
refused, and who may make a file in a directory may remove it again.

* `SharedDisk.replace` replaces a file for a process with its refusals, on a disk where a file may
  have several locations.
* `Disk.replace` is that for a process to which nothing is refused, on a disk where each file has
  one location.
-/

namespace CatalogLint.Disk

/-- What the name of a temporary file starts with. -/
def temporaryMark : Text := "po-hooks--"

/-- The number of characters that make the name of a temporary file unique. -/
def uniqueLength : Nat := 6

/-- The number of bytes in the name of the temporary file for a path: the mark, the last name
of the path, a point and the unique characters. -/
def temporaryLength (path : Text) : Nat :=
  temporaryMark.length + Text.utf8Length ((Path.fileName? path).getD []) + 1 + uniqueLength

/-- The directory in which temporary files are made. The empty path is the working
directory. -/
def scratchDirectory (d : Disk) (scratch : Text) : Except DiskError Location :=
  match d.resolve (if scratch.isEmpty then "." else scratch) with
  | .ok (.directory l _) => .ok l
  | .ok (.file _ _ _) => .error .notDirectory
  | .error e => .error e

/-- The location of the entry that a path names, where a link at its end is not followed. A
path that ends in a slash, in `.` or in `..` names no entry. -/
def place? (d : Disk) (path : Text) : Option Location :=
  let pieces := Path.pieces path
  match pieces.getLast? with
  | none => none
  | some name =>
    if Path.isHere name || name = "..".toList then none
    else
      match d.follow maxLinks (d.origin path) pieces.dropLast with
      | .ok (.directory l _) => some (l ++ [name])
      | _ => none

/-- The name of a temporary file for a path, where `n` makes it unique. -/
def temporaryName (path : Text) (n : Nat) : Text :=
  let digits := Text.ofNat n
  temporaryMark ++ (Path.fileName? path).getD [] ++ "." ++
    Text.fill '0' (uniqueLength - digits.length) ++ digits

/-- The location in a directory of a temporary file for a path. There is nothing yet. -/
def temporaryLocation (d : Disk) (directory : Location) (path : Text) : Location :=
  let candidates :=
    (List.range (d.entries.length + 1)).map fun n => directory ++ [temporaryName path n]
  (candidates.find? fun l => (d.get? l).isNone).getD (directory ++ [temporaryName path 0])

/-- Whether something can be renamed to a location: it is on the same volume, and no directory
is there. -/
def canRename (d : Disk) (source destination : Location) : Bool :=
  d.volume source == d.volume destination &&
    (match d.get? destination with
    | some (.directory _) => false
    | _ => true)

end CatalogLint.Disk

namespace CatalogLint.SharedDisk

variable {ρ : Type}

/-- The disk after the file at `source`, made in `directory`, was moved over what is at a
location. -/
def rename? (s : SharedDisk) (refusals : Refusals ρ) (directory source destination : Location) :
    Option SharedDisk :=
  if s.canRename source destination && (refusals.rename directory destination).isNone then
    (s.get? source).map fun e => (s.erase source).put destination e
  else none

/-- The disk after the file at a location was copied, with its permissions, into the file that a
path leads to. -/
def copy (s : SharedDisk) (refusals : Refusals ρ) (source : Location) (path : Text) :
    Except (Failure ρ) SharedDisk :=
  match s.resolve path with
  | .error e => .error (.disk e)
  | .ok (.directory _ _) => .error (.disk .isDirectory)
  | .ok (.file l _ _) =>
    match refusals.copy l, s.get? source with
    | some reason, _ => .error (.refused reason)
    | none, some (.file content mode) => .ok (s.write l content mode)
    | none, _ => .error (.disk .notFound)

/-- What is left of an attempt to replace a file. -/
structure Replacement (ρ : Type) where
  disk : SharedDisk
  error : Option (Failure ρ) := none
  deriving DecidableEq, Repr

/-- Moves the temporary file over what a path names, or copies it there and removes it. -/
def install (s : SharedDisk) (refusals : Refusals ρ) (directory temporary : Location)
    (path : Text) : Replacement ρ :=
  match (s.place? path).bind (s.rename? refusals directory temporary) with
  | some disk => { disk }
  | none =>
    match s.copy refusals temporary path with
    | .ok copied => { disk := copied.erase temporary }
    | .error e => { disk := s.erase temporary, error := some e }

/-- The mode of a temporary file at first. -/
def temporaryMode : Nat := 0o600

/-- Makes a temporary file in a directory, gives it a content and a mode, and installs it. -/
def stage (s : SharedDisk) (refusals : Refusals ρ) (directory : Location) (path content : Text)
    (mode : Nat) : Replacement ρ :=
  let temporary := s.temporaryLocation directory path
  let made := s.put temporary (.file (.text []) temporaryMode)
  match refusals.write directory with
  | some reason => { disk := made.erase temporary, error := some (.refused reason) }
  | none =>
    let filled := made.put temporary (.file (.text content) temporaryMode)
    match refusals.setMode directory with
    | some reason => { disk := filled.erase temporary, error := some (.refused reason) }
    | none =>
      (filled.put temporary (.file (.text content) mode)).install refusals directory temporary path

/-- Replaces the file that a path names by one with this content. -/
def replace (s : SharedDisk) (refusals : Refusals ρ) (scratch path content : Text) :
    Replacement ρ :=
  match s.resolveAs refusals path, s.scratchDirectory scratch with
  | .error e, _ => { disk := s, error := some e }
  | .ok _, .error e => { disk := s, error := some (.disk e) }
  | .ok target, .ok directory =>
    if Disk.maxNameLength < Disk.temporaryLength path then
      { disk := s, error := some (.disk .nameTooLong) }
    else
      match refusals.create directory with
      | some reason => { disk := s, error := some (.refused reason) }
      | none => s.stage refusals directory path content target.mode

end CatalogLint.SharedDisk

namespace CatalogLint.Disk

/-- What is left of an attempt to replace a file of a disk on which each file has one location. -/
structure Replacement where
  disk : Disk
  error : Option DiskError := none
  deriving DecidableEq, Repr

/-- Replaces the file that a path names by one with this content. -/
def replace (d : Disk) (scratch path content : Text) : Replacement :=
  let replaced := (SharedDisk.ofDisk d).replace {} scratch path content
  { disk := replaced.disk.toDisk, error := replaced.error.map Failure.error }

end CatalogLint.Disk
