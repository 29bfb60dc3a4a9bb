import CatalogLint.Disk.Basic

/-!
# Errors of files

A path may lead nowhere or to something of the wrong kind (`DiskError`). Besides, the system may
refuse each of its calls to a process: the permissions do not allow it, no space is left, the medium
fails. What it refuses, and why, is not told by a disk but given with a process (`Refusals`); the
reasons are of any type, and a process whose reasons are of the type without elements is refused
nothing. That is the process for which the rules are run.
-/

namespace CatalogLint

/-- Why a file cannot be read or written. -/
inductive DiskError where
  | notFound
  | notDirectory
  | isDirectory
  | notText
  | nameTooLong
  | linkLoop
  | nulInPath
  deriving DecidableEq, Repr

/-- The wording of an error. -/
def DiskError.message : DiskError → Text
  | notFound => "No such file or directory (os error 2)"
  | notDirectory => "Not a directory (os error 20)"
  | isDirectory => "Is a directory (os error 21)"
  | notText => "stream did not contain valid UTF-8"
  | nameTooLong => "File name too long (os error 36)"
  | linkLoop => "Too many levels of symbolic links (os error 40)"
  | nulInPath => "file name contained an unexpected NUL byte"

/-- What the system refuses to a process, call by call, with its reasons. -/
structure Refusals (ρ : Type) where
  /-- Following a path. -/
  follow : Text → Option ρ := fun _ => none
  /-- Reading the file at a location. -/
  read : Location → Option ρ := fun _ => none
  /-- Making a file in a directory. -/
  create : Location → Option ρ := fun _ => none
  /-- Writing into a file that was made in a directory. -/
  write : Location → Option ρ := fun _ => none
  /-- Setting the mode of a file that was made in a directory. -/
  setMode : Location → Option ρ := fun _ => none
  /-- Renaming a file that was made in a directory over what is at a location. -/
  rename : (directory destination : Location) → Option ρ := fun _ _ => none
  /-- Copying into the file at a location. -/
  copy : Location → Option ρ := fun _ => none

/-- Whether the mode of the file or directory at a location has the bit for a right. -/
def Disk.permits (d : Disk) (right : Nat) (l : Location) : Bool :=
  match d.get? l with
  | some (.file _ mode) | some (.directory mode) => mode / right % 2 = 1
  | _ => true

/-- What the modes refuse to the owner of all files and directories of a disk, where the ways to them
are open. What is copied has the mode of what it is copied into, and has to be read. -/
def Refusals.ofOwner (d : Disk) : Refusals Text :=
  let refuse : Bool → Option Text := fun permitted =>
    if permitted then none else some "Permission denied (os error 13)"
  { read := fun l => refuse (d.permits 0o400 l)
    create := fun directory => refuse (d.permits 0o200 directory && d.permits 0o100 directory)
    rename := fun directory destination =>
      refuse ([directory, destination.dropLast].all fun l => d.permits 0o200 l && d.permits 0o100 l)
    copy := fun l => refuse (d.permits 0o200 l && d.permits 0o400 l) }

/-- Why a process cannot read or write a file. -/
inductive Failure (ρ : Type) where
  | disk (e : DiskError)
  | refused (reason : ρ)
  deriving DecidableEq, Repr

/-- The error for a process to which nothing is refused. -/
def Failure.error : Failure Empty → DiskError
  | disk e => e

end CatalogLint
