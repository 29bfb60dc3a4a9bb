import CatalogLint.Command.Program

/-!
# Command line

Reads the part of the disk that an invocation can see, runs the program on it as a function, and
writes back what the program changed. Permissions are left to the file system: a file that is
there is written over, and its mode stays.

The files that are read are the ones named in the arguments, the catalogues below the directories
named there, and ignore files.
-/

namespace CatalogLint.CommandLine

/-- The environment variables that count. -/
def variableNames : List String := ["CLICOLOR_FORCE", "PO_HOOKS_SCRATCH_DIR", "TMPDIR"]

/-- The environment. -/
def readEnvironment : IO Environment := do
  let values ← variableNames.mapM fun name =>
    return (← IO.getEnv name).map fun value => (name.toList, value.toList)
  return { values := values.filterMap id }

/-- The mode that stands for the ones that are not read. -/
def fileMode : Nat := 0o644

/-- The entry of the file system at a location. -/
def entryAt (l : Location) : IO.FS.DirEntry :=
  { root := String.ofList (Location.render l.dropLast)
    fileName := String.ofList (l.getLast?.getD ".") }

/-- The content of the file at a location. -/
def readContent (l : Location) : IO Content := do
  let bytes ← IO.FS.readBinFile (entryAt l).path
  return match String.fromUTF8? bytes with
    | some text => .text text.toList
    | none => .bytes bytes.toList

/-- Adds what stands at a location to a disk, without what is in it, and gives the location that
a link leads to. Of what cannot be read nothing is added. -/
def addEntry (disk : Disk) (l : Location) : IO (Disk × Option Location) := do
  try
    match (← (entryAt l).path.symlinkMetadata).type with
    | .dir => return (disk.makeDirectory l, none)
    | .file => return (disk.put l (.file (← readContent l) fileMode), none)
    | .symlink =>
      let target : Location := Path.names (← IO.FS.realPath (entryAt l).path).toString.toList
      return (disk.put l (.link target.render), some target)
    | .other => return (disk, none)
  catch _ => return (disk, none)

/-- The places of ignore files and repositories in a directory. -/
def ignorePlaces (l : Location) : List Location :=
  [Disk.ignoreName, Disk.repositoryIgnoreName, Disk.excludeName.take 1, Disk.excludeName.take 2,
    Disk.excludeName].map (l ++ ·)

/-- Adds what stands at the locations. -/
def addEntries (disk : Disk) (ls : List Location) : IO Disk :=
  ls.foldlM (fun disk l => return (← addEntry disk l).1) disk

/-- Adds the directories above a location with their ignore files, and what stands there. Links
are followed. -/
partial def addWay (disk : Disk) (l : Location) : IO Disk := do
  let mut disk := disk
  for m in Disk.parents l ++ [l] do
    disk ← addEntries disk (ignorePlaces m)
    let (next, target) ← addEntry disk m
    disk := next
    if let some target := target then
      if (disk.get? target).isNone then
        disk ← addWay disk target
  return disk

/-- Adds what is below a directory: directories other than those of repositories, their ignore
files, and catalogues. -/
partial def addBelow (disk : Disk) (l : Location) : IO Disk := do
  let mut disk ← addEntries disk (ignorePlaces l)
  for entry in ← (entryAt l).path.readDir do
    let name := entry.fileName.toList
    let type := (← entry.path.symlinkMetadata).type
    if type == .dir then
      disk := disk.makeDirectory (l ++ [name])
      if name != ".git".toList then
        disk ← addBelow disk (l ++ [name])
    else if type == .symlink || Path.hasCatalogExtension name then
      disk := (← addEntry disk (l ++ [name])).1
  return disk

/-- Adds what a path of the arguments leads to. -/
def addPath (disk : Disk) (path : Text) : IO Disk := do
  let disk ← addWay disk (Path.absolute disk.workingDirectory path)
  try
    let real := Path.names (← IO.FS.realPath (String.ofList path)).toString.toList
    let disk ← addWay disk real
    if disk.isDirectoryAt real then addBelow disk real else return disk
  catch _ => return disk

/-- The disk that an invocation sees. -/
def readDisk (env : Environment) (invocation : Invocation) : IO Disk := do
  let here := Path.names (← IO.currentDir).toString.toList
  let disk ← addWay { workingDirectory := here } here
  let disk ← addWay disk (Path.absolute here (Program.scratchFor env invocation))
  invocation.files.foldlM addPath disk

/-- Writes the files that differ between two disks. -/
def writeChanges (before after : Disk) : IO Unit := do
  for (l, e) in after.entries do
    if before.get? l != some e then
      if let .file (.text t) _ := e then
        if let some (.link _) := before.get? l then
          IO.FS.removeFile (entryAt l).path
        IO.FS.writeFile (entryAt l).path (String.ofList t)

end CatalogLint.CommandLine

open CatalogLint in
/-- Runs the program on the disk. -/
def main (arguments : List String) : IO UInt32 := do
  let env ← CommandLine.readEnvironment
  let arguments := arguments.map String.toList
  let disk ←
    match Invocation.ofArguments arguments with
    | .ok invocation => CommandLine.readDisk env invocation
    | .error _ => pure {}
  let outcome := Program.run env arguments disk
  CommandLine.writeChanges disk outcome.disk
  IO.print (String.ofList outcome.output)
  IO.eprint (String.ofList outcome.errors)
  return outcome.exitCode.toUInt32
