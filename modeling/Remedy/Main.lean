import Remedy.Cli.App
import Remedy.Instant
import Std.Time.DateTime.Timestamp

/-!
# The command line

Reads the files that a command can see, runs it on them, and brings back what it changed and
printed.
-/

namespace Remedy.Cli

/-- Folders of other programs, which are left alone. -/
def isForeignFolder (name : Text) : Bool :=
  name == (".git" : Text) || name == packageFolder

/-- Reads files and folders with everything in them. -/
partial def readEntries (entries : List IO.FS.DirEntry) : IO Tree := do
  let mut tree := Tree.empty
  for entry in entries do
    let name : Text := entry.fileName
    match (← entry.path.symlinkMetadata).type with
    | .dir =>
      let inside ← if isForeignFolder name then pure Tree.empty
        else readEntries (← entry.path.readDir).toList
      tree := tree.put name (.folder inside)
    | .file => tree := tree.put name (.file (← IO.FS.readBinFile entry.path).toList)
    | _ => pure ()
  return tree

/-- The paths that an argument may stand for. -/
def argumentPaths (arg : Text) : List Text :=
  if looksLikeOption arg then [(arg.dropWhile (· != 0x3D)).drop 1] else [arg]

/-- Adds what an argument stands for to the files that have been read. -/
def readPlace (disk : Disk) (path : Text) : IO Disk := do
  let place := (← IO.currentDir) / path.toString
  let names := Path.names (disk.absolute path)
  if names = disk.here then return disk
  if ← place.isDir then
    let inside ← readEntries (← place.readDir).toList
    return { disk with tree := (disk.tree.withFolders names).putAt names (.folder inside) }
  if ← place.pathExists then
    let content := (← IO.FS.readBinFile place).toList
    let tree := disk.tree.withFolders names.dropLast
    return { disk with tree := tree.putAt names (.file content) }
  if ← (place.parent.map (·.isDir)).getD (pure false) then
    return { disk with tree := disk.tree.withFolders names.dropLast }
  return disk

/-- Reads the working directory and what the arguments stand for. -/
def readDisk (args : List Text) : IO Disk := do
  let folder ← IO.currentDir
  let here := Path.names folder.toString
  let inside ← readEntries (← folder.readDir).toList
  let start : Disk := ⟨(Tree.empty.withFolders here).putAt here (.folder inside), here⟩
  (args.flatMap argumentPaths).foldlM readPlace start

/-- Brings the files to the state of the second disk. -/
def writeChanges (tag : Text) (before after : Disk) : IO Unit := do
  let old := before.tree.leaves []
  let new := after.tree.leaves []
  for (names, entry) in new do
    if !old.contains (names, entry) then
      let path : Text := 0x2F :: Path.ofNames names
      match entry with
      | .folder _ => IO.FS.createDirAll path.toString
      | .file content =>
        let beside := Disk.besidePath tag path
        IO.FS.createDirAll (Path.parent path).toString
        IO.FS.writeBinFile beside.toString content.toByteArray
        IO.FS.rename beside.toString path.toString
  for (names, entry) in old do
    match entry with
    | .file _ =>
      if !new.any fun leaf => leaf.1 = names then
        IO.FS.removeFile (Text.toString (0x2F :: Path.ofNames names))
    | .folder _ => pure ()

/-- The present time and a text that no other run has. -/
def surroundings : IO Surroundings := do
  let now ← Std.Time.Timestamp.now
  let bytes ← IO.getRandomBytes 4
  let tag := bytes.toList.flatMap fun b =>
    [CodeUnit.hexDigit (b.toNat / 16), CodeUnit.hexDigit (b.toNat % 16)]
  return ⟨(Instant.mk now.toMillisecondsSinceUnixEpoch.val.toNat).text, tag⟩

end Remedy.Cli

open Remedy Remedy.Cli in
def main (args : List String) : IO UInt32 := do
  let args := args.map Text.ofString
  let around ← surroundings
  let disk ← readDisk args
  let done := run around disk args
  writeChanges around.tag disk done.session.disk
  IO.print done.session.out.toString
  IO.eprint done.session.err.toString
  return done.code.toUInt32
