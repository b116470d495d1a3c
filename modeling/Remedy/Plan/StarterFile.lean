import Remedy.Disk
import Remedy.Plan.Starter

/-!
# Writing the starter plan

A copy of the starter plan as a file. An existing file is only overwritten on request.
-/

namespace Remedy.Starter

inductive CopyError where
  | alreadyExists (path : Text)
  | failed (error : FileError)
  deriving DecidableEq, Repr

def CopyError.message : CopyError → Text
  | .alreadyExists path => "File already exists: " ++ path ++ ". Use --force to overwrite."
  | .failed error => error.message

structure Copy where
  path : Text
  error : Option CopyError
  deriving DecidableEq, Repr

/-- Writes the plan to a path, together with the folders it lies in. Folders that have been made
stay where the plan cannot be written. -/
def write (disk : Disk) (path : Text) : Disk × Option FileError :=
  match disk.makeFolders (Path.parent path) with
  | (disk, some e) => (disk, some e)
  | (disk, none) =>
    match disk.write path (Utf8.encode text) with
    | .ok disk => (disk, none)
    | .error e => (disk, some e)

/-- Copies the plan to a file. The path is relative to a directory. -/
def copy (disk : Disk) (directory : Text) (output : Option Text) (force : Bool) : Disk × Copy :=
  let path := Path.resolve directory (output.getD defaultName)
  if disk.exists? path && !force then (disk, ⟨path, some (.alreadyExists path)⟩)
  else
    let (disk, error) := write disk path
    (disk, ⟨path, error.map .failed⟩)

end Remedy.Starter
