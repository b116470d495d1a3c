import Remedy.Disk

/-!
# Replacing a file

The content of a file is replaced by writing a new file beside it and moving that over the old one.
Whatever goes wrong on the way, the file holds its old content or its new one, and the file beside
it is removed.
-/

namespace Remedy

/-- Where the work on a file is cut short from outside, and with what error. -/
inductive Interruption where
  /-- When the file is read, before anything else is done to it. It may stay unreadable. -/
  | reading (error : FileError) (lasting : Bool)
  /-- While the new content is written, after some of its bytes. -/
  | writing (written : Nat) (error : FileError)
  /-- When the new file is moved over the old one. -/
  | moving (error : FileError)
  deriving DecidableEq, Repr

/-- The error with which a file cannot be read. -/
def Interruption.readError? : Interruption → Option FileError
  | .reading error _ => some error
  | _ => none

/-- A file could not be replaced. -/
structure WriteFailure where
  path : Text
  cause : FileError
  deriving DecidableEq, Repr

def WriteFailure.message (failure : WriteFailure) : Text :=
  "Failed to write " ++ failure.path ++ ": " ++ failure.cause.message

namespace Disk

/-- The file that new content is written to first. The tag tells it from all others. -/
def besidePath (tag path : Text) : Text :=
  Path.join (Path.parent path) ("." ++ Path.name path ++ "." ++ tag ++ ".tmp")

/-- Writes a new file, up to where that is cut short. -/
def writeUpTo (interruption : Option Interruption) (disk : Disk) (path : Text) (content : Bytes) :
    Disk × Option FileError :=
  match interruption, disk.write path content with
  | some (.writing written error), .ok _ =>
    match disk.write path (content.take written) with
    | .ok disk => (disk, some error)
    | .error e => (disk, some e)
  | _, .ok disk => (disk, none)
  | _, .error e => (disk, some e)

/-- Moves a file over another one, unless that is cut short. -/
def moveOver (interruption : Option Interruption) (disk : Disk) (source target : Text) :
    Except FileError Disk :=
  match interruption with
  | some (.moving error) => .error error
  | _ => disk.rename source target

/-- Replaces the content of a file. -/
def replace (tag : Text) (interruption : Option Interruption) (disk : Disk) (path : Text)
    (content : Bytes) : Disk × Option WriteFailure :=
  let beside := besidePath tag path
  let undo (disk : Disk) : Disk := if disk.isFile beside then disk.remove beside else disk
  match disk.obstacle? path, writeUpTo interruption disk beside content with
  | some cause, _ => (disk, some ⟨path, cause⟩)
  | none, (written, some cause) => (undo written, some ⟨path, cause⟩)
  | none, (written, none) =>
    match moveOver interruption written beside path with
    | .ok moved => (moved, none)
    | .error cause => (undo written, some ⟨path, cause⟩)

end Disk

end Remedy
