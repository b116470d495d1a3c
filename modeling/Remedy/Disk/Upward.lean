import Remedy.Disk

/-!
# Looking upward

A file that lies beside a folder, or beside one of those that it lies in.
-/

namespace Remedy

/-- No folder on the way up has the file. -/
structure NotFoundUpward where
  path : Text
  deriving DecidableEq, Repr

def NotFoundUpward.message (e : NotFoundUpward) : Text := "Package file not found: " ++ e.path

namespace Disk

/-- A folder and those above it, the nearest first. -/
def upward (folder : Text) : List Text :=
  let names := Path.names folder
  (List.range (names.length + 1)).map fun n =>
    0x2F :: Path.ofNames (names.take (names.length - n))

/-- The first place on the way up from a folder where a path leads to something. -/
def findUpward (disk : Disk) (folder path : Text) : Except NotFoundUpward Text :=
  match ((upward folder).map fun above => Path.join above path).find? disk.exists? with
  | some found => .ok found
  | none => .error ⟨path⟩

end Disk

end Remedy
