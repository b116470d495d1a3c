import Remedy.Disk

/-!
# Where reports go

A report is written to a file, or shown on the console unless the program is to be quiet.
-/

namespace Remedy

inductive Destination where
  | file (path : Text)
  | console
  | nowhere
  deriving DecidableEq, Repr

/-- A file takes precedence. An empty path names none. -/
def Destination.choose (output : Option Text) (quiet : Bool) : Destination :=
  match output with
  | some (c :: path) => .file (c :: path)
  | _ => if quiet then .nowhere else .console

/-- Delivers the text of a report, as a line or lines of its own. Gives the disk and
what is shown. -/
def Disk.deliver (disk : Disk) (destination : Destination) (report : Text) :
    Except FileError (Disk × Text) :=
  let content := report ++ "\n"
  match destination with
  | .file path => (disk.write path (Utf8.encode content)).map fun disk => (disk, [])
  | .console => .ok (disk, content)
  | .nowhere => .ok (disk, [])

end Remedy
