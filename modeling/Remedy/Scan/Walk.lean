import Remedy.Disk
import Remedy.Glob

/-!
# Walking a tree

The files below a directory that are selected by patterns for their paths. Hidden folders and
folders of installed packages are never entered.
-/

namespace Remedy

/-- Which paths are wanted, and which are left out together with all that lies below them. -/
structure Selection where
  included : Text → Except Glob.Fault Bool
  excluded : Text → Except Glob.Fault Bool

/-- The selection given by two lists of patterns. -/
def Selection.ofPatterns (included excluded : List Text) : Selection where
  included path := Glob.matchesAny? path included
  excluded path := Glob.matchesAny? path excluded

/-- The folder that packages are installed in. -/
def packageFolder : Text := "node_modules"

/-- A folder that is never entered. -/
def isClosedFolder (name : Text) : Bool := name.head? == some 0x2E || name == packageFolder

namespace Tree

/-- The selected files, with their paths; `above` is the path of the tree itself, and ends in a
slash unless it is empty. -/
def walk (selection : Selection) (above : Text) : Tree → Except Glob.Fault (List Text)
  | .empty => .ok []
  | .file name _ rest => do
    let path := above ++ name
    let wanted ← if (← selection.excluded path) then pure false else selection.included path
    let others ← walk selection above rest
    return if wanted then path :: others else others
  | .folder name entries rest => do
    let path := above ++ name
    let skipped := (← selection.excluded path) || isClosedFolder name
    let below ← if skipped then pure [] else walk selection (path ++ [0x2F]) entries
    return below ++ (← walk selection above rest)

/-- The paths of the selected files, in order. -/
def select (selection : Selection) (t : Tree) : Except Glob.Fault (List Text) := do
  return Text.sort (← t.walk selection [])

end Tree

/-- The selected files below a folder of a disk; none when there is no such folder. -/
def Disk.select (disk : Disk) (folder : Text) (selection : Selection) :
    Except Glob.Fault (List Text) :=
  match disk.entries? folder with
  | some entries => entries.select selection
  | none => .ok []

end Remedy
