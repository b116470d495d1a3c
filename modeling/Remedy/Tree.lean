import Remedy.Text.Utf8

/-!
# Trees of files

The entries of a directory, one after another; those of a folder are a tree again. Names are listed
in no particular order.
-/

namespace Remedy

inductive Tree where
  | empty
  | file (name : Text) (content : Bytes) (rest : Tree)
  | folder (name : Text) (entries : Tree) (rest : Tree)
  deriving DecidableEq, Repr

inductive Entry where
  | file (content : Bytes)
  | folder (entries : Tree)
  deriving DecidableEq, Repr

namespace Tree

/-- The entry with a given name. -/
def find? (name : Text) : Tree → Option Entry
  | .empty => none
  | .file n content rest => if n = name then some (.file content) else find? name rest
  | .folder n entries rest => if n = name then some (.folder entries) else find? name rest

/-- An entry in front of others. -/
def cons (name : Text) : Entry → Tree → Tree
  | .file content, rest => .file name content rest
  | .folder entries, rest => .folder name entries rest

/-- Replaces the entry with a given name where it stands, or adds one at the end. -/
def put (name : Text) (entry : Entry) : Tree → Tree
  | .empty => cons name entry .empty
  | .file n content rest =>
    if n = name then cons name entry rest else .file n content (put name entry rest)
  | .folder n entries rest =>
    if n = name then cons name entry rest else .folder n entries (put name entry rest)

def erase (name : Text) : Tree → Tree
  | .empty => .empty
  | .file n content rest => if n = name then rest else .file n content (erase name rest)
  | .folder n entries rest => if n = name then rest else .folder n entries (erase name rest)

/-- The entry at the end of a path; the empty path leads to the tree itself. -/
def get? : List Text → Tree → Option Entry
  | [], t => some (.folder t)
  | name :: names, t =>
    match t.find? name, names with
    | some (.folder entries), names => get? names entries
    | some (.file content), [] => some (.file content)
    | _, _ => none

/-- Changes the folder at the end of a path. A path that leads to no folder changes nothing. -/
def modifyAt (f : Tree → Tree) : List Text → Tree → Tree
  | [], t => f t
  | name :: names, t =>
    match t.find? name with
    | some (.folder entries) => t.put name (.folder (modifyAt f names entries))
    | _ => t

/-- Puts an entry at the end of a path. -/
def putAt (path : List Text) (entry : Entry) (t : Tree) : Tree :=
  match path.getLast? with
  | some name => t.modifyAt (put name entry) path.dropLast
  | none => t

def eraseAt (path : List Text) (t : Tree) : Tree :=
  match path.getLast? with
  | some name => t.modifyAt (erase name) path.dropLast
  | none => t

/-- Adds the folders of a path that are missing. -/
def withFolders : List Text → Tree → Tree
  | [], t => t
  | name :: names, t =>
    match t.find? name with
    | some (.folder entries) => t.put name (.folder (withFolders names entries))
    | some (.file _) => t
    | none => t.put name (.folder (withFolders names .empty))

/-- The paths below a tree that hold a file or an empty folder, with their entries. -/
def leaves (above : List Text) : Tree → List (List Text × Entry)
  | .empty => []
  | .file name content rest => (above ++ [name], .file content) :: leaves above rest
  | .folder name .empty rest => (above ++ [name], .folder .empty) :: leaves above rest
  | .folder name entries rest => leaves (above ++ [name]) entries ++ leaves above rest

end Tree

end Remedy
