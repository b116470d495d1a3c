import Remedy.Path
import Remedy.Tree
import Remedy.Patch.Source
import Remedy.Text.Quoted

/-!
# Disks

A tree of files with a working directory, and the operations on its files. An operation that fails
says which rule of the file system it ran into.
-/

namespace Remedy

/-- A rule of the file system that an operation can run into. -/
inductive Errno where
  | noEntry
  | notDirectory
  | isDirectory
  | alreadyExists
  | nameTooLong
  | accessDenied
  | noSpace
  /-- A path holds a unit that is zero. -/
  | zeroUnit
  deriving DecidableEq, Repr

namespace Errno

def code : Errno → Text
  | .noEntry => "ENOENT"
  | .notDirectory => "ENOTDIR"
  | .isDirectory => "EISDIR"
  | .alreadyExists => "EEXIST"
  | .nameTooLong => "ENAMETOOLONG"
  | .accessDenied => "EACCES"
  | .noSpace => "ENOSPC"
  | .zeroUnit => "ERR_INVALID_ARG_VALUE"

def description : Errno → Text
  | .noEntry => "no such file or directory"
  | .notDirectory => "not a directory"
  | .isDirectory => "illegal operation on a directory"
  | .alreadyExists => "file already exists"
  | .nameTooLong => "name too long"
  | .accessDenied => "permission denied"
  | .noSpace => "no space left on device"
  | .zeroUnit => "must be a string, Uint8Array, or URL without null bytes"

end Errno

/-- The operations of the file system. -/
inductive Call where
  | openFile (path : Text)
  | readFile
  | makeFolder (path : Text)
  /-- Looking at what is at the end of a path. -/
  | status (path : Text)
  | rename (source target : Text)
  deriving DecidableEq, Repr

def Call.text : Call → Text
  | .openFile path => "open " ++ path.inApostrophes
  | .readFile => "read"
  | .makeFolder path => "mkdir " ++ path.inApostrophes
  | .status path => "stat " ++ path.inApostrophes
  | .rename source target => "rename " ++ source.inApostrophes ++ " -> " ++ target.inApostrophes

/-- The path that an operation is for. -/
def Call.path : Call → Text
  | .openFile path => path
  | .readFile => []
  | .makeFolder path => path
  | .status path => path
  | .rename source _ => source

structure FileError where
  errno : Errno
  call : Call
  deriving DecidableEq, Repr

/-- A path that holds a zero is refused before the operation is tried. -/
def FileError.message (e : FileError) : Text :=
  match e.errno with
  | .zeroUnit => "The argument 'path' " ++ e.errno.description ++ ". Received " ++ e.call.path.shown
  | errno => errno.code ++ ": " ++ errno.description ++ ", " ++ e.call.text

structure Disk where
  tree : Tree
  /-- The names on the way to the working directory. -/
  here : List Text
  deriving DecidableEq, Repr

/-- The longest name, in bytes. -/
def maxName : Nat := 255

/-- The longest path, in bytes. -/
def maxPath : Nat := 4095

/-- Names are limited in their bytes. -/
def isLongName (name : Text) : Bool := maxName < (Utf8.encode name).length

namespace Disk

/-- The working directory as a path. -/
def herePath (disk : Disk) : Text := 0x2F :: Path.ofNames disk.here

/-- A path as seen from the working directory. -/
def absolute (disk : Disk) (path : Text) : Text := Path.resolve disk.herePath path

/-- Follows names from a folder on the disk. All of them but the last must lead to folders, and the
last need not exist. -/
def follow (tree : Tree) (here : List Text) : List Text → Except Errno (List Text)
  | [] => .ok here
  | name :: names =>
    if name = Path.dot then follow tree here names
    else if name = Path.dots then follow tree here.dropLast names
    else if isLongName name then .error .nameTooLong
    else if names.isEmpty then .ok (here ++ [name])
    else match tree.get? (here ++ [name]) with
      | some (.folder _) => follow tree (here ++ [name]) names
      | some (.file _) => .error .notDirectory
      | none => .error .noEntry

/-- The names a path leads to. A slash at its end asks for a folder. -/
def locate (disk : Disk) (path : Text) : Except Errno (List Text) :=
  if path.isEmpty then .error .noEntry
  else if path.contains 0 then .error .zeroUnit
  else if maxPath < (Utf8.encode path).length then .error .nameTooLong
  else
    let names := (Path.split path).filter fun name => !name.isEmpty
    let names := if path.getLast? = some 0x2F then names ++ [Path.dot] else names
    follow disk.tree (if Path.isAbsolute path then [] else disk.here) names

def entry (disk : Disk) (path : Text) : Except Errno Entry := do
  match disk.tree.get? (← disk.locate path) with
  | some entry => return entry
  | none => .error .noEntry

def isFile (disk : Disk) (path : Text) : Bool :=
  match disk.entry path with
  | .ok (.file _) => true
  | _ => false

def isFolder (disk : Disk) (path : Text) : Bool :=
  match disk.entry path with
  | .ok (.folder _) => true
  | _ => false

def exists? (disk : Disk) (path : Text) : Bool := (disk.entry path).isOk

/-- The bytes of a file. -/
def read (disk : Disk) (path : Text) : Except FileError Bytes :=
  match disk.entry path with
  | .ok (.file content) => .ok content
  | .ok (.folder _) => .error ⟨.isDirectory, .readFile⟩
  | .error errno => .error ⟨errno, .openFile path⟩

def readSource (disk : Disk) (path : Text) : Except FileError Source :=
  (disk.read path).map Source.ofBytes

/-- The text of a file; what is not valid in it is replaced. -/
def readText? (disk : Disk) (path : Text) : Option Text :=
  match disk.read path with
  | .ok bytes => some (Utf8.decode bytes)
  | .error _ => none

/-- The entries of a folder. -/
def entries? (disk : Disk) (path : Text) : Option Tree :=
  match disk.entry path with
  | .ok (.folder entries) => some entries
  | _ => none

/-- Gives a file its content, and makes the file if need be. -/
def write (disk : Disk) (path : Text) (content : Bytes) : Except FileError Disk :=
  match disk.locate (Path.dropSlashes path) with
  | .error errno => .error ⟨errno, .openFile path⟩
  | .ok names =>
    match disk.tree.get? names, disk.tree.get? names.dropLast with
    | some (.folder _), _ => .error ⟨.isDirectory, .openFile path⟩
    | _, some (.folder _) =>
      if path.getLast? = some 0x2F then .error ⟨.isDirectory, .openFile path⟩
      else .ok { disk with tree := disk.tree.putAt names (.file content) }
    | _, some (.file _) => .error ⟨.notDirectory, .openFile path⟩
    | _, none => .error ⟨.noEntry, .openFile path⟩

/-- Removes a file, if there is one. -/
def remove (disk : Disk) (path : Text) : Disk :=
  match disk.locate path with
  | .ok names => { disk with tree := disk.tree.eraseAt names }
  | .error _ => disk

/-- Moves a file over another one, or to a new name. -/
def rename (disk : Disk) (source target : Text) : Except FileError Disk :=
  match disk.read source, disk.locate target with
  | .ok content, .ok names =>
    match disk.tree.get? names with
    | some (.folder _) => .error ⟨.isDirectory, .rename source target⟩
    | _ => .ok (({ disk with tree := disk.tree.putAt names (.file content) } : Disk).remove source)
  | .error e, _ => .error ⟨e.errno, .rename source target⟩
  | _, .error errno => .error ⟨errno, .rename source target⟩

/-- What keeps a path from being looked at, apart from there being nothing at its end. -/
def obstacle? (disk : Disk) (path : Text) : Option FileError :=
  match disk.locate path with
  | .error .nameTooLong => some ⟨.nameTooLong, .status path⟩
  | .error .zeroUnit => some ⟨.zeroUnit, .status path⟩
  | _ => none

/-- Makes the folders of a path that are missing, one after another, up to the first that cannot be
made. -/
def makeFoldersFrom (above : List Text) (tree : Tree) : List Text → Tree × Option Errno
  | [] => (tree, none)
  | name :: names =>
    let path := above ++ [name]
    if isLongName name then (tree, some .nameTooLong)
    else match tree.get? path with
      | some (.folder _) => makeFoldersFrom path tree names
      | some (.file _) => (tree, some (if names.isEmpty then .alreadyExists else .notDirectory))
      | none => makeFoldersFrom path (tree.putAt path (.folder .empty)) names

/-- Makes a folder and those above it, where they are missing. -/
def makeFolders (disk : Disk) (path : Text) : Disk × Option FileError :=
  let refuse (errno : Errno) : FileError := ⟨errno, .makeFolder path⟩
  if path.contains 0 then (disk, some (refuse .zeroUnit))
  else if maxPath < (Utf8.encode path).length then (disk, some (refuse .nameTooLong))
  else
    let (tree, errno) := makeFoldersFrom [] disk.tree (Path.names path)
    ({ disk with tree }, errno.map refuse)

end Disk

end Remedy
