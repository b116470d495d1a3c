import Remedy.Disk
import Remedy.Plan.Check
import Remedy.Plan.Starter
import Remedy.Yaml

/-!
# Loading plans

A plan that extends another one is laid over it; the other plan may extend a third, and so on. A
loader keeps the plans it has loaded.
-/

namespace Remedy

inductive LoadFailure where
  | unreadable (path : Text) (errno : Errno)
  | malformed (path : Text)
  | invalid (path : Text) (issues : List Issue)
  /-- A plan that extends itself, by way of the plans in the chain. -/
  | circular (chain : List Text) (path : Text)
  deriving DecidableEq, Repr

namespace LoadFailure

/-- The plan that could not be loaded. -/
def path : LoadFailure → Text
  | .unreadable path _ => path
  | .malformed path => path
  | .invalid path _ => path
  | .circular _ path => path

/-- What is wrong, one line for each issue. -/
def details : LoadFailure → List Text
  | .unreadable _ errno => [errno.code]
  | .malformed _ => ["<yaml>"]
  | .invalid _ issues => issues.map Issue.text
  | .circular _ _ => ["extends: circular reference"]

def message : LoadFailure → Text
  | .unreadable path _ => "Failed to read plan file: " ++ path
  | .malformed path => "Invalid YAML in plan file: " ++ path
  | .invalid path issues =>
    "Invalid plan file: " ++ path ++ "\n" ++ List.intercalate ("\n" : Text) (issues.map Issue.text)
  | .circular chain path =>
    "Circular extends: " ++ List.intercalate (" -> " : Text) (chain ++ [path])

end LoadFailure

/-- Reads a plan from its text. The source is named in failures. -/
def Plan.parse (source content : Text) : Except LoadFailure Plan :=
  match Yaml.parse? content with
  | none => .error (.malformed source)
  | some data =>
    match Plan.ofData data with
    | .ok plan => .ok plan
    | .error issues => .error (.invalid source issues)

/-- The plan in a file, without the plans it extends. -/
def Disk.readPlan (disk : Disk) (path : Text) : Except LoadFailure Plan :=
  match disk.read path with
  | .ok bytes => Plan.parse path (Utf8.decode bytes)
  | .error e => .error (.unreadable path e.errno)

/-- The plan that another one extends, as a path. An empty text names none. -/
def Plan.basePath? (plan : Plan) (path : Text) : Option Text :=
  match plan.base with
  | some base => if base.isEmpty then none else some (Path.join (Path.parent path) base)
  | none => none

structure Loader where
  /-- The directory that paths are relative to, as seen from the working directory. -/
  directory : Text
  followsExtends : Bool := true
  /-- The plans that have been loaded. -/
  cache : List (Text × Plan) := []

namespace Loader

def cached? (loader : Loader) (path : Text) : Option Plan :=
  (loader.cache.find? fun entry => entry.1 == path).map Prod.snd

def keep (loader : Loader) (path : Text) (plan : Plan) : Loader :=
  { loader with cache := (path, plan) :: loader.cache }

def clear (loader : Loader) : Loader := { loader with cache := [] }

/-- A path as seen from the directory of a loader. -/
def absolute (disk : Disk) (loader : Loader) (path : Text) : Text :=
  Path.resolve (disk.absolute loader.directory) path

/-- Loads the plan at an absolute path, which the plans of a chain lead to. -/
def loadFrom (disk : Disk) (chain : List Text) (loader : Loader) (path : Text) :
    Nat → Loader × Except LoadFailure Plan
  | 0 => (loader, .error (.circular chain path))
  | fuel + 1 =>
    match loader.cached? path with
    | some plan => (loader, .ok plan)
    | none =>
      if chain.contains path then (loader, .error (.circular chain path))
      else match disk.readPlan path with
        | .error failure => (loader, .error failure)
        | .ok plan =>
          match if loader.followsExtends then plan.basePath? path else none with
          | none => (loader.keep path plan, .ok plan)
          | some base =>
            match loadFrom disk (chain ++ [path]) loader base fuel with
            | (loader, .error failure) => (loader, .error failure)
            | (loader, .ok base) => (loader.keep path (base.merge plan), .ok (base.merge plan))

/-- Loads a plan from a file. A chain of plans without repetitions is no longer than the disk has
files, and one more for a plan that is missing. -/
def load (disk : Disk) (loader : Loader) (path : Text) : Loader × Except LoadFailure Plan :=
  loadFrom disk [] loader (loader.absolute disk path) ((disk.tree.leaves []).length + 2)

/-- Loads the plan that comes with the program, which lies in the given directory. -/
def loadStarter (loader : Loader) (program : Text) : Loader × Except LoadFailure Plan :=
  let path := Path.join program Starter.file
  match loader.cached? path with
  | some plan => (loader, .ok plan)
  | none =>
    match Plan.parse path Starter.text with
    | .ok plan => (loader.keep path plan, .ok plan)
    | .error failure => (loader, .error failure)

/-- What is wrong with a plan, leaving aside the plans it extends. -/
def validate (disk : Disk) (loader : Loader) (path : Text) : List Text :=
  match disk.readPlan (loader.absolute disk path) with
  | .ok _ => []
  | .error failure => failure.details

end Loader

end Remedy
