import Remedy.Text

/-!
# Paths

Names with slashes between them. Normalising a path is lexical: it removes repeated slashes, single
dots, and double dots together with the name before them.
-/

namespace Remedy.Path

def isSlash (c : CodeUnit) : Bool := c == 0x2F

def isAbsolute (path : Text) : Bool := path.head? == some 0x2F

/-- The names of a path, empty ones included. -/
def split (path : Text) : List Text := Text.splitAt isSlash path

def dot : Text := "."

def dots : Text := ".."

/-- Adds a name to the names before it, which are given in reverse. A double dot at the start of a
relative path stays. -/
def addName (relative : Bool) (before : List Text) (name : Text) : List Text :=
  if name.isEmpty || name == dot then before
  else if name == dots then
    match before with
    | last :: rest => if last == dots then name :: before else rest
    | [] => if relative then [name] else []
  else name :: before

/-- The names of a path after normalisation. -/
def names (path : Text) : List Text :=
  ((split path).foldl (addName (!isAbsolute path)) []).reverse

/-- Names as a relative path. -/
def ofNames (names : List Text) : Text := List.intercalate ("/" : Text) names

/-- The shortest path that is lexically the same. A slash at the end stays. -/
def normalize (path : Text) : Text :=
  let body := ofNames (names path)
  let closed := path.getLast? == some 0x2F
  if isAbsolute path then
    if body.isEmpty then "/" else 0x2F :: body ++ (if closed then [0x2F] else [])
  else if body.isEmpty then if closed then "./" else "."
  else body ++ (if closed then [0x2F] else [])

/-- One path after another, normalised. -/
def join (a b : Text) : Text :=
  if a.isEmpty && b.isEmpty then "."
  else if a.isEmpty then normalize b
  else if b.isEmpty then normalize a
  else normalize (a ++ 0x2F :: b)

/-- A path as seen from an absolute directory: absolute, normalised, and with no slash
at the end. -/
def resolve (directory path : Text) : Text :=
  let whole := if isAbsolute path then path else directory ++ 0x2F :: path
  0x2F :: ofNames (names whole)

def dropSlashes (path : Text) : Text := (path.reverse.dropWhile isSlash).reverse

/-- The path without its last name. -/
def parent (path : Text) : Text :=
  let before := ((dropSlashes path).reverse.dropWhile fun c => !isSlash c).reverse
  match before.dropLast with
  | [] => if isAbsolute path then "/" else "."
  | directory => directory

/-- The last name of a path. -/
def name (path : Text) : Text :=
  ((dropSlashes path).reverse.takeWhile fun c => !isSlash c).reverse

end Remedy.Path
