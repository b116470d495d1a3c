import Remedy.Glob.Braces
import Remedy.Glob.Part

/-!
# Path patterns

A pattern is matched against a relative path part by part. A double star matches any number of
parts, a pattern without a slash matches the last name of a path, a leading exclamation mark
negates, and a leading number sign makes a comment that matches nothing. Names that start with a
point are matched like any other.
-/

namespace Remedy.Glob

/-- The pieces of a path between slashes; neighbouring slashes count as one. -/
def splitSlashes : Text → List Text
  | [] => [[]]
  | c :: t =>
    if c == '/' then
      if t.head? == some 0x2F then splitSlashes t else [] :: splitSlashes t
    else match splitSlashes t with
      | [] => [[c]]
      | piece :: pieces => (c :: piece) :: pieces

def doubleStar : Text := "**"

/-- Drops a double star after another, and a name together with a parent mark after it. The parts
read so far are held backwards. -/
def simplifyParts (seen : List Text) : List Text → List Text
  | [] => seen.reverse
  | part :: parts =>
    match seen with
    | [] => simplifyParts [part] parts
    | last :: before =>
      if part == doubleStar && last == doubleStar then simplifyParts seen parts
      else if part == [0x2E, 0x2E] && !last.isEmpty && !isDots last && last != doubleStar then
        simplifyParts before parts
      else simplifyParts (part :: seen) parts

def partsOf (pattern : Text) : List Text :=
  match simplifyParts [] (splitSlashes pattern) with
  | [] => [[]]
  | parts => parts

/-- Matches parts without a double star; a final empty name may be left over. -/
def matchParts : List Text → List Part → Bool
  | [], [] => true
  | [], _ :: _ => false
  | [name], [] => name.isEmpty
  | _ :: _ :: _, [] => false
  | name :: names, part :: parts => part.test name && matchParts names parts

/-- The names may stand for a double star. -/
def noDots (names : List Text) : Bool := !names.any isDots

def Part.isGlobstar : Part → Bool
  | .globstar => true
  | _ => false

/-- The runs of parts between double stars. -/
def sections : List Part → List (List Part)
  | [] => [[]]
  | part :: parts =>
    if part.isGlobstar then [] :: sections parts
    else match sections parts with
      | [] => [[part]]
      | run :: runs => (part :: run) :: runs

/-- How the search for the sections between double stars ends: with an answer that stands, or with
none, when the names ran out. -/
inductive Outcome where
  | found (answer : Bool)
  | exhausted

/-- A run of parts to be placed among the names, with the number of names that have to be left from
its start on. -/
structure Section where
  parts : List Part
  needed : Nat

/-- Each run needs room for itself and for as many names as the runs from the first on hold, up to
the one as far from the end as it is from the start. -/
def sectionsOf (runs : List (List Part)) : List Section :=
  let lengths := runs.map List.length
  runs.zipIdx.map fun (run, i) =>
    ⟨run, (lengths.take (runs.length - 1 - i)).foldl (· + ·) run.length⟩

/-- At most this many runs are placed one inside the search for another. -/
def maxSections : Nat := 200

/-- Places the sections one after another among the names, each after any number of names that a
double star may stand for. `limit` is the number of names before the tail, `depth` that of the
sections placed, `index` that of the names passed, and `fuel` bounds the steps. -/
def matchSections (sawTail : Bool) (limit : Nat) :
    Nat → List Section → List Text → Nat → Nat → Outcome
  | 0, _, _, _, _ => .exhausted
  | _ + 1, [], names, _, _ => .found (noDots names && (sawTail || !names.isEmpty))
  | fuel + 1, run :: runs, names, depth, index =>
    if index + run.needed ≤ limit then
      let size := run.parts.length
      let here : Option Outcome :=
        if matchParts (names.take size) run.parts && depth < maxSections then
          match
            matchSections sawTail limit fuel runs (names.drop size) (depth + 1) (index + size)
          with
          | .found false => none
          | outcome => some outcome
        else none
      match here, names with
      | some outcome, _ => outcome
      | none, [] => .exhausted
      | none, name :: rest =>
        if isDots name then .found false
        else matchSections sawTail limit fuel (run :: runs) rest depth (index + 1)
    else .exhausted

/-- Matches a tail of parts at the end of the names; it may leave a final empty name over. Gives the
number of names it takes. -/
def matchTail (names : List Text) (tail : List Part) : Option Nat :=
  if tail.isEmpty then some 0
  else if names.length < tail.length then none
  else if matchParts (names.drop (names.length - tail.length)) tail then some tail.length
  else if names.getLast? == some [] && tail.length < names.length &&
      matchParts (names.drop (names.length - tail.length - 1)) tail then some (tail.length + 1)
  else none

/-- Matches a pattern that has a double star. -/
def matchGlobstar (names : List Text) (pattern : List Part) : Bool :=
  let head := pattern.takeWhile fun p => !p.isGlobstar
  let afterHead := (pattern.drop (head.length + 1))
  let tail := (afterHead.reverse.takeWhile fun p => !p.isGlobstar).reverse
  let body := afterHead.take (afterHead.length - tail.length - 1)
  if !head.isEmpty && !matchParts (names.take head.length) head then false
  else
    let rest := names.drop head.length
    match matchTail rest tail with
    | none => false
    | some taken =>
      if body.isEmpty then
        let middle := rest.take (rest.length - taken)
        noDots middle && (0 < taken || !middle.isEmpty)
      else
        let limit := rest.length - taken
        let fuel := rest.length + pattern.length + 2
        match matchSections (0 < taken) limit fuel (sectionsOf (sections body)) rest 0 0 with
        | .found answer => answer
        | .exhausted => false

/-- The last name of a path that is not empty. -/
def lastName (names : List Text) : Text :=
  (names.reverse.find? fun name => !name.isEmpty).getD []

def matchPattern (matchBase : Bool) (names : List Text) (pattern : List Part) : Bool :=
  let names := if matchBase && pattern.length == 1 then [lastName names] else names
  if pattern.any Part.isGlobstar then matchGlobstar names pattern else matchParts names pattern

/-- The longest pattern. -/
def maxLength : Nat := 65536

/-- Whether a path matches a pattern. -/
def matches? (path pattern : Text) : Except Fault Bool :=
  if maxLength < pattern.length then .error .tooLong
  else if pattern.head? == some 0x23 then .ok false
  else if pattern.isEmpty then .ok path.isEmpty
  else do
    let marks := pattern.takeWhile (· == 0x21)
    let negated := marks.length % 2 == 1
    let parts := (expandBraces (pattern.drop marks.length)).map partsOf
    let patterns ← parts.mapM fun parts : List Text => parts.mapM Part.read
    let matchBase := !pattern.contains 0x2F
    return patterns.any (matchPattern matchBase (splitSlashes path)) != negated

/-- A path matches one of some patterns, which are tried in order up to the first match. -/
def matchesAny? (path : Text) (patterns : List Text) : Except Fault Bool :=
  patterns.anyM (matches? path)

end Remedy.Glob
