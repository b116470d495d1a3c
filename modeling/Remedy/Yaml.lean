import Remedy.Yaml.Node

/-!
# YAML documents

The value of a text that holds a single document. An empty text holds none, which is no error.
-/

namespace Remedy.Yaml

/-- The name of a directive and its arguments, up to a comment. -/
def directiveWords (line : Text) : List Text :=
  let words := (Text.splitAt isWhite line).filter fun w => !w.isEmpty
  words.take 1 ++ (words.drop 1).takeWhile fun w => w.head? != some 0x23

/-- A version: two numerals with a dot between them, the first of which is one. -/
def isVersion (t : Text) : Bool :=
  match Text.splitAt (· == 0x2E) t with
  | [major, minor] => numeral? 10 major == some 1 && (numeral? 10 minor).isSome
  | _ => false

/-- The version that has been given, and the abbreviations for tags. -/
structure Directives where
  versioned : Bool := false
  handles : List (Text × Text) := []

/-- Adds a directive. Those that are not known are ignored. -/
def Directives.add? (d : Directives) : List Text → Option Directives
  | name :: args =>
    if name == ("YAML" : Text) then
      match args with
      | [version] =>
        if d.versioned || !isVersion version then none else some { d with versioned := true }
      | _ => none
    else if name == ("TAG" : Text) then
      match args with
      | [handle, start] =>
        if isHandle handle && isTagName start && !(d.handles.any fun h => h.1 == handle) then
          (decodeTag start).map fun start => { d with handles := (handle, start) :: d.handles }
        else none
      | _ => none
    else some d
  | [] => none

/-- Reads the directives before a document, and says whether there are any. -/
def readDirectives (seen : Bool) (d : Directives) : Nat → Read Bool
  | 0 => Read.fail
  | fuel + 1 => do
    discard (Read.skipSpace true)
    let c ← get
    match c.rest with
    | 0x25 :: t =>
      if 0 < c.indent then finish c
      else do
        let line := t.takeWhile fun u => !isBreak u
        Read.check (!headIs isWhite line)
        match d.add? (directiveWords line) with
        | none => Read.fail
        | some d => do
          Read.advance (line.length + 1)
          unless (← Read.rest).isEmpty do Read.lineBreak
          readDirectives true d fuel
    | _ => finish c
where
  finish (c : Cursor) : Read Bool := do
    set { c with handles := d.handles }
    return seen

/-- Reads a document. -/
def readDocument : Read Value := do
  let size := (← Read.rest).length
  let directives ← readDirectives false {} (size + 1)
  let c ← get
  if c.indent == 0 && Text.startsWith c.rest "---" then
    Read.advance 3
    discard (Read.skipSpace true)
  else Read.check (!directives)
  let node ← readNode ((← get).indent - 1) .blockOut false true (10 * size + 100)
  discard (Read.skipSpace true)
  let c ← get
  if c.atMark then
    if Text.startsWith c.rest "..." then
      Read.advance 3
      discard (Read.skipSpace true)
  return node.value

/-- The text with a line break at its end and without a byte order mark. -/
def normalize (t : Text) : Text :=
  let t := if t.isEmpty || (t.getLast?.any isBreak) then t else t ++ [0x0A]
  if t.head? == some 0xFEFF then t.tail else t

/-- The value of the only document of a text, if there is one; `none` for malformed texts. -/
def parse? (t : Text) : Option (Option Data) := do
  let t := normalize t
  if t.contains 0 then none
  else
    let blanks := t.takeWhile (· == 0x20)
    let start := { ({ rest := t } : Cursor).forward blanks with indent := blanks.length }
    if start.rest.length ≤ 1 then return none
    else
      let (value, stop) ← readDocument.run start
      if 1 < stop.rest.length then none else return some (value.toData stop.collections)

end Remedy.Yaml
