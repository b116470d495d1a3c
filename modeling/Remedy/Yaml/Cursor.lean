import Remedy.Yaml.Value

/-!
# Places in a YAML text

A cursor holds what is left of a text together with what the rules on layout need to know about the
place: its line and column, the indentation of its line, and whether there is a tab before it.
-/

namespace Remedy.Yaml

structure Cursor where
  rest : Text
  /-- The unit before the place. -/
  last : CodeUnit := 0
  line : Nat := 0
  column : Nat := 0
  /-- The number of blanks that the line starts with. -/
  indent : Nat := 0
  /-- There is a tab among the white space before the place. -/
  tab : Bool := false
  /-- The values that have been given a name. -/
  anchors : List (Text × Value) := []
  /-- The collections that have been given a name, by their numbers. -/
  collections : Array Collection := #[]
  /-- The number of nodes around the place. -/
  depth : Nat := 0
  /-- The number of maps and members that have been merged into others. -/
  merged : Nat := 0
  /-- The abbreviations for tags. -/
  handles : List (Text × Text) := []

namespace Cursor

/-- Past one unit of a line. -/
def step (c : Cursor) (u : CodeUnit) : Cursor :=
  { c with rest := c.rest.tail, last := u, column := c.column + 1 }

/-- Past some units of a line. -/
def forward (c : Cursor) (units : Text) : Cursor :=
  { c with
    rest := c.rest.drop units.length
    last := units.getLast?.getD c.last
    column := c.column + units.length }

/-- At the start of the next line. -/
def nextLine (c : Cursor) (rest : Text) : Cursor :=
  { c with rest, last := 0x0A, line := c.line + 1, column := 0, indent := 0, tab := false }

/-- Past a line break, if there is one. -/
def lineBreak? (c : Cursor) : Option Cursor :=
  match c.rest with
  | 0x0D :: 0x0A :: rest => some (c.nextLine rest)
  | u :: rest => if isBreak u then some (c.nextLine rest) else none
  | [] => none

/-- At the start of a line, before a mark between documents. -/
def atMark (c : Cursor) : Bool := c.column == 0 && atDocumentMark c.rest

end Cursor

/-- What the units of a stretch of white space count as. -/
inductive Space where
  | indentation
  | white
  | comment
  deriving DecidableEq, Repr

/-- Passes white space, line breaks and, where they are allowed, comments. Gives the number of line
breaks. -/
def skipSpaceFrom (comments : Bool) (mode : Space) (breaks : Nat) (c : Cursor) :
    Text → Nat × Cursor
  | [] => (breaks, { c with rest := [] })
  | 0x0D :: 0x0A :: t => skipSpaceFrom comments .indentation (breaks + 1) (c.nextLine t) t
  | u :: t =>
    if isBreak u then skipSpaceFrom comments .indentation (breaks + 1) (c.nextLine t) t
    else if mode = .comment then skipSpaceFrom comments .comment breaks (c.step u) t
    else if u = 0x20 then
      if mode = .indentation then
        skipSpaceFrom comments .indentation breaks { c.step u with indent := c.indent + 1 } t
      else skipSpaceFrom comments .white breaks (c.step u) t
    else if u = 0x09 then skipSpaceFrom comments .white breaks { c.step u with tab := true } t
    else if comments && u == 0x23 then skipSpaceFrom comments .comment breaks (c.step u) t
    else (breaks, { c with rest := u :: t })

def Cursor.skipSpace (comments : Bool) (c : Cursor) : Nat × Cursor :=
  skipSpaceFrom comments .white 0 c c.rest

/-! ## Readers -/

/-- A reader moves a cursor on; it fails when the text is malformed. -/
abbrev Read := StateT Cursor Option

namespace Read

def fail {α : Type} : Read α := fun _ => none

/-- Fails unless a condition holds. -/
def check (b : Bool) : Read Unit := if b then pure () else fail

def rest : Read Text := return (← get).rest

def advance (n : Nat) : Read Unit := modify fun c => c.forward (c.rest.take n)

def lineBreak : Read Unit := fun c => c.lineBreak?.map fun c => ((), c)

def skipSpace (comments : Bool) : Read Nat := fun c => some (c.skipSpace comments)

def setAnchor (name : Option Text) (value : Value) : Read Unit :=
  match name with
  | some name => modify fun c => { c with anchors := (name, value) :: c.anchors }
  | none => pure ()

/-- Gives a collection that is about to be read its name and its number. -/
def enlist (name : Option Text) (empty : Collection) : Read (Option Nat) :=
  match name with
  | none => return none
  | some name => do
    let id := (← get).collections.size
    modify fun c => { c with
      anchors := (name, .reference id) :: c.anchors
      collections := c.collections.push empty }
    return some id

/-- Notes what has been read of a collection. -/
def note (id : Option Nat) (content : Collection) : Read Unit :=
  match id with
  | none => pure ()
  | some id => modify fun c => { c with collections := c.collections.setIfInBounds id content }

/-- Nodes nest this deep. -/
def maxDepth : Nat := 100

/-- Reads something that lies one level deeper. -/
def deeper {α : Type} (read : Read α) : Read α := do
  let depth := (← get).depth
  check (depth < maxDepth)
  modify fun c => { c with depth := depth + 1 }
  let a ← read
  modify fun c => { c with depth }
  return a

end Read

/-- A value, or what has been read of the collection it refers to. -/
def Cursor.look (c : Cursor) (value : Value) : Value :=
  match value with
  | .reference id => (c.collections[id]?.map Collection.toValue).getD .null
  | value => value

/-- At most this many maps and members are merged into others. -/
def maxMerged : Nat := 10000

/-- Adds one entry to a map. The merge key adds the members of a map, or of several; any other key
must be new. -/
def Members.store (m : Members) (isMerge : Bool) (key value : Value) : Read Members := do
  let c ← get
  match keyText c.look key with
  | none => Read.fail
  | some name =>
    if isMerge then
      let sources := (c.look value).items?.getD [value]
      match sources.mapM fun source => (c.look source).source? with
      | none => Read.fail
      | some sources =>
        let merged := sources.foldl (fun n source => n + 1 + source.length) c.merged
        Read.check (merged ≤ maxMerged)
        set { c with merged }
        return sources.foldl inherit m
    else do
      Read.check (!m.has name || m.inherited.contains name)
      return m.put name value

end Remedy.Yaml
