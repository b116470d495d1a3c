import Remedy.Yaml.Scalar
import Remedy.Yaml.Tag

/-!
# Nodes

A node is a scalar or a collection of nodes, written in the block style, where indentation gives the
structure, or in the flow style, between brackets.
-/

namespace Remedy.Yaml

inductive Context where
  | flowIn
  | flowOut
  | blockIn
  | blockOut
  deriving DecidableEq, Repr

def Context.isBlock : Context → Bool
  | .blockIn => true
  | .blockOut => true
  | _ => false

structure Node where
  value : Value := .null
  kind : Option Kind := none
  /-- The node is the merge key. -/
  isMerge : Bool := false
  /-- There is anything at all, if only a tag. -/
  present : Bool := false

/-- The tag, the name and the content of a node while it is being read. -/
structure Draft where
  tag : Option Text := none
  anchor : Option Text := none
  kind : Option Kind := none
  value : Value := .null
  found : Bool := false

namespace Draft

def fill (d : Draft) (kind : Kind) (value : Value) : Draft :=
  { d with kind := some kind, value, found := true }

/-- The node of a draft, once its tag has been applied. -/
def resolve (d : Draft) : Read Node := do
  let present := d.tag.isSome || d.anchor.isSome || d.found
  let value ← match d.tag with
    | none => pure d.value
    | some tag =>
      if tag == unknownTag then
        match d.value with
        | .whole (.text t) =>
          if d.kind = some .scalar then pure (.whole (plainValue t)) else Read.fail
        | value => if value.isNull || d.kind = some .scalar then pure value else Read.fail
      else if tag == plainTag then pure d.value
      else match taggedValue? (← get).look tag d.kind d.value with
        | some value => pure value
        | none => Read.fail
  Read.setAnchor d.anchor value
  let isMerge := match d.tag, d.value with
    | some tag, .whole (.text t) => tag == mergeTag || (tag == unknownTag && t == mergeKey)
    | some tag, _ => tag == mergeTag
    | none, _ => false
  return { value, kind := d.kind, isMerge, present }

end Draft

/-- Where a line stands in relation to the node around it. -/
def Cursor.placed (c : Cursor) (parent : Int) : Ordering := compare (c.indent : Int) parent

/-- What is known before the content of a node. -/
structure Opening where
  tag : Option Text := none
  anchor : Option Text := none
  /-- A line break has been passed. -/
  newLine : Bool := false
  place : Ordering := .gt
  /-- A collection in the block style may follow. -/
  blocks : Bool
  /-- Before the first property. -/
  start : Option Cursor := none

/-- There is a property that has been given already. -/
def Opening.repeats (o : Opening) (rest : Text) : Bool :=
  headIs (· == 0x21) rest && o.tag.isSome || headIs (· == 0x26) rest && o.anchor.isSome

/-- Reads the tag and the name of a node, in any order and each at most once. After a line break a
property of a kind that has been given belongs to the first key of a map. -/
def properties (parent : Int) (context : Context) (o : Opening) : Nat → Read Opening
  | 0 => return o
  | fuel + 1 => do
    let here ← get
    let repeated := o.repeats here.rest
    let tag ← if repeated && o.newLine then pure none else readTag
    let anchor ← if repeated && o.newLine || tag.isSome then pure none else readAnchor
    if tag.isNone && anchor.isNone then return o
    else do
      Read.check (!repeated)
      let o := { o with
        tag := tag <|> o.tag
        anchor := anchor <|> o.anchor
        start := o.start <|> some here }
      let breaks ← Read.skipSpace true
      if 0 < breaks then do
        let place := (← get).placed parent
        properties parent context { o with newLine := true, blocks := context.isBlock, place } fuel
      else properties parent context { o with blocks := false } fuel

/-- The ways in which the attempt to read a map in the block style ends. -/
inductive MapAttempt where
  /-- There is no map, and nothing has been looked at. -/
  | untried
  /-- There is no node that could be a key. -/
  | absent
  /-- There is a node, but it is no key. -/
  | single (node : Node)
  | mapping (value : Value)

/-- How far the reading of a map in the block style has come. -/
structure MapState where
  entries : Members := {}
  /-- A key with its own mark has been read, and its value has not. -/
  explicit : Bool := false
  key : Value := .null
  keyIsMerge : Bool := false
  /-- There has been an entry. -/
  detected : Bool := false
  /-- The number of the map, if it has a name. -/
  id : Option Nat

/-- Adds the entry whose key has been read. -/
def MapState.store (s : MapState) (value : Value) : Read MapState := do
  let entries ← s.entries.store s.keyIsMerge s.key value
  Read.note s.id (.members entries)
  return { s with entries, key := .null, keyIsMerge := false }

/-- The outcome of a map in the block style whose last entry has been read. -/
def MapState.close (s : MapState) : Read MapAttempt := do
  let s ← if s.explicit then s.store .null else pure s
  return if s.detected then .mapping s.entries.toValue else .absent

mutual

/-- Reads a node that stands inside one with the given indentation. -/
def readNode (parent : Int) (context : Context) (seek compact : Bool) : Nat → Read Node
  | 0 => Read.fail
  | fuel + 1 => Read.deeper do
    let breaks ← if seek then Read.skipSpace true else pure 0
    let here ← get
    let place := if 0 < breaks then here.placed parent else .gt
    let start : Opening := { newLine := 0 < breaks, place, blocks := context.isBlock }
    let o ← if start.place = .gt then properties parent context start 3 else pure start
    let blocks := o.blocks && (o.newLine || compact)
    let draft : Draft := { tag := o.tag, anchor := o.anchor }
    let column : Int := (← get).column
    let flowIndent := if context.isBlock then parent + 1 else parent
    if o.place = .gt then
      (← readContent draft o.start blocks context column flowIndent fuel).resolve
    else if o.place = .eq && context = .blockOut && blocks then
      match ← readSequence draft.anchor column fuel with
      | some value => (draft.fill .sequence value).resolve
      | none => draft.resolve
    else draft.resolve

/-- Reads the content of a node: a collection or a scalar. -/
def readContent (draft : Draft) (start : Option Cursor) (blocks : Bool) (context : Context)
    (column flowIndent : Int) : Nat → Read Draft
  | 0 => Read.fail
  | fuel + 1 => do
    match ← if blocks then readSequence draft.anchor column fuel else pure none with
    | some value => return draft.fill .sequence value
    | none =>
      match ← if blocks then readMap draft.anchor column flowIndent fuel else pure .untried with
      | .mapping value => return draft.fill .mapping value
      | .single node => return { draft with kind := node.kind, value := node.value, found := true }
      | .absent => readFlow {} context flowIndent fuel
      | .untried =>
        match if blocks || !context.isBlock then none else start with
        | some start => readFirstKey draft start context flowIndent fuel
        | none => readFlow draft context flowIndent fuel

/-- Reads a node whose properties may be those of the first key of a map in the block style. -/
def readFirstKey (draft : Draft) (start : Cursor) (context : Context) (flowIndent : Int) :
    Nat → Read Draft
  | 0 => Read.fail
  | fuel + 1 => do
    let here ← get
    if headIs (fun c => ([0x5B, 0x7B, 0x7C, 0x3E] : Text).contains c) here.rest then
      readFlow draft context flowIndent fuel
    else do
      set { start with depth := here.depth }
      match ← readMap none start.column flowIndent fuel with
      | .mapping value => return ({} : Draft).fill .mapping value
      | _ => do
        set here
        readFlow draft context flowIndent fuel

/-- Reads a collection in the flow style or a scalar. -/
def readFlow (draft : Draft) (context : Context) (flowIndent : Int) : Nat → Read Draft
  | 0 => Read.fail
  | fuel + 1 => do
    match ← Read.rest with
    | 0x5B :: _ => do
      let id ← Read.enlist draft.anchor (.items [])
      Read.advance 1
      return draft.fill .sequence (← readFlowItems flowIndent id [] true fuel)
    | 0x7B :: _ => do
      let id ← Read.enlist draft.anchor (.members {})
      Read.advance 1
      return draft.fill .mapping (← readFlowEntries flowIndent id {} true fuel)
    | 0x27 :: _ => do
      Read.advance 1
      return draft.fill .scalar (.text (← singleQuoted [] [] fuel))
    | 0x22 :: _ => do
      Read.advance 1
      return draft.fill .scalar (.text (← doubleQuoted [] [] fuel))
    | 0x2A :: _ => do
      Read.check (draft.tag.isNone && draft.anchor.isNone)
      match ← readAlias with
      | some value => return { draft with value, found := true }
      | none => return draft
    | _ => do
      match ← if context.isBlock then blockScalar flowIndent fuel else pure none with
      | some t => return draft.fill .scalar (.text t)
      | none =>
        match ← plain flowIndent (context = .flowIn) fuel with
        | some t =>
          return { draft.fill .scalar (.text t) with tag := draft.tag <|> some unknownTag }
        | none => return draft

/-- Reads a list in the block style, if there is one. -/
def readSequence (anchor : Option Text) (indent : Int) : Nat → Read (Option Value)
  | 0 => Read.fail
  | fuel + 1 => do
    if (← get).tab then return none
    else do
      let id ← Read.enlist anchor (.items [])
      let items ← readItems indent id [] fuel
      return if items.isEmpty then none else some (.ofItems items)

/-- Reads the items of a list; those before are given in reverse. -/
def readItems (indent : Int) (id : Option Nat) (acc : List Value) : Nat → Read (List Value)
  | 0 => Read.fail
  | fuel + 1 => do
    Read.note id (.items acc)
    let c ← get
    match c.rest with
    | 0x2D :: t =>
      if c.tab then Read.fail
      else if !headIs isSpace t then return acc.reverse
      else do
        Read.advance 1
        let breaks ← Read.skipSpace true
        if 0 < breaks && (← get).indent ≤ indent then readItems indent id (.null :: acc) fuel
        else do
          let line := (← get).line
          let node ← readNode indent .blockIn false true fuel
          discard (Read.skipSpace true)
          let c ← get
          if (c.line == line || indent < c.indent) && !c.rest.isEmpty then Read.fail
          else if c.indent < indent then
            Read.note id (.items (node.value :: acc))
            return (node.value :: acc).reverse
          else readItems indent id (node.value :: acc) fuel
    | t => if c.tab && !t.isEmpty then Read.fail else return acc.reverse

/-- Reads a map in the block style, if there is one. -/
def readMap (anchor : Option Text) (indent flowIndent : Int) : Nat → Read MapAttempt
  | 0 => Read.fail
  | fuel + 1 => do
    let c ← get
    if c.tab then return .untried
    else do
      let id ← Read.enlist anchor (.members {})
      if c.rest.isEmpty then return .untried
      else readEntries indent flowIndent { id } fuel

/-- Reads the entries of a map in the block style. -/
def readEntries (indent flowIndent : Int) (s : MapState) : Nat → Read MapAttempt
  | 0 => Read.fail
  | fuel + 1 => do
    let c ← get
    match c.rest with
    | [] => s.close
    | u :: t =>
      if !s.explicit && c.tab then Read.fail
      else if u == 0x3F && headIs isSpace t then do
        let s ← if s.explicit then s.store .null else pure s
        Read.advance 1
        readEntry indent flowIndent { s with detected := true, explicit := true } true c.line fuel
      else if u == 0x3A && headIs isSpace t then do
        Read.check s.explicit
        Read.advance 1
        readEntry indent flowIndent { s with explicit := false } true c.line fuel
      else do
        let node ← readNode flowIndent .flowOut false true fuel
        if !node.present then s.close
        else do
          let here ← get
          let white := (here.rest.takeWhile isWhite).length
          if here.line == c.line && headIs (· == 0x3A) (here.rest.drop white) then do
            Read.advance (white + 1)
            Read.check (headIs isSpace (← Read.rest))
            let s ← if s.explicit then s.store .null else pure s
            readEntry indent flowIndent
              { s with detected := true, explicit := false, key := node.value,
                       keyIsMerge := node.isMerge } false c.line fuel
          else if s.detected then Read.fail
          else do
            if here.line == c.line then Read.advance white
            return .single node

/-- Reads what follows the mark of a key or a value, then the remaining entries. -/
def readEntry (indent flowIndent : Int) (s : MapState) (compact : Bool) (line : Nat) :
    Nat → Read MapAttempt
  | 0 => Read.fail
  | fuel + 1 => do
    let node ← readNode indent .blockOut true compact fuel
    let s ← if s.explicit then pure { s with key := if node.present then node.value else s.key }
      else s.store node.value
    discard (Read.skipSpace true)
    let c ← get
    if (c.line == line || indent < c.indent) && !c.rest.isEmpty then Read.fail
    else if c.indent < indent then s.close
    else readEntries indent flowIndent s fuel

/-- Reads one entry of a collection in the flow style: a node, and after a colon its value. -/
def readFlowPair (indent : Int) : Nat → Read (Node × Option Value)
  | 0 => Read.fail
  | fuel + 1 => do
    let rest ← Read.rest
    let explicit := headIs (· == 0x3F) rest && headIs isSpace rest.tail
    if explicit then
      Read.advance 1
      discard (Read.skipSpace true)
    let line := (← get).line
    let key ← readNode indent .flowIn false true fuel
    discard (Read.skipSpace true)
    let c ← get
    if (explicit || c.line == line) && headIs (· == 0x3A) c.rest then do
      Read.advance 1
      discard (Read.skipSpace true)
      let value ← readNode indent .flowIn false true fuel
      return (key, some value.value)
    else return (key, if explicit then some .null else none)

/-- Reads the items of a list in the flow style; those before are given in reverse. -/
def readFlowItems (indent : Int) (id : Option Nat) (acc : List Value) (expected : Bool) :
    Nat → Read Value
  | 0 => Read.fail
  | fuel + 1 => do
    Read.note id (.items acc)
    discard (Read.skipSpace true)
    let rest ← Read.rest
    if headIs (· == 0x5D) rest then do
      Read.advance 1
      return .ofItems acc.reverse
    else do
      Read.check (expected && !rest.isEmpty && !headIs (· == 0x2C) rest)
      let (key, value) ← readFlowPair indent fuel
      let item ← match value with
        | none => pure key.value
        | some value => do
          let entry ← ({} : Members).store key.isMerge key.value value
          pure entry.toValue
      discard (Read.skipSpace true)
      let more := headIs (· == 0x2C) (← Read.rest)
      if more then Read.advance 1
      readFlowItems indent id (item :: acc) more fuel

/-- Reads the entries of a map in the flow style. -/
def readFlowEntries (indent : Int) (id : Option Nat) (entries : Members) (expected : Bool) :
    Nat → Read Value
  | 0 => Read.fail
  | fuel + 1 => do
    Read.note id (.members entries)
    discard (Read.skipSpace true)
    let rest ← Read.rest
    if headIs (· == 0x7D) rest then do
      Read.advance 1
      return entries.toValue
    else do
      Read.check (expected && !rest.isEmpty && !headIs (· == 0x2C) rest)
      let (key, value) ← readFlowPair indent fuel
      let entries ← entries.store key.isMerge key.value (value.getD .null)
      discard (Read.skipSpace true)
      let more := headIs (· == 0x2C) (← Read.rest)
      if more then Read.advance 1
      readFlowEntries indent id entries more fuel

end

end Remedy.Yaml
