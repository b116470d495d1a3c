import Remedy.Yaml.Cursor

/-!
# Tags

A tag says what kind of value a node stands for. A plain scalar without a tag stands for the value
that its text looks like.
-/

namespace Remedy.Yaml

/-! ## Values of plain scalars -/

def isNull (t : Text) : Bool := (["~", "null", "Null", "NULL"] : List Text).contains t

def boolean? (t : Text) : Option Bool :=
  if (["true", "True", "TRUE"] : List Text).contains t then some true
  else if (["false", "False", "FALSE"] : List Text).contains t then some false
  else none

/-- The sign at the start of a number, and the rest. -/
def splitSign : Text → Bool × Text
  | 0x2D :: t => (true, t)
  | 0x2B :: t => (false, t)
  | t => (false, t)

/-- The value of a numeral in some base; there must be a digit. -/
def numeral? (base : Nat) (t : Text) : Option Nat :=
  if t.isEmpty then none
  else t.foldl (fun n c => n.bind fun n =>
    (c.hexValue?.filter fun d => d < base).map fun d => n * base + d) (some 0)

/-- A number, unless it is too large for one. -/
def finite? : Number → Option Number
  | .infinite _ => none
  | n => some n

/-- Whole numbers, in base two, eight, ten or sixteen. -/
def integer? (t : Text) : Option Number :=
  let (negative, digits) := splitSign t
  let value := match digits with
    | 0x30 :: 0x62 :: t => numeral? 2 t
    | 0x30 :: 0x6F :: t => numeral? 8 t
    | 0x30 :: 0x78 :: t => numeral? 16 t
    | t => numeral? 10 t
  value.bind fun n => finite? (.ofScientific negative n 0)

def digitsValue (t : Text) : Nat := t.foldl (fun n c => n * 10 + (c.toNat - 0x30)) 0

/-- The power of ten after a decimal number. -/
def exponent? : Text → Option Int
  | [] => some 0
  | c :: t =>
    if c == 0x65 || c == 0x45 then
      let (negative, digits) := splitSign t
      if !digits.isEmpty && digits.all CodeUnit.isDigit then
        some (if negative then -(digitsValue digits) else digitsValue digits)
      else none
    else none

/-- A decimal number without its sign. -/
def decimal? (negative : Bool) (t : Text) : Option Number :=
  let whole := t.takeWhile CodeUnit.isDigit
  let rest := t.drop whole.length
  let (fraction, rest) := match rest with
    | 0x2E :: rest => (rest.takeWhile CodeUnit.isDigit, rest.dropWhile CodeUnit.isDigit)
    | rest => ([], rest)
  if whole.isEmpty && fraction.isEmpty then none
  else (exponent? rest).bind fun e =>
    finite? (.ofScientific negative (digitsValue (whole ++ fraction)) (e - fraction.length))

/-- Decimal numbers. One that starts with its point has no sign. -/
def float? (t : Text) : Option Number :=
  let (negative, body) := splitSign t
  if ([".nan", ".NaN", ".NAN"] : List Text).contains t then some .nan
  else if ([".inf", ".Inf", ".INF"] : List Text).contains body then some (.infinite negative)
  else if headIs CodeUnit.isDigit body || headIs (· == 0x2E) t then decimal? negative body
  else none

/-- The key whose value is merged into its map. -/
def mergeKey : Text := "<<"

/-- The value that a plain scalar stands for. -/
def plainValue (t : Text) : Data :=
  if isNull t then .null
  else match boolean? t, integer? t, float? t with
    | some b, _, _ => .bool b
    | none, some n, _ => .number n
    | none, none, some n => .number n
    | none, none, none => if isDate t then .date t else .text t

/-! ## Values with a tag -/

inductive Kind where
  | scalar
  | sequence
  | mapping
  deriving DecidableEq, Repr

/-- The tag of a plain scalar that has none. -/
def unknownTag : Text := "?"

/-- The tag that keeps a scalar a text. -/
def plainTag : Text := "!"

/-- What the names of the common types start with. -/
def commonTag : Text := "tag:yaml.org,2002:"

def mergeTag : Text := commonTag ++ "merge"

/-- Digits of base sixty-four, with padding; they stand for whole bytes. -/
def isBinary (t : Text) : Bool :=
  let digits := t.filter fun c => !isBreak c
  digits.all (fun c => c.isLetter || c.isDigit || c == 0x2B || c == 0x2F || c == 0x3D) &&
    digits.length % 4 == 0

def binaryDigit (c : CodeUnit) : Nat :=
  if 0x41 ≤ c && c ≤ 0x5A then c.toNat - 0x41
  else if 0x61 ≤ c && c ≤ 0x7A then c.toNat - 0x61 + 26
  else if 0x30 ≤ c && c ≤ 0x39 then c.toNat - 0x30 + 52
  else if c == 0x2B then 62
  else 63

/-- The bytes that digits of base sixty-four stand for, four digits to three bytes. -/
def binaryBytes : List Nat → Bytes
  | a :: b :: c :: d :: t =>
    let n := ((a * 64 + b) * 64 + c) * 64 + d
    (n / 65536).toUInt8 :: (n / 256).toUInt8 :: n.toUInt8 :: binaryBytes t
  | [a, b, c] =>
    let n := (a * 64 + b) * 64 + c
    [(n / 1024).toUInt8, (n / 4).toUInt8]
  | [a, b] => [((a * 64 + b) / 16).toUInt8]
  | _ => []

/-- The bytes of a binary text; a text without digits stands for three zeros. -/
def binaryValue (t : Text) : Bytes :=
  let digits := t.filter fun c => !isBreak c && c != 0x3D
  if digits.isEmpty then [0, 0, 0] else binaryBytes (digits.map binaryDigit)

/-- The members of a list of maps that each have one. -/
def singles? (look : Value → Value) (value : Value) : Option (List (Text × Value)) :=
  let single (item : Value) : Option (Text × Value) :=
    match (look item).members? with
    | some [member] => some member
    | _ => none
  if value.isNull then some [] else value.items?.bind fun items => items.mapM single

/-- A map whose members have no value. -/
def isSet (value : Value) : Bool :=
  (value.members?.getD []).all fun (_, member) => member.isNull

/-- The kind of node that a common type is for. -/
def kindOf? (name : Text) : Option Kind :=
  if (["str", "null", "bool", "int", "float", "timestamp", "merge", "binary"] : List Text).contains
    name then some .scalar
  else if (["seq", "omap", "pairs"] : List Text).contains name then some .sequence
  else if (["map", "set"] : List Text).contains name then some .mapping
  else none

/-- The value of a scalar type, from the text of a scalar or from nothing at all. -/
def scalarValue? (name : Text) (value : Value) : Option Value :=
  let ofText {α : Type} (read : Text → Option α) (make : α → Value) : Option Value :=
    match value with
    | .whole (.text t) => (read t).map make
    | _ => none
  let holds (p : Text → Bool) (t : Text) : Option Text := if p t then some t else none
  if name == ("str" : Text) then some (if value.isNull then .text [] else value)
  else if name == ("null" : Text) then
    if value.isNull then some value else ofText (holds isNull) fun _ => .null
  else if name == ("bool" : Text) then ofText boolean? fun b => .whole (.bool b)
  else if name == ("int" : Text) then ofText integer? fun n => .whole (.number n)
  else if name == ("float" : Text) then ofText float? fun n => .whole (.number n)
  else if name == ("timestamp" : Text) then ofText (holds isDate) fun t => .whole (.date t)
  else if name == ("binary" : Text) then ofText (holds isBinary) fun t => .bytes (binaryValue t)
  else if name == ("merge" : Text) then
    if value.isNull then some value else ofText (holds (· == mergeKey)) .text
  else none

/-- The value of a collection type. -/
def collectionValue? (look : Value → Value) (name : Text) (value : Value) : Option Value :=
  let orEmpty (empty : Data) : Value := if value.isNull then .whole empty else value
  if name == ("seq" : Text) then some (orEmpty (.list []))
  else if name == ("map" : Text) then some (orEmpty (.map []))
  else if name == ("set" : Text) then if isSet value then some (orEmpty (.map [])) else none
  else if name == ("pairs" : Text) then
    (singles? look value).map fun pairs => .ofItems (pairs.map fun (k, v) => .ofItems [.text k, v])
  else if name == ("omap" : Text) then
    match singles? look value with
    | some pairs => if (pairs.map Prod.fst).Nodup then some (orEmpty (.list [])) else none
    | none => none
  else none

/-- The value of a node with a tag; none when the tag is unknown or does not fit. A node without
content fits every kind. -/
def taggedValue? (look : Value → Value) (tag : Text) (kind : Option Kind) (value : Value) :
    Option Value :=
  if !commonTag.isPrefixOf tag then none
  else
    let name := tag.drop commonTag.length
    match kindOf? name with
    | none => none
    | some expected =>
      if !value.isNull && kind != some expected then none
      else if expected = .scalar then scalarValue? name value
      else collectionValue? look name value

/-! ## Reading tags -/

/-- A name between exclamation marks, or one or two of them alone. -/
def isHandle (t : Text) : Bool :=
  match t with
  | 0x21 :: t =>
    t.isEmpty || t == ([0x21] : Text) ||
      (t.getLast? == some 0x21 && 1 < t.length &&
        t.dropLast.all fun c => c.isLetter || c.isDigit || c == 0x2D)
  | _ => false

def isTagUnit (c : CodeUnit) : Bool :=
  c.isLetter || c.isDigit || ("-#;/?:@&=+$,_.!~*'()[]" : Text).contains c

/-- The units after the first one of a tag; a percent sign stands before two hexadecimal digits. -/
def isTagTail : Text → Bool
  | [] => true
  | 0x25 :: a :: b :: t => a.hexValue?.isSome && b.hexValue?.isSome && isTagTail t
  | c :: t => isTagUnit c && isTagTail t

def isTagName : Text → Bool
  | [] => false
  | c :: t => (c == 0x21 || !isFlowMark c) && isTagTail t

/-- The bytes of the escapes at the start of a tag, and what follows them. -/
def escapedBytes : Text → Option (Bytes × Text)
  | 0x25 :: t =>
    match t with
    | a :: b :: t => do
      let a ← a.hexValue?
      let b ← b.hexValue?
      let (bytes, t) ← escapedBytes t
      return ((a * 16 + b).toUInt8 :: bytes, t)
    | _ => none
  | t => some ([], t)

/-- Replaces the escapes in a tag: they are the bytes of characters, which must be well formed. -/
def decodeTagFrom : Nat → Text → Option Text
  | 0, _ => none
  | fuel + 1, t => do
    let (bytes, t) ← escapedBytes t
    let start ← Utf8.decode? bytes
    match t with
    | [] => return start
    | c :: t => return start ++ c :: (← decodeTagFrom fuel t)

def decodeTag (t : Text) : Option Text := decodeTagFrom (t.length + 1) t

/-- The handle of a tag and its name. -/
def splitTag (written : Text) : Option (Text × Text) :=
  match written with
  | 0x21 :: 0x21 :: name => if name.contains 0x21 then none else some ("!!", name)
  | 0x21 :: t =>
    let handle := t.takeWhile (· != 0x21)
    match t.drop handle.length with
    | 0x21 :: name =>
      let handle := [0x21] ++ handle ++ [0x21]
      if isHandle handle && !name.contains 0x21 then some (handle, name) else none
    | _ => some ([0x21], t)
  | _ => none

/-- The tag that an abbreviation and a name stand for. -/
def expandTag (handles : List (Text × Text)) (handle name : Text) : Option Text :=
  match handles.find? fun (h, _) => h == handle with
  | some (_, start) => some (start ++ name)
  | none =>
    if handle == ([0x21] : Text) then some (0x21 :: name)
    else if handle == ("!!" : Text) then some (commonTag ++ name)
    else none

/-- Reads a tag that is written between angle brackets. -/
def verbatimTag (t : Text) : Read Text := do
  let name := t.take 1 ++ (t.drop 1).takeWhile (· != 0x3E)
  Read.check (name.length < t.length)
  Read.check (name.isEmpty || isTagName name)
  Read.advance (name.length + 3)
  match decodeTag name with
  | some tag => return tag
  | none => Read.fail

/-- Reads a tag, if there is one. -/
def readTag : Read (Option Text) := do
  match ← Read.rest with
  | 0x21 :: 0x3C :: t => some <$> verbatimTag t
  | 0x21 :: t =>
    let written := 0x21 :: t.takeWhile fun c => !isSpace c
    match splitTag written with
    | none => Read.fail
    | some (handle, name) => do
      Read.check (!name.any isFlowMark && (name.isEmpty || isTagName name))
      Read.advance written.length
      match (decodeTag name).bind (expandTag (← get).handles handle) with
      | some tag => return some tag
      | none => Read.fail
  | _ => return none

/-- The units of the name of an anchor. -/
def anchorName (t : Text) : Text := t.takeWhile fun c => !isSpace c && !isFlowMark c

/-- Reads the name that is given to a node, if there is one. -/
def readAnchor : Read (Option Text) := do
  match ← Read.rest with
  | 0x26 :: t =>
    let name := anchorName t
    Read.check (!name.isEmpty)
    Read.advance (name.length + 1)
    return some name
  | _ => return none

/-- Reads the value that has been given a name, if there is a reference to one. -/
def readAlias : Read (Option Value) := do
  match ← Read.rest with
  | 0x2A :: t =>
    let name := anchorName t
    Read.check (!name.isEmpty)
    match (← get).anchors.find? fun (n, _) => n == name with
    | none => Read.fail
    | some (_, value) => do
      Read.advance (name.length + 1)
      discard (Read.skipSpace true)
      return some value
  | _ => return none

end Remedy.Yaml
