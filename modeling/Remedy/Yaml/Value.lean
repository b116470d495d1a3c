import Remedy.Data
import Remedy.Text.Utf8
import Remedy.Yaml.Date

/-!
# Values of a document that is being read

A name may be referred to inside the very collection it is given to. Such a reference stands for the
collection as it is in the end, and until then for what has been read of it.
-/

namespace Remedy.Yaml

inductive Value where
  /-- A value with nothing in it that is still being read. -/
  | whole (d : Data)
  | bytes (bs : Bytes)
  | list (items : List Value)
  | map (members : List (Text × Value))
  /-- The collection with the given number. -/
  | reference (id : Nat)

namespace Value

def null : Value := .whole .null

def text (t : Text) : Value := .whole (.text t)

def isNull : Value → Bool
  | .whole .null => true
  | _ => false

def whole? : Value → Option Data
  | .whole d => some d
  | _ => none

/-- A list, which is whole if its items are. -/
def ofItems (items : List Value) : Value :=
  match items.mapM whole? with
  | some items => .whole (.list items)
  | none => .list items

/-- A map, which is whole if its members are. -/
def ofMembers (members : List (Text × Value)) : Value :=
  match members.mapM fun (key, value) => value.whole?.map (key, ·) with
  | some members => .whole (.map members)
  | none => .map members

def items? : Value → Option (List Value)
  | .whole (.list items) => some (items.map .whole)
  | .list items => some items
  | _ => none

/-- Each item of a list with its place. -/
def indexed (items : List Value) : List (Text × Value) :=
  items.zipIdx.map fun (item, i) => (Text.ofNat i, item)

def ofBytes (bs : Bytes) : List Value := bs.map fun b => .whole (.ofNat b.toNat)

def members? : Value → Option (List (Text × Value))
  | .whole (.map members) => some (members.map fun (key, d) => (key, .whole d))
  | .map members => some members
  | _ => none

/-- The members that a value can be asked for. -/
def source? (value : Value) : Option (List (Text × Value)) :=
  match value with
  | .whole (.date _) => some []
  | .bytes bs => some (indexed (ofBytes bs))
  | value => value.members? <|> value.items?.map indexed

end Value

/-! ## Keys -/

/-- The text of a value that is the key of a member, unless it is a list. -/
def scalarKey : Value → Text
  | .whole .null => "null"
  | .whole (.bool b) => if b then "true" else "false"
  | .whole (.number n) => n.toText
  | .whole (.text t) => t
  | .whole (.date t) => (Timestamp.ofText? t).elim t Timestamp.text
  | .bytes bs => List.intercalate ("," : Text) (bs.map fun b => Text.ofNat b.toNat)
  | _ => "[object Object]"

/-- The text of a value that is the key of a member. A list may not hold lists. -/
def keyText (look : Value → Value) (key : Value) : Option Text :=
  match (look key).items? with
  | none => some (scalarKey (look key))
  | some items =>
    let item (value : Value) : Option Text :=
      if (look value).items?.isSome then none
      else some (if value.isNull then [] else scalarKey (look value))
    (items.mapM item).map fun items => List.intercalate ("," : Text) items

/-! ## Maps -/

/-- A map that is being read. -/
structure Members where
  /-- The last member first. -/
  backwards : List (Text × Value) := []
  /-- The keys that come from another map, and can still be given a value. -/
  inherited : List Text := []

namespace Members

def toValue (m : Members) : Value := .ofMembers m.backwards.reverse

def has (m : Members) (key : Text) : Bool := m.backwards.any fun p => p.1 == key

/-- Gives a key its value. -/
def put (m : Members) (key : Text) (value : Value) : Members where
  backwards :=
    if m.has key then m.backwards.map fun p => if p.1 == key then (key, value) else p
    else (key, value) :: m.backwards
  inherited := m.inherited.filter (· != key)

/-- Adds the members of another map whose keys are new. -/
def inherit (m : Members) (source : List (Text × Value)) : Members :=
  source.foldl (fun m (key, value) =>
    if m.has key then m
    else ⟨(key, value) :: m.backwards, key :: m.inherited⟩) m

end Members

/-! ## Collections with a name -/

/-- A collection that has been given a name: what has been read of it, or all of it. -/
inductive Collection where
  | items (backwards : List Value)
  | members (m : Members)
  | complete (value : Value)

namespace Collection

def toValue : Collection → Value
  | .items backwards => .ofItems backwards.reverse
  | .members m => m.toValue
  | .complete value => value

end Collection

mutual

/-- A value as data, when each reference is replaced by some data. -/
def Value.fill (look : Nat → Data) : Value → Data
  | .whole d => d
  | .bytes bs => .map (bs.zipIdx.map fun (b, i) => (Text.ofNat i, .ofNat b.toNat))
  | .list items => .list (fillItems look items)
  | .map members => .map (fillMembers look members)
  | .reference id => look id

def fillItems (look : Nat → Data) : List Value → List Data
  | [] => []
  | value :: values => value.fill look :: fillItems look values

def fillMembers (look : Nat → Data) : List (Text × Value) → List (Text × Data)
  | [] => []
  | (key, value) :: members => (key, value.fill look) :: fillMembers look members

end

/-- The collections as data, with references followed to the given depth and cut off there. -/
def unfold (collections : Array Collection) : Nat → Array Data
  | 0 => collections.map fun c => if c.toValue.items?.isSome then .list [] else .map []
  | depth + 1 =>
    let inner := unfold collections depth
    collections.map fun c => c.toValue.fill fun id => inner[id]?.getD .null

/-- References are followed deeper than any plan goes. -/
def referenceDepth : Nat := 10

/-- The data of a document that has been read. -/
def Value.toData (collections : Array Collection) : Value → Data
  | .whole d => d
  | value =>
    let table := unfold collections referenceDepth
    value.fill fun id => table[id]?.getD .null

end Remedy.Yaml
