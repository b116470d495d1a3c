import Remedy.Data.Number

/-!
# Data

Values as documents hold them, before anything is known about their shape.
-/

namespace Remedy

inductive Data where
  | null
  | bool (b : Bool)
  | number (n : Number)
  | text (t : Text)
  /-- A point in time, as it was written. -/
  | date (t : Text)
  | list (items : List Data)
  | map (members : List (Text × Data))

namespace Data

/-- The member of a map with the given key. -/
def member? (key : Text) : Data → Option Data
  | .map members => (members.find? fun p => p.1 == key).map Prod.snd
  | _ => none

/-- The name of a value's kind, as messages give it. -/
def kind : Data → Text
  | .null => "null"
  | .bool _ => "boolean"
  | .number .nan => "nan"
  | .number _ => "number"
  | .text _ => "string"
  | .date _ => "date"
  | .list _ => "array"
  | .map _ => "object"

def ofNat (n : Nat) : Data := .number (.ofNat n)

def texts (ts : List Text) : Data := .list (ts.map .text)

/-- The members that are present. -/
def record (members : List (Text × Option Data)) : Data :=
  .map (members.filterMap fun (key, value) => value.map (key, ·))

end Data

end Remedy
