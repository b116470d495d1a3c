import Remedy.Instant
import Remedy.Yaml.Unit

/-!
# Dates

A date is a day, or a day with a time and perhaps a zone. Days and times that no calendar has stand
for what they come to: the thirtieth of February is a day in March.
-/

namespace Remedy.Yaml

/-- The parts of a date, as they are written. -/
structure Timestamp where
  year : Nat
  month : Nat
  day : Nat
  hour : Nat := 0
  minute : Nat := 0
  second : Nat := 0
  /-- The minutes that the zone is ahead of universal time. -/
  zone : Int := 0
  deriving DecidableEq, Repr

namespace Timestamp

/-- The value of from `least` to `most` digits, and what follows them. -/
def digits? (least most : Nat) (t : Text) : Option (Nat × Text) :=
  let ds := (t.take most).takeWhile CodeUnit.isDigit
  if ds.length < least then none
  else some (ds.foldl (fun n c => n * 10 + (c.toNat - 0x30)) 0, t.drop ds.length)

def dropUnit? (p : CodeUnit → Bool) : Text → Option Text
  | c :: t => if p c then some t else none
  | [] => none

/-- A day without a time: every part has all its digits. -/
def ofDay? (t : Text) : Option Timestamp := do
  let (year, t) ← digits? 4 4 t
  let t ← dropUnit? (· == 0x2D) t
  let (month, t) ← digits? 2 2 t
  let t ← dropUnit? (· == 0x2D) t
  let (day, t) ← digits? 2 2 t
  if t.isEmpty then some { year, month, day } else none

/-- The zone at the end of a time. -/
def zone? : Text → Option Int
  | [0x5A] => some 0
  | c :: t => do
    let sign : Int ← if c == 0x2B then some 1 else if c == 0x2D then some (-1) else none
    let (hours, t) ← digits? 1 2 t
    match t with
    | [] => some (sign * (hours * 60))
    | 0x3A :: t =>
      let (minutes, t) ← digits? 2 2 t
      if t.isEmpty then some (sign * (hours * 60 + minutes)) else none
    | _ => none
  | [] => none

/-- A day with a time. -/
def ofTime? (t : Text) : Option Timestamp := do
  let (year, t) ← digits? 4 4 t
  let t ← dropUnit? (· == 0x2D) t
  let (month, t) ← digits? 1 2 t
  let t ← dropUnit? (· == 0x2D) t
  let (day, t) ← digits? 1 2 t
  let t ← if headIs isWhite t then some (t.dropWhile isWhite)
    else dropUnit? (fun c => c == 0x54 || c == 0x74) t
  let (hour, t) ← digits? 1 2 t
  let t ← dropUnit? (· == 0x3A) t
  let (minute, t) ← digits? 2 2 t
  let t ← dropUnit? (· == 0x3A) t
  let (second, t) ← digits? 2 2 t
  let t := match t with
    | 0x2E :: t => t.dropWhile CodeUnit.isDigit
    | t => t
  let zone ← if t.isEmpty then some 0 else zone? (t.dropWhile isWhite)
  return { year, month, day, hour, minute, second, zone }

def ofText? (t : Text) : Option Timestamp := ofDay? t <|> ofTime? t

/-- The seconds in universal time since the first of March of the year 0. A year of two digits lies
in the twentieth century. -/
def seconds (t : Timestamp) : Nat :=
  let year := if t.year < 100 then 1900 + t.year else t.year
  -- months before the first and after the last lie in the years next to it
  let months := year * 12 + t.month - 1
  let day := monthNumber (months / 12) (months % 12 + 1) + t.day - 1
  ((day * 86400 + t.hour * 3600 + t.minute * 60 + t.second : Int) - t.zone * 60).toNat

def weekdays : List Text := ["Sun", "Mon", "Tue", "Wed", "Thu", "Fri", "Sat"]

def months : List Text :=
  ["Jan", "Feb", "Mar", "Apr", "May", "Jun", "Jul", "Aug", "Sep", "Oct", "Nov", "Dec"]

/-- A date in full, in universal time. -/
def text (t : Timestamp) : Text :=
  let seconds := t.seconds
  let number := seconds / 86400
  let day := Day.ofNumber number
  weekdays.getD ((number + 3) % 7) [] ++ " " ++ months.getD (day.month - 1) [] ++ " " ++
    padded 2 day.day ++ " " ++ padded 4 day.year ++ " " ++ padded 2 (seconds / 3600 % 24) ++ ":" ++
    padded 2 (seconds / 60 % 60) ++ ":" ++ padded 2 (seconds % 60) ++
    " GMT+0000 (Coordinated Universal Time)"

end Timestamp

def isDate (t : Text) : Bool := (Timestamp.ofText? t).isSome

end Remedy.Yaml
