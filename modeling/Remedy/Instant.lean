import Remedy.Text

/-!
# Instants

Points in time as they are written in reports: the date and the time of day in universal time, down
to the millisecond.
-/

namespace Remedy

/-- A number of milliseconds since the beginning of the year 1970. -/
structure Instant where
  milliseconds : Nat
  deriving DecidableEq, Repr

/-- A day of the calendar. -/
structure Day where
  year : Nat
  month : Nat
  day : Nat
  deriving DecidableEq, Repr

/-- The day with the given number, counted from the first of March of the year 0. Years that begin
in March end with their leap day, and 400 of them have 146097 days. -/
def Day.ofNumber (n : Nat) : Day :=
  let inEra := n % 146097
  let yearOfEra := (inEra - inEra / 1460 + inEra / 36524 - inEra / 146096) / 365
  let inYear := inEra - (365 * yearOfEra + yearOfEra / 4 - yearOfEra / 100)
  let month := (5 * inYear + 2) / 153
  { year := yearOfEra + n / 146097 * 400 + if month < 10 then 0 else 1
    month := if month < 10 then month + 3 else month - 9
    day := inYear - (153 * month + 2) / 5 + 1 }

/-- The number of the first day of a month, counted from the first of March of the year 0. -/
def monthNumber (year month : Nat) : Nat :=
  let year := if month < 3 then year - 1 else year
  365 * year + year / 4 - year / 100 + year / 400 + (153 * ((month + 9) % 12) + 2) / 5

/-- The number of the first of January 1970. -/
def epochDay : Nat := 719468

/-- A number with leading zeros. -/
def padded (width n : Nat) : Text :=
  let digits := Text.ofNat n
  List.replicate (width - digits.length) 0x30 ++ digits

def Instant.text (t : Instant) : Text :=
  let seconds := t.milliseconds / 1000
  let day := Day.ofNumber (seconds / 86400 + epochDay)
  padded 4 day.year ++ "-" ++ padded 2 day.month ++ "-" ++ padded 2 day.day ++ "T" ++
    padded 2 (seconds / 3600 % 24) ++ ":" ++ padded 2 (seconds / 60 % 60) ++ ":" ++
    padded 2 (seconds % 60) ++ "." ++ padded 3 (t.milliseconds % 1000) ++ "Z"

end Remedy
