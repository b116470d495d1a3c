import Remedy.Text

/-!
# Numbers

Double-precision numbers as exact values `± mantissa · 2 ^ exponent`. Reading rounds to the nearest
number, a half to the even mantissa. Writing gives the fewest digits that read back.
-/

namespace Remedy

inductive Number where
  | nan
  | infinite (negative : Bool)
  | finite (negative : Bool) (mantissa : Nat) (exponent : Int)
  deriving DecidableEq, Repr

namespace Number

/-- The least exponent a number is written with. -/
def minExponent : Int := -1074

/-- The greatest exponent a number is written with. -/
def maxExponent : Int := 971

/-- `num / den · 2 ^ (- e)` as a fraction. -/
def scale (num den : Nat) (e : Int) : Nat × Nat :=
  if 0 ≤ e then (num, den * Nat.pow 2 e.toNat) else (num * Nat.pow 2 (-e).toNat, den)

/-- The quotient rounded to the nearest whole number, a half to the even one. -/
def roundHalfEven (num den : Nat) : Nat :=
  let q := num / den
  let r := num % den
  if 2 * r < den then q
  else if den < 2 * r then q + 1
  else if q % 2 = 0 then q else q + 1

/-- The exponent at which the quotient `num / den` has fifty-three bits, or the least one. -/
def exponentFor (num den : Nat) : Int :=
  let guess : Int := (num.log2 : Int) - (den.log2 : Int) - 53
  let (n, d) := scale num den guess
  let e := if Nat.pow 2 53 * d ≤ n then guess + 1 else guess
  if e < minExponent then minExponent else e

/-- The number nearest to `num / den`. -/
def ofRatio (negative : Bool) (num den : Nat) : Number :=
  if num = 0 then .finite negative 0 minExponent
  else
    let e := exponentFor num den
    let (n, d) := scale num den e
    let m := roundHalfEven n d
    let (m, e) := if m = Nat.pow 2 53 then (Nat.pow 2 52, e + 1) else (m, e)
    if maxExponent < e then .infinite negative else .finite negative m e

def ofNat (n : Nat) : Number := ofRatio false n 1

def ofInt (i : Int) : Number := ofRatio (i < 0) i.natAbs 1

/-- The number nearest to `digits · 10 ^ exponent`. -/
def ofScientific (negative : Bool) (digits : Nat) (exponent : Int) : Number :=
  if digits = 0 then .finite negative 0 minExponent
  else
    let size : Int := (Nat.toDigits 10 digits).length + exponent
    if 400 < size then .infinite negative
    else if size < -400 then .finite negative 0 minExponent
    else if 0 ≤ exponent then ofRatio negative (digits * Nat.pow 10 exponent.toNat) 1
    else ofRatio negative digits (Nat.pow 10 (-exponent).toNat)

/-- The size of a finite number as a fraction. -/
def ratio (m : Nat) (e : Int) : Nat × Nat :=
  if 0 ≤ e then (m * Nat.pow 2 e.toNat, 1) else (m, Nat.pow 2 (-e).toNat)

def divNat (x : Number) (n : Nat) : Number :=
  match x with
  | .finite negative m e =>
    let (num, den) := ratio m e
    ofRatio negative num (den * n)
  | x => x

/-- The number of digits before the decimal point of `num / den`, not positive for a fraction below
one tenth. -/
def pointFor (num den : Nat) : Int :=
  if den ≤ num then (Nat.toDigits 10 (num / den)).length
  else
    -- `den / num` below a power of ten bounds the zeros after the point
    let k := (Nat.toDigits 10 (den / num)).length
    if den ≤ num * Nat.pow 10 (k - 1) then 1 - (k - 1 : Int) else 1 - (k : Int)

/-- The whole numbers next to `num / den · 10 ^ shift`. -/
def gridNeighbours (num den : Nat) (shift : Int) : Nat × Nat :=
  let (n, d) :=
    if 0 ≤ shift then (num * Nat.pow 10 shift.toNat, den)
    else (num, den * Nat.pow 10 (-shift).toNat)
  (n / d, if n % d = 0 then n / d else n / d + 1)

/-- The decimal `s · 10 ^ (- shift)` rounds to the number `m · 2 ^ e`. -/
def readsBack (m : Nat) (e : Int) (s : Nat) (shift : Int) : Bool :=
  let value := if 0 ≤ shift then ofRatio false s (Nat.pow 10 shift.toNat)
    else ofRatio false (s * Nat.pow 10 (-shift).toNat) 1
  value == .finite false m e

/-- The nearer of two candidates to `num / den · 10 ^ shift`, the even one of two as near. -/
def nearer (num den : Nat) (shift : Int) (a b : Nat) : Nat :=
  let (n, d) :=
    if 0 ≤ shift then (num * Nat.pow 10 shift.toNat, den)
    else (num, den * Nat.pow 10 (-shift).toNat)
  let low := n - a * d
  let high := b * d - n
  if low < high then a else if high < low then b else if a % 2 = 0 then a else b

/-- Tries one digit more each time until a decimal reads back: the digits and their
decimal point. -/
def shortestFrom (m : Nat) (e : Int) (num den : Nat) (point : Int) (digits : Nat) :
    Nat → Nat × Int
  | 0 => ((gridNeighbours num den (digits - point)).1, point - digits)
  | fuel + 1 =>
    let shift := digits - point
    let (a, b) := gridNeighbours num den shift
    match readsBack m e a shift, readsBack m e b shift with
    | true, true => (nearer num den shift a b, -shift)
    | true, false => (a, -shift)
    | false, true => (b, -shift)
    | false, false => shortestFrom m e num den point (digits + 1) fuel

/-- The shortest decimal `s · 10 ^ k` that reads back as `m · 2 ^ e`, without zeros at its end. -/
def shortest (m : Nat) (e : Int) : Nat × Int :=
  let (num, den) := ratio m e
  shortestFrom m e num den (pointFor num den) 1 17

/-- Drops the zeros at the end of a decimal. -/
def trimZeros (s : Nat) (k : Int) : Nat → Nat × Int
  | 0 => (s, k)
  | fuel + 1 => if s ≠ 0 ∧ s % 10 = 0 then trimZeros (s / 10) (k + 1) fuel else (s, k)

def zeros (n : Nat) : Text := List.replicate n 0x30

/-- A decimal `s · 10 ^ k`: positional between a millionth and a sextillion, otherwise with a signed
exponent. -/
def writeDecimal (s : Nat) (k : Int) : Text :=
  let digits := Text.ofNat s
  let count : Int := digits.length
  let point := count + k
  if 0 ≤ k ∧ point ≤ 21 then digits ++ zeros k.toNat
  else if 0 < point ∧ point ≤ 21 then digits.take point.toNat ++ "." ++ digits.drop point.toNat
  else if -6 < point ∧ point ≤ 0 then "0." ++ zeros (-point).toNat ++ digits
  else
    let fraction : Text := if digits.length = 1 then [] else "." ++ digits.drop 1
    let sign : Text := if 0 < point then "+" else "-"
    digits.take 1 ++ fraction ++ "e" ++ sign ++ Text.ofNat (point - 1).natAbs

/-- A number in text; zero has no sign. -/
def toText : Number → Text
  | .nan => "NaN"
  | .infinite negative => if negative then "-Infinity" else "Infinity"
  | .finite negative m e =>
    if m = 0 then "0"
    else
      let (s, k) := shortest m e
      let (s, k) := trimZeros s k 20
      (if negative then "-" else "" : Text) ++ writeDecimal s k

/-- A number with two decimal places, a half rounded away from zero; from a sextillion on, as
`toText` writes it. -/
def withTwoPlaces (x : Number) : Text :=
  match x with
  | .finite negative m e =>
    let (num, den) := ratio m e
    if Nat.pow 10 21 * den ≤ num then toText x
    else
      let hundredths := (2 * (num * 100) + den) / (2 * den)
      let fraction := hundredths % 100
      let sign : Text := if negative ∧ m ≠ 0 then "-" else ""
      sign ++ Text.ofNat (hundredths / 100) ++ "." ++
        Text.ofNat (fraction / 10) ++ Text.ofNat (fraction % 10)
  | x => toText x

end Number

end Remedy
