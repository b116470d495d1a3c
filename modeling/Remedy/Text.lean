/-!
# Texts

A text is a list of sixteen-bit code units, so that offsets, lengths and limits all count code units
and a text cut between the two halves of a surrogate pair is still a text.
-/

namespace Remedy

abbrev CodeUnit := UInt16

abbrev Text := List CodeUnit

instance : Coe Char CodeUnit := ⟨fun c => c.toNat.toUInt16⟩

namespace CodeUnit

def isDigit (c : CodeUnit) : Bool := 0x30 ≤ c && c ≤ 0x39

def isUpper (c : CodeUnit) : Bool := 0x41 ≤ c && c ≤ 0x5A

def isLower (c : CodeUnit) : Bool := 0x61 ≤ c && c ≤ 0x7A

def isLetter (c : CodeUnit) : Bool := isUpper c || isLower c

/-- Letters, digits and the underscore: the units an identifier is made of. -/
def isWord (c : CodeUnit) : Bool := isLetter c || isDigit c || c == 0x5F

/-- White space and line ends, byte order mark included. -/
def isBlank (c : CodeUnit) : Bool :=
  (0x09 ≤ c && c ≤ 0x0D) || c == 0x20 || c == 0xA0 || c == 0x1680 ||
    (0x2000 ≤ c && c ≤ 0x200A) || c == 0x2028 || c == 0x2029 || c == 0x202F ||
    c == 0x205F || c == 0x3000 || c == 0xFEFF

def isHighSurrogate (c : CodeUnit) : Bool := 0xD800 ≤ c && c ≤ 0xDBFF

def isLowSurrogate (c : CodeUnit) : Bool := 0xDC00 ≤ c && c ≤ 0xDFFF

/-- The value of a hexadecimal digit. -/
def hexValue? (c : CodeUnit) : Option Nat :=
  if isDigit c then some (c.toNat - 0x30)
  else if 0x61 ≤ c && c ≤ 0x66 then some (c.toNat - 0x57)
  else if 0x41 ≤ c && c ≤ 0x46 then some (c.toNat - 0x37)
  else none

/-- The lower-case hexadecimal digit of a value below sixteen. -/
def hexDigit (n : Nat) : CodeUnit :=
  if n < 10 then (0x30 + n).toUInt16 else (0x57 + n).toUInt16

end CodeUnit

namespace Text

/-- The code point a surrogate pair stands for. -/
def pairCodePoint (high low : CodeUnit) : Nat :=
  0x10000 + (high.toNat - 0xD800) * 0x400 + (low.toNat - 0xDC00)

/-- One unit below 0x10000, a surrogate pair from there on. -/
def ofCodePoint (n : Nat) : Text :=
  if n < 0x10000 then [n.toUInt16]
  else [(0xD7C0 + n / 0x400).toUInt16, (0xDC00 + n % 0x400).toUInt16]

def ofString (s : String) : Text := s.toList.flatMap fun c => ofCodePoint c.toNat

instance : Coe String Text := ⟨ofString⟩

/-- The code points of a text; half of a surrogate pair stands for itself. -/
def codePoints : Text → List Nat
  | [] => []
  | [c] => [c.toNat]
  | c :: d :: rest =>
    if c.isHighSurrogate && d.isLowSurrogate then pairCodePoint c d :: codePoints rest
    else c.toNat :: codePoints (d :: rest)

/-- The characters of a text, with U+FFFD for half of a surrogate pair. -/
def toString (t : Text) : String :=
  String.ofList (t.codePoints.map fun n => if 0xD800 ≤ n && n ≤ 0xDFFF then '�' else Char.ofNat n)

def ofNat (n : Nat) : Text := (Nat.toDigits 10 n).map fun c => c.toNat.toUInt16

def ofInt : Int → Text
  | .ofNat n => ofNat n
  | .negSucc n => '-' :: ofNat (n + 1)

/-- The units from offset `start` up to offset `stop`. -/
def slice (t : Text) (start stop : Nat) : Text := (t.drop start).take (stop - start)

/-- An offset that may count back from the end of the text, as one from its start. -/
def offset (t : Text) (i : Int) : Nat :=
  if i < 0 then (t.length + i).toNat else i.toNat

def startsWith (t start : Text) : Bool := start.isPrefixOf t

def endsWith (t tail : Text) : Bool := tail.isSuffixOf t

def includes : Text → Text → Bool
  | [], needle => needle.isEmpty
  | c :: t, needle => needle.isPrefixOf (c :: t) || includes t needle

def trimStart (t : Text) : Text := t.dropWhile CodeUnit.isBlank

def trimEnd (t : Text) : Text := (trimStart t.reverse).reverse

def trim (t : Text) : Text := trimEnd (trimStart t)

/-- The pieces between separators, as many as there are separators and one more. -/
def splitAt (isSeparator : CodeUnit → Bool) : Text → List Text
  | [] => [[]]
  | c :: t =>
    if isSeparator c then [] :: splitAt isSeparator t
    else match splitAt isSeparator t with
      | [] => [[c]]
      | piece :: pieces => (c :: piece) :: pieces

/-- The order of texts by their code units. -/
def le : Text → Text → Bool
  | [], _ => true
  | _ :: _, [] => false
  | a :: s, b :: t => a < b || (a == b && le s t)

def sort (ts : List Text) : List Text := ts.mergeSort le

def toUpper (t : Text) : Text := t.map fun c => if c.isLower then c - 0x20 else c

def toLower (t : Text) : Text := t.map fun c => if c.isUpper then c + 0x20 else c

end Text

end Remedy
