import Remedy.Text

/-!
# Tables of ranges

Sets of code points and mappings between them, written as lists of hexadecimal ranges.
-/

namespace Remedy.Unicode

abbrev Ranges := Array (Nat × Nat)

/-- The value of a hexadecimal numeral, and what follows it. -/
def takeHex (n : Nat) : Text → Nat × Text
  | [] => (n, [])
  | c :: t =>
    match c.hexValue? with
    | some d => takeHex (n * 16 + d) t
    | none => (n, c :: t)

/-- The words of a table, which are separated by blanks. -/
def tableWords (s : String) : List Text :=
  (Text.splitAt CodeUnit.isBlank s).filter fun word => !word.isEmpty

namespace Ranges

/-- Reads a range `a-b`, or a single code `a`. -/
def parseRange (word : Text) : Nat × Nat :=
  match takeHex 0 word with
  | (a, 0x2D :: rest) => (a, (takeHex 0 rest).1)
  | (a, _) => (a, a)

def parse (s : String) : Ranges := ((tableWords s).map parseRange).toArray

def contains (ranges : Ranges) (c : Nat) : Bool := ranges.any fun (a, b) => a ≤ c && c ≤ b

end Ranges

/-- A set of code points: what some tables hold, less what another one takes away. -/
structure CodeSet where
  included : List Ranges
  excluded : Ranges := #[]
  deriving DecidableEq

namespace CodeSet

def contains (s : CodeSet) (c : Nat) : Bool :=
  (s.included.any fun ranges => ranges.contains c) && !s.excluded.contains c

end CodeSet

/-- Reads a mapping `a:b.c` of one code to several. -/
def parseMapping (word : Text) : Nat × List Nat :=
  let (code, rest) := takeHex 0 word
  (code, (Text.splitAt (· == 0x2E) (rest.drop 1)).map fun image => (takeHex 0 image).1)

/-- Every `step`-th code from `first` to `last` is mapped to the one `shift` further on. -/
structure Run where
  first : Nat
  last : Nat
  step : Nat
  shift : Int

abbrev Runs := Array Run

namespace Run

def maps (run : Run) (c : Nat) : Bool :=
  run.first ≤ c && c ≤ run.last && (c - run.first) % run.step == 0

def parseShift : Text → Int
  | 0x2B :: rest => (takeHex 0 rest).1
  | 0x7E :: rest => -(takeHex 0 rest).1
  | _ => 0

def parse (word : Text) : Run :=
  let (first, rest) := takeHex 0 word
  let (last, rest) := match rest with
    | 0x2D :: rest => takeHex 0 rest
    | rest => (first, rest)
  match rest with
  | 0x2F :: rest =>
    let (step, rest) := takeHex 0 rest
    ⟨first, last, step, parseShift rest⟩
  | rest => ⟨first, last, 1, parseShift rest⟩

end Run

namespace Runs

def parse (s : String) : Runs := ((tableWords s).map Run.parse).toArray

/-- The code a mapping gives; a code it does not mention stays as it is. -/
def apply (runs : Runs) (c : Nat) : Nat :=
  match runs.find? fun run => run.maps c with
  | some run => (c + run.shift).toNat
  | none => c

/-- The codes that are mapped to `c`, leaving out `c` itself. -/
def preimages (runs : Runs) (c : Nat) : List Nat :=
  runs.toList.filterMap fun run =>
    let source := ((c : Int) - run.shift).toNat
    if run.maps source && ((source : Int) + run.shift == c) then some source else none

end Runs

end Remedy.Unicode
