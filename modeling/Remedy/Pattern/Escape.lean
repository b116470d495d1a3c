import Remedy.Pattern.Fault
import Remedy.Pattern.Syntax
import Remedy.Unicode.Property

/-!
# Escapes and names

How a regular expression is read character by character, and what stands after a backslash. Without
the Unicode flag the reader is lenient: escapes without a meaning stand for characters. Under the
flag each of these is a fault.
-/

namespace Remedy.Pattern

/-- What is known about the whole expression before it is read. -/
structure Context where
  flags : Flags
  /-- The number of capture groups. -/
  groups : Nat
  /-- The named groups with their numbers. -/
  names : List (List Nat × Nat)

def Context.unicode (ctx : Context) : Bool := ctx.flags.unicode

/-- What is left to read, the capture groups opened so far, and whether a name that no group has is
referred to. -/
structure Cursor where
  rest : List Nat
  opened : Nat
  strayReference : Bool := false

abbrev Read := StateT Cursor (Except Fault)

def peek : Read (Option Nat) := fun s => .ok (s.rest.head?, s)

def advance (n : Nat) : Read Unit := fun s => .ok ((), { s with rest := s.rest.drop n })

def jump (rest : List Nat) : Read Unit := fun s => .ok ((), { s with rest })

def fail {α : Type} (fault : Fault) : Read α := fun _ => .error fault

/-- Consumes a character if it comes next. -/
def accept (c : Char) : Read Bool := fun s =>
  if s.rest.head? = some c.toNat then .ok (true, { s with rest := s.rest.drop 1 })
  else .ok (false, s)

def require (c : Char) (fault : Fault) : Read Unit := do
  if !(← accept c) then fail fault

def codesOf (s : String) : List Nat := s.toList.map Char.toNat

def isLetterCode (c : Nat) : Bool := (0x41 ≤ c && c ≤ 0x5A) || (0x61 ≤ c && c ≤ 0x7A)

def hexCode? (c : Nat) : Option Nat := if c < 0x80 then CodeUnit.hexValue? c.toUInt16 else none

/-- The value of exactly `n` hexadecimal digits, and what follows. -/
def hexDigits (n acc : Nat) (cs : List Nat) : Option (Nat × List Nat) :=
  match n, cs with
  | 0, cs => some (acc, cs)
  | n + 1, c :: cs => (hexCode? c).bind fun d => hexDigits n (acc * 16 + d) cs
  | _ + 1, [] => none

/-- The value of hexadecimal digits up to a closing brace; none above the last code point. -/
def bracedHex (acc : Nat) : List Nat → Option (Nat × List Nat)
  | [] => none
  | 0x7D :: cs => some (acc, cs)
  | c :: cs =>
    (hexCode? c).bind fun d =>
      if acc * 16 + d ≤ 0x10FFFF then bracedHex (acc * 16 + d) cs else none

/-- The code after a backslash and the letter u. -/
def unicodeEscape (braces : Bool) (cs : List Nat) : Option (Nat × List Nat) :=
  match cs with
  | 0x7B :: rest =>
    if braces then
      match rest with
      | 0x7D :: _ => none
      | rest => bracedHex 0 rest
    else none
  | cs =>
    (hexDigits 4 0 cs).map fun (high, rest) =>
      match rest with
      | 0x5C :: 0x75 :: more =>
        match hexDigits 4 0 more with
        | some (low, tail) =>
          if braces && 0xD800 ≤ high && high ≤ 0xDBFF && 0xDC00 ≤ low && low ≤ 0xDFFF then
            (0x10000 + (high - 0xD800) * 0x400 + (low - 0xDC00), tail)
          else (high, rest)
        | none => (high, rest)
      | _ => (high, rest)

def isNameStart (c : Nat) : Bool :=
  c == 0x24 || c == 0x5F || Unicode.identifierStart.contains c

def isNamePart (c : Nat) : Bool :=
  c == 0x24 || c == 0x200C || c == 0x200D || Unicode.identifierPart.contains c

/-- One character of a group name, and what follows. -/
def nameChar (cs : List Nat) : Option (Nat × List Nat) :=
  match cs with
  | [] => none
  | 0x5C :: 0x75 :: rest => unicodeEscape true rest
  | 0x5C :: _ => none
  | [c] => some (c, [])
  | c :: d :: rest =>
    if 0xD800 ≤ c && c ≤ 0xDBFF && 0xDC00 ≤ d && d ≤ 0xDFFF then
      some (0x10000 + (c - 0xD800) * 0x400 + (d - 0xDC00), rest)
    else some (c, d :: rest)

/-- The rest of a group name up to its closing bracket. -/
def nameRest (acc : List Nat) : Nat → List Nat → Option (List Nat × List Nat)
  | 0, _ => none
  | fuel + 1, cs =>
    (nameChar cs).bind fun (c, rest) =>
      if c = 0x3E ∧ cs.head? = some 0x3E then
        if acc.isEmpty then none else some (acc.reverse, rest)
      else if (if acc.isEmpty then isNameStart c else isNamePart c) then
        nameRest (c :: acc) fuel rest
      else none

/-- A group name after its opening bracket. -/
def groupName (cs : List Nat) : Option (List Nat × List Nat) := nameRest [] (cs.length + 1) cs

/-- Characters that have a meaning of their own and may be escaped. -/
def syntaxCharacters : List Nat := codesOf "^$\\.*+?()[]\x7b\x7d|/"

/-- Up to three octal digits with a value below 256, the first of which has not been read. -/
def octalEscape : Read Nat := do
  let s ← get
  let isOctal (c : Nat) : Bool := 0x30 ≤ c && c ≤ 0x37
  match s.rest with
  | a :: b :: c :: _ =>
    if isOctal b then
      let two := (a - 0x30) * 8 + (b - 0x30)
      if two < 32 && isOctal c then do
        advance 3
        return two * 8 + (c - 0x30)
      else do
        advance 2
        return two
    else do
      advance 1
      return a - 0x30
  | [a, b] =>
    if isOctal b then do
      advance 2
      return (a - 0x30) * 8 + (b - 0x30)
    else do
      advance 1
      return a - 0x30
  | a :: _ => do
    advance 1
    return a - 0x30
  | [] => fail .escapeAtEnd

/-- An escape that stands for one character, after its backslash. -/
def characterEscape (ctx : Context) (inClass : Bool) : Read Nat := do
  let s ← get
  match s.rest with
  | [] => fail .escapeAtEnd
  | c :: rest =>
    let plain (n : Nat) : Read Nat := do
      advance 1
      return n
    if c = 0x66 then plain 0x0C
    else if c = 0x6E then plain 0x0A
    else if c = 0x72 then plain 0x0D
    else if c = 0x74 then plain 0x09
    else if c = 0x76 then plain 0x0B
    else if c = 0x63 then
      let control := rest.head?.filter fun d =>
        isLetterCode d || (inClass && !ctx.unicode && (isDigitChar d || d == 0x5F))
      match control with
      | some d => do
        advance 2
        return d % 32
      -- a backslash that begins no control escape stands for itself
      | none => if ctx.unicode then fail .invalidUnicodeEscape else return 0x5C
    else if c = 0x78 then
      match hexDigits 2 0 rest with
      | some (n, tail) => do
        jump tail
        return n
      | none => if ctx.unicode then fail .invalidEscape else plain c
    else if c = 0x75 then
      match unicodeEscape ctx.unicode rest with
      | some (n, tail) => do
        jump tail
        return n
      | none => if ctx.unicode then fail .invalidUnicodeEscape else plain c
    else if 0x30 ≤ c && c ≤ 0x37 then
      if !ctx.unicode then octalEscape
      else if c = 0x30 && !rest.head?.any isDigitChar then plain 0
      else fail (if inClass then .invalidClassEscape else .invalidDecimalEscape)
    else if ctx.unicode then
      if syntaxCharacters.contains c || (inClass && c == 0x2D) then plain c
      else fail .invalidEscape
    else if c = 0x6B && !ctx.names.isEmpty then fail .invalidEscape
    else plain c

end Remedy.Pattern
