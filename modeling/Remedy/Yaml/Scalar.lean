import Remedy.Yaml.Cursor

/-!
# Scalars

The four ways to write a text: between single or double quotes, plain, and as a block of lines. In
the first three a single line break stands for a blank, and `n + 1` of them for `n` line breaks.
-/

namespace Remedy.Yaml

/-- What is left of some line breaks when lines are joined. -/
def folded (breaks : Nat) : Text :=
  if breaks = 1 then [0x20] else List.replicate (breaks - 1) 0x0A

def newLines (n : Nat) : Text := List.replicate n 0x0A

/-- No control characters and no half of a surrogate pair. -/
def isPrintable (t : Text) : Bool :=
  t.codePoints.all fun n =>
    !(n ≤ 0x08 || n == 0x0B || n == 0x0C || (0x0E ≤ n && n ≤ 0x1F) || (0x7F ≤ n && n ≤ 0x84) ||
      (0x86 ≤ n && n ≤ 0x9F) || n == 0xFFFE || n == 0xFFFF || (0xD800 ≤ n && n ≤ 0xDFFF))

/-- Without the white space at the end. -/
def dropTrailingWhite (t : Text) : Text := (t.reverse.dropWhile isWhite).reverse

/-! ## Quoted scalars -/

/-- The units that may stand between quotes. -/
def isQuotable (c : CodeUnit) : Bool := c == 0x09 || 0x20 ≤ c

/-- Reads up to the closing quote; two quotes stand for one. The part before is given in reverse,
and so is the white space after it, which is dropped at the end of a line. -/
def singleQuoted (acc white : Text) : Nat → Read Text
  | 0 => Read.fail
  | fuel + 1 => do
    let c ← get
    match c.rest with
    | 0x27 :: 0x27 :: _ => do
      Read.advance 2
      singleQuoted (0x27 :: white ++ acc) [] fuel
    | 0x27 :: _ => do
      Read.advance 1
      return (white ++ acc).reverse
    | u :: _ =>
      if isBreak u then do
        let breaks ← Read.skipSpace false
        singleQuoted (folded breaks ++ acc) [] fuel
      else do
        Read.check (!c.atMark && isQuotable u)
        Read.advance 1
        if isWhite u then singleQuoted acc (u :: white) fuel
        else singleQuoted (u :: white ++ acc) [] fuel
    | [] => Read.fail

/-- The unit that a letter after a backslash stands for. -/
def escape? : CodeUnit → Option CodeUnit
  | 0x30 => some 0x00
  | 0x61 => some 0x07
  | 0x62 => some 0x08
  | 0x74 => some 0x09
  | 0x09 => some 0x09
  | 0x6E => some 0x0A
  | 0x76 => some 0x0B
  | 0x66 => some 0x0C
  | 0x72 => some 0x0D
  | 0x65 => some 0x1B
  | 0x20 => some 0x20
  | 0x22 => some 0x22
  | 0x2F => some 0x2F
  | 0x5C => some 0x5C
  | 0x4E => some 0x85
  | 0x5F => some 0xA0
  | 0x4C => some 0x2028
  | 0x50 => some 0x2029
  | _ => none

/-- The number of hexadecimal digits that follow a letter after a backslash. -/
def escapeDigits? : CodeUnit → Option Nat
  | 0x78 => some 2
  | 0x75 => some 4
  | 0x55 => some 8
  | _ => none

/-- The value of some hexadecimal digits. -/
def hexNumber? (t : Text) : Option Nat :=
  t.foldl (fun n c => n.bind fun n => c.hexValue?.map fun d => n * 16 + d) (some 0)

/-- The units that an escaped code stands for. Codes are words of thirty-two bits with a sign; those
that are no code points keep what fits into one unit or two. -/
def escapedUnits (code : Nat) : Text :=
  if 0x80000000 ≤ code then [code.toUInt16]
  else if code < 0x10000 then [code.toUInt16]
  else [(0xD7C0 + code / 0x400).toUInt16, (0xDC00 + code % 0x400).toUInt16]

/-- Reads up to the closing quote. The part before is given in reverse, and so is the white space
after it, which is dropped at the end of a line. -/
def doubleQuoted (acc white : Text) : Nat → Read Text
  | 0 => Read.fail
  | fuel + 1 => do
    let c ← get
    match c.rest with
    | 0x22 :: _ => do
      Read.advance 1
      return (white ++ acc).reverse
    | 0x5C :: e :: t =>
      if isBreak e then do
        Read.advance 1
        discard (Read.skipSpace false)
        doubleQuoted (white ++ acc) [] fuel
      else match escape? e, escapeDigits? e with
        | some u, _ => do
          Read.advance 2
          doubleQuoted (u :: white ++ acc) [] fuel
        | none, some n =>
          match hexNumber? (t.take n) with
          | some code => do
            Read.check ((t.take n).length == n)
            Read.advance (n + 2)
            doubleQuoted ((escapedUnits code).reverse ++ white ++ acc) [] fuel
          | none => Read.fail
        | none, none => Read.fail
    | u :: _ =>
      if isBreak u then do
        let breaks ← Read.skipSpace false
        doubleQuoted (folded breaks ++ acc) [] fuel
      else do
        Read.check (!c.atMark && isQuotable u)
        Read.advance 1
        if isWhite u then doubleQuoted acc (u :: white) fuel
        else doubleQuoted (u :: white ++ acc) [] fuel
    | [] => Read.fail

/-! ## Plain scalars -/

/-- A colon or a mark of a flow collection that ends a plain scalar stands before white space, or,
inside a flow collection, before another mark. -/
def endsBefore (inFlow : Bool) (t : Text) : Bool :=
  headIs (fun c => isSpace c || (inFlow && isFlowMark c)) t

/-- The units that no plain scalar starts with. -/
def isReserved (c : CodeUnit) : Bool :=
  isSpace c || isFlowMark c || ("#&*!|>'\"%@`" : Text).contains c

/-- A plain scalar can start here. -/
def startsPlain (inFlow : Bool) : Text → Bool
  | [] => false
  | c :: t => !isReserved c && !((c == 0x3F || c == 0x2D) && endsBefore inFlow t)

/-- The units of a plain scalar up to the end of the line or of the scalar. -/
def plainUnits (inFlow : Bool) (last : CodeUnit) : Text → Text
  | [] => []
  | c :: t =>
    if c == 0x3A && endsBefore inFlow t then []
    else if c == 0x23 && isSpace last then []
    else if (inFlow && isFlowMark c) || isBreak c then []
    else c :: plainUnits inFlow c t

/-- A plain scalar goes on here. -/
def Cursor.continuesPlain (inFlow : Bool) (c : Cursor) : Bool :=
  !c.atMark && !(plainUnits inFlow c.last c.rest).isEmpty

/-- Reads a plain scalar line by line; the part before is given in reverse. A line that is indented
less than required ends it. -/
def plainLines (nodeIndent : Int) (inFlow : Bool) (acc : Text) : Nat → Read Text
  | 0 => Read.fail
  | fuel + 1 => do
    let c ← get
    let units := plainUnits inFlow c.last c.rest
    let kept := dropTrailingWhite units
    Read.check (isPrintable kept)
    let acc := kept.reverse ++ acc
    set (c.forward units)
    if headIs isBreak (← Read.rest) then
      let breaks ← Read.skipSpace false
      let next ← get
      if next.indent < nodeIndent then
        set { c.forward kept with tab := next.tab }
        return acc.reverse
      else if next.continuesPlain inFlow then
        plainLines nodeIndent inFlow (folded breaks ++ acc) fuel
      else return acc.reverse
    else return acc.reverse

/-- A plain scalar, if there is one. -/
def plain (nodeIndent : Int) (inFlow : Bool) (fuel : Nat) : Read (Option Text) := do
  let c ← get
  if startsPlain inFlow c.rest && c.continuesPlain inFlow then
    some <$> plainLines nodeIndent inFlow [] fuel
  else return none

/-! ## Block scalars -/

/-- What happens to the line breaks at the end of a block. -/
inductive Chomping where
  | clip
  | strip
  | keep
  deriving DecidableEq, Repr

structure BlockHeader where
  chomping : Chomping := .clip
  /-- The number that gives the indentation of the block. -/
  width : Option Nat := none
  deriving DecidableEq, Repr

/-- Reads the header of a block; a repeated indicator and a width of zero are malformed. -/
def blockHeader (header : BlockHeader) : Text → Option (BlockHeader × Text)
  | [] => some (header, [])
  | c :: t =>
    if c == 0x2B || c == 0x2D then
      if header.chomping = .clip then
        blockHeader { header with chomping := if c == 0x2B then .keep else .strip } t
      else none
    else if c.isDigit then
      if c == 0x30 || header.width.isSome then none
      else blockHeader { header with width := some (c.toNat - 0x30) } t
    else some (header, c :: t)

/-- What follows the header on its line: white space, and after that a comment. -/
def afterHeader (t : Text) : Text :=
  if headIs isWhite t then
    let t := t.dropWhile isWhite
    if headIs (· == 0x23) t then t.dropWhile fun c => !isBreak c else t
  else t

/-- How far the reading of a block has come. -/
structure BlockState where
  indent : Int
  /-- The indentation is known. -/
  fixed : Bool
  /-- The number of empty lines just before. -/
  blanks : Nat := 0
  /-- There has been a line that is not empty. -/
  began : Bool := false
  /-- The last line was indented more than the block. -/
  deeper : Bool := false
  /-- The text so far, backwards. -/
  backwards : Text := []

namespace BlockState

def text (s : BlockState) : Text := s.backwards.reverse

/-- The line breaks between the last line and the next one. -/
def gap (s : BlockState) : Text := newLines (if s.began then s.blanks + 1 else s.blanks)

/-- The text of a block that has ended. -/
def close (s : BlockState) : Chomping → Text
  | .keep => s.text ++ s.gap
  | .clip => if s.began then s.text ++ [0x0A] else s.text
  | .strip => s.text

/-- Adds a line. In a folded block lines are joined, except where one is indented more. -/
def add (folding : Bool) (s : BlockState) (line : Text) : BlockState :=
  let after (between : Text) : Text := line.reverse ++ (between ++ s.backwards)
  let next := { s with fixed := true, blanks := 0, began := true }
  if !folding then { next with backwards := after s.gap }
  else if headIs isWhite line then { next with backwards := after s.gap, deeper := true }
  else if s.deeper then { next with backwards := after (newLines (s.blanks + 1)), deeper := false }
  else if s.blanks = 0 then { next with backwards := after (if s.began then [0x20] else []) }
  else { next with backwards := after (newLines s.blanks) }

end BlockState

/-- The number of blanks that belong to the indentation of a block. -/
def blockIndent (s : BlockState) (t : Text) : Nat :=
  let blanks := (t.takeWhile (· == 0x20)).length
  if s.fixed then min blanks s.indent.toNat else blanks

/-- Reads the lines of a block; the cursor stands before a line break. The first line of a block at
the top of a document has to be indented, unless its indentation is given. -/
def blockLines (folding : Bool) (chomping : Chomping) (s : BlockState) : Nat → Read Text
  | 0 => Read.fail
  | fuel + 1 => do
    Read.lineBreak
    let width := blockIndent s (← Read.rest)
    Read.advance width
    modify fun c => { c with indent := width }
    let s := if !s.fixed && s.indent < width then { s with indent := width } else s
    let rest ← Read.rest
    if headIs isBreak rest then blockLines folding chomping { s with blanks := s.blanks + 1 } fuel
    else if !s.fixed && s.indent = 0 then Read.fail
    else if width < s.indent then return s.close chomping
    else
      let line := rest.takeWhile fun c => !isBreak c
      Read.check (isPrintable line)
      Read.advance line.length
      let s := s.add folding line
      if (← Read.rest).isEmpty then return s.text
      else blockLines folding chomping s fuel

/-- A block scalar, if there is one. -/
def blockScalar (nodeIndent : Int) (fuel : Nat) : Read (Option Text) := do
  let body (folding : Bool) (line : Text) : Read (Option Text) :=
    match blockHeader {} line with
    | none => Read.fail
    | some (header, t) => do
      Read.advance (1 + line.length - (afterHeader t).length)
      let s : BlockState := match header.width with
        | some width => { indent := nodeIndent + width - 1, fixed := true }
        | none => { indent := nodeIndent, fixed := false }
      if (← Read.rest).isEmpty then return some []
      else some <$> blockLines folding header.chomping s fuel
  match ← Read.rest with
  | 0x7C :: t => body false (t.takeWhile fun c => !isBreak c)
  | 0x3E :: t => body true (t.takeWhile fun c => !isBreak c)
  | _ => return none

end Remedy.Yaml
