import Remedy.Text

/-!
# Lines

A line ends after its line feed. `splitLines` keeps the terminators, `lineStarts` gives the offsets
at which the lines begin and `lineAt` finds the line of an offset.
-/

namespace Remedy

inductive LineEnding where
  | lf
  | crlf
  deriving DecidableEq, Repr

namespace LineEnding

def text : LineEnding → Text
  | .lf => [0x0A]
  | .crlf => [0x0D, 0x0A]

def other : LineEnding → LineEnding
  | .lf => .crlf
  | .crlf => .lf

end LineEnding

/-- The lines of a text, each with its terminator; the last one may have none. -/
def splitLines : Text → List Text
  | [] => []
  | c :: t =>
    if c = 0x0A then [c] :: splitLines t
    else match splitLines t with
      | [] => [[c]]
      | line :: lines => (c :: line) :: lines

/-- The line break at the end of a text, empty when it has none. -/
def terminator (line : Text) : Text :=
  match line.reverse with
  | 0x0A :: 0x0D :: _ => [0x0D, 0x0A]
  | 0x0A :: _ => [0x0A]
  | _ => []

def stripTerminator (line : Text) : Text :=
  line.take (line.length - (terminator line).length)

def countLf (t : Text) : Nat := t.count 0x0A

def countCrlf : Text → Nat
  | [] => 0
  | 0x0D :: 0x0A :: t => countCrlf t + 1
  | _ :: t => countCrlf t

/-- The ending most line breaks have; LF when neither leads. -/
def detectLineEnding (t : Text) : LineEnding :=
  if countLf t - countCrlf t < countCrlf t then .crlf else .lf

/-- Writes every CR LF as LF. -/
def unifyLineBreaks : Text → Text
  | [] => []
  | 0x0D :: 0x0A :: t => 0x0A :: unifyLineBreaks t
  | c :: t => c :: unifyLineBreaks t

/-- Writes every LF as CR LF. -/
def expandLineBreaks (t : Text) : Text :=
  t.flatMap fun c => if c = 0x0A then [0x0D, 0x0A] else [c]

/-- Gives every line break the same ending. -/
def toLineEnding (t : Text) : LineEnding → Text
  | .lf => unifyLineBreaks t
  | .crlf => expandLineBreaks (unifyLineBreaks t)

/-- The offsets after each line feed that is not the last unit. -/
def startsAfter (i : Nat) : Text → List Nat
  | [] => []
  | c :: t =>
    if c = 0x0A ∧ t ≠ [] then (i + 1) :: startsAfter (i + 1) t else startsAfter (i + 1) t

/-- The offsets at which the lines start; offset 0 is always one. -/
def lineStarts (t : Text) : Array Nat := (0 :: startsAfter 0 t).toArray

/-- Halves the range `low` to `high` until only the last start up to `offset` is left. -/
def searchLine (starts : Array Nat) (offset : Int) (low high : Nat) : Nat :=
  if low < high then
    let mid := (low + high + 1) / 2
    if (starts.getD mid 0 : Int) ≤ offset then searchLine starts offset mid high
    else searchLine starts offset low (mid - 1)
  else low
termination_by high - low

/-- The number, counted from 1, of the line an offset lies on. -/
def lineAt (starts : Array Nat) (offset : Int) : Nat :=
  searchLine starts offset 0 (starts.size - 1) + 1

/-- The ending to write between two offsets: that of the range when it holds a line break, otherwise
that of the whole text. -/
def lineEndingAt (t : Text) (start stop : Nat) : LineEnding :=
  let range := t.slice start stop
  if 0x0A ∈ range then detectLineEnding range else detectLineEnding t

end Remedy
