import Remedy.Pattern.Syntax

/-!
# Matching

Backtracking with continuations: a node tries its ways to match in order of preference and hands
each to what follows. A repetition past its least count gives up an iteration that consumed nothing,
so the number of iterations is bounded by the length of the input. A search tries the positions from
the left (`Expression.find?`).
-/

namespace Remedy.Pattern

structure Input where
  chars : Array Nat
  flags : Flags

/-- The position reached and the ranges captured so far. -/
structure State where
  pos : Nat
  captures : Array (Option (Nat × Nat))

/-- What follows a node: the state at the end of the whole match, if there is one. -/
abbrev Continuation := State → Option State

namespace Input

def char? (input : Input) (i : Nat) : Option Nat := input.chars[i]?

def isWordAt (input : Input) (i : Nat) : Bool :=
  (input.char? i).any (isWordChar input.flags)

/-- The character before a position. -/
def before? (input : Input) (pos : Nat) : Option Nat :=
  if pos = 0 then none else input.char? (pos - 1)

def atBoundary (input : Input) (pos : Nat) : Bool :=
  (input.before? pos).any (isWordChar input.flags) != input.isWordAt pos

def holds (input : Input) (pos : Nat) : Assertion → Bool
  | .start => pos == 0 || (input.flags.multiline && (input.before? pos).any isLineTerminator)
  | .stop =>
    pos == input.chars.size || (input.flags.multiline && (input.char? pos).any isLineTerminator)
  | .wordBoundary => input.atBoundary pos
  | .notWordBoundary => !input.atBoundary pos

/-- Reads one character that passes a test. -/
def step (input : Input) (test : Nat → Bool) : Direction → State → Continuation → Option State
  | .forward, x, k => if (input.char? x.pos).any test then k { x with pos := x.pos + 1 } else none
  | .backward, x, k =>
    if (input.before? x.pos).any test then k { x with pos := x.pos - 1 } else none

/-- The characters from `i` and from `j` on agree, `n` of them, up to case. -/
def agree (input : Input) (i j : Nat) : Nat → Bool
  | 0 => true
  | n + 1 =>
    (input.char? i).map (canonical input.flags) == (input.char? j).map (canonical input.flags) &&
      agree input (i + 1) (j + 1) n

/-- Reads a copy of what a group captured; a group that captured nothing is read as empty. -/
def readBack (input : Input) (index : Nat) (direction : Direction) (x : State) (k : Continuation) :
    Option State :=
  match (x.captures[index]?).join with
  | none => k x
  | some (start, stop) =>
    let length := stop - start
    match direction with
    | .forward =>
      if x.pos + length ≤ input.chars.size && input.agree start x.pos length then
        k { x with pos := x.pos + length }
      else none
    | .backward =>
      if length ≤ x.pos && input.agree start (x.pos - length) length then
        k { x with pos := x.pos - length }
      else none

end Input

/-- Forgets the captures after `before` up to `upTo`. -/
def State.clear (x : State) (before upTo : Nat) : State :=
  if upTo ≤ before then x
  else
    { x with
      captures := x.captures.mapIdx fun i c => if before < i && i ≤ upTo then none else c }

/-- Repeats a matcher; `fuel` bounds the iterations. -/
def iterate (body : State → Continuation → Option State) (greedy : Bool) (before upTo : Nat) :
    Nat → Nat → Option Nat → State → Continuation → Option State
  | 0, _, _, _, _ => none
  | fuel + 1, least, most, x, k =>
    if most = some 0 then k x
    else
      let again : Unit → Option State := fun _ => body (x.clear before upTo) fun y =>
        if least = 0 ∧ y.pos = x.pos then none
        else iterate body greedy before upTo fuel (least - 1) (most.map (· - 1)) y k
      if 0 < least then again ()
      else if greedy then again () <|> k x
      else k x <|> again ()

/-- Matches a node and what follows it. -/
def run (input : Input) : Node → Direction → State → Continuation → Option State
  | .empty, _, x, k => k x
  | .char c, d, x, k =>
    input.step (fun b => canonical input.flags b == canonical input.flags c) d x k
  | .any, d, x, k => input.step (fun b => input.flags.dotAll || !isLineTerminator b) d x k
  | .set chars, d, x, k => input.step (chars.contains input.flags) d x k
  | .seq a b, .forward, x, k => run input a .forward x fun y => run input b .forward y k
  | .seq a b, .backward, x, k => run input b .backward x fun y => run input a .backward y k
  | .alt a b, d, x, k => run input a d x k <|> run input b d x k
  | .capture index body, d, x, k =>
    run input body d x fun y =>
      let capture := (min x.pos y.pos, max x.pos y.pos)
      k { y with captures := y.captures.setIfInBounds index (some capture) }
  | .backref index, d, x, k => input.readBack index d x k
  | .look direction negated body, _, x, k =>
    -- only the first way to match counts: its captures stay, its position does not
    match run input body direction x some, negated with
    | some y, false => k { y with pos := x.pos }
    | none, true => k x
    | _, _ => none
  | .check assertion, _, x, k => if input.holds x.pos assertion then k x else none
  | .loop least most greedy before upTo body, d, x, k =>
    let least := min least (input.chars.size + 2)
    iterate (run input body d) greedy before upTo (least + input.chars.size + 2) least most x k

/-- The text of a match and those of its groups, in order. A group that took no part has none. -/
structure Match where
  text : Text
  groups : List (Option Text)
  deriving DecidableEq, Repr

/-- The text between two positions. -/
def Input.text (input : Input) (start stop : Nat) : Text :=
  toText ((input.chars.toList.drop start).take (stop - start))

namespace Match

/-- The match from a position to a state. -/
def of (input : Input) (start : Nat) (last : State) : Match where
  text := input.text start last.pos
  groups := last.captures.toList.tail.map fun range =>
    range.map fun range => input.text range.1 range.2

/-- The text of a group; groups count from 1. -/
def group? (m : Match) (index : Nat) : Option Text := m.groups[index - 1]?.join

end Match

namespace Expression

/-- The end of the match that starts at a position. -/
def matchAt (e : Expression) (input : Input) (pos : Nat) : Option State :=
  run input e.body .forward ⟨pos, Array.replicate (e.captures + 1) none⟩ some

/-- The first match that starts at one of the `n` positions from `pos` on. -/
def findFrom (e : Expression) (input : Input) (pos : Nat) : Nat → Option Match
  | 0 => none
  | n + 1 =>
    match e.matchAt input pos with
    | some last => some (.of input pos last)
    | none => e.findFrom input (pos + 1) n

/-- A text as an expression sees it. -/
def inputOf (e : Expression) (t : Text) : Input :=
  ⟨(if e.flags.unicode then t.codePoints else t.map UInt16.toNat).toArray, e.flags⟩

/-- The leftmost match in a text. -/
def find? (e : Expression) (t : Text) : Option Match :=
  let input := e.inputOf t
  e.findFrom input 0 (input.chars.size + 1)

end Expression

end Remedy.Pattern
