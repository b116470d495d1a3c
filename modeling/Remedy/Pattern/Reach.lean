import Remedy.Pattern.Matcher
import Std.Data.HashSet

/-!
# Reachable positions

Where no part of an expression refers to what a group captured, a text has a match as soon as some
position can be reached. A node then takes the positions it may start at to those it may end at, and
a repetition looks at no position twice: no text makes this slow.
-/

namespace Remedy.Pattern

/-- No part of a node refers to what a group captured. -/
def Node.isPlain : Node → Bool
  | .empty => true
  | .char _ => true
  | .any => true
  | .set _ => true
  | .seq a b => a.isPlain && b.isPlain
  | .alt a b => a.isPlain && b.isPlain
  | .capture _ body => body.isPlain
  | .backref _ => false
  | .look _ _ body => body.isPlain
  | .check _ => true
  | .loop _ _ _ _ _ body => body.isPlain

/-- Positions, each of them once. -/
abbrev Positions := List Nat

/-- The positions in one of two lists. -/
def union (ps qs : Positions) : Positions :=
  let seen := Std.HashSet.ofList ps
  ps ++ qs.filter fun q => !seen.contains q

namespace Input

/-- The positions after one character that passes a test. -/
def advance (input : Input) (test : Nat → Bool) : Direction → Positions → Positions
  | .forward, ps => ps.filterMap fun p => if (input.char? p).any test then some (p + 1) else none
  | .backward, ps =>
    ps.filterMap fun p => if (input.before? p).any test then some (p - 1) else none

end Input

/-- The positions after a number of steps. -/
def afterSteps (step : Positions → Positions) : Nat → Positions → Positions
  | 0, ps => ps
  | n + 1, ps => if ps.isEmpty then ps else afterSteps step n (step ps)

/-- Adds the positions after up to `n` further steps. Only the positions of the last step, which are
new, are looked at. -/
def withSteps (step : Positions → Positions) (seen : Std.HashSet Nat) (reached last : Positions) :
    Nat → Positions
  | 0 => reached
  | n + 1 =>
    let next := (step last).filter fun p => !seen.contains p
    if next.isEmpty then reached
    else withSteps step (seen.insertMany next) (next ++ reached) next n

/-- The positions where a node can end that starts at one of the given positions. -/
def reach (input : Input) : Node → Direction → Positions → Positions
  | .empty, _, ps => ps
  | .char c, d, ps =>
    let c := canonical input.flags c
    input.advance (fun b => canonical input.flags b == c) d ps
  | .any, d, ps => input.advance (fun b => input.flags.dotAll || !isLineTerminator b) d ps
  | .set chars, d, ps => input.advance (chars.contains input.flags) d ps
  | .seq a b, .forward, ps => reach input b .forward (reach input a .forward ps)
  | .seq a b, .backward, ps => reach input a .backward (reach input b .backward ps)
  | .alt a b, d, ps => union (reach input a d ps) (reach input b d ps)
  | .capture _ body, d, ps => reach input body d ps
  | .backref _, _, ps => ps
  | .look direction negated body, _, ps =>
    ps.filter fun p => (reach input body direction [p]).isEmpty == negated
  | .check assertion, _, ps => ps.filter fun p => input.holds p assertion
  | .loop least most _ _ _ body, d, ps =>
    -- a position is reached by as many steps as there are characters, or not at all
    let bound := input.chars.size + 2
    let first := afterSteps (reach input body d) (min least bound) ps
    let more := (most.map fun most => min (most - least) bound).getD bound
    withSteps (reach input body d) (Std.HashSet.ofList first) first first more

/-- A text contains a match. -/
def Expression.test (e : Expression) (t : Text) : Bool :=
  if e.body.isPlain then
    let input := e.inputOf t
    !(reach input e.body .forward (List.range (input.chars.size + 1))).isEmpty
  else (e.find? t).isSome

end Remedy.Pattern
