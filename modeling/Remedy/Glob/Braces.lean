import Remedy.Data.Number

/-!
# Brace expansion

A pattern with braces stands for several patterns: a list in braces gives one for each item, and a
sequence such as `1..3` or `a..e..2` one for each step. While a pattern is expanded, its escaped
characters are held as marks that no brace, comma or point is equal to.
-/

namespace Remedy.Glob

/-- A unit of a pattern, or one that was escaped. -/
inductive Token where
  | unit (c : CodeUnit)
  | escaped (c : CodeUnit)
  deriving DecidableEq, Repr

abbrev Tokens := List Token

def Token.is (token : Token) (c : Char) : Bool := token == .unit c

def Token.literal (c : Char) : Token := .unit c

/-- Characters that lose their role in expansion when a backslash stands before them. -/
def isEscapable (c : CodeUnit) : Bool :=
  c == 0x5C || c == 0x7B || c == 0x7D || c == ',' || c == '.'

def tokens : Text → Tokens
  | [] => []
  | [c] => [.unit c]
  | c :: d :: t =>
    if c == 0x5C && isEscapable d then .escaped d :: tokens t else .unit c :: tokens (d :: t)

/-- The text of expanded tokens, in which escapes have done their work. -/
def textOf (ts : Tokens) : Text :=
  ts.map fun
    | .unit c => c
    | .escaped c => c

/-- A brace group: what precedes it, what it holds, and what follows it. -/
structure Group where
  before : Tokens
  body : Tokens
  after : Tokens

/-- Follows the braces of a pattern: `opened` are the offsets of open ones, the innermost first, and
`best` is the pair with the leftmost start closed so far. The first group to close with none around
it is taken; if some brace stays open, the best pair. -/
def balancedRange (i : Nat) (opened : List Nat) (best : Option (Nat × Nat)) :
    Tokens → Option (Nat × Nat)
  | [] => if opened.isEmpty then none else best
  | t :: ts =>
    if t.is '\x7b' then balancedRange (i + 1) (i :: opened) best ts
    else if t.is '\x7d' then
      match opened with
      | [] => balancedRange (i + 1) [] best ts
      | [start] => some (start, i)
      | start :: opened =>
        let better : Bool := match best with
          | some (left, _) => start < left
          | none => true
        balancedRange (i + 1) opened (if better then some (start, i) else best) ts
    else balancedRange (i + 1) opened best ts

def balanced (ts : Tokens) : Option Group :=
  (balancedRange 0 [] none ts).map fun (start, stop) =>
    ⟨ts.take start, (ts.drop (start + 1)).take (stop - start - 1), ts.drop (stop + 1)⟩

def splitCommas : Tokens → List Tokens
  | [] => [[]]
  | t :: ts =>
    if t.is ',' then [] :: splitCommas ts
    else match splitCommas ts with
      | [] => [[t]]
      | piece :: pieces => (t :: piece) :: pieces

/-- Appends tokens to the last of some pieces. -/
def extendLast (pieces : List Tokens) (ts : Tokens) : List Tokens :=
  pieces.dropLast ++ [pieces.getLastD [] ++ ts]

/-- The items of a list in braces: the pieces between commas that no inner brace encloses. -/
def items : Nat → Tokens → List Tokens
  | 0, ts => [ts]
  | fuel + 1, ts =>
    match balanced ts with
    | none => splitCommas ts
    | some group =>
      let head := extendLast (splitCommas group.before)
        ([Token.literal '\x7b'] ++ group.body ++ [Token.literal '\x7d'])
      if group.after.isEmpty then head
      else match items fuel group.after with
        | [] => head
        | first :: rest => extendLast head first ++ rest

/-- The tokens as plain units, if none was escaped. -/
def plain? (ts : Tokens) : Option Text :=
  ts.mapM fun
    | .unit c => some c
    | .escaped _ => none

/-! ## Sequences -/

/-- At most this many patterns come from one pair of braces. -/
def maxExpansions : Nat := 100000

/-- A whole number of double precision: one that such a number cannot tell from its neighbours is
rounded, and one too large for it is infinite. -/
inductive Whole where
  | finite (n : Int)
  | infinite (negative : Bool)
  deriving DecidableEq, Repr

namespace Whole

def ofInt (n : Int) : Whole :=
  if n.natAbs ≤ Nat.pow 2 53 then .finite n
  else match Number.ofInt n with
    | .finite negative m e =>
      let size : Int := (m * Nat.pow 2 e.toNat : Nat)
      .finite (if negative then -size else size)
    | _ => .infinite (n < 0)

def isNegative : Whole → Bool
  | .finite n => n < 0
  | .infinite negative => negative

def neg : Whole → Whole
  | .finite n => .finite (-n)
  | .infinite negative => .infinite !negative

def abs (x : Whole) : Whole := if x.isNegative then x.neg else x

/-- Two infinite numbers of opposite sign have no sum. -/
def add? : Whole → Whole → Option Whole
  | .finite m, .finite n => some (ofInt (m + n))
  | .infinite p, .infinite q => if p = q then some (.infinite p) else none
  | .infinite p, .finite _ => some (.infinite p)
  | .finite _, .infinite q => some (.infinite q)

def le : Whole → Whole → Bool
  | .finite m, .finite n => m ≤ n
  | .infinite p, .infinite q => p || !q
  | .infinite p, .finite _ => p
  | .finite _, .infinite q => !q

def toText : Whole → Text
  | .finite n => if n.natAbs ≤ Nat.pow 2 53 then Text.ofInt n else (Number.ofInt n).toText
  | .infinite negative => (Number.infinite negative).toText

/-- A sign and digits. -/
def ofText? (t : Text) : Option Whole :=
  let (negative, digits) := match t with
    | 0x2D :: rest => (true, rest)
    | rest => (false, rest)
  if digits.isEmpty || !digits.all CodeUnit.isDigit then none
  else
    let n : Nat := digits.foldl (fun n c => n * 10 + (c.toNat - 0x30)) 0
    some (ofInt (if negative then -n else n))

end Whole

/-- The pieces of a text between double points. -/
def splitPoints : Text → List Text
  | [] => [[]]
  | 0x2E :: 0x2E :: t => [] :: splitPoints t
  | c :: t => match splitPoints t with
    | [] => [[c]]
    | piece :: pieces => (c :: piece) :: pieces

/-- The whole numbers from `x` on by a step that is not zero, as long as they do not pass `y`, and
at most `fuel` of them; `acc` holds those before, backwards. -/
def walk (step y : Whole) (acc : List Whole) : Nat → Whole → List Whole
  | 0, _ => acc.reverse
  | fuel + 1, x =>
    if (if step.isNegative then y.le x else x.le y) then
      match x.add? step with
      | some next => walk step y (x :: acc) fuel next
      | none => (x :: acc).reverse
    else acc.reverse

/-- A sequence goes up or down to its end; a step of zero counts as one. -/
def sequence (x y step : Whole) : List Whole :=
  let step := if step = .finite 0 then .finite 1 else step.abs
  walk (if x.le y then step else step.neg) y [] maxExpansions x

/-- A numeral that begins with a zero before another digit. -/
def isPadded (t : Text) : Bool :=
  match t with
  | 0x2D :: 0x30 :: c :: _ => c.isDigit
  | 0x30 :: c :: _ => c.isDigit
  | _ => false

/-- A number padded with zeros to a width. -/
def padNumber (width : Nat) (x : Whole) : Text :=
  let shown := x.toText
  let zeros := List.replicate (width - shown.length) 0x30
  if x.isNegative then 0x2D :: zeros ++ shown.drop 1 else zeros ++ shown

/-- The letter with the given code; a backslash is left out. -/
def letterOf : Whole → Text
  | .finite n => if n = 0x5C then [] else [n.toNat.toUInt16]
  | .infinite _ => []

/-- The terms of a sequence in braces, if the body is one. -/
def sequenceTerms? (body : Tokens) : Option (List Text) :=
  (plain? body).bind fun body =>
    let pieces := splitPoints body
    let step : Option Whole := match pieces with
      | [_, _] => some (.finite 1)
      | [_, _, step] => Whole.ofText? step
      | _ => none
    match pieces, step with
    | first :: last :: _, some step =>
      match Whole.ofText? first, Whole.ofText? last with
      | some x, some y =>
        let width := max first.length last.length
        let padded := pieces.any isPadded
        some ((sequence x y step).map fun n => if padded then padNumber width n else n.toText)
      | _, _ =>
        match first, last with
        | [a], [b] =>
          if a.isLetter && b.isLetter then
            some ((sequence (.finite a.toNat) (.finite b.toNat) step).map letterOf)
          else none
        | _, _ => none
    | _, _ => none

/-! ## Expansion -/

/-- A comma that no other follows, and a closing brace later on the same line. -/
def hasOpenList : Tokens → Bool
  | [] => false
  | t :: ts =>
    let isBreak (t : Token) : Bool :=
      t == .unit 0x0A || t == .unit 0x0D || t == .unit 0x2028 || t == .unit 0x2029
    (t.is ',' && !(ts.head?.any fun u => u.is ',') &&
      (ts.takeWhile fun u => !isBreak u).any fun u => u.is '\x7d') || hasOpenList ts

/-- The concatenations of one part of each that are to be kept, up to a number of them; `acc` holds
those found so far, backwards. -/
def product (keep : Tokens → Bool) (before : Tokens) (rests : List Tokens) (acc : List Tokens) :
    Nat → List Tokens → List Tokens
  | _, [] => acc.reverse
  | 0, _ => acc.reverse
  | limit, first :: firsts =>
    let kept := ((rests.map fun rest => before ++ first ++ rest).filter keep).take limit
    product keep before rests (kept.reverse ++ acc) (limit - kept.length) firsts

def embrace (ts : Tokens) : Tokens := [Token.literal '\x7b'] ++ ts ++ [Token.literal '\x7d']

/-- The expansions of a pattern; at the top an empty one is left out unless it comes from a
sequence. -/
def expand (top : Bool) : Nat → Tokens → List Tokens
  | 0, ts => [ts]
  | fuel + 1, ts =>
    match balanced ts with
    | none => [ts]
    | some group =>
      let rests := if group.after.isEmpty then [[]] else expand false fuel group.after
      let all := fun _ : Tokens => true
      let join (keep : Tokens → Bool) := product keep group.before rests [] maxExpansions
      if group.before.getLast?.any fun t => t.is '$' then join all [embrace group.body]
      else match sequenceTerms? group.body with
        | some terms => join all (terms.map fun t => t.map Token.unit)
        | none =>
          if !(group.body.any fun t => t.is ',') then
            if hasOpenList group.after then
              expand true fuel
                (group.before ++ [Token.literal '\x7b'] ++ group.body ++ [.escaped 0x7D] ++
                  group.after)
            else [ts]
          else
            let keep := fun t : Tokens => !top || !t.isEmpty
            match items ts.length group.body with
            | [item] =>
              match (expand false fuel item).map embrace with
              | [only] => join all [only]
              | parts => join keep (parts.flatMap (expand false fuel))
            | parts => join keep (parts.flatMap (expand false fuel))

/-- Some brace is closed with no other opened in between, on one line. -/
def hasBraces : Text → Bool
  | [] => false
  | c :: t =>
    let isBreak (c : CodeUnit) : Bool := c == 0x0A || c == 0x0D || c == 0x2028 || c == 0x2029
    (c == 0x7B &&
        (t.dropWhile fun d => !isBreak d && d != 0x7B && d != 0x7D).head? == some 0x7D) ||
      hasBraces t

/-- Drops every element that is equal to the one before it. -/
def dropRepeats (ts : List Text) : List Text :=
  (ts.foldl (fun seen t => if seen.head? == some t then seen else t :: seen) []).reverse

/-- The patterns that a pattern with braces stands for. -/
def expandBraces (pattern : Text) : List Text :=
  if !hasBraces pattern then [pattern]
  else
    -- a pair of braces at the very start stands for itself
    let ts := match pattern with
      | 0x7B :: 0x7D :: rest => .escaped 0x7B :: .escaped 0x7D :: tokens rest
      | pattern => tokens pattern
    dropRepeats ((expand true (2 * ts.length + 4) ts).map textOf)

end Remedy.Glob
