import Remedy.Text

/-!
# Groups of alternatives

One part of a path pattern, between slashes, is a sequence of texts and of groups of alternatives. A
group that is all there is to an alternative of another group becomes one with it where their kinds
allow. The alternatives of an exception are then followed by copies of what follows the group, so
that the exception holds of the whole rest of the part.
-/

namespace Remedy.Glob

/-- What a group of alternatives matches: none of them, at most one, one or more, any number, or
exactly one. -/
inductive GroupKind where
  | except
  | optional
  | some
  | many
  | one
  deriving DecidableEq, Repr

namespace GroupKind

def ofUnit? (c : CodeUnit) : Option GroupKind :=
  if c == '!' then .some .except
  else if c == '?' then .some .optional
  else if c == '+' then .some .some
  else if c == '*' then .some .many
  else if c == '@' then .some .one
  else none

def mark : GroupKind → CodeUnit
  | .except => '!'
  | .optional => '?'
  | .some => '+'
  | .many => '*'
  | .one => '@'

/-- A group takes over the alternatives of a group that is its only piece in an alternative. -/
def adopts : GroupKind → GroupKind → Bool
  | .except, .one => true
  | .optional, .optional | .optional, .one => true
  | .one, .one => true
  | .many, .many | .many, .some | .many, .optional | .many, .one => true
  | .some, .some | .some, .one => true
  | _, _ => false

/-- A group takes over the alternatives of an inner group together with an empty one. -/
def adoptsWithEmpty : GroupKind → GroupKind → Bool
  | .except, .optional | .one, .optional | .some, .optional | .some, .many => true
  | _, _ => false

/-- An inner group of this kind does not count as nested any deeper. -/
def absorbs : GroupKind → GroupKind → Bool
  | .except, .optional | .except, .one => true
  | .optional, .optional | .optional, .one => true
  | .one, .optional | .one, .one => true
  | .many, .many | .many, .some | .many, .optional | .many, .one => true
  | .some, .some | .some, .one | .some, .optional | .some, .many => true
  | _, _ => false

/-- The kind of a group whose only alternative is one inner group, when the two are one. -/
def fuse : GroupKind → GroupKind → Option GroupKind
  | .except, .except => .some .one
  | .optional, .many | .optional, .some => .some .many
  | .one, inner => .some inner
  | .some, .optional | .some, .many => .some .many
  | _, _ => none

end GroupKind

mutual

inductive Piece where
  | text (t : Text)
  /-- The text of a group that is never closed. -/
  | unclosed (t : Text)
  /-- A group. Nothing stands before its closing parenthesis if `emptyEnd`; it was written as an
  exception if `excepting`; and `fills` counts the exceptions that have become one with it. -/
  | group (kind : GroupKind) (emptyEnd excepting : Bool) (fills : Nat)
      (alternatives : List Alternative)

/-- An alternative of a group. It stands where the group starts if it `leads`, and `fills` counts
the exceptions that it has been taken over from. -/
inductive Alternative where
  | mk (leads : Bool) (fills : Nat) (pieces : List Piece)

end

namespace Alternative

def pieces : Alternative → List Piece
  | .mk _ _ pieces => pieces

/-- An alternative as it is written. -/
def ofPieces (pieces : List Piece) : Alternative := .mk true 0 pieces

def addFills (n : Nat) : Alternative → Alternative
  | .mk leads fills pieces => .mk leads (fills + n) pieces

/-- An empty alternative that comes with others taken over. -/
def blank : Alternative := .mk false 0 [.text []]

end Alternative

/-- Where the reading of a part stands: the units since the last group, backwards, and inside a
bracket expression the number of its units and whether it is negated. -/
structure Scan where
  units : Text := []
  escaping : Bool := false
  bracket : Option (Nat × Bool) := none

/-- Takes in a unit that has no role: an escaped one, or one in a bracket expression. -/
def Scan.absorb? (s : Scan) (c : CodeUnit) : Option Scan :=
  let bracket := s.bracket.map fun (n, negated) => (n + 1, negated)
  if s.escaping || c == 0x5C then some ⟨c :: s.units, !s.escaping, bracket⟩
  else match bracket with
    | some (n, negated) =>
      if n = 1 then some ⟨c :: s.units, false, some (n, c == '^' || c == '!')⟩
      else if c == ']' && !(n == 2 && negated) then some ⟨c :: s.units, false, none⟩
      else some ⟨c :: s.units, false, some (n, negated)⟩
    | none => if c == '[' then some ⟨c :: s.units, false, some (0, false)⟩ else none

def Scan.push (s : Scan) (c : CodeUnit) : Scan := { s with units := c :: s.units }

/-- The text read since the last group. -/
def Scan.pieces (s : Scan) : List Piece := if s.units.isEmpty then [] else [.text s.units.reverse]

/-- Groups nest this deep. -/
def maxDepth : Nat := 2

/-- A mark followed by an opening parenthesis begins a group. -/
def groupStart? (c : CodeUnit) (t : Text) : Option GroupKind :=
  if t.head? = some 0x28 then GroupKind.ofUnit? c else none

/-- Reads the alternatives of a group after its opening parenthesis: the pieces of the current one,
backwards, and those before it. -/
def readAlternatives (kind : GroupKind) (depth : Nat) (s : Scan) (current : List Piece)
    (done : List Alternative) : Nat → Text → Option (Piece × Text)
  | 0, _ => none
  | _ + 1, [] => none
  | fuel + 1, c :: t =>
    match s.absorb? c with
    | some s => readAlternatives kind depth s current done fuel t
    | none =>
      let inner := (groupStart? c t).filter fun inner => depth ≤ maxDepth || kind.absorbs inner
      match inner with
      | some inner =>
        let depth' := if kind.absorbs inner then depth else depth + 1
        match readAlternatives inner depth' {} [] [] fuel (t.drop 1) with
        | some (group, rest) =>
          readAlternatives kind depth {} (group :: (s.pieces ++ current)) done fuel rest
        | none => none
      | none =>
        let alternative := Alternative.ofPieces (s.pieces ++ current).reverse
        if c == '|' then readAlternatives kind depth {} [] (alternative :: done) fuel t
        else if c == ')' then
          let alternatives := (alternative :: done).reverse
          some (.group kind s.units.isEmpty (kind == .except) 0 alternatives, t)
        else readAlternatives kind depth (s.push c) current done fuel t

/-- The pieces of a part. -/
def readPieces (s : Scan) : Nat → Text → List Piece
  | 0, t => [.text t]
  | _ + 1, [] => s.pieces
  | fuel + 1, c :: t =>
    match s.absorb? c with
    | some s => readPieces s fuel t
    | none =>
      match groupStart? c t with
      | some kind =>
        match readAlternatives kind 1 {} [] [] fuel (t.drop 1) with
        | some (group, rest) => s.pieces ++ group :: readPieces {} fuel rest
        | none => s.pieces ++ [.unclosed (c :: t)]
      | none => readPieces (s.push c) fuel t

/-! ## Groups that become one -/

/-- How often the alternatives of a group are followed by a copy of what follows it: once for the
group itself if it is an exception and was written as one, and once for each exception in it. -/
def fillsOf (kind : GroupKind) (excepting : Bool) (fills : Nat) : Nat :=
  if kind = .except ∧ excepting then fills + 1 else fills

/-- The kind, the fills and the alternatives of a group that is all there is to an alternative. -/
def onlyGroup? (alternative : Alternative) : Option (GroupKind × Nat × List Alternative) :=
  match alternative.pieces with
  | [.group kind _ excepting fills alternatives] =>
    some (kind, fillsOf kind excepting fills, alternatives)
  | _ => none

/-- One pass over the alternatives of a group: those that are a group to be taken over give way to
its alternatives. -/
def adoptAll (kind : GroupKind) : List Alternative → List Alternative
  | [] => []
  | alternative :: rest =>
    match onlyGroup? alternative with
    | some (inner, fills, alternatives) =>
      if kind.adopts inner then alternatives.map (.addFills fills) ++ adoptAll kind rest
      else if kind.adoptsWithEmpty inner then
        (alternatives ++ [Alternative.blank]).map (.addFills fills) ++ adoptAll kind rest
      else alternative :: adoptAll kind rest
    | none => alternative :: adoptAll kind rest

def canAdopt (kind : GroupKind) (alternatives : List Alternative) : Bool :=
  alternatives.any fun alternative =>
    (onlyGroup? alternative).any fun (inner, _, _) =>
      kind.adopts inner || kind.adoptsWithEmpty inner

/-- Takes over inner groups until none is left to take over. -/
def settle : Nat → Piece → Piece
  | 0, piece => piece
  | fuel + 1, .group kind emptyEnd excepting fills alternatives =>
    if canAdopt kind alternatives then
      settle fuel (.group kind emptyEnd excepting fills (adoptAll kind alternatives))
    else
      match alternatives with
      | [alternative] =>
        match onlyGroup? alternative with
        | some (inner, innerFills, innerAlternatives) =>
          match kind.fuse inner with
          | some kind => settle fuel (.group kind false excepting innerFills innerAlternatives)
          | none => .group kind emptyEnd excepting fills alternatives
        | none => .group kind emptyEnd excepting fills alternatives
      | alternatives => .group kind emptyEnd excepting fills alternatives
  | _ + 1, piece => piece

mutual

def flatten : Piece → Piece
  | .group kind emptyEnd excepting fills alternatives =>
    settle 10 (.group kind emptyEnd excepting fills (flattenAlternatives alternatives))
  | piece => piece

def flattenPieces : List Piece → List Piece
  | [] => []
  | piece :: pieces => flatten piece :: flattenPieces pieces

def flattenAlternatives : List Alternative → List Alternative
  | [] => []
  | .mk leads fills pieces :: alternatives =>
    .mk leads fills (flattenPieces pieces) :: flattenAlternatives alternatives

end

/-! ## What follows an exception -/

mutual

/-- A piece as it stands in a copy: only the first alternative of a group leads. -/
def copy : Piece → Piece
  | .group kind _ _ _ alternatives => .group kind false false 0 (copyAlternatives true alternatives)
  | piece => piece

/-- The pieces of a copy, without empty texts. -/
def copyPieces : List Piece → List Piece
  | [] => []
  | .text [] :: pieces => copyPieces pieces
  | piece :: pieces => copy piece :: copyPieces pieces

def copyAlternatives (leads : Bool) : List Alternative → List Alternative
  | [] => []
  | .mk _ _ pieces :: alternatives =>
    .mk leads 0 (copyPieces pieces) :: copyAlternatives false alternatives

end

mutual

/-- Gives the alternatives of exceptions copies of what follows them. -/
def carry (after : List Piece) : Piece → Piece
  | .group kind emptyEnd excepting fills alternatives =>
    let filled := carryAlternatives after (fillsOf kind excepting fills) alternatives
    .group kind emptyEnd false 0 filled
  | piece => piece

def carryPieces (after : List Piece) : List Piece → List Piece
  | [] => []
  | piece :: pieces =>
    let rest := carryPieces after pieces
    carry (copyPieces rest ++ after) piece :: rest

def carryAlternatives (after : List Piece) (groupFills : Nat) : List Alternative → List Alternative
  | [] => []
  | .mk leads fills pieces :: alternatives =>
    let added := (List.replicate (groupFills + fills) after).flatten
    .mk leads 0 (carryPieces after pieces ++ added) ::
      carryAlternatives after groupFills alternatives

end

/-- The pieces of a part, ready to be matched. -/
def piecesOf (t : Text) : List Piece :=
  carryPieces [] (flattenPieces (readPieces {} (t.length + 1) t))

/-! ## Written form -/

mutual

/-- A piece as it is written. -/
def Piece.toText : Piece → Text
  | .text t => t
  | .unclosed t => t
  | .group kind _ _ _ alternatives =>
    [kind.mark, 0x28] ++ List.intercalate [0x7C] (alternativesText alternatives) ++ [0x29]

def piecesText : List Piece → Text
  | [] => []
  | piece :: pieces => piece.toText ++ piecesText pieces

def alternativesText : List Alternative → List Text
  | [] => []
  | .mk _ _ pieces :: alternatives => piecesText pieces :: alternativesText alternatives

end

end Remedy.Glob
