import Remedy.Text

/-!
# Bracket expressions

A bracket expression of a path pattern, written as a class of a regular expression.
-/

namespace Remedy.Glob

/-- Characters to be escaped in a regular expression. -/
def expressionSpecials : Text := "-[]\x7b\x7d()*+?.,\\^$|#"

def escapeUnits (special : CodeUnit → Bool) (t : Text) : Text :=
  t.flatMap fun c => if special c then [0x5C, c] else [c]

def escapeExpression (t : Text) : Text :=
  escapeUnits (fun c => expressionSpecials.contains c || c.isBlank) t

def escapeInClass (t : Text) : Text :=
  escapeUnits (fun c => c == '[' || c == ']' || c == 0x5C || c == '-') t

/-- A named class: its regular expression, whether that needs the Unicode flag, and whether the
class is its complement. -/
structure NamedClass where
  name : Text
  source : Text
  unicode : Bool
  complement : Bool

def namedClasses : List NamedClass :=
  [⟨"[:alnum:]", "\\p\x7bL\x7d\\p\x7bNl\x7d\\p\x7bNd\x7d", true, false⟩,
    ⟨"[:alpha:]", "\\p\x7bL\x7d\\p\x7bNl\x7d", true, false⟩,
    ⟨"[:ascii:]", "\\x00-\\x7f", false, false⟩,
    ⟨"[:blank:]", "\\p\x7bZs\x7d\\t", true, false⟩,
    ⟨"[:cntrl:]", "\\p\x7bCc\x7d", true, false⟩,
    ⟨"[:digit:]", "\\p\x7bNd\x7d", true, false⟩,
    ⟨"[:graph:]", "\\p\x7bZ\x7d\\p\x7bC\x7d", true, true⟩,
    ⟨"[:lower:]", "\\p\x7bLl\x7d", true, false⟩,
    ⟨"[:print:]", "\\p\x7bC\x7d", true, false⟩,
    ⟨"[:punct:]", "\\p\x7bP\x7d", true, false⟩,
    ⟨"[:space:]", "\\p\x7bZ\x7d\\t\\r\\n\\v\\f", true, false⟩,
    ⟨"[:upper:]", "\\p\x7bLu\x7d", true, false⟩,
    ⟨"[:word:]", "\\p\x7bL\x7d\\p\x7bNl\x7d\\p\x7bNd\x7d\\p\x7bPc\x7d", true, false⟩,
    ⟨"[:xdigit:]", "A-Fa-f0-9", false, false⟩]

/-- The regular expression of a piece of a pattern. -/
structure Source where
  text : Text
  /-- More than one text matches. -/
  magic : Bool
  /-- The Unicode flag is needed. -/
  unicode : Bool

/-- Sources one after another. -/
def Source.join (sources : List Source) : Source :=
  ⟨(sources.map Source.text).flatten, sources.any Source.magic, sources.any Source.unicode⟩

/-- What has been read of a bracket expression. -/
structure ClassState where
  ranges : List Text := []
  complements : List Text := []
  started : Bool := false
  unicode : Bool := false
  escaping : Bool := false
  negated : Bool := false
  rangeStart : Option CodeUnit := none

/-- An expression that matches nothing. -/
def unmatchable : Source := ⟨"$.", true, false⟩

/-- The class read up to its closing bracket, and what follows. -/
def ClassState.finish (s : ClassState) (rest : Text) : Source × Text :=
  let ranges := s.ranges.reverse
  let complements := s.complements.reverse
  if ranges.isEmpty && complements.isEmpty then (unmatchable, [])
  else
    let literal : Option CodeUnit := match ranges, complements, s.negated with
      | [[c]], [], false => some c
      | [[0x5C, c]], [], false => some c
      | _, _, _ => none
    match literal with
    | some c => (⟨escapeExpression [c], false, false⟩, rest)
    | none =>
      let wrap (negated : Bool) (parts : List Text) : Text :=
        "[" ++ (if negated then "^" else "" : Text) ++ parts.flatten ++ "]"
      let positive := wrap s.negated ranges
      let negative := wrap (!s.negated) complements
      let text : Text :=
        if ranges.isEmpty then negative
        else if complements.isEmpty then positive
        else "(" ++ positive ++ "|" ++ negative ++ ")"
      (⟨text, true, s.unicode⟩, rest)

/-- Reads a bracket expression after its opening bracket; none when it is not closed. -/
def readClass (s : ClassState) : Nat → Text → Option (Source × Text)
  | 0, _ => none
  | _ + 1, [] => none
  | fuel + 1, c :: t =>
    if c == ']' && s.started && !s.escaping then some (s.finish t)
    else
      let s := { s with started := true }
      if c == 0x5C && !s.escaping then readClass { s with escaping := true } fuel t
      else
        let named := if c == '[' && !s.escaping then
            namedClasses.find? fun n => n.name.isPrefixOf (c :: t)
          else none
        match named, s.rangeStart with
        | some _, some _ => some (unmatchable, [])
        | some n, none =>
          let s := { s with unicode := s.unicode || n.unicode }
          let s := if n.complement then { s with complements := n.source :: s.complements }
            else { s with ranges := n.source :: s.ranges }
          readClass s fuel (t.drop (n.name.length - 1))
        | none, some first =>
          let s := { s with escaping := false, rangeStart := none }
          if first < c then
            let range := escapeInClass [first] ++ "-" ++ escapeInClass [c]
            readClass { s with ranges := range :: s.ranges } fuel t
          else if first == c then
            readClass { s with ranges := escapeInClass [c] :: s.ranges } fuel t
          else readClass s fuel t
        | none, none =>
          let s := { s with escaping := false }
          match t with
          | 0x2D :: 0x5D :: _ =>
            readClass { s with ranges := escapeInClass [c, 0x2D] :: s.ranges } fuel (t.drop 1)
          | 0x2D :: rest => readClass { s with rangeStart := some c } fuel rest
          | t => readClass { s with ranges := escapeInClass [c] :: s.ranges } fuel t

/-- A bracket expression after its opening bracket: its regular expression and what follows. -/
def bracketSource (t : Text) : Option (Source × Text) :=
  match t with
  | c :: rest =>
    if c == '!' || c == '^' then readClass { negated := true } (t.length + 1) rest
    else readClass {} (t.length + 1) t
  | [] => none

end Remedy.Glob
