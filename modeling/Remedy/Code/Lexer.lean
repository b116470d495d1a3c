import Remedy.Text

/-!
# Code units of C source

`code` lists the units of a C text that stand outside comments, directives and literals, blanks left
out. A literal is represented by its opening quote. `blockEnd` matches braces among them.
-/

namespace Remedy.Code

def isBlank (c : CodeUnit) : Bool :=
  c == 0x20 || c == 0x09 || c == 0x0D || c == 0x0C || c == 0x0B

/-- The units up to the line feed that ends a directive; a backslash continues it on the
next line. -/
def directiveLength : Text → Nat
  | [] => 0
  | 0x5C :: 0x0A :: t => directiveLength t + 2
  | 0x5C :: 0x0D :: 0x0A :: t => directiveLength t + 3
  | c :: t => if c = 0x0A then 0 else directiveLength t + 1

/-- The units of a literal after its opening quote, the closing one included; it also ends before a
line feed. -/
def literalLength (quote : CodeUnit) : Text → Nat
  | [] => 0
  | [c] => if c = 0x0A then 0 else 1
  | c :: d :: t =>
    if c = 0x5C then literalLength quote t + 2
    else if c = quote then 1
    else if c = 0x0A then 0
    else literalLength quote (d :: t) + 1

/-- The units before the next line feed. -/
def lineLength (t : Text) : Nat := (t.takeWhile (· != 0x0A)).length

/-- The units of a block comment after its opening, the closing mark included. -/
def commentLength : Text → Nat
  | [] => 0
  | 0x2A :: 0x2F :: _ => 2
  | _ :: t => commentLength t + 1

/-- Reads a text from offset `i`: `atStart` tells that only blanks stand before on the line, `skip`
that the next units belong to something already recognised. -/
def codeFrom (atStart : Bool) (i skip : Nat) : Text → List (Nat × CodeUnit)
  | [] => []
  | c :: t =>
    match skip with
    | skip + 1 => codeFrom atStart (i + 1) skip t
    | 0 =>
      if c = 0x0A then codeFrom true (i + 1) 0 t
      else if isBlank c then codeFrom atStart (i + 1) 0 t
      else if atStart && c == '#' then codeFrom true (i + 1) (directiveLength t) t
      else if c = '/' ∧ t.head? = some 0x2F then codeFrom false (i + 1) (lineLength t) t
      else if c = '/' ∧ t.head? = some 0x2A then codeFrom false (i + 1) (1 + commentLength t.tail) t
      else if c = 0x22 ∨ c = 0x27 then (i, c) :: codeFrom false (i + 1) (literalLength c t) t
      else (i, c) :: codeFrom false (i + 1) 0 t

/-- The code of a text: each unit with its offset. -/
def code (t : Text) : List (Nat × CodeUnit) := codeFrom true 0 0 t

def codeIndices (t : Text) : List Nat := (code t).map Prod.fst

/-- Follows the braces from nesting `depth` to the one that closes the first block. -/
def closingBrace (depth : Nat) : List (Nat × CodeUnit) → Option Nat
  | [] => none
  | (i, c) :: rest =>
    if depth = 0 ∧ c = ';' then none
    else if c = '{' then closingBrace (depth + 1) rest
    else if c = '}' then
      match depth with
      | 0 => none
      | 1 => some i
      | depth + 1 => closingBrace depth rest
    else closingBrace depth rest

/-- The offset of the brace that closes the first block opened at or after `start`; none when a
semicolon or a closing brace comes first or the block stays open. -/
def blockEnd (t : Text) (start : Int) : Option Nat :=
  closingBrace 0 ((code t).dropWhile fun p => (p.1 : Int) < start)

end Remedy.Code
