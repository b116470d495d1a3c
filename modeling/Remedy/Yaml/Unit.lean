import Remedy.Text

/-!
# Units of YAML texts

The kinds of units that the layout of a text is made of.
-/

namespace Remedy.Yaml

def isBreak (c : CodeUnit) : Bool := c == 0x0A || c == 0x0D

def isWhite (c : CodeUnit) : Bool := c == 0x09 || c == 0x20

def isSpace (c : CodeUnit) : Bool := isBreak c || isWhite c

/-- The marks that have a role inside flow collections: a comma, brackets and braces. -/
def isFlowMark (c : CodeUnit) : Bool :=
  c == 0x2C || c == 0x5B || c == 0x5D || c == 0x7B || c == 0x7D

/-- The unit at the start of a text satisfies a predicate. -/
def headIs (p : CodeUnit → Bool) : Text → Bool
  | [] => false
  | c :: _ => p c

/-- A line of three dashes or dots, which starts or ends a document. -/
def atDocumentMark (t : Text) : Bool :=
  let closed (t : Text) : Bool := t.isEmpty || headIs isSpace t
  match t with
  | 0x2D :: 0x2D :: 0x2D :: rest => closed rest
  | 0x2E :: 0x2E :: 0x2E :: rest => closed rest
  | _ => false

end Remedy.Yaml
