import Remedy.Text.Search
import Remedy.Text.Quoted
import Remedy.Code.FunctionTable

/-!
# Locators

A locator names one place in a text: the verbatim text of a function, or a piece of its first line
together with a rule for where it ends. Locating fails unless exactly one place fits.
-/

namespace Remedy

/-- How the end of a function found by its signature is recognised. -/
inductive EndMarker where
  /-- The first later line that is a lone closing brace; with a gate, only one whose next line
  contains the gate. -/
  | columnZeroBrace (gate : Option Text)
  /-- The brace that closes the body. -/
  | braceDepth
  deriving DecidableEq, Repr

inductive Locator where
  | exact (anchor : Text)
  | signature (signature : Text) (stop : EndMarker)
  deriving DecidableEq, Repr

/-- A place found: its lines, and its offsets. For a function found by its signature the end offset
lies before the terminator of the last line. -/
structure Match where
  span : Span
  startOffset : Nat
  endOffset : Nat
  deriving DecidableEq, Repr

/-- The three ways in which a patch does not apply. -/
inductive FailureCode where
  | anchorNotFound
  | anchorAmbiguous
  | alreadyApplied
  deriving DecidableEq, Repr

inductive LocateFailure where
  | emptyAnchor
  | anchorMissing (needle : Text)
  | anchorRepeated (needle : Text) (lines : List Nat)
  | emptySignature
  | signatureMissing (signature : Text)
  | signatureRepeated (signature : Text) (lines : List Nat)
  | noClosingLine (signature : Text) (gate : Option Text) (line : Nat)
  | noBody (signature : Text) (line : Nat)
  deriving DecidableEq, Repr

/-- The first line of an anchor that is not blank, quoted, and cut to sixty units. -/
def describeAnchor (anchor : Text) : Text :=
  let shown := Text.trim (((splitLines anchor).find? fun line => !(Text.trim line).isEmpty).getD [])
  Text.quoted (if shown.length > 60 then shown.take 57 ++ "..." else shown)

/-- Numbers separated by commas. -/
def listNumbers (ns : List Nat) : Text := List.intercalate (", " : Text) (ns.map Text.ofNat)

namespace LocateFailure

def code : LocateFailure → FailureCode
  | .anchorRepeated .. | .signatureRepeated .. => .anchorAmbiguous
  | _ => .anchorNotFound

def message : LocateFailure → Text
  | .emptyAnchor => "anchor not found: file or anchor is empty"
  | .anchorMissing needle => "anchor not found: " ++ describeAnchor needle
  | .anchorRepeated needle lines =>
    "anchor " ++ describeAnchor needle ++ " occurs " ++ Text.ofNat lines.length ++
      " times (lines " ++
      listNumbers lines ++ ")"
  | .emptySignature => "signature not found: file or signature is empty"
  | .signatureMissing signature => "signature not found: " ++ Text.quoted signature
  | .signatureRepeated signature lines =>
    "signature " ++ Text.quoted signature ++ " matches lines " ++ listNumbers lines
  | .noClosingLine signature gate line =>
    let gated : Text := match gate with
      | some gate => " followed by a line containing " ++ Text.quoted gate
      | none => ""
    "no closing brace at column 0" ++ gated ++ " after " ++ Text.quoted signature ++ " (line " ++
      Text.ofNat line ++ ")"
  | .noBody signature line =>
    "unbalanced or missing body after " ++ Text.quoted signature ++ " (line " ++
      Text.ofNat line ++ ")"

end LocateFailure

/-- Finds an anchor that occurs once, in the first spelling that occurs at all. -/
def locateExact (t anchor : Text) : Except LocateFailure Match :=
  if t.isEmpty || anchor.isEmpty then .error .emptyAnchor
  else
    let found := findFirstSpelling t anchor
    let starts := lineStarts t
    match found.offsets with
    | [] => .error (.anchorMissing found.needle)
    | [offset] =>
      let stop := offset + found.needle.length
      .ok ⟨⟨lineAt starts offset, lineAt starts (stop - 1)⟩, offset, stop⟩
    | offsets =>
      .error (.anchorRepeated found.needle (offsets.map fun offset : Nat => lineAt starts offset))

/-- The indices, from `i` on, of the lines that contain the signature and are no prototype. -/
def candidates (signature : Text) (i : Nat) : List Text → List Nat
  | [] => []
  | line :: lines =>
    if Text.includes line signature && !(Text.trimEnd line).endsWith ";" then
      i :: candidates signature (i + 1) lines
    else candidates signature (i + 1) lines

/-- The index, from `i` on, of the first line that is a lone closing brace and passes the gate. -/
def closingLine (gate : Option Text) (i : Nat) : List Text → Option Nat
  | [] => none
  | line :: lines =>
    let passes : Bool := match gate with
      | none => true
      | some gate => lines.head?.any fun next => Text.includes next gate
    if Text.trimEnd line = [0x7D] ∧ passes then some i else closingLine gate (i + 1) lines

/-- The brace that closes the body opened on a line: through the table when the line lies in the
header of a function, otherwise by matching braces from the line on. -/
def bodyEnd (table : Code.FunctionTable) (t : Text) (starts : Array Nat) (line : Nat) :
    Option Nat :=
  match table.at? line with
  | some entry =>
    if line ≤ lineAt starts entry.bodyOffset then some entry.endOffset
    else Code.blockEnd t (starts.getD (line - 1) 0)
  | none => Code.blockEnd t (starts.getD (line - 1) 0)

/-- Finds the function whose first line contains the signature, given the function table of the
text. -/
def locateSignature (table : Code.FunctionTable) (t signature : Text) (stop : EndMarker) :
    Except LocateFailure Match :=
  if t.isEmpty || signature.isEmpty then .error .emptySignature
  else
    let lines := (splitLines t).map stripTerminator
    match candidates signature 0 lines with
    | [] => .error (.signatureMissing signature)
    | [start] =>
      let starts := lineStarts t
      let last : Except LocateFailure Nat := match stop with
        | .columnZeroBrace gate =>
          match closingLine gate (start + 1) (lines.drop (start + 1)) with
          | some i => .ok i
          | none => .error (.noClosingLine signature gate (start + 1))
        | .braceDepth =>
          match bodyEnd table t starts (start + 1) with
          | some brace => .ok (lineAt starts brace - 1)
          | none => .error (.noBody signature (start + 1))
      last.map fun last =>
        ⟨⟨start + 1, last + 1⟩, starts.getD start 0,
          starts.getD last 0 + (lines.getD last []).length⟩
    | found => .error (.signatureRepeated signature (found.map (· + 1)))

/-- Finds the place a locator names, given the function table of the text. -/
def locateWith (table : Code.FunctionTable) (t : Text) : Locator → Except LocateFailure Match
  | .exact anchor => locateExact t anchor
  | .signature signature stop => locateSignature table t signature stop

def locate (t : Text) (locator : Locator) : Except LocateFailure Match :=
  locateWith (.build t) t locator

/-- Locates with the table a cache holds or builds. -/
def Code.TableCache.locate (cache : Code.TableCache) (t : Text) (locator : Locator) :
    Except LocateFailure Match × Code.TableCache :=
  let cache := (cache.fetch t).1
  (locateWith cache.table t locator, cache)

end Remedy
