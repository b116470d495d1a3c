import Remedy.Glob.Class
import Remedy.Glob.Group
import Remedy.Pattern.Reader
import Remedy.Pattern.Reach

/-!
# Parts of path patterns

One part of a pattern, between slashes, is a text, a double star, or a pattern of its own: stars,
question marks, bracket expressions and groups of alternatives. A pattern is turned into a regular
expression; the commonest kinds are tested directly.
-/

namespace Remedy.Glob

/-- Why a pattern cannot be used. -/
inductive Fault where
  | tooLong
  /-- A part gives a regular expression that cannot be read. -/
  | malformed (source flags : Text) (fault : Pattern.Fault)
  deriving DecidableEq, Repr

def Fault.message : Fault → Text
  | .tooLong => "pattern is too long"
  | .malformed source flags fault => fault.describe source flags

def anyUnit : Text := "[^/]"

def anyUnits : Text := "[^/]*?"

def someUnits : Text := "[^/]+?"

/-- Characters that an escape keeps escaped. -/
def escapeSpecials : Text := "().*\x7b\x7d+?[]^$\\!"

/-- The regular expressions of the parts of a text with stars, question marks and bracket
expressions. A part that is all stars matches at least one unit. -/
def wildcardSources (noEmpty : Bool) (escaping inStar : Bool) (acc : List Source) :
    Nat → Text → List Source
  | 0, _ => acc.reverse
  | _ + 1, [] => acc.reverse
  | fuel + 1, c :: t =>
    if escaping then
      let text : Text := if escapeSpecials.contains c then [0x5C, c] else [c]
      wildcardSources noEmpty false false (⟨text, false, false⟩ :: acc) fuel t
    else if c == 0x5C then
      if t.isEmpty then (⟨"\\\\", false, false⟩ :: acc).reverse
      else wildcardSources noEmpty true inStar acc fuel t
    else
      match (if c == '[' then bracketSource t else none) with
      | some (cls, rest) => wildcardSources noEmpty false false (cls :: acc) fuel rest
      | none =>
        if c == '*' then
          if inStar then wildcardSources noEmpty false true acc fuel t
          else
            let units := if noEmpty then someUnits else anyUnits
            wildcardSources noEmpty false true (⟨units, true, false⟩ :: acc) fuel t
        else if c == '?' then
          wildcardSources noEmpty false false (⟨anyUnit, true, false⟩ :: acc) fuel t
        else
          wildcardSources noEmpty false false (⟨escapeExpression [c], false, false⟩ :: acc) fuel t

def textSource (noEmpty : Bool) (t : Text) : Source :=
  .join (wildcardSources (noEmpty && t.all (· == '*')) false false [] (t.length + 1) t)

/-- Keeps a pattern from matching the names of a directory and its parent. -/
def noTraversal : Text := "(?!(?:^|/)\\.\\.?(?:$|/))"

/-- A pattern that may match the name of a directory or of its parent. -/
def mayTraverse (src : Text) : Bool :=
  let wild (i : Nat) : Bool := src[i]? == some 0x5B || src[i]? == some 0x2E
  wild 0 || (Text.startsWith src "\\." && wild 2) || (Text.startsWith src "\\.\\." && wild 4)

def isException : Piece → Bool
  | .group .except _ _ _ _ => true
  | _ => false

/-- Joins the sources of pieces, guarding the start of a part and closing an exception. -/
def wrapSequence (isStart closes : Bool) (pieces : List Piece) (sources : List Source) : Source :=
  let joined := Source.join sources
  let guarded : Bool := match pieces with
    | [.text t] => t != [0x2E] && t != [0x2E, 0x2E]
    | .text _ :: _ => true
    | _ => false
  let start : Text := if isStart && guarded && mayTraverse joined.text then noTraversal else []
  let stop : Text := if closes then "(?:$|\\/)" else []
  { joined with text := start ++ joined.text ++ stop }

/-- The regular expression of a group from those of its alternatives. -/
def wrapGroup (isStart isEnd : Bool) (kind : GroupKind) (emptyEnd : Bool) (written : Text)
    (sources : List Source) : Source :=
  let bodies := (sources.map Source.text).filter fun t => !(isStart && isEnd) || !t.isEmpty
  let body := List.intercalate [0x7C] bodies
  let unicode := sources.any Source.unicode
  if isStart && isEnd && body.isEmpty && kind != .except then ⟨written, false, false⟩
  else if kind == .except && emptyEnd then ⟨someUnits, true, unicode⟩
  else
    let text : Text := match kind with
      | .except => "(?:(?!(?:" ++ body ++ "))" ++ anyUnits ++ ")"
      | .one => "(?:" ++ body ++ ")"
      | .optional => "(?:" ++ body ++ ")?"
      | .some => "(?:" ++ body ++ ")+"
      | .many => "(?:" ++ body ++ ")*"
    ⟨text, true, unicode⟩

mutual

/-- The regular expression of a piece, which may stand at the start or at the end of its part. -/
def pieceSource (isStart isEnd noEmpty : Bool) : Piece → Source
  | .text t => textSource noEmpty t
  | .unclosed t => wrapSequence isStart false [.text t] [textSource (isStart && isEnd) t]
  | .group kind emptyEnd excepting fills alternatives =>
    wrapGroup isStart isEnd kind emptyEnd
      (Piece.toText (.group kind emptyEnd excepting fills alternatives))
      (alternativeSources isStart (kind == .except || isEnd) (kind == .except) alternatives)

/-- The sources of the pieces of a sequence; only exceptions stand before one at the start. -/
def pieceSources (isStart isEnd noEmpty : Bool) : List Piece → List Source
  | [] => []
  | piece :: pieces =>
    pieceSource isStart (isEnd && pieces.isEmpty) noEmpty piece ::
      pieceSources (isStart && isException piece) isEnd noEmpty pieces

def alternativeSources (isStart isEnd closes : Bool) : List Alternative → List Source
  | [] => []
  | .mk leads _ pieces :: alternatives =>
    wrapSequence (isStart && leads) closes pieces
        (pieceSources (isStart && leads) isEnd (isStart && leads && isEnd) pieces) ::
      alternativeSources isStart isEnd closes alternatives

end

/-- The regular expression of a part. -/
def partSource (t : Text) : Source :=
  let pieces := piecesOf t
  wrapSequence true false pieces (pieceSources true true true pieces)

/-- Drops the backslash before every unit but a slash. -/
def unescape : Text → Text
  | [] => []
  | [c] => [c]
  | c :: d :: t => if c == 0x5C && d != '/' then d :: unescape t else c :: unescape (d :: t)

/-! ## Matching -/

inductive Part where
  /-- Any number of parts. -/
  | globstar
  | literal (t : Text)
  /-- Any name. -/
  | star
  /-- A name with the given ending. -/
  | suffix (ending : Text)
  /-- A name of the given length with the given ending. -/
  | marks (length : Nat) (ending : Text)
  /-- A name with a point in it. -/
  | pointed
  /-- A name that starts with a point. -/
  | hidden
  | expression (e : Pattern.Expression)

def isDots (t : Text) : Bool := t == [0x2E] || t == [0x2E, 0x2E]

/-- No group, bracket or wildcard can begin in the text. -/
def isPlainEnding (t : Text) : Bool := !t.any fun c => ("+@!?*[(" : Text).contains c

def isStar (c : CodeUnit) : Bool := c == 0x2A

/-- Reads one part of a pattern. -/
def Part.read (t : Text) : Except Fault Part :=
  let afterStars := t.dropWhile isStar
  let starred := t.head? == some 0x2A
  let afterMarks := t.dropWhile (· == 0x3F)
  if t == [0x2A, 0x2A] then .ok .globstar
  else if t.isEmpty then .ok (.literal [])
  else if starred && afterStars.isEmpty then .ok .star
  else if starred && isPlainEnding afterStars then .ok (.suffix afterStars)
  else if t.head? == some 0x3F && isPlainEnding afterMarks then .ok (.marks t.length afterMarks)
  else if starred && afterStars.head? == some 0x2E && afterStars.length > 1 &&
      (afterStars.drop 1).all isStar then .ok .pointed
  else if t.head? == some 0x2E && t.length > 1 && (t.drop 1).all isStar then .ok .hidden
  else
    let source := partSource t
    if source.magic then
      let flags : Text := if source.unicode then "u" else []
      let text : Text := "^" ++ source.text ++ "$"
      match Pattern.compile text flags with
      | .ok e => .ok (.expression e)
      | .error fault => .error (.malformed text flags fault)
    else .ok (.literal (unescape source.text))

/-- A part other than a double star matches a name. -/
def Part.test (name : Text) : Part → Bool
  | .globstar => false
  | .literal t => name == t
  | .star => !name.isEmpty && !isDots name
  | .suffix ending => Text.endsWith name ending
  | .marks length ending =>
    name.length == length && !isDots name && (ending.isEmpty || Text.endsWith name ending)
  | .pointed => !isDots name && name.contains 0x2E
  | .hidden => !isDots name && name.head? == some 0x2E
  | .expression e => e.test name

end Remedy.Glob
