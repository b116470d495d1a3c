import Remedy.Data
import Remedy.Text.Quoted

/-!
# JSON text of data

Compact, or laid out over lines with two blanks for each level.
-/

namespace Remedy.Data

/-- The layout of a document: none, or the number of blanks before the lines of a level. -/
inductive Layout where
  | compact
  | indented (blanks : Nat)

namespace Layout

def inner : Layout → Layout
  | .compact => .compact
  | .indented blanks => .indented (blanks + 2)

def lineBreak : Layout → Text
  | .compact => []
  | .indented blanks => 0x0A :: List.replicate blanks 0x20

def colon : Layout → Text
  | .compact => ":"
  | .indented _ => ": "

end Layout

/-- Items between brackets, each on a line of its own. -/
def bracketed (layout : Layout) (first last : CodeUnit) (items : List Text) : Text :=
  if items.isEmpty then [first, last]
  else
    [first] ++ layout.inner.lineBreak ++
      List.intercalate (0x2C :: layout.inner.lineBreak) items ++ layout.lineBreak ++ [last]

/-- A number in JSON, which has no text for those that are not finite. -/
def numberJson : Number → Text
  | n@(.finite ..) => n.toText
  | _ => "null"

mutual

def json (layout : Layout) : Data → Text
  | .null => "null"
  | .bool b => if b then "true" else "false"
  | .number n => numberJson n
  | .text t => t.quoted
  | .date t => t.quoted
  | .list items => bracketed layout '[' ']' (jsonItems layout.inner items)
  | .map members => bracketed layout '\x7b' '\x7d' (jsonMembers layout.inner members)

def jsonItems (layout : Layout) : List Data → List Text
  | [] => []
  | d :: ds => json layout d :: jsonItems layout ds

def jsonMembers (layout : Layout) : List (Text × Data) → List Text
  | [] => []
  | (key, d) :: members =>
    (Text.quoted key ++ layout.colon ++ json layout d) :: jsonMembers layout members

end

def toJson (pretty : Bool) (d : Data) : Text :=
  json (if pretty then .indented 0 else .compact) d

end Remedy.Data
