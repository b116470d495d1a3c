import Remedy.Text.Search

/-!
# Suggestions

The known word that a mistyped one was most likely meant to be.
-/

namespace Remedy.Cli

/-! ## Distance of words -/

/-- The rest of a row of the table of distances. `left` and `diagonal` are the entries before the
next one in this row and in the row above, `x` and `y` the letters before the next ones, and `older`
the row two above, two entries back. -/
def distanceRow (next : CodeUnit) (y x : Option CodeUnit) (left diagonal : Nat) (older : List Nat) :
    Text → List Nat → List Nat
  | c :: cs, up :: above =>
    let edited := min (min (left + 1) (up + 1)) (diagonal + if c = next then 0 else 1)
    let swaps := some c = y && x = some next
    let cell := if swaps then min edited (older.headD 0 + 1) else edited
    cell :: distanceRow next y (some c) cell up older.tail cs above
  | _, _ => []

/-- The rows of the table for the remaining letters of the second word; gives the last row. -/
def distanceRows (a : Text) (above older : List Nat) (last : Option CodeUnit) (j : Nat) :
    Text → List Nat
  | [] => above
  | c :: cs =>
    let row := j :: distanceRow c last none j (above.headD 0) (0 :: older) a above.tail
    distanceRows a row above (some c) (j + 1) cs

/-- The number of letters to insert, delete, replace, or swap with their neighbour that turns one
word into the other, where no part is edited twice. -/
def distance (a b : Text) : Nat :=
  (distanceRows a (List.range (a.length + 1)) [] none 1 b).getLast?.getD 0

/-! ## Similar words -/

/-- The greatest distance of a suggestion. -/
def maxDistance : Nat := 3

/-- Words count as similar when more than two fifths of the longer one are unchanged. -/
def isSimilar (word candidate : Text) (distance : Nat) : Bool :=
  let length := max word.length candidate.length
  2 * length < 5 * (length - distance)

/-- The distance of a candidate, if it is worth a suggestion. -/
def closeness? (word candidate : Text) : Option Nat :=
  if candidate.length ≤ 1 || word.length + maxDistance < candidate.length ||
      candidate.length + maxDistance < word.length then none
  else
    let d := distance word candidate
    if d ≤ maxDistance && isSimilar word candidate d then some d else none

/-- The candidates that are nearest to a word, in order. -/
def nearest (word : Text) (candidates : List Text) : List Text :=
  let close := (distinct candidates).filterMap fun c => (closeness? word c).map (c, ·)
  let best := (close.map Prod.snd).foldl min maxDistance
  Text.sort ((close.filter fun p => p.2 == best).map Prod.fst)

/-- The suggestion to add to a message about an unknown word. The two dashes of long options are not
compared. -/
def suggestion (word : Text) (candidates : List Text) : Text :=
  let dashes : Text := "--"
  let found := if dashes.isPrefixOf word then
      (nearest (word.drop 2) (candidates.map fun c => c.drop 2)).map fun c => dashes ++ c
    else nearest word candidates
  match found with
  | [] => []
  | [one] => "\n(Did you mean " ++ one ++ "?)"
  | several => "\n(Did you mean one of " ++ List.intercalate (", " : Text) several ++ "?)"

end Remedy.Cli
