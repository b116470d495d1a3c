import Remedy.Text.Lines

/-!
# Searching

Occurrences of one text in another. A fragment is searched for in up to three spellings, which
differ in their line endings only.
-/

namespace Remedy

/-- The offsets of a non-empty needle, where `i` is the offset of the text. -/
def occurrencesFrom (needle : Text) (i : Nat) : Text → List Nat
  | [] => []
  | c :: t =>
    if needle.isPrefixOf (c :: t) then i :: occurrencesFrom needle (i + 1) t
    else occurrencesFrom needle (i + 1) t

/-- Every offset at which a needle occurs, overlaps included; an empty needle occurs nowhere. -/
def findAll (t needle : Text) : List Nat :=
  if needle.isEmpty then [] else occurrencesFrom needle 0 t

/-- The elements of a list without repetitions, in order of first occurrence. -/
def distinct {α : Type} [BEq α] (as : List α) : List α :=
  (as.foldl (fun seen a => if seen.contains a then seen else a :: seen) []).reverse

/-- A fragment as written, in the text's dominant line ending, and in the other one. -/
def spellings (fragment t : Text) : List Text :=
  let dominant := detectLineEnding t
  distinct [fragment, toLineEnding fragment dominant, toLineEnding fragment dominant.other]

structure Occurrences where
  needle : Text
  offsets : List Nat
  deriving DecidableEq, Repr

/-- The first of some needles that occurs in the text; the last one with no offsets if none does. -/
def firstOccurring (t : Text) : List Text → Occurrences
  | [] => ⟨[], []⟩
  | [needle] => ⟨needle, findAll t needle⟩
  | needle :: needles =>
    let offsets := findAll t needle
    if offsets.isEmpty then firstOccurring t needles else ⟨needle, offsets⟩

def findFirstSpelling (t fragment : Text) : Occurrences :=
  firstOccurring t (spellings fragment t)

end Remedy
