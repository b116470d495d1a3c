import Remedy.Patch.Spec

/-!
# Applying patches

`applyPatch` computes the text after one patch. A patch whose replacement already stands in the text
is refused, so that it is not applied twice. `applyPatches` applies the patches of one file in
order, all or none.
-/

namespace Remedy

/-- An occurrence of the replacement, in any spelling, covers the units from `start` to `stop`. -/
def coveredByReplacement (t replacement : Text) (start stop : Nat) : Bool :=
  (spellings replacement t).any fun needle =>
    (findAll t needle).any fun offset => offset ≤ start && stop ≤ offset + needle.length

/-- The place in a list of the given length that an index stands for; one below zero is counted from
the end. -/
def placeOf (length : Nat) (index : Int) : Nat :=
  if index < 0 then (length + index).toNat else index.toNat

/-- Replaces the lines from the first to the last of two numbers, which are counted as `placeOf`
says. The last line of the replacement takes the terminator of the last line replaced, and an empty
replacement removes the lines. -/
def spliceBetween (t : Text) (first last : Int) (replacement : Text) : Text :=
  let lines := splitLines t
  let before := lines.take (placeOf lines.length (first - 1))
  let replaced := if last < 1 then [] else lines.getD (last - 1).toNat []
  let body := if replacement.isEmpty then [] else stripTerminator replacement ++ terminator replaced
  before.flatten ++ body ++ (lines.drop (placeOf lines.length last)).flatten

/-- Replaces the lines of a span. -/
def spliceLines (t : Text) (span : Span) (replacement : Text) : Text :=
  spliceBetween t span.startLine span.endLine replacement

structure Patched where
  text : Text
  span : Span
  deriving DecidableEq, Repr

/-- The text a patch leaves behind: for a function found by its signature the final line break of
the replacement is not part of it. -/
def PatchSpec.inserted (spec : PatchSpec) : Text :=
  match spec.locator with
  | .exact _ => spec.replacement
  | .signature .. => stripTerminator spec.replacement

/-- The outcome when the locator finds nothing: a single copy of the replacement means that the
patch was applied before. -/
def refuse (t : Text) (spec : PatchSpec) (cause : LocateFailure) : PatchFailure :=
  if cause.code = .anchorNotFound ∧ spec.inserted ≠ [] ∧
      (findFirstSpelling t spec.inserted).offsets.length = 1 then .alreadyApplied spec.id
  else .notLocated cause

/-- Applies a patch at the place its locator found. -/
def applyAt (t : Text) (spec : PatchSpec) (found : Match) : Except PatchFailure Patched :=
  let ending := lineEndingAt t found.startOffset found.endOffset
  let replacement := toLineEnding spec.replacement ending
  match spec.locator with
  | .exact _ =>
    if coveredByReplacement t replacement found.startOffset found.endOffset then
      .error (.alreadyApplied spec.id)
    else
      .ok ⟨t.take found.startOffset ++ replacement ++ t.drop found.endOffset, found.span⟩
  | .signature .. =>
    let body := stripTerminator replacement
    if body ≠ [] ∧ coveredByReplacement t body found.startOffset found.endOffset then
      .error (.alreadyApplied spec.id)
    else .ok ⟨spliceLines t found.span replacement, found.span⟩

def applyPatch (t : Text) (spec : PatchSpec) : Except PatchFailure Patched :=
  match locate t spec.locator with
  | .ok found => applyAt t spec found
  | .error cause => .error (refuse t spec cause)

structure PatchSetResult where
  /-- The patched text, or the text as it was when the set failed. -/
  text : Text
  results : List PatchResult
  failed : Bool
  changed : Bool
  deriving DecidableEq, Repr

/-- The record of one attempt. -/
def PatchResult.of (spec : PatchSpec) : Except PatchFailure Patched → PatchResult
  | .ok patched =>
    { patchId := spec.id
      targetFile := spec.targetFile
      locator := describeLocator spec
      applied := true
      reason := none
      message := "patched lines " ++ Text.ofNat patched.span.startLine ++ "-" ++
        Text.ofNat patched.span.endLine
      span := some patched.span }
  | .error failure =>
    { patchId := spec.id
      targetFile := spec.targetFile
      locator := describeLocator spec
      applied := false
      reason := some failure.code.reason
      message := failure.message
      span := none }

/-- A patch that does not apply and was not applied before fails its whole set. -/
def isHardFailure : Except PatchFailure Patched → Bool
  | .ok _ => false
  | .error failure => failure.code ≠ .alreadyApplied

/-- Attempts the patches in order, each on the text the ones before it left: the last text, the
records, and whether one failed. -/
def attemptPatches (t : Text) : List PatchSpec → Text × List PatchResult × Bool
  | [] => (t, [], false)
  | spec :: specs =>
    let outcome := applyPatch t spec
    let next := match outcome with
      | .ok patched => patched.text
      | .error _ => t
    let (last, results, failed) := attemptPatches next specs
    (last, PatchResult.of spec outcome :: results, isHardFailure outcome || failed)

/-- An applied patch whose set failed. -/
def PatchResult.rollBack (result : PatchResult) : PatchResult :=
  if result.applied then
    { result with
      applied := false
      reason := some .rolledBack
      message := "not written: another patch for this file failed" }
  else result

def applyPatches (t : Text) (specs : List PatchSpec) : PatchSetResult :=
  let (last, results, failed) := attemptPatches t specs
  if failed then ⟨t, results.map PatchResult.rollBack, true, false⟩
  else ⟨last, results, false, decide (last ≠ t)⟩

end Remedy
