import Remedy.Patch.Locator

/-!
# Patches

One intended change of a source file, and the record of what became of it.
-/

namespace Remedy

structure PatchSpec where
  id : Text
  /-- The file to change, relative to the root of the tree. -/
  targetFile : Text
  description : Option Text
  locator : Locator
  replacement : Text
  deriving DecidableEq, Repr

/-- Why a patch was not applied. -/
inductive FailureReason where
  | anchorNotFound
  | anchorAmbiguous
  | alreadyApplied
  | writeFailure
  | rolledBack
  deriving DecidableEq, Repr

def FailureReason.text : FailureReason → Text
  | .anchorNotFound => "anchor-not-found"
  | .anchorAmbiguous => "anchor-ambiguous"
  | .alreadyApplied => "already-applied"
  | .writeFailure => "write-failure"
  | .rolledBack => "rolled-back"

def FailureCode.reason : FailureCode → FailureReason
  | .anchorNotFound => .anchorNotFound
  | .anchorAmbiguous => .anchorAmbiguous
  | .alreadyApplied => .alreadyApplied

def FailureCode.text : FailureCode → Text
  | .anchorNotFound => "AnchorNotFound"
  | .anchorAmbiguous => "AnchorAmbiguous"
  | .alreadyApplied => "AlreadyApplied"

inductive PatchFailure where
  | notLocated (cause : LocateFailure)
  | alreadyApplied (id : Text)
  deriving DecidableEq, Repr

namespace PatchFailure

def code : PatchFailure → FailureCode
  | .notLocated cause => cause.code
  | .alreadyApplied _ => .alreadyApplied

def message : PatchFailure → Text
  | .notLocated cause => cause.message
  | .alreadyApplied id => "already patched: replacement for " ++ id ++ " is present"

end PatchFailure

structure PatchResult where
  patchId : Text
  targetFile : Text
  /-- The label of the locator. -/
  locator : Text
  applied : Bool
  reason : Option FailureReason
  message : Text
  /-- The lines that were replaced, in the text before the patch. -/
  span : Option Span
  deriving DecidableEq, Repr

/-- The label of a patch's locator, for status lines. -/
def describeLocator (spec : PatchSpec) : Text :=
  match spec.locator with
  | .exact anchor => "anchor " ++ describeAnchor anchor
  | .signature signature _ => "signature " ++ Text.quoted signature

end Remedy
