import Remedy.Data
import Remedy.Text.Quoted

/-!
# Issues

What is wrong with a document that should be a plan, and where in the document it is wrong.
-/

namespace Remedy

/-- One step of the way from the root of a document to a value in it. -/
inductive PathStep where
  | key (name : Text)
  | index (i : Nat)
  deriving DecidableEq, Repr

def PathStep.text : PathStep → Text
  | .key name => name
  | .index i => Text.ofNat i

inductive Cause where
  | required
  | wrongKind (expected received : Text)
  /-- None of several shapes fits. -/
  | noAlternative
  | unknownVariant (variants : List Text)
  | emptyText
  | pathMissing
  | pathOutside
  | markerEmpty
  | regexEmpty
  | flagsUnknown
  | regexMalformed
  | anchorMissing
  | signatureMissing
  | patchIdMalformed
  | patchIdRepeated (id : Text)
  | probeEmpty
  | patternMissing
  | nothingIgnored
  | versionMalformed
  | nameMissing
  | nameTooLong
  deriving DecidableEq, Repr

/-- Names between apostrophes, with bars between them. -/
def variantList (variants : List Text) : Text :=
  List.intercalate (" | " : Text) (variants.map Text.inApostrophes)

def Cause.message : Cause → Text
  | .required => "Required"
  | .wrongKind expected received => "Expected " ++ expected ++ ", received " ++ received
  | .noAlternative => "Invalid input"
  | .unknownVariant variants => "Invalid discriminator value. Expected " ++ variantList variants
  | .emptyText => "String must contain at least 1 character(s)"
  | .pathMissing => "Path is required"
  | .pathOutside => "Path must be relative to the tree root and stay inside it"
  | .markerEmpty => "Marker must not be empty"
  | .regexEmpty => "Regex must not be empty"
  | .flagsUnknown => "Only i, m, s and u flags are allowed"
  | .regexMalformed => "Invalid regular expression"
  | .anchorMissing => "Anchor is required"
  | .signatureMissing => "Signature is required"
  | .patchIdMalformed => "Patch id must be alphanumeric with - _ ."
  | .patchIdRepeated id => "Duplicate patch id: " ++ id
  | .probeEmpty => "Probe must list at least one expected_present or expected_absent marker"
  | .patternMissing => "Pattern is required"
  | .nothingIgnored => "At least one rule or category to ignore is required"
  | .versionMalformed => "Version must be semver format"
  | .nameMissing => "Plan name is required"
  | .nameTooLong => "Plan name too long"

structure Issue where
  path : List PathStep
  cause : Cause
  deriving DecidableEq, Repr

/-- An issue as one line: its path with dots between the steps, then the message. -/
def Issue.text (issue : Issue) : Text :=
  List.intercalate ("." : Text) (issue.path.map PathStep.text) ++ ": " ++ issue.cause.message

end Remedy
