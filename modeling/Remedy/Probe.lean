import Remedy.Pattern.Reader
import Remedy.Pattern.Reach
import Remedy.Scan.Scanner

/-!
# Probes

A probe checks the text of a file: some markers must occur in it, and others must not occur on any
line that is not allowed.
-/

namespace Remedy

inductive Marker where
  | literal (t : Text)
  | regex (source : Text) (flags : Option Text)
  deriving DecidableEq, Repr

structure Probe where
  file : Text
  expectedPresent : List Marker
  expectedAbsent : List Marker
  /-- Lines that contain one of these may hold a marker that is expected to be absent. -/
  allowList : List Text
  deriving DecidableEq, Repr

structure ForbiddenMatch where
  line : Nat
  marker : Text
  text : Text
  deriving DecidableEq, Repr

structure Verification where
  file : Text
  passed : Bool
  missingMarkers : List Text
  forbiddenMatches : List ForbiddenMatch
  /-- Set when the file could not be read. -/
  error : Option Text
  deriving DecidableEq, Repr

/-- A marker whose regular expression cannot be read. -/
structure MarkerFault where
  source : Text
  flags : Text
  fault : Pattern.Fault
  deriving DecidableEq, Repr

def MarkerFault.message (m : MarkerFault) : Text := m.fault.describe m.source m.flags

namespace Marker

def label : Marker → Text
  | .literal t => t
  | .regex source flags => "/" ++ source ++ "/" ++ flags.getD []

/-- The flags that make a search go on where the last one ended have no role in a test. -/
def testFlags (flags : Option Text) : Text :=
  (flags.getD []).filter fun c => !(c == 'g' || c == 'y')

/-- The test for a marker. -/
def tester : Marker → Except MarkerFault (Text → Bool)
  | .literal t => .ok fun text => Text.includes text t
  | .regex source flags =>
    match Pattern.compile source (testFlags flags) with
    | .ok e => .ok e.test
    | .error fault => .error ⟨source, testFlags flags, fault⟩

end Marker

/-- A marker with its label and its test. -/
structure Tester where
  label : Text
  test : Text → Bool

def Marker.compile (marker : Marker) : Except MarkerFault Tester := do
  return ⟨marker.label, ← marker.tester⟩

/-- The markers found on some lines, the first of which has the given number. -/
def forbiddenOn (testers : List Tester) (allowList : List Text) (number : Nat) :
    List Text → List ForbiddenMatch
  | [] => []
  | line :: lines =>
    let here := if allowList.any (fun entry => Text.includes line entry) then []
      else (testers.filter fun t => t.test line).map fun t => ⟨number, t.label, Text.trim line⟩
    here ++ forbiddenOn testers allowList (number + 1) lines

/-- The outcome of a probe whose markers have been compiled. -/
def verifyWith (present absent : List Tester) (t : Text) (probe : Probe) : Verification :=
  let missing := (present.filter fun m => !m.test t).map Tester.label
  let forbidden := if absent.isEmpty then []
    else forbiddenOn absent probe.allowList 1 (Scan.plainLines t)
  ⟨probe.file, missing.isEmpty && forbidden.isEmpty, missing, forbidden, none⟩

/-- The outcome of a probe. -/
def verify (t : Text) (probe : Probe) : Except MarkerFault Verification := do
  let present ← probe.expectedPresent.mapM Marker.compile
  let absent ← probe.expectedAbsent.mapM Marker.compile
  return verifyWith present absent t probe

/-- The outcome for a file that could not be read, whatever its markers are. -/
def unreadable (probe : Probe) : Verification :=
  ⟨probe.file, false, probe.expectedPresent.map Marker.label, [],
    some ("Cannot read " ++ probe.file)⟩

/-- Several outcomes for one file as one. -/
def mergeOutcomes (file : Text) (outcomes : List Verification) : Verification :=
  let errors := outcomes.filterMap fun o => o.error.filter fun e => !e.isEmpty
  { file
    passed := outcomes.all Verification.passed
    missingMarkers := outcomes.flatMap Verification.missingMarkers
    forbiddenMatches := outcomes.flatMap Verification.forbiddenMatches
    error := if errors.isEmpty then none else some (List.intercalate ("; " : Text) errors) }

end Remedy
