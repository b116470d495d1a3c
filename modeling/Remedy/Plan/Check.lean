import Remedy.Plan
import Remedy.Plan.Checked

/-!
# Reading plans

The rules for a document to be a plan. Members that are not mentioned here are ignored.
-/

namespace Remedy

open Reading

/-! ## Texts -/

/-- A relative path that has no step upwards, so that it stays inside the directory it
starts from. -/
def staysInside (path : Text) : Bool :=
  let drive := match path with
    | c :: 0x3A :: _ => c.isLetter
    | _ => false
  path.head? != some 0x2F && !drive &&
    !(Text.splitAt (fun c => c == 0x5C || c == 0x2F) path).contains [0x2E, 0x2E]

/-- A letter or digit, then letters, digits, dashes, underscores and dots. -/
def isPatchId : Text → Bool
  | [] => false
  | c :: t => (c.isLetter || c.isDigit) && t.all fun c => c.isWord || c == 0x2E || c == 0x2D

/-- Two or three numerals with dots between them. -/
def isVersion (t : Text) : Bool :=
  let parts := Text.splitAt (· == 0x2E) t
  (parts.length == 2 || parts.length == 3) &&
    parts.all fun part => !part.isEmpty && part.all CodeUnit.isDigit

def hasKnownFlags (t : Text) : Bool := t.all fun c => ("imsu" : Text).contains c

/-- The longest name of a plan. -/
def maxPlanName : Nat := 50

def relativePath (d : Data) : Checked Text :=
  (nonEmpty .pathMissing d).guard staysInside .pathOutside

/-! ## Parts of a plan -/

namespace Marker

def isWellFormed : Marker → Bool
  | .literal _ => true
  | .regex source flags => (Pattern.compile? source (flags.getD [])).isSome

def readRegex : Data → Checked Marker :=
  map fun d =>
    (Marker.regex <$> member "regex" (required (nonEmpty .regexEmpty)) d
      <*> member "flags" (optional (textWith hasKnownFlags .flagsUnknown)) d).guard
      isWellFormed .regexMalformed

/-- A marker is a literal text or a regular expression. -/
def reading : Reading Marker :=
  choice (required fun d => Marker.literal <$> nonEmpty .markerEmpty d) (required readRegex)

def read (d : Data) : Checked Marker := reading (some d)

end Marker

def EndMarker.read : Data → Checked EndMarker :=
  variant "mode"
    [("column-zero-brace", fun d =>
        EndMarker.columnZeroBrace <$>
          member "next_line_includes" (optional (nonEmpty .emptyText)) d),
      ("brace-depth", fun _ => .accept .braceDepth)]

def Locator.read : Data → Checked Locator :=
  variant "strategy"
    [("exact", fun d => Locator.exact <$> member "anchor" (required (nonEmpty .anchorMissing)) d),
      ("signature", fun d =>
        Locator.signature <$> member "signature" (required (nonEmpty .signatureMissing)) d
          <*> member "end" (withDefault (.columnZeroBrace none) EndMarker.read) d)]

def PatchSpec.read : Data → Checked PatchSpec :=
  map fun d => PatchSpec.mk
    <$> member "id" (required (textWith isPatchId .patchIdMalformed)) d
    <*> member "target_file" (required relativePath) d
    <*> member "description" (optional text) d
    <*> member "locator" (required Locator.read) d
    <*> member "replacement" (required text) d

def Probe.hasMarkers (probe : Probe) : Bool :=
  0 < probe.expectedPresent.length + probe.expectedAbsent.length

def Probe.read : Data → Checked Probe :=
  map fun d =>
    (Probe.mk <$> member "file" (required relativePath) d
      <*> member "expected_present" (withDefault [] (list Marker.read)) d
      <*> member "expected_absent" (withDefault [] (list Marker.read)) d
      <*> member "allow_list" (withDefault [] (list (nonEmpty .emptyText))) d).guard
      Probe.hasMarkers .probeEmpty

def ScanException.read : Data → Checked ScanException :=
  map fun d => ScanException.mk
    <$> member "pattern" (required (nonEmpty .patternMissing)) d
    <*> member "ignore" (required (listWith (0 < ·) .nothingIgnored text)) d
    <*> member "reason" (optional text) d

def ScanSettings.read : Data → Checked ScanSettings :=
  map fun d => ScanSettings.mk
    <$> member "include" (withDefault defaultInclude (list text)) d
    <*> member "exclude" (withDefault [] (list text)) d
    <*> member "allow_list" (withDefault [] (list (nonEmpty .emptyText))) d
    <*> member "exceptions" (withDefault [] (list ScanException.read)) d

/-! ## Plans -/

namespace Plan

/-- The ids that an earlier patch has as well; `seen` holds the ids before the given patches. -/
def repeatedIds (seen : List Text) (i : Nat) : List PatchSpec → List Issue
  | [] => []
  | p :: ps =>
    let here := if seen.contains p.id then
        [⟨[.key "patches", .index i, .key "id"], .patchIdRepeated p.id⟩]
      else []
    here ++ repeatedIds (p.id :: seen) (i + 1) ps

def readName (d : Data) : Checked Text :=
  (nonEmpty .nameMissing d).guard (fun t => t.length ≤ maxPlanName) .nameTooLong

def read : Data → Checked Plan :=
  Reading.map fun d =>
    (Plan.mk <$> member "version" (required (textWith isVersion .versionMalformed)) d
      <*> member "name" (required readName) d
      <*> member "description" (optional text) d
      <*> member "extends" (optional text) d
      <*> member "scan" (withDefault .default ScanSettings.read) d
      <*> member "patches" (withDefault [] (list PatchSpec.read)) d
      <*> member "probes" (withDefault [] (list Probe.read)) d).survey
      fun plan => repeatedIds [] 0 plan.patches

/-- The plan of a document, which may be missing, or all that is wrong with it. -/
def ofData (d : Option Data) : Except (List Issue) Plan := (required read d).result

end Plan

end Remedy
