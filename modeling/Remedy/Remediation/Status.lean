import Remedy.Remediation

/-!
# Reports on a run

The report on a run as data, and as lines for the console that name the file, the patch with its
anchor, and what went wrong.
-/

namespace Remedy

structure StatusLine where
  ok : Bool
  message : Text
  deriving DecidableEq, Repr

def PatchResult.statusLine (p : PatchResult) : StatusLine :=
  if p.applied then ⟨true, "patch " ++ p.patchId ++ " applied (" ++ p.message ++ ")"⟩
  else if p.isAlreadyApplied then ⟨true, "patch " ++ p.patchId ++ " already applied"⟩
  else
    let reason := (p.reason.map FailureReason.text).getD "failed"
    ⟨false, "patch " ++ p.patchId ++ " [" ++ p.locator ++ "] " ++ reason ++ ": " ++ p.message⟩

def Verification.statusLines (v : Verification) : List StatusLine :=
  let missing (marker : Text) : StatusLine :=
    ⟨false, "verification-failed: missing " ++ Text.quoted marker⟩
  let forbidden (m : ForbiddenMatch) : StatusLine :=
    ⟨false, "verification-failed: forbidden " ++ Text.quoted m.marker ++ " at line " ++
      Text.ofNat m.line ++ ": " ++ m.text⟩
  v.missingMarkers.map missing ++ v.forbiddenMatches.map forbidden

/-- A line for an error, if there is one. -/
def errorLines (label : Text) (error : Option Text) : List StatusLine :=
  match error with
  | some e => if e.isEmpty then [] else [⟨false, label ++ e⟩]
  | none => []

/-- The lines for a file; when none of them tells of a failure, the last says that it
is verified. -/
def FileReport.statusLines (report : FileReport) : List StatusLine :=
  let lines := report.patches.map PatchResult.statusLine ++ report.verification.statusLines ++
    errorLines "verification error: " report.verification.error ++ errorLines "error: " report.error
  if lines.all StatusLine.ok then lines ++ [⟨true, "verified"⟩] else lines

/-- The line that sums up a run. -/
def RunSummary.text (s : RunSummary) : Text :=
  Text.ofNat s.files ++ " file(s): " ++ Text.ofNat s.patchesApplied ++ " patched, " ++
    Text.ofNat s.patchesAlreadyApplied ++ " already applied, " ++ Text.ofNat s.patchesFailed ++
    " failed; " ++ Text.ofNat s.verificationsPassed ++ " verified, " ++
    Text.ofNat s.verificationsFailed ++ " failed verification"

/-! ## Reports as data -/

def Span.toData (span : Span) : Data :=
  .map [("startLine", .ofNat span.startLine), ("endLine", .ofNat span.endLine)]

/-- The result of a patch. One that has been undone gives its reason last. -/
def PatchResult.toData (p : PatchResult) : Data :=
  let head : List (Text × Option Data) :=
    [("patchId", some (.text p.patchId)), ("targetFile", some (.text p.targetFile)),
      ("locator", some (.text p.locator)), ("applied", some (.bool p.applied))]
  let reason : List (Text × Option Data) := [("reason", p.reason.map fun r => .text r.text)]
  let body : List (Text × Option Data) :=
    [("message", some (.text p.message)), ("span", p.span.map Span.toData)]
  .record (if p.span.isSome then head ++ body ++ reason else head ++ reason ++ body)

def Verification.toData (v : Verification) : Data :=
  .record [("file", some (.text v.file)), ("passed", some (.bool v.passed)),
    ("missingMarkers", some (.texts v.missingMarkers)),
    ("forbiddenMatches", some (.list (v.forbiddenMatches.map fun m =>
      .map [("line", .ofNat m.line), ("marker", .text m.marker), ("text", .text m.text)]))),
    ("error", v.error.map .text)]

def FileReport.toData (r : FileReport) : Data :=
  .record [("file", some (.text r.file)), ("state", some (.text r.state.text)),
    ("status", some (.text r.status.text)),
    ("findingsBefore", some (.list (r.findingsBefore.map Finding.toData))),
    ("patches", some (.list (r.patches.map PatchResult.toData))),
    ("findingsAfter", some (.list (r.findingsAfter.map Finding.toData))),
    ("verification", some r.verification.toData), ("hashBefore", r.hashBefore.map .text),
    ("error", r.error.map .text), ("hashAfter", r.hashAfter.map .text)]

def RunSummary.toData (s : RunSummary) : Data :=
  .map [("files", .ofNat s.files), ("patchesApplied", .ofNat s.patchesApplied),
    ("patchesAlreadyApplied", .ofNat s.patchesAlreadyApplied),
    ("patchesFailed", .ofNat s.patchesFailed),
    ("verificationsPassed", .ofNat s.verificationsPassed),
    ("verificationsFailed", .ofNat s.verificationsFailed)]

def RunReport.toData (r : RunReport) : Data :=
  .map [("version", .text r.version), ("timestamp", .text r.timestamp), ("root", .text r.root),
    ("planName", .text r.planName), ("dryRun", .bool r.dryRun),
    ("files", .list (r.files.map FileReport.toData)), ("summary", r.summary.toData),
    ("exitCode", .ofNat r.exitCode), ("errors", .texts r.errors)]

end Remedy
