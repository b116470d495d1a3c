import Remedy.Digest
import Remedy.Disk.Replace
import Remedy.Patch.Apply
import Remedy.Report.Scan

/-!
# Remediation

For every file that a plan touches: scan it, patch it, and verify the result. Files are processed
one after another in the order of their paths. Verification always runs, and reads the file back
from the disk.
-/

namespace Remedy

inductive FileState where
  | unscanned
  | scanned
  | patchAttempted
  | verified
  deriving DecidableEq, Repr

def FileState.text : FileState → Text
  | .unscanned => "unscanned"
  | .scanned => "scanned"
  | .patchAttempted => "patch-attempted"
  | .verified => "verified"

inductive FileStatus where
  | ok
  | verificationFailed
  | patchFailed
  | error
  deriving DecidableEq, Repr

namespace FileStatus

def text : FileStatus → Text
  | .ok => "ok"
  | .verificationFailed => "verification-failed"
  | .patchFailed => "patch-failed"
  | .error => "error"

def exitCode : FileStatus → Nat
  | .ok => 0
  | .verificationFailed => 1
  | .patchFailed => 2
  | .error => 3

/-- The worse of two outcomes. -/
def worse (a b : FileStatus) : FileStatus := if a.exitCode < b.exitCode then b else a

end FileStatus

structure FileReport where
  file : Text
  state : FileState
  status : FileStatus
  findingsBefore : List Finding
  patches : List PatchResult
  findingsAfter : List Finding
  verification : Verification
  /-- The digest of the content before the run. -/
  hashBefore : Option Text
  /-- The digest of the content on the disk after the run. -/
  hashAfter : Option Text
  error : Option Text
  deriving DecidableEq, Repr

structure RunSummary where
  files : Nat
  patchesApplied : Nat
  patchesAlreadyApplied : Nat
  patchesFailed : Nat
  verificationsPassed : Nat
  verificationsFailed : Nat
  deriving DecidableEq, Repr

structure RunReport where
  version : Text
  timestamp : Text
  root : Text
  planName : Text
  dryRun : Bool
  files : List FileReport
  summary : RunSummary
  exitCode : Nat
  errors : List Text
  deriving DecidableEq, Repr

/-- What a run needs to know besides the plan. -/
structure RunContext where
  now : Text
  /-- The directory that the files of the plan are relative to. -/
  root : Text
  /-- Patched texts are computed and verified, and not written. -/
  dryRun : Bool := false
  scan : ScanOptions := ⟨[], []⟩
  /-- Tells new files from those that are there already. -/
  tag : Text
  /-- Where the work on a file is cut short. -/
  interruption : Text → Option Interruption := fun _ => none

namespace RunContext

/-- The error with which a file cannot be read. -/
def readError? (ctx : RunContext) (file : Text) : Option FileError :=
  (ctx.interruption file).bind Interruption.readError?

/-- Reads a file that is to be patched. -/
def readSource (ctx : RunContext) (disk : Disk) (path file : Text) : Except FileError Source :=
  match ctx.readError? file with
  | some e => .error e
  | none => disk.readSource path

/-- The disk as a second look at a file finds it. A file that stays unreadable is then taken for one
that is not there. -/
def seen (ctx : RunContext) (disk : Disk) (path file : Text) : Disk :=
  match ctx.interruption file with
  | some (.reading _ true) => if disk.isFile path then disk.remove path else disk
  | _ => disk

end RunContext

/-! ## One file -/

def missingTarget (spec : PatchSpec) : PatchResult where
  patchId := spec.id
  targetFile := spec.targetFile
  locator := describeLocator spec
  applied := false
  reason := some .anchorNotFound
  message := "target file not found: " ++ spec.targetFile
  span := none

def writeFailed (failure : WriteFailure) (result : PatchResult) : PatchResult :=
  if result.applied then
    { result with applied := false, reason := some .writeFailure, message := failure.message }
  else result

/-- What becomes of a file before it is verified. -/
structure Patching where
  findingsBefore : List Finding := []
  patches : List PatchResult := []
  failed : Bool := false
  hashBefore : Option Text := none
  error : Option Text := none
  /-- The patched text of a dry run. -/
  pending : Option Text := none
  deriving DecidableEq, Repr

/-- Applies patches to the content of a file, and writes it back if that changes it. -/
def patchSource (ctx : RunContext) (disk : Disk) (path file : Text) (specs : List PatchSpec)
    (source : Source) : Disk × Patching :=
  let hashBefore := some (Digest.sha256 source.toBytes)
  match Scan.scan ctx.scan (source.encoding.ofSource source.text) file with
  | .error fault => (disk, { hashBefore, error := some fault.message })
  | .ok findingsBefore =>
    if specs.isEmpty then (disk, { findingsBefore, hashBefore })
    else
      let result := applyPatches source.text (specs.map fun spec => spec.toSource source.encoding)
      let patched : Patching :=
        { findingsBefore, hashBefore, patches := result.results, failed := result.failed }
      if !result.changed then (disk, patched)
      else if ctx.dryRun then
        (disk, { patched with pending := some (source.encoding.ofSource result.text) })
      else
        let content := ({ source with text := result.text } : Source).toBytes
        match disk.replace ctx.tag (ctx.interruption file) path content with
        | (disk, none) => (disk, patched)
        | (disk, some failure) =>
          (disk, { patched with
            patches := result.results.map (writeFailed failure), failed := true })

/-- Patches a file. -/
def patchFile (ctx : RunContext) (disk : Disk) (path file : Text) (specs : List PatchSpec)
    (probes : List Probe) : Disk × Patching :=
  if !disk.isFile path then
    (disk,
      { patches := specs.map missingTarget
        failed := !specs.isEmpty
        error := if specs.isEmpty && probes.isEmpty then some "file not found" else none })
  else match ctx.readSource disk path file with
    | .error e => (disk, { error := some e.message })
    | .ok source => patchSource ctx disk path file specs source

/-- Why a run ends without a report. -/
inductive RunFault where
  | pattern (fault : Glob.Fault)
  | marker (fault : MarkerFault)
  deriving DecidableEq, Repr

def RunFault.message : RunFault → Text
  | .pattern fault => fault.message
  | .marker fault => fault.message

/-- The outcome of a probe for the file on the disk. -/
def Disk.verify (disk : Disk) (root : Text) (probe : Probe) : Except MarkerFault Verification :=
  match disk.readText? (Path.join root probe.file) with
  | some t => Remedy.verify t probe
  | none => .ok (unreadable probe)

/-- The outcome of all probes for a file. -/
def verifyAll (disk : Disk) (root file : Text) (probes : List Probe) (pending : Option Text) :
    Except MarkerFault Verification :=
  if probes.isEmpty then .ok ⟨file, true, [], [], none⟩
  else
    let outcome (probe : Probe) : Except MarkerFault Verification :=
      match pending with
      | some t => Remedy.verify t probe
      | none => disk.verify root probe
    (probes.mapM outcome).map (mergeOutcomes file)

/-- The findings of a file after it was patched, if it can be read. -/
def findingsIn (options : ScanOptions) (file : Text) :
    Option Text → Except Glob.Fault (List Finding)
  | some t => Scan.scan options t file
  | none => .ok []

def fileStatus (patching : Patching) (verification : Verification) : FileStatus :=
  if patching.error.any fun e => !e.isEmpty then .error
  else if patching.failed then .patchFailed
  else if verification.passed then .ok
  else .verificationFailed

/-- Scans, patches and verifies a file. -/
def processFile (ctx : RunContext) (disk : Disk) (file : Text) (specs : List PatchSpec)
    (probes : List Probe) : Disk × Except RunFault FileReport :=
  let path := Path.join ctx.root file
  let (disk, patching) := patchFile ctx disk path file specs probes
  let seen := ctx.seen disk path file
  let report : Except RunFault FileReport := do
    let after := patching.pending <|> seen.readText? path
    let findingsAfter ← (findingsIn ctx.scan file after).mapError .pattern
    let verification ← (verifyAll seen ctx.root file probes patching.pending).mapError .marker
    return {
      file
      state := .verified
      status := fileStatus patching verification
      findingsBefore := patching.findingsBefore
      patches := patching.patches
      findingsAfter
      verification
      hashBefore := patching.hashBefore
      hashAfter := (seen.read path).toOption.map Digest.sha256
      error := patching.error }
  (disk, report)

/-! ## A run -/

/-- The files that patches and probes name, in order. -/
def touchedFiles (patches : List PatchSpec) (probes : List Probe) : List Text :=
  Text.sort (distinct (patches.map PatchSpec.targetFile ++ probes.map Probe.file))

/-- A run that was given up at some file. -/
structure RunFailure where
  file : Text
  fault : RunFault
  deriving DecidableEq, Repr

/-- Processes some files one after another, up to one that gives no report. -/
def processFiles (ctx : RunContext) (patches : List PatchSpec) (probes : List Probe)
    (disk : Disk) : List Text → Disk × Except RunFailure (List FileReport)
  | [] => (disk, .ok [])
  | file :: files =>
    let specs := patches.filter fun spec => spec.targetFile == file
    let checks := probes.filter fun probe => probe.file == file
    match processFile ctx disk file specs checks with
    | (disk, .error fault) => (disk, .error ⟨file, fault⟩)
    | (disk, .ok report) =>
      let (disk, reports) := processFiles ctx patches probes disk files
      (disk, reports.map (report :: ·))

def PatchResult.isAlreadyApplied (result : PatchResult) : Bool :=
  result.reason == some .alreadyApplied

def summarizeRun (reports : List FileReport) : RunSummary :=
  let patches := reports.flatMap FileReport.patches
  { files := reports.length
    patchesApplied := patches.countP PatchResult.applied
    patchesAlreadyApplied := patches.countP PatchResult.isAlreadyApplied
    patchesFailed := patches.countP fun p => !p.applied && !p.isAlreadyApplied
    verificationsPassed := reports.countP fun r => r.verification.passed
    verificationsFailed := reports.countP fun r => !r.verification.passed }

/-- The report on a run from those on its files. -/
def runReport (ctx : RunContext) (planName : Text) (reports : List FileReport) : RunReport where
  version := reportVersion
  timestamp := ctx.now
  root := ctx.root
  planName := planName
  dryRun := ctx.dryRun
  files := reports
  summary := summarizeRun reports
  exitCode := (reports.foldl (fun worst r => worst.worse r.status) FileStatus.ok).exitCode
  errors := reports.filterMap fun r =>
    (r.error.filter fun e => !e.isEmpty).map fun e => r.file ++ ": " ++ e

/-- Runs the patches and the probes of a plan. -/
def remediate (ctx : RunContext) (disk : Disk) (planName : Text) (patches : List PatchSpec)
    (probes : List Probe) : Disk × Except RunFailure RunReport :=
  let (disk, reports) := processFiles ctx patches probes disk (touchedFiles patches probes)
  (disk, reports.map (runReport ctx planName))

end Remedy
