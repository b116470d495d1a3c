import Remedy.Cli.Help
import Remedy.Data.Json
import Remedy.Log
import Remedy.Plan.Load
import Remedy.Plan.StarterFile
import Remedy.Remediation.Status
import Remedy.Report.Markdown
import Remedy.Report.Output

/-!
# The program

What each command does to the disk, what it prints, and the code it exits with.
-/

namespace Remedy.Cli

/-- What the program is given from outside. -/
structure Surroundings where
  now : Text
  /-- Tells new files from those that are there already. -/
  tag : Text
  deriving DecidableEq, Repr

/-- The disk, and what has been printed so far. -/
structure Session where
  disk : Disk
  log : LogSettings := {}
  out : Text := []
  err : Text := []
  deriving DecidableEq, Repr

/-- A session together with the code that the program exits with. -/
structure Exit where
  session : Session
  code : Nat
  deriving DecidableEq, Repr

namespace Session

def print (s : Session) (t : Text) : Session := { s with out := s.out ++ t }

def printError (s : Session) (t : Text) : Session := { s with err := s.err ++ t }

/-- Prints a line, if there is one. -/
def printLine (s : Session) : Option LogLine → Session
  | none => s
  | some line =>
    if line.channel.isError then s.printError (line.text ++ "\n") else s.print (line.text ++ "\n")

/-- A message of some part of the program. -/
def tell (around : Surroundings) (part : Text) (level : Level) (s : Session) (message : Text) :
    Session :=
  s.printLine (s.log.message? around.now level (named part message))

def exit (s : Session) (code : Nat) : Exit := ⟨s, code⟩

/-- Ends with an error message. -/
def abort (around : Surroundings) (part : Text) (s : Session) (message : Text) : Exit :=
  (s.tell around part .error message).exit FileStatus.error.exitCode

end Session

/-! ## Scanning -/

def scanPart : Text := "scan"

def showFindings (around : Surroundings) (report : ScanReport) (s : Session) : Session :=
  let s := report.findings.foldl (fun s f => s.printLine (s.log.finding? f.severity.text
    (f.rule ++ ": " ++ f.message) (f.file ++ ":" ++ Text.ofNat f.line))) s
  s.tell around scanPart .info (Text.ofNat report.findings.length ++ " finding(s) in " ++
    Text.ofNat (report.stats.sourceFiles + report.stats.headerFiles) ++ " C file(s)")

/-- The plan that an option names. An empty path names none. -/
def loadPlan? (disk : Disk) : Option Text → Except LoadFailure (Option Plan)
  | some (c :: path) =>
    ((Loader.load disk { directory := disk.herePath } (c :: path)).2).map some
  | _ => .ok none

def renderScan (format : Option Text) (report : ScanReport) : Text :=
  if format == some ("markdown" : Text) then Markdown.render report else report.toData.toJson true

/-- Scans a tree, delivers the report, and compares the findings with a threshold. -/
def scan (around : Surroundings) (call : Invocation) (threshold : Option Severity) (s : Session) :
    Exit :=
  let root := s.disk.absolute call.argument
  let output := call.options.value? outputFlag
  let failed (message : Text) : Exit := s.abort around scanPart ("Scan failed: " ++ message)
  if !s.disk.isFolder root then s.abort around scanPart ("Not a directory: " ++ call.argument)
  else match loadPlan? s.disk (call.options.value? planFlag) with
    | .error failure => failed failure.message
    | .ok plan =>
      let settings := (plan.map Plan.scan).getD ScanSettings.default
      match s.disk.scanReport around.now root settings (plan.map Plan.name) with
      | .error fault => failed fault.message
      | .ok report =>
        let destination := Destination.choose output call.quiet
        match s.disk.deliver destination (renderScan (call.options.value? formatFlag) report) with
        | .error e => failed e.message
        | .ok (disk, shown) =>
          let s := { s with disk }.print shown
          let s := match destination with
            | .file _ => if call.quiet then s else showFindings around report s
            | _ => s
          let s := report.errors.foldl (Session.tell around scanPart .warn) s
          let reached := threshold.any fun least =>
            report.findings.any fun f => least.rank ≤ f.severity.rank
          s.exit (if reached then FileStatus.verificationFailed.exitCode else 0)

def runScan (around : Surroundings) (call : Invocation) (s : Session) : Exit :=
  match call.options.value? failOnFlag with
  | none => scan around call none s
  | some severity =>
    match Severity.ofText? severity with
    | some least => scan around call (some least) s
    | none => s.abort around scanPart ("Unknown severity: " ++ severity)

/-! ## Patching and verifying -/

def runPart : Text := "remediate"

def showRun (around : Surroundings) (report : RunReport) (s : Session) : Session :=
  let s := report.files.foldl (fun s file => file.statusLines.foldl
    (fun s line => s.printLine (s.log.status? line.ok file.file line.message)) s) s
  s.tell around runPart .info report.summary.text

/-- The files of a run that were begun: all of them, or those up to the one it was given up at. -/
def begunFiles (patches : List PatchSpec) (probes : List Probe)
    (outcome : Except RunFailure RunReport) : List Text :=
  let files := touchedFiles patches probes
  match outcome with
  | .ok _ => files
  | .error failure => files.takeWhile (· != failure.file) ++ [failure.file]

/-- What is said about each file before it is processed. -/
def progress (patches : List PatchSpec) (probes : List Probe) (files : List Text) : List Text :=
  files.map fun file =>
    "Processing " ++ file ++ " (" ++
      Text.ofNat (patches.countP fun spec => spec.targetFile == file) ++ " patch(es), " ++
      Text.ofNat (probes.countP fun probe => probe.file == file) ++ " probe(s))"

/-- Writes the report to a file if one is named, then shows it. -/
def reportRun (around : Surroundings) (call : Invocation) (report : RunReport) (s : Session) :
    Except FileError Session := do
  let json := report.toData.toJson true
  let s ← match Destination.choose (call.options.value? outputFlag) true with
    | .nowhere => pure s
    | destination => do
      let (disk, shown) ← s.disk.deliver destination json
      pure ({ s with disk }.print shown)
  if call.options.has jsonFlag then
    let (disk, shown) ← s.disk.deliver (Destination.choose none call.quiet) json
    return { s with disk }.print shown
  else return showRun around report s

/-- Runs a plan on a tree, with its patches or without them. -/
def runPlan (around : Surroundings) (call : Invocation) (withPatches : Bool) (s : Session) : Exit :=
  let root := s.disk.absolute call.argument
  let planPath := (call.options.value? neededPlanFlag).getD []
  if !s.disk.isFolder root then s.abort around runPart ("Not a directory: " ++ call.argument)
  else match (Loader.load s.disk { directory := s.disk.herePath } planPath).2 with
    | .error failure => s.abort around runPart failure.message
    | .ok plan =>
      let patches := if withPatches then plan.patches else []
      let ctx : RunContext :=
        { now := around.now
          root
          dryRun := call.options.has dryRunFlag
          scan := plan.scan.options
          tag := around.tag }
      let (disk, outcome) := remediate ctx s.disk plan.name patches plan.probes
      let s := (progress patches plan.probes (begunFiles patches plan.probes outcome)).foldl
        (Session.tell around "remediator" .debug) { s with disk }
      match outcome with
      | .error failure => s.abort around "cli" ("CLI error: " ++ failure.fault.message)
      | .ok report =>
        match reportRun around call report s with
        | .ok s => s.exit report.exitCode
        | .error e => s.abort around "cli" ("CLI error: " ++ e.message)

/-! ## Plans -/

def plansPart : Text := "cli"

def runInit (around : Surroundings) (call : Invocation) (s : Session) : Exit :=
  let output := (call.options.value? outputFlag).getD Starter.defaultName
  let (disk, copy) :=
    Starter.copy s.disk s.disk.herePath (some output) (call.options.has forceFlag)
  let s := { s with disk }
  match copy.error with
  | none => (s.tell around plansPart .info ("Created plan file: " ++ copy.path)).exit 0
  | some e => s.abort around plansPart ("Failed to create plan file: " ++ e.message)

def runValidate (around : Surroundings) (call : Invocation) (s : Session) : Exit :=
  match Loader.validate s.disk { directory := s.disk.herePath } call.argument with
  | [] => (s.tell around plansPart .info ("Plan file is valid: " ++ call.argument)).exit 0
  | issues =>
    let s := s.tell around plansPart .error ("Plan file is invalid: " ++ call.argument)
    let s := issues.foldl (fun s issue => s.tell around plansPart .error ("  - " ++ issue)) s
    s.exit FileStatus.error.exitCode

/-! ## The whole program -/

def runCommand (around : Surroundings) (call : Invocation) (s : Session) : Exit :=
  match call.command with
  | .scan => runScan around call s
  | .fix => runPlan around call true s
  | .verify => runPlan around call false s
  | .init => runInit around call s
  | .validate => runValidate around call s

/-- Runs the program with some arguments. -/
def run (around : Surroundings) (disk : Disk) (args : List Text) : Exit :=
  match readArguments args with
  | .ok call =>
    runCommand around call
      { disk, log := { level := if call.verbose then .debug else .info, quiet := call.quiet } }
  | .error .version => (({ disk } : Session).print (version ++ "\n")).exit 0
  | .error (.help command true) => (({ disk } : Session).print (help command)).exit 0
  | .error (.help command false) => (({ disk } : Session).printError (help command)).exit 1
  | .error (.failed error) => (({ disk } : Session).printError (error.message ++ "\n")).exit 1

end Remedy.Cli
