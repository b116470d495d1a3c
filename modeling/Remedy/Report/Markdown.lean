import Remedy.Report.Scan

/-!
# Scan reports for readers

A scan report as a Markdown document: a table of statistics, tables of counts, and a table of
findings for each severity.
-/

namespace Remedy.Markdown

/-- Lines with line feeds between them. -/
def lines (ls : List Text) : Text := List.intercalate ("\n" : Text) ls

def icon : Severity → Text
  | .critical => "🔴"
  | .high => "🟠"
  | .medium => "🟡"
  | .low => "🔵"
  | .info => "ℹ️"

/-- The name of a severity with a capital letter. -/
def title (severity : Severity) : Text :=
  Text.toUpper (severity.text.take 1) ++ severity.text.drop 1

def categories : List (Category × Text) :=
  [(.unsafeCall, "Unsafe calls"), (.uncheckedAllocation, "Allocations without release"),
    (.overflowRisk, "Overflow risks")]

/-- A row of a table with two columns. -/
def row (label value : Text) : Text := "| " ++ label ++ " | " ++ value ++ " |"

/-- A text between backquotes. -/
def codeSpan (t : Text) : Text := [0x60] ++ t ++ [0x60]

def statsSection (report : ScanReport) : Text :=
  let count (label : Text) (n : Nat) : Text := row label (Text.ofNat n)
  lines
    ["## Repository", [], "| Metric | Value |", "|--------|-------|",
      row "Root" (codeSpan report.root), count "Files" report.stats.totalFiles,
      count "C sources" report.stats.sourceFiles, count "Headers" report.stats.headerFiles,
      count "Test files" report.stats.testFiles,
      count "Documentation files" report.stats.documentationFiles,
      count "Build files" report.stats.buildFiles, count "C source lines" report.stats.totalLines,
      count "Function definitions" report.stats.functions, []]

def summarySection (report : ScanReport) : Text :=
  let countOf (category : Category) : Nat :=
    report.findings.countP fun f => f.category == category
  lines
    ((["## Summary", [], "| Severity | Count |", "|----------|-------|"] : List Text) ++
      (Severity.all.map fun s =>
        row (icon s ++ " " ++ title s) (Text.ofNat (report.summary.count s))) ++
      ([[], "| Category | Count |", "|----------|-------|"] : List Text) ++
      (categories.map fun (category, label) => row label (Text.ofNat (countOf category))) ++ [[]])

/-- Puts a backslash before each bar. -/
def escapeBars (t : Text) : Text := t.flatMap fun c => if c = 0x7C then [0x5C, c] else [c]

/-- The row of a finding: its place, its rule, and the text that matched. -/
def findingRow (f : Finding) : Text :=
  "| " ++ codeSpan (f.file ++ ":" ++ Text.ofNat f.line) ++ " | " ++ f.rule ++ " | " ++
    codeSpan (escapeBars f.matchedText) ++ " |"

/-- The heading of a severity and the table of its findings, if there are any. -/
def severityLines (findings : List Finding) (severity : Severity) : List Text :=
  let group := findings.filter fun f => f.severity == severity
  if group.isEmpty then []
  else
    ["### " ++ icon severity ++ " " ++ title severity ++ " (" ++ Text.ofNat group.length ++ ")", [],
      "| Location | Rule | Match |", "|----------|------|-------|"] ++ group.map findingRow ++ [[]]

def findingsSection (findings : List Finding) : Text :=
  if findings.isEmpty then "## Findings\n\nNo suspicious patterns found.\n"
  else lines ((["## Findings", []] : List Text) ++ Severity.all.flatMap (severityLines findings))

def errorsSection (errors : List Text) : Text :=
  if errors.isEmpty then []
  else lines ((["## Errors", []] : List Text) ++ (errors.map fun e : Text => "- " ++ e) ++ [[]])

/-- The note on the name of the plan, if it has one. -/
def planLines (report : ScanReport) : List Text :=
  match report.planName with
  | some name => if name.isEmpty then [] else ["*Plan: " ++ name ++ "*"]
  | none => []

/-- The note at the end of every report. -/
def note : Text :=
  "*Allocation findings are file-scoped: a release call anywhere in the file silences them.*"

def render (report : ScanReport) : Text :=
  lines
    ((["# C Source Scan Report", [], "*Generated: " ++ report.timestamp ++ "*"] : List Text) ++
      planLines report ++
      (["*Duration: " ++ (report.duration.divNat 1000).withTwoPlaces ++ "s*", [], "---", [],
        statsSection report, summarySection report, findingsSection report.findings,
        errorsSection report.errors, "---", [], note] : List Text))

end Remedy.Markdown
