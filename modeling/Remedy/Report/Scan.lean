import Remedy.Data
import Remedy.Plan
import Remedy.Scan.Stats
import Remedy.Scan.TreeScan

/-!
# Scan reports

The findings and the statistics of a tree, as one document.
-/

namespace Remedy

/-- The version of the documents that reports are written as. -/
def reportVersion : Text := "1.0.0"

structure ScanReport where
  version : Text
  timestamp : Text
  root : Text
  planName : Option Text
  findings : List Finding
  summary : FindingSummary
  stats : Stats
  /-- In milliseconds. -/
  duration : Number
  errors : List Text
  deriving DecidableEq, Repr

/-- Scans the tree below a folder. -/
def Disk.scanReport (disk : Disk) (now root : Text) (settings : ScanSettings)
    (planName : Option Text) : Except Glob.Fault ScanReport := do
  let scan ← disk.scanTree settings.options root
    (.ofPatterns settings.included settings.excluded)
  let stats ← disk.stats root settings.excluded
  return {
    version := reportVersion
    timestamp := now
    root
    planName
    findings := scan.findings
    summary := summarize scan.findings
    stats
    duration := .ofNat 0
    errors := scan.errors }

/-! ## Reports as data -/

def Finding.toData (f : Finding) : Data :=
  .map [("file", .text f.file), ("line", .ofNat f.line), ("category", .text f.category.text),
    ("rule", .text f.rule), ("severity", .text f.severity.text), ("message", .text f.message),
    ("matchedText", .text f.matchedText)]

def FindingSummary.toData (summary : FindingSummary) : Data :=
  .map (Severity.all.map fun s => (s.text, .ofNat (summary.count s)))

def Stats.toData (stats : Stats) : Data :=
  .map [("totalFiles", .ofNat stats.totalFiles), ("sourceFiles", .ofNat stats.sourceFiles),
    ("headerFiles", .ofNat stats.headerFiles), ("testFiles", .ofNat stats.testFiles),
    ("documentationFiles", .ofNat stats.documentationFiles),
    ("buildFiles", .ofNat stats.buildFiles), ("totalLines", .ofNat stats.totalLines),
    ("functions", .ofNat stats.functions)]

def ScanReport.toData (report : ScanReport) : Data :=
  .record [("version", some (.text report.version)), ("timestamp", some (.text report.timestamp)),
    ("root", some (.text report.root)), ("planName", report.planName.map .text),
    ("findings", some (.list (report.findings.map Finding.toData))),
    ("summary", some report.summary.toData), ("stats", some report.stats.toData),
    ("duration", some (.number report.duration)), ("errors", some (.texts report.errors))]

end Remedy
