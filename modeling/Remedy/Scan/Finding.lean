import Remedy.Text

/-!
# Findings

One suspicious place in a source text, and counts by severity.
-/

namespace Remedy

inductive Severity where
  | critical
  | high
  | medium
  | low
  | info
  deriving DecidableEq, Repr

namespace Severity

def text : Severity → Text
  | .critical => "critical"
  | .high => "high"
  | .medium => "medium"
  | .low => "low"
  | .info => "info"

/-- All severities, the worst first. -/
def all : List Severity := [.critical, .high, .medium, .low, .info]

def ofText? (t : Text) : Option Severity := all.find? fun s => s.text == t

/-- The place of a severity from the least to the worst. -/
def rank : Severity → Nat
  | .info => 0
  | .low => 1
  | .medium => 2
  | .high => 3
  | .critical => 4

end Severity

inductive Category where
  | unsafeCall
  | uncheckedAllocation
  | overflowRisk
  deriving DecidableEq, Repr

def Category.text : Category → Text
  | .unsafeCall => "unsafe-call"
  | .uncheckedAllocation => "unchecked-allocation"
  | .overflowRisk => "overflow-risk"

structure Finding where
  /-- The file, relative to the root of the tree. -/
  file : Text
  line : Nat
  category : Category
  rule : Text
  severity : Severity
  message : Text
  /-- The text that matched, cut to a limit. -/
  matchedText : Text
  deriving DecidableEq, Repr

/-- The number of findings of each severity. -/
structure FindingSummary where
  critical : Nat
  high : Nat
  medium : Nat
  low : Nat
  info : Nat
  deriving DecidableEq, Repr

def FindingSummary.count (summary : FindingSummary) : Severity → Nat
  | .critical => summary.critical
  | .high => summary.high
  | .medium => summary.medium
  | .low => summary.low
  | .info => summary.info

def summarize (findings : List Finding) : FindingSummary :=
  let count (s : Severity) : Nat := findings.countP fun f => f.severity == s
  ⟨count .critical, count .high, count .medium, count .low, count .info⟩

end Remedy
