import Remedy.Glob
import Remedy.Scan.Rule

/-!
# Scanning

Each line of a text is tested against the rules that are in force for the file. A rule reports a
line at most once, and a line with an allowed text on it is not reported at all.
-/

namespace Remedy

/-- Rules that are not applied to the files a pattern matches: by name, by category, or all. -/
structure ScanException where
  pattern : Text
  ignore : List Text
  reason : Option Text
  deriving DecidableEq, Repr

structure ScanOptions where
  /-- Lines that contain one of these are never reported. -/
  allowList : List Text
  exceptions : List ScanException
  deriving DecidableEq, Repr

namespace Scan

/-- The longest text a finding shows. -/
def maxEvidence : Nat := 120

/-- The lines of a text without their line breaks. What follows the last line feed is a line too. -/
def plainLines (t : Text) : List Text :=
  (Text.splitAt (· == 0x0A) t).map fun line =>
    if line.getLast? == some 0x0D then line.dropLast else line

/-- An exception names a rule, or its category, or all rules. -/
def ScanException.names (rule : Rule) (e : ScanException) : Bool :=
  e.ignore.contains [0x2A] || e.ignore.contains rule.name || e.ignore.contains rule.category.text

/-- Some exception that matches the file names the rule. The exceptions are tried in order. -/
def isSuppressed (options : ScanOptions) (file : Text) (rule : Rule) : Except Glob.Fault Bool :=
  options.exceptions.anyM fun e => do
    return (← Glob.matches? file e.pattern) && ScanException.names rule e

/-- The rules in force for a file. -/
def activeRules (options : ScanOptions) (t file : Text) : Except Glob.Fault (List Rule) :=
  rules.filterM fun rule => do
    return !(← isSuppressed options file rule) && rule.inFile t

/-- What a rule reports of a line. -/
def Rule.report? (file line : Text) (number : Nat) (rule : Rule) : Option Finding :=
  match rule.find line with
  | some found =>
    if rule.onLine line then
      let evidence := match rule.evidence with
        | .matched => found
        | .line => Text.trim line
      some
        { file
          line := number
          category := rule.category
          rule := rule.name
          severity := rule.severity
          message := rule.message
          matchedText := evidence.take maxEvidence }
    else none
  | none => none

/-- The findings of some lines, the first of which has the given number. -/
def scanLines (allowList : List Text) (active : List Rule) (file : Text) (number : Nat) :
    List Text → List Finding
  | [] => []
  | line :: lines =>
    let here := if allowList.any (fun entry => Text.includes line entry) then []
      else active.filterMap (Rule.report? file line number)
    here ++ scanLines allowList active file (number + 1) lines

/-- The findings of a text by the given rules, line by line and in the order of the rules. -/
def scanWith (allowList : List Text) (active : List Rule) (t file : Text) : List Finding :=
  if t.isEmpty then [] else scanLines allowList active file 1 (plainLines t)

/-- The findings of a text. -/
def scan (options : ScanOptions) (t file : Text) : Except Glob.Fault (List Finding) := do
  return scanWith options.allowList (← activeRules options t file) t file

end Scan

end Remedy
