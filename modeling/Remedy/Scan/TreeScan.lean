import Remedy.Scan.Walk
import Remedy.Scan.Scanner

/-!
# Scanning a tree

The findings of all selected files below a folder.
-/

namespace Remedy

/-- Why a file gives no findings. -/
inductive ScanFault where
  | unreadable (file : Text)
  | pattern (fault : Glob.Fault)
  deriving DecidableEq, Repr

def ScanFault.message : ScanFault → Text
  | .unreadable file => "Cannot read " ++ file
  | .pattern fault => fault.message

/-- The findings of a file below a folder. -/
def Disk.scanFile (disk : Disk) (options : ScanOptions) (folder file : Text) :
    Except ScanFault (List Finding) :=
  match disk.readText? (Path.join folder file) with
  | some t => (Scan.scan options t file).mapError .pattern
  | none => .error (.unreadable file)

structure TreeScan where
  files : List Text
  findings : List Finding
  errors : List Text
  deriving DecidableEq, Repr

/-- Scans the selected files in the order of their paths. A file that gives no findings gives an
error, and the others are still scanned. -/
def Disk.scanTree (disk : Disk) (options : ScanOptions) (folder : Text) (selection : Selection) :
    Except Glob.Fault TreeScan := do
  let files ← disk.select folder selection
  let results := files.map (disk.scanFile options folder)
  return {
    files
    findings := results.flatMap fun r => r.toOption.getD []
    errors := results.filterMap fun r => match r with
      | .ok _ => none
      | .error fault => some fault.message }

end Remedy
