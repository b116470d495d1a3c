import Remedy.Scan.Walk
import Remedy.Code.FunctionTable

/-!
# Statistics

What a tree of sources consists of: files by kind, lines of C, and function definitions.
-/

namespace Remedy

inductive FileKind where
  | source
  | header
  | test
  | build
  | documentation
  | other
  deriving DecidableEq, Repr

namespace FileKind

def text : FileKind → Text
  | .source => "source"
  | .header => "header"
  | .test => "test"
  | .build => "build"
  | .documentation => "documentation"
  | .other => "other"

/-- What follows the last occurrence of a unit; the whole text if there is none. -/
def afterLast (c : CodeUnit) (t : Text) : Text := (t.reverse.takeWhile (· != c)).reverse

/-- The kind of the file with the given path. A C file counts as such even among tests. -/
def ofPath (path : Text) : FileKind :=
  let name := afterLast 0x2F path
  let extension := if name.contains 0x2E then afterLast 0x2E name else []
  let hasExtension (extensions : List Text) : Bool := extensions.contains extension
  if hasExtension ["c"] then .source
  else if hasExtension ["h", "hpp"] then .header
  else if Text.includes (Text.toLower path) "test" then .test
  else if (["CMakeLists.txt", "Makefile", "configure"] : List Text).contains name ||
      hasExtension ["am", "ac", "cmake", "mk"] then .build
  else if hasExtension ["md", "rst", "txt"] then .documentation
  else .other

end FileKind

structure Stats where
  totalFiles : Nat := 0
  sourceFiles : Nat := 0
  headerFiles : Nat := 0
  testFiles : Nat := 0
  documentationFiles : Nat := 0
  buildFiles : Nat := 0
  totalLines : Nat := 0
  functions : Nat := 0
  deriving DecidableEq, Repr

/-- The number of lines of a text; a line feed at the end starts no further line. -/
def countLines (t : Text) : Nat :=
  if t.isEmpty then 0
  else t.count 0x0A + (if t.getLast? == some 0x0A then 0 else 1)

/-- Adds a file, whose text is only looked at if it is C. -/
def Stats.add (stats : Stats) (kind : FileKind) (content : Option Text) : Stats :=
  let stats := { stats with totalFiles := stats.totalFiles + 1 }
  let lines := stats.totalLines + countLines (content.getD [])
  match kind with
  | .source =>
    let functions := match content with
      | some t => if t.isEmpty then 0 else (Code.FunctionTable.build t).size
      | none => 0
    { stats with
      sourceFiles := stats.sourceFiles + 1
      totalLines := lines
      functions := stats.functions + functions }
  | .header => { stats with headerFiles := stats.headerFiles + 1, totalLines := lines }
  | .test => { stats with testFiles := stats.testFiles + 1 }
  | .documentation => { stats with documentationFiles := stats.documentationFiles + 1 }
  | .build => { stats with buildFiles := stats.buildFiles + 1 }
  | .other => stats

/-- The statistics of the files below a folder, leaving out those that match a pattern. -/
def Disk.stats (disk : Disk) (folder : Text) (excluded : List Text) : Except Glob.Fault Stats := do
  return (← disk.select folder (.ofPatterns ["**"] excluded)).foldl
    (fun stats file => stats.add (.ofPath file) (disk.readText? (Path.join folder file))) {}

end Remedy
