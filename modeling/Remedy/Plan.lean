import Remedy.Patch.Spec
import Remedy.Probe
import Remedy.Data

/-!
# Plans

A plan says which files to scan, which patches to apply and which probes to run. A plan can extend
another one, whose parts it overrides.
-/

namespace Remedy

structure ScanSettings where
  included : List Text
  excluded : List Text
  allowList : List Text
  exceptions : List ScanException
  deriving DecidableEq, Repr

/-- The files of interest when nothing is said about them. -/
def defaultInclude : List Text := ["**/*.c", "**/*.h"]

def ScanSettings.default : ScanSettings := ⟨defaultInclude, [], [], []⟩

def ScanSettings.options (settings : ScanSettings) : ScanOptions :=
  ⟨settings.allowList, settings.exceptions⟩

structure Plan where
  version : Text
  name : Text
  description : Option Text
  /-- The plan this one extends, relative to the directory of its own file. -/
  base : Option Text
  scan : ScanSettings
  patches : List PatchSpec
  probes : List Probe
  deriving DecidableEq, Repr

namespace Plan

/-- The given entries, each where it occurs first. -/
def unique (ts : List Text) : List Text := distinct ts

def mergeScan (base override : ScanSettings) : ScanSettings where
  included := override.included
  excluded := unique (base.excluded ++ override.excluded)
  allowList := unique (base.allowList ++ override.allowList)
  exceptions := base.exceptions ++ override.exceptions

/-- Lays a plan over its base. Patches with the same id and probes for the same file are those of
the overriding plan. -/
def merge (base override : Plan) : Plan where
  version := override.version
  name := override.name
  description := override.description <|> base.description
  base := override.base <|> base.base
  scan := mergeScan base.scan override.scan
  patches :=
    base.patches.filter (fun p => !override.patches.any fun q => q.id == p.id) ++ override.patches
  probes :=
    base.probes.filter (fun p => !override.probes.any fun q => q.file == p.file) ++ override.probes

end Plan

/-! ## Plans as data -/

def Marker.toData : Marker → Data
  | .literal t => .text t
  | .regex source flags => .record [("regex", some (.text source)), ("flags", flags.map .text)]

def EndMarker.toData : EndMarker → Data
  | .columnZeroBrace gate =>
    .record [("mode", some (.text "column-zero-brace")), ("next_line_includes", gate.map .text)]
  | .braceDepth => .record [("mode", some (.text "brace-depth"))]

def Locator.toData : Locator → Data
  | .exact anchor => .record [("strategy", some (.text "exact")), ("anchor", some (.text anchor))]
  | .signature header stop =>
    .record [("strategy", some (.text "signature")), ("signature", some (.text header)),
      ("end", some stop.toData)]

def PatchSpec.toData (spec : PatchSpec) : Data :=
  .record [("id", some (.text spec.id)), ("target_file", some (.text spec.targetFile)),
    ("description", spec.description.map .text), ("locator", some spec.locator.toData),
    ("replacement", some (.text spec.replacement))]

def Probe.toData (probe : Probe) : Data :=
  .record [("file", some (.text probe.file)),
    ("expected_present", some (.list (probe.expectedPresent.map Marker.toData))),
    ("expected_absent", some (.list (probe.expectedAbsent.map Marker.toData))),
    ("allow_list", some (.texts probe.allowList))]

def ScanException.toData (e : ScanException) : Data :=
  .record [("pattern", some (.text e.pattern)), ("ignore", some (.texts e.ignore)),
    ("reason", e.reason.map .text)]

def ScanSettings.toData (settings : ScanSettings) : Data :=
  .record [("include", some (.texts settings.included)),
    ("exclude", some (.texts settings.excluded)),
    ("allow_list", some (.texts settings.allowList)),
    ("exceptions", some (.list (settings.exceptions.map ScanException.toData)))]

/-- The document of a plan, with every default written out. -/
def Plan.toData (plan : Plan) : Data :=
  .record [("version", some (.text plan.version)), ("name", some (.text plan.name)),
    ("description", plan.description.map .text), ("extends", plan.base.map .text),
    ("scan", some plan.scan.toData), ("patches", some (.list (plan.patches.map PatchSpec.toData))),
    ("probes", some (.list (plan.probes.map Probe.toData)))]

end Remedy
