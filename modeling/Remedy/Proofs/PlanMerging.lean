import Remedy.Proofs.PlanReading
import Remedy.Proofs.Search

/-!
# Plans that add nothing

What a document leaves out is filled in before its plan is laid over another one. `merge_of_silent`
says what is left of the base under a plan that speaks of no scan settings, patches or probes: all
of it but the files to scan, which become the default ones.
-/

namespace Remedy.Plan

open Reading

/-- A document that speaks of no scan settings, patches or probes. -/
def IsSilent (d : Data) : Prop :=
  d.member? "scan" = none ∧ d.member? "patches" = none ∧ d.member? "probes" = none

theorem parts_of_silent {d : Data} {plan : Plan} (hread : ofData (some d) = .ok plan)
    (hsilent : IsSilent d) : plan.scan = .default ∧ plan.patches = [] ∧ plan.probes = [] := by
  obtain ⟨data, hd, -, -, hscan, hpatches, hprobes, -⟩ := exists_readFrom hread
  obtain rfl := Option.some.inj hd
  rw [hsilent.1, passes_withDefault] at hscan
  rw [hsilent.2.1, passes_withDefault] at hpatches
  rw [hsilent.2.2, passes_withDefault] at hprobes
  simp only [true_and, reduceCtorEq, false_and, exists_false, or_false] at hscan hpatches hprobes
  exact ⟨hscan, hpatches, hprobes⟩

/-- A plan whose document is silent keeps the patches, the probes and the exceptions of its base,
and removes repetitions from the lists that are joined. The files to scan are kept only if they are
the default ones. -/
theorem merge_of_silent {d : Data} {override : Plan} (hread : ofData (some d) = .ok override)
    (hsilent : IsSilent d) (base : Plan) :
    let merged := base.merge override
    merged.patches = base.patches ∧ merged.probes = base.probes ∧
      merged.scan.exceptions = base.scan.exceptions ∧
      (merged.scan.excluded = base.scan.excluded ↔ base.scan.excluded.Nodup) ∧
      (merged.scan.allowList = base.scan.allowList ↔ base.scan.allowList.Nodup) ∧
      (merged.scan.included = base.scan.included ↔ base.scan.included = defaultInclude) := by
  obtain ⟨hscan, hpatches, hprobes⟩ := parts_of_silent hread hsilent
  refine ⟨by simp [merge, hpatches], by simp [merge, hprobes], ?_, ?_, ?_, ?_⟩
  · simp [merge, mergeScan, hscan, ScanSettings.default]
  · simp [merge, mergeScan, hscan, ScanSettings.default, unique, distinct_eq_self_iff]
  · simp [merge, mergeScan, hscan, ScanSettings.default, unique, distinct_eq_self_iff]
  · simp [merge, mergeScan, hscan, ScanSettings.default, eq_comm]

/-- A plan with something in each of its parts, which scans the default files. -/
def fullDocument : Data := .map [("version", .text "1.0"), ("name", .text "base"),
  ("scan", .map [("exclude", .texts ["build/**"]), ("allow_list", .texts ["/* bounded */"]),
    ("exceptions", .list [.map [("pattern", .text "lib/**"), ("ignore", .texts ["*"])]])]),
  ("patches", .list [.map [("id", .text "p1"), ("target_file", .text "a.c"),
    ("locator", .map [("strategy", .text "exact"), ("anchor", .text "gets(s)")]),
    ("replacement", .text "get(s)")]]),
  ("probes", .list [.map [("file", .text "a.c"), ("expected_absent", .texts ["gets("])]])]

def silentDocument : Data := .map [("version", .text "1.1"), ("name", .text "child"),
  ("description", .text "nothing new"), ("extends", .text "base.yaml")]

theorem merge_of_silent_full :
    ∃ base override, ofData (some fullDocument) = .ok base ∧
      ofData (some silentDocument) = .ok override ∧ IsSilent silentDocument ∧
      base.patches ≠ [] ∧ base.probes ≠ [] ∧
      (base.merge override).patches = base.patches ∧ (base.merge override).probes = base.probes ∧
      (base.merge override).scan.included = base.scan.included ∧
      (base.merge override).scan.excluded = base.scan.excluded ∧
      (base.merge override).scan.allowList = base.scan.allowList ∧
      (base.merge override).scan.exceptions = base.scan.exceptions := by
  refine ⟨_, _, rfl, rfl, ⟨rfl, rfl, rfl⟩, by simp, by simp, ?_⟩
  obtain ⟨hpatches, hprobes, hexceptions, hexcluded, hallowed, hincluded⟩ :=
    merge_of_silent (d := silentDocument) rfl ⟨rfl, rfl, rfl⟩ _
  exact ⟨hpatches, hprobes, hincluded.2 rfl, hexcluded.2 (by decide), hallowed.2 (by decide),
    hexceptions⟩

/-- A plan that scans one folder. -/
def narrowDocument : Data := .map [("version", .text "1.0"), ("name", .text "base"),
  ("scan", .map [("include", .texts ["src/**/*.c"])])]

/-- Both plans are accepted and no entry is repeated. The files to scan are the default ones all the
same, although the plan on top says nothing about them. -/
theorem merge_of_silent_widens :
    ∃ base override, ofData (some narrowDocument) = .ok base ∧
      ofData (some silentDocument) = .ok override ∧ IsSilent silentDocument ∧
      base.scan.excluded.Nodup ∧ base.scan.allowList.Nodup ∧
      base.scan.included = ["src/**/*.c"] ∧
      (base.merge override).scan.included = ["**/*.c", "**/*.h"] ∧
      (base.merge override).scan ≠ base.scan :=
  ⟨_, _, rfl, rfl, ⟨rfl, rfl, rfl⟩, by decide, by decide, rfl, rfl, by decide⟩

end Remedy.Plan
