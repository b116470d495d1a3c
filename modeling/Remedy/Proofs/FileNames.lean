import Mathlib.Data.List.Nodup
import Remedy.Plan.Check
import Remedy.Proofs.Atomicity
import Remedy.Proofs.Search

/-!
# Files under several names

Patches are grouped by the name of their file as it is written, and a file has several names:
`a.c` and `./a.c` are two groups. `failed_file_unchanged_iff` says when a file keeps its bytes
although a group of patches for it failed: the groups under its other names must make no difference.
In particular it does when all patches for the file use one name.
-/

namespace Remedy

theorem nodup_touchedFiles (patches : List PatchSpec) (probes : List Probe) :
    (touchedFiles patches probes).Nodup :=
  (nodup_distinct _).mergeSort

theorem mem_touchedFiles {patches : List PatchSpec} {probes : List Probe} {file : Text} :
    file ∈ touchedFiles patches probes ↔
      (∃ spec ∈ patches, spec.targetFile = file) ∨ ∃ probe ∈ probes, probe.file = file := by
  simp [touchedFiles, Text.sort, mem_distinct]

/-- Names that no patch uses make no difference. -/
theorem foldl_rewriteBy_eq_self {patches : List PatchSpec} {old : Bytes}
    {records : List (Text × List PatchResult)}
    (h : ∀ record ∈ records, specsFor patches record.1 = []) :
    records.foldl (rewriteBy patches) old = old := by
  induction records with
  | nil => rfl
  | cons record records ih =>
    have hrecord : rewriteBy patches old record = old := by
      rw [rewriteBy, h record (List.mem_cons_self ..)]
      exact patchedBytes_of_unchanged (patchSet_nil_changed old)
    rw [List.foldl_cons, hrecord]
    exact ih fun record hrecord => h record (List.mem_cons_of_mem _ hrecord)

/-- A file for which a patch failed under one name keeps its bytes exactly when the sets of patches
written under its other names, one after another, give them back. It always does when no patch uses
another name. -/
theorem failed_file_unchanged_iff {ctx : RunContext} {disk after : Disk} {planName : Text}
    {patches : List PatchSpec} {probes : List Probe} {report : RunReport} {r : FileReport}
    {result : PatchResult} {path : List Text} {old : Bytes} (hdry : ctx.dryRun = false)
    (hfresh : ∀ spec ∈ patches, ctx.Fresh disk spec.targetFile)
    (hrun : remediate ctx disk planName patches probes = (after, .ok report))
    (hr : r ∈ report.files) (hresult : result ∈ r.patches) (hfailed : result.Failed)
    (hfile : disk.HasFile (Path.join ctx.root r.file) path old) :
    (after.tree.node? path = some (.file old) ↔
      ((report.files.map FileReport.record).filter fun record =>
        record.1 ≠ r.file && writesTo ctx disk path record).foldl (rewriteBy patches) old = old) ∧
    ((∀ spec ∈ patches, disk.locate (Path.join ctx.root spec.targetFile) = .ok path →
        spec.targetFile = r.file) →
      after.tree.node? path = some (.file old)) := by
  obtain ⟨records, hsteps, hreports⟩ := remediate_steps planName probes hfresh
  rw [hrun] at hsteps hreports
  obtain ⟨rfl, hnames⟩ := hreports report rfl
  -- no other report is on the same name, so what was written was written under other names
  have hother : ∀ record ∈ report.files.map FileReport.record,
      writesTo ctx disk path record = (record.1 ≠ r.file && writesTo ctx disk path record) := by
    intro record hrecord
    obtain ⟨s, hs, rfl⟩ := List.mem_map.mp hrecord
    by_cases hname : s.file = r.file
    · have hnodup := hnames ▸ nodup_touchedFiles patches probes
      obtain rfl : s = r := List.inj_on_of_nodup_map hnodup hs hr hname
      have hnone := hsteps.not_applied_of_not_settled hrecord hresult hfailed.not_settled
      simp [writesTo, hnone]
    · simp [FileReport.record, hname]
  have hcontent := hsteps.content hdry hfile.held
  rw [List.filter_congr hother] at hcontent
  refine ⟨by rw [hcontent]; simp, fun hone => ?_⟩
  rw [hcontent, foldl_rewriteBy_eq_self fun record hrecord => ?_]
  obtain ⟨-, hrecord⟩ := List.mem_filter.mp hrecord
  obtain ⟨hne, hwrites⟩ := Bool.and_eq_true_iff.mp hrecord
  by_contra hspecs
  obtain ⟨spec, hspec, htarget⟩ := exists_of_specsFor hspecs
  have hlocated := (writesTo_eq_true_iff.mp hwrites).2
  exact of_decide_eq_true hne (htarget ▸ hone spec hspec (htarget ▸ hlocated))

/-! ## One file, two names -/

theorem touchedFiles_of_pairwise {patches : List PatchSpec} {probes : List Probe}
    (h : (distinct (patches.map PatchSpec.targetFile ++ probes.map Probe.file)).Pairwise
      fun a b => Text.le a b = true) :
    touchedFiles patches probes =
      distinct (patches.map PatchSpec.targetFile ++ probes.map Probe.file) :=
  List.mergeSort_of_pairwise h

set_option maxRecDepth 4000 in
theorem failed_file_unchanged_oneName :
    (remediate plainContext twinDisk "plan" [oneLinePatch "a.c", absentPatch] []).1.tree.node?
      ["r", "a.c"] = some (.file emptyBody) := by
  obtain ⟨report, hok, r, hr, hname, result, hresult, hreason⟩ :
      ∃ report,
        (remediate plainContext twinDisk "plan" [oneLinePatch "a.c", absentPatch] []).2 =
          .ok report ∧
        ∃ r ∈ report.files, r.file = "a.c" ∧
          ∃ result ∈ r.patches, result.reason = some .anchorNotFound := by
    rw [remediate, touchedFiles_of_pairwise (by decide)]
    exact ⟨_, rfl, _, .head _, rfl, _, .tail _ (.head _), rfl⟩
  refine (failed_file_unchanged_iff rfl (by decide) (Prod.ext rfl hok) hr hresult (.inl hreason)
    ⟨by rw [hname]; rfl, rfl⟩).2 ?_
  simp [hname, oneLinePatch, absentPatch]

/-- A plan with patches for `a.c` under two names. -/
def twoNamesDocument : Data := .map [("version", .text "1.0"), ("name", .text "plan"),
  ("patches", .list [
    .map [("id", .text "p1"), ("target_file", .text "./a.c"),
      ("locator", .map [("strategy", .text "signature"), ("signature", .text "f(void)")]),
      ("replacement", .text "int f(void) \x7b return 1; \x7d\n")],
    .map [("id", .text "p2"), ("target_file", .text "a.c"),
      ("locator", .map [("strategy", .text "exact"), ("anchor", .text "g(void)")]),
      ("replacement", .text "")]])]

set_option maxRecDepth 4000 in
/-- The plan is accepted, the patch for `a.c` finds no anchor, and the file is written all the same
under its other name. -/
theorem failed_file_written_under_other_name :
    let run := remediate plainContext twinDisk "plan" [oneLinePatch "./a.c", absentPatch] []
    (Plan.ofData (some twoNamesDocument)).map Plan.patches =
        .ok [oneLinePatch "./a.c", absentPatch] ∧
      (run.2.toOption.map fun report =>
          report.files.map fun r => (r.file, r.patches.map PatchResult.reason)) =
        some [(("./a.c" : Text), [none]), (("a.c" : Text), [some .anchorNotFound])] ∧
      twinDisk.HasFile "/r/a.c" ["r", "a.c"] emptyBody ∧
      run.1.HasFile "/r/a.c" ["r", "a.c"] (Utf8.encode "int f(void) \x7b return 1; \x7d\n") := by
  rw [remediate, touchedFiles_of_pairwise (by decide)]
  exact ⟨rfl, rfl, ⟨rfl, rfl⟩, ⟨rfl, rfl⟩⟩

end Remedy
