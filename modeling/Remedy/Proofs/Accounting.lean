import Remedy.Proofs.AllOrNone
import Remedy.Proofs.FileNames
import Remedy.Proofs.Lists
import Remedy.Proofs.PlanReading
import Remedy.Proofs.Texts

/-!
# Every patch is accounted for

On their way into the report patches are grouped by file, tried, undone where one of them fails or
the file cannot be written, and counted. No group is lost: a file that can be read has one record
for each of its patches (`patchFile_recorded`), and the groups together are the patches
(`perm_flatMap_specsFor`). No record is counted twice, since one that gives a reason is not one of a
patch that was applied (`count_results`). And the run comes to an end with a report: a probe that
was read has an outcome for every text (`Probe.total_of_passes`). `run_accounts_for_patches` puts
this together.
-/

namespace Remedy

/-! ## Nothing ends a run early -/

/-- The exceptions of a scan can be matched against every file. -/
def ScanOptions.Total (options : ScanOptions) : Prop :=
  ∀ e ∈ options.exceptions, ∀ file, ∃ answer, Glob.matches? file e.pattern = .ok answer

theorem exists_scan_ok {options : ScanOptions} (h : options.Total) (t file : Text) :
    ∃ findings, Scan.scan options t file = .ok findings := by
  have hsuppressed (rule : Scan.Rule) : ∃ b, Scan.isSuppressed options file rule = .ok b := by
    refine exists_anyM_ok fun e he => ?_
    obtain ⟨answer, hanswer⟩ := h e he file
    exact ⟨_, by rw [hanswer]; rfl⟩
  obtain ⟨active, hactive⟩ : ∃ active, Scan.activeRules options t file = .ok active := by
    refine exists_filterM_ok fun rule _ => ?_
    obtain ⟨suppressed, hrule⟩ := hsuppressed rule
    exact ⟨_, by rw [hrule]; rfl⟩
  exact ⟨_, by rw [Scan.scan, hactive]; rfl⟩

open Checked Reading

/-- The flags that a plan may give all have a role in a test. -/
theorem testFlags_eq {flags : Option Text} (h : hasKnownFlags (flags.getD []) = true) :
    Marker.testFlags flags = flags.getD [] := by
  refine List.filter_eq_self.2 fun c hc => ?_
  have hletters : ("imsu" : Text).all (fun c => !(c == 'g' || c == 'y')) = true := by decide
  exact List.all_eq_true.1 hletters c (by simpa using List.all_eq_true.1 h c hc)

theorem Marker.exists_compile_ok {d : Data} {marker : Marker} (h : (Marker.read d).Passes marker) :
    ∃ tester, marker.compile = .ok tester := by
  obtain hliteral | hregex := passes_of_orElse h
  · obtain ⟨t, -, rfl⟩ := Checked.passes_map.1 hliteral
    exact ⟨_, rfl⟩
  · obtain ⟨_, -, hregex⟩ := passes_required.1 hregex
    obtain ⟨hparts, hformed⟩ := passes_guard.1 (Reading.passes_map hregex)
    simp only [passes_seq, Checked.passes_map, passes_member, passes_optional] at hparts
    obtain ⟨_, flags, ⟨source, -, rfl⟩, hflags, rfl⟩ := hparts
    have hknown : hasKnownFlags (flags.getD []) = true := by
      obtain ⟨-, rfl⟩ | ⟨_, known, -, hknown, rfl⟩ := hflags
      · rfl
      · exact (passes_guard.1 hknown).2
    cases hcompile : Pattern.compile source (flags.getD []) with
    | error fault =>
      simp [Marker.isWellFormed, Pattern.compile?, hcompile, Except.toOption] at hformed
    | ok expression =>
      exact ⟨_, by rw [Marker.compile, Marker.tester, testFlags_eq hknown, hcompile]; rfl⟩

/-- The probe has an outcome for every text. -/
def Probe.Total (probe : Probe) : Prop := ∀ t, ∃ v, verify t probe = .ok v

theorem Probe.total_of_passes {d : Data} {probe : Probe} (h : (Probe.read d).Passes probe) :
    probe.Total := by
  intro t
  have h := (passes_guard.1 (Reading.passes_map h)).1
  simp only [passes_seq, Checked.passes_map, passes_member] at h
  obtain ⟨_, _, ⟨_, absent, ⟨_, present, ⟨_, -, rfl⟩, hpresent, rfl⟩, habsent, rfl⟩, -, rfl⟩ := h
  obtain ⟨ps, hps⟩ := exists_mapM_ok
    (forall_of_passes_list (fun _ _ => Marker.exists_compile_ok) hpresent)
  obtain ⟨qs, hqs⟩ := exists_mapM_ok
    (forall_of_passes_list (fun _ _ => Marker.exists_compile_ok) habsent)
  exact ⟨_, by rw [verify, hps, hqs]; rfl⟩

theorem exists_diskVerify_ok {probe : Probe} (h : probe.Total) (disk : Disk) (root : Text) :
    ∃ v, disk.verify root probe = .ok v := by
  unfold Disk.verify
  split
  · exact h _
  · exact ⟨_, rfl⟩

theorem exists_verifyAll_ok {probes : List Probe} (h : ∀ probe ∈ probes, probe.Total) (disk : Disk)
    (root file : Text) (pending : Option Text) :
    ∃ v, verifyAll disk root file probes pending = .ok v := by
  unfold verifyAll
  split_ifs
  · exact ⟨_, rfl⟩
  · refine exists_map_ok (exists_mapM_ok fun probe hprobe => ?_)
    cases pending with
    | some t => exact h probe hprobe t
    | none => exact exists_diskVerify_ok (h probe hprobe) disk root

/-! ## Records of a file -/

theorem recordedAs_missingTarget (spec : PatchSpec) : spec.RecordedAs (missingTarget spec) :=
  ⟨rfl, rfl, rfl, by simp [missingTarget]⟩

theorem PatchSpec.RecordedAs.writeFailed {spec : PatchSpec} {result : PatchResult}
    (h : spec.RecordedAs result) (failure : WriteFailure) :
    spec.RecordedAs (writeFailed failure result) := by
  unfold Remedy.writeFailed
  split_ifs
  · exact ⟨h.id_eq, h.file_eq, h.label_eq, by simp⟩
  · exact h

section File

variable {ctx : RunContext} {disk : Disk} {path file : Text} {specs : List PatchSpec}

theorem patchSource_recorded {source : Source} {findings : List Finding}
    (hfindings : Scan.scan ctx.scan (source.encoding.ofSource source.text) file = .ok findings) :
    List.Forall₂ PatchSpec.RecordedAs (specs.map fun spec => spec.toSource source.encoding)
      (patchSource ctx disk path file specs source).2.patches := by
  have happlied := applyPatches_recorded source.text
    (specs.map fun spec => spec.toSource source.encoding)
  unfold patchSource
  rw [hfindings]
  dsimp only
  split_ifs with hspecs
  · obtain rfl := List.isEmpty_iff.1 hspecs
    exact .nil
  · exact happlied
  · exact happlied
  · split
    · exact happlied
    · rw [List.forall₂_map_right_iff]
      exact happlied.imp fun _ _ h => h.writeFailed _

theorem missing_recorded (specs : List PatchSpec) :
    List.Forall₂ PatchSpec.RecordedAs specs (specs.map missingTarget) := by
  rw [List.forall₂_map_right_iff, List.forall₂_same]
  exact fun spec _ => recordedAs_missingTarget spec

variable (disk path specs) in
/-- There is one record for each patch, in order, in the encoding of the file. -/
theorem patchFile_recorded (hscan : ctx.scan.Total) (hreads : ctx.Reads file)
    (probes : List Probe) :
    ∃ encoding, List.Forall₂ PatchSpec.RecordedAs (specs.map fun spec => spec.toSource encoding)
      (patchFile ctx disk path file specs probes).2.patches := by
  cases hfile : disk.isFile path with
  | false =>
    refine ⟨.utf8, ?_⟩
    rw [patchFile_of_not_isFile probes hfile]
    simpa only [PatchSpec.toSource_utf8, List.map_id'] using missing_recorded specs
  | true =>
    obtain ⟨content, hread⟩ := Disk.isFile_iff.1 hfile
    obtain ⟨_, hfindings⟩ := exists_scan_ok hscan _ file
    rw [patchFile_of_read probes hreads hread]
    exact ⟨_, patchSource_recorded hfindings⟩

end File

/-- What tells patches from one another. -/
def PatchSpec.key (spec : PatchSpec) : Text × Text := (spec.id, spec.targetFile)

def PatchResult.key (result : PatchResult) : Text × Text := (result.patchId, result.targetFile)

/-- A report has one record for each of some patches, in order, and each gives a reason if and only
if its patch was not applied. -/
structure FileReport.Covers (report : FileReport) (specs : List PatchSpec) : Prop where
  keys_eq : report.patches.map PatchResult.key = specs.map PatchSpec.key
  applied_iff : ∀ result ∈ report.patches, result.applied = true ↔ result.reason = none

theorem keys_eq_of_recorded {encoding : SourceEncoding} {specs : List PatchSpec}
    {results : List PatchResult} (h : List.Forall₂ PatchSpec.RecordedAs
      (specs.map fun spec => spec.toSource encoding) results) :
    results.map PatchResult.key = specs.map PatchSpec.key ∧
      ∀ result ∈ results, result.applied = true ↔ result.reason = none := by
  rw [List.forall₂_map_left_iff] at h
  induction h with
  | nil => simp
  | cons hrecord _ ih =>
    refine ⟨?_, List.forall_mem_cons.2 ⟨hrecord.applied_iff, ih.2⟩⟩
    rw [List.map_cons, List.map_cons, ih.1]
    exact congrArg (· :: _) (Prod.ext hrecord.id_eq hrecord.file_eq)

section Runs

variable {ctx : RunContext} {patches : List PatchSpec} {probes : List Probe}

theorem processFile_covers (hscan : ctx.scan.Total) (disk : Disk) (file : Text)
    (specs : List PatchSpec) (hprobes : ∀ probe ∈ probes, probe.Total) :
    ∃ report, (processFile ctx disk file specs probes).2 = .ok report ∧ report.file = file ∧
      (ctx.Reads file → report.Covers specs) := by
  have hrecorded (hreads : ctx.Reads file) :=
    patchFile_recorded disk (Path.join ctx.root file) specs hscan hreads probes
  rcases hpatch : patchFile ctx disk (Path.join ctx.root file) file specs probes with
    ⟨after, patching⟩
  rw [hpatch] at hrecorded
  have hfindings (text : Option Text) :
      ∃ findings, findingsIn ctx.scan file text = .ok findings := by
    cases text with
    | some t => exact exists_scan_ok hscan t file
    | none => exact ⟨[], rfl⟩
  rw [processFile_eq ctx hpatch]
  generalize ctx.seen after (Path.join ctx.root file) file = seen
  obtain ⟨findings, hfindings⟩ := hfindings
    (patching.pending <|> seen.readText? (Path.join ctx.root file))
  obtain ⟨v, hv⟩ := exists_verifyAll_ok hprobes seen ctx.root file patching.pending
  dsimp only
  rw [reportOn, hfindings, hv]
  refine ⟨_, rfl, rfl, fun hreads => ?_⟩
  obtain ⟨encoding, hrecorded⟩ := hrecorded hreads
  obtain ⟨hkeys, happlied⟩ := keys_eq_of_recorded hrecorded
  exact ⟨hkeys, happlied⟩

theorem processFiles_covers (hscan : ctx.scan.Total) (hprobes : ∀ probe ∈ probes, probe.Total)
    (disk : Disk) (files : List Text) :
    ∃ reports, (processFiles ctx patches probes disk files).2 = .ok reports ∧
      reports.map FileReport.file = files ∧
      ∀ r ∈ reports, ctx.Reads r.file → r.Covers (specsFor patches r.file) := by
  induction files generalizing disk with
  | nil => exact ⟨[], rfl, rfl, by simp⟩
  | cons file files ih =>
    have hchecks : ∀ probe ∈ probes.filter (fun probe => probe.file == file), probe.Total :=
      fun probe hprobe => hprobes probe (List.mem_of_mem_filter hprobe)
    obtain ⟨report, hreport, rfl, hcovers⟩ :=
      processFile_covers hscan disk file (specsFor patches file) hchecks
    rcases hstep : processFile ctx disk report.file (specsFor patches report.file)
      (probes.filter fun probe => probe.file == report.file) with ⟨next, outcome⟩
    obtain rfl : outcome = .ok report := by rwa [hstep] at hreport
    obtain ⟨reports, hreports, rfl, hrest⟩ := ih next
    refine ⟨report :: reports, ?_, rfl, List.forall_mem_cons.2 ⟨hcovers, hrest⟩⟩
    unfold processFiles
    rw [specsFor] at hstep
    simp only [hstep, hreports]
    rfl

/-! ## Groups -/

/-- Every patch is in the group of one file. -/
theorem perm_flatMap_specsFor {files : List Text} (hfiles : files.Nodup)
    (hcovered : ∀ spec ∈ patches, spec.targetFile ∈ files) :
    (files.flatMap (specsFor patches)).Perm patches :=
  perm_flatMap_filter hfiles hcovered

/-- A patch that was applied is not one that was applied before. -/
theorem count_results {results : List PatchResult}
    (h : ∀ result ∈ results, result.applied = true ↔ result.reason = none) :
    results.countP PatchResult.applied + results.countP PatchResult.isAlreadyApplied +
      results.countP (fun p => !p.applied && !p.isAlreadyApplied) = results.length := by
  induction results with
  | nil => rfl
  | cons result results ih =>
    rw [List.forall_mem_cons] at h
    have ih := ih h.2
    have honce : result.applied = true → result.isAlreadyApplied = false := fun happlied => by
      simp [PatchResult.isAlreadyApplied, h.1.1 happlied]
    simp only [List.countP_cons, List.length_cons]
    cases happlied : result.applied with
    | true =>
      simp only [honce happlied, Bool.not_true, Bool.false_and, Bool.false_eq_true, if_true,
        if_false]
      omega
    | false =>
      cases result.isAlreadyApplied <;> simp <;> omega

/-- A run ends with a report on the files that patches and probes name, in the order of their code
units and each of them once, and the verifications add up to the files. In a file that can be read
every patch has one record, which stands under its file and in the order of the plan. If this holds
of all files, no patch is without a record, and the counts in the summary add up to the patches. -/
theorem run_accounts_for_patches (disk : Disk) (planName : Text) (patches : List PatchSpec)
    (hprobes : ∀ probe ∈ probes, ∃ d, (Probe.read d).result = .ok probe)
    (hglobs : ctx.scan.Total) :
    ∃ report, (remediate ctx disk planName patches probes).2 = .ok report ∧
      (report.files.map FileReport.file).Pairwise (· < ·) ∧
      (∀ name, name ∈ report.files.map FileReport.file ↔
        (∃ spec ∈ patches, spec.targetFile = name) ∨ ∃ probe ∈ probes, probe.file = name) ∧
      report.summary.verificationsPassed + report.summary.verificationsFailed =
        report.files.length ∧
      (∀ r ∈ report.files, ctx.Reads r.file →
        r.patches.map PatchResult.key = (specsFor patches r.file).map PatchSpec.key) ∧
      ((∀ file ∈ report.files.map FileReport.file, ctx.Reads file) →
        ((report.files.flatMap FileReport.patches).map PatchResult.key).Perm
          (patches.map PatchSpec.key) ∧
        report.summary.patchesApplied + report.summary.patchesAlreadyApplied +
          report.summary.patchesFailed = patches.length) := by
  obtain ⟨reports, hreports, hfiles, hcovers⟩ := processFiles_covers hglobs
    (fun probe hprobe => by
      obtain ⟨d, hd⟩ := hprobes probe hprobe
      exact Probe.total_of_passes (result_eq_ok_iff.1 hd)) disk (touchedFiles patches probes)
  have hnodup := nodup_touchedFiles patches probes
  have hgroups : ((touchedFiles patches probes).flatMap (specsFor patches)).Perm patches :=
    perm_flatMap_specsFor hnodup fun spec hspec => mem_touchedFiles.2 (.inl ⟨spec, hspec, rfl⟩)
  refine ⟨runReport ctx planName reports, ?_, ?_, ?_, ?_,
    fun r hr hreads => (hcovers r hr hreads).keys_eq, fun hreads => ?_⟩
  · exact congrArg (Except.map (runReport ctx planName)) hreports
  · exact hfiles ▸ Text.pairwise_lt_sort hnodup
  · exact fun name => hfiles ▸ mem_touchedFiles
  · have hcount := List.length_eq_countP_add_countP (l := reports) fun r => r.verification.passed
    simpa [runReport, summarizeRun] using hcount.symm
  · have hcovers (r : FileReport) (hr : r ∈ reports) : r.Covers (specsFor patches r.file) :=
      hcovers r hr (hreads r.file (List.mem_map_of_mem hr))
    have hkeys : ((reports.flatMap FileReport.patches).map PatchResult.key).Perm
        (patches.map PatchSpec.key) := by
      have heq : (reports.flatMap FileReport.patches).map PatchResult.key =
          ((reports.map FileReport.file).flatMap (specsFor patches)).map PatchSpec.key := by
        rw [List.map_flatMap, List.flatMap_map, List.map_flatMap]
        exact List.flatMap_congr fun r hr => (hcovers r hr).keys_eq
      rw [heq, hfiles]
      exact hgroups.map _
    refine ⟨hkeys, (count_results fun result hresult => ?_).trans (by simpa using hkeys.length_eq)⟩
    obtain ⟨r, hr, hmem⟩ := List.mem_flatMap.1 hresult
    exact (hcovers r hr).applied_iff result hmem

end Runs

/-- A probe with a regular expression, as a plan gives it. -/
def letterDocument : Data := .map [("file", .text "b.c"),
  ("expected_present", .list [.map [("regex", .text "IN."), ("flags", .text "i")]])]

def letterProbe : Probe := ⟨"b.c", [.regex "IN." (some "i")], [], []⟩

/-- Headers of a library are not scanned. -/
def exceptContext : RunContext :=
  { plainContext with scan := ⟨[], [⟨"lib/*.h", ["*"], none⟩]⟩ }

set_option maxRecDepth 4000 in
/-- Two patches for one file, one of which fails, a patch for a file that is not there, and a probe
for a file without patches. -/
theorem run_accounts_for_patches_mixed :
    let patches := [oneLinePatch "c.c", oneLinePatch "a.c", absentPatch]
    (Probe.read letterDocument).result = .ok letterProbe ∧ exceptContext.scan.Total ∧
      ∃ report, (remediate exceptContext twinDisk "plan" patches [letterProbe]).2 = .ok report ∧
        (report.files.flatMap FileReport.patches).length = 3 ∧
        report.summary.patchesApplied + report.summary.patchesAlreadyApplied +
          report.summary.patchesFailed = 3 := by
  intro patches
  have hprobe : (Probe.read letterDocument).result = .ok letterProbe := rfl
  have hglobs : exceptContext.scan.Total := by
    intro e he file
    obtain rfl := List.mem_singleton.1 he
    exact ⟨_, rfl⟩
  obtain ⟨report, hreport, -, -, -, -, hcounts⟩ :=
    @run_accounts_for_patches exceptContext [letterProbe] twinDisk "plan" patches
      (List.forall_mem_singleton.2 ⟨_, hprobe⟩) hglobs
  obtain ⟨hkeys, hsum⟩ := hcounts fun _ _ => rfl
  exact ⟨hprobe, hglobs, report, hreport, by simpa [patches] using hkeys.length_eq, hsum⟩

end Remedy
