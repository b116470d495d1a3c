import Remedy.Proofs.AbsentMarkers
import Remedy.Proofs.FileNames
import Remedy.Remediation.Status

/-!
# Exit codes and status lines

The status of a file is computed from flags that are set while it is processed, and its lines from
what is recorded about it. They tell the same: a set of patches is marked as failed exactly when one
of them is recorded with a failure (`patchFile_failed`), and a verification has not passed exactly
when it names a marker or an error (`verifyAll_explained`). So a file has a failing line exactly
when its status is not ok (`processFile_all_ok`). `run_exitCode_and_lines` says it of whole runs and
of the code they exit with.
-/

namespace Remedy

/-! ## Patches -/

/-- The patch was applied, now or before. -/
def PatchResult.isOk (result : PatchResult) : Bool := result.applied || result.isAlreadyApplied

theorem PatchResult.statusLine_ok (result : PatchResult) : result.statusLine.ok = result.isOk := by
  unfold statusLine isOk
  split_ifs <;> simp_all

theorem PatchResult.isOk_of (spec : PatchSpec) (outcome : Except PatchFailure Patched) :
    (PatchResult.of spec outcome).isOk = !isHardFailure outcome := by
  rcases outcome with failure | patched
  · cases hcode : failure.code <;>
      simp [isOk, PatchResult.of, isAlreadyApplied, isHardFailure, hcode, FailureCode.reason]
  · simp [isOk, PatchResult.of, isHardFailure]

theorem attemptPatches_failed (t : Text) (specs : List PatchSpec) :
    (attemptPatches t specs).2.2 = !(attemptPatches t specs).2.1.all PatchResult.isOk := by
  induction specs generalizing t with
  | nil => rfl
  | cons spec specs ih => simp [attemptPatches, PatchResult.isOk_of, ih]

theorem PatchResult.rollBack_of_not_isOk {result : PatchResult} (h : result.isOk = false) :
    result.rollBack = result := by
  simp [rollBack, (Bool.or_eq_false_iff.mp h).1]

theorem not_all_isOk {results : List PatchResult} {result : PatchResult}
    (hmem : result ∈ results) (h : result.isOk = false) :
    (!results.all PatchResult.isOk) = true := by
  rw [Bool.not_eq_true', List.all_eq_false]
  exact ⟨result, hmem, by simp [h]⟩

/-- Undoing what was applied leaves the patch that failed on record. -/
theorem applyPatches_failed_eq (t : Text) (specs : List PatchSpec) :
    (applyPatches t specs).failed = !(applyPatches t specs).results.all PatchResult.isOk := by
  cases hfailed : (attemptPatches t specs).2.2 with
  | false =>
    rw [applyPatches_of_not_failed hfailed, ← attemptPatches_failed, hfailed]
  | true =>
    rw [applyPatches_of_failed hfailed]
    rw [attemptPatches_failed, Bool.not_eq_true', List.all_eq_false] at hfailed
    obtain ⟨result, hresult, hnot⟩ := hfailed
    have hfailing : result.isOk = false := by simpa using hnot
    exact (not_all_isOk (List.mem_map.mpr
      ⟨result, hresult, PatchResult.rollBack_of_not_isOk hfailing⟩) hfailing).symm

theorem writeFailed_isOk (failure : WriteFailure) {result : PatchResult}
    (h : result.applied = true) : (writeFailed failure result).isOk = false := by
  simp [PatchResult.isOk, writeFailed, h, PatchResult.isAlreadyApplied]

section File

variable {ctx : RunContext} {disk : Disk} {path file : Text} {specs : List PatchSpec}

theorem patchSource_failed (source : Source) :
    (patchSource ctx disk path file specs source).2.failed =
      !(patchSource ctx disk path file specs source).2.patches.all PatchResult.isOk := by
  unfold patchSource
  dsimp only
  split
  · rfl
  · split_ifs with hspecs hchanged hdry
    · rfl
    · exact applyPatches_failed_eq _ _
    · exact applyPatches_failed_eq _ _
    · split
      · exact applyPatches_failed_eq _ _
      · -- a set that changes the text has applied a patch, which is now one that was not written
        rename_i failure _
        obtain ⟨result, hresult, happlied⟩ :=
          List.any_eq_true.mp (applyPatches_of_changed (by simpa using hchanged)).2
        exact (not_all_isOk (List.mem_map_of_mem hresult)
          (writeFailed_isOk failure happlied)).symm

variable (ctx disk path file specs) in
theorem patchFile_failed (probes : List Probe) :
    (patchFile ctx disk path file specs probes).2.failed =
      !(patchFile ctx disk path file specs probes).2.patches.all PatchResult.isOk := by
  rcases file_cases ctx disk path file with hfile | ⟨error, hfile, herror⟩ | ⟨old, hreads, hread⟩
  · have hmissing (spec : PatchSpec) : (missingTarget spec).isOk = false := rfl
    rw [patchFile_of_not_isFile probes hfile]
    cases specs <;> simp [hmissing]
  · -- an error was caught before a patch was tried
    rw [patchFile_of_readError probes hfile herror]
    rfl
  · rw [patchFile_of_read probes hreads hread]
    exact patchSource_failed _

end File

/-! ## Verifications -/

/-- An error is shown unless it is empty. -/
def isShown (error : Option Text) : Bool := error.any fun e => !e.isEmpty

namespace Verification

/-- No marker is named, and no error. -/
def isClean (v : Verification) : Bool :=
  v.missingMarkers.isEmpty && v.forbiddenMatches.isEmpty && !isShown v.error

/-- A verification that has not passed names a marker or an error, and one that has passed names
none. -/
def Explained (v : Verification) : Prop := v.passed = v.isClean

end Verification

theorem verify_explained {t : Text} {probe : Probe} {v : Verification}
    (h : verify t probe = .ok v) : v.Explained := by
  obtain ⟨present, absent, -, -, rfl⟩ := verify_ok h
  simp [Verification.Explained, Verification.isClean, verifyWith, isShown]

theorem unreadable_explained (probe : Probe) : (unreadable probe).Explained := by
  have hshown : isShown (some ("Cannot read " ++ probe.file)) = true := rfl
  simp [Verification.Explained, Verification.isClean, unreadable, hshown]

theorem diskVerify_explained {disk : Disk} {root : Text} {probe : Probe} {v : Verification}
    (h : disk.verify root probe = .ok v) : v.Explained := by
  unfold Disk.verify at h
  split at h
  · exact verify_explained h
  · obtain rfl := Except.ok.inj h
    exact unreadable_explained probe

theorem isShown_eq_false_iff {error : Option Text} :
    isShown error = false ↔ (error.filter fun e => !e.isEmpty) = none := by
  rcases error with _ | _ | _ <;> simp [isShown]

theorem intercalate_ne_nil {errors : List Text} (hne : errors ≠ [])
    (h : ∀ e ∈ errors, e ≠ []) : List.intercalate ("; " : Text) errors ≠ [] := by
  obtain ⟨e, rest, rfl⟩ := List.exists_cons_of_ne_nil hne
  have he := h e List.mem_cons_self
  cases rest with
  | nil => simpa using he
  | cons => simp [List.intercalate_cons_cons, he]

/-- An error is shown for several outcomes if one is shown for one of them. -/
theorem isShown_mergeOutcomes (file : Text) (outcomes : List Verification) :
    isShown (mergeOutcomes file outcomes).error = outcomes.any fun o => isShown o.error := by
  set errors := outcomes.filterMap fun o => o.error.filter fun e => !e.isEmpty with herrors
  have hmerged : (mergeOutcomes file outcomes).error =
      if errors.isEmpty then none else some (List.intercalate ("; " : Text) errors) := rfl
  have hnone : errors = [] ↔ (outcomes.any fun o => isShown o.error) = false := by
    simp only [herrors, List.filterMap_eq_nil_iff, ← isShown_eq_false_iff, List.any_eq_false,
      Bool.not_eq_true]
  rw [hmerged]
  by_cases hnil : errors = []
  · rw [if_pos (by simp [hnil]), hnone.1 hnil]
    rfl
  · have hshown : ∀ e ∈ errors, e ≠ [] := by
      intro e he
      obtain ⟨o, -, ho⟩ := List.mem_filterMap.mp he
      simpa using (Option.filter_eq_some_iff.mp ho).2
    have hany : (outcomes.any fun o => isShown o.error) = true := by
      simpa using mt hnone.2 hnil
    rw [if_neg (by simpa using hnil), hany]
    simpa [isShown] using intercalate_ne_nil hnil hshown

theorem mergeOutcomes_explained (file : Text) {outcomes : List Verification}
    (h : ∀ o ∈ outcomes, o.Explained) : (mergeOutcomes file outcomes).Explained := by
  have hclean : ∀ o ∈ outcomes, (o.passed = true ↔
      o.missingMarkers = [] ∧ o.forbiddenMatches = [] ∧ isShown o.error = false) := by
    intro o ho
    rw [h o ho]
    simp [Verification.isClean, and_assoc]
  rw [Verification.Explained, Bool.eq_iff_iff, Verification.isClean, isShown_mergeOutcomes]
  simp only [mergeOutcomes, List.all_eq_true, Bool.and_eq_true, Bool.not_eq_true',
    List.isEmpty_iff, List.flatMap_eq_nil_iff, List.any_eq_false, Bool.not_eq_true]
  constructor
  · intro hpassed
    have hall := fun o ho => (hclean o ho).1 (hpassed o ho)
    exact ⟨⟨fun o ho => (hall o ho).1, fun o ho => (hall o ho).2.1⟩, fun o ho => (hall o ho).2.2⟩
  · rintro ⟨⟨hmissing, hforbidden⟩, herrors⟩ o ho
    exact (hclean o ho).2 ⟨hmissing o ho, hforbidden o ho, herrors o ho⟩

theorem verifyAll_explained {disk : Disk} {root file : Text} {probes : List Probe}
    {pending : Option Text} {v : Verification}
    (h : verifyAll disk root file probes pending = .ok v) : v.Explained := by
  unfold verifyAll at h
  split_ifs at h
  · obtain rfl := Except.ok.inj h
    rfl
  · obtain ⟨outcomes, hmap, rfl⟩ := exists_of_map_eq_ok h
    refine mergeOutcomes_explained file (forall_of_mapM_ok (fun probe outcome ho => ?_) hmap)
    cases pending with
    | some t => exact verify_explained ho
    | none => exact diskVerify_explained ho

/-! ## Files -/

theorem all_ok_errorLines (label : Text) (error : Option Text) :
    (errorLines label error).all StatusLine.ok = !isShown error := by
  rcases error with _ | _ | _ <;> rfl

theorem Verification.all_ok_statusLines (v : Verification) :
    v.statusLines.all StatusLine.ok =
      (v.missingMarkers.isEmpty && v.forbiddenMatches.isEmpty) := by
  cases hm : v.missingMarkers <;> cases hf : v.forbiddenMatches <;> simp [statusLines, hm, hf]

/-- The line that is added when all is well changes nothing about that. -/
theorem FileReport.all_ok_statusLines (report : FileReport) :
    report.statusLines.all StatusLine.ok =
      (report.patches.all PatchResult.isOk && report.verification.isClean &&
        !isShown report.error) := by
  have hpatches : (report.patches.map PatchResult.statusLine).all StatusLine.ok =
      report.patches.all PatchResult.isOk := by
    simp [List.all_map, Function.comp_def, PatchResult.statusLine_ok]
  have hlines : report.statusLines.all StatusLine.ok =
      (report.patches.map PatchResult.statusLine ++ report.verification.statusLines ++
        errorLines "verification error: " report.verification.error ++
        errorLines "error: " report.error).all StatusLine.ok := by
    unfold statusLines
    dsimp only
    split_ifs with h
    · rw [List.all_append, h]
      rfl
    · rfl
  rw [hlines, List.all_append, List.all_append, List.all_append, hpatches,
    Verification.all_ok_statusLines, all_ok_errorLines, all_ok_errorLines, Verification.isClean]
  simp only [Bool.and_assoc]

theorem fileStatus_eq_ok_iff {patching : Patching} {v : Verification} :
    fileStatus patching v = .ok ↔
      (!patching.failed && v.passed && !isShown patching.error) = true := by
  unfold fileStatus isShown
  split_ifs <;> simp_all

theorem processFile_all_ok {ctx : RunContext} {disk : Disk} {file : Text}
    {specs : List PatchSpec} {probes : List Probe} {report : FileReport}
    (h : (processFile ctx disk file specs probes).2 = .ok report) :
    report.statusLines.all StatusLine.ok = true ↔ report.status = .ok := by
  rcases hpatch : patchFile ctx disk (Path.join ctx.root file) file specs probes with
    ⟨after, patching⟩
  rw [processFile_eq ctx hpatch] at h
  obtain ⟨_, v, -, hv, hstatus, -, hpatches, hverification, herror⟩ := exists_of_reportOn h
  have hfailed := patchFile_failed ctx disk (Path.join ctx.root file) file specs probes
  rw [hpatch] at hfailed
  have hexplained : v.passed = v.isClean := verifyAll_explained hv
  rw [report.all_ok_statusLines, hstatus, fileStatus_eq_ok_iff, hpatches, hverification, herror,
    hfailed, hexplained, Bool.not_not]

/-! ## Runs -/

theorem FileStatus.exitCode_eq_zero_iff {status : FileStatus} :
    status.exitCode = 0 ↔ status = .ok := by
  cases status <;> simp [exitCode]

theorem FileStatus.exitCode_worse (a b : FileStatus) :
    (a.worse b).exitCode = max a.exitCode b.exitCode := by
  unfold worse
  split_ifs with h <;> omega

theorem exitCode_foldl_worse (reports : List FileReport) (worst : FileStatus) :
    (reports.foldl (fun worst r => worst.worse r.status) worst).exitCode =
      max worst.exitCode ((reports.map fun r => r.status.exitCode).foldr max 0) := by
  induction reports generalizing worst with
  | nil => simp
  | cons r reports ih =>
    rw [List.foldl_cons, ih, FileStatus.exitCode_worse, List.map_cons, List.foldr_cons,
      Nat.max_assoc]

theorem runReport_exitCode (ctx : RunContext) (planName : Text) (reports : List FileReport) :
    (runReport ctx planName reports).exitCode =
      (reports.map fun r => r.status.exitCode).foldr max 0 := by
  rw [runReport, exitCode_foldl_worse]
  exact Nat.zero_max _

theorem foldr_max_eq_zero_iff {codes : List Nat} : codes.foldr max 0 = 0 ↔ ∀ c ∈ codes, c = 0 := by
  induction codes with
  | nil => simp
  | cons c codes ih => rw [List.foldr_cons, Nat.max_eq_zero_iff, ih, List.forall_mem_cons]

theorem processFiles_all_ok {ctx : RunContext} {patches : List PatchSpec} {probes : List Probe}
    {disk : Disk} {files : List Text} {reports : List FileReport}
    (h : (processFiles ctx patches probes disk files).2 = .ok reports) :
    ∀ r ∈ reports, r.statusLines.all StatusLine.ok = true ↔ r.status = .ok := by
  -- each file is processed on the disk as the ones before it left it
  induction files generalizing disk reports with
  | nil =>
    obtain rfl : [] = reports := Except.ok.inj h
    simp
  | cons file files ih =>
    rw [processFiles] at h
    dsimp only at h
    split at h
    · cases h
    · rename_i after report hfile
      obtain ⟨rest, hrest, rfl⟩ := exists_of_map_eq_ok h
      exact List.forall_mem_cons.2 ⟨processFile_all_ok (congrArg Prod.snd hfile), ih hrest⟩

/-- A file of a run has a failing line exactly when its status is not ok. The run exits with the
greatest code of its files, which is 0 exactly when there is no failing line for any of them. -/
theorem run_exitCode_and_lines {ctx : RunContext} {disk after : Disk} {planName : Text}
    {patches : List PatchSpec} {probes : List Probe} {report : RunReport}
    (h : remediate ctx disk planName patches probes = (after, .ok report)) :
    (∀ file ∈ report.files, (∃ line ∈ file.statusLines, line.ok = false) ↔ file.status ≠ .ok) ∧
    (report.exitCode = 0 ↔ ∀ file ∈ report.files, ∀ line ∈ file.statusLines, line.ok = true) ∧
    report.exitCode = (report.files.map fun file => file.status.exitCode).foldr max 0 := by
  obtain ⟨reports, hreports, rfl⟩ := exists_of_map_eq_ok (congrArg Prod.snd h)
  have hlines : ∀ file ∈ reports, (∀ line ∈ file.statusLines, line.ok = true) ↔
      file.status = .ok := by
    simpa only [List.all_eq_true] using processFiles_all_ok hreports
  refine ⟨fun file hfile => ?_, ?_, runReport_exitCode ctx planName reports⟩
  · rw [ne_eq, ← hlines file hfile]
    simp
  · rw [runReport_exitCode, foldr_max_eq_zero_iff, List.forall_mem_map]
    exact forall₂_congr fun file hfile =>
      FileStatus.exitCode_eq_zero_iff.trans (hlines file hfile).symm

/-- A probe for a file that is not there. -/
def strayProbe : Probe where
  file := "z.c"
  expectedPresent := [.literal "int"]
  expectedAbsent := []
  allowList := []

/-- Three files with the same content. -/
def threeFilesDisk : Disk where
  tree := .folder "r" (.file "a.c" emptyBody (.file "b.c" emptyBody
    (.file "d.c" emptyBody .empty))) .empty
  here := []

/-- There is no space for one file, and no permission to read another. -/
def troubledContext : RunContext :=
  { plainContext with
    interruption := fun file =>
      if file = "a.c" then some (.writing 3 ⟨.noSpace, .openFile "/r/a.c"⟩)
      else if file = "b.c" then some (.reading ⟨.accessDenied, .openFile "/r/b.c"⟩ true)
      else none }

/-- Patches for a file that cannot be written, for one that cannot be read and for one that is not
there, and two of which one fails. -/
def troubledPatches : List PatchSpec :=
  [oneLinePatch "a.c", oneLinePatch "b.c", oneLinePatch "c.c", oneLinePatch "d.c",
    { absentPatch with targetFile := "d.c" }]

set_option maxRecDepth 4000 in
/-- A patch that cannot be written, an error that is caught, a missing file, a set of patches that
is undone, and a probe that cannot read its file. -/
theorem run_exitCode_and_lines_troubled :
    ∃ report,
      (remediate troubledContext threeFilesDisk "plan" troubledPatches [strayProbe]).2 =
        .ok report ∧
      report.files.map FileReport.status =
        [.patchFailed, .error, .patchFailed, .patchFailed, .verificationFailed] ∧
      report.exitCode = 3 ∧
      (∃ file ∈ report.files, ⟨false, "error: EACCES: permission denied, open '/r/b.c'"⟩ ∈
        file.statusLines) ∧
      ∀ file ∈ report.files, ∃ line ∈ file.statusLines, line.ok = false := by
  obtain ⟨report, hok, hstatus, herror⟩ : ∃ report,
      (remediate troubledContext threeFilesDisk "plan" troubledPatches [strayProbe]).2 =
        .ok report ∧
      report.files.map FileReport.status =
        [.patchFailed, .error, .patchFailed, .patchFailed, .verificationFailed] ∧
      report.files[1]?.map FileReport.statusLines =
        some [⟨false, "error: EACCES: permission denied, open '/r/b.c'"⟩] := by
    rw [remediate, touchedFiles_of_pairwise (by decide)]
    exact ⟨_, rfl, rfl, rfl⟩
  obtain ⟨hlines, -, hcode⟩ := run_exitCode_and_lines (Prod.ext rfl hok)
  refine ⟨report, hok, hstatus, ?_, ?_, fun file hfile => (hlines file hfile).2 ?_⟩
  · have hcodes : (report.files.map fun file => file.status.exitCode) =
        (report.files.map FileReport.status).map FileStatus.exitCode := by
      rw [List.map_map]
      rfl
    rw [hcode, hcodes, hstatus]
    rfl
  · obtain ⟨file, hfile, hshown⟩ := Option.map_eq_some_iff.1 herror
    exact ⟨file, List.mem_of_getElem? hfile, by simp [hshown]⟩
  · have hmem := List.mem_map_of_mem (f := FileReport.status) hfile
    rw [hstatus] at hmem
    intro hok
    simp [hok] at hmem

end Remedy
