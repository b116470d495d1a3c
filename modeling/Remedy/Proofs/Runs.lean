import Remedy.Proofs.FileSteps
import Remedy.Proofs.Lists

/-!
# What a run does to the disk

A run is a chain of steps, one for each file (`processFiles_steps`). From what one step keeps
follows by induction on the chain what the whole run keeps: its shape (`Steps.sameShape`), and
whatever no patch is for (`Steps.frame`).
-/

namespace Remedy

/-- The patches of a plan that name a file. -/
def specsFor (patches : List PatchSpec) (file : Text) : List PatchSpec :=
  patches.filter fun spec => spec.targetFile == file

/-- Files processed one after another, each with the records of its patches. -/
inductive Steps (ctx : RunContext) (patches : List PatchSpec) :
    Disk → List (Text × List PatchResult) → Disk → Prop where
  | nil {disk : Disk} : Steps ctx patches disk [] disk
  | cons {disk next last : Disk} {file : Text} {results : List PatchResult}
      {records : List (Text × List PatchResult)}
      (hstep : FileOutcome ctx (specsFor patches file) (Path.join ctx.root file) disk next results)
      (hrest : Steps ctx patches next records last) :
      Steps ctx patches disk ((file, results) :: records) last

theorem RunContext.Fresh.of_sameShape {ctx : RunContext} {disk other : Disk} {file : Text}
    (h : ctx.Fresh disk file) (hshape : disk.SameShape other) : ctx.Fresh other file :=
  hshape.exists?_eq_false h

theorem exists_of_specsFor {patches : List PatchSpec} {file : Text}
    (h : specsFor patches file ≠ []) : ∃ spec ∈ patches, spec.targetFile = file := by
  obtain ⟨spec, hspec⟩ := List.exists_mem_of_ne_nil _ h
  obtain ⟨hmem, hfile⟩ := List.mem_filter.mp hspec
  exact ⟨spec, hmem, beq_iff_eq.mp hfile⟩

/-- What a report tells about its patches. -/
def FileReport.record (report : FileReport) : Text × List PatchResult :=
  (report.file, report.patches)

theorem processFiles_steps {ctx : RunContext} {patches : List PatchSpec} (probes : List Probe)
    (files : List Text) {disk : Disk}
    (hfresh : ∀ spec ∈ patches, ctx.Fresh disk spec.targetFile) :
    ∃ records, Steps ctx patches disk records (processFiles ctx patches probes disk files).1 ∧
      ∀ reports, (processFiles ctx patches probes disk files).2 = .ok reports →
        records = reports.map FileReport.record ∧ reports.map FileReport.file = files := by
  induction files generalizing disk with
  | nil =>
    refine ⟨[], .nil, fun reports h => ?_⟩
    obtain rfl : [] = reports := Except.ok.inj h
    exact ⟨rfl, rfl⟩
  | cons file files ih =>
    have hnew : specsFor patches file ≠ [] → ctx.Fresh disk file := by
      intro h
      obtain ⟨spec, hspec, rfl⟩ := exists_of_specsFor h
      exact hfresh spec hspec
    have houtcome := processFile_outcome (probes.filter fun probe => probe.file == file) hnew
    unfold processFiles
    dsimp only
    split
    · rename_i next fault hstep
      rw [specsFor, hstep] at houtcome
      exact ⟨_, .cons houtcome .nil, by simp⟩
    · rename_i next report hstep
      have hreport := processFile_report (by rw [hstep])
      rw [specsFor, hstep, ← hreport.2.1] at houtcome
      obtain ⟨records, hsteps, hreports⟩ :=
        ih fun spec hspec => (hfresh spec hspec).of_sameShape houtcome.sameShape
      refine ⟨(file, report.patches) :: records, .cons houtcome hsteps, fun reports h => ?_⟩
      obtain ⟨rest, hrest, rfl⟩ := exists_of_map_eq_ok h
      obtain ⟨hrecords, hfiles⟩ := hreports rest hrest
      simp [hrecords, hfiles, FileReport.record, hreport.1]

theorem remediate_steps {ctx : RunContext} {disk : Disk} {patches : List PatchSpec}
    (planName : Text) (probes : List Probe)
    (hfresh : ∀ spec ∈ patches, ctx.Fresh disk spec.targetFile) :
    ∃ records, Steps ctx patches disk records (remediate ctx disk planName patches probes).1 ∧
      ∀ report, (remediate ctx disk planName patches probes).2 = .ok report →
        records = report.files.map FileReport.record ∧
          report.files.map FileReport.file = touchedFiles patches probes := by
  obtain ⟨records, hsteps, hreports⟩ :=
    processFiles_steps probes (touchedFiles patches probes) hfresh
  refine ⟨records, hsteps, fun report h => ?_⟩
  obtain ⟨reports, hok, rfl⟩ := exists_of_map_eq_ok h
  exact hreports reports hok

/-- A step is on the file at a path, and has written it. -/
def writesTo (ctx : RunContext) (disk : Disk) (path : List Text)
    (record : Text × List PatchResult) : Bool :=
  record.2.any PatchResult.applied &&
    (disk.locate (Path.join ctx.root record.1)).toOption == some path

/-- The bytes of a file after the patches under one of its names. -/
def rewriteBy (patches : List PatchSpec) (content : Bytes) (record : Text × List PatchResult) :
    Bytes :=
  patchedBytes (specsFor patches record.1) content

theorem writesTo_eq_true_iff {ctx : RunContext} {disk : Disk} {path : List Text}
    {record : Text × List PatchResult} :
    writesTo ctx disk path record = true ↔ record.2.any PatchResult.applied = true ∧
      disk.locate (Path.join ctx.root record.1) = .ok path := by
  unfold writesTo
  cases disk.locate (Path.join ctx.root record.1) <;> simp [Except.toOption]

theorem writesTo_congr {ctx : RunContext} {disk other : Disk} {path : List Text}
    {record : Text × List PatchResult} (h : disk.SameShape other) :
    writesTo ctx disk path record = writesTo ctx other path record := by
  rw [Bool.eq_iff_iff, writesTo_eq_true_iff, writesTo_eq_true_iff, h.locate_iff]

namespace Steps

variable {ctx : RunContext} {patches : List PatchSpec} {disk last : Disk}
  {records : List (Text × List PatchResult)}

theorem sameShape (h : Steps ctx patches disk records last) : disk.SameShape last := by
  induction h with
  | nil => exact .refl _
  | cons hstep _ ih => exact hstep.sameShape.trans ih

theorem frame {path : List Text} (h : Steps ctx patches disk records last)
    (hpath : ∀ spec ∈ patches, disk.locate (Path.join ctx.root spec.targetFile) ≠ .ok path) :
    last.tree.node? path = disk.tree.node? path := by
  induction h with
  | nil => rfl
  | cons hstep _ ih =>
    rename_i disk next last file results records hrest
    rw [ih fun spec hspec => hstep.sameShape.locate_iff.not.mp (hpath spec hspec)]
    by_cases hspecs : specsFor patches file = []
    · rw [hstep.eq_of_nil hspecs]
    · obtain ⟨spec, hspec, rfl⟩ := exists_of_specsFor hspecs
      exact hstep.frame (hpath spec hspec)

/-- Where one patch for a file neither was applied nor applied before, none of them is. -/
theorem not_applied_of_not_settled (h : Steps ctx patches disk records last)
    {record : Text × List PatchResult} (hrecord : record ∈ records) {result : PatchResult}
    (hresult : result ∈ record.2) (hsettled : ¬ result.Settled) :
    record.2.any PatchResult.applied = false := by
  induction h with
  | nil => simp at hrecord
  | cons hstep _ ih =>
    obtain rfl | hrecord := List.mem_cons.mp hrecord
    · exact hstep.not_applied_of_not_settled hresult hsettled
    · exact ih hrecord

/-- The content of a file after some steps is that of its patch sets that were written, one after
another. -/
theorem content {path : List Text} {old : Bytes} (hdry : ctx.dryRun = false)
    (h : Steps ctx patches disk records last) (hold : disk.tree.node? path = some (.file old)) :
    last.tree.node? path = some (.file
      ((records.filter (writesTo ctx disk path)).foldl (rewriteBy patches) old)) := by
  induction h generalizing old with
  | nil => simpa using hold
  | @cons disk next last file results records hstep hrest ih =>
    have hwrites : writesTo ctx next path = writesTo ctx disk path := by
      funext record
      exact (writesTo_congr hstep.sameShape).symm
    by_cases hwrite : writesTo ctx disk path (file, results) = true
    · obtain ⟨happlied, hfile⟩ := writesTo_eq_true_iff.mp hwrite
      have hnext := hstep.content hdry ⟨hfile, hold⟩
      rw [if_pos happlied] at hnext
      rw [ih hnext, hwrites, List.filter_cons_of_pos hwrite, List.foldl_cons, rewriteBy]
    · have hnext : next.tree.node? path = some (.file old) := by
        by_cases hfile : disk.locate (Path.join ctx.root file) = .ok path
        · have hnone : results.any PatchResult.applied ≠ true := fun happlied =>
            hwrite (writesTo_eq_true_iff.mpr ⟨happlied, hfile⟩)
          rw [hstep.eq_of_not_applied (Bool.eq_false_iff.mpr hnone), hold]
        · exact (hstep.frame hfile).trans hold
      rw [ih hnext, hwrites, List.filter_cons_of_neg hwrite]

end Steps

end Remedy
