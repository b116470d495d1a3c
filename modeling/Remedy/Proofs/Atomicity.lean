import Remedy.Proofs.Runs

/-!
# A file is rewritten as a whole or not at all

`processFile_atomic_and_run_frame`: processing a file leaves the disk as it is, or rewrites the one
file by a set of patches that went through; a run changes no path but those its patches name. The
replacement of a file may be cut short at any point, and the name of the file that is written first
is taken to be free.
-/

namespace Remedy

/-- The file at the end of a path, and nothing else, has become what its patches make of it. -/
structure Rewritten (specs : List PatchSpec) (path : Text) (disk after : Disk)
    (target : List Text) (old : Bytes) : Prop where
  before : disk.HasFile path target old
  succeeded : (patchSet specs old).failed = false
  changed : (patchSet specs old).changed = true
  content : after.tree.node? target = some (.file (patchedBytes specs old))
  differs : patchedBytes specs old ≠ old
  frame : ∀ other, other ≠ target → after.tree.node? other = disk.tree.node? other
  here : after.here = disk.here

theorem FileOutcome.eq_or_rewritten {ctx : RunContext} {specs : List PatchSpec} {path : Text}
    {disk after : Disk} {results : List PatchResult}
    (h : FileOutcome ctx specs path disk after results) :
    after = disk ∨ ∃ target old, Rewritten specs path disk after target old := by
  cases h with
  | kept => exact .inl rfl
  | @rewritten target old htarget hchanged =>
    by_cases hsame : patchedBytes specs old = old
    · -- the text differs and the bytes do not: the file is replaced by a copy of itself
      left
      rw [hsame, Tree.putAt_eq_self htarget.held]
    · refine .inr ⟨target, old, htarget, (applyPatches_of_changed hchanged).1, hchanged, ?_, hsame,
        fun other hother => ?_, rfl⟩
      · rw [Tree.node?_putAt htarget.writable, if_pos rfl]
      · rw [Tree.node?_putAt htarget.writable, if_neg hother]

/-- A patch did not find its place, or the file could not be written. -/
def PatchResult.Failed (result : PatchResult) : Prop :=
  result.reason = some .anchorNotFound ∨ result.reason = some .anchorAmbiguous ∨
    result.reason = some .writeFailure

theorem PatchResult.Failed.not_settled {result : PatchResult} (h : result.Failed) :
    ¬ result.Settled := by
  rintro (⟨-, hreason⟩ | ⟨-, hreason⟩) <;> simp [PatchResult.Failed, hreason] at h

/-- A file is left alone or rewritten as a whole, nothing is left beside it, and its report tells
which of the two: a failed patch leaves the bytes, an applied one has reached them. A run touches no
path that its patches do not lead to. -/
theorem processFile_atomic_and_run_frame (ctx : RunContext) (disk : Disk) :
    (∀ file specs probes, ctx.Fresh disk file →
      let path := Path.join ctx.root file
      let step := processFile ctx disk file specs probes
      (step.1 = disk ∨ ∃ target old, Rewritten specs path disk step.1 target old) ∧
      ctx.Fresh step.1 file ∧
      ∀ report, step.2 = .ok report →
        ((∃ result ∈ report.patches, result.Failed) →
          step.1 = disk ∧ report.hashBefore = report.hashAfter) ∧
        (ctx.dryRun = false → report.patches.any PatchResult.applied = true →
          ∀ target old, disk.HasFile path target old →
            step.1.tree.node? target = some (.file (patchedBytes specs old)))) ∧
    (∀ planName patches probes, (∀ spec ∈ patches, ctx.Fresh disk spec.targetFile) →
      let after := (remediate ctx disk planName patches probes).1
      (∀ spec ∈ patches, ctx.Fresh after spec.targetFile) ∧
      ∀ path, (∀ spec ∈ patches, disk.locate (Path.join ctx.root spec.targetFile) ≠ .ok path) →
        after.tree.node? path = disk.tree.node? path) := by
  refine ⟨fun file specs probes hfresh => ?_, fun planName patches probes hfresh => ?_⟩
  · have houtcome : FileOutcome ctx specs (Path.join ctx.root file) disk _ _ :=
      processFile_outcome probes fun _ => hfresh
    refine ⟨houtcome.eq_or_rewritten, hfresh.of_sameShape houtcome.sameShape, ?_⟩
    intro report hreport
    obtain ⟨-, hpatches, hbefore, hafter⟩ := processFile_report hreport
    rw [← hpatches] at houtcome
    constructor
    · rintro ⟨result, hresult, hfailed⟩
      have hkept := houtcome.eq_of_not_applied
        (houtcome.not_applied_of_not_settled hresult hfailed.not_settled)
      have hreads := reads_of_mem_patches (hpatches ▸ hresult)
      exact ⟨hkept, by rw [hbefore hreads, hafter, hkept, RunContext.seen_eq hreads]⟩
    · intro hdry happlied target old htarget
      rw [houtcome.content hdry htarget, if_pos happlied]
  · obtain ⟨records, hsteps, -⟩ := remediate_steps planName probes hfresh
    exact ⟨fun spec hspec => (hfresh spec hspec).of_sameShape hsteps.sameShape,
      fun path hpath => hsteps.frame hpath⟩

/-! ## A small disk -/

def emptyBody : Bytes := Utf8.encode "int f(void)\n\x7b\n\x7d\n"

/-- Two files with the same content. -/
def twinDisk : Disk where
  tree := .folder "r" (.file "a.c" emptyBody (.file "b.c" emptyBody .empty)) .empty
  here := []

def plainContext : RunContext where
  now := "2020-01-02T03:04:05.678Z"
  root := "/r"
  tag := "4242.9f3c01ab"

/-- Whatever file is replaced, writing it stops after three bytes. -/
def stoppedContext : RunContext :=
  { plainContext with interruption := fun _ => some (.writing 3 ⟨.noEntry, .readFile⟩) }

theorem processFile_atomic_and_run_frame_stopped :
    stoppedContext.Fresh twinDisk "a.c" ∧
      ((processFile stoppedContext twinDisk "a.c" [oneLinePatch "a.c"] []).1 = twinDisk ∨
        ∃ target old, Rewritten [oneLinePatch "a.c"] "/r/a.c" twinDisk
          (processFile stoppedContext twinDisk "a.c" [oneLinePatch "a.c"] []).1 target old) ∧
      (remediate stoppedContext twinDisk "plan" [oneLinePatch "a.c"] []).1.tree.node? ["r", "b.c"] =
        some (.file emptyBody) := by
  have hfresh : stoppedContext.Fresh twinDisk "a.c" := by decide
  obtain ⟨hstep, hrun⟩ := processFile_atomic_and_run_frame stoppedContext twinDisk
  refine ⟨hfresh, (hstep "a.c" [oneLinePatch "a.c"] [] hfresh).1, ?_⟩
  refine (hrun "plan" [oneLinePatch "a.c"] [] (by simpa [oneLinePatch] using hfresh)).2
    ["r", "b.c"] ?_
  intro spec hspec hlocate
  obtain rfl := List.mem_singleton.mp hspec
  have hother : twinDisk.locate "/r/a.c" = .ok ["r", "a.c"] := rfl
  exact absurd (Except.ok.inj (hother.symm.trans hlocate)) (by decide)

end Remedy
