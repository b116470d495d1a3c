import Remedy.Remediation
import Remedy.Proofs.PatchSets
import Remedy.Proofs.Replacement

/-!
# What processing one file does to the disk

`FileOutcome` says all that it can do: the disk stays as it is, or the patches for the file rewrite
it and nothing else. `patchFile_outcome` is the one place where the code is opened; what a step
keeps is read off its outcome. `processFile_eq` takes the report apart: it is made from what became
of the file and from reading it again.
-/

namespace Remedy

/-- The name that the new content of a file is written under first is not taken. The tag in it is
drawn at random for that. -/
def RunContext.Fresh (ctx : RunContext) (disk : Disk) (file : Text) : Prop :=
  disk.exists? (Disk.besidePath ctx.tag (Path.join ctx.root file)) = false

instance (ctx : RunContext) (disk : Disk) (file : Text) : Decidable (ctx.Fresh disk file) :=
  inferInstanceAs (Decidable (_ = _))

/-- A file that is there can be read. -/
def RunContext.Reads (ctx : RunContext) (file : Text) : Prop := ctx.readError? file = none

instance (ctx : RunContext) (file : Text) : Decidable (ctx.Reads file) :=
  inferInstanceAs (Decidable (_ = _))

/-- Nothing is missing from the disk at a second look, unless the file is there and cannot be
read. -/
theorem RunContext.seen_eq {ctx : RunContext} {disk : Disk} {path file : Text}
    (h : disk.isFile path = true → ctx.Reads file) : ctx.seen disk path file = disk := by
  unfold seen
  split
  · rename_i error hinterruption
    rw [if_neg]
    intro hfile
    have hreads := h hfile
    simp [Reads, readError?, hinterruption, Interruption.readError?] at hreads
  · rfl

/-- The disk after a file was processed, with the records of its patches. Where the disk stays as it
is although a patch was applied, all went through and make no difference to the bytes. -/
inductive FileOutcome (ctx : RunContext) (specs : List PatchSpec) (path : Text) (disk : Disk) :
    Disk → List PatchResult → Prop where
  | kept {results : List PatchResult}
      (hsettled : results.any PatchResult.applied = true → ∀ result ∈ results, result.Settled)
      (hsame : ctx.dryRun = false → results.any PatchResult.applied = true →
        ∀ names old, disk.HasFile path names old → patchedBytes specs old = old) :
      FileOutcome ctx specs path disk disk results
  | rewritten {names : List Text} {old : Bytes} (htarget : disk.HasFile path names old)
      (hchanged : (patchSet specs old).changed = true) :
      FileOutcome ctx specs path disk
        { disk with tree := disk.tree.putAt names (.file (patchedBytes specs old)) }
        (patchSet specs old).results

section Outcome

variable {ctx : RunContext} {disk : Disk} {path file : Text} {specs : List PatchSpec}

theorem FileOutcome.kept_of_not_applied {results : List PatchResult}
    (h : ∀ result ∈ results, result.applied = false) :
    FileOutcome ctx specs path disk disk results := by
  have hnone : results.any PatchResult.applied = false := by simpa using h
  exact .kept (by simp [hnone]) (by simp [hnone])

theorem writeFailed_applied (failure : WriteFailure) (result : PatchResult) :
    (writeFailed failure result).applied = false := by
  unfold writeFailed
  split_ifs with h
  · rfl
  · simpa using h

theorem patchSource_outcome {names : List Text} {old : Bytes}
    (htarget : disk.HasFile path names old)
    (hnew : specs ≠ [] → disk.exists? (Disk.besidePath ctx.tag path) = false) :
    FileOutcome ctx specs path disk
      (patchSource ctx disk path file specs (Source.ofBytes old)).1
      (patchSource ctx disk path file specs (Source.ofBytes old)).2.patches := by
  unfold patchSource
  dsimp only
  split
  · exact .kept_of_not_applied (by simp)
  · -- nothing to apply, nothing changed, a dry run, and a file to write
    split_ifs with hspecs hchanged hdry
    · exact .kept_of_not_applied (by simp)
    · refine .kept applyPatches_settled_of_applied fun _ _ names' old' htarget' => ?_
      obtain ⟨rfl, rfl⟩ := htarget.unique htarget'
      exact patchedBytes_of_unchanged (by simpa [patchSet] using hchanged)
    · exact .kept applyPatches_settled_of_applied fun hdry' => by simp [hdry] at hdry'
    · have hreplace := Disk.replace_cases (ctx.interruption file) (patchedBytes specs old) htarget
        (hnew (by simpa using hspecs))
      simp only [patchedBytes, patchSet] at hreplace
      obtain ⟨failure, hreplace⟩ | hreplace := hreplace
      · rw [hreplace]
        refine .kept_of_not_applied fun result hresult => ?_
        obtain ⟨original, -, rfl⟩ := List.mem_map.mp hresult
        exact writeFailed_applied failure original
      · rw [hreplace]
        exact .rewritten htarget (by simpa [patchSet] using hchanged)

theorem patchSource_hashBefore (source : Source) :
    (patchSource ctx disk path file specs source).2.hashBefore =
      some (Digest.sha256 source.toBytes) := by
  unfold patchSource
  dsimp only
  split
  · rfl
  · split_ifs
    · rfl
    · rfl
    · rfl
    · split <;> rfl

theorem patchFile_of_not_isFile (probes : List Probe) (h : disk.isFile path = false) :
    patchFile ctx disk path file specs probes = (disk,
      { patches := specs.map missingTarget
        failed := !specs.isEmpty
        error := if specs.isEmpty && probes.isEmpty then some "file not found" else none }) := by
  simp [patchFile, h]

theorem patchFile_of_readError {error : FileError} (probes : List Probe)
    (hfile : disk.isFile path = true) (herror : ctx.readError? file = some error) :
    patchFile ctx disk path file specs probes = (disk, { error := some error.message }) := by
  simp [patchFile, hfile, RunContext.readSource, herror]

theorem patchFile_of_read {content : Bytes} (probes : List Probe) (hreads : ctx.Reads file)
    (hread : disk.read path = .ok content) :
    patchFile ctx disk path file specs probes =
      patchSource ctx disk path file specs (Source.ofBytes content) := by
  rw [RunContext.Reads] at hreads
  simp [patchFile, Disk.isFile_iff.mpr ⟨content, hread⟩, RunContext.readSource, hreads,
    Disk.readSource, hread, Except.map]

/-- A file is not there, or cannot be read, or is patched. -/
theorem file_cases (ctx : RunContext) (disk : Disk) (path file : Text) :
    disk.isFile path = false ∨
      (∃ error, disk.isFile path = true ∧ ctx.readError? file = some error) ∨
      ∃ content, ctx.Reads file ∧ disk.read path = .ok content := by
  cases hfile : disk.isFile path with
  | false => exact .inl rfl
  | true =>
    cases herror : ctx.readError? file with
    | some error => exact .inr (.inl ⟨error, rfl, rfl⟩)
    | none =>
      obtain ⟨content, hread⟩ := Disk.isFile_iff.mp hfile
      exact .inr (.inr ⟨content, herror, hread⟩)

theorem patchFile_outcome (probes : List Probe)
    (hnew : specs ≠ [] → disk.exists? (Disk.besidePath ctx.tag path) = false) :
    FileOutcome ctx specs path disk (patchFile ctx disk path file specs probes).1
      (patchFile ctx disk path file specs probes).2.patches := by
  rcases file_cases ctx disk path file with hfile | ⟨error, hfile, herror⟩ | ⟨old, hreads, hread⟩
  · rw [patchFile_of_not_isFile probes hfile]
    refine .kept_of_not_applied fun result hresult => ?_
    obtain ⟨spec, -, rfl⟩ := List.mem_map.mp hresult
    rfl
  · rw [patchFile_of_readError probes hfile herror]
    exact .kept_of_not_applied (by simp)
  · obtain ⟨names, htarget⟩ := Disk.read_eq_ok_iff.mp hread
    rw [patchFile_of_read probes hreads hread]
    exact patchSource_outcome htarget hnew

/-- The disk changes by the replacement of a file that is there, or not at all. -/
theorem patchFile_disk (ctx : RunContext) (disk : Disk) (path file : Text)
    (specs : List PatchSpec) (probes : List Probe) :
    (patchFile ctx disk path file specs probes).1 = disk ∨
      disk.isFile path = true ∧ ∃ content, (patchFile ctx disk path file specs probes).1 =
        (disk.replace ctx.tag (ctx.interruption file) path content).1 := by
  rcases file_cases ctx disk path file with hfile | ⟨error, hfile, herror⟩ | ⟨old, hreads, hread⟩
  · rw [patchFile_of_not_isFile probes hfile]
    exact .inl rfl
  · rw [patchFile_of_readError probes hfile herror]
    exact .inl rfl
  · rw [patchFile_of_read probes hreads hread]
    unfold patchSource
    dsimp only
    split
    · exact .inl rfl
    · split_ifs
      · exact .inl rfl
      · exact .inl rfl
      · exact .inl rfl
      · refine .inr ⟨Disk.isFile_iff.mpr ⟨old, hread⟩, patchedBytes specs old, ?_⟩
        rcases hreplace : disk.replace ctx.tag (ctx.interruption file) path
          (patchedBytes specs old) with ⟨after, _ | failure⟩ <;>
        · simp only [patchedBytes, patchSet] at hreplace
          simp only [hreplace]

/-- The digest taken before is that of the file as it stands on the disk. -/
theorem patchFile_hashBefore (probes : List Probe)
    (hreads : disk.isFile path = true → ctx.Reads file) :
    (patchFile ctx disk path file specs probes).2.hashBefore =
      (disk.read path).toOption.map Digest.sha256 := by
  cases hread : disk.read path with
  | ok content =>
    have hreads := hreads (Disk.isFile_iff.mpr ⟨content, hread⟩)
    rw [patchFile_of_read probes hreads hread, patchSource_hashBefore, Source.toBytes_ofBytes]
    rfl
  | error e =>
    have hfile : disk.isFile path = false := by
      rw [Bool.eq_false_iff, Ne, Disk.isFile_iff]
      simp [hread]
    rw [patchFile_of_not_isFile probes hfile]
    rfl

/-- A file that cannot be read has no records of patches. -/
theorem reads_of_mem_patches {probes : List Probe} {result : PatchResult}
    (hresult : result ∈ (patchFile ctx disk path file specs probes).2.patches)
    (hfile : disk.isFile path = true) : ctx.Reads file := by
  cases herror : ctx.readError? file with
  | none => exact herror
  | some error => simp [patchFile_of_readError probes hfile herror] at hresult

/-- What the report on a file says about its patches, and about its bytes if it was read. -/
theorem processFile_report {probes : List Probe} {report : FileReport}
    (h : (processFile ctx disk file specs probes).2 = .ok report) :
    report.file = file ∧
      report.patches =
        (patchFile ctx disk (Path.join ctx.root file) file specs probes).2.patches ∧
      ((disk.isFile (Path.join ctx.root file) = true → ctx.Reads file) →
        report.hashBefore = (disk.read (Path.join ctx.root file)).toOption.map Digest.sha256) ∧
      report.hashAfter =
        ((ctx.seen (processFile ctx disk file specs probes).1 (Path.join ctx.root file) file).read
          (Path.join ctx.root file)).toOption.map Digest.sha256 := by
  simp only [processFile, bind, Except.bind, pure, Except.pure] at h
  split at h
  · simp at h
  · split at h
    · simp at h
    · obtain rfl := Except.ok.inj h
      exact ⟨rfl, rfl, patchFile_hashBefore probes, rfl⟩

namespace FileOutcome

variable {after : Disk} {results : List PatchResult}
  (h : FileOutcome ctx specs path disk after results)
include h

theorem sameShape : disk.SameShape after := by
  cases h with
  | kept => exact .refl disk
  | rewritten htarget => exact htarget.sameShape _

theorem frame {other : List Text} (hother : disk.locate path ≠ .ok other) :
    after.tree.node? other = disk.tree.node? other := by
  cases h with
  | kept => rfl
  | rewritten htarget =>
    have hne : other ≠ _ := fun heq => hother (heq ▸ htarget.located)
    rw [Tree.node?_putAt htarget.writable, if_neg hne]

theorem eq_of_nil (hspecs : specs = []) : after = disk := by
  subst hspecs
  cases h with
  | kept => rfl
  | rewritten _ hchanged => simp at hchanged

theorem eq_of_not_applied (hnone : results.any PatchResult.applied = false) : after = disk := by
  cases h with
  | kept => rfl
  | rewritten htarget hchanged =>
    rw [patchSet, (applyPatches_of_changed hchanged).2] at hnone
    simp at hnone

/-- If one patch neither was applied nor applied before, none is reported as applied. -/
theorem not_applied_of_not_settled {result : PatchResult} (hresult : result ∈ results)
    (hsettled : ¬ result.Settled) : results.any PatchResult.applied = false := by
  rw [Bool.eq_false_iff]
  intro happlied
  cases h with
  | kept hall => exact hsettled (hall happlied result hresult)
  | rewritten => exact hsettled (applyPatches_settled_of_applied happlied result hresult)

/-- A file holds what its patches make of it if one of them is reported as applied, and its old
content otherwise. -/
theorem content {names : List Text} {old : Bytes} (hdry : ctx.dryRun = false)
    (htarget : disk.HasFile path names old) :
    after.tree.node? names = some (.file
      (if results.any PatchResult.applied then patchedBytes specs old else old)) := by
  cases h with
  | kept _ hsame =>
    split_ifs with happlied
    · rw [hsame hdry happlied names old htarget, htarget.held]
    · exact htarget.held
  | rewritten htarget' hchanged =>
    obtain ⟨rfl, rfl⟩ := htarget.unique htarget'
    rw [Tree.node?_putAt htarget.writable, if_pos rfl]
    have happlied : (patchSet specs old).results.any PatchResult.applied = true :=
      (applyPatches_of_changed hchanged).2
    rw [if_pos happlied]

end FileOutcome

theorem processFile_outcome (probes : List Probe) (hnew : specs ≠ [] → ctx.Fresh disk file) :
    FileOutcome ctx specs (Path.join ctx.root file) disk
      (processFile ctx disk file specs probes).1
      (patchFile ctx disk (Path.join ctx.root file) file specs probes).2.patches :=
  patchFile_outcome probes hnew

end Outcome

/-! ## Reports -/

/-- The report on a file from what became of it, the text it has then, the outcome of the probes and
the digest of its bytes. -/
def reportOn (options : ScanOptions) (file : Text) (patching : Patching) (text : Option Text)
    (outcome : Except MarkerFault Verification) (hashAfter : Option Text) :
    Except RunFault FileReport := do
  let findingsAfter ← (findingsIn options file text).mapError .pattern
  let verification ← outcome.mapError .marker
  return {
    file
    state := .verified
    status := fileStatus patching verification
    findingsBefore := patching.findingsBefore
    patches := patching.patches
    findingsAfter
    verification
    hashBefore := patching.hashBefore
    hashAfter
    error := patching.error }

theorem exists_of_reportOn {options : ScanOptions} {file : Text} {patching : Patching}
    {text : Option Text} {outcome : Except MarkerFault Verification} {hashAfter : Option Text}
    {report : FileReport} (h : reportOn options file patching text outcome hashAfter = .ok report) :
    ∃ findings verification, findingsIn options file text = .ok findings ∧
      outcome = .ok verification ∧ report.status = fileStatus patching verification ∧
      report.findingsBefore = patching.findingsBefore ∧ report.patches = patching.patches ∧
      report.verification = verification ∧ report.error = patching.error := by
  unfold reportOn at h
  cases hfindings : findingsIn options file text with
  | error fault => simp [hfindings, Except.mapError, bind, Except.bind] at h
  | ok findings =>
    cases outcome with
    | error fault => simp [hfindings, Except.mapError, bind, Except.bind] at h
    | ok verification =>
      rw [hfindings] at h
      obtain rfl := Except.ok.inj h
      exact ⟨findings, verification, rfl, rfl, rfl, rfl, rfl, rfl, rfl⟩

theorem processFile_eq {disk after : Disk} {file : Text} {specs : List PatchSpec}
    {probes : List Probe} {patching : Patching} (ctx : RunContext)
    (h : patchFile ctx disk (Path.join ctx.root file) file specs probes = (after, patching)) :
    processFile ctx disk file specs probes =
      let seen := ctx.seen after (Path.join ctx.root file) file
      (after, reportOn ctx.scan file patching
        (patching.pending <|> seen.readText? (Path.join ctx.root file))
        (verifyAll seen ctx.root file probes patching.pending)
        ((seen.read (Path.join ctx.root file)).toOption.map Digest.sha256)) := by
  rw [processFile, h]
  rfl

end Remedy
