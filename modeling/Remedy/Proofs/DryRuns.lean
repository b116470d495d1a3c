import Remedy.Proofs.Atomicity
import Remedy.Proofs.Lists
import Remedy.Proofs.Paths
import Remedy.Proofs.WellFormedPatches

/-!
# Dry runs

A dry run scans and verifies the patched text as it is computed, and a real run what it reads back
after writing. `dry_run_predicts` says that they report the same. It takes two facts: a file that
was replaced holds its new content (`Disk.read_of_replace`), and the bytes written are read as the
text they were made from (`decode_patchedBytes`).
-/

namespace Remedy

namespace Disk

variable {disk written after : Disk} {path source tag : Text} {content : Bytes}
  {interruption : Option Interruption}

theorem write_of_writeUpTo (h : writeUpTo interruption disk path content = (written, none)) :
    disk.write path content = .ok written := by
  unfold writeUpTo at h
  split at h
  · split at h <;> simp at h
  · obtain rfl := (Prod.mk.inj h).1
    assumption
  · simp at h

theorem rename_of_moveOver {target : Text}
    (h : moveOver interruption disk source target = .ok after) :
    disk.rename source target = .ok after := by
  unfold moveOver at h
  split at h
  · simp at h
  · exact h

/-- A file that was moved from one place to another stands there. -/
theorem HasFile.of_rename {target : Text} {old new : List Text}
    (hsource : disk.HasFile source old content) (hlocate : disk.locate target = .ok new)
    (hparent : disk.tree.node? new.dropLast = some .folder) (hne : ¬ old <+: new)
    (hnil : new ≠ []) (h : disk.rename source target = .ok after) :
    after.HasFile target new content := by
  obtain ⟨bytes, names, hread, hnames, hnot, rfl⟩ := rename_eq_ok h
  obtain rfl : new = names := by simpa [hlocate] using hnames
  obtain ⟨found, hfound⟩ := read_eq_ok_iff.1 hread
  obtain ⟨rfl, rfl⟩ := hsource.unique hfound
  have hwritable : disk.tree.Writable new := ⟨hnil, hparent, hnot⟩
  -- the moved file is still under its old name, and is removed from there
  have hstill : (disk.tree.putAt new (.file content)).node? old = some (.file content) := by
    rw [Tree.node?_putAt hwritable, hsource.held, ite_self]
  rw [Disk.remove, locate_putAt hwritable content hsource.located]
  constructor
  · exact locate_of_folders { disk with tree := disk.tree.putAt new (.file content) }
      { disk with tree := (disk.tree.putAt new (.file content)).eraseAt old } rfl
      (fun _ hfolder => Tree.folder_eraseAt hstill hfolder)
      (locate_putAt hwritable content hlocate)
  · rw [Tree.node?_eraseAt_of_not_below hne, Tree.node?_putAt hwritable, if_pos rfl]

/-- A file that was replaced holds its new content. -/
theorem read_of_replace {names : List Text} {old : Bytes}
    (hhere : disk.tree.node? disk.here = some .folder) (htag : 0x2F ∉ tag)
    (hfile : disk.HasFile path names old)
    (h : disk.replace tag interruption path content = (after, none)) :
    after.read path = .ok content := by
  unfold replace at h
  dsimp only at h
  split at h
  · simp at h
  · simp at h
  rename_i written _ hwrite
  split at h
  case h_2 => simp at h
  rename_i moved hmove
  obtain rfl := (Prod.mk.inj h).1
  obtain ⟨beside, hlocate, hwritable, rfl⟩ := write_eq_ok (write_of_writeUpTo hwrite)
  have hbeside : HasFile { disk with tree := disk.tree.putAt beside (.file content) }
      (besidePath tag path) beside content :=
    ⟨locate_putAt hwritable content hlocate, by rw [Tree.node?_putAt hwritable, if_pos rfl]⟩
  have hparent := Tree.folder_putAt hwritable content hfile.writable.parent
  exact read_eq_ok_iff.2 ⟨names, hbeside.of_rename (locate_putAt hwritable content hfile.located)
    hparent (hfile.not_above_of_beside hhere htag hlocate hwritable.not_folder)
    hfile.writable.ne_nil (rename_of_moveOver hmove)⟩

end Disk

/-! ## Reading back -/

theorem wellFormed_ofBytes {content : Bytes} (h : (Source.ofBytes content).encoding = .utf8) :
    (Source.ofBytes content).text.WellFormed := by
  unfold Source.ofBytes at h ⊢
  dsimp only at h ⊢
  split_ifs at h ⊢
  exact Utf8.wellFormed_decode content

/-- The text that a dry run goes on with. -/
def patchedText (specs : List PatchSpec) (content : Bytes) : Text :=
  (Source.ofBytes content).encoding.ofSource (patchSet specs content).text

/-- The bytes of a patched file are read as the text they were made from. -/
theorem decode_patchedBytes {specs : List PatchSpec} (hspecs : ∀ spec ∈ specs, spec.WellFormed)
    (content : Bytes) : Utf8.decode (patchedBytes specs content) = patchedText specs content := by
  unfold patchedBytes patchedText Source.toBytes
  cases hencoding : (Source.ofBytes content).encoding with
  | latin1 => rfl
  | utf8 =>
    refine Utf8.decode_encode (wellFormed_applyPatches (wellFormed_ofBytes hencoding) ?_)
    intro spec hspec
    obtain ⟨original, horiginal, rfl⟩ := List.mem_map.1 hspec
    rw [hencoding, PatchSpec.toSource_utf8]
    exact hspecs original horiginal

/-! ## Two ways to process a file -/

/-- A patch is recorded as one that could not be written. -/
def Patching.WriteFailed (patching : Patching) : Prop :=
  ∃ result ∈ patching.patches, result.reason = some .writeFailure

instance (patching : Patching) : Decidable patching.WriteFailed :=
  inferInstanceAs (Decidable (∃ result ∈ patching.patches, _))

/-- What is recorded when a patched file could not be written. -/
def Patching.afterWriting (patched : Patching) : Option WriteFailure → Patching
  | none => patched
  | some failure =>
    { patched with patches := patched.patches.map (writeFailed failure), failed := true }

/-- What a dry run and a real one make of a file. They do the same unless there is a patched text:
then the one keeps the text and the other replaces the file. -/
inductive DryAndReal (ctx : RunContext) (disk : Disk) (path file : Text) (specs : List PatchSpec) :
    Disk × Patching → Disk × Patching → Prop where
  | same {patching : Patching} (hpending : patching.pending = none) :
      DryAndReal ctx disk path file specs (disk, patching) (disk, patching)
  | patched {old : Bytes} {patched : Patching} {after : Disk} {outcome : Option WriteFailure}
      (hpending : patched.pending = none)
      (happlied : patched.patches.any PatchResult.applied = true)
      (hfile : disk.isFile path = true) (hreads : ctx.Reads file)
      (hreplace : disk.replace ctx.tag (ctx.interruption file) path (patchedBytes specs old) =
        (after, outcome)) :
      DryAndReal ctx disk path file specs
        (disk, { patched with pending := some (patchedText specs old) })
        (after, patched.afterWriting outcome)

theorem patchSource_dryAndReal {ctx : RunContext} {disk : Disk} {path file : Text}
    {specs : List PatchSpec} (hfile : disk.isFile path = true) (hreads : ctx.Reads file)
    (old : Bytes) :
    DryAndReal ctx disk path file specs
      (patchSource { ctx with dryRun := true } disk path file specs (.ofBytes old))
      (patchSource { ctx with dryRun := false } disk path file specs (.ofBytes old)) := by
  cases hscan : Scan.scan ctx.scan
      ((Source.ofBytes old).encoding.ofSource (Source.ofBytes old).text) file with
  | error fault =>
    simp only [patchSource, hscan]
    exact .same rfl
  | ok findings =>
    by_cases hspecs : specs.isEmpty = true
    · simp only [patchSource, hscan, if_pos hspecs]
      exact .same rfl
    · cases hchanged : (patchSet specs old).changed with
      | false =>
        simp only [patchSet] at hchanged
        simp only [patchSource, hscan, if_neg hspecs, hchanged, Bool.not_false, if_true]
        exact .same rfl
      | true =>
        have happlied : (patchSet specs old).results.any PatchResult.applied = true :=
          (applyPatches_of_changed hchanged).2
        rcases hreplace : disk.replace ctx.tag (ctx.interruption file) path
          (patchedBytes specs old) with ⟨after, outcome⟩
        let patched : Patching :=
          { findingsBefore := findings
            hashBefore := some (Digest.sha256 (Source.ofBytes old).toBytes)
            patches := (patchSet specs old).results
            failed := (patchSet specs old).failed }
        have hpatched : DryAndReal ctx disk path file specs
            (disk, { patched with pending := some (patchedText specs old) })
            (after, patched.afterWriting outcome) := .patched rfl happlied hfile hreads hreplace
        simp only [patchedBytes, patchSet] at hchanged hreplace
        simp only [patchSource, hscan, if_neg hspecs, hchanged, Bool.not_true, if_true, hreplace]
        cases outcome <;> exact hpatched

theorem patchFile_dryAndReal (ctx : RunContext) (disk : Disk) (path file : Text)
    (specs : List PatchSpec) (probes : List Probe) :
    DryAndReal ctx disk path file specs
      (patchFile { ctx with dryRun := true } disk path file specs probes)
      (patchFile { ctx with dryRun := false } disk path file specs probes) := by
  rcases file_cases ctx disk path file with hfile | ⟨error, hfile, herror⟩ | ⟨old, hreads, hread⟩
  · rw [patchFile_of_not_isFile probes hfile, patchFile_of_not_isFile probes hfile]
    exact .same rfl
  · have hpatch (dryRun : Bool) : patchFile { ctx with dryRun } disk path file specs probes =
        (disk, { error := some error.message }) := patchFile_of_readError probes hfile herror
    rw [hpatch, hpatch]
    exact .same rfl
  · have hpatch (dryRun : Bool) : patchFile { ctx with dryRun } disk path file specs probes =
        patchSource { ctx with dryRun } disk path file specs (.ofBytes old) :=
      patchFile_of_read probes hreads hread
    rw [hpatch, hpatch]
    exact patchSource_dryAndReal (Disk.isFile_iff.2 ⟨old, hread⟩) hreads old

/-- A write that fails is recorded with the patches that would have been applied. -/
theorem Patching.writeFailed_afterWriting {patched : Patching}
    (happlied : patched.patches.any PatchResult.applied = true) (failure : WriteFailure) :
    (patched.afterWriting (some failure)).WriteFailed := by
  obtain ⟨result, hresult, happlied⟩ := List.any_eq_true.1 happlied
  exact ⟨writeFailed failure result, List.mem_map_of_mem hresult, by simp [writeFailed, happlied]⟩

/-! ## Reports -/

def FileReport.withoutHashAfter (report : FileReport) : FileReport :=
  { report with hashAfter := none }

theorem reportOn_withoutHashAfter (options : ScanOptions) (file : Text) (patching : Patching)
    (text : Option Text) (outcome : Except MarkerFault Verification) (hash : Option Text) :
    (reportOn options file patching text outcome hash).map FileReport.withoutHashAfter =
      reportOn options file patching text outcome none := by
  unfold reportOn
  cases findingsIn options file text with
  | error fault => rfl
  | ok findings => cases outcome <;> rfl

/-- Probes for the file find on the disk what they find in its text. -/
theorem verifyAll_of_readText (disk : Disk) {after : Disk} {root file t : Text}
    {probes : List Probe} (hprobes : ∀ probe ∈ probes, probe.file = file)
    (hread : after.readText? (Path.join root file) = some t) :
    verifyAll after root file probes none = verifyAll disk root file probes (some t) := by
  have houtcome : ∀ probe ∈ probes, after.verify root probe = Remedy.verify t probe := by
    intro probe hprobe
    rw [Disk.verify, hprobes probe hprobe, hread]
  unfold verifyAll
  split_ifs
  · rfl
  · exact congrArg (Except.map (mergeOutcomes file)) (mapM_congr houtcome)

/-- After a real run the file is read as the patched text. -/
theorem readText_of_replace {ctx : RunContext} {disk after : Disk} {file : Text}
    {specs : List PatchSpec} {old : Bytes} (hhere : disk.tree.node? disk.here = some .folder)
    (htag : 0x2F ∉ ctx.tag) (hspecs : ∀ spec ∈ specs, spec.WellFormed)
    (hfile : disk.isFile (Path.join ctx.root file) = true)
    (hreplace : disk.replace ctx.tag (ctx.interruption file) (Path.join ctx.root file)
      (patchedBytes specs old) = (after, none)) :
    after.readText? (Path.join ctx.root file) = some (patchedText specs old) := by
  obtain ⟨content, hread⟩ := Disk.isFile_iff.1 hfile
  obtain ⟨names, htarget⟩ := Disk.read_eq_ok_iff.1 hread
  rw [Disk.readText?, Disk.read_of_replace hhere htag htarget hreplace]
  exact congrArg some (decode_patchedBytes hspecs old)

/-- A dry run leaves the disk as it is and reports what a real run reports, the digest of the bytes
afterwards left out, unless the real run cannot write. -/
theorem dry_run_predicts {ctx : RunContext} {disk : Disk} {file : Text} {specs : List PatchSpec}
    {probes : List Probe} (hhere : disk.tree.node? disk.here = some .folder)
    (htag : 0x2F ∉ ctx.tag) (hspecs : ∀ spec ∈ specs, spec.WellFormed)
    (hprobes : ∀ probe ∈ probes, probe.file = file) :
    let dry := processFile { ctx with dryRun := true } disk file specs probes
    let real := processFile { ctx with dryRun := false } disk file specs probes
    dry.1 = disk ∧
      (¬ (patchFile { ctx with dryRun := false } disk (Path.join ctx.root file) file specs
          probes).2.WriteFailed →
        dry.2.map FileReport.withoutHashAfter = real.2.map FileReport.withoutHashAfter) := by
  intro dry real
  have hcases := patchFile_dryAndReal ctx disk (Path.join ctx.root file) file specs probes
  generalize hdry : patchFile { ctx with dryRun := true } disk _ file specs probes = d at hcases
  generalize hreal : patchFile { ctx with dryRun := false } disk _ file specs probes = r at hcases ⊢
  cases hcases with
  | same hpending =>
    have hdry : dry = _ := processFile_eq _ hdry
    have hreal : real = _ := processFile_eq _ hreal
    refine ⟨by rw [hdry], fun _ => ?_⟩
    rw [hdry, hreal]
    rfl
  | @patched old patched after outcome hpending happlied hfile hreads hreplace =>
    have hdry : dry = _ := processFile_eq _ hdry
    refine ⟨by rw [hdry], fun hwritten => ?_⟩
    cases outcome with
    | some failure =>
      exact absurd (Patching.writeFailed_afterWriting happlied failure) hwritten
    | none =>
      have hreal : real = _ := processFile_eq _ hreal
      have hafter := readText_of_replace hhere htag hspecs hfile hreplace
      have hseen (dryRun : Bool) (disk : Disk) : RunContext.seen { ctx with dryRun } disk
          (Path.join ctx.root file) file = disk := RunContext.seen_eq fun _ => hreads
      rw [hdry, hreal, reportOn_withoutHashAfter, reportOn_withoutHashAfter]
      simp only [Patching.afterWriting, hpending, hseen]
      rw [hafter, verifyAll_of_readText disk hprobes hafter]
      rfl

/-! ## A file of mixed encodings -/

/-- A file that is not valid UTF-8. -/
def mixedDisk : Disk where
  tree := .folder "r" (.file "a.c" (emptyBody ++ [0xFF, 0x0A]) .empty) .empty
  here := []

/-- Puts a letter in the file that takes two bytes. -/
def accentPatch : PatchSpec :=
  { oneLinePatch "a.c" with replacement := "int f(void) \x7b return 1; \x7d /* é */\n" }

def accentProbe : Probe := ⟨"a.c", [.literal "é"], [], []⟩

set_option maxRecDepth 4000 in
theorem dry_run_predicts_mixed :
    let dry := processFile { plainContext with dryRun := true } mixedDisk "a.c" [accentPatch]
      [accentProbe]
    let real := processFile { plainContext with dryRun := false } mixedDisk "a.c" [accentPatch]
      [accentProbe]
    accentPatch.WellFormed ∧ dry.1 = mixedDisk ∧
      dry.2.map FileReport.withoutHashAfter = real.2.map FileReport.withoutHashAfter := by
  intro dry real
  have hspec : accentPatch.WellFormed :=
    ⟨fun _ h => absurd h (by simp [accentPatch, oneLinePatch]), Text.wellFormed_ofString _⟩
  have hwritten : ¬ (patchFile { plainContext with dryRun := false } mixedDisk
      (Path.join plainContext.root "a.c") "a.c" [accentPatch] [accentProbe]).2.WriteFailed := by
    decide
  have hrun := @dry_run_predicts plainContext mixedDisk "a.c" [accentPatch] [accentProbe]
    (by decide) (by decide) (List.forall_mem_singleton.2 hspec) (by simp [accentProbe])
  exact ⟨hspec, hrun.1, hrun.2 hwritten⟩

end Remedy
