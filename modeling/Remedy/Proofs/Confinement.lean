import Remedy.Proofs.FileNames
import Remedy.Proofs.Lists
import Remedy.Proofs.Locality
import Remedy.Proofs.PlanReading

/-!
# Runs stay below their root

The check on the files of a plan looks at pieces between slashes of both kinds, and a run joins them
to its root and normalises the result. `Path.Within` relates the two: a name that passes the check
leads to the root or below it (`within_join`). What a run writes are such files and new files beside
them, so it leaves all else alone (`processFiles_frame`). The file at the root itself would have its
new file outside, but the root is a folder and nothing is written there. What a run reads are such
files too, so nothing else makes a difference to it (`processFiles_local`).
`accepted_run_within_root` puts this together.
-/

namespace Remedy

namespace Path

/-- A path is a directory or lies below it. -/
def Within (root path : Text) : Prop := names root <+: names path

instance (root path : Text) : Decidable (Within root path) :=
  inferInstanceAs (Decidable (_ <+: _))

/-- The check looks at more pieces than there are names in the path. -/
theorem dots_not_mem_written {file : Text} (h : staysInside file = true) :
    dots ∉ written file := by
  intro hdots
  have hpiece : ∀ c ∈ dots, (c == 0x5C || c == 0x2F) = false := by
    simp [show dots = [0x2E, 0x2E] from rfl]
  have hmem : dots ∈ Text.splitAt (fun c => c == 0x5C || c == 0x2F) file :=
    mem_splitAt_of_finer (by simp [isSlash]) (List.mem_filter.1 hdots).1 hpiece
  simp only [staysInside, Bool.and_eq_true, Bool.not_eq_true', List.contains_eq_mem,
    decide_eq_false_iff_not] at h
  exact h.2 hmem

theorem spells_names_join {root : Text} (hroot : isAbsolute root = true) (file : Text) :
    Spells (join root file) (names (join root file)) := by
  have h := spells_join hroot file
  rwa [← h.names_eq] at h

theorem within_join {root file : Text} (hroot : isAbsolute root = true)
    (hfile : staysInside file = true) : Within root (join root file) := by
  have hnames := (spells_join hroot file).names_eq
  rw [names_append_of_no_dots hroot (dots_not_mem_written hfile)] at hnames
  exact ⟨_, hnames.symm⟩

end Path

/-! ## Runs -/

/-- A path goes on from the names of a directory. -/
def Beyond (root path : List Text) : Prop := root <+: path ∧ path ≠ root

theorem beyond_of_below {root front path : List Text} {last : Text} (hfront : root <+: front)
    (h : front ++ [last] <+: path) : Beyond root path := by
  refine ⟨(hfront.trans (List.prefix_append _ _)).trans h, ?_⟩
  rintro rfl
  have := hfront.length_le
  have := h.length_le
  simp at this
  omega

section Frame

variable {ctx : RunContext} {disk : Disk} {file : Text} {other : List Text}

/-- A file that is there and named by the plan stands beyond the root. -/
theorem exists_front {root : Text} (hroot : Path.isAbsolute root = true)
    (hfolder : disk.tree.node? (Path.names root) = some .folder)
    (hfile : staysInside file = true) (h : disk.isFile (Path.join root file) = true) :
    ∃ front last, Path.Spells (Path.join root file) (front ++ [last]) ∧
      Path.names root <+: front := by
  have hspells := Path.spells_names_join hroot file
  obtain ⟨content, hread⟩ := Disk.isFile_iff.1 h
  obtain ⟨found, hfound⟩ := Disk.read_eq_ok_iff.1 hread
  obtain rfl := hspells.eq_of_locate hfound.located
  have hheld := hfound.held
  obtain ⟨below, hbelow⟩ := Path.within_join hroot hfile
  rw [← hbelow] at hspells hheld
  rcases List.eq_nil_or_concat below with rfl | ⟨below, last, rfl⟩
  · rw [List.append_nil, hfolder] at hheld
    simp at hheld
  · refine ⟨Path.names root ++ below, last, ?_, List.prefix_append _ _⟩
    rwa [List.append_assoc, ← List.concat_eq_append]

theorem patchFile_frame (htag : 0x2F ∉ ctx.tag) (hroot : Path.isAbsolute ctx.root = true)
    (hfolder : disk.tree.node? (Path.names ctx.root) = some .folder)
    (hfile : staysInside file = true) (specs : List PatchSpec) (probes : List Probe)
    (hother : ¬ Beyond (Path.names ctx.root) other) :
    (patchFile ctx disk (Path.join ctx.root file) file specs probes).1.tree.node? other =
      disk.tree.node? other := by
  obtain h | ⟨hisFile, content, h⟩ :=
    patchFile_disk ctx disk (Path.join ctx.root file) file specs probes
  · rw [h]
  · obtain ⟨front, last, hspells, hfront⟩ := exists_front hroot hfolder hfile hisFile
    rw [h]
    exact Disk.replace_frame _ content htag hspells (fun hp => hother (beyond_of_below hfront hp))
      fun hp => hother (beyond_of_below hfront hp)

theorem processFiles_frame (htag : 0x2F ∉ ctx.tag) (hroot : Path.isAbsolute ctx.root = true)
    (hfolder : disk.tree.node? (Path.names ctx.root) = some .folder)
    {files : List Text} (hfiles : ∀ file ∈ files, staysInside file = true)
    (patches : List PatchSpec) (probes : List Probe)
    (hother : ¬ Beyond (Path.names ctx.root) other) :
    (processFiles ctx patches probes disk files).1.tree.node? other = disk.tree.node? other := by
  induction files generalizing disk with
  | nil => rfl
  | cons file files ih =>
    rw [List.forall_mem_cons] at hfiles
    have hstep {other : List Text} (h : ¬ Beyond (Path.names ctx.root) other) :=
      patchFile_frame htag hroot hfolder hfiles.1
        (patches.filter fun spec => spec.targetFile == file)
        (probes.filter fun probe => probe.file == file) h
    unfold processFiles
    dsimp only
    split
    · rename_i next fault hnext
      rw [← hstep hother, ← congrArg Prod.fst hnext]
      rfl
    · rename_i next report hnext
      have hnext : (processFile ctx disk file _ _).1 = next := congrArg Prod.fst hnext
      subst hnext
      have hkept : ¬ Beyond (Path.names ctx.root) (Path.names ctx.root) := fun h => h.2 rfl
      exact (ih ((hstep hkept).trans hfolder) hfiles.2).trans (hstep hother)

end Frame

section Local

variable {ctx : RunContext} {disk other : Disk} {file : Text}

theorem patchSource_local {root : List Text} {path : Text} (h : Disk.SameFolder root disk other)
    (hreplace : ∀ content, Disk.SameOutcome root
      (disk.replace ctx.tag (ctx.interruption file) path content)
      (other.replace ctx.tag (ctx.interruption file) path content))
    (specs : List PatchSpec) (source : Source) :
    Disk.SameOutcome root (patchSource ctx disk path file specs source)
      (patchSource ctx other path file specs source) := by
  unfold patchSource
  cases Scan.scan ctx.scan (source.encoding.ofSource source.text) file with
  | error fault => exact ⟨h, rfl⟩
  | ok findings =>
    dsimp only
    split_ifs
    · exact ⟨h, rfl⟩
    · exact ⟨h, rfl⟩
    · exact ⟨h, rfl⟩
    · have hwrite := hreplace ({ source with text := (applyPatches source.text
        (specs.map fun spec => spec.toSource source.encoding)).text } : Source).toBytes
      generalize disk.replace ctx.tag _ path _ = a, other.replace ctx.tag _ path _ = b at hwrite
      obtain ⟨after, failure⟩ := a
      obtain ⟨after', failure'⟩ := b
      obtain ⟨hfolder, rfl⟩ := hwrite
      cases failure <;> exact ⟨hfolder, rfl⟩

theorem Disk.SameFolder.root_folder {root : List Text} (h : Disk.SameFolder root disk other) :
    disk.tree.node? root = some .folder :=
  Tree.node?_eq_folder_iff.2 (h.imp fun _ h => h.1)

theorem patchFile_local (h : Disk.SameFolder (Path.names ctx.root) disk other)
    (htag : 0x2F ∉ ctx.tag) (hroot : Path.isAbsolute ctx.root = true)
    (hfile : staysInside file = true) (specs : List PatchSpec) (probes : List Probe) :
    Disk.SameOutcome (Path.names ctx.root)
      (patchFile ctx disk (Path.join ctx.root file) file specs probes)
      (patchFile ctx other (Path.join ctx.root file) file specs probes) := by
  have hspells := Path.spells_names_join hroot file
  have hwithin : Path.names ctx.root <+: _ := Path.within_join hroot hfile
  have hisFile := h.isFile_eq hspells hwithin
  rcases file_cases ctx disk (Path.join ctx.root file) file with
    hexists | ⟨error, hexists, herror⟩ | ⟨content, hreads, hread⟩
  · rw [patchFile_of_not_isFile probes hexists,
      patchFile_of_not_isFile probes (hisFile.symm.trans hexists)]
    exact ⟨h, rfl⟩
  · rw [patchFile_of_readError probes hexists herror,
      patchFile_of_readError probes (hisFile.symm.trans hexists) herror]
    exact ⟨h, rfl⟩
  · obtain ⟨front, last, hpath, hfront⟩ :=
      exists_front hroot h.root_folder hfile (Disk.isFile_iff.2 ⟨content, hread⟩)
    rw [patchFile_of_read probes hreads hread,
      patchFile_of_read probes hreads ((h.read_eq hspells hwithin).symm.trans hread)]
    exact patchSource_local h
      (fun content => Disk.replace_local h htag hpath hfront content _) specs _

theorem seen_local (h : Disk.SameFolder (Path.names ctx.root) disk other)
    (hroot : Path.isAbsolute ctx.root = true) (hfile : staysInside file = true) :
    Disk.SameFolder (Path.names ctx.root) (ctx.seen disk (Path.join ctx.root file) file)
      (ctx.seen other (Path.join ctx.root file) file) := by
  have hisFile := h.isFile_eq (Path.spells_names_join hroot file) (Path.within_join hroot hfile)
  unfold RunContext.seen
  split
  · rw [← hisFile]
    split_ifs with hexists
    · obtain ⟨front, last, hpath, hfront⟩ := exists_front hroot h.root_folder hfile hexists
      exact Disk.remove_local h hpath hfront
    · exact h
  · exact h

theorem readText?_local (h : Disk.SameFolder (Path.names ctx.root) disk other)
    (hroot : Path.isAbsolute ctx.root = true) (hfile : staysInside file = true) :
    disk.readText? (Path.join ctx.root file) = other.readText? (Path.join ctx.root file) := by
  have hread := h.read_eq (Path.spells_names_join hroot file) (Path.within_join hroot hfile)
  rw [Disk.readText?, Disk.readText?, hread]

theorem verifyAll_local (h : Disk.SameFolder (Path.names ctx.root) disk other)
    (hroot : Path.isAbsolute ctx.root = true) {probes : List Probe}
    (hprobes : ∀ probe ∈ probes, staysInside probe.file = true) (pending : Option Text) :
    verifyAll disk ctx.root file probes pending = verifyAll other ctx.root file probes pending := by
  unfold verifyAll
  split_ifs
  · rfl
  · refine congrArg (Except.map (mergeOutcomes file)) (mapM_congr fun probe hprobe => ?_)
    cases pending with
    | some t => rfl
    | none =>
      dsimp only
      rw [Disk.verify, Disk.verify, readText?_local h hroot (hprobes probe hprobe)]

theorem processFile_local (h : Disk.SameFolder (Path.names ctx.root) disk other)
    (htag : 0x2F ∉ ctx.tag) (hroot : Path.isAbsolute ctx.root = true)
    (hfile : staysInside file = true) (specs : List PatchSpec) {probes : List Probe}
    (hprobes : ∀ probe ∈ probes, staysInside probe.file = true) :
    Disk.SameOutcome (Path.names ctx.root) (processFile ctx disk file specs probes)
      (processFile ctx other file specs probes) := by
  have hpatch := patchFile_local h htag hroot hfile specs probes
  rcases hdisk : patchFile ctx disk (Path.join ctx.root file) file specs probes with ⟨after, p⟩
  rcases hother : patchFile ctx other (Path.join ctx.root file) file specs probes with ⟨after', p'⟩
  rw [hdisk, hother] at hpatch
  obtain ⟨hfolder, rfl⟩ := hpatch
  rw [processFile_eq ctx hdisk, processFile_eq ctx hother]
  have hseen := seen_local hfolder hroot hfile
  have hread := hseen.read_eq (Path.spells_names_join hroot file) (Path.within_join hroot hfile)
  dsimp only at hfolder hseen hread ⊢
  refine ⟨hfolder, ?_⟩
  rw [readText?_local hseen hroot hfile, verifyAll_local hseen hroot hprobes, hread]

/-- What a run writes and reports depends on its root alone. -/
theorem processFiles_local (h : Disk.SameFolder (Path.names ctx.root) disk other)
    (htag : 0x2F ∉ ctx.tag) (hroot : Path.isAbsolute ctx.root = true) {files : List Text}
    (hfiles : ∀ file ∈ files, staysInside file = true) (patches : List PatchSpec)
    {probes : List Probe} (hprobes : ∀ probe ∈ probes, staysInside probe.file = true) :
    Disk.SameOutcome (Path.names ctx.root) (processFiles ctx patches probes disk files)
      (processFiles ctx patches probes other files) := by
  induction files generalizing disk other with
  | nil => exact ⟨h, rfl⟩
  | cons file files ih =>
    rw [List.forall_mem_cons] at hfiles
    have hchecks : ∀ probe ∈ probes.filter (fun probe => probe.file == file),
        staysInside probe.file = true := fun probe hprobe =>
      hprobes probe (List.mem_of_mem_filter hprobe)
    have hstep := processFile_local h htag hroot hfiles.1
      (patches.filter fun spec => spec.targetFile == file) hchecks
    unfold processFiles
    dsimp only
    generalize processFile ctx disk file _ _ = a, processFile ctx other file _ _ = b at hstep
    obtain ⟨next, report⟩ := a
    obtain ⟨next', report'⟩ := b
    obtain ⟨hfolder, rfl⟩ := hstep
    cases report with
    | error fault => exact ⟨hfolder, rfl⟩
    | ok report =>
      have hrest := ih hfolder hfiles.2
      exact ⟨hrest.folder, congrArg (Except.map (report :: ·)) hrest.result⟩

end Local

theorem Plan.StaysInside.touchedFiles {plan : Plan} (h : plan.StaysInside) :
    ∀ file ∈ touchedFiles plan.patches plan.probes, staysInside file = true := by
  intro file hfile
  obtain ⟨spec, hspec, rfl⟩ | ⟨probe, hprobe, rfl⟩ := mem_touchedFiles.1 hfile
  · exact h.patches spec hspec
  · exact h.probes probe hprobe

/-- A run of an accepted plan keeps to its root. Every file it looks at is named by a path that is
the root or lies below it, and leads there on any disk. Where the root is a folder, so does the path
of the new file beside it whenever there is a file to replace, and nothing outside changes. Nothing
outside makes a difference either: on a disk with the same root the run writes and reports the
same. -/
theorem accepted_run_within_root {ctx : RunContext} {plan : Plan} (hplan : plan.Accepted)
    (hroot : Path.isAbsolute ctx.root = true) (htag : 0x2F ∉ ctx.tag) :
    (∀ file ∈ touchedFiles plan.patches plan.probes,
      Path.Within ctx.root (Path.join ctx.root file) ∧
      ∀ (disk : Disk) names, disk.locate (Path.join ctx.root file) = .ok names →
        Path.names ctx.root <+: names) ∧
    (∀ disk : Disk, disk.tree.node? (Path.names ctx.root) = some .folder →
      (∀ file ∈ touchedFiles plan.patches plan.probes,
        ∀ done, done <+: touchedFiles plan.patches plan.probes →
          (processFiles ctx plan.patches plan.probes disk done).1.isFile
            (Path.join ctx.root file) = true →
          Path.Within ctx.root (Disk.besidePath ctx.tag (Path.join ctx.root file))) ∧
      ∀ path, ¬ Path.names ctx.root <+: path →
        (remediate ctx disk plan.name plan.patches plan.probes).1.tree.node? path =
          disk.tree.node? path) ∧
    ∀ disk other, Disk.SameFolder (Path.names ctx.root) disk other →
      Disk.SameOutcome (Path.names ctx.root)
        (remediate ctx disk plan.name plan.patches plan.probes)
        (remediate ctx other plan.name plan.patches plan.probes) := by
  have hfiles := hplan.staysInside.touchedFiles
  refine ⟨fun file hfile => ?_, fun disk hfolder => ⟨fun file hfile done hdone hisFile => ?_,
    fun path hpath => ?_⟩, fun disk other hother => ?_⟩
  · have hwithin := Path.within_join hroot (hfiles file hfile)
    refine ⟨hwithin, fun disk names hlocate => ?_⟩
    rw [(Path.spells_names_join hroot file).eq_of_locate hlocate]
    exact hwithin
  · -- the root is still a folder, so the file is not at the root itself
    have hkept : ¬ Beyond (Path.names ctx.root) (Path.names ctx.root) := fun h => h.2 rfl
    have hreached := (processFiles_frame htag hroot hfolder
      (fun file hfile => hfiles file (hdone.subset hfile)) plan.patches plan.probes hkept).trans
      hfolder
    obtain ⟨front, last, hfront, hbelow⟩ :=
      exists_front hroot hreached (hfiles file hfile) hisFile
    rw [Path.Within, (hfront.besidePath htag).names_eq]
    exact hbelow.trans (List.prefix_append _ _)
  · exact processFiles_frame htag hroot hfolder hfiles plan.patches plan.probes
      fun h => hpath h.1
  · have hrun := processFiles_local hother htag hroot hfiles plan.patches
      hplan.staysInside.probes
    exact ⟨hrun.folder, congrArg (Except.map (runReport ctx plan.name)) hrun.result⟩

/-! ## A plan and a disk -/

/-- The plan of `twoNamesDocument`. -/
def twoNamesPlan : Plan where
  version := "1.0"
  name := "plan"
  description := none
  base := none
  scan := .default
  patches := [oneLinePatch "./a.c", absentPatch]
  probes := []

/-- A plan with a probe for a file in a folder whose name starts with dots. -/
def dottedDocument : Data := .map [("version", .text "1.0"), ("name", .text "base"),
  ("probes", .list [.map [("file", .text "..lib//./b.c"),
    ("expected_absent", .list [.text "gets("])]])]

def dottedPlan : Plan where
  version := "1.0"
  name := "base"
  description := none
  base := none
  scan := .default
  patches := []
  probes := [⟨"..lib//./b.c", [], [.literal "gets("], []⟩]

/-- A file outside the root has the name of one inside. -/
def neighbourDisk : Disk where
  tree := .folder "r" (.file "a.c" emptyBody .empty) (.file "a.c" emptyBody .empty)
  here := []

/-- The same root, and nothing else of `neighbourDisk`. -/
def strangeDisk : Disk where
  tree := .file "a.c" [] (.folder "r" (.file "a.c" emptyBody .empty) .empty)
  here := ["r"]

theorem accepted_run_within_root_merged :
    let plan := dottedPlan.merge twoNamesPlan
    plan.Accepted ∧ Path.isAbsolute plainContext.root = true ∧ 0x2F ∉ plainContext.tag ∧
      neighbourDisk.tree.node? (Path.names plainContext.root) = some .folder ∧
      Path.Within "/r" (Path.join "/r" "..lib//./b.c") ∧
      Path.Within "/r" (Disk.besidePath plainContext.tag (Path.join "/r" "./a.c")) ∧
      (remediate plainContext neighbourDisk plan.name plan.patches plan.probes).1.tree.node?
        ["a.c"] = some (.file emptyBody) ∧
      (remediate plainContext neighbourDisk plan.name plan.patches plan.probes).2 =
        (remediate plainContext strangeDisk plan.name plan.patches plan.probes).2 := by
  intro plan
  have hplan : plan.Accepted :=
    .merge (.read (d := some dottedDocument) rfl) (.read (d := some twoNamesDocument) rfl)
  have hroot : Path.isAbsolute plainContext.root = true := by decide
  have htag : 0x2F ∉ plainContext.tag := by decide
  have hfolder : neighbourDisk.tree.node? (Path.names plainContext.root) = some .folder := by
    decide
  obtain ⟨hfiles, hkept, hlocal⟩ := accepted_run_within_root hplan hroot htag
  obtain ⟨hbeside, hframe⟩ := hkept neighbourDisk hfolder
  refine ⟨hplan, hroot, htag, hfolder, ?_, ?_, hframe ["a.c"] (by decide),
    (hlocal neighbourDisk strangeDisk ⟨_, rfl, rfl⟩).result⟩
  · exact (hfiles "..lib//./b.c" (mem_touchedFiles.2 (.inr ⟨_, .head _, rfl⟩))).1
  · exact hbeside "./a.c" (mem_touchedFiles.2 (.inl ⟨_, .head _, rfl⟩)) [] List.nil_prefix
      (by decide)

end Remedy
