import Remedy.Disk.Replace
import Remedy.Proofs.Trees

/-!
# Replacing a file is atomic

`replace_cases`: where the file beside the target is a new one, replacing a file that is there ends
in one of two ways, whatever cuts it short. Either it reports a failure and the disk is as it was,
or the target alone has changed and holds the new content.

Paths are looked up before, during and after the replacement. The names that a path leads to depend
on the folders of the disk alone (`locate_of_folders`), and none of the steps removes one.
-/

namespace Remedy

namespace Disk

/-! ## Looking up a path -/

theorem follow_of_folders {t u : Tree}
    (h : ∀ path, t.node? path = some .folder → u.node? path = some .folder)
    {here names found : List Text} (hfollow : follow t here names = .ok found) :
    follow u here names = .ok found := by
  induction names generalizing here with
  | nil => exact hfollow
  | cons name names ih =>
    unfold follow at hfollow ⊢
    split_ifs at hfollow ⊢
    · exact ih hfollow
    · exact ih hfollow
    · exact hfollow
    · rcases ht : t.get? (here ++ [name]) with _ | ⟨content | entries⟩
      · simp [ht] at hfollow
      · simp [ht] at hfollow
      · obtain ⟨_, hu⟩ := Tree.node?_eq_folder_iff.mp (h _ (Tree.node?_eq_folder_iff.mpr ⟨_, ht⟩))
        rw [ht] at hfollow
        rw [hu]
        exact ih hfollow

/-- A path leads to the same names wherever the same folders are. -/
theorem locate_of_folders (disk other : Disk) (here : other.here = disk.here)
    (h : ∀ path, disk.tree.node? path = some .folder → other.tree.node? path = some .folder)
    {path : Text} {names : List Text} (hlocate : disk.locate path = .ok names) :
    other.locate path = .ok names := by
  unfold locate at hlocate ⊢
  rw [here]
  split_ifs at hlocate ⊢ <;> exact follow_of_folders h hlocate

theorem entry_eq_ok_iff {disk : Disk} {path : Text} {entry : Entry} :
    disk.entry path = .ok entry ↔
      ∃ names, disk.locate path = .ok names ∧ disk.tree.get? names = some entry := by
  unfold Disk.entry
  cases hl : disk.locate path with
  | error errno => simp [bind, Except.bind]
  | ok names =>
    cases hg : disk.tree.get? names <;> simp [bind, Except.bind, pure, Except.pure, hg]

/-- A path leads to a file with some content. -/
structure HasFile (disk : Disk) (path : Text) (names : List Text) (content : Bytes) : Prop where
  located : disk.locate path = .ok names
  held : disk.tree.node? names = some (.file content)

theorem read_eq_ok_iff {disk : Disk} {path : Text} {content : Bytes} :
    disk.read path = .ok content ↔ ∃ names, disk.HasFile path names content := by
  have : disk.read path = .ok content ↔ disk.entry path = .ok (.file content) := by
    unfold Disk.read
    rcases disk.entry path with e | ⟨c | entries⟩ <;> simp
  rw [this, entry_eq_ok_iff]
  constructor
  · rintro ⟨names, hl, hg⟩
    exact ⟨names, hl, Tree.node?_eq_file_iff.mpr hg⟩
  · rintro ⟨names, h⟩
    exact ⟨names, h.located, Tree.node?_eq_file_iff.mp h.held⟩

theorem isFile_iff {disk : Disk} {path : Text} :
    disk.isFile path = true ↔ ∃ content, disk.read path = .ok content := by
  unfold Disk.isFile Disk.read
  rcases disk.entry path with e | ⟨c | entries⟩ <;> simp

theorem exists?_eq_false_iff {disk : Disk} {path : Text} :
    disk.exists? path = false ↔
      ∀ names, disk.locate path = .ok names → disk.tree.node? names = none := by
  unfold Disk.exists?
  cases he : disk.entry path with
  | ok entry =>
    obtain ⟨names, hl, hg⟩ := entry_eq_ok_iff.mp he
    simp [Except.isOk, Except.toBool, hl, Tree.node?, hg]
  | error errno =>
    simp only [Except.isOk, Except.toBool, true_iff]
    intro names hl
    rcases hg : disk.tree.get? names with _ | entry
    · simp [Tree.node?, hg]
    · rw [entry_eq_ok_iff.mpr ⟨names, hl, hg⟩] at he
      simp at he

/-- Two disks with the same paths, of the same kinds. -/
structure SameShape (disk other : Disk) : Prop where
  here : other.here = disk.here
  folder : ∀ path, disk.tree.node? path = some .folder ↔ other.tree.node? path = some .folder
  absent : ∀ path, disk.tree.node? path = none ↔ other.tree.node? path = none

namespace SameShape

theorem refl (disk : Disk) : disk.SameShape disk := ⟨rfl, fun _ => .rfl, fun _ => .rfl⟩

theorem trans {disk other third : Disk} (h : disk.SameShape other) (h' : other.SameShape third) :
    disk.SameShape third :=
  ⟨h'.here.trans h.here, fun path => (h.folder path).trans (h'.folder path),
    fun path => (h.absent path).trans (h'.absent path)⟩

variable {disk other : Disk} (h : disk.SameShape other)
include h

theorem locate_iff {path : Text} {names : List Text} :
    disk.locate path = .ok names ↔ other.locate path = .ok names :=
  ⟨locate_of_folders disk other h.here fun p => (h.folder p).mp,
    locate_of_folders other disk h.here.symm fun p => (h.folder p).mpr⟩

theorem exists?_eq_false {path : Text} (hnew : disk.exists? path = false) :
    other.exists? path = false := by
  rw [exists?_eq_false_iff] at hnew ⊢
  exact fun names hlocate => (h.absent names).mp (hnew names (h.locate_iff.mpr hlocate))

end SameShape

theorem not_isFile_of_new {disk : Disk} {path : Text} (hnew : disk.exists? path = false) :
    ¬ disk.isFile path = true := by
  intro hfile
  obtain ⟨content, hread⟩ := isFile_iff.mp hfile
  obtain ⟨names, h⟩ := read_eq_ok_iff.mp hread
  have habsent := exists?_eq_false_iff.mp hnew names h.located
  simp [h.held] at habsent

theorem HasFile.writable {disk : Disk} {path : Text} {names : List Text} {content : Bytes}
    (h : disk.HasFile path names content) : disk.tree.Writable names :=
  Tree.writable_of_file h.held

theorem HasFile.unique {disk : Disk} {path : Text} {names names' : List Text}
    {content content' : Bytes} (h : disk.HasFile path names content)
    (h' : disk.HasFile path names' content') : names = names' ∧ content = content' := by
  obtain rfl : names = names' := by simpa [h.located] using h'.located
  exact ⟨rfl, by simpa [h.held] using h'.held⟩

/-- Rewriting a file that is there leaves the shape of the disk. -/
theorem HasFile.sameShape {disk : Disk} {path : Text} {names : List Text} {content : Bytes}
    (h : disk.HasFile path names content) (bytes : Bytes) :
    disk.SameShape { disk with tree := disk.tree.putAt names (.file bytes) } := by
  refine ⟨rfl, fun other => ?_, fun other => ?_⟩ <;>
  · simp only [Tree.node?_putAt h.writable]
    split_ifs with heq
    · simp [heq, h.held]
    · rfl

/-! ## One operation -/

theorem dropSlashes_eq_self {path : Text} (h : path.getLast? ≠ some 0x2F) :
    Path.dropSlashes path = path := by
  unfold Path.dropSlashes
  rcases List.eq_nil_or_concat path with rfl | ⟨front, last, rfl⟩
  · rfl
  · have hlast : Path.isSlash last = false := by simpa [Path.isSlash] using h
    simp [hlast]

/-- Writing a file puts it at the end of its path. -/
theorem write_eq_ok {disk written : Disk} {path : Text} {content : Bytes}
    (h : disk.write path content = .ok written) :
    ∃ names, disk.locate path = .ok names ∧ disk.tree.Writable names ∧
      written = { disk with tree := disk.tree.putAt names (.file content) } := by
  unfold Disk.write at h
  split at h
  · simp at h
  · rename_i names hl
    split at h
    · simp at h
    · rename_i hparent hfolder
      split_ifs at h with hslash
      rw [dropSlashes_eq_self hslash] at hl
      refine ⟨names, hl, ⟨?_, Tree.node?_eq_folder_iff.mpr ⟨_, hparent⟩, ?_⟩,
        (Except.ok.inj h).symm⟩
      · rintro rfl
        exact hfolder _ rfl
      · intro hn
        obtain ⟨entries, hg⟩ := Tree.node?_eq_folder_iff.mp hn
        exact hfolder _ hg
    · simp at h
    · simp at h

/-- A file that was moved stands under its new name. -/
theorem rename_eq_ok {disk after : Disk} {source target : Text}
    (h : disk.rename source target = .ok after) :
    ∃ content names, disk.read source = .ok content ∧ disk.locate target = .ok names ∧
      disk.tree.node? names ≠ some .folder ∧
      after =
        ({ disk with tree := disk.tree.putAt names (.file content) } : Disk).remove source := by
  unfold rename at h
  split at h
  · rename_i content names hread hlocate
    split at h
    · simp at h
    · rename_i hnot
      refine ⟨content, names, hread, hlocate, fun hfolder => ?_, (Except.ok.inj h).symm⟩
      obtain ⟨entries, hget⟩ := Tree.node?_eq_folder_iff.1 hfolder
      exact hnot entries hget
  · simp at h
  · simp at h

/-- A new file has been added to a disk. -/
structure Added (disk : Disk) (path : Text) (names : List Text) (content : Bytes) (after : Disk) :
    Prop where
  located : disk.locate path = .ok names
  writable : disk.tree.Writable names
  absent : disk.tree.node? names = none
  eq_put : after = { disk with tree := disk.tree.putAt names (.file content) }

theorem added_of_write {disk written : Disk} {path : Text} {content : Bytes}
    (hnew : disk.exists? path = false) (h : disk.write path content = .ok written) :
    ∃ names, disk.Added path names content written := by
  obtain ⟨names, hl, hw, heq⟩ := write_eq_ok h
  exact ⟨names, hl, hw, exists?_eq_false_iff.mp hnew names hl, heq⟩

/-- A file that is put in a disk takes the place of no folder. -/
theorem locate_putAt {disk : Disk} {target : List Text} (h : disk.tree.Writable target)
    (content : Bytes) {path : Text} {names : List Text} (hlocate : disk.locate path = .ok names) :
    ({ disk with tree := disk.tree.putAt target (.file content) } : Disk).locate path =
      .ok names := by
  exact locate_of_folders disk { disk with tree := disk.tree.putAt target (.file content) } rfl
    (fun _ => Tree.folder_putAt h content) hlocate

namespace Added

variable {disk after : Disk} {path : Text} {names : List Text} {content : Bytes}
  (h : disk.Added path names content after)
include h

theorem hasFile : after.HasFile path names content := by
  obtain ⟨hl, hw, -, rfl⟩ := h
  exact ⟨locate_putAt hw content hl, by simp [Tree.node?_putAt hw]⟩

theorem isFile : after.isFile path = true :=
  isFile_iff.mpr ⟨content, read_eq_ok_iff.mpr ⟨names, h.hasFile⟩⟩

theorem remove_eq : after.remove path = disk := by
  have hl := h.hasFile.located
  obtain ⟨-, hw, habsent, rfl⟩ := h
  rw [Disk.remove, hl]
  simp only [Tree.eraseAt_putAt hw habsent]

/-- Moved over a file that is there, the new file takes its place and leaves no trace. -/
theorem rename_eq {target : Text} {old : List Text} {bytes : Bytes}
    (htarget : disk.HasFile target old bytes) :
    after.rename path target =
      .ok { disk with tree := disk.tree.putAt old (.file content) } := by
  have hread : after.read path = .ok content := read_eq_ok_iff.mpr ⟨names, h.hasFile⟩
  obtain ⟨hl, hw, habsent, rfl⟩ := h
  have hne : names ≠ old := by
    rintro rfl
    simp [htarget.held] at habsent
  have hold : (disk.tree.putAt names (.file content)).node? old = some (.file bytes) := by
    rw [Tree.node?_putAt hw, if_neg hne.symm, htarget.held]
  -- seen from the disk with the target rewritten, what is moved away is a file that was added
  have hadded : Added { disk with tree := disk.tree.putAt old (.file content) } path names content
      { disk with tree := (disk.tree.putAt names (.file content)).putAt old (.file content) } := by
    refine ⟨locate_putAt htarget.writable content hl, hw.putAt htarget.writable content, ?_, ?_⟩
    · rw [Tree.node?_putAt htarget.writable, if_neg hne, habsent]
    · rw [Tree.putAt_comm htarget.held hw habsent]
  rw [Disk.rename, hread, locate_putAt hw content htarget.located]
  simp only [Tree.node?_eq_file_iff.mp hold, hadded.remove_eq]

end Added

/-! ## The whole replacement -/

/-- Writing a new file adds it, perhaps cut short, or leaves the disk as it is. -/
theorem writeUpTo_cases {disk written : Disk} {path : Text} {content : Bytes}
    {interruption : Option Interruption} {failure : Option FileError}
    (hnew : disk.exists? path = false)
    (h : writeUpTo interruption disk path content = (written, failure)) :
    (written = disk ∧ failure ≠ none) ∨
      ∃ names bytes, disk.Added path names bytes written ∧ (failure = none → bytes = content) := by
  unfold writeUpTo at h
  split at h
  · split at h
    · rename_i hwrite
      obtain ⟨rfl, rfl⟩ := Prod.mk.inj h
      obtain ⟨names, hadded⟩ := added_of_write hnew hwrite
      exact .inr ⟨names, _, hadded, by simp⟩
    · obtain ⟨rfl, rfl⟩ := Prod.mk.inj h
      exact .inl ⟨rfl, by simp⟩
  · rename_i hwrite
    obtain ⟨rfl, rfl⟩ := Prod.mk.inj h
    obtain ⟨names, hadded⟩ := added_of_write hnew hwrite
    exact .inr ⟨names, content, hadded, fun _ => rfl⟩
  · obtain ⟨rfl, rfl⟩ := Prod.mk.inj h
    exact .inl ⟨rfl, by simp⟩

/-- Moving a new file over a file that is there rewrites that file, or is cut short. -/
theorem moveOver_cases {disk written : Disk} {path target : Text} {names old : List Text}
    {content bytes : Bytes} (interruption : Option Interruption)
    (hadded : disk.Added path names content written) (htarget : disk.HasFile target old bytes) :
    moveOver interruption written path target =
        .ok { disk with tree := disk.tree.putAt old (.file content) } ∨
      ∃ error, moveOver interruption written path target = .error error := by
  unfold moveOver
  split
  · exact .inr ⟨_, rfl⟩
  · exact .inl (hadded.rename_eq htarget)

/-- A replacement fails and leaves the disk as it is, or rewrites the one file. -/
theorem replace_cases {disk : Disk} {tag path : Text} {names : List Text} {old : Bytes}
    (interruption : Option Interruption) (content : Bytes) (htarget : disk.HasFile path names old)
    (hnew : disk.exists? (besidePath tag path) = false) :
    (∃ failure, disk.replace tag interruption path content = (disk, some failure)) ∨
      disk.replace tag interruption path content =
        ({ disk with tree := disk.tree.putAt names (.file content) }, none) := by
  unfold Disk.replace
  rcases hwrite : writeUpTo interruption disk (besidePath tag path) content with ⟨written, failure⟩
  have hcases := writeUpTo_cases hnew hwrite
  cases disk.obstacle? path with
  | some cause => exact .inl ⟨_, rfl⟩
  | none =>
    cases failure with
    | some cause =>
      refine .inl ⟨⟨path, cause⟩, ?_⟩
      obtain ⟨rfl, -⟩ | ⟨beside, bytes, hadded, -⟩ := hcases
      · simp only [hwrite, if_neg (not_isFile_of_new hnew)]
      · simp only [hwrite, if_pos hadded.isFile, hadded.remove_eq]
    | none =>
      obtain ⟨-, hne⟩ | ⟨beside, bytes, hadded, hbytes⟩ := hcases
      · exact absurd rfl hne
      obtain rfl := hbytes rfl
      obtain hmove | ⟨error, hmove⟩ := moveOver_cases interruption hadded htarget
      · exact .inr (by simp only [hwrite, hmove])
      · refine .inl ⟨⟨path, error⟩, ?_⟩
        simp only [hwrite, hmove, if_pos hadded.isFile, hadded.remove_eq]

end Disk

end Remedy
