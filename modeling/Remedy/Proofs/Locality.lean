import Remedy.Proofs.Paths

/-!
# Operations on a disk are local

An operation on a path leaves all else alone (`write_frame`, `replace_frame`), and what lies outside
the folder it works in makes no difference to it: on two disks that have the folder in common it
gives the same result, and leaves them with the same folder (`write_local`, `replace_local`).
-/

namespace Remedy

/-! ## What an operation leaves alone -/

namespace Disk

open Remedy.Path

variable {disk after : Disk} {path source target tag : Text} {names front other : List Text}

theorem write_frame {content : Bytes} (hpath : Spells path names)
    (h : disk.write path content = .ok after) (hother : ¬ names <+: other) :
    after.tree.node? other = disk.tree.node? other := by
  obtain ⟨found, hlocate, -, rfl⟩ := write_eq_ok h
  obtain rfl := hpath.eq_of_locate hlocate
  exact Tree.node?_putAt_of_not_below hother _ _

theorem remove_frame (hpath : Spells path names) (hother : ¬ names <+: other) :
    (disk.remove path).tree.node? other = disk.tree.node? other := by
  unfold remove
  split
  · rename_i found hlocate
    obtain rfl := hpath.eq_of_locate hlocate
    exact Tree.node?_eraseAt_of_not_below hother _
  · rfl

theorem rename_frame {old : List Text} (hsource : Spells source names) (htarget : Spells target old)
    (h : disk.rename source target = .ok after) (hother : ¬ names <+: other)
    (hold : ¬ old <+: other) : after.tree.node? other = disk.tree.node? other := by
  obtain ⟨content, found, -, hlocate, -, rfl⟩ := rename_eq_ok h
  obtain rfl := htarget.eq_of_locate hlocate
  rw [remove_frame hsource hother]
  exact Tree.node?_putAt_of_not_below hold _ _

theorem writeUpTo_frame (disk : Disk) (content : Bytes) (interruption : Option Interruption)
    (hpath : Spells path names) (hother : ¬ names <+: other) :
    (writeUpTo interruption disk path content).1.tree.node? other = disk.tree.node? other := by
  unfold writeUpTo
  split
  · split
    · exact write_frame hpath ‹_› hother
    · rfl
  · exact write_frame hpath ‹_› hother
  · rfl

/-- A replacement touches the file and the one beside it. -/
theorem replace_frame {last : Text} (interruption : Option Interruption) (content : Bytes)
    (htag : 0x2F ∉ tag) (hpath : Spells path (front ++ [last]))
    (hother : ¬ front ++ [last] <+: other) (hbeside : ¬ front ++ [besideName tag last] <+: other) :
    (disk.replace tag interruption path content).1.tree.node? other = disk.tree.node? other := by
  have hspells := hpath.besidePath htag
  have hwritten := writeUpTo_frame disk content interruption hspells hbeside
  have hundo (d : Disk) : (if d.isFile (besidePath tag path) = true then
      d.remove (besidePath tag path) else d).tree.node? other = d.tree.node? other := by
    split_ifs
    · exact remove_frame hspells hbeside
    · rfl
  unfold replace
  dsimp only
  split
  · rfl
  · rename_i written cause _ hwrite
    rw [hwrite] at hwritten
    rw [hundo, hwritten]
  · rename_i written _ hwrite
    rw [hwrite] at hwritten
    split
    · rename_i moved hmove
      unfold moveOver at hmove
      split at hmove
      · simp at hmove
      · rw [rename_frame hspells hpath hmove hbeside hother, hwritten]
    · rw [hundo, hwritten]

/-! ## What an operation does not depend on -/

/-- Two disks have the folder at the end of a path in common. -/
def SameFolder (root : List Text) (disk other : Disk) : Prop :=
  ∃ entries, disk.tree.get? root = some (.folder entries) ∧
    other.tree.get? root = some (.folder entries)

/-- Two operations have the same result, and leave the folder in common. -/
structure SameOutcome {α : Type} (root : List Text) (a b : Disk × α) : Prop where
  folder : SameFolder root a.1 b.1
  result : a.2 = b.2

/-- Two operations fail alike, or both leave the folder in common. -/
inductive SameEffect (root : List Text) : Except FileError Disk → Except FileError Disk → Prop where
  | error (e : FileError) : SameEffect root (.error e) (.error e)
  | ok {disk other : Disk} (h : SameFolder root disk other) : SameEffect root (.ok disk) (.ok other)

/-- Names that stand for themselves are followed by what is found on the way. -/
theorem follow_congr {t u : Tree} {here names rest : List Text}
    (hnames : ∀ name ∈ names, IsName name) (hrest : rest = [] ∨ rest = [dot])
    (h : ∀ front, front <+: names → t.node? (here ++ front) = u.node? (here ++ front)) :
    follow t here (names ++ rest) = follow u here (names ++ rest) := by
  induction names generalizing here with
  | nil => obtain rfl | rfl := hrest <;> rfl
  | cons name names ih =>
    rw [List.forall_mem_cons] at hnames
    have hnext : follow t (here ++ [name]) (names ++ rest) =
        follow u (here ++ [name]) (names ++ rest) := by
      refine ih hnames.2 fun front hfront => ?_
      rw [List.append_assoc, List.singleton_append]
      exact h _ (List.cons_prefix_cons.2 ⟨rfl, hfront⟩)
    have hhere := h [name] (List.cons_prefix_cons.2 ⟨rfl, List.nil_prefix⟩)
    simp only [List.cons_append, follow, if_neg hnames.1.ne_dot, if_neg hnames.1.ne_dots]
    rcases ht : t.get? (here ++ [name]) with _ | ⟨content | entries⟩ <;>
      rcases hu : u.get? (here ++ [name]) with _ | ⟨content' | entries'⟩ <;>
      simp [Tree.node?, ht, hu, Entry.node, hnext] at hhere ⊢

namespace SameFolder

variable {root : List Text} {other : Disk} (h : SameFolder root disk other)
include h

theorem get?_eq {names : List Text} (hnames : root <+: names) :
    disk.tree.get? names = other.tree.get? names := by
  obtain ⟨entries, hdisk, hother⟩ := h
  obtain ⟨below, rfl⟩ := hnames
  rw [Tree.get?_append hdisk, Tree.get?_append hother]

/-- All that stands above a folder are folders. -/
theorem node?_eq_of_above {names : List Text} (hnames : names <+: root) :
    disk.tree.node? names = other.tree.node? names := by
  obtain ⟨entries, hdisk, hother⟩ := h
  obtain ⟨below, rfl⟩ := hnames
  have hdisk := Tree.node?_eq_folder_iff.2 ⟨entries, hdisk⟩
  have hother := Tree.node?_eq_folder_iff.2 ⟨entries, hother⟩
  by_cases hbelow : below = []
  · rw [hbelow, List.append_nil] at hdisk hother
    rw [hdisk, hother]
  · rw [Tree.folder_of_append hbelow hdisk, Tree.folder_of_append hbelow hother]

theorem locate_eq (hpath : Spells path names) (hroot : root <+: names) :
    disk.locate path = other.locate path := by
  have hwritten : (split path).filter (fun name => !name.isEmpty) = names := hpath.written_eq
  have hon : ∀ front, front <+: names →
      disk.tree.node? ([] ++ front) = other.tree.node? ([] ++ front) := by
    intro front hfront
    rw [List.nil_append]
    obtain hin | habove := List.prefix_or_prefix_of_prefix hroot hfront
    · rw [Tree.node?, Tree.node?, h.get?_eq hin]
    · exact h.node?_eq_of_above habove
  simp only [locate, hpath.isAbsolute, if_true, hwritten]
  split_ifs
  · rfl
  · rfl
  · rfl
  · exact follow_congr hpath.isName (.inr rfl) hon
  · simpa using follow_congr hpath.isName (.inl rfl) hon

theorem entry_eq (hpath : Spells path names) (hroot : root <+: names) :
    disk.entry path = other.entry path := by
  unfold entry
  rw [h.locate_eq hpath hroot]
  cases hlocate : other.locate path with
  | error errno => rfl
  | ok found =>
    obtain rfl := hpath.eq_of_locate hlocate
    simp only [bind, Except.bind, h.get?_eq hroot]

theorem read_eq (hpath : Spells path names) (hroot : root <+: names) :
    disk.read path = other.read path := by
  rw [read, read, h.entry_eq hpath hroot]

theorem isFile_eq (hpath : Spells path names) (hroot : root <+: names) :
    disk.isFile path = other.isFile path := by
  rw [isFile, isFile, h.entry_eq hpath hroot]

theorem putAt (hroot : root <+: front) (last : Text) (entry : Entry) :
    SameFolder root { disk with tree := disk.tree.putAt (front ++ [last]) entry }
      { other with tree := other.tree.putAt (front ++ [last]) entry } := by
  obtain ⟨entries, hdisk, hother⟩ := h
  obtain ⟨below, rfl⟩ := hroot
  exact ⟨_, Tree.get?_putAt hdisk below last entry, Tree.get?_putAt hother below last entry⟩

theorem eraseAt (hroot : root <+: front) (last : Text) :
    SameFolder root { disk with tree := disk.tree.eraseAt (front ++ [last]) }
      { other with tree := other.tree.eraseAt (front ++ [last]) } := by
  obtain ⟨entries, hdisk, hother⟩ := h
  obtain ⟨below, rfl⟩ := hroot
  exact ⟨_, Tree.get?_eraseAt hdisk below last, Tree.get?_eraseAt hother below last⟩

end SameFolder

section Local

variable {root : List Text} {other : Disk} {last : Text}

theorem write_local (h : SameFolder root disk other) (hpath : Spells path (front ++ [last]))
    (hroot : root <+: front) (content : Bytes) :
    SameEffect root (disk.write path content) (other.write path content) := by
  have hin : root <+: front ++ [last] := hroot.trans (List.prefix_append _ _)
  have hopen : Spells (dropSlashes path) (front ++ [last]) :=
    ⟨hpath.isName, .inl hpath.dropSlashes_eq⟩
  unfold write
  rw [h.locate_eq hopen hin]
  cases hlocate : other.locate (dropSlashes path) with
  | error errno => exact .error _
  | ok found =>
    obtain rfl := hopen.eq_of_locate hlocate
    have hput (refused : FileError) : SameEffect root
        (if path.getLast? = some 0x2F then .error refused
          else .ok { disk with tree := disk.tree.putAt (front ++ [last]) (.file content) })
        (if path.getLast? = some 0x2F then .error refused
          else .ok { other with tree := other.tree.putAt (front ++ [last]) (.file content) }) := by
      split_ifs
      · exact .error _
      · exact .ok (h.putAt hroot last _)
    simp only [h.get?_eq hin, List.dropLast_concat, h.get?_eq hroot]
    rcases other.tree.get? (front ++ [last]) with _ | ⟨old | folder⟩ <;>
      rcases other.tree.get? front with _ | ⟨bytes | entries⟩ <;>
      first | exact .error _ | exact hput _

theorem remove_local (h : SameFolder root disk other) (hpath : Spells path (front ++ [last]))
    (hroot : root <+: front) : SameFolder root (disk.remove path) (other.remove path) := by
  unfold remove
  rw [h.locate_eq hpath (hroot.trans (List.prefix_append _ _))]
  cases hlocate : other.locate path with
  | error errno => exact h
  | ok found =>
    obtain rfl := hpath.eq_of_locate hlocate
    exact h.eraseAt hroot last

theorem rename_local {old : Text} (h : SameFolder root disk other)
    (hsource : Spells source (front ++ [last])) (htarget : Spells target (front ++ [old]))
    (hroot : root <+: front) :
    SameEffect root (disk.rename source target) (other.rename source target) := by
  have hin (name : Text) : root <+: front ++ [name] := hroot.trans (List.prefix_append _ _)
  unfold rename
  rw [h.read_eq hsource (hin last), h.locate_eq htarget (hin old)]
  cases other.read source with
  | error e => exact .error _
  | ok content =>
    cases hlocate : other.locate target with
    | error errno => exact .error _
    | ok found =>
      obtain rfl := htarget.eq_of_locate hlocate
      simp only [h.get?_eq (hin old)]
      rcases other.tree.get? (front ++ [old]) with _ | ⟨bytes | entries⟩
      · exact .ok (remove_local (h.putAt hroot old _) hsource hroot)
      · exact .ok (remove_local (h.putAt hroot old _) hsource hroot)
      · exact .error _

theorem writeUpTo_local (h : SameFolder root disk other) (hpath : Spells path (front ++ [last]))
    (hroot : root <+: front) (content : Bytes) (interruption : Option Interruption) :
    SameOutcome root (writeUpTo interruption disk path content)
      (writeUpTo interruption other path content) := by
  unfold writeUpTo
  have hwhole := write_local h hpath hroot content
  generalize disk.write path content = a, other.write path content = b at hwhole
  cases hwhole with
  | error e =>
    rcases interruption with _ | ⟨error, lasting⟩ | ⟨written, error⟩ | error <;> exact ⟨h, rfl⟩
  | ok hwhole =>
    rcases interruption with _ | ⟨error, lasting⟩ | ⟨written, error⟩ | error
    · exact ⟨hwhole, rfl⟩
    · exact ⟨hwhole, rfl⟩
    · have hpart := write_local h hpath hroot (content.take written)
      dsimp only
      generalize disk.write path _ = a, other.write path _ = b at hpart
      cases hpart with
      | error e => exact ⟨h, rfl⟩
      | ok hpart => exact ⟨hpart, rfl⟩
    · exact ⟨hwhole, rfl⟩

theorem moveOver_local {old : Text} (h : SameFolder root disk other)
    (hsource : Spells source (front ++ [last])) (htarget : Spells target (front ++ [old]))
    (hroot : root <+: front) (interruption : Option Interruption) :
    SameEffect root (moveOver interruption disk source target)
      (moveOver interruption other source target) := by
  have hmove := rename_local h hsource htarget hroot
  rcases interruption with _ | ⟨error, lasting⟩ | ⟨written, error⟩ | error
  · exact hmove
  · exact hmove
  · exact hmove
  · exact .error error

/-- A replacement looks at nothing outside the folder. -/
theorem replace_local (h : SameFolder root disk other) (htag : 0x2F ∉ tag)
    (hpath : Spells path (front ++ [last])) (hroot : root <+: front) (content : Bytes)
    (interruption : Option Interruption) :
    SameOutcome root (disk.replace tag interruption path content)
      (other.replace tag interruption path content) := by
  have hspells := hpath.besidePath htag
  have hundo {d o : Disk} (h : SameFolder root d o) :
      SameFolder root
        (if d.isFile (besidePath tag path) = true then d.remove (besidePath tag path) else d)
        (if o.isFile (besidePath tag path) = true then o.remove (besidePath tag path) else o) := by
    rw [h.isFile_eq hspells (hroot.trans (List.prefix_append _ _))]
    split_ifs
    · exact remove_local h hspells hroot
    · exact h
  have hwrite := writeUpTo_local h hspells hroot content interruption
  have hobstacle : disk.obstacle? path = other.obstacle? path := by
    rw [obstacle?, obstacle?, h.locate_eq hpath (hroot.trans (List.prefix_append _ _))]
  unfold replace
  dsimp only
  rw [hobstacle]
  generalize writeUpTo interruption disk (besidePath tag path) content = a,
    writeUpTo interruption other (besidePath tag path) content = b at hwrite
  obtain ⟨written, failure⟩ := a
  obtain ⟨written', failure'⟩ := b
  obtain ⟨hwritten, rfl⟩ := hwrite
  cases other.obstacle? path with
  | some cause => exact ⟨h, rfl⟩
  | none =>
    cases failure with
    | some cause => exact ⟨hundo hwritten, rfl⟩
    | none =>
      have hmove := moveOver_local hwritten hspells hpath hroot interruption
      dsimp only at hmove ⊢
      generalize moveOver interruption written _ path = a, moveOver interruption written' _ path = b
        at hmove
      cases hmove with
      | error e => exact ⟨hundo hwritten, rfl⟩
      | ok hmoved => exact ⟨hmoved, rfl⟩

end Local

end Disk

end Remedy
