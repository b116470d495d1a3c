import Remedy.Proofs.Lists
import Remedy.Proofs.Paths
import Remedy.Proofs.Texts
import Remedy.Scan.Walk

/-!
# What a walk selects

A walk decides on its way down which folders it enters, and makes up the paths as it goes. What it
finds can be told without a walk: a file is selected if its own path is wanted and not left out, and
no folder above it is left out or closed (`IsChosen`). `walk_exact` shows this for trees whose names
are as a file system has them (`Tree.IsDirectory`), so that different files have different paths,
and `select_exact` for the sorted list.
-/

namespace Remedy

open Remedy.Path

/-! ## Directory trees -/

instance (name : Text) : Decidable (IsName name) :=
  decidable_of_iff (name ≠ [] ∧ name ≠ dot ∧ name ≠ dots ∧ 0x2F ∉ name)
    ⟨fun h => ⟨h.1, h.2.1, h.2.2.1, h.2.2.2⟩,
      fun h => ⟨h.ne_nil, h.ne_dot, h.ne_dots, h.no_slash⟩⟩

namespace Tree

/-- Entries as a file system has them: a name can stand in a path, and no two are the same. -/
inductive IsDirectory : Tree → Prop
  | empty : IsDirectory .empty
  | file {name : Text} {content : Bytes} {rest : Tree} (hname : IsName name)
      (hnew : rest.find? name = none) (hrest : IsDirectory rest) :
      IsDirectory (.file name content rest)
  | folder {name : Text} {entries rest : Tree} (hname : IsName name)
      (hnew : rest.find? name = none) (hentries : IsDirectory entries)
      (hrest : IsDirectory rest) : IsDirectory (.folder name entries rest)

/-- Whether a tree is a directory can be computed. -/
instance decidableIsDirectory : (t : Tree) → Decidable t.IsDirectory
  | .empty => .isTrue .empty
  | .file name _ rest =>
    have := decidableIsDirectory rest
    decidable_of_iff (IsName name ∧ rest.find? name = none ∧ rest.IsDirectory)
      ⟨fun h => .file h.1 h.2.1 h.2.2, fun h => by cases h; exact ⟨‹_›, ‹_›, ‹_›⟩⟩
  | .folder name entries rest =>
    have := decidableIsDirectory entries
    have := decidableIsDirectory rest
    decidable_of_iff
      (IsName name ∧ rest.find? name = none ∧ entries.IsDirectory ∧ rest.IsDirectory)
      ⟨fun h => .folder h.1 h.2.1 h.2.2.1 h.2.2.2,
        fun h => by cases h; exact ⟨‹_›, ‹_›, ‹_›, ‹_›⟩⟩

/-- A path of names leads to a file. -/
def HasFile (t : Tree) (names : List Text) : Prop := ∃ content, t.get? names = some (.file content)

theorem hasFile_iff_node? {t : Tree} {names : List Text} :
    t.HasFile names ↔ ∃ content, t.node? names = some (.file content) := by
  simp only [HasFile, node?_eq_file_iff]

theorem not_hasFile_nil (t : Tree) : ¬ t.HasFile [] := by
  simp [hasFile_iff_node?]

theorem HasFile.ne_nil {t : Tree} {names : List Text} (h : t.HasFile names) : names ≠ [] := by
  rintro rfl
  exact not_hasFile_nil t h

theorem not_hasFile_of_none {t : Tree} {name : Text} (h : t.find? name = none)
    (names : List Text) : ¬ t.HasFile (name :: names) := by
  simp [hasFile_iff_node?, node?_of_none h]

theorem hasFile_congr {t u : Tree} {name : Text} (h : t.find? name = u.find? name)
    (names : List Text) : t.HasFile (name :: names) ↔ u.HasFile (name :: names) := by
  simp only [hasFile_iff_node?, node?_congr h]

theorem hasFile_file_iff {name : Text} {content : Bytes} {rest : Tree}
    (hnew : rest.find? name = none) {names : List Text} :
    (file name content rest).HasFile names ↔ names = [name] ∨ rest.HasFile names := by
  cases names with
  | nil => simp [not_hasFile_nil]
  | cons n names =>
    by_cases hn : name = n
    · subst hn
      have hfind : (file name content rest).find? name = some (.file content) := if_pos rfl
      have hfile : (file name content rest).HasFile (name :: names) ↔ names = [] := by
        by_cases hnil : names = [] <;> simp [hasFile_iff_node?, node?_of_file hfind, hnil]
      simp [hfile, not_hasFile_of_none hnew]
    · have hfind : (file name content rest).find? n = rest.find? n := if_neg hn
      simp [hasFile_congr hfind, Ne.symm hn]

theorem hasFile_folder_iff {name : Text} {entries rest : Tree}
    (hnew : rest.find? name = none) {names : List Text} :
    (folder name entries rest).HasFile names ↔
      (∃ below, names = name :: below ∧ entries.HasFile below) ∨ rest.HasFile names := by
  cases names with
  | nil => simp [not_hasFile_nil]
  | cons n names =>
    by_cases hn : name = n
    · subst hn
      have hfind : (folder name entries rest).find? name = some (.folder entries) := if_pos rfl
      have hfile : (folder name entries rest).HasFile (name :: names) ↔ entries.HasFile names := by
        simp only [hasFile_iff_node?, node?_of_folder hfind]
      simp [hfile, not_hasFile_of_none hnew]
    · have hfind : (folder name entries rest).find? n = rest.find? n := if_neg hn
      simp [hasFile_congr hfind, Ne.symm hn]

theorem IsDirectory.isName {t : Tree} (ht : t.IsDirectory) {names : List Text}
    (h : t.HasFile names) : ∀ name ∈ names, IsName name := by
  induction ht generalizing names with
  | empty =>
    cases names with
    | nil => simp
    | cons n names => exact absurd h (not_hasFile_of_none rfl names)
  | file hname hnew _ ih =>
    rcases (hasFile_file_iff hnew).1 h with rfl | h
    · simpa using hname
    · exact ih h
  | folder hname hnew _ _ ihentries ih =>
    rcases (hasFile_folder_iff hnew).1 h with ⟨below, rfl, hbelow⟩ | h
    · exact List.forall_mem_cons.2 ⟨hname, ihentries hbelow⟩
    · exact ih h

/-- Different files have different paths. -/
theorem IsDirectory.ofNames_injective {t : Tree} (ht : t.IsDirectory) {a b : List Text}
    (ha : t.HasFile a) (hb : t.HasFile b) (h : ofNames a = ofNames b) : a = b := by
  rw [← written_ofNames (ht.isName ha), h, written_ofNames (ht.isName hb)]

end Tree

/-! ## Chosen paths -/

section Chosen

variable (wanted unwanted : Text → Bool)

/-- The file at the end of some names is wanted and not left out, and so far every folder on the way
to it may be entered. The names start below the folder with the path `above`. -/
structure IsChosen (above : Text) (names : List Text) : Prop where
  is_wanted : wanted (above ++ ofNames names) = true
  not_unwanted : unwanted (above ++ ofNames names) = false
  entered : ∀ front last, front ++ [last] <+: names → front ++ [last] ≠ names →
    unwanted (above ++ ofNames (front ++ [last])) = false ∧ isClosedFolder last = false

variable {wanted unwanted} {above : Text}

theorem isChosen_singleton_iff {name : Text} :
    IsChosen wanted unwanted above [name] ↔
      unwanted (above ++ name) = false ∧ wanted (above ++ name) = true := by
  constructor
  · intro h
    exact ⟨by simpa using h.not_unwanted, by simpa using h.is_wanted⟩
  · rintro ⟨hun, hw⟩
    refine ⟨by simpa using hw, by simpa using hun, fun front last hpre hne => ?_⟩
    exact absurd (hpre.eq_of_length (Nat.le_antisymm hpre.length_le (by simp))) hne

theorem above_ofNames_cons {name : Text} {below : List Text} (h : below ≠ []) :
    above ++ ofNames (name :: below) = above ++ name ++ [0x2F] ++ ofNames below := by
  cases below with
  | nil => exact absurd rfl h
  | cons b below => rw [ofNames_cons_cons]; simp

theorem isChosen_cons_iff {name : Text} {below : List Text} (h : below ≠ []) :
    IsChosen wanted unwanted above (name :: below) ↔
      unwanted (above ++ name) = false ∧ isClosedFolder name = false ∧
        IsChosen wanted unwanted (above ++ name ++ [0x2F]) below := by
  constructor
  · intro hc
    have hfirst := hc.entered [] name (by simp) (by simpa using h.symm)
    refine ⟨by simpa using hfirst.1, hfirst.2, ?_, ?_, fun front last hpre hne => ?_⟩
    · rw [← above_ofNames_cons h]
      exact hc.is_wanted
    · rw [← above_ofNames_cons h]
      exact hc.not_unwanted
    · rw [← above_ofNames_cons (by simp)]
      exact hc.entered (name :: front) last (List.cons_prefix_cons.2 ⟨rfl, hpre⟩)
        (by simpa using hne)
  · rintro ⟨hun, hclosed, hc⟩
    refine ⟨above_ofNames_cons h ▸ hc.is_wanted, above_ofNames_cons h ▸ hc.not_unwanted, ?_⟩
    intro front last hpre hne
    cases front with
    | nil =>
      obtain rfl := (List.cons_prefix_cons.1 hpre).1
      exact ⟨by simpa using hun, hclosed⟩
    | cons n front =>
      obtain ⟨rfl, hbelow⟩ := List.cons_prefix_cons.1 hpre
      rw [List.cons_append, above_ofNames_cons (by simp)]
      exact hc.entered front last hbelow (by simpa using hne)

variable (wanted unwanted above) in
/-- A path is that of a chosen file. -/
def Tree.Selects (t : Tree) (path : Text) : Prop :=
  ∃ names, t.HasFile names ∧ IsChosen wanted unwanted above names ∧ path = above ++ ofNames names

theorem not_selects_empty (path : Text) : ¬ Tree.empty.Selects wanted unwanted above path := by
  rintro ⟨_ | ⟨name, names⟩, hfile, -⟩
  · exact Tree.not_hasFile_nil _ hfile
  · exact Tree.not_hasFile_of_none rfl names hfile

section Entry

variable {name path : Text} {content : Bytes} {entries rest : Tree}

theorem selects_file_iff (hnew : rest.find? name = none) :
    (Tree.file name content rest).Selects wanted unwanted above path ↔
      (unwanted (above ++ name) = false ∧ wanted (above ++ name) = true ∧ path = above ++ name) ∨
        rest.Selects wanted unwanted above path := by
  constructor
  · rintro ⟨names, hfile, hchosen, rfl⟩
    rcases (Tree.hasFile_file_iff hnew).1 hfile with rfl | hfile
    · obtain ⟨hun, hw⟩ := isChosen_singleton_iff.1 hchosen
      exact .inl ⟨hun, hw, by simp⟩
    · exact .inr ⟨names, hfile, hchosen, rfl⟩
  · rintro (⟨hun, hw, rfl⟩ | ⟨names, hfile, hchosen, rfl⟩)
    · exact ⟨[name], (Tree.hasFile_file_iff hnew).2 (.inl rfl),
        isChosen_singleton_iff.2 ⟨hun, hw⟩, by simp⟩
    · exact ⟨names, (Tree.hasFile_file_iff hnew).2 (.inr hfile), hchosen, rfl⟩

theorem selects_folder_iff (hnew : rest.find? name = none) :
    (Tree.folder name entries rest).Selects wanted unwanted above path ↔
      (unwanted (above ++ name) = false ∧ isClosedFolder name = false ∧
        entries.Selects wanted unwanted (above ++ name ++ [0x2F]) path) ∨
        rest.Selects wanted unwanted above path := by
  constructor
  · rintro ⟨names, hfile, hchosen, rfl⟩
    rcases (Tree.hasFile_folder_iff hnew).1 hfile with ⟨below, rfl, hbelow⟩ | hfile
    · obtain ⟨hun, hopen, hchosen⟩ := (isChosen_cons_iff hbelow.ne_nil).1 hchosen
      exact .inl ⟨hun, hopen, below, hbelow, hchosen, above_ofNames_cons hbelow.ne_nil⟩
    · exact .inr ⟨names, hfile, hchosen, rfl⟩
  · rintro (⟨hun, hopen, below, hbelow, hchosen, rfl⟩ | ⟨names, hfile, hchosen, rfl⟩)
    · exact ⟨name :: below, (Tree.hasFile_folder_iff hnew).2 (.inl ⟨below, rfl, hbelow⟩),
        (isChosen_cons_iff hbelow.ne_nil).2 ⟨hun, hopen, hchosen⟩,
        (above_ofNames_cons hbelow.ne_nil).symm⟩
    · exact ⟨names, (Tree.hasFile_folder_iff hnew).2 (.inr hfile), hchosen, rfl⟩

/-- The path of a file below the first entry is not selected among the others. -/
theorem not_selects_of_first {t : Tree} (ht : t.IsDirectory) (hnew : rest.find? name = none)
    (hrest : ∀ names, rest.HasFile names → t.HasFile names) {below : List Text}
    (hfile : t.HasFile (name :: below)) :
    ¬ rest.Selects wanted unwanted above (above ++ ofNames (name :: below)) := by
  rintro ⟨names, hnames, -, hpath⟩
  obtain rfl := ht.ofNames_injective hfile (hrest names hnames) (List.append_cancel_left hpath)
  exact Tree.not_hasFile_of_none hnew below hnames

theorem not_selects_of_file (ht : (Tree.file name content rest).IsDirectory)
    (hnew : rest.find? name = none) : ¬ rest.Selects wanted unwanted above (above ++ name) := by
  have hfile (names : List Text) : (Tree.file name content rest).HasFile names ↔ _ :=
    Tree.hasFile_file_iff hnew
  have hfirst : ¬ rest.Selects wanted unwanted above (above ++ ofNames [name]) :=
    not_selects_of_first ht hnew (fun names hnames => (hfile names).2 (.inr hnames))
      ((hfile [name]).2 (.inl rfl))
  rwa [ofNames_singleton] at hfirst

theorem not_selects_of_folder (ht : (Tree.folder name entries rest).IsDirectory)
    (hnew : rest.find? name = none)
    (h : entries.Selects wanted unwanted (above ++ name ++ [0x2F]) path) :
    ¬ rest.Selects wanted unwanted above path := by
  obtain ⟨below, hbelow, -, rfl⟩ := h
  have hfile (names : List Text) : (Tree.folder name entries rest).HasFile names ↔ _ :=
    Tree.hasFile_folder_iff hnew
  rw [← above_ofNames_cons hbelow.ne_nil]
  exact not_selects_of_first ht hnew (fun names hnames => (hfile names).2 (.inr hnames))
    ((hfile _).2 (.inl ⟨below, rfl, hbelow⟩))

end Entry

end Chosen

/-! ## Walks -/

/-- A selection asks for each pattern of two lists whether a path matches it. -/
structure Selection.Asks (selection : Selection) (glob : Text → Text → Bool)
    (included excluded : List Text) : Prop where
  included_eq : ∀ path, selection.included path = .ok (included.any (glob path))
  excluded_eq : ∀ path, selection.excluded path = .ok (excluded.any (glob path))

/-- Whether a path matches a pattern that can be read. -/
def Glob.answer (path pattern : Text) : Bool := (matches? path pattern).toOption.getD false

/-- A pattern that can be read has an answer for every path. -/
theorem Glob.matches?_eq_answer {pattern : Text} (h : (matches? [] pattern).isOk = true)
    (path : Text) : matches? path pattern = .ok (answer path pattern) := by
  suffices hok : ∃ b, matches? path pattern = .ok b by
    obtain ⟨b, hb⟩ := hok
    rw [answer, hb]
    rfl
  unfold matches? at h ⊢
  split_ifs at h ⊢
  · cases h
  · exact ⟨_, rfl⟩
  · exact ⟨_, rfl⟩
  · -- only the parts of the pattern are read, and they are the same for every path
    dsimp only at h ⊢
    generalize List.mapM (fun parts : List Text => parts.mapM Part.read) _ = patterns at h ⊢
    cases patterns with
    | error fault => cases h
    | ok patterns => exact ⟨_, rfl⟩

theorem Selection.asks_ofPatterns {included excluded : List Text}
    (h : ∀ pattern ∈ included ++ excluded, (Glob.matches? [] pattern).isOk = true) :
    (Selection.ofPatterns included excluded).Asks Glob.answer included excluded where
  included_eq path := anyM_eq_ok fun pattern hpattern =>
    Glob.matches?_eq_answer (h pattern (List.mem_append_left _ hpattern)) path
  excluded_eq path := anyM_eq_ok fun pattern hpattern =>
    Glob.matches?_eq_answer (h pattern (List.mem_append_right _ hpattern)) path

section Walk

variable {selection : Selection} {glob : Text → Text → Bool} {included excluded : List Text}
  (hasks : selection.Asks glob included excluded)

include hasks

theorem walk_file {above name : Text} {content : Bytes} {rest : Tree} {others : List Text}
    (hrest : rest.walk selection above = .ok others) :
    (Tree.file name content rest).walk selection above = .ok
      (if !excluded.any (glob (above ++ name)) && included.any (glob (above ++ name)) then
        (above ++ name) :: others
      else others) := by
  rw [Tree.walk, hasks.excluded_eq, hasks.included_eq, hrest]
  cases excluded.any (glob (above ++ name)) <;> rfl

theorem walk_folder {above name : Text} {entries rest : Tree} {below others : List Text}
    (hbelow : entries.walk selection (above ++ name ++ [0x2F]) = .ok below)
    (hrest : rest.walk selection above = .ok others) :
    (Tree.folder name entries rest).walk selection above = .ok
      (if excluded.any (glob (above ++ name)) || isClosedFolder name then others
      else below ++ others) := by
  rw [Tree.walk, hasks.excluded_eq, hbelow, hrest]
  cases excluded.any (glob (above ++ name)) <;> cases isClosedFolder name <;> rfl

/-- A walk lists each selected file once, and nothing else. -/
theorem walk_exact {t : Tree} (ht : t.IsDirectory) (above : Text) :
    ∃ paths, t.walk selection above = .ok paths ∧ paths.Nodup ∧ ∀ path, path ∈ paths ↔
      t.Selects (fun p => included.any (glob p)) (fun p => excluded.any (glob p)) above path := by
  induction ht generalizing above with
  | empty => exact ⟨[], rfl, .nil, by simp [not_selects_empty]⟩
  | @file name content rest hname hnew hrest ih =>
    obtain ⟨others, hothers, hnodup, hmem⟩ := ih above
    have hdir : (Tree.file name content rest).IsDirectory := .file hname hnew hrest
    have hfirst : above ++ name ∉ others := fun h =>
      not_selects_of_file hdir hnew ((hmem _).1 h)
    refine ⟨_, walk_file hasks hothers, ?_, fun path => ?_⟩
    · split_ifs
      · exact List.nodup_cons.2 ⟨hfirst, hnodup⟩
      · exact hnodup
    · rw [selects_file_iff hnew, ← hmem]
      cases excluded.any (glob (above ++ name)) <;>
        cases included.any (glob (above ++ name)) <;> simp
  | @folder name entries rest hname hnew hentries hrest ihentries ih =>
    obtain ⟨others, hothers, hnodup, hmem⟩ := ih above
    obtain ⟨below, hbelow, hnodupBelow, hmemBelow⟩ := ihentries (above ++ name ++ [0x2F])
    refine ⟨_, walk_folder hasks hbelow hothers, ?_, fun path => ?_⟩
    · split_ifs
      · exact hnodup
      · refine List.nodup_append.2 ⟨hnodupBelow, hnodup, ?_⟩
        rintro path hpath _ hother rfl
        exact not_selects_of_folder (.folder hname hnew hentries hrest) hnew
          ((hmemBelow path).1 hpath) ((hmem path).1 hother)
    · rw [selects_folder_iff hnew, ← hmem, ← hmemBelow]
      cases excluded.any (glob (above ++ name)) <;> cases isClosedFolder name <;> simp

end Walk

/-- A folder is selected from as its patterns say: the paths of its files, in strictly increasing
order, that match a pattern of the first list and none of the second, where no folder above the file
matches one of the second list, starts with a point or is that of installed packages. -/
theorem select_exact {glob : Text → Text → Bool} {included excluded : List Text}
    {selection : Selection} (hasks : selection.Asks glob included excluded) (disk : Disk)
    (folder : Text) :
    (disk.entries? folder = none → disk.select folder selection = .ok []) ∧
    ∀ entries, disk.entries? folder = some entries → entries.IsDirectory →
      ∃ paths, disk.select folder selection = .ok paths ∧ paths.Pairwise (· < ·) ∧
        ∀ path, path ∈ paths ↔ ∃ names content, entries.get? names = some (.file content) ∧
          path = ofNames names ∧
          (∃ pattern ∈ included, glob path pattern = true) ∧
          (∀ pattern ∈ excluded, glob path pattern = false) ∧
          ∀ (front : List Text) (last : Text), front ++ [last] <+: names →
            front ++ [last] ≠ names →
            (∀ pattern ∈ excluded, glob (ofNames (front ++ [last])) pattern = false) ∧
              last.head? ≠ some 0x2E ∧ last ≠ ("node_modules" : Text) := by
  refine ⟨fun hnone => by rw [Disk.select, hnone], fun entries hsome hdir => ?_⟩
  obtain ⟨found, hfound, hnodup, hmem⟩ := walk_exact hasks hdir []
  have hperm : (Text.sort found).Perm found := List.mergeSort_perm found Text.le
  refine ⟨Text.sort found, ?_, Text.pairwise_lt_sort (hperm.nodup_iff.2 hnodup), fun path => ?_⟩
  · rw [Disk.select, hsome]
    show entries.select selection = _
    rw [Tree.select, hfound]
    rfl
  · rw [hperm.mem_iff, hmem]
    constructor
    · rintro ⟨names, ⟨content, hget⟩, hchosen, rfl⟩
      refine ⟨names, content, hget, rfl, ?_, ?_, fun front last hpre hne => ?_⟩
      · simpa using hchosen.is_wanted
      · simpa using hchosen.not_unwanted
      · simpa [isClosedFolder, packageFolder] using hchosen.entered front last hpre hne
    · rintro ⟨names, content, hget, rfl, hin, hex, hentered⟩
      refine ⟨names, ⟨content, hget⟩, ⟨?_, ?_, fun front last hpre hne => ?_⟩, rfl⟩
      · simpa using hin
      · simpa using hex
      · simpa [isClosedFolder, packageFolder] using hentered front last hpre hne

/-- A folder with files to be left out in each of the ways there are. -/
def mixedFolder : Tree :=
  .file "b.c" [] (.file "a_gen.c" [] (.folder "src" (.folder "lib" (.file ".a.c" [] .empty) .empty)
    (.folder ".git" (.file "x.c" [] .empty) (.folder "test" (.file "t.c" [] .empty)
      (.folder "node_modules" (.file "y.c" [] .empty) .empty)))))

def mixedFolderDisk : Disk where
  tree := .folder "r" mixedFolder .empty
  here := []

theorem select_exact_mixedFolder :
    mixedFolder.IsDirectory ∧ ∃ paths,
      mixedFolderDisk.select "r" (.ofPatterns ["*.c"] ["test", "*_gen.c"]) = .ok paths ∧
      ("src/lib/.a.c" : Text) ∈ paths ∧ ("test/t.c" : Text) ∉ paths := by
  have hdir : mixedFolder.IsDirectory := by decide
  have hasks : (Selection.ofPatterns ["*.c"] ["test", "*_gen.c"]).Asks Glob.answer ["*.c"]
      ["test", "*_gen.c"] := Selection.asks_ofPatterns (by decide +kernel)
  obtain ⟨paths, hpaths, -, hmem⟩ :=
    (select_exact hasks mixedFolderDisk "r").2 mixedFolder rfl hdir
  refine ⟨hdir, paths, hpaths, (hmem _).2 ⟨["src", "lib", ".a.c"], [], rfl, rfl, ?_, ?_, ?_⟩, ?_⟩
  · decide +kernel
  · decide +kernel
  · intro front last hpre hne
    rcases front with _ | ⟨above, _ | ⟨_, front⟩⟩
    · obtain ⟨rfl, -⟩ := List.cons_prefix_cons.1 hpre
      decide +kernel
    · obtain ⟨rfl, hlast⟩ := List.cons_prefix_cons.1 hpre
      obtain ⟨rfl, -⟩ := List.cons_prefix_cons.1 hlast
      decide +kernel
    · exact absurd (hpre.eq_of_length (Nat.le_antisymm hpre.length_le (by simp))) hne
  · intro h
    obtain ⟨names, content, hget, hpath, -, -, hentered⟩ := (hmem _).1 h
    obtain rfl : names = (["test", "t.c"] : List Text) :=
      hdir.ofNames_injective ⟨content, hget⟩ ⟨[], rfl⟩ hpath.symm
    have htest := (hentered [] "test" ⟨["t.c"], rfl⟩ (by decide)).1 "test" (by decide)
    revert htest
    decide +kernel

end Remedy
