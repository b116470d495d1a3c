import Remedy.Proofs.Pieces
import Remedy.Proofs.Replacement

/-!
# Paths and the names in them

`Path.Spells path names` says that an absolute path is written out of names that stand for
themselves. Normalising and joining give such paths (`spells_normalize`, `spells_join`), and the
file beside one has the same names but the last (`Spells.besidePath`). On any disk they lead to
their names, if anywhere (`Spells.eq_of_locate`).

Where any other path leads depends on the disk, but its last name is the last one there, unless it
leads to a folder (`locate_concat`). So the file beside another one is not that one
(`HasFile.not_above_of_beside`).
-/

namespace Remedy

namespace Path

/-- A name that stands for itself in a path. -/
structure IsName (name : Text) : Prop where
  ne_nil : name ≠ []
  ne_dot : name ≠ dot
  ne_dots : name ≠ dots
  no_slash : 0x2F ∉ name

/-- The names of a path as they are written, without the empty ones. -/
def written (path : Text) : List Text := (split path).filter fun name => !name.isEmpty

@[simp]
theorem written_nil : written [] = [] := rfl

@[simp]
theorem written_append_slash (a b : Text) : written (a ++ 0x2F :: b) = written a ++ written b := by
  rw [written, split, splitAt_append_cons (by rfl), List.filter_append]
  rfl

@[simp]
theorem written_slash (path : Text) : written (0x2F :: path) = written path :=
  written_append_slash [] path

theorem written_of_no_slash {name : Text} (hne : name ≠ []) (h : 0x2F ∉ name) :
    written name = [name] := by
  have hname : ∀ c ∈ name, isSlash c = false := fun c hc => by
    rw [isSlash, beq_eq_false_iff_ne]
    exact fun hslash => h (hslash ▸ hc)
  simp [written, split, splitAt_of_forall hname, hne]

theorem no_slash_of_mem_written {path name : Text} (h : name ∈ written path) : 0x2F ∉ name := by
  intro hslash
  have := not_separator_of_mem_splitAt (List.mem_filter.1 h).1 0x2F hslash
  simp [isSlash] at this

/-! ## Names -/

@[simp]
theorem ofNames_singleton (name : Text) : ofNames [name] = name := List.intercalate_singleton

theorem ofNames_cons_cons (a b : Text) (names : List Text) :
    ofNames (a :: b :: names) = a ++ 0x2F :: ofNames (b :: names) := by
  rw [ofNames, List.intercalate_cons_cons, List.append_assoc]
  rfl

theorem ofNames_concat {front : List Text} (h : front ≠ []) (last : Text) :
    ofNames (front ++ [last]) = ofNames front ++ 0x2F :: last := by
  induction front with
  | nil => exact absurd rfl h
  | cons a front ih =>
    cases front with
    | nil => rw [List.singleton_append, ofNames_cons_cons, ofNames_singleton, ofNames_singleton]
    | cons b front =>
      have := ih (List.cons_ne_nil b front)
      simp only [List.cons_append] at this ⊢
      rw [ofNames_cons_cons, this, ofNames_cons_cons, List.append_assoc, List.cons_append]

theorem written_ofNames {names : List Text} (h : ∀ name ∈ names, IsName name) :
    written (ofNames names) = names := by
  induction names with
  | nil => rfl
  | cons a names ih =>
    have ha := h a List.mem_cons_self
    cases names with
    | nil => simpa using written_of_no_slash ha.ne_nil ha.no_slash
    | cons b names =>
      rw [ofNames_cons_cons, written_append_slash, written_of_no_slash ha.ne_nil ha.no_slash,
        ih fun name hname => h name (List.mem_cons_of_mem _ hname), List.singleton_append]

theorem addName_of_skipped {name : Text} (h : name = [] ∨ name = dot) (relative : Bool)
    (before : List Text) : addName relative before name = before := by
  unfold addName
  rw [if_pos (by simpa using h)]

theorem addName_of_isName {name : Text} (h : IsName name) (relative : Bool) (before : List Text) :
    addName relative before name = name :: before := by
  simp [addName, h.ne_nil, h.ne_dot, h.ne_dots]

/-- In an absolute path a double dot takes a name back, or nothing at all. -/
theorem addName_dots {before : List Text} (h : ∀ name ∈ before, IsName name) :
    addName false before dots = before.tail := by
  have hskip : ¬ (dots.isEmpty || dots == dot) = true := by decide
  unfold addName
  rw [if_neg hskip, if_pos (beq_self_eq_true dots)]
  cases before with
  | nil => rfl
  | cons last rest => simp [(h last List.mem_cons_self).ne_dots]

theorem names_eq_foldl_written (path : Text) :
    names path = ((written path).foldl (addName (!isAbsolute path)) []).reverse := by
  have hskip (relative : Bool) (before pieces : List Text) :
      pieces.foldl (addName relative) before =
        (pieces.filter fun name => !name.isEmpty).foldl (addName relative) before := by
    induction pieces generalizing before with
    | nil => rfl
    | cons name pieces ih =>
      cases name with
      | nil => simpa [addName_of_skipped] using ih before
      | cons c name => simpa using ih _
  rw [names, hskip, written]

theorem foldl_addName_of_isName {pieces : List Text} (h : ∀ name ∈ pieces, IsName name)
    (relative : Bool) (before : List Text) :
    pieces.foldl (addName relative) before = pieces.reverse ++ before := by
  induction pieces generalizing before with
  | nil => rfl
  | cons name pieces ih =>
    rw [List.foldl_cons, addName_of_isName (h name List.mem_cons_self),
      ih fun name hname => h name (List.mem_cons_of_mem _ hname)]
    simp

theorem isName_addName {before : List Text} (hbefore : ∀ name ∈ before, IsName name) {name : Text}
    (hslash : 0x2F ∉ name) : ∀ n ∈ addName false before name, IsName n := by
  by_cases hskip : name = [] ∨ name = dot
  · rw [addName_of_skipped hskip]
    exact hbefore
  · rw [not_or] at hskip
    by_cases hdots : name = dots
    · rw [hdots, addName_dots hbefore]
      exact fun n hn => hbefore n (List.mem_of_mem_tail hn)
    · have hname : IsName name := ⟨hskip.1, hskip.2, hdots, hslash⟩
      rw [addName_of_isName hname]
      exact List.forall_mem_cons.2 ⟨hname, hbefore⟩

theorem isName_of_mem_names {path : Text} (h : isAbsolute path = true) :
    ∀ name ∈ names path, IsName name := by
  have hfold (pieces : List Text) (hslash : ∀ name ∈ pieces, 0x2F ∉ name) (before : List Text)
      (hbefore : ∀ name ∈ before, IsName name) :
      ∀ name ∈ pieces.foldl (addName false) before, IsName name := by
    induction pieces generalizing before with
    | nil => exact hbefore
    | cons piece pieces ih =>
      rw [List.forall_mem_cons] at hslash
      exact ih hslash.2 _ (isName_addName hbefore hslash.1)
  intro name hname
  rw [names_eq_foldl_written, h, List.mem_reverse] at hname
  exact hfold _ (fun piece hpiece => no_slash_of_mem_written hpiece) [] (by simp) name hname

/-! ## Paths written out of names -/

/-- An absolute path that is written out of names; there may be a slash at its end. -/
structure Spells (path : Text) (names : List Text) : Prop where
  isName : ∀ name ∈ names, IsName name
  eq : path = 0x2F :: ofNames names ∨ path = 0x2F :: ofNames names ++ [0x2F]

namespace Spells

variable {path : Text} {names : List Text} (h : Spells path names)
include h

theorem isAbsolute : isAbsolute path = true := by
  obtain ⟨-, rfl | rfl⟩ := h <;> rfl

theorem written_eq : written path = names := by
  obtain ⟨hnames, rfl | rfl⟩ := h
  · rw [written_slash, written_ofNames hnames]
  · rw [written_append_slash, written_slash, written_ofNames hnames, written_nil, List.append_nil]

theorem names_eq : Path.names path = names := by
  rw [names_eq_foldl_written, h.written_eq, foldl_addName_of_isName h.isName, List.append_nil,
    List.reverse_reverse]

end Spells

theorem spells_normalize {path : Text} (h : isAbsolute path = true) :
    Spells (normalize path) (names path) := by
  refine ⟨isName_of_mem_names h, ?_⟩
  simp only [normalize, h, if_true]
  split_ifs with hbody
  · rw [List.isEmpty_iff] at hbody
    exact .inl (by rw [hbody]; rfl)
  · exact .inr rfl
  · exact .inl (List.append_nil _)

theorem isAbsolute_append {a : Text} (h : isAbsolute a = true) (b : Text) :
    isAbsolute (a ++ b) = true := by
  cases a with
  | nil => simp [isAbsolute] at h
  | cons c a => exact h

theorem spells_join {root : Text} (h : isAbsolute root = true) (file : Text) :
    Spells (join root file) (names (root ++ 0x2F :: file)) := by
  have hroot : root ≠ [] := by rintro rfl; simp [isAbsolute] at h
  unfold join
  by_cases hfile : file = []
  · have hnames : names (root ++ [0x2F]) = names root := by
      rw [names_eq_foldl_written, names_eq_foldl_written, isAbsolute_append h, h,
        written_append_slash, written_nil, List.append_nil]
    simpa [hroot, hfile, hnames] using spells_normalize h
  · simpa [hroot, hfile] using spells_normalize (isAbsolute_append h (0x2F :: file))

/-- A file that is named without a step upwards has the names of the root before its own. -/
theorem names_append_of_no_dots {root file : Text} (hroot : isAbsolute root = true)
    (hfile : dots ∉ written file) :
    names (root ++ 0x2F :: file) = names root ++ (written file).filter (· != dot) := by
  have hfold (pieces : List Text) (hpieces : ∀ name ∈ pieces, name ≠ [] ∧ name ≠ dots)
      (before : List Text) :
      pieces.foldl (addName false) before = (pieces.filter (· != dot)).reverse ++ before := by
    induction pieces generalizing before with
    | nil => rfl
    | cons name pieces ih =>
      rw [List.forall_mem_cons] at hpieces
      rw [List.foldl_cons, ih hpieces.2]
      by_cases hdot : name = dot
      · rw [addName_of_skipped (.inr hdot)]
        simp [hdot]
      · simp [addName, hdot, hpieces.1]
  have hpieces : ∀ name ∈ written file, name ≠ [] ∧ name ≠ dots := fun name hname =>
    ⟨by simpa using (List.mem_filter.1 hname).2, fun h => hfile (h ▸ hname)⟩
  rw [names_eq_foldl_written, names_eq_foldl_written, isAbsolute_append hroot, hroot,
    written_append_slash, List.foldl_append, Bool.not_true, hfold _ hpieces,
    List.reverse_append, List.reverse_reverse]

/-! ## The file beside another one -/

/-- The name of the file that new content is written to first. -/
def besideName (tag name : Text) : Text := "." ++ name ++ "." ++ tag ++ ".tmp"

theorem besideName_eq (tag name : Text) :
    besideName tag name = [0x2E] ++ name ++ [0x2E] ++ tag ++ [0x2E, 0x74, 0x6D, 0x70] := rfl

theorem isName_besideName {tag name : Text} (htag : 0x2F ∉ tag) (hname : 0x2F ∉ name) :
    IsName (besideName tag name) := by
  have hlength : 2 < (besideName tag name).length := by simp [besideName_eq]; omega
  refine ⟨?_, ?_, ?_, by simp [besideName_eq, htag, hname]⟩ <;> intro h
  · exact absurd hlength (by rw [h]; decide)
  · exact absurd hlength (by rw [h]; decide)
  · exact absurd hlength (by rw [h]; decide)

theorem besideName_ne (tag name : Text) : besideName tag name ≠ name := by
  intro h
  have := congrArg List.length h
  simp [besideName_eq] at this
  omega

theorem getLast?_append_slash {last : Text} (h : last ≠ []) (before : Text) :
    (before ++ 0x2F :: last).getLast? = last.getLast? := by
  obtain ⟨c, last, rfl⟩ := List.exists_cons_of_ne_nil h
  rw [List.getLast?_append, List.getLast?_cons_cons, List.getLast?_cons, Option.some_or]

theorem dropSlashes_append_slash (path : Text) :
    dropSlashes (path ++ [0x2F]) = dropSlashes path := by
  simp [dropSlashes, isSlash]

/-- What stands after the last slash is the name, and what stands before it the parent. -/
theorem name_and_parent {path before last : Text}
    (hpath : dropSlashes path = before ++ 0x2F :: last) (hlast : 0x2F ∉ last) :
    name path = last ∧
      parent path =
        if before = [] then (if isAbsolute path then [0x2F] else dot) else before := by
  have hrev : (before ++ 0x2F :: last).reverse = last.reverse ++ 0x2F :: before.reverse := by simp
  have hkeep : ∀ c ∈ last.reverse, (!isSlash c) = true := by
    intro c hc
    have : c ≠ 0x2F := fun h => hlast (h ▸ List.mem_reverse.1 hc)
    simp [isSlash, this]
  constructor
  · rw [name, hpath, hrev, List.takeWhile_append_of_pos hkeep,
      List.takeWhile_cons_of_neg (by decide), List.append_nil, List.reverse_reverse]
  · have hbefore : ((dropSlashes path).reverse.dropWhile fun c => !isSlash c).reverse =
        before ++ [0x2F] := by
      rw [hpath, hrev, List.dropWhile_append_of_pos hkeep,
        List.dropWhile_cons_of_neg (by decide), List.reverse_cons, List.reverse_reverse]
    unfold parent
    rw [hbefore]
    dsimp only
    rw [List.dropLast_concat]
    cases before <;> rfl

theorem isAbsolute_parent {path : Text} (h : isAbsolute path = true) :
    isAbsolute (parent path) = true := by
  have hopen : dropSlashes path <+: path := by
    simpa [dropSlashes] using
      List.reverse_prefix.mpr (List.dropWhile_suffix (l := path.reverse) isSlash)
  have hbefore : ((dropSlashes path).reverse.dropWhile fun c => !isSlash c).reverse <+:
      dropSlashes path := by
    simpa using List.reverse_prefix.mpr
      (List.dropWhile_suffix (l := (dropSlashes path).reverse) fun c => !isSlash c)
  unfold parent
  dsimp only
  split
  · rw [if_pos h]
    rfl
  · rename_i directory hne
    obtain ⟨rest, hrest⟩ := ((List.dropLast_prefix _).trans hbefore).trans hopen
    obtain ⟨c, cs, hcs⟩ := List.exists_cons_of_ne_nil hne
    rw [hcs] at hrest ⊢
    rwa [← hrest] at h

/-- Where the last name of a path begins. -/
theorem exists_before_last (front : List Text) (last : Text) :
    ∃ before, 0x2F :: ofNames (front ++ [last]) = before ++ 0x2F :: last ∧
      before = if front = [] then [] else 0x2F :: ofNames front := by
  by_cases hfront : front = []
  · exact ⟨[], by simp [hfront], by simp [hfront]⟩
  · exact ⟨0x2F :: ofNames front, by rw [ofNames_concat hfront]; rfl, by simp [hfront]⟩

theorem Spells.dropSlashes_eq {path last : Text} {front : List Text}
    (h : Spells path (front ++ [last])) :
    dropSlashes path = 0x2F :: ofNames (front ++ [last]) := by
  have hlast := h.isName last (by simp)
  have hopen : dropSlashes (0x2F :: ofNames (front ++ [last])) =
      0x2F :: ofNames (front ++ [last]) := by
    obtain ⟨before, heq, -⟩ := exists_before_last front last
    refine Disk.dropSlashes_eq_self fun hslash => hlast.no_slash (List.mem_of_getLast? ?_)
    rw [← getLast?_append_slash hlast.ne_nil before, ← heq, hslash]
  obtain ⟨-, rfl | rfl⟩ := h
  · exact hopen
  · rw [dropSlashes_append_slash, hopen]

/-- The file beside another one differs from it in the last name. -/
theorem Spells.besidePath {path last tag : Text} {front : List Text}
    (h : Spells path (front ++ [last])) (htag : 0x2F ∉ tag) :
    Spells (Disk.besidePath tag path) (front ++ [besideName tag last]) := by
  have hlast := (h.isName last (by simp)).no_slash
  have hbeside := isName_besideName htag hlast
  have hfront : ∀ name ∈ front, IsName name := fun name hname =>
    h.isName name (List.mem_append_left _ hname)
  obtain ⟨before, heq, hbefore⟩ := exists_before_last front last
  obtain ⟨hname, hparent⟩ := name_and_parent (h.dropSlashes_eq.trans heq) hlast
  have hspells : Spells (parent path) front := by
    refine ⟨hfront, .inl ?_⟩
    rw [hparent, h.isAbsolute, hbefore]
    by_cases hnil : front = [] <;> simp [hnil]
    rfl
  have hnames : names (parent path ++ 0x2F :: besideName tag last) =
      front ++ [besideName tag last] := by
    have hwritten := written_of_no_slash hbeside.ne_nil hbeside.no_slash
    rw [names_append_of_no_dots hspells.isAbsolute (by simpa [hwritten] using hbeside.ne_dots.symm),
      hspells.names_eq, hwritten]
    simp [hbeside.ne_dot]
  rw [Disk.besidePath, hname, ← hnames]
  exact spells_join hspells.isAbsolute _

/-! ## The last name of a path -/

theorem exists_last_slash {path : Text} (h : 0x2F ∈ path) :
    ∃ before last, path = before ++ 0x2F :: last ∧ 0x2F ∉ last := by
  obtain ⟨after, before, hrev, hafter⟩ := List.eq_append_cons_of_mem (List.mem_reverse.2 h)
  refine ⟨before.reverse, after.reverse, ?_, by simpa using hafter⟩
  rw [← List.reverse_reverse path, hrev]
  simp

theorem no_slash_name (path : Text) : 0x2F ∉ name path := by
  intro h
  have := List.all_eq_true.1 List.all_takeWhile _ (List.mem_reverse.1 h)
  simp [isSlash] at this

/-- A path that does not end in a slash is written with its name at the end. -/
theorem written_concat_name {path : Text} (hne : path ≠ []) (hslash : path.getLast? ≠ some 0x2F) :
    ∃ front, written path = front ++ [name path] := by
  have hopen := Disk.dropSlashes_eq_self hslash
  by_cases hmem : 0x2F ∈ path
  · obtain ⟨before, last, rfl, hlast⟩ := exists_last_slash hmem
    have hnil : last ≠ [] := by
      rintro rfl
      simp at hslash
    rw [(name_and_parent hopen hlast).1, written_append_slash, written_of_no_slash hnil hlast]
    exact ⟨_, rfl⟩
  · have hkeep : ∀ c ∈ path.reverse, (!isSlash c) = true := by
      intro c hc
      have : c ≠ 0x2F := fun h => hmem (h ▸ List.mem_reverse.1 hc)
      simp [isSlash, this]
    have hname : name path = path := by
      rw [name, hopen, ← List.append_nil path.reverse, List.takeWhile_append_of_pos hkeep]
      simp
    exact ⟨[], by rw [hname, written_of_no_slash hne hmem, List.nil_append]⟩

section Last

variable {last : Text} (hlast : IsName last)
include hlast

theorem names_concat {path : Text} {front : List Text} (h : written path = front ++ [last]) :
    ∃ above, names path = above ++ [last] := by
  rw [names_eq_foldl_written, h, List.foldl_append, List.foldl_cons, List.foldl_nil,
    addName_of_isName hlast, List.reverse_cons]
  exact ⟨_, rfl⟩

theorem written_ofNames_concat (front : List Text) :
    ∃ above, written (ofNames (front ++ [last])) = above ++ [last] := by
  have hwritten := written_of_no_slash hlast.ne_nil hlast.no_slash
  by_cases hfront : front = []
  · exact ⟨[], by rw [hfront, List.nil_append, ofNames_singleton, hwritten]⟩
  · exact ⟨_, by rw [ofNames_concat hfront, written_append_slash, hwritten]⟩

/-- A name at the end of a path stays there when the path is normalised. -/
theorem written_normalize {path : Text} {front : List Text} (h : written path = front ++ [last])
    (hslash : path.getLast? ≠ some 0x2F) : ∃ above, written (normalize path) = above ++ [last] := by
  obtain ⟨above, hnames⟩ := names_concat hlast h
  obtain ⟨front, hwritten⟩ := written_ofNames_concat hlast above
  have hbody : (ofNames (above ++ [last])).isEmpty = false := by
    rw [List.isEmpty_eq_false_iff]
    intro hnil
    simp [hnil] at hwritten
  refine ⟨front, ?_⟩
  simp only [normalize, hnames, hbody, beq_eq_false_iff_ne.2 hslash, Bool.false_eq_true, if_false,
    List.append_nil]
  split_ifs
  · rw [written_slash, hwritten]
  · exact hwritten

theorem written_join (directory : Text) :
    ∃ above, written (join directory last) = above ++ [last] := by
  have hwritten := written_of_no_slash hlast.ne_nil hlast.no_slash
  have hopen : last.getLast? ≠ some 0x2F := fun h => hlast.no_slash (List.mem_of_getLast? h)
  unfold join
  by_cases hdirectory : directory = []
  · simpa [hdirectory, hlast.ne_nil] using
      written_normalize hlast (hwritten.trans (List.nil_append _).symm) hopen
  · simpa [hdirectory, hlast.ne_nil] using
      written_normalize hlast (by rw [written_append_slash, hwritten])
        (by rwa [getLast?_append_slash hlast.ne_nil])

end Last

/-! ## On a disk -/

/-- Names that stand for themselves are followed one by one, and a dot after them leads no
further. -/
theorem follow_of_isName {tree : Tree} {here names rest found : List Text}
    (hnames : ∀ name ∈ names, IsName name) (hrest : rest = [] ∨ rest = [dot])
    (h : Disk.follow tree here (names ++ rest) = .ok found) : found = here ++ names := by
  induction names generalizing here with
  | nil => obtain rfl | rfl := hrest <;> simpa [Disk.follow, eq_comm] using h
  | cons name names ih =>
    rw [List.forall_mem_cons] at hnames
    rw [List.cons_append, Disk.follow, if_neg hnames.1.ne_dot, if_neg hnames.1.ne_dots] at h
    split_ifs at h with hlong hend
    · obtain ⟨rfl, -⟩ : names = [] ∧ rest = [] := by simpa using hend
      exact (Except.ok.inj h).symm
    · split at h
      · simpa using ih hnames.2 h
      · simp at h
      · simp at h

/-- On any disk a path written out of names leads to them, if anywhere. -/
theorem Spells.eq_of_locate {disk : Disk} {path : Text} {names found : List Text}
    (h : Spells path names) (hlocate : disk.locate path = .ok found) : found = names := by
  have hwritten : (split path).filter (fun name => !name.isEmpty) = names := h.written_eq
  simp only [Disk.locate, h.isAbsolute, if_true, hwritten] at hlocate
  split_ifs at hlocate with hempty hzero hlong hclosed
  · exact follow_of_isName h.isName (.inr rfl) hlocate
  · exact follow_of_isName h.isName (.inl rfl) (by rwa [List.append_nil])

end Path

namespace Disk

open Remedy.Path

/-- Following names ends at a folder or with the last of them. -/
theorem follow_concat {tree : Tree} {here names found : List Text} {last : Text}
    (hhere : tree.node? here = some .folder) (h : follow tree here (names ++ [last]) = .ok found) :
    tree.node? found = some .folder ∨ last ≠ dot ∧ ∃ above, found = above ++ [last] := by
  induction names generalizing here with
  | nil =>
    rw [List.nil_append, follow] at h
    split_ifs at h with hdot hdots hlong hend
    · obtain rfl := Except.ok.inj h
      exact .inl hhere
    · obtain rfl := Except.ok.inj h
      exact .inl (Tree.folder_dropLast hhere)
    · exact .inr ⟨hdot, here, (Except.ok.inj h).symm⟩
    · simp at hend
  | cons name names ih =>
    rw [List.cons_append, follow] at h
    split_ifs at h with hdot hdots hlong hend
    · exact ih hhere h
    · exact ih (Tree.folder_dropLast hhere) h
    · simp at hend
    · split at h
      · exact ih (Tree.node?_eq_folder_iff.2 ⟨_, ‹_›⟩) h
      · simp at h
      · simp at h

section Here

variable {disk : Disk} {path : Text} {names : List Text}
  (hhere : disk.tree.node? disk.here = some .folder)
include hhere

/-- A path that leads to no folder has no slash at its end, and leads to its last name. -/
theorem locate_concat (h : disk.locate path = .ok names)
    (hfolder : disk.tree.node? names ≠ some .folder) :
    path ≠ [] ∧ path.getLast? ≠ some 0x2F ∧
      ∀ front last, written path = front ++ [last] → ∃ above, names = above ++ [last] := by
  have hstart : disk.tree.node? (if isAbsolute path then [] else disk.here) = some .folder := by
    split_ifs
    · rfl
    · exact hhere
  unfold locate at h
  generalize (if isAbsolute path then [] else disk.here) = start at hstart h
  split_ifs at h with hempty hzero hlong hslash
  · obtain hend | ⟨hdot, -⟩ := follow_concat hstart h
    · exact absurd hend hfolder
    · exact absurd rfl hdot
  · refine ⟨by simpa using hempty, hslash, fun front last hwritten => ?_⟩
    rw [← written, hwritten] at h
    obtain hend | ⟨-, hlast⟩ := follow_concat hstart h
    · exact absurd hend hfolder
    · exact hlast

theorem HasFile.names_eq_concat {content : Bytes} (h : disk.HasFile path names content) :
    ∃ above, names = above ++ [name path] := by
  obtain ⟨hne, hslash, hlast⟩ := locate_concat hhere h.located (by simp [h.held])
  obtain ⟨front, hwritten⟩ := written_concat_name hne hslash
  exact hlast front _ hwritten

/-- The file beside one that is there is another one, and lies not above it. -/
theorem HasFile.not_above_of_beside {tag : Text} {beside : List Text} {content : Bytes}
    (h : disk.HasFile path names content) (htag : 0x2F ∉ tag)
    (hlocate : disk.locate (besidePath tag path) = .ok beside)
    (hfolder : disk.tree.node? beside ≠ some .folder) : ¬ beside <+: names := by
  rintro ⟨below, rfl⟩
  by_cases hbelow : below = []
  · obtain ⟨above, hnames⟩ := h.names_eq_concat hhere
    obtain ⟨front, hwritten⟩ :=
      written_join (isName_besideName htag (no_slash_name path)) (parent path)
    obtain ⟨above', hbeside⟩ := (locate_concat hhere hlocate hfolder).2.2 front _ hwritten
    rw [hbelow, List.append_nil, hbeside] at hnames
    exact besideName_ne tag (name path) (by simpa using (List.append_inj' hnames rfl).2)
  · exact hfolder (Tree.folder_of_append hbelow h.held)

end Here

end Disk

namespace Path

/-- A file at a path that is written out of names lies where they lead, and there is no slash at the
end of the path. -/
theorem Spells.eq_of_hasFile {disk : Disk} {path : Text} {names found : List Text} {content : Bytes}
    (h : Spells path names) (hfile : disk.HasFile path found content) :
    found = names ∧ path = 0x2F :: ofNames names := by
  refine ⟨h.eq_of_locate hfile.located, h.eq.resolve_right fun hclosed => ?_⟩
  have hslash : path.getLast? = some 0x2F := hclosed ▸ List.getLast?_concat
  have hlocate := hfile.located
  simp only [Disk.locate, h.isAbsolute, if_true, hslash] at hlocate
  split_ifs at hlocate
  obtain hend | ⟨hdot, -⟩ := Disk.follow_concat (Tree.node?_nil _) hlocate
  · simp [hfile.held] at hend
  · exact hdot rfl

end Path

end Remedy
