import Remedy.Proofs.Lines
import Remedy.Scan.Stats

/-!
# Four views of the lines

The list of lines, the offsets at which they start, the line of an offset and the number of lines in
the statistics are computed apart, and each deals with a line feed at the end of the text in its own
way. `line_views_agree` shows that they tell of the same lines. On the way to it, the search for the
line of an offset counts the starts up to the offset (`lineAt_eq_countP`), and a file adds its lines
to the statistics (`Stats.totalLines_add`), so that those of a folder hold the lines of all its C
files (`Disk.totalLines_stats`).
-/

namespace Remedy

/-! ## Counting starts -/

/-- Of numbers in increasing order, those up to a bound stand first. -/
theorem lt_countP_le_iff {starts : List Nat} (sorted : starts.Pairwise (· < ·)) (offset : Int)
    {k : Nat} (hk : k < starts.length) :
    k < starts.countP (fun start : Nat => (start : Int) ≤ offset) ↔
      (starts.getD k 0 : Int) ≤ offset := by
  induction starts generalizing k with
  | nil => simp at hk
  | cons start starts ih =>
    obtain ⟨hfirst, sorted⟩ := List.pairwise_cons.1 sorted
    by_cases hstart : (start : Int) ≤ offset
    · rw [List.countP_cons_of_pos (by simpa using hstart)]
      cases k with
      | zero => simpa using hstart
      | succ k => simpa using ih sorted (by simpa using hk)
    · -- the first one is too large already, and so are all the others
      have hlarge (s : Nat) (hs : s ∈ start :: starts) : offset < s := by
        rcases List.mem_cons.1 hs with rfl | hs
        · omega
        · have := hfirst s hs
          omega
      have hnone : (start :: starts).countP (fun start : Nat => (start : Int) ≤ offset) = 0 :=
        List.countP_eq_zero.2 fun s hs => by simpa using hlarge s hs
      have hmem : (start :: starts).getD k 0 ∈ start :: starts := by
        rw [List.getD_eq_getElem?_getD, List.getElem?_eq_getElem hk, Option.getD_some]
        exact List.getElem_mem hk
      have := hlarge _ hmem
      omega

theorem pairwise_lineStarts {t : Text} (ht : t ≠ []) :
    (lineStarts t).toList.Pairwise (· < ·) := by
  refine List.pairwise_iff_getElem.2 fun j k hj hk hjk => ?_
  have hlt := lineStarts_lt t hjk (by rwa [← size_lineStarts ht])
  rwa [← getD_toList, ← getD_toList, List.getD_eq_getElem?_getD, List.getD_eq_getElem?_getD,
    List.getElem?_eq_getElem hj, List.getElem?_eq_getElem hk] at hlt

/-- The line of an offset is the number of lines that start at or before it; offsets before the text
lie on the first line. -/
theorem lineAt_eq_countP {t : Text} (ht : t ≠ []) (offset : Int) :
    lineAt (lineStarts t) offset =
      max 1 ((lineStarts t).countP fun start : Nat => (start : Int) ≤ offset) := by
  have hsize := size_lineStarts ht
  have hpos := lineAt_pos (lineStarts t) offset
  have hle := lineAt_le ht offset
  have hcount : (lineStarts t).countP (fun start : Nat => (start : Int) ≤ offset) ≤
      (lineStarts t).size := Array.countP_le_size
  -- both numbers are told by the lines they lie beyond
  have hbeyond (k : Nat) (hk : k < (splitLines t).length) : k < lineAt (lineStarts t) offset ↔
      k = 0 ∨ k < (lineStarts t).countP fun start : Nat => (start : Int) ≤ offset := by
    rw [lt_lineAt_iff offset hk, ← Array.countP_toList,
      lt_countP_le_iff (pairwise_lineStarts ht) offset (by rwa [Array.length_toList, hsize]),
      getD_toList]
  generalize (lineStarts t).countP (fun start : Nat => (start : Int) ≤ offset) = n at *
  have hline := (hbeyond (lineAt (lineStarts t) offset - 1) (by omega)).1 (by omega)
  by_cases hn : lineAt (lineStarts t) offset < n
  · have := (hbeyond (lineAt (lineStarts t) offset) (by omega)).2 (.inr hn)
    omega
  · omega

/-! ## Lines in the statistics -/

theorem IsLines.countLines_flatten {lines : List Text} (h : IsLines lines) :
    countLines lines.flatten = lines.length := by
  induction h with
  | nil => rfl
  | @last body hne hb =>
    have hlast : body.getLast? ≠ some 0x0A := fun h => hb (List.mem_of_getLast? h)
    simp [countLines, hne, hlast, List.count_eq_zero.2 hb]
  | @cons body lines hb hl ih =>
    rcases eq_or_ne lines [] with rfl | hlines
    · simp [countLines, List.count_eq_zero.2 hb]
    · have hrest : lines.flatten ≠ [] := hl.flatten_ne_nil hlines
      have hlast : (body ++ [0x0A] ++ lines.flatten).getLast? = lines.flatten.getLast? := by
        rw [List.getLast?_append, List.getLast?_eq_some_getLast hrest, Option.some_or]
      rw [countLines, if_neg (by simpa using hrest)] at ih
      rw [List.flatten_cons, countLines, if_neg (by simp), hlast, List.count_append,
        List.count_append, List.count_eq_zero.2 hb, List.count_singleton_self, List.length_cons,
        ← ih]
      omega

theorem countLines_eq_length (t : Text) : countLines t = (splitLines t).length := by
  rw [← (isLines_splitLines t).countLines_flatten, flatten_splitLines]

/-- The kinds of files whose lines are counted. -/
def FileKind.IsC (kind : FileKind) : Prop := kind = .source ∨ kind = .header

instance (kind : FileKind) : Decidable kind.IsC := inferInstanceAs (Decidable (_ ∨ _))

theorem Stats.totalLines_add (stats : Stats) (kind : FileKind) (content : Option Text) :
    (stats.add kind content).totalLines =
      stats.totalLines + if kind.IsC then (splitLines (content.getD [])).length else 0 := by
  rw [← countLines_eq_length]
  cases kind <;> simp [Stats.add, FileKind.IsC]

/-- The lines a file has in the statistics: none if it is not C or cannot be read. -/
def Disk.linesIn (disk : Disk) (folder file : Text) : List Text :=
  if (FileKind.ofPath file).IsC then splitLines ((disk.readText? (Path.join folder file)).getD [])
  else []

theorem Disk.totalLines_foldl_add (disk : Disk) (folder : Text) (files : List Text)
    (stats : Stats) :
    (files.foldl (fun stats file =>
      stats.add (.ofPath file) (disk.readText? (Path.join folder file))) stats).totalLines =
        stats.totalLines + (files.flatMap (disk.linesIn folder)).length := by
  induction files generalizing stats with
  | nil => rfl
  | cons file files ih =>
    have hfile : (disk.linesIn folder file).length = if (FileKind.ofPath file).IsC then
        (splitLines ((disk.readText? (Path.join folder file)).getD [])).length else 0 := by
      rw [linesIn, apply_ite List.length, List.length_nil]
    rw [List.foldl_cons, ih, Stats.totalLines_add, ← hfile, List.flatMap_cons, List.length_append,
      Nat.add_assoc]

/-- The statistics of a folder count the lines of its C files, all put one after the other. -/
theorem Disk.totalLines_stats (disk : Disk) (folder : Text) (excluded : List Text) :
    (disk.stats folder excluded).map Stats.totalLines =
      (disk.select folder (.ofPatterns ["**"] excluded)).map fun files =>
        (files.flatMap (disk.linesIn folder)).length := by
  rw [Disk.stats]
  cases disk.select folder (.ofPatterns ["**"] excluded) with
  | error fault => rfl
  | ok files =>
    have hfiles := disk.totalLines_foldl_add folder files {}
    rw [Nat.zero_add] at hfiles
    exact congrArg Except.ok hfiles

/-! ## The views together -/

/-- The lines of a text that is not empty make up the text, and there are as many of them as starts
and as the statistics count. Each starts after those before it, and an offset lies on the last line
that starts at or before it, in the text one more than there are line feeds before the offset. -/
theorem line_views_agree {t : Text} (ht : t ≠ []) :
    (splitLines t).flatten = t ∧ IsLines (splitLines t) ∧
      (lineStarts t).size = (splitLines t).length ∧
      (∀ (stats : Stats) (kind : FileKind), kind.IsC →
        (stats.add kind (some t)).totalLines = stats.totalLines + (splitLines t).length) ∧
      (∀ (disk : Disk) (folder file : Text) (excluded before after : List Text),
        disk.select folder (.ofPatterns ["**"] excluded) = .ok (before ++ file :: after) →
        (FileKind.ofPath file).IsC → disk.readText? (Path.join folder file) = some t →
        (disk.stats folder excluded).map Stats.totalLines =
          .ok ((before.flatMap (disk.linesIn folder)).length + (splitLines t).length +
            (after.flatMap (disk.linesIn folder)).length)) ∧
      (∀ k < (splitLines t).length,
        (lineStarts t).getD k 0 = ((splitLines t).take k).flatten.length) ∧
      (∀ offset : Int, lineAt (lineStarts t) offset =
        max 1 ((lineStarts t).countP fun start : Nat => (start : Int) ≤ offset)) ∧
      ∀ o < t.length, lineAt (lineStarts t) o = 1 + countLf (t.take o) := by
  refine ⟨flatten_splitLines t, isLines_splitLines t, size_lineStarts ht,
    fun stats kind hkind => ?_,
    fun disk folder file excluded before after hfiles hkind hread => ?_,
    fun k hk => lineStarts_getD t hk, lineAt_eq_countP ht, fun o ho => ?_⟩
  · rw [Stats.totalLines_add, if_pos hkind, Option.getD_some]
  · have hfile : disk.linesIn folder file = splitLines t := by
      rw [Disk.linesIn, if_pos hkind, hread, Option.getD_some]
    rw [Disk.totalLines_stats, hfiles, Except.map, List.flatMap_append, List.flatMap_cons, hfile,
      List.length_append, List.length_append, Nat.add_assoc]
  · rw [lineAt_eq_countLf ho, Nat.add_comm]

def fourLines : Text := "ab\ncd\n\nef"

/-- Four lines of C after two others, and a line that is not C. -/
def fourLinesFolder : Tree :=
  .file "a.h" (Utf8.encode "x\ny") (.file "b.c" (Utf8.encode fourLines)
    (.file "notes.md" (Utf8.encode "n\n") .empty))

def fourLinesDisk : Disk where
  tree := .folder "r" fourLinesFolder .empty
  here := []

theorem line_views_agree_fourLines :
    fourLines ≠ [] ∧ (fourLinesDisk.stats "r" []).map Stats.totalLines = .ok 6 ∧
      (({} : Stats).add .source (some fourLines)).totalLines = 4 ∧
      (lineStarts fourLines).getD 3 0 = 7 ∧ lineAt (lineStarts fourLines) (-1) = 1 ∧
      lineAt (lineStarts fourLines) 100 = 4 ∧ lineAt (lineStarts fourLines) (8 : Nat) = 4 := by
  have hne : fourLines ≠ [] := by decide
  have hwalk : fourLinesFolder.walk (.ofPatterns ["**"] []) [] =
      .ok ["a.h", "b.c", "notes.md"] := by
    decide +kernel
  have hselect : fourLinesDisk.select "r" (.ofPatterns ["**"] []) =
      .ok ["a.h", "b.c", "notes.md"] := by
    show fourLinesFolder.select _ = _
    rw [Tree.select, hwalk]
    exact congrArg Except.ok (List.mergeSort_of_pairwise (by decide))
  obtain ⟨-, -, -, hadd, hstats, hstarts, hcount, hlf⟩ := line_views_agree hne
  refine ⟨hne, ?_, ?_, ?_, ?_, ?_, ?_⟩
  · rw [hstats fourLinesDisk "r" "b.c" [] ["a.h"] ["notes.md"] hselect (by decide +kernel)
      (by decide +kernel)]
    decide +kernel
  · rw [hadd _ _ (by decide)]
    rfl
  · rw [hstarts 3 (by decide)]
    rfl
  · rw [hcount]
    decide
  · rw [hcount]
    decide
  · rw [hlf 8 (by decide)]
    rfl

end Remedy
