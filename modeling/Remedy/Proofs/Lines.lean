import Mathlib.Tactic.Common
import Remedy.Text.Lines

/-!
# Lines of a text

`IsLines` says what the list that `splitLines` gives looks like, and the other views of the lines
are described through it: the lines of a text put together (`splitLines_append`), the offsets at
which they start (`lineStarts_getD`) and the line an offset lies on (`lt_lineAt_iff`), which is also
told by the line feeds before the offset (`lineAt_eq_countLf`).
-/

namespace Remedy

/-- Lines that each end in their only line feed, the last one possibly in none. -/
inductive IsLines : List Text → Prop
  | nil : IsLines []
  | last {body : Text} : body ≠ [] → 0x0A ∉ body → IsLines [body]
  | cons {body : Text} {lines : List Text} : 0x0A ∉ body → IsLines lines →
      IsLines ((body ++ [0x0A]) :: lines)

/-- Whatever follows the text starts on a line of its own. -/
def EndsLine (t : Text) : Prop := ∀ c ∈ t.getLast?, c = 0x0A

theorem endsLine_nil : EndsLine [] := by simp [EndsLine]

theorem endsLine_append_lf (t : Text) : EndsLine (t ++ [0x0A]) := by simp [EndsLine]

theorem EndsLine.append {a b : Text} (ha : EndsLine a) (hb : EndsLine b) : EndsLine (a ++ b) := by
  intro c hc
  rw [Option.mem_def, List.getLast?_append, Option.or_eq_some_iff] at hc
  rcases hc with hc | ⟨-, hc⟩
  · exact hb c hc
  · exact ha c hc

/-! ## Splitting and joining -/

theorem splitLines_eq_nil_iff {t : Text} : splitLines t = [] ↔ t = [] := by
  cases t with
  | nil => simp [splitLines]
  | cons c t =>
    simp only [splitLines, reduceCtorEq, iff_false]
    split_ifs
    · simp
    · split <;> simp

theorem flatten_splitLines (t : Text) : (splitLines t).flatten = t := by
  induction t with
  | nil => rfl
  | cons c t ih =>
    simp only [splitLines]
    split_ifs
    · simp [ih]
    · split
      next h => simp [splitLines_eq_nil_iff.1 h]
      next line lines h =>
        rw [h] at ih
        simp [← ih]

theorem splitLines_body_lf {body : Text} (h : 0x0A ∉ body) (t : Text) :
    splitLines (body ++ 0x0A :: t) = (body ++ [0x0A]) :: splitLines t := by
  induction body with
  | nil => simp [splitLines]
  | cons c body ih =>
    rw [List.mem_cons, not_or] at h
    simp [splitLines, ih h.2, Ne.symm h.1]

theorem splitLines_body {body : Text} (hne : body ≠ []) (h : 0x0A ∉ body) :
    splitLines body = [body] := by
  induction body with
  | nil => exact absurd rfl hne
  | cons c body ih =>
    rw [List.mem_cons, not_or] at h
    cases body with
    | nil => simp [splitLines]
    | cons d body => rw [splitLines, if_neg (Ne.symm h.1), ih (by simp) h.2]

theorem isLines_splitLines (t : Text) : IsLines (splitLines t) := by
  induction t with
  | nil => exact .nil
  | cons c t ih =>
    simp only [splitLines]
    split_ifs with hc
    · subst hc
      exact @IsLines.cons [] _ (by simp) ih
    · split
      next => exact .last (by simp) (by simpa using Ne.symm hc)
      next line lines h =>
        rw [h] at ih
        cases ih with
        | last hne hb => exact .last (by simp) (by simp [hb, Ne.symm hc])
        | @cons body _ hb hl => exact @IsLines.cons (c :: body) _ (by simp [hb, Ne.symm hc]) hl

theorem IsLines.splitLines_flatten {lines : List Text} (h : IsLines lines) :
    splitLines lines.flatten = lines := by
  induction h with
  | nil => rfl
  | last hne hb => simpa using splitLines_body hne hb
  | cons hb _ ih =>
    rw [List.flatten_cons, List.append_assoc, List.singleton_append, splitLines_body_lf hb, ih]

theorem IsLines.drop {lines : List Text} (h : IsLines lines) (k : Nat) :
    IsLines (lines.drop k) := by
  induction h generalizing k with
  | nil => simpa using IsLines.nil
  | last hne hb =>
    cases k with
    | zero => exact .last hne hb
    | succ k => simpa using IsLines.nil
  | cons hb hl ih =>
    cases k with
    | zero => exact .cons hb hl
    | succ k => exact ih k

theorem IsLines.take {lines : List Text} (h : IsLines lines) (k : Nat) :
    IsLines (lines.take k) := by
  induction h generalizing k with
  | nil => simpa using IsLines.nil
  | last hne hb =>
    cases k with
    | zero => exact .nil
    | succ k => simpa using IsLines.last hne hb
  | cons hb hl ih =>
    cases k with
    | zero => exact .nil
    | succ k => exact .cons hb (ih k)

/-- The lines before some line are all terminated. -/
theorem IsLines.endsLine_take {lines : List Text} (h : IsLines lines) {k : Nat}
    (hk : k < lines.length) : EndsLine (lines.take k).flatten := by
  induction h generalizing k with
  | nil => simp at hk
  | last hne hb =>
    obtain rfl : k = 0 := by simpa using hk
    exact endsLine_nil
  | cons hb hl ih =>
    cases k with
    | zero => exact endsLine_nil
    | succ k =>
      rw [List.take_succ_cons, List.flatten_cons]
      exact (endsLine_append_lf _).append (ih (by simpa using hk))

theorem IsLines.ne_nil {lines : List Text} (h : IsLines lines) {line : Text} (hl : line ∈ lines) :
    line ≠ [] := by
  induction h with
  | nil => simp at hl
  | last hne _ =>
    rw [List.mem_singleton] at hl
    exact hl ▸ hne
  | cons _ _ ih =>
    rcases List.mem_cons.1 hl with rfl | hl
    · simp
    · exact ih hl

theorem IsLines.flatten_ne_nil {lines : List Text} (h : IsLines lines) (hne : lines ≠ []) :
    lines.flatten ≠ [] := by
  intro hnil
  obtain ⟨line, hline⟩ := List.exists_mem_of_ne_nil _ hne
  exact h.ne_nil hline (List.flatten_eq_nil_iff.1 hnil line hline)

/-- A line feed before what is added keeps the lines apart. -/
theorem splitLines_append {a b : Text} (h : EndsLine a ∨ b = []) :
    splitLines (a ++ b) = splitLines a ++ splitLines b := by
  rcases h with h | rfl
  · induction a with
    | nil => rfl
    | cons c a ih =>
      rcases eq_or_ne a [] with rfl | ha
      · obtain rfl : c = 0x0A := h c (by simp)
        simp [splitLines]
      · have ih := ih fun d hd => h d (by simp [List.getLast?_cons, Option.mem_def.1 hd])
        simp only [List.cons_append, splitLines, ih]
        split_ifs
        · rfl
        · obtain ⟨line, lines, hs⟩ : ∃ line lines, splitLines a = line :: lines :=
            List.exists_cons_of_ne_nil (mt splitLines_eq_nil_iff.1 ha)
          simp [hs]
  · simp [splitLines]

theorem splitLines_take (t : Text) (k : Nat) :
    splitLines ((splitLines t).take k).flatten = (splitLines t).take k :=
  ((isLines_splitLines t).take k).splitLines_flatten

theorem splitLines_drop (t : Text) (k : Nat) :
    splitLines ((splitLines t).drop k).flatten = (splitLines t).drop k :=
  ((isLines_splitLines t).drop k).splitLines_flatten

theorem flatten_take_append_drop (t : Text) (k : Nat) :
    ((splitLines t).take k).flatten ++ ((splitLines t).drop k).flatten = t := by
  rw [← List.flatten_append, List.take_append_drop, flatten_splitLines]

theorem mem_of_mem_splitLines {t line : Text} {c : CodeUnit} (hl : line ∈ splitLines t)
    (hc : c ∈ line) : c ∈ t := by
  rw [← flatten_splitLines t]
  exact List.mem_flatten.2 ⟨line, hl, hc⟩

/-- A text of more than one line holds a line feed. -/
theorem lf_mem_of_lines {t : Text} {k : Nat} (hpos : 0 < k) (hk : k < (splitLines t).length) :
    0x0A ∈ t := by
  by_contra hlf
  have ht : t ≠ [] := by
    rintro rfl
    simp [splitLines] at hk
  rw [splitLines_body ht hlf, List.length_singleton] at hk
  omega

/-- A list of lines around one of them. -/
theorem flatten_take_getD_drop {lines : List Text} {k : Nat} (hk : k < lines.length) :
    (lines.take k).flatten ++ (lines.getD k [] ++ (lines.drop (k + 1)).flatten) =
      lines.flatten := by
  rw [List.getD_eq_getElem?_getD, List.getElem?_eq_getElem hk, Option.getD_some,
    ← List.flatten_cons, ← List.drop_eq_getElem_cons hk, ← List.flatten_append,
    List.take_append_drop]

/-! ## Terminators -/

theorem terminator_append_crlf (t : Text) : terminator (t ++ [0x0D, 0x0A]) = [0x0D, 0x0A] := by
  simp [terminator]

theorem terminator_append_lf {t : Text} (h : t.getLast? ≠ some 0x0D) :
    terminator (t ++ [0x0A]) = [0x0A] := by
  rcases List.eq_nil_or_concat t with rfl | ⟨t, c, rfl⟩
  · rfl
  · have hc : c ≠ 0x0D := by simpa using h
    simp only [terminator, List.reverse_append, List.reverse_cons, List.reverse_nil,
      List.nil_append, List.cons_append]
    split
    next h => simp_all
    next => rfl
    next _ h => exact absurd rfl (h _)

theorem terminator_eq_nil {t : Text} (h : t.getLast? ≠ some 0x0A) : terminator t = [] := by
  rcases List.eq_nil_or_concat t with rfl | ⟨t, c, rfl⟩
  · rfl
  · have hc : c ≠ 0x0A := by simpa using h
    unfold terminator
    split <;> simp_all

/-- A text ends in CR LF, in a line feed after some other unit, or in no line feed. -/
theorem terminator_cases (t : Text) :
    (∃ body, t = body ++ [0x0D, 0x0A] ∧ terminator t = [0x0D, 0x0A]) ∨
      (∃ body, t = body ++ [0x0A] ∧ body.getLast? ≠ some 0x0D ∧ terminator t = [0x0A]) ∨
      t.getLast? ≠ some 0x0A ∧ terminator t = [] := by
  by_cases h : t.getLast? = some 0x0A
  · obtain ⟨body, rfl⟩ := List.getLast?_eq_some_iff.1 h
    by_cases hb : body.getLast? = some 0x0D
    · obtain ⟨body, rfl⟩ := List.getLast?_eq_some_iff.1 hb
      exact .inl ⟨body, by simp, by simpa using terminator_append_crlf body⟩
    · exact .inr (.inl ⟨body, rfl, hb, terminator_append_lf hb⟩)
  · exact .inr (.inr ⟨h, terminator_eq_nil h⟩)

theorem stripTerminator_append_crlf (t : Text) : stripTerminator (t ++ [0x0D, 0x0A]) = t := by
  simp [stripTerminator, terminator_append_crlf]

theorem stripTerminator_append_lf {t : Text} (h : t.getLast? ≠ some 0x0D) :
    stripTerminator (t ++ [0x0A]) = t := by
  simp [stripTerminator, terminator_append_lf h]

theorem stripTerminator_eq_self {t : Text} (h : t.getLast? ≠ some 0x0A) :
    stripTerminator t = t := by
  simp [stripTerminator, terminator_eq_nil h]

theorem stripTerminator_append_terminator (t : Text) : stripTerminator t ++ terminator t = t := by
  rcases terminator_cases t with ⟨body, rfl, h⟩ | ⟨body, rfl, hb, h⟩ | ⟨ht, h⟩
  · rw [h, stripTerminator_append_crlf]
  · rw [h, stripTerminator_append_lf hb]
  · rw [h, stripTerminator_eq_self ht, List.append_nil]

theorem length_stripTerminator (t : Text) :
    (stripTerminator t).length + (terminator t).length = t.length := by
  rw [← List.length_append, stripTerminator_append_terminator]

/-- The line break at the end of a text is that of its last line. -/
theorem terminator_append {a b : Text} (ha : EndsLine a) (hb : b ≠ []) :
    terminator (a ++ b) = terminator b := by
  rcases terminator_cases b with ⟨body, rfl, h⟩ | ⟨body, rfl, hbody, h⟩ | ⟨hlast, h⟩
  · rw [h, ← List.append_assoc, terminator_append_crlf]
  · rw [h, ← List.append_assoc, terminator_append_lf]
    rw [List.getLast?_append, ne_eq, Option.or_eq_some_iff]
    rintro (h | ⟨-, h⟩)
    · exact hbody h
    · exact absurd (ha _ h) (by decide)
  · rw [h, terminator_eq_nil]
    rw [List.getLast?_append, ne_eq, Option.or_eq_some_iff]
    rintro (h | ⟨h, -⟩)
    · exact hlast h
    · exact hb (List.getLast?_eq_none_iff.1 h)

theorem endsLine_of_terminator_ne_nil {t : Text} (h : terminator t ≠ []) : EndsLine t := by
  intro c hc
  rcases terminator_cases t with ⟨body, rfl, -⟩ | ⟨body, rfl, -, -⟩ | ⟨-, ht⟩
  · simpa using hc.symm
  · simpa using hc.symm
  · exact absurd ht h

/-- A terminator at the end of a text is part of its line break. -/
theorem length_terminator_le (a b : Text) :
    (terminator b).length ≤ (terminator (a ++ terminator b)).length := by
  rcases terminator_cases b with ⟨body, rfl, h⟩ | ⟨body, rfl, -, h⟩ | ⟨-, h⟩
  · simp [h, terminator_append_crlf]
  · rw [h]
    rcases terminator_cases (a ++ [0x0A]) with ⟨_, -, h'⟩ | ⟨_, -, -, h'⟩ | ⟨hlast, -⟩
    · simp [h']
    · simp [h']
    · simp at hlast
  · simp [h]

/-- Only the last line can lack its terminator. -/
theorem IsLines.drop_eq_nil {lines : List Text} (h : IsLines lines) {k : Nat}
    (hk : k < lines.length) (ht : terminator (lines.getD k []) = []) :
    lines.drop (k + 1) = [] := by
  induction h generalizing k with
  | nil => simp at hk
  | last => simp
  | @cons body lines hb hl ih =>
    cases k with
    | zero =>
      rcases terminator_cases (body ++ [0x0A]) with ⟨_, -, h⟩ | ⟨_, -, -, h⟩ | ⟨h, -⟩
      · simp [h] at ht
      · simp [h] at ht
      · simp at h
    | succ k => exact ih (by simpa using hk) (by simpa using ht)

theorem IsLines.lf_not_mem_content {lines : List Text} (h : IsLines lines) {line : Text}
    (hl : line ∈ lines) : 0x0A ∉ stripTerminator line := by
  induction h with
  | nil => simp at hl
  | @last body _ hb =>
    obtain rfl := List.mem_singleton.1 hl
    exact fun hlf => hb (List.mem_of_mem_take hlf)
  | @cons body lines hb _ ih =>
    rcases List.mem_cons.1 hl with rfl | hl
    · intro hlf
      rcases terminator_cases (body ++ [0x0A]) with ⟨a, ha, -⟩ | ⟨a, ha, hlast, -⟩ | ⟨hlast, -⟩
      · rw [ha, stripTerminator_append_crlf] at hlf
        have hbody : body = a ++ [0x0D] := by
          rw [List.append_cons a] at ha
          exact List.append_cancel_right ha
        exact hb (by simp [hbody, hlf])
      · rw [ha, stripTerminator_append_lf hlast] at hlf
        exact hb (List.append_cancel_right ha ▸ hlf)
      · simp at hlast
    · exact ih hl

/-- The content of every line lies before the line break at the end of the text. -/
theorem IsLines.content_within {lines : List Text} (h : IsLines lines) {k : Nat}
    (hk : k < lines.length) :
    (lines.take k).flatten.length + (stripTerminator (lines.getD k [])).length +
      (terminator lines.flatten).length ≤ lines.flatten.length := by
  induction h generalizing k with
  | nil => simp at hk
  | @last body hne hb =>
    obtain rfl : k = 0 := by simpa using hk
    simpa using Nat.le_of_eq (length_stripTerminator body)
  | @cons body lines hb hl ih =>
    have hstrip := length_stripTerminator (body ++ [0x0A])
    rcases eq_or_ne lines [] with rfl | hne
    · obtain rfl : k = 0 := by simpa using hk
      simpa using Nat.le_of_eq hstrip
    · have hrest : lines.flatten ≠ [] := hl.flatten_ne_nil hne
      have hlen := length_stripTerminator lines.flatten
      rw [List.flatten_cons, terminator_append (endsLine_append_lf body) hrest, List.length_append]
      cases k with
      | zero =>
        simp only [List.take_zero, List.flatten_nil, List.length_nil, List.getD_cons_zero]
        omega
      | succ k =>
        have := ih (k := k) (by simpa using hk)
        simp only [List.take_succ_cons, List.flatten_cons, List.length_append,
          List.getD_cons_succ] at this ⊢
        omega

/-! ## Where lines start -/

/-- The offsets of some lines, the first of which has offset `i`. -/
def offsetsFrom (i : Nat) : List Text → List Nat
  | [] => []
  | line :: lines => i :: offsetsFrom (i + line.length) lines

theorem length_offsetsFrom (i : Nat) (lines : List Text) :
    (offsetsFrom i lines).length = lines.length := by
  induction lines generalizing i with
  | nil => rfl
  | cons line lines ih => simp [offsetsFrom, ih]

theorem getD_offsetsFrom (i : Nat) (lines : List Text) {k : Nat} (hk : k < lines.length) :
    (offsetsFrom i lines).getD k 0 = i + (lines.take k).flatten.length := by
  induction lines generalizing i k with
  | nil => simp at hk
  | cons line lines ih =>
    cases k with
    | zero => simp [offsetsFrom]
    | succ k =>
      have := ih (i + line.length) (k := k) (by simpa using hk)
      simp only [offsetsFrom, List.getD_cons_succ, this, List.take_succ_cons, List.flatten_cons,
        List.length_append]
      omega

theorem cons_startsAfter {t : Text} (ht : t ≠ []) (i : Nat) :
    i :: startsAfter i t = offsetsFrom i (splitLines t) := by
  induction t generalizing i with
  | nil => exact absurd rfl ht
  | cons c t ih =>
    rcases eq_or_ne t [] with rfl | ht'
    · simp [startsAfter, splitLines, offsetsFrom]
    · have ih := ih ht' (i + 1)
      obtain ⟨line, lines, hs⟩ : ∃ line lines, splitLines t = line :: lines :=
        List.exists_cons_of_ne_nil (mt splitLines_eq_nil_iff.1 ht')
      by_cases hc : c = 0x0A
      · simp [startsAfter, splitLines, offsetsFrom, hc, ht', ih]
      · rw [hs, offsetsFrom, List.cons.injEq] at ih
        simp [startsAfter, splitLines, offsetsFrom, hc, hs, ih.2, Nat.add_assoc, Nat.add_comm 1]

theorem toList_lineStarts {t : Text} (ht : t ≠ []) :
    (lineStarts t).toList = offsetsFrom 0 (splitLines t) := by
  rw [lineStarts, List.toList_toArray, cons_startsAfter ht]

theorem size_lineStarts {t : Text} (ht : t ≠ []) :
    (lineStarts t).size = (splitLines t).length := by
  rw [← Array.length_toList, toList_lineStarts ht, length_offsetsFrom]

theorem getD_toList (starts : Array Nat) (k : Nat) : starts.toList.getD k 0 = starts.getD k 0 := by
  rw [List.getD_eq_getElem?_getD, Array.getElem?_toList, Array.getD_eq_getD_getElem?]

/-- A line starts after all the lines before it. -/
theorem lineStarts_getD (t : Text) {k : Nat} (hk : k < (splitLines t).length) :
    (lineStarts t).getD k 0 = ((splitLines t).take k).flatten.length := by
  have ht : t ≠ [] := by
    rintro rfl
    simp [splitLines] at hk
  rw [← getD_toList, toList_lineStarts ht, getD_offsetsFrom 0 _ hk, Nat.zero_add]

theorem take_lineStart {t : Text} {k : Nat} (hk : k < (splitLines t).length) :
    t.take ((lineStarts t).getD k 0) = ((splitLines t).take k).flatten := by
  rw [lineStarts_getD t hk]
  exact (congrArg (List.take _) (flatten_take_append_drop t k).symm).trans List.take_left

theorem drop_lineStart {t : Text} {k : Nat} (hk : k < (splitLines t).length) :
    t.drop ((lineStarts t).getD k 0) = ((splitLines t).drop k).flatten := by
  rw [lineStarts_getD t hk]
  exact (congrArg (List.drop _) (flatten_take_append_drop t k).symm).trans List.drop_left

theorem length_flatten_take_lt {lines : List Text} (h : IsLines lines) {j k : Nat} (hjk : j < k)
    (hk : k ≤ lines.length) : (lines.take j).flatten.length < (lines.take k).flatten.length := by
  have hj : j < lines.length := by omega
  have hne : 0 < (lines.get ⟨j, hj⟩).length :=
    List.length_pos_iff.2 (h.ne_nil (List.get_mem lines ⟨j, hj⟩))
  obtain ⟨d, rfl⟩ := Nat.exists_eq_add_of_lt hjk
  rw [Nat.add_assoc, List.take_add, List.drop_eq_getElem_cons hj, List.take_succ_cons,
    List.flatten_append, List.flatten_cons, List.length_append, List.length_append]
  simp only [List.get_eq_getElem] at hne
  omega

theorem lineStarts_lt (t : Text) {j k : Nat} (hjk : j < k) (hk : k < (splitLines t).length) :
    (lineStarts t).getD j 0 < (lineStarts t).getD k 0 := by
  rw [lineStarts_getD t hk, lineStarts_getD t (Nat.lt_trans hjk hk)]
  exact length_flatten_take_lt (isLines_splitLines t) hjk (Nat.le_of_lt hk)

/-! ## The line of an offset -/

/-- What the search for the line of an offset knows about the range that is left. -/
structure Brackets (starts : Array Nat) (offset : Int) (low high : Nat) : Prop where
  le : low ≤ high
  inside : high < starts.size
  below : low = 0 ∨ (starts.getD low 0 : Int) ≤ offset
  above : ∀ j, high < j → j < starts.size → offset < starts.getD j 0

theorem searchLine_brackets {starts : Array Nat} {offset : Int} {low high : Nat}
    (sorted : ∀ j k, j < k → k < starts.size → starts.getD j 0 < starts.getD k 0)
    (h : Brackets starts offset low high) :
    Brackets starts offset (searchLine starts offset low high)
      (searchLine starts offset low high) := by
  fun_induction searchLine starts offset low high with
  | case1 low high hlt mid hmid ih => exact ih ⟨by omega, h.inside, .inr hmid, h.above⟩
  | case2 low high hlt mid hmid ih =>
    have := h.inside
    refine ih ⟨by omega, by omega, h.below, fun j hj hsize => ?_⟩
    -- the start in the middle is too far already, and so is every later one
    rcases Nat.lt_or_eq_of_le (show mid ≤ j by omega) with hj' | rfl
    · have := sorted mid j hj' hsize
      omega
    · omega
  | case3 low high hlt =>
    have := h.le
    obtain rfl : low = high := by omega
    exact h

/-- The search stops at the last line that starts at or before the offset, or at the first one. -/
theorem lineAt_brackets {t : Text} (ht : t ≠ []) (offset : Int) :
    Brackets (lineStarts t) offset (lineAt (lineStarts t) offset - 1)
      (lineAt (lineStarts t) offset - 1) := by
  have hsize := size_lineStarts ht
  have hpos := List.length_pos_iff.2 (mt splitLines_eq_nil_iff.1 ht)
  exact searchLine_brackets (fun j k hjk hk => lineStarts_lt t hjk (hsize ▸ hk))
    ⟨by omega, by omega, .inl rfl, fun j _ _ => by omega⟩

theorem lineAt_pos (starts : Array Nat) (offset : Int) : 0 < lineAt starts offset := by
  simp [lineAt]

theorem lineAt_le {t : Text} (ht : t ≠ []) (offset : Int) :
    lineAt (lineStarts t) offset ≤ (splitLines t).length := by
  have := (lineAt_brackets ht offset).inside
  have := size_lineStarts ht
  omega

/-- The line of an offset is beyond the first `k` lines exactly when the next one starts at or
before the offset; offsets before the text count as lying on the first line. -/
theorem lt_lineAt_iff {t : Text} (offset : Int) {k : Nat} (hk : k < (splitLines t).length) :
    k < lineAt (lineStarts t) offset ↔ k = 0 ∨ ((lineStarts t).getD k 0 : Int) ≤ offset := by
  have ht : t ≠ [] := by
    rintro rfl
    simp [splitLines] at hk
  have hsize := size_lineStarts ht
  have hpos := lineAt_pos (lineStarts t) offset
  have h := lineAt_brackets ht offset
  constructor
  · intro hlt
    rcases Nat.eq_zero_or_pos k with h0 | h0
    · exact .inl h0
    · have hstart := h.below.resolve_left (by omega)
      rcases Nat.lt_or_eq_of_le (show k ≤ lineAt (lineStarts t) offset - 1 by omega) with h' | h'
      · have := lineStarts_lt t h' (hsize ▸ h.inside)
        omega
      · exact .inr (h' ▸ hstart)
  · rintro (rfl | hstart)
    · exact hpos
    · by_contra hlt
      have := h.above k (by omega) (by omega)
      omega

theorem lineAt_mono {t : Text} (ht : t ≠ []) {a b : Int} (hab : a ≤ b) :
    lineAt (lineStarts t) a ≤ lineAt (lineStarts t) b := by
  have hpos := lineAt_pos (lineStarts t) a
  have hk : lineAt (lineStarts t) a - 1 < (splitLines t).length := by
    have := lineAt_le ht a
    omega
  have hb := (lt_lineAt_iff b hk).2 (((lt_lineAt_iff a hk).1 (by omega)).imp_right (by omega))
  omega

/-! ## Counting line feeds -/

theorem count_take_body_lf {body : Text} (hb : 0x0A ∉ body) (rest : Text) (o : Nat) :
    ((body ++ [0x0A] ++ rest).take o).count 0x0A =
      if o ≤ body.length then 0 else (rest.take (o - (body.length + 1))).count 0x0A + 1 := by
  split_ifs with ho
  · rw [List.append_assoc, List.take_append_of_le_length ho]
    exact List.count_eq_zero.2 fun h => hb (List.mem_of_mem_take h)
  · rw [List.take_append, List.take_of_length_le (by simp; omega), List.count_append,
      List.count_append, List.count_eq_zero.2 hb]
    simp only [List.length_append, List.length_singleton, List.count_singleton_self]
    omega

/-- The line feeds before an offset tell how many lines start at or before it. -/
theorem IsLines.length_take_le_iff {lines : List Text} (h : IsLines lines) {k : Nat}
    (hk : k < lines.length) (o : Nat) :
    (lines.take k).flatten.length ≤ o ↔ k ≤ (lines.flatten.take o).count 0x0A := by
  induction h generalizing k o with
  | nil => simp at hk
  | last =>
    obtain rfl : k = 0 := by simpa using hk
    simp
  | @cons body lines hb hl ih =>
    cases k with
    | zero => simp
    | succ k =>
      have ih := ih (k := k) (by simpa using hk) (o - (body.length + 1))
      simp only [List.take_succ_cons, List.flatten_cons, List.length_append, List.length_singleton,
        count_take_body_lf hb]
      split_ifs <;> omega

theorem IsLines.count_take_lt {lines : List Text} (h : IsLines lines) {o : Nat}
    (ho : o < lines.flatten.length) : (lines.flatten.take o).count 0x0A < lines.length := by
  induction h generalizing o with
  | nil => simp at ho
  | @last body _ hb =>
    have : (body.take o).count 0x0A = 0 :=
      List.count_eq_zero.2 fun h => hb (List.mem_of_mem_take h)
    simp [this]
  | @cons body lines hb hl ih =>
    rw [List.flatten_cons, count_take_body_lf hb, List.length_cons]
    split_ifs with hle
    · omega
    · simp only [List.flatten_cons, List.length_append, List.length_singleton] at ho
      have := ih (o := o - (body.length + 1)) (by omega)
      omega

/-- The line of an offset in the text is told by the line feeds before it. -/
theorem lineAt_eq_countLf {t : Text} {o : Nat} (ho : o < t.length) :
    lineAt (lineStarts t) o = countLf (t.take o) + 1 := by
  have ht : t ≠ [] := List.length_pos_iff.1 (by omega)
  have hlines := isLines_splitLines t
  have hflat := flatten_splitLines t
  have hbeyond (k : Nat) (hk : k < (splitLines t).length) :
      k < lineAt (lineStarts t) o ↔ k ≤ countLf (t.take o) := by
    have := hlines.length_take_le_iff hk o
    rw [lt_lineAt_iff _ hk, lineStarts_getD t hk, Int.ofNat_le, this, hflat, countLf]
    omega
  have hcount := hlines.count_take_lt (o := o) (by rwa [hflat])
  rw [hflat, ← countLf] at hcount
  have hpos := lineAt_pos (lineStarts t) o
  have hle := lineAt_le ht o
  have hlow := (hbeyond (countLf (t.take o)) hcount).2 (Nat.le_refl _)
  have hhigh := (hbeyond (lineAt (lineStarts t) o - 1) (by omega)).1 (by omega)
  omega

end Remedy
