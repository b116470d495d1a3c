import Remedy.Proofs.ExactPatches

/-!
# Anchors

An anchor is looked for in three forms, of which the first that occurs in the text counts
(`countedForm`). What an exact locator answers is told by the offsets of that form
(`locateExact_by_offsets`): none, several, or the only one, whose lines are told by the line feeds
before it.
-/

namespace Remedy

/-- The forms in which an anchor is looked for: as it is written, in the ending most line breaks of
the text have, and in the other one. -/
def anchorForms (t anchor : Text) : List Text :=
  let dominant := detectLineEnding t
  [anchor, toLineEnding anchor dominant, toLineEnding anchor dominant.other]

/-- The first form of an anchor that occurs in the text. -/
def countedForm (t anchor : Text) : Option Text :=
  (anchorForms t anchor).find? fun x => t.includes x

theorem find?_spellings (t anchor : Text) :
    (spellings anchor t).find? (fun x => t.includes x) = countedForm t anchor :=
  find?_distinct _ _

theorem firstSpelling_iff_countedForm {t anchor x : Text} (hanchor : anchor ≠ []) :
    FirstSpelling t anchor x ↔ countedForm t anchor = some x := by
  rw [← find?_spellings, List.find?_eq_some_iff_append, FirstSpelling]
  simp only [Bool.not_eq_true', Bool.eq_false_iff, ne_eq, includes_iff]
  refine and_iff_right_of_imp ?_
  rintro ⟨-, earlier, later, hspell, -⟩ hx
  have hmem : x ∈ spellings anchor t := by simp [hspell]
  exact hanchor ((eq_nil_iff_of_mem_spellings hmem).1 hx)

/-- A text occurs at two offsets exactly when the search lists more than one. -/
theorem two_le_length_findAll_iff {t x : Text} (hx : x ≠ []) :
    2 ≤ (findAll t x).length ↔ ∃ i j, i ≠ j ∧ OccursAt x t i ∧ OccursAt x t j := by
  have hmem (i : Nat) : i ∈ findAll t x ↔ OccursAt x t i := by
    rw [mem_findAll]
    exact and_iff_right hx
  simp only [← hmem]
  have hsorted := pairwise_findAll t x
  rcases hfound : findAll t x with _ | ⟨i, _ | ⟨j, rest⟩⟩
  · simp
  · simp
  · rw [hfound] at hsorted
    have hij : i < j := (List.pairwise_cons.1 hsorted).1 j List.mem_cons_self
    simp only [List.length_cons, Nat.le_add_left, true_iff]
    exact ⟨i, j, by omega, by simp, by simp⟩

/-! ## The lines of a match -/

/-- The lines of an occurrence are told by the line feeds before its first and its last unit. -/
theorem span_matchAt {t x : Text} {i : Nat} (hx : x ≠ []) (h : OccursAt x t i) :
    (matchAt t i x.length).span =
      ⟨countLf (t.take i) + 1, countLf (t.take (i + x.length - 1)) + 1⟩ := by
  have hpos := List.length_pos_iff.2 hx
  have hend := h.add_length_le
  have hlast : ((i + x.length : Nat) - 1 : Int) = ((i + x.length - 1 : Nat) : Int) := by omega
  rw [matchAt, hlast, lineAt_eq_countLf (by omega), lineAt_eq_countLf (by omega)]

/-- The lines of a match, counted by the line feeds before its first and its last unit. -/
def Match.CountsLines (m : Match) (t : Text) : Prop :=
  m.span = ⟨countLf (t.take m.startOffset) + 1, countLf (t.take (m.endOffset - 1)) + 1⟩

theorem soleOccurrence_iff {t x : Text} {i : Nat} {m : Match} (h : findAll t x = [i]) :
    SoleOccurrence x t m ∧ m.CountsLines t ↔ m = matchAt t i x.length := by
  obtain ⟨hx, hocc⟩ := findAll_eq_singleton_iff.1 h
  have hi := (hocc i).2 rfl
  constructor
  · rintro ⟨hsole, hspan⟩
    obtain rfl : i = m.startOffset := (hsole.occursAt_iff i).1 hi
    rw [Match.CountsLines, hsole.endOffset_eq, ← span_matchAt hx hi] at hspan
    calc m = ⟨m.span, m.startOffset, m.endOffset⟩ := rfl
      _ = matchAt t m.startOffset x.length := by rw [hspan, hsole.endOffset_eq]; rfl
  · rintro rfl
    exact ⟨⟨hx, hocc, rfl⟩, span_matchAt hx hi⟩

/-! ## What is answered -/

section Answer

variable {t anchor x : Text} (hanchor : anchor ≠ [])
include hanchor

theorem locateExact_of_not_counted (h : countedForm t anchor = none) :
    ∃ cause, locateExact t anchor = .error cause ∧ cause.code = .anchorNotFound := by
  have hoff : (findFirstSpelling t anchor).offsets = [] := by
    by_contra hne
    have hfirst := firstSpelling_iff.2 ⟨hne, rfl⟩
    rw [firstSpelling_iff_countedForm hanchor, h] at hfirst
    exact absurd hfirst (by simp)
  have hlength : (findFirstSpelling t anchor).offsets.length = 0 := by rw [hoff, List.length_nil]
  obtain ⟨cause, hcause, hcode⟩ := locateExact_of_not_single (hlength.trans_ne Nat.zero_ne_one)
  exact ⟨cause, hcause, by rw [hcode, if_pos hlength]⟩

variable (hform : countedForm t anchor = some x)
include hform

/-- The form that counts is the one the search ends with. -/
theorem findFirstSpelling_of_countedForm : findFirstSpelling t anchor = ⟨x, findAll t x⟩ := by
  obtain ⟨-, rfl⟩ := firstSpelling_iff.1 ((firstSpelling_iff_countedForm hanchor).2 hform)
  rw [← (findFirstSpelling_spec t anchor).2]

theorem locateExact_of_single_offset {i : Nat} (h : findAll t x = [i]) :
    locateExact t anchor = .ok (matchAt t i x.length) := by
  have hfound := findFirstSpelling_of_countedForm hanchor hform
  rw [locateExact_of_single (i := i) (by rw [hfound, h]), hfound]

theorem locateExact_of_several_offsets (h : 2 ≤ (findAll t x).length) :
    ∃ cause, locateExact t anchor = .error cause ∧ cause.code = .anchorAmbiguous := by
  have hfound := findFirstSpelling_of_countedForm hanchor hform
  have hlength : 2 ≤ (findFirstSpelling t anchor).offsets.length := by rwa [hfound]
  obtain ⟨cause, hcause, hcode⟩ := locateExact_of_not_single (Nat.ne_of_gt hlength)
  exact ⟨cause, hcause, by rw [hcode, if_neg (by omega)]⟩

end Answer

/-- What is answered for an anchor. Nothing is found if the text or the anchor is empty or no form
of the anchor occurs. It is ambiguous if the form that counts occurs at two offsets, which may
overlap. Otherwise the match is its only occurrence. -/
theorem locateExact_by_offsets (t anchor : Text) :
    ((locateExact t anchor).mapError LocateFailure.code = .error .anchorNotFound ↔
      t = [] ∨ anchor = [] ∨ countedForm t anchor = none) ∧
    ((locateExact t anchor).mapError LocateFailure.code = .error .anchorAmbiguous ↔
      anchor ≠ [] ∧ ∃ x, countedForm t anchor = some x ∧
        ∃ i j, i ≠ j ∧ OccursAt x t i ∧ OccursAt x t j) ∧
    ∀ m, locateExact t anchor = .ok m ↔
      ∃ x, countedForm t anchor = some x ∧ SoleOccurrence x t m ∧
        t.slice m.startOffset m.endOffset = x ∧ m.CountsLines t := by
  -- an occurrence is cut out of the text by its offsets
  have hslice (x : Text) (m : Match) : SoleOccurrence x t m ∧
      t.slice m.startOffset m.endOffset = x ∧ m.CountsLines t ↔
        SoleOccurrence x t m ∧ m.CountsLines t :=
    and_congr_right fun h => and_iff_right h.slice_eq
  simp only [hslice]
  rcases eq_or_ne anchor [] with rfl | hanchor
  · have hempty : locateExact t [] = .error .emptyAnchor := by simp [locateExact]
    have hnil : t.includes [] = true := includes_iff.2 List.nil_infix
    have hform : countedForm t [] = some [] := by simp [countedForm, anchorForms, hnil]
    have hnot (m : Match) : ¬ SoleOccurrence [] t m := fun h => h.ne_nil rfl
    simp [hempty, hform, hnot, Except.mapError, LocateFailure.code]
  rcases hform : countedForm t anchor with _ | x
  · obtain ⟨cause, hcause, hcode⟩ := locateExact_of_not_counted hanchor hform
    simp [hcause, hcode, Except.mapError]
  obtain ⟨hx, hin, -⟩ := (firstSpelling_iff_countedForm hanchor).2 hform
  have ht : t ≠ [] := by
    rintro rfl
    exact hx (List.infix_nil.1 hin)
  have hpos : 0 < (findAll t x).length := by
    rw [List.length_pos_iff, ne_eq, findAll_eq_nil_iff, not_or, not_not]
    exact ⟨hx, hin⟩
  simp only [ht, hanchor, ne_eq, not_false_eq_true, true_and, reduceCtorEq, or_self, iff_false,
    Option.some.injEq, exists_eq_left', ← two_le_length_findAll_iff hx]
  by_cases hone : (findAll t x).length = 1
  · obtain ⟨i, hi⟩ := List.length_eq_one_iff.1 hone
    rw [locateExact_of_single_offset hanchor hform hi]
    refine ⟨by simp [Except.mapError], by simp [Except.mapError, hone], fun m => ?_⟩
    rw [soleOccurrence_iff hi, Except.ok.injEq, eq_comm]
  · obtain ⟨cause, hcause, hcode⟩ := locateExact_of_several_offsets hanchor hform (by omega)
    have hnot (m : Match) : ¬ SoleOccurrence x t m := fun h => hone <|
      length_findAll_eq_one_iff.2 ⟨hx, m.startOffset, h.occursAt, fun j => (h.occursAt_iff j).1⟩
    refine ⟨by simp [hcause, hcode, Except.mapError], ?_, by simp [hcause, hnot]⟩
    simp only [hcause, hcode, Except.mapError, true_iff]
    omega

end Remedy
