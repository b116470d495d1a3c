import Mathlib.Tactic.Common
import Remedy.Text

/-!
# Pieces of a text

`Text.splitAt` cuts a text at its separators. A separator cuts it in two parts that are split on
their own (`splitAt_append_cons`), and a piece survives more separators than those it was cut at if
it holds none of them (`mem_splitAt_of_finer`).
-/

namespace Remedy

/-- Text without separators is the beginning of the first piece. -/
theorem splitAt_append_piece {isSeparator : CodeUnit → Bool} {w : Text}
    (hw : ∀ c ∈ w, isSeparator c = false) {s piece : Text} {pieces : List Text}
    (hs : Text.splitAt isSeparator s = piece :: pieces) :
    Text.splitAt isSeparator (w ++ s) = (w ++ piece) :: pieces := by
  induction w with
  | nil => exact hs
  | cons c w ih =>
    have hc : isSeparator c = false := hw c List.mem_cons_self
    simp [Text.splitAt, hc, ih fun d hd => hw d (List.mem_cons_of_mem _ hd)]

/-- Whatever stands before a text, all its pieces but the first stay as they are, and the first one
becomes the end of a piece. -/
theorem splitAt_append {isSeparator : CodeUnit → Bool} (a : Text) {s piece : Text}
    {pieces : List Text} (hs : Text.splitAt isSeparator s = piece :: pieces) :
    ∃ before x, Text.splitAt isSeparator (a ++ s) = before ++ (x ++ piece) :: pieces := by
  induction a with
  | nil => exact ⟨[], [], by simpa using hs⟩
  | cons c a ih =>
    obtain ⟨before, x, h⟩ := ih
    rw [List.cons_append, Text.splitAt, h]
    split_ifs
    · exact ⟨[] :: before, x, rfl⟩
    · cases before with
      | nil => exact ⟨[], c :: x, rfl⟩
      | cons first before => exact ⟨(c :: first) :: before, x, rfl⟩

theorem head_splitAt (isSeparator : CodeUnit → Bool) (s : Text) :
    ∃ pieces, Text.splitAt isSeparator s = s.takeWhile (fun c => !isSeparator c) :: pieces := by
  induction s with
  | nil => exact ⟨[], rfl⟩
  | cons c s ih =>
    obtain ⟨pieces, h⟩ := ih
    unfold Text.splitAt
    split_ifs with hc
    · exact ⟨Text.splitAt isSeparator s, by simp [hc]⟩
    · rw [h]
      exact ⟨pieces, by simp [hc]⟩

theorem splitAt_of_forall {isSeparator : CodeUnit → Bool} {s : Text}
    (h : ∀ c ∈ s, isSeparator c = false) : Text.splitAt isSeparator s = [s] := by
  simpa using splitAt_append_piece h (s := []) rfl

theorem splitAt_append_cons {isSeparator : CodeUnit → Bool} {c : CodeUnit}
    (hc : isSeparator c = true) (a b : Text) :
    Text.splitAt isSeparator (a ++ c :: b) =
      Text.splitAt isSeparator a ++ Text.splitAt isSeparator b := by
  induction a with
  | nil => simp [Text.splitAt, hc]
  | cons d a ih =>
    obtain ⟨pieces, ha⟩ := head_splitAt isSeparator a
    rw [ha] at ih
    rw [List.cons_append, Text.splitAt, ih, Text.splitAt, ha]
    split_ifs <;> rfl

/-- A text holds no separator, or it is cut at the first one. -/
theorem splitAt_cases (isSeparator : CodeUnit → Bool) (s : Text) :
    (∀ c ∈ s, isSeparator c = false) ∨
      ∃ a c b, s = a ++ c :: b ∧ (∀ d ∈ a, isSeparator d = false) ∧ isSeparator c = true := by
  induction s with
  | nil => exact .inl (by simp)
  | cons d s ih =>
    cases hd : isSeparator d with
    | true => exact .inr ⟨[], d, s, rfl, by simp, hd⟩
    | false =>
      obtain h | ⟨a, c, b, rfl, ha, hc⟩ := ih
      · exact .inl (List.forall_mem_cons.2 ⟨hd, h⟩)
      · exact .inr ⟨d :: a, c, b, rfl, List.forall_mem_cons.2 ⟨hd, ha⟩, hc⟩

/-- Induction on the pieces of a text. -/
@[elab_as_elim]
theorem pieces_induction (isSeparator : CodeUnit → Bool) {motive : Text → Prop}
    (last : ∀ s, (∀ c ∈ s, isSeparator c = false) → motive s)
    (cut : ∀ a c b, (∀ d ∈ a, isSeparator d = false) → isSeparator c = true → motive b →
      motive (a ++ c :: b))
    (s : Text) : motive s := by
  rcases splitAt_cases isSeparator s with h | ⟨a, c, b, hs, ha, hc⟩
  · exact last s h
  · have hlt : b.length < s.length := by
      rw [hs, List.length_append, List.length_cons]
      omega
    exact hs ▸ cut a c b ha hc (pieces_induction isSeparator last cut b)
termination_by s.length

theorem not_separator_of_mem_splitAt {isSeparator : CodeUnit → Bool} {s piece : Text}
    (h : piece ∈ Text.splitAt isSeparator s) : ∀ c ∈ piece, isSeparator c = false := by
  induction s using pieces_induction isSeparator with
  | last s hs =>
    rw [splitAt_of_forall hs, List.mem_singleton] at h
    exact h ▸ hs
  | cut a c b ha hc ih =>
    rw [splitAt_append_cons hc, splitAt_of_forall ha, List.singleton_append, List.mem_cons] at h
    obtain rfl | h := h
    · exact ha
    · exact ih h

/-- A piece without separators of a second kind is also cut out when the text is split at both
kinds. -/
theorem mem_splitAt_of_finer {isSeparator isFiner : CodeUnit → Bool} {s piece : Text}
    (hfiner : ∀ c, isSeparator c = true → isFiner c = true)
    (h : piece ∈ Text.splitAt isSeparator s) (hpiece : ∀ c ∈ piece, isFiner c = false) :
    piece ∈ Text.splitAt isFiner s := by
  induction s using pieces_induction isSeparator with
  | last s hs =>
    rw [splitAt_of_forall hs, List.mem_singleton] at h
    subst h
    simp [splitAt_of_forall hpiece]
  | cut a c b ha hc ih =>
    rw [splitAt_append_cons hc, splitAt_of_forall ha, List.singleton_append, List.mem_cons] at h
    rw [splitAt_append_cons (hfiner c hc), List.mem_append]
    obtain rfl | h := h
    · exact .inl (by simp [splitAt_of_forall hpiece])
    · exact .inr (ih h)

end Remedy
