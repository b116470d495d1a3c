import Mathlib.Data.List.TakeWhile
import Mathlib.Tactic.Common
import Remedy.Text

/-!
# Parts and order of texts

A text is split beside a run of units (`Text.run_iff`, `Text.exists_last_run`), at a unit
(`Text.exists_split_cons_iff`) or anywhere (`Text.forall_prefix_cons_iff`). `Text.le` is the
lexicographic order of code units (`Text.le_iff`), so the texts that `Text.sort` gives are in that
order, and strictly so when they are all different (`Text.pairwise_lt_sort`).
-/

namespace Remedy

theorem CodeUnit.not_isBlank_of_isWord {c : CodeUnit} (h : c.isWord = true) :
    c.isBlank = false := by
  simp [CodeUnit.isWord, CodeUnit.isLetter, CodeUnit.isUpper, CodeUnit.isLower, CodeUnit.isDigit,
    CodeUnit.isBlank, UInt16.le_iff_toNat_le, ← UInt16.toNat_inj] at h ⊢
  omega

namespace Text

/-! ## Parts -/

/-- The longest run of units at the start of a text, and what follows it. -/
theorem run_iff {p : CodeUnit → Bool} {t run rest : Text} :
    t.takeWhile p = run ∧ t.dropWhile p = rest ↔
      t = run ++ rest ∧ (∀ c ∈ run, p c = true) ∧ ∀ c ∈ rest.head?, p c = false := by
  constructor
  · rintro ⟨rfl, rfl⟩
    refine ⟨List.takeWhile_append_dropWhile.symm, fun c hc => List.mem_takeWhile_imp hc, ?_⟩
    intro c hc
    have := List.head?_dropWhile_not p t
    rw [hc] at this
    exact this
  · rintro ⟨rfl, hrun, hrest⟩
    rw [List.takeWhile_append_of_pos hrun, List.dropWhile_append_of_pos hrun]
    cases rest with
    | nil => simp
    | cons c rest =>
      have hc : p c = false := hrest c rfl
      simp [hc]

/-- The longest run of units at the end of a text, and what precedes it. -/
theorem exists_last_run (p : CodeUnit → Bool) (t : Text) :
    ∃ front run, t = front ++ run ∧ (∀ c ∈ run, p c = true) ∧
      ∀ c ∈ front.getLast?, p c = false := by
  obtain ⟨hsplit, hrun, hrest⟩ := (run_iff (p := p) (t := t.reverse)).1 ⟨rfl, rfl⟩
  refine ⟨(t.reverse.dropWhile p).reverse, (t.reverse.takeWhile p).reverse, ?_, ?_, ?_⟩
  · rw [← List.reverse_append, ← hsplit, List.reverse_reverse]
  · simpa using hrun
  · simpa [List.getLast?_reverse] using hrest

/-- Where the first unit of a text stands that is split at a unit. -/
theorem exists_split_cons_iff {P : Text → Prop} {c d : CodeUnit} {t rest : Text} :
    (∃ inner, c :: t = inner ++ d :: rest ∧ P inner) ↔
      (c = d ∧ t = rest ∧ P []) ∨ ∃ inner, t = inner ++ d :: rest ∧ P (c :: inner) := by
  constructor
  · rintro ⟨inner, heq, h⟩
    rcases List.cons_eq_append_iff.1 heq with ⟨rfl, hcons⟩ | ⟨inner, rfl, rfl⟩
    · obtain ⟨rfl, rfl⟩ := List.cons.inj hcons
      exact .inl ⟨rfl, rfl, h⟩
    · exact .inr ⟨inner, rfl, h⟩
  · rintro (⟨rfl, rfl, h⟩ | ⟨inner, rfl, h⟩)
    · exact ⟨[], rfl, h⟩
    · exact ⟨c :: inner, rfl, h⟩

theorem forall_prefix_cons_iff {P : Text → Prop} {c : CodeUnit} {t : Text} :
    (∀ part, part <+: c :: t → P part) ↔ P [] ∧ ∀ part, part <+: t → P (c :: part) := by
  constructor
  · intro h
    exact ⟨h [] List.nil_prefix, fun part hpart => h _ (List.cons_prefix_cons.2 ⟨rfl, hpart⟩)⟩
  · rintro ⟨hnil, hcons⟩ part hpart
    rcases List.prefix_cons_iff.1 hpart with rfl | ⟨rest, rfl, hrest⟩
    · exact hnil
    · exact hcons rest hrest

/-! ## Order -/

theorem le_iff {a b : Text} : le a b = true ↔ a ≤ b := by
  induction a generalizing b with
  | nil => simp [le]
  | cons c a ih =>
    cases b with
    | nil => simp [le]
    | cons d b => simp [le, List.cons_le_cons_iff, ih]

theorem pairwise_sort (ts : List Text) : (sort ts).Pairwise (· ≤ ·) := by
  have hsorted : (sort ts).Pairwise fun a b => le a b = true :=
    @List.pairwise_mergeSort Text le
      (fun a b c hab hbc => le_iff.2 (List.le_trans (le_iff.1 hab) (le_iff.1 hbc)))
      (fun a b => by simpa only [Bool.or_eq_true, le_iff] using List.le_total a b) ts
  exact hsorted.imp le_iff.1

theorem pairwise_lt_sort {ts : List Text} (h : (sort ts).Nodup) :
    (sort ts).Pairwise (· < ·) := by
  refine ((pairwise_sort ts).and h).imp fun ⟨hle, hne⟩ => ?_
  by_contra hlt
  exact hne (List.le_antisymm hle hlt)

end Text

end Remedy
