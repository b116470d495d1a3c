import Mathlib.Data.List.TakeWhile
import Mathlib.Order.Bounds.Basic
import Remedy.Proofs.Nesting

/-!
# Matching braces

The end of a block is found by a depth that goes up and down with the braces and cannot go below
zero. Here it is said by counting: the block ends at the first code after its brace up to which as
many braces have closed as have opened. While a block stays open, depth and count agree
(`nesting_eq_add_braceBalance`), so the search stops where the count first is zero
(`closesAt_of_closingBrace`, `closingBrace_of_closesAt`). `blockEnd_matches_braces` puts this
together with what may stand before the block.
-/

namespace Remedy.Code

/-- The number of opening braces less the number of closing ones. -/
def braceBalance (code : List (Nat × CodeUnit)) : Int :=
  code.countP (fun p => p.2 = 0x7B) - code.countP (fun p => p.2 = 0x7D)

/-- The code from one offset to another, both included. -/
def codeBetween (t : Text) (b e : Nat) : List (Nat × CodeUnit) :=
  (code t).filter fun p => b ≤ p.1 ∧ p.1 ≤ e

/-- The brace at `b` opens a block, and from `start` to there nothing else does or ends a
declaration. -/
structure OpensBlock (t : Text) (start : Int) (b : Nat) : Prop where
  le : start ≤ b
  brace : CodeAt t b '{'
  first : ∀ (k : Nat) (c : CodeUnit), start ≤ k → k < b → CodeAt t k c → IsPlain c

/-- The first code after `b` up to which the braces from `b` on are even. -/
def ClosesAt (t : Text) (b e : Nat) : Prop :=
  IsLeast {e | e ∈ codeIndices t ∧ b < e ∧ braceBalance (codeBetween t b e) = 0} e

/-! ## Depth and count -/

theorem braceBalance_nil : braceBalance [] = 0 := rfl

theorem braceBalance_cons (p : Nat × CodeUnit) (code : List (Nat × CodeUnit)) :
    braceBalance (p :: code) =
      (if p.2 = 0x7B then 1 else if p.2 = 0x7D then -1 else 0) + braceBalance code := by
  simp only [braceBalance, List.countP_cons, decide_eq_true_eq]
  by_cases hopen : p.2 = 0x7B
  · have hclose : p.2 ≠ 0x7D := by simp [hopen]
    rw [if_pos hopen, if_pos hopen, if_neg hclose]
    omega
  · rw [if_neg hopen, if_neg hopen]
    split_ifs
    · omega
    · omega

theorem braceBalance_append (a b : List (Nat × CodeUnit)) :
    braceBalance (a ++ b) = braceBalance a + braceBalance b := by
  unfold braceBalance
  rw [List.countP_append, List.countP_append]
  omega

/-- No closing brace is lost while a block stays open. -/
theorem nesting_eq_add_braceBalance {depth : Nat} {code : List (Nat × CodeUnit)}
    (h : StaysOpen depth code) : (nesting depth code : Int) = depth + braceBalance code := by
  induction code generalizing depth with
  | nil => simp [braceBalance_nil]
  | cons p code ih =>
    rw [staysOpen_cons] at h
    rw [nesting_cons, ih h.2, braceBalance_cons, nest_eq]
    split_ifs
    · omega
    · omega
    · omega

/-! ## The search -/

theorem closingBrace_eq_some_iff {depth e : Nat} {code : List (Nat × CodeUnit)}
    (hdepth : 0 < depth) :
    closingBrace depth code = some e ↔ ∃ inner rest, code = inner ++ (e, 0x7D) :: rest ∧
      StaysOpen depth inner ∧ nesting depth inner = 1 := by
  constructor
  · intro h
    induction code generalizing depth with
    | nil => simp [closingBrace] at h
    | cons p code ih =>
      obtain ⟨i, c⟩ := p
      rw [closingBrace_cons, if_neg (by omega), if_neg (by omega)] at h
      split_ifs at h with hlast
      · obtain ⟨rfl, rfl⟩ := hlast
        obtain rfl : i = e := by simpa using h
        exact ⟨[], code, rfl, staysOpen_nil.2 Nat.one_pos, rfl⟩
      · have hnext : 0 < nest depth c := by
          rw [nest_eq]
          split_ifs with hopen hclose
          · omega
          · have : depth ≠ 1 := fun hone => hlast ⟨hclose, hone⟩
            omega
          · exact hdepth
        obtain ⟨inner, rest, rfl, hopen, hone⟩ := ih hnext h
        exact ⟨(i, c) :: inner, rest, rfl, staysOpen_cons.2 ⟨hdepth, hopen⟩, hone⟩
  · rintro ⟨inner, rest, rfl, hopen, hone⟩
    rw [closingBrace_append hopen, hone]
    simp [closingBrace_cons]

/-- A search that comes upon no block yet passes over plain code to the first brace. -/
theorem exists_brace_of_closingBrace {e : Nat} {code : List (Nat × CodeUnit)}
    (h : closingBrace 0 code = some e) : ∃ header b after, code = header ++ (b, 0x7B) :: after ∧
      (∀ p ∈ header, IsPlain p.2) ∧ closingBrace 1 after = some e := by
  induction code with
  | nil => simp [closingBrace] at h
  | cons p code ih =>
    obtain ⟨i, c⟩ := p
    rw [closingBrace_cons] at h
    split_ifs at h with hsemicolon hclose hone
    · exact absurd hone.2 (by simp)
    · by_cases hopen : c = 0x7B
      · subst hopen
        exact ⟨[], i, code, rfl, by simp, h⟩
      · have hplain : IsPlain c :=
          ⟨fun hc => hsemicolon ⟨rfl, hc⟩, hopen, fun hc => hclose ⟨hc, rfl⟩⟩
        rw [nest_of_isPlain hplain] at h
        obtain ⟨header, b, after, rfl, hheader, hafter⟩ := ih h
        exact ⟨(i, c) :: header, b, after, rfl, List.forall_mem_cons.2 ⟨hplain, hheader⟩, hafter⟩

/-! ## Blocks in the code of a text -/

section Split

variable {t : Text} {front inner rest : List (Nat × CodeUnit)} {b e : Nat} {c : CodeUnit}
  (h : code t = front ++ (b, 0x7B) :: (inner ++ (e, c) :: rest))
include h

theorem codeBetween_of_split : codeBetween t b e = (b, 0x7B) :: (inner ++ [(e, c)]) := by
  have hsorted := h ▸ code_sortedFrom t
  obtain ⟨hfront, hlater⟩ := hsorted.around
  have hbe : b < e := hlater (e, c) (by simp)
  rw [← List.cons_append, ← List.append_assoc] at hsorted
  obtain ⟨hbefore, hrest⟩ := hsorted.around
  have houtside : front.filter (fun p => b ≤ p.1 ∧ p.1 ≤ e) = [] :=
    List.filter_eq_nil_iff.2 fun p hp => by
      have : p.1 < b := hfront p hp
      simp only [decide_eq_true_eq]
      omega
  have hinside : inner.filter (fun p => b ≤ p.1 ∧ p.1 ≤ e) = inner :=
    List.filter_eq_self.2 fun p hp => by
      have : b < p.1 := hlater p (by simp [hp])
      have : p.1 < e := hbefore p (by simp [hp])
      simp only [decide_eq_true_eq]
      omega
  have hafter : rest.filter (fun p => b ≤ p.1 ∧ p.1 ≤ e) = [] :=
    List.filter_eq_nil_iff.2 fun p hp => by
      have : e < p.1 := hrest p hp
      simp only [decide_eq_true_eq]
      omega
  rw [codeBetween, h, List.filter_append, houtside, List.nil_append,
    List.filter_cons_of_pos (by simpa using Nat.le_of_lt hbe), List.filter_append, hinside,
    List.filter_cons_of_pos (by simpa using Nat.le_of_lt hbe), hafter]

theorem braceBalance_of_split :
    braceBalance (codeBetween t b e) = 1 + braceBalance (inner ++ [(e, c)]) := by
  rw [codeBetween_of_split h, braceBalance_cons, if_pos rfl]

/-- Up to code inside the block more braces have opened than closed. -/
theorem braceBalance_pos_of_staysOpen (hopen : StaysOpen 1 (inner ++ [(e, c)])) :
    0 < braceBalance (codeBetween t b e) := by
  have hnesting := nesting_eq_add_braceBalance hopen
  have hpos := hopen.pos
  rw [braceBalance_of_split h]
  omega

end Split

theorem mem_after_of_lt {t : Text} {front after : List (Nat × CodeUnit)} {b e : Nat} {c : CodeUnit}
    (h : code t = front ++ (b, c) :: after) (he : e ∈ codeIndices t) (hbe : b < e) :
    ∃ d, (e, d) ∈ after := by
  obtain ⟨⟨e', d⟩, hmem, rfl⟩ := List.mem_map.1 he
  have hfront := (h ▸ code_sortedFrom t).around.1
  rw [h, List.mem_append, List.mem_cons] at hmem
  rcases hmem with hmem | hmem | hmem
  · exact absurd (hfront _ hmem) (Nat.lt_asymm hbe)
  · obtain ⟨rfl, rfl⟩ := Prod.mk.inj hmem
    exact absurd hbe (Nat.lt_irrefl _)
  · exact ⟨d, hmem⟩

/-- The search inside a block stops where its braces are even for the first time. -/
theorem closesAt_of_closingBrace {t : Text} {front after : List (Nat × CodeUnit)} {b e : Nat}
    (h : code t = front ++ (b, 0x7B) :: after) (hclose : closingBrace 1 after = some e) :
    ClosesAt t b e := by
  obtain ⟨inner, rest, rfl, hopen, hone⟩ := (closingBrace_eq_some_iff Nat.one_pos).1 hclose
  refine ⟨⟨?_, ?_, ?_⟩, fun e' he' => ?_⟩
  · exact List.mem_map.2 ⟨(e, 0x7D), h ▸ by simp, rfl⟩
  · exact (h ▸ code_sortedFrom t).around.2 (e, 0x7D) (by simp)
  · have hnesting := nesting_eq_add_braceBalance hopen
    have hlast : braceBalance [(e, 0x7D)] = -1 := rfl
    rw [braceBalance_of_split h, braceBalance_append, hlast]
    omega
  · by_contra hlt
    obtain ⟨d, hmem⟩ := mem_after_of_lt h he'.1 he'.2.1
    rw [← List.cons_append, ← List.append_assoc] at h
    have hrest := (h ▸ code_sortedFrom t).around.2
    -- code before the closing brace stands inside the block
    have hinner : (e', d) ∈ inner := by
      rw [List.mem_append, List.mem_cons, Prod.mk.injEq] at hmem
      rcases hmem with hmem | hmem | hmem
      · exact hmem
      · omega
      · have := hrest _ hmem
        dsimp only at this
        omega
    obtain ⟨before, later, rfl⟩ := List.append_of_mem hinner
    have hopen' : StaysOpen 1 (before ++ [(e', d)]) := by
      rw [List.append_cons] at hopen
      exact (staysOpen_append.1 hopen).1
    have hsplit : code t = front ++ (b, 0x7B) ::
        (before ++ (e', d) :: (later ++ (e, 0x7D) :: rest)) := by
      rw [h]
      simp
    have hpos := braceBalance_pos_of_staysOpen hsplit hopen'
    rw [he'.2.2] at hpos
    exact Int.lt_irrefl 0 hpos

theorem closingBrace_of_closesAt {t : Text} {front after : List (Nat × CodeUnit)} {b e : Nat}
    (h : code t = front ++ (b, 0x7B) :: after) (hclose : ClosesAt t b e) :
    closingBrace 1 after = some e := by
  obtain ⟨he, hbe, hzero⟩ := hclose.1
  obtain ⟨c, hmem⟩ := mem_after_of_lt h he hbe
  obtain ⟨inner, rest, hafter⟩ := List.append_of_mem hmem
  -- with even braces the block cannot have stayed open
  have hleaves : ∃ part, part <+: after ∧ nesting 1 part = 0 := by
    by_contra hnone
    have hopen : StaysOpen 1 (inner ++ [(e, c)]) := fun part hpart =>
      Nat.pos_of_ne_zero fun hnesting =>
        hnone ⟨part, hpart.trans ⟨rest, by rw [hafter]; simp⟩, hnesting⟩
    have hpos := braceBalance_pos_of_staysOpen (hafter ▸ h) hopen
    rw [hzero] at hpos
    exact Int.lt_irrefl 0 hpos
  obtain ⟨block, j, rest', hblock, hopen, hone⟩ := exists_closing Nat.one_pos hleaves
  have hfound : closingBrace 1 after = some j :=
    (closingBrace_eq_some_iff Nat.one_pos).2 ⟨block, rest', hblock, hopen, hone⟩
  rw [hfound, (closesAt_of_closingBrace h hfound).unique hclose]

/-! ## Where the search starts -/

theorem OpensBlock.exists_split {t : Text} {start : Int} {b : Nat} (h : OpensBlock t start b) :
    ∃ front header after, code t = front ++ (b, 0x7B) :: after ∧ (∀ p ∈ header, IsPlain p.2) ∧
      (code t).dropWhile (fun p => (p.1 : Int) < start) = header ++ (b, 0x7B) :: after := by
  obtain ⟨front, after, hcode⟩ := List.append_of_mem (mem_code_iff.2 h.brace)
  refine ⟨front, _, after, hcode, fun p hp => ?_, dropWhile_of_split hcode h.le⟩
  have hsorted := hcode ▸ code_sortedFrom t
  have hmem : p ∈ front := (List.dropWhile_sublist _).subset hp
  have hfront : SortedFrom 0 front :=
    ⟨(List.pairwise_append.1 hsorted.sorted).1, fun _ _ => Nat.zero_le _⟩
  exact h.first p.1 p.2 (hfront.dropWhile start p hp) (hsorted.around.1 p hmem)
    (mem_code_iff.1 (hcode ▸ List.mem_append_left _ hmem))

theorem opensBlock_of_dropWhile {t : Text} {start : Int} {b : Nat}
    {header after : List (Nat × CodeUnit)}
    (h : (code t).dropWhile (fun p => (p.1 : Int) < start) = header ++ (b, 0x7B) :: after)
    (hheader : ∀ p ∈ header, IsPlain p.2) :
    OpensBlock t start b ∧ ∃ front, code t = front ++ (b, 0x7B) :: after := by
  have hcode : code t = (code t).takeWhile (fun p => (p.1 : Int) < start) ++ header ++
      (b, 0x7B) :: after := by
    rw [List.append_assoc, ← h, List.takeWhile_append_dropWhile]
  refine ⟨⟨?_, mem_code_iff.1 (hcode ▸ by simp), fun k c hstart hk hc => ?_⟩, _, hcode⟩
  · exact (code_sortedFrom t).dropWhile start (b, 0x7B) (h ▸ by simp)
  · have hafter := (hcode ▸ code_sortedFrom t).around.2
    have hmem := mem_code_iff.2 hc
    rw [hcode, List.mem_append, List.mem_append, List.mem_cons, Prod.mk.injEq] at hmem
    rcases hmem with (hmem | hmem) | hmem | hmem
    · have : (k : Int) < start := by simpa using List.mem_takeWhile_imp hmem
      omega
    · exact hheader _ hmem
    · omega
    · have := hafter _ hmem
      dsimp only at this
      omega

/-- The search for the end of a block finds the brace that matches the first one at or after its
start, and nothing if the block does not open or does not close. -/
theorem blockEnd_matches_braces (t : Text) (start : Int) :
    (∀ e, blockEnd t start = some e ↔ ∃ b, OpensBlock t start b ∧ ClosesAt t b e) ∧
      (blockEnd t start = none ↔ ¬ ∃ b e, OpensBlock t start b ∧ ClosesAt t b e) := by
  have hsome (e : Nat) :
      blockEnd t start = some e ↔ ∃ b, OpensBlock t start b ∧ ClosesAt t b e := by
    constructor
    · intro h
      obtain ⟨header, b, after, hdrop, hheader, hclose⟩ := exists_brace_of_closingBrace h
      obtain ⟨hopens, front, hcode⟩ := opensBlock_of_dropWhile hdrop hheader
      exact ⟨b, hopens, closesAt_of_closingBrace hcode hclose⟩
    · rintro ⟨b, hopens, hcloses⟩
      obtain ⟨front, header, after, hcode, hheader, hdrop⟩ := hopens.exists_split
      rw [blockEnd, hdrop, closingBrace_of_isPlain hheader, closingBrace_cons]
      simpa using closingBrace_of_closesAt hcode hcloses
  refine ⟨hsome, ?_⟩
  rw [Option.eq_none_iff_forall_ne_some, exists_comm, not_exists]
  exact forall_congr' fun e => not_congr (hsome e)

end Remedy.Code
