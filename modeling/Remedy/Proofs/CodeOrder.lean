import Mathlib.Tactic.Common
import Remedy.Code.FunctionTable

/-!
# The order of code

The code of a text is listed by increasing offsets. Therefore the brace that closes a block comes
at or after the place the search for it started from, and after the brace that opens the block.
-/

namespace Remedy.Code

/-- Increasing offsets, none of them below `i`. -/
structure SortedFrom (i : Nat) (code : List (Nat × CodeUnit)) : Prop where
  sorted : code.Pairwise (·.1 < ·.1)
  le : ∀ p ∈ code, i ≤ p.1

namespace SortedFrom

variable {i j : Nat} {c : CodeUnit} {code : List (Nat × CodeUnit)}

theorem nil (i : Nat) : SortedFrom i [] := ⟨.nil, by simp⟩

theorem mono (h : SortedFrom j code) (hij : i ≤ j) : SortedFrom i code :=
  ⟨h.sorted, fun p hp => Nat.le_trans hij (h.le p hp)⟩

theorem cons (h : SortedFrom (i + 1) code) : SortedFrom i ((i, c) :: code) := by
  refine ⟨List.pairwise_cons.2 ⟨fun p hp => h.le p hp, h.sorted⟩, fun p hp => ?_⟩
  rcases List.mem_cons.1 hp with rfl | hp
  · exact Nat.le_refl _
  · exact Nat.le_of_succ_le (h.le p hp)

theorem tail (h : SortedFrom i ((j, c) :: code)) : SortedFrom (j + 1) code :=
  ⟨(List.pairwise_cons.1 h.sorted).2, fun p hp => (List.pairwise_cons.1 h.sorted).1 p hp⟩

theorem lt_head {n : Nat} (h : SortedFrom i ((j, c) :: code)) (hn : n < i) : n < j :=
  Nat.lt_of_lt_of_le hn (h.le _ List.mem_cons_self)

/-- What is left when offsets below `start` are dropped from the front. -/
theorem dropWhile (h : SortedFrom i code) (start : Int) :
    ∀ p ∈ code.dropWhile fun p => (p.1 : Int) < start, start ≤ p.1 := by
  induction code generalizing i with
  | nil => simp
  | cons p code ih =>
    rw [List.dropWhile_cons]
    split_ifs with hp
    · exact ih h.tail
    · intro q hq
      have hp : start ≤ p.1 := by simpa using hp
      rcases List.mem_cons.1 hq with rfl | hq
      · exact hp
      · have := h.tail.le q hq
        omega

end SortedFrom

theorem codeFrom_sortedFrom (atStart : Bool) (i skip : Nat) (t : Text) :
    SortedFrom i (codeFrom atStart i skip t) := by
  fun_induction codeFrom atStart i skip t with
  | case1 => exact .nil _
  | case8 _ _ _ _ _ _ _ _ _ _ ih => exact ih.cons
  | case9 _ _ _ _ _ _ _ _ _ _ ih => exact ih.cons
  | _ => rename_i ih; exact ih.mono (Nat.le_succ _)

theorem code_sortedFrom (t : Text) : SortedFrom 0 (code t) := codeFrom_sortedFrom true 0 0 t

/-! ## Blocks -/

theorem closingBrace_mem {depth b : Nat} {code : List (Nat × CodeUnit)}
    (h : closingBrace depth code = some b) : (b, 0x7D) ∈ code := by
  fun_induction closingBrace depth code with
  | case1 => simp at h
  | case2 => simp at h
  | case4 => simp at h
  | case5 i rest _ _ =>
    obtain rfl : i = b := by simpa using h
    simp
  | _ => rename_i ih; exact List.mem_cons_of_mem _ (ih h)

/-- A block that is searched for from an offset does not close before it. -/
theorem le_blockEnd {t : Text} {start : Int} {b : Nat} (h : blockEnd t start = some b) :
    start ≤ b :=
  (code_sortedFrom t).dropWhile start _ (closingBrace_mem h)

/-- A block that is open was opened before offset `i`. -/
def Place.OpenedBefore (i : Nat) : Place → Prop
  | .outside _ => True
  | .inside block _ => block.bodyOffset < i

theorem entry_body_lt {starts : Array Nat} {block : OpenBlock} {stop : Nat}
    (h : block.bodyOffset < stop) : ∀ e ∈ block.entry starts stop, e.bodyOffset < e.endOffset := by
  intro e he
  unfold OpenBlock.entry at he
  split at he
  · obtain rfl := List.mem_singleton.1 he
    exact h
  · simp at he

theorem entriesFrom_body_lt {t : Text} {starts : Array Nat} {place : Place}
    {code : List (Nat × CodeUnit)} {i : Nat} (hs : SortedFrom i code)
    (hp : place.OpenedBefore i) :
    ∀ e ∈ entriesFrom t starts place code, e.bodyOffset < e.endOffset := by
  fun_induction entriesFrom t starts place code generalizing i with
  | case1 => simp
  | case2 header j c rest hc ih => exact ih hs.tail trivial
  | case3 header j rest start hc =>
    rename_i ih
    exact ih hs.tail (Nat.lt_succ_self j)
  | case4 header j c rest start hc hb =>
    rename_i ih
    exact ih hs.tail trivial
  | case5 block depth j rest ih => exact ih hs.tail (Nat.lt_succ_of_lt (hs.lt_head hp))
  | case6 block depth j rest hc hd ih =>
    intro e he
    rcases List.mem_append.1 he with he | he
    · exact entry_body_lt (hs.lt_head hp) e he
    · exact ih hs.tail trivial e he
  | case7 block depth j rest hc hd ih => exact ih hs.tail (Nat.lt_succ_of_lt (hs.lt_head hp))
  | case8 block depth j c rest hc hd ih => exact ih hs.tail (Nat.lt_succ_of_lt (hs.lt_head hp))

/-- The body of a function in the table opens before it closes. -/
theorem FunctionTable.body_lt {t : Text} {e : FunctionEntry}
    (h : e ∈ (FunctionTable.build t).entries) : e.bodyOffset < e.endOffset :=
  have hopened : (Place.outside none).OpenedBefore 0 := trivial
  entriesFrom_body_lt (code_sortedFrom t) hopened e h

theorem FunctionTable.mem_of_at? {table : FunctionTable} {line : Int} {e : FunctionEntry}
    (h : table.at? line = some e) : e ∈ table.entries := List.mem_of_find?_eq_some h

end Remedy.Code
