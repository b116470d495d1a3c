import Remedy.Proofs.CodeOrder

/-!
# Nesting of braces

How deep a text's code is nested, counted from its start: an opening brace adds one and a closing
brace takes one away, if there is one to take. A run of code that stays open keeps the depth above
zero all the way (`StaysOpen`). The search for the end of a block follows such a run to its end
(`closingBrace_append`), and a search that starts somewhere in a block does not lead out of it
(`mem_of_closingBrace`).
-/

namespace Remedy.Code

/-! ## Code at an offset -/

/-- The unit at an offset of the text is code. -/
def CodeAt (t : Text) (i : Nat) (c : CodeUnit) : Prop := i ∈ codeIndices t ∧ t[i]? = some c

instance (t : Text) (i : Nat) (c : CodeUnit) : Decidable (CodeAt t i c) :=
  inferInstanceAs (Decidable (_ ∧ _))

theorem codeFrom_getElem? {atStart : Bool} {i skip : Nat} {t : Text} :
    ∀ p ∈ codeFrom atStart i skip t, ∃ k, p.1 = i + k ∧ t[k]? = some p.2 := by
  -- what is read after the first unit stands one further in the text
  have later {c : CodeUnit} {i : Nat} {t : Text} {code : List (Nat × CodeUnit)}
      (h : ∀ p ∈ code, ∃ k, p.1 = i + 1 + k ∧ t[k]? = some p.2) :
      ∀ p ∈ code, ∃ k, p.1 = i + k ∧ (c :: t)[k]? = some p.2 := by
    intro p hp
    obtain ⟨k, hk, hc⟩ := h p hp
    exact ⟨k + 1, by omega, by simpa using hc⟩
  have here {c : CodeUnit} {i : Nat} {t : Text} {code : List (Nat × CodeUnit)}
      (h : ∀ p ∈ code, ∃ k, p.1 = i + 1 + k ∧ t[k]? = some p.2) :
      ∀ p ∈ (i, c) :: code, ∃ k, p.1 = i + k ∧ (c :: t)[k]? = some p.2 :=
    List.forall_mem_cons.2 ⟨⟨0, rfl, rfl⟩, later h⟩
  fun_induction codeFrom atStart i skip t with
  | case1 => simp
  | case8 _ _ _ _ _ _ _ _ _ _ ih => exact here ih
  | case9 _ _ _ _ _ _ _ _ _ _ ih => exact here ih
  | _ => rename_i ih; exact later ih

theorem mem_code_iff {t : Text} {i : Nat} {c : CodeUnit} : (i, c) ∈ code t ↔ CodeAt t i c := by
  have hunit : ∀ p ∈ code t, t[p.1]? = some p.2 := by
    intro p hp
    obtain ⟨k, hk, hc⟩ := codeFrom_getElem? p hp
    rwa [hk, Nat.zero_add]
  constructor
  · intro h
    exact ⟨List.mem_map_of_mem h, hunit _ h⟩
  · rintro ⟨hi, hc⟩
    obtain ⟨⟨j, d⟩, hp, rfl⟩ := List.mem_map.1 hi
    have : some c = some d := hc.symm.trans (hunit _ hp)
    rwa [Option.some.inj this]

/-- What stands on either side of a unit of code. -/
theorem SortedFrom.around {i : Nat} {front rest : List (Nat × CodeUnit)} {p : Nat × CodeUnit}
    (h : SortedFrom i (front ++ p :: rest)) :
    (∀ q ∈ front, q.1 < p.1) ∧ ∀ q ∈ rest, p.1 < q.1 := by
  obtain ⟨-, hrest, hcross⟩ := List.pairwise_append.1 h.sorted
  exact ⟨fun q hq => hcross q hq p List.mem_cons_self, (List.pairwise_cons.1 hrest).1⟩

/-! ## Depth -/

/-- The depth after a unit of code. A closing brace that closes nothing leaves it at zero. -/
def nest (depth : Nat) (c : CodeUnit) : Nat :=
  if c = '{' then depth + 1 else if c = '}' then depth - 1 else depth

/-- The depth after some code that is read from the given depth on. -/
def nesting (depth : Nat) (code : List (Nat × CodeUnit)) : Nat :=
  code.foldl (fun depth p => nest depth p.2) depth

/-- The number of braces that are open before an offset. -/
def depthAt (t : Text) (i : Nat) : Nat := nesting 0 ((code t).takeWhile fun p => p.1 < i)

theorem nest_eq (depth : Nat) (c : CodeUnit) :
    nest depth c = if c = 0x7B then depth + 1 else if c = 0x7D then depth - 1 else depth := rfl

@[simp]
theorem nest_open (depth : Nat) : nest depth 0x7B = depth + 1 := rfl

@[simp]
theorem nest_close (depth : Nat) : nest depth 0x7D = depth - 1 := rfl

@[simp]
theorem nesting_nil (depth : Nat) : nesting depth [] = depth := rfl

@[simp]
theorem nesting_cons (depth : Nat) (p : Nat × CodeUnit) (code : List (Nat × CodeUnit)) :
    nesting depth (p :: code) = nesting (nest depth p.2) code := rfl

@[simp]
theorem nesting_append (depth : Nat) (a b : List (Nat × CodeUnit)) :
    nesting depth (a ++ b) = nesting (nesting depth a) b := List.foldl_append

section Split

variable {t : Text} {front rest : List (Nat × CodeUnit)} {i : Nat} {c : CodeUnit}
  (h : code t = front ++ (i, c) :: rest)
include h

theorem takeWhile_of_split : (code t).takeWhile (fun p => p.1 < i) = front := by
  have hfront := (h ▸ code_sortedFrom t).around.1
  rw [h, List.takeWhile_append_of_pos fun q hq => by simpa using hfront q hq]
  simp

/-- The code from some offset on that is not after the unit. -/
theorem dropWhile_of_split {start : Int} (hi : start ≤ i) :
    (code t).dropWhile (fun p => (p.1 : Int) < start) =
      front.dropWhile (fun p => (p.1 : Int) < start) ++ (i, c) :: rest := by
  rw [h, List.dropWhile_append]
  split_ifs with hempty
  · rw [List.isEmpty_iff.1 hempty, List.dropWhile_cons_of_neg (by simpa using hi),
      List.nil_append]
  · rfl

theorem depthAt_of_split : depthAt t i = nesting 0 front := by
  rw [depthAt, takeWhile_of_split h]

theorem depthAt_succ_of_split : depthAt t (i + 1) = nesting 0 (front ++ [(i, c)]) := by
  obtain ⟨hfront, hrest⟩ := (h ▸ code_sortedFrom t).around
  have hnone : rest.takeWhile (fun p => p.1 < i + 1) = [] := by
    cases rest with
    | nil => rfl
    | cons q rest =>
      have hq : i < q.1 := hrest q List.mem_cons_self
      rw [List.takeWhile_cons_of_neg (by simpa using Nat.succ_le_of_lt hq)]
  rw [depthAt, h, List.takeWhile_append_of_pos fun q hq => by
    have : q.1 < i := hfront q hq
    simp only [decide_eq_true_eq]
    omega]
  rw [List.takeWhile_cons_of_pos (by simp), hnone]

end Split

/-- A unit that neither ends a declaration nor opens or closes a block. -/
def IsPlain (c : CodeUnit) : Prop := c ≠ 0x3B ∧ c ≠ 0x7B ∧ c ≠ 0x7D

theorem nest_of_isPlain {c : CodeUnit} (h : IsPlain c) (depth : Nat) : nest depth c = depth := by
  rw [nest_eq, if_neg h.2.1, if_neg h.2.2]

theorem nesting_of_isPlain {code : List (Nat × CodeUnit)} (h : ∀ p ∈ code, IsPlain p.2)
    (depth : Nat) : nesting depth code = depth := by
  induction code with
  | nil => rfl
  | cons p code ih =>
    rw [List.forall_mem_cons] at h
    rw [nesting_cons, nest_of_isPlain h.1, ih h.2]

/-! ## Open blocks -/

/-- Code read from the given depth on, all of it inside some block. -/
def StaysOpen (depth : Nat) (code : List (Nat × CodeUnit)) : Prop :=
  ∀ front, front <+: code → 0 < nesting depth front

theorem staysOpen_nil {depth : Nat} : StaysOpen depth [] ↔ 0 < depth := by
  simp [StaysOpen]

theorem staysOpen_cons {depth : Nat} {p : Nat × CodeUnit} {code : List (Nat × CodeUnit)} :
    StaysOpen depth (p :: code) ↔ 0 < depth ∧ StaysOpen (nest depth p.2) code := by
  constructor
  · intro h
    refine ⟨h [] List.nil_prefix, fun front hfront => ?_⟩
    exact h (p :: front) (List.cons_prefix_cons.2 ⟨rfl, hfront⟩)
  · rintro ⟨hpos, h⟩ front hfront
    rcases List.prefix_cons_iff.1 hfront with rfl | ⟨front, rfl, htail⟩
    · exact hpos
    · exact h front htail

theorem staysOpen_append {depth : Nat} {a b : List (Nat × CodeUnit)} :
    StaysOpen depth (a ++ b) ↔ StaysOpen depth a ∧ StaysOpen (nesting depth a) b := by
  induction a generalizing depth with
  | nil =>
    rw [List.nil_append, staysOpen_nil, nesting_nil, iff_and_self]
    exact fun h => h [] List.nil_prefix
  | cons p a ih => rw [List.cons_append, staysOpen_cons, staysOpen_cons, ih, and_assoc]; rfl

theorem StaysOpen.pos {depth : Nat} {code : List (Nat × CodeUnit)} (h : StaysOpen depth code) :
    0 < nesting depth code := h code List.prefix_rfl

/-- Code that leaves all blocks at some point does so at a closing brace. -/
theorem exists_closing {depth : Nat} {code : List (Nat × CodeUnit)} (hdepth : 0 < depth)
    (h : ∃ front, front <+: code ∧ nesting depth front = 0) :
    ∃ inner j rest, code = inner ++ (j, 0x7D) :: rest ∧ StaysOpen depth inner ∧
      nesting depth inner = 1 := by
  induction code generalizing depth with
  | nil =>
    obtain ⟨front, hfront, hzero⟩ := h
    rw [List.prefix_nil.1 hfront, nesting_nil] at hzero
    omega
  | cons p code ih =>
    obtain ⟨i, c⟩ := p
    by_cases hnext : nest depth c = 0
    · -- only a closing brace takes the depth to zero
      have hclose : c = 0x7D ∧ depth = 1 := by
        by_cases hc : c = 0x7D
        · subst hc
          rw [nest_close] at hnext
          exact ⟨rfl, by omega⟩
        · rw [nest_eq, if_neg hc] at hnext
          split_ifs at hnext
          omega
      obtain ⟨rfl, rfl⟩ := hclose
      exact ⟨[], i, code, rfl, staysOpen_nil.2 Nat.one_pos, rfl⟩
    · have hrest : ∃ front, front <+: code ∧ nesting (nest depth c) front = 0 := by
        obtain ⟨front, hfront, hzero⟩ := h
        rcases List.prefix_cons_iff.1 hfront with rfl | ⟨front, rfl, htail⟩
        · rw [nesting_nil] at hzero
          omega
        · exact ⟨front, htail, hzero⟩
      obtain ⟨inner, j, rest, rfl, hopen, hone⟩ := ih (Nat.pos_of_ne_zero hnext) hrest
      exact ⟨(i, c) :: inner, j, rest, rfl, staysOpen_cons.2 ⟨hdepth, hopen⟩, hone⟩

/-! ## The search for the end of a block -/

theorem closingBrace_cons (depth i : Nat) (c : CodeUnit) (rest : List (Nat × CodeUnit)) :
    closingBrace depth ((i, c) :: rest) =
      if depth = 0 ∧ c = 0x3B then none
      else if c = 0x7D ∧ depth = 0 then none
      else if c = 0x7D ∧ depth = 1 then some i
      else closingBrace (nest depth c) rest := by
  by_cases hopen : c = 0x7B
  · subst hopen
    cases depth <;> simp [closingBrace]
  · by_cases hclose : c = 0x7D
    · subst hclose
      rcases depth with _ | _ | depth <;> simp [closingBrace]
    · cases depth <;> simp [closingBrace, nest_eq, hopen, hclose]

/-- The search goes along with the depth as long as the block stays open. -/
theorem closingBrace_append {depth : Nat} {code : List (Nat × CodeUnit)}
    (h : StaysOpen depth code) (rest : List (Nat × CodeUnit)) :
    closingBrace depth (code ++ rest) = closingBrace (nesting depth code) rest := by
  induction code generalizing depth with
  | nil => rfl
  | cons p code ih =>
    rw [staysOpen_cons] at h
    have hnext : 0 < nest depth p.2 := h.2 [] List.nil_prefix
    have hlast : ¬ (p.2 = 0x7D ∧ depth = 1) := by
      rintro ⟨hc, rfl⟩
      rw [hc, nest_close] at hnext
      omega
    rw [List.cons_append, closingBrace_cons, if_neg (by omega), if_neg (by omega), if_neg hlast,
      ih h.2, nesting_cons]

theorem closingBrace_of_isPlain {header : List (Nat × CodeUnit)} (h : ∀ p ∈ header, IsPlain p.2)
    (rest : List (Nat × CodeUnit)) : closingBrace 0 (header ++ rest) = closingBrace 0 rest := by
  induction header with
  | nil => rfl
  | cons p header ih =>
    rw [List.forall_mem_cons] at h
    obtain ⟨hsemicolon, -, hclose⟩ := h.1
    rw [List.cons_append, closingBrace_cons, if_neg fun hc => hsemicolon hc.2,
      if_neg fun hc => hclose hc.1, if_neg fun hc => hclose hc.1, nest_of_isPlain h.1, ih h.2]

/-- A search that starts inside a block, `depth` braces below where it would end, ends before the
brace that closes the block, or not at all. -/
theorem mem_of_closingBrace {k depth : Nat} {inner rest : List (Nat × CodeUnit)} {j b : Nat}
    (hdepth : 0 < depth) (hopen : StaysOpen (k + depth) inner)
    (hone : nesting (k + depth) inner = 1)
    (h : closingBrace k (inner ++ (j, 0x7D) :: rest) = some b) : (b, 0x7D) ∈ inner := by
  induction inner generalizing k with
  | nil =>
    rw [nesting_nil] at hone
    obtain rfl : k = 0 := by omega
    simp [closingBrace_cons] at h
  | cons p inner ih =>
    obtain ⟨i, c⟩ := p
    rw [staysOpen_cons] at hopen
    rw [nesting_cons] at hone
    rw [List.cons_append, closingBrace_cons] at h
    split_ifs at h with hsemicolon hnone hlast
    · obtain rfl := Option.some.inj h
      rw [hlast.1]
      exact List.mem_cons_self
    · -- both depths go up or down together
      have hnest : nest (k + depth) c = nest k c + depth := by
        rw [nest_eq, nest_eq]
        split_ifs with hbrace hclose
        · omega
        · have : k ≠ 0 := fun hk => hnone ⟨hclose, hk⟩
          omega
        · rfl
      rw [hnest] at hopen hone
      exact List.mem_cons_of_mem _ (ih hopen.2 hone h)

end Remedy.Code
