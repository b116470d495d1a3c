import Mathlib.Data.List.Induction
import Remedy.Patch.Apply
import Remedy.Proofs.LineEndings

/-!
# Occurrences

`OccursAt needle t i` says that a text stands at an offset of another one. The search functions are
described through it: `findAll` lists the offsets, `spellings` the forms of a fragment that are
searched for, and `coveredByReplacement` asks for a copy around a range.
-/

namespace Remedy

/-- The needle stands in the text at offset `i`. -/
def OccursAt (needle t : Text) (i : Nat) : Prop :=
  ∃ before after, t = before ++ needle ++ after ∧ before.length = i

namespace OccursAt

variable {needle a b t : Text} {i : Nat}

theorem slice_eq (h : OccursAt needle t i) : t.slice i (i + needle.length) = needle := by
  obtain ⟨before, after, rfl, rfl⟩ := h
  simp [Text.slice]

theorem middle (a needle b : Text) : OccursAt needle (a ++ needle ++ b) a.length :=
  ⟨a, b, rfl, rfl⟩

theorem append_right (h : OccursAt needle a i) (b : Text) : OccursAt needle (a ++ b) i := by
  obtain ⟨before, after, rfl, rfl⟩ := h
  exact ⟨before, after ++ b, by simp, rfl⟩

theorem append_left (h : OccursAt needle b i) (a : Text) :
    OccursAt needle (a ++ b) (a.length + i) := by
  obtain ⟨before, after, rfl, rfl⟩ := h
  exact ⟨a ++ before, after, by simp, by simp⟩

/-- An occurrence that ends before the second of two texts lies in the first. -/
theorem of_append_left (h : OccursAt needle (a ++ b) i) (hi : i + needle.length ≤ a.length) :
    OccursAt needle a i := by
  obtain ⟨before, after, he, rfl⟩ := h
  have hp : before ++ needle <+: a :=
    List.prefix_of_prefix_length_le ⟨after, he.symm⟩ ⟨b, rfl⟩ (by simpa using hi)
  obtain ⟨rest, rfl⟩ := hp
  exact ⟨before, rest, rfl, rfl⟩

/-- An occurrence that starts after the first of two texts lies in the second. -/
theorem of_append_right (h : OccursAt needle (a ++ b) i) (hi : a.length ≤ i) :
    OccursAt needle b (i - a.length) := by
  obtain ⟨before, after, he, rfl⟩ := h
  obtain ⟨rest, rfl⟩ : a <+: before :=
    List.prefix_of_prefix_length_le ⟨b, rfl⟩ ⟨needle ++ after, by rw [he]; simp⟩ hi
  exact ⟨rest, after, by simpa using he, by simp⟩

end OccursAt

theorem occursAt_iff_prefix_drop {needle t : Text} {i : Nat} (hne : needle ≠ []) :
    OccursAt needle t i ↔ i < t.length ∧ needle <+: t.drop i := by
  constructor
  · rintro ⟨before, after, rfl, rfl⟩
    have := List.length_pos_iff.2 hne
    exact ⟨by simp; omega, ⟨after, by simp⟩⟩
  · rintro ⟨hi, after, h⟩
    exact ⟨t.take i, after, by simp [h], by simp; omega⟩

/-! ## Searching -/

theorem includes_iff {t needle : Text} : t.includes needle = true ↔ needle <:+: t := by
  induction t with
  | nil => simp [Text.includes]
  | cons c t ih => simp [Text.includes, ih, List.infix_cons_iff]

theorem mem_occurrencesFrom {needle : Text} {k j : Nat} {t : Text} :
    j ∈ occurrencesFrom needle k t ↔
      ∃ i, j = k + i ∧ i < t.length ∧ needle <+: t.drop i := by
  induction t generalizing k with
  | nil => simp [occurrencesFrom]
  | cons c t ih =>
    have later : (∃ i, j = k + i ∧ i < (c :: t).length ∧ needle <+: (c :: t).drop i) ↔
        (j = k ∧ needle <+: c :: t) ∨
          ∃ i, j = k + 1 + i ∧ i < t.length ∧ needle <+: t.drop i := by
      constructor
      · rintro ⟨i, rfl, hi, h⟩
        cases i with
        | zero => exact .inl ⟨rfl, h⟩
        | succ i => exact .inr ⟨i, by omega, by simpa using hi, h⟩
      · rintro (⟨rfl, h⟩ | ⟨i, rfl, hi, h⟩)
        · exact ⟨0, rfl, by simp, h⟩
        · exact ⟨i + 1, by omega, by simpa using hi, h⟩
    rw [occurrencesFrom, later]
    split_ifs with h
    · simp [ih, List.isPrefixOf_iff_prefix.1 h]
    · simp [ih, mt List.isPrefixOf_iff_prefix.2 h]

theorem mem_findAll {t needle : Text} {i : Nat} :
    i ∈ findAll t needle ↔ needle ≠ [] ∧ OccursAt needle t i := by
  rcases eq_or_ne needle [] with rfl | hne
  · simp [findAll]
  · simp [findAll, hne, mem_occurrencesFrom, occursAt_iff_prefix_drop hne]

theorem pairwise_occurrencesFrom (needle : Text) (k : Nat) (t : Text) :
    (occurrencesFrom needle k t).Pairwise (· < ·) := by
  induction t generalizing k with
  | nil => exact .nil
  | cons c t ih =>
    unfold occurrencesFrom
    split_ifs
    · refine List.pairwise_cons.2 ⟨fun j hj => ?_, ih (k + 1)⟩
      obtain ⟨i, rfl, -⟩ := mem_occurrencesFrom.1 hj
      omega
    · exact ih (k + 1)

theorem pairwise_findAll (t needle : Text) : (findAll t needle).Pairwise (· < ·) := by
  unfold findAll
  split_ifs
  · exact .nil
  · exact pairwise_occurrencesFrom needle 0 t

theorem mem_distinct {α : Type} [BEq α] [LawfulBEq α] {as : List α} {a : α} :
    a ∈ distinct as ↔ a ∈ as := by
  have collect : ∀ seen : List α,
      a ∈ as.foldl (fun seen a => if seen.contains a then seen else a :: seen) seen ↔
        a ∈ as ∨ a ∈ seen := by
    induction as with
    | nil => simp
    | cons b as ih =>
      intro seen
      rw [List.foldl_cons, ih]
      split_ifs with h
      · have hb : b ∈ seen := by simpa using h
        constructor
        · exact Or.imp_left (List.mem_cons_of_mem _)
        · rintro (h | h)
          · rcases List.mem_cons.1 h with rfl | h
            · exact .inr hb
            · exact .inl h
          · exact .inr h
      · simp only [List.mem_cons]
        tauto
  rw [distinct, List.mem_reverse, collect]
  simp

theorem nodup_distinct {α : Type} [BEq α] [LawfulBEq α] (as : List α) : (distinct as).Nodup := by
  have collect : ∀ seen : List α, seen.Nodup →
      (as.foldl (fun seen a => if seen.contains a then seen else a :: seen) seen).Nodup := by
    induction as with
    | nil => exact fun _ h => h
    | cons b as ih =>
      intro seen hseen
      rw [List.foldl_cons]
      apply ih
      split_ifs with hb
      · exact hseen
      · exact List.nodup_cons.mpr ⟨by simpa using hb, hseen⟩
  exact (List.reverse_perm _).nodup_iff.mpr (collect [] List.nodup_nil)

theorem distinct_eq_self_iff {α : Type} [BEq α] [LawfulBEq α] {as : List α} :
    distinct as = as ↔ as.Nodup := by
  have collect : ∀ seen : List α, as.Nodup → (∀ a ∈ as, a ∉ seen) →
      as.foldl (fun seen a => if seen.contains a then seen else a :: seen) seen =
        as.reverse ++ seen := by
    induction as with
    | nil => simp
    | cons b as ih =>
      intro seen hnodup hseen
      rw [List.nodup_cons] at hnodup
      rw [List.forall_mem_cons] at hseen
      rw [List.foldl_cons, if_neg (by simpa using hseen.1), ih _ hnodup.2]
      · simp
      · intro a ha hmem
        obtain rfl | hmem := List.mem_cons.1 hmem
        · exact hnodup.1 ha
        · exact hseen.2 a ha hmem
  constructor
  · exact fun h => h ▸ nodup_distinct as
  · intro h
    rw [distinct, collect [] h (by simp), List.append_nil, List.reverse_reverse]

/-- An element is added at the end unless it is there already. -/
theorem distinct_concat {α : Type} [BEq α] [LawfulBEq α] (as : List α) (b : α) :
    distinct (as ++ [b]) = if as.contains b then distinct as else distinct as ++ [b] := by
  have hseen :
      (as.foldl (fun seen a => if seen.contains a then seen else a :: seen) []).contains b =
        as.contains b := by
    rw [Bool.eq_iff_iff, List.contains_iff_mem, List.contains_iff_mem, ← List.mem_reverse]
    exact mem_distinct
  rw [distinct, List.foldl_append, List.foldl_cons, List.foldl_nil, hseen]
  split_ifs
  · rfl
  · exact List.reverse_cons

theorem distinct_append {α : Type} [BEq α] [LawfulBEq α] (as bs : List α) :
    distinct (as ++ bs) = distinct as ++ (distinct bs).filter fun b => !as.contains b := by
  induction bs using List.reverseRecOn with
  | nil => simp [distinct]
  | append_singleton bs b ih =>
    rw [← List.append_assoc, distinct_concat, distinct_concat, ih]
    by_cases ha : b ∈ as <;> by_cases hb : b ∈ bs <;> simp [ha, hb]

/-- What is left out has stood before, so that it is never the first with a property. -/
theorem find?_distinct {α : Type} [BEq α] [LawfulBEq α] (as : List α) (p : α → Bool) :
    (distinct as).find? p = as.find? p := by
  induction as using List.reverseRecOn with
  | nil => rfl
  | append_singleton as b ih =>
    rw [distinct_concat, List.find?_append, ← ih]
    split_ifs with h
    · cases hfind : (distinct as).find? p with
      | some a => rfl
      | none =>
        have hb : p b = false := by
          simpa using List.find?_eq_none.1 (ih ▸ hfind) b (List.contains_iff_mem.1 h)
        simp [hb]
    · exact List.find?_append

theorem mem_spellings {x fragment t : Text} :
    x ∈ spellings fragment t ↔
      x = fragment ∨ x = toLineEnding fragment .lf ∨ x = toLineEnding fragment .crlf := by
  cases h : detectLineEnding t <;> simp [spellings, mem_distinct, h, LineEnding.other, or_comm]

theorem spellings_ne_nil (fragment t : Text) : spellings fragment t ≠ [] :=
  List.ne_nil_of_mem (mem_spellings.2 (.inl rfl))

theorem firstOccurring_spec (t : Text) {needles : List Text} (h : needles ≠ []) :
    (firstOccurring t needles).needle ∈ needles ∧
      (firstOccurring t needles).offsets = findAll t (firstOccurring t needles).needle := by
  fun_induction firstOccurring t needles with
  | case1 => exact absurd rfl h
  | case2 needle => simp
  | case3 needle needles hne offsets hoff ih =>
    have := ih (fun h => hne h)
    exact ⟨List.mem_cons_of_mem _ this.1, this.2⟩
  | case4 needle needles hne offsets hoff => exact ⟨List.mem_cons_self, rfl⟩

theorem findFirstSpelling_spec (t fragment : Text) :
    (findFirstSpelling t fragment).needle ∈ spellings fragment t ∧
      (findFirstSpelling t fragment).offsets =
        findAll t (findFirstSpelling t fragment).needle :=
  firstOccurring_spec t (spellings_ne_nil fragment t)

/-! ## Copies -/

/-- A copy of `body`, in some spelling, stands around the units from `start` to `stop`. -/
def CopyAround (t body : Text) (start stop : Nat) : Prop :=
  ∃ copy ∈ spellings body t, copy ≠ [] ∧
    ∃ i, OccursAt copy t i ∧ i ≤ start ∧ stop ≤ i + copy.length

theorem coveredByReplacement_iff {t body : Text} {start stop : Nat} :
    coveredByReplacement t body start stop = true ↔ CopyAround t body start stop := by
  simp only [coveredByReplacement, CopyAround, List.any_eq_true, mem_findAll, Bool.and_eq_true,
    decide_eq_true_eq]
  constructor
  · rintro ⟨copy, hc, i, ⟨hne, hi⟩, hle⟩
    exact ⟨copy, hc, hne, i, hi, hle⟩
  · rintro ⟨copy, hc, hne, i, hi, hle⟩
    exact ⟨copy, hc, i, ⟨hne, hi⟩, hle⟩

/-- Nothing is inside a copy of the empty text. -/
theorem not_copyAround_nil (t : Text) (start stop : Nat) : ¬ CopyAround t [] start stop := by
  rintro ⟨copy, hc, hne, -⟩
  rcases mem_spellings.1 hc with rfl | rfl | rfl <;> exact hne rfl

end Remedy
