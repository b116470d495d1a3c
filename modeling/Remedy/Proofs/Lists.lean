import Mathlib.Data.List.Perm.Basic

/-!
# Lists

What becomes of a list when each of its elements is looked at and a look may fail: `mapM`, `anyM`
and `filterM` go through as long as every look does, and give up with the first that does not. A
list cut into groups by a key is the same list in another order (`perm_flatMap_filter`).
-/

namespace Remedy

section Outcomes

variable {ε ε' α β : Type}

theorem exists_map_ok {x : Except ε α} {f : α → β} (h : ∃ a, x = .ok a) : ∃ b, x.map f = .ok b := by
  obtain ⟨a, rfl⟩ := h
  exact ⟨f a, rfl⟩

theorem exists_of_map_eq_ok {x : Except ε α} {f : α → β} {b : β} (h : x.map f = .ok b) :
    ∃ a, x = .ok a ∧ f a = b := by
  cases x with
  | error e => simp [Except.map] at h
  | ok a => exact ⟨a, rfl, Except.ok.inj h⟩

theorem mapError_eq_error_iff {f : ε → ε'} {outcome : Except ε α} {e : ε'} :
    outcome.mapError f = .error e ↔ ∃ failure, outcome = .error failure ∧ f failure = e := by
  cases outcome <;> simp [Except.mapError]

end Outcomes

/-! ## Elements one after another -/

section Map

variable {ε α β : Type} {f g : α → Except ε β} {as : List α} {bs : List β}

theorem mapM_congr (h : ∀ a ∈ as, f a = g a) : as.mapM f = as.mapM g := by
  induction as with
  | nil => rfl
  | cons a as ih =>
    rw [List.forall_mem_cons] at h
    rw [List.mapM_cons, List.mapM_cons, h.1, ih h.2]

theorem mapM_eq_ok {g : α → β} (h : ∀ a ∈ as, f a = .ok (g a)) : as.mapM f = .ok (as.map g) := by
  induction as with
  | nil => rfl
  | cons a as ih =>
    rw [List.forall_mem_cons] at h
    rw [List.mapM_cons, h.1, ih h.2]
    rfl

theorem exists_mapM_ok (h : ∀ a ∈ as, ∃ b, f a = .ok b) : ∃ bs, as.mapM f = .ok bs := by
  induction as with
  | nil => exact ⟨[], rfl⟩
  | cons a as ih =>
    rw [List.forall_mem_cons] at h
    obtain ⟨⟨b, hb⟩, hrest⟩ := h
    obtain ⟨bs, hbs⟩ := ih hrest
    exact ⟨b :: bs, by rw [List.mapM_cons, hb, hbs]; rfl⟩

theorem exists_of_mapM_cons_ok {a : α} (h : (a :: as).mapM f = .ok bs) :
    ∃ b rest, bs = b :: rest ∧ f a = .ok b ∧ as.mapM f = .ok rest := by
  rw [List.mapM_cons] at h
  cases hf : f a with
  | error e => simp [hf, bind, Except.bind] at h
  | ok b =>
    cases hr : as.mapM f with
    | error e => simp [hf, hr, bind, Except.bind] at h
    | ok rest =>
      refine ⟨b, rest, ?_, rfl, rfl⟩
      simpa [hf, hr, bind, Except.bind, pure, Except.pure] using h.symm

theorem exists_mem_of_mapM_ok (h : as.mapM f = .ok bs) {a : α} (ha : a ∈ as) :
    ∃ b ∈ bs, f a = .ok b := by
  induction as generalizing bs with
  | nil => simp at ha
  | cons first as ih =>
    obtain ⟨b, rest, rfl, hf, hr⟩ := exists_of_mapM_cons_ok h
    rcases List.mem_cons.1 ha with rfl | ha
    · exact ⟨b, List.mem_cons_self, hf⟩
    · obtain ⟨c, hc, hfc⟩ := ih hr ha
      exact ⟨c, List.mem_cons_of_mem _ hc, hfc⟩

theorem forall_of_mapM_ok {p : β → Prop} (hf : ∀ a b, f a = .ok b → p b)
    (h : as.mapM f = .ok bs) : ∀ b ∈ bs, p b := by
  induction as generalizing bs with
  | nil =>
    obtain rfl : [] = bs := Except.ok.inj h
    simp
  | cons a as ih =>
    obtain ⟨b, rest, rfl, hb, hrest⟩ := exists_of_mapM_cons_ok h
    exact List.forall_mem_cons.2 ⟨hf a b hb, ih hrest⟩

end Map

/-! ## Elements that pass a test -/

section Test

variable {ε α : Type} {p : α → Except ε Bool} {as : List α}

theorem anyM_eq_ok {q : α → Bool} (h : ∀ a ∈ as, p a = .ok (q a)) :
    as.anyM p = .ok (as.any q) := by
  induction as with
  | nil => rfl
  | cons a as ih =>
    rw [List.forall_mem_cons] at h
    rw [List.anyM, h.1, List.any_cons]
    cases q a with
    | true => rfl
    | false => exact ih h.2

theorem exists_anyM_ok (h : ∀ a ∈ as, ∃ b, p a = .ok b) : ∃ b, as.anyM p = .ok b := by
  induction as with
  | nil => exact ⟨false, rfl⟩
  | cons a as ih =>
    rw [List.forall_mem_cons] at h
    obtain ⟨⟨b, hb⟩, hrest⟩ := h
    rw [List.anyM, hb]
    cases b with
    | true => exact ⟨true, rfl⟩
    | false => exact ih hrest

theorem exists_filterAuxM_ok (h : ∀ a ∈ as, ∃ b, p a = .ok b) (kept : List α) :
    ∃ bs, as.filterAuxM p kept = .ok bs := by
  induction as generalizing kept with
  | nil => exact ⟨kept, rfl⟩
  | cons a as ih =>
    rw [List.forall_mem_cons] at h
    obtain ⟨⟨b, hb⟩, hrest⟩ := h
    rw [List.filterAuxM, hb]
    exact ih hrest _

theorem exists_filterM_ok (h : ∀ a ∈ as, ∃ b, p a = .ok b) : ∃ bs, as.filterM p = .ok bs := by
  obtain ⟨kept, hkept⟩ := exists_filterAuxM_ok h []
  exact ⟨kept.reverse, by rw [List.filterM, hkept]; rfl⟩

/-- Either a test faults whatever else is asked, or it picks some elements once and for all. -/
theorem filterAuxM_cases (test : α → Except ε Bool) (as : List α) :
    (∃ fault, ∀ (keep : α → Bool) (seen : List α),
        as.filterAuxM (fun a => do return !(← test a) && keep a) seen = .error fault) ∨
      ∃ picked : List α, picked.Sublist as ∧ ∀ (keep : α → Bool) (seen : List α),
        as.filterAuxM (fun a => do return !(← test a) && keep a) seen =
          .ok ((picked.filter keep).reverse ++ seen) := by
  induction as with
  | nil => exact .inr ⟨[], .slnil, fun _ _ => rfl⟩
  | cons a as ih =>
    cases htest : test a with
    | error fault => exact .inl ⟨fault, fun keep seen => by rw [List.filterAuxM, htest]; rfl⟩
    | ok drop =>
      rcases ih with ⟨fault, h⟩ | ⟨picked, hsub, h⟩
      · refine .inl ⟨fault, fun keep seen => ?_⟩
        rw [List.filterAuxM, htest]
        exact h keep _
      · cases drop with
        | true =>
          refine .inr ⟨picked, hsub.cons a, fun keep seen => ?_⟩
          rw [List.filterAuxM, htest]
          exact h keep _
        | false =>
          refine .inr ⟨a :: picked, hsub.cons_cons a, fun keep seen => ?_⟩
          rw [List.filterAuxM, htest]
          refine (h keep _).trans ?_
          cases hkeep : keep a <;> simp [hkeep]

end Test

/-! ## Groups -/

theorem perm_flatMap_filter {α β : Type} [BEq β] [LawfulBEq β] {key : α → β} {keys : List β}
    {as : List α} (hkeys : keys.Nodup) (hcovered : ∀ a ∈ as, key a ∈ keys) :
    (keys.flatMap fun k => as.filter fun a => key a == k).Perm as := by
  induction keys generalizing as with
  | nil =>
    obtain rfl : as = [] := List.eq_nil_iff_forall_not_mem.2 fun a ha => by
      simpa using hcovered a ha
    exact .nil
  | cons k keys ih =>
    obtain ⟨hk, hkeys⟩ := List.nodup_cons.1 hkeys
    let others := as.filter fun a => !(key a == k)
    have hgroups : (keys.flatMap fun l => as.filter fun a => key a == l) =
        keys.flatMap fun l => others.filter fun a => key a == l := by
      refine List.flatMap_congr fun l hl => ?_
      have hne : l ≠ k := fun h => hk (h ▸ hl)
      rw [List.filter_filter]
      refine List.filter_congr fun a _ => ?_
      by_cases h : key a = l <;> simp [h, hne]
    have hrest : (keys.flatMap fun l => others.filter fun a => key a == l).Perm others := by
      refine ih hkeys fun a ha => ?_
      obtain ⟨hmem, hne⟩ := List.mem_filter.1 ha
      exact (List.mem_cons.1 (hcovered a hmem)).resolve_left (by simpa using hne)
    rw [List.flatMap_cons, hgroups]
    exact (hrest.append_left _).trans (List.filter_append_perm _ as)

end Remedy
