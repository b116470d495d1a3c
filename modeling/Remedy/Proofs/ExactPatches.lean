import Mathlib.Data.List.Sort
import Mathlib.Logic.ExistsUnique
import Remedy.Proofs.Patching

/-!
# Exact patches

A fragment is searched for in several spellings, and the first of them that occurs counts
(`firstSpelling_iff`). How often the anchor of an exact patch is found in this way decides what
becomes of the patch: found once, it is applied there (`applyPatch_of_single`), and otherwise the
number tells why it fails (`applyPatch_of_not_single`).
-/

namespace Remedy

/-! ## Searching -/

theorem OccursAt.add_length_le {needle t : Text} {i : Nat} (h : OccursAt needle t i) :
    i + needle.length ≤ t.length := by
  obtain ⟨before, after, rfl, rfl⟩ := h
  simp

theorem OccursAt.take_drop {x t : Text} {i : Nat} (h : OccursAt x t i) :
    t = t.take i ++ x ++ t.drop (i + x.length) := by
  obtain ⟨before, after, rfl, rfl⟩ := h
  simp [List.drop_append]

/-- Two searches with the same results up to a change of offsets. -/
theorem findAll_eq_map_of_mem {u t y x : Text} {f : Nat → Nat}
    (hf : ∀ i ∈ findAll t x, ∀ j ∈ findAll t x, i < j → f i < f j)
    (h : ∀ j, j ∈ findAll u y ↔ ∃ i ∈ findAll t x, f i = j) :
    findAll u y = (findAll t x).map f := by
  refine (pairwise_findAll u y).eq_of_mem_iff ?_ fun j => by rw [h, List.mem_map]
  rw [List.pairwise_map]
  exact (pairwise_findAll t x).imp_of_mem fun hi hj hij => hf _ hi _ hj hij

theorem findAll_eq_map {u t y x : Text} {f : Nat → Nat}
    (hf : ∀ i j, i < j → j ≤ t.length → f i < f j)
    (h : ∀ j, j ∈ findAll u y ↔ ∃ i ∈ findAll t x, f i = j) :
    findAll u y = (findAll t x).map f := by
  refine findAll_eq_map_of_mem (fun i _ j hj hij => hf i j hij ?_) h
  have := (mem_findAll.1 hj).2.add_length_le
  omega

theorem findAll_eq_singleton_iff {t needle : Text} {i : Nat} :
    findAll t needle = [i] ↔ needle ≠ [] ∧ ∀ j, OccursAt needle t j ↔ j = i := by
  constructor
  · intro h
    have hmem (j : Nat) : j = i ↔ needle ≠ [] ∧ OccursAt needle t j := by
      rw [← mem_findAll, h, List.mem_singleton]
    have hne := ((hmem i).1 rfl).1
    exact ⟨hne, fun j => ⟨fun hj => (hmem j).2 ⟨hne, hj⟩, fun hj => ((hmem j).1 hj).2⟩⟩
  · rintro ⟨hne, hocc⟩
    refine (pairwise_findAll t needle).eq_of_mem_iff (List.pairwise_singleton _ i) fun j => ?_
    rw [mem_findAll, hocc, List.mem_singleton]
    exact and_iff_right hne

/-! ## The first spelling -/

theorem findAll_eq_nil_iff {t needle : Text} :
    findAll t needle = [] ↔ needle = [] ∨ ¬ needle <:+: t := by
  constructor
  · intro hnil
    by_cases hne : needle = []
    · exact .inl hne
    · right
      rintro ⟨before, after, rfl⟩
      have hmem := mem_findAll.2 ⟨hne, OccursAt.middle before needle after⟩
      exact List.not_mem_nil (hnil ▸ hmem)
  · intro h
    refine List.eq_nil_iff_forall_not_mem.2 fun i hi => ?_
    obtain ⟨hne, before, after, rfl, -⟩ := mem_findAll.1 hi
    exact h.elim hne fun hnot => hnot ⟨before, after, rfl⟩

theorem length_findAll_eq_one_iff {t needle : Text} :
    (findAll t needle).length = 1 ↔ needle ≠ [] ∧ ∃! i, OccursAt needle t i := by
  rw [List.length_eq_one_iff]
  constructor
  · rintro ⟨i, hi⟩
    obtain ⟨hne, hocc⟩ := findAll_eq_singleton_iff.1 hi
    exact ⟨hne, i, (hocc i).2 rfl, fun j hj => (hocc j).1 hj⟩
  · rintro ⟨hne, i, hocc, honly⟩
    refine ⟨i, findAll_eq_singleton_iff.2 ⟨hne, fun j => ⟨honly j, ?_⟩⟩⟩
    rintro rfl
    exact hocc

theorem eq_nil_iff_of_mem_spellings {x fragment t : Text} (h : x ∈ spellings fragment t) :
    x = [] ↔ fragment = [] := by
  rcases mem_spellings.1 h with rfl | rfl | rfl
  · rfl
  · exact toLineEnding_eq_nil_iff
  · exact toLineEnding_eq_nil_iff

/-- The first spelling of a fragment that occurs in the text: as the fragment is written, in the
text's dominant line ending, in the other one. -/
def FirstSpelling (t fragment x : Text) : Prop :=
  x ≠ [] ∧ x <:+: t ∧
    ∃ earlier later, spellings fragment t = earlier ++ x :: later ∧ ∀ y ∈ earlier, ¬ y <:+: t

theorem firstOccurring_cons (t needle : Text) {needles : List Text} (h : needles ≠ []) :
    firstOccurring t (needle :: needles) =
      if findAll t needle = [] then firstOccurring t needles else ⟨needle, findAll t needle⟩ := by
  rw [firstOccurring]
  · simp only [List.isEmpty_iff]
  · exact fun hnil => h hnil

theorem firstOccurring_append {t x : Text} {earlier : List Text}
    (he : ∀ y ∈ earlier, findAll t y = []) (hx : findAll t x ≠ []) (later : List Text) :
    firstOccurring t (earlier ++ x :: later) = ⟨x, findAll t x⟩ := by
  induction earlier with
  | nil =>
    rcases eq_or_ne later [] with rfl | hlater
    · rfl
    · rw [List.nil_append, firstOccurring_cons t x hlater, if_neg hx]
  | cons y earlier ih =>
    rw [List.forall_mem_cons] at he
    rw [List.cons_append, firstOccurring_cons t y (by simp), if_pos he.1, ih he.2]

/-- Every needle before the one that is found occurs nowhere. -/
theorem exists_of_firstOccurring {t : Text} {needles : List Text}
    (h : (firstOccurring t needles).offsets ≠ []) :
    ∃ earlier later, needles = earlier ++ (firstOccurring t needles).needle :: later ∧
      ∀ y ∈ earlier, findAll t y = [] := by
  fun_induction firstOccurring t needles with
  | case1 => exact absurd rfl h
  | case2 needle => exact ⟨[], [], rfl, by simp⟩
  | case3 needle needles hne offsets hoff ih =>
    obtain ⟨earlier, later, hneedles, he⟩ := ih h
    refine ⟨needle :: earlier, later, by rw [List.cons_append, ← hneedles], ?_⟩
    exact List.forall_mem_cons.2 ⟨List.isEmpty_iff.1 hoff, he⟩
  | case4 needle needles hne offsets hoff => exact ⟨[], needles, rfl, by simp⟩

theorem firstSpelling_iff {t fragment x : Text} :
    FirstSpelling t fragment x ↔
      (findFirstSpelling t fragment).offsets ≠ [] ∧ (findFirstSpelling t fragment).needle = x := by
  constructor
  · rintro ⟨hne, hin, earlier, later, hspell, he⟩
    have hx : findAll t x ≠ [] := by
      rw [ne_eq, findAll_eq_nil_iff, not_or, not_not]
      exact ⟨hne, hin⟩
    have hfound : findFirstSpelling t fragment = ⟨x, findAll t x⟩ := by
      rw [findFirstSpelling, hspell]
      exact firstOccurring_append (fun y hy => findAll_eq_nil_iff.2 (.inr (he y hy))) hx later
    rw [hfound]
    exact ⟨hx, rfl⟩
  · rintro ⟨hoff, rfl⟩
    obtain ⟨hmem, hall⟩ := findFirstSpelling_spec t fragment
    obtain ⟨earlier, later, hspell, he⟩ := exists_of_firstOccurring hoff
    have hfound := hall ▸ hoff
    rw [ne_eq, findAll_eq_nil_iff, not_or, not_not] at hfound
    refine ⟨hfound.1, hfound.2, earlier, later, hspell, fun y hy => ?_⟩
    -- an empty spelling would be a spelling of an empty fragment, which is not found
    have hy' : y ∈ spellings fragment t := by
      rw [hspell]
      exact List.mem_append_left _ hy
    refine (findAll_eq_nil_iff.1 (he y hy)).resolve_left fun hnil => hfound.1 ?_
    rw [eq_nil_iff_of_mem_spellings hmem, ← eq_nil_iff_of_mem_spellings hy', hnil]

/-- The search reports a single place exactly when the first spelling that occurs does so once. -/
theorem single_iff_firstSpelling {t fragment : Text} :
    (findFirstSpelling t fragment).offsets.length = 1 ↔
      ∃ x, FirstSpelling t fragment x ∧ ∃! i, OccursAt x t i := by
  have hall := (findFirstSpelling_spec t fragment).2
  constructor
  · intro h
    have hoff : (findFirstSpelling t fragment).offsets ≠ [] := by
      intro hnil
      simp [hnil] at h
    rw [hall, length_findAll_eq_one_iff] at h
    exact ⟨_, firstSpelling_iff.2 ⟨hoff, rfl⟩, h.2⟩
  · rintro ⟨x, hfirst, honce⟩
    rw [hall, (firstSpelling_iff.1 hfirst).2]
    exact length_findAll_eq_one_iff.2 ⟨hfirst.1, honce⟩

/-! ## Locating an anchor -/

/-- The match of `n` units at offset `i`. -/
def matchAt (t : Text) (i n : Nat) : Match :=
  ⟨⟨lineAt (lineStarts t) i, lineAt (lineStarts t) ((i + n : Nat) - 1)⟩, i, i + n⟩

theorem offsets_eq_nil_of_empty {u anchor : Text} (h : u = [] ∨ anchor = []) :
    (findFirstSpelling u anchor).offsets = [] := by
  obtain ⟨hmem, hoff⟩ := findFirstSpelling_spec u anchor
  refine List.eq_nil_iff_forall_not_mem.2 fun i hi => ?_
  obtain ⟨hne, before, after, hu, -⟩ := mem_findAll.1 (hoff ▸ hi)
  rcases h with rfl | rfl
  · simp [hne] at hu
  · rcases mem_spellings.1 hmem with h | h | h <;> exact hne h

theorem locateExact_of_single {u anchor : Text} {i : Nat}
    (h : (findFirstSpelling u anchor).offsets = [i]) :
    locateExact u anchor = .ok (matchAt u i (findFirstSpelling u anchor).needle.length) := by
  have hne : ¬ (u.isEmpty || anchor.isEmpty) = true := by
    rw [Bool.or_eq_true, List.isEmpty_iff, List.isEmpty_iff]
    intro hempty
    simp [offsets_eq_nil_of_empty hempty] at h
  rw [locateExact, if_neg hne]
  simp only [h]
  rfl

/-- The reason why an anchor is not located is told by how often it is found. -/
theorem locateExact_of_not_single {u anchor : Text}
    (h : (findFirstSpelling u anchor).offsets.length ≠ 1) :
    ∃ cause, locateExact u anchor = .error cause ∧
      cause.code = if (findFirstSpelling u anchor).offsets.length = 0 then .anchorNotFound
        else .anchorAmbiguous := by
  by_cases hempty : (u.isEmpty || anchor.isEmpty) = true
  · have hnil := offsets_eq_nil_of_empty (by simpa using hempty)
    exact ⟨.emptyAnchor, by rw [locateExact, if_pos hempty], by simp [hnil, LocateFailure.code]⟩
  · rw [locateExact, if_neg hempty]
    rcases hoff : (findFirstSpelling u anchor).offsets with _ | ⟨i, _ | ⟨j, rest⟩⟩
    · simp only [hoff]
      exact ⟨_, rfl, rfl⟩
    · simp [hoff] at h
    · simp only [hoff]
      exact ⟨_, rfl, rfl⟩

theorem refuse_code (u : Text) (spec : PatchSpec) (cause : LocateFailure) :
    (refuse u spec cause).code =
      if cause.code = .anchorNotFound ∧ spec.inserted ≠ [] ∧
        (findFirstSpelling u spec.inserted).offsets.length = 1 then .alreadyApplied
      else cause.code := by
  unfold refuse
  split_ifs <;> rfl

/-! ## The outcome -/

section Outcome

variable {u anchor : Text} {spec : PatchSpec} (hs : spec.locator = .exact anchor)
include hs

theorem applyPatch_of_single {i : Nat} (h : (findFirstSpelling u anchor).offsets = [i]) :
    applyPatch u spec =
      applyAt u spec (matchAt u i (findFirstSpelling u anchor).needle.length) := by
  rw [applyPatch, hs, locate_exact, locateExact_of_single h]

theorem applyPatch_of_not_single (h : (findFirstSpelling u anchor).offsets.length ≠ 1) :
    (applyPatch u spec).mapError PatchFailure.code = .error
      (if (findFirstSpelling u anchor).offsets.length = 0 then
        if spec.replacement ≠ [] ∧ (findFirstSpelling u spec.replacement).offsets.length = 1 then
          .alreadyApplied
        else .anchorNotFound
      else .anchorAmbiguous) := by
  obtain ⟨cause, hcause, hcode⟩ := locateExact_of_not_single h
  have hinserted : spec.inserted = spec.replacement := by simp [PatchSpec.inserted, hs]
  rw [applyPatch, hs, locate_exact, hcause]
  simp only [Except.mapError, refuse_code, hinserted, hcode]
  split_ifs <;> simp_all

end Outcome

/-- Replaces text by other text. -/
def replaceText (anchor replacement : Text) : PatchSpec where
  id := "p1"
  targetFile := "a.c"
  description := none
  locator := .exact anchor
  replacement := replacement

end Remedy
