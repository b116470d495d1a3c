import Mathlib.Data.List.Forall2
import Remedy.Proofs.PatchSets

/-!
# Patch sets are all or none

Each patch of a set is tried on the text that the ones before it left, `textBefore`, and the loop
goes on after a failure. `attemptPatches_results` says what it records of a patch in terms of that
text. `applyPatches_all_or_none` says what becomes of a set: whether it fails, the text it gives and
what each record then tells.
-/

namespace Remedy

/-! ## Attempts -/

/-- The text after an attempt: the patched one, or the text as it was. -/
def textAfter (t : Text) (spec : PatchSpec) : Text :=
  match applyPatch t spec with
  | .ok patched => patched.text
  | .error _ => t

/-- The text that the patch with index `i` is tried on. With the number of patches for `i` it is the
text after all of them. -/
def textBefore (t : Text) (specs : List PatchSpec) (i : Nat) : Text :=
  (specs.take i).foldl textAfter t

@[simp]
theorem textBefore_succ (t : Text) (spec : PatchSpec) (specs : List PatchSpec) (i : Nat) :
    textBefore t (spec :: specs) (i + 1) = textBefore (textAfter t spec) specs i := rfl

theorem attemptPatches_cons (t : Text) (spec : PatchSpec) (specs : List PatchSpec) :
    attemptPatches t (spec :: specs) =
      let rest := attemptPatches (textAfter t spec) specs
      (rest.1, .of spec (applyPatch t spec) :: rest.2.1,
        isHardFailure (applyPatch t spec) || rest.2.2) := rfl

theorem attemptPatches_last (t : Text) (specs : List PatchSpec) :
    (attemptPatches t specs).1 = textBefore t specs specs.length := by
  induction specs generalizing t with
  | nil => rfl
  | cons spec specs ih => simp [attemptPatches_cons, ih]

theorem attemptPatches_results (t : Text) (specs : List PatchSpec) (i : Nat) :
    (attemptPatches t specs).2.1[i]? =
      specs[i]?.map fun spec => .of spec (applyPatch (textBefore t specs i) spec) := by
  induction specs generalizing t i with
  | nil => simp [attemptPatches]
  | cons spec specs ih =>
    cases i with
    | zero => rfl
    | succ i => simp [attemptPatches_cons, ih]

theorem attemptPatches_failed_iff (t : Text) (specs : List PatchSpec) :
    (attemptPatches t specs).2.2 = true ↔
      ∃ i spec, specs[i]? = some spec ∧
        isHardFailure (applyPatch (textBefore t specs i) spec) = true := by
  induction specs generalizing t with
  | nil => simp [attemptPatches]
  | cons spec specs ih =>
    rw [attemptPatches_cons, Bool.or_eq_true, ih]
    constructor
    · rintro (h | ⟨i, other, hi, h⟩)
      · exact ⟨0, spec, rfl, h⟩
      · exact ⟨i + 1, other, hi, h⟩
    · rintro ⟨i | i, other, hi, h⟩
      · obtain rfl : spec = other := by simpa using hi
        exact .inl h
      · exact .inr ⟨i, other, hi, h⟩

theorem isHardFailure_iff {outcome : Except PatchFailure Patched} :
    isHardFailure outcome = true ↔ ∃ failure, outcome = .error failure ∧
      (failure.code = .anchorNotFound ∨ failure.code = .anchorAmbiguous) := by
  cases outcome with
  | ok patched => simp [isHardFailure]
  | error failure => cases h : failure.code <;> simp [isHardFailure, h]

/-! ## Records -/

/-- A result is the record of a patch: it has its id, its file and the label of its locator, and it
gives a reason if and only if the patch was not applied. -/
structure PatchSpec.RecordedAs (spec : PatchSpec) (result : PatchResult) : Prop where
  id_eq : result.patchId = spec.id
  file_eq : result.targetFile = spec.targetFile
  label_eq : result.locator = describeLocator spec
  applied_iff : result.applied = true ↔ result.reason = none

theorem recordedAs_of (spec : PatchSpec) (outcome : Except PatchFailure Patched) :
    spec.RecordedAs (.of spec outcome) := by
  cases outcome <;> exact ⟨rfl, rfl, rfl, by simp [PatchResult.of]⟩

theorem PatchSpec.RecordedAs.rollBack {spec : PatchSpec} {result : PatchResult}
    (h : spec.RecordedAs result) : spec.RecordedAs result.rollBack := by
  unfold PatchResult.rollBack
  split_ifs
  · exact ⟨h.id_eq, h.file_eq, h.label_eq, by simp⟩
  · exact h

theorem attemptPatches_recorded (t : Text) (specs : List PatchSpec) :
    List.Forall₂ PatchSpec.RecordedAs specs (attemptPatches t specs).2.1 := by
  induction specs generalizing t with
  | nil => exact .nil
  | cons spec specs ih => exact .cons (recordedAs_of spec _) (ih _)

/-- A set has one record for each patch, in order. -/
theorem applyPatches_recorded (t : Text) (specs : List PatchSpec) :
    List.Forall₂ PatchSpec.RecordedAs specs (applyPatches t specs).results := by
  cases hfailed : (attemptPatches t specs).2.2 with
  | false =>
    rw [applyPatches_of_not_failed hfailed]
    exact attemptPatches_recorded t specs
  | true =>
    rw [applyPatches_of_failed hfailed, List.forall₂_map_right_iff]
    exact (attemptPatches_recorded t specs).imp fun _ _ => .rollBack

/-- The record of a patch is that of its attempt, undone if the set failed. -/
theorem applyPatches_result_eq {t : Text} {specs : List PatchSpec} {i : Nat} {spec : PatchSpec}
    {result : PatchResult} (hspec : specs[i]? = some spec)
    (hresult : (applyPatches t specs).results[i]? = some result) :
    result = if (applyPatches t specs).failed then
        (PatchResult.of spec (applyPatch (textBefore t specs i) spec)).rollBack
      else .of spec (applyPatch (textBefore t specs i) spec) := by
  have hattempt := attemptPatches_results t specs i
  rw [hspec, Option.map_some] at hattempt
  cases hfailed : (attemptPatches t specs).2.2 with
  | false =>
    rw [applyPatches_of_not_failed hfailed] at hresult ⊢
    simpa [hattempt] using hresult.symm
  | true =>
    rw [applyPatches_of_failed hfailed] at hresult ⊢
    simpa [hattempt] using hresult.symm

theorem of_applied_iff {spec : PatchSpec} {outcome : Except PatchFailure Patched} :
    (PatchResult.of spec outcome).applied = true ↔ ∃ patched, outcome = .ok patched := by
  cases outcome <;> simp [PatchResult.of]

/-- Undoing gives a patch that was applied a reason, and leaves that of any other. -/
theorem rollBack_reason (spec : PatchSpec) (outcome : Except PatchFailure Patched) :
    let result := (PatchResult.of spec outcome).rollBack
    (∀ patched, outcome = .ok patched → result.reason = some .rolledBack) ∧
    ∀ failure, outcome = .error failure →
      result.reason = some failure.code.reason ∧ result.message = failure.message := by
  constructor
  · rintro patched rfl
    rfl
  · rintro failure rfl
    exact ⟨rfl, rfl⟩

/-- A set fails when a patch does not find its place. It then gives the text back and applies
nothing: what was applied on the way is rolled back, and every other patch keeps its reason. A set
that does not fail gives the last text, and each of its patches was applied, now or before. -/
theorem applyPatches_all_or_none (t : Text) (specs : List PatchSpec) :
    let set := applyPatches t specs
    let attempt (i : Nat) (spec : PatchSpec) := applyPatch (textBefore t specs i) spec
    (set.failed = true ↔ ∃ i spec failure, specs[i]? = some spec ∧
      attempt i spec = .error failure ∧
      (failure.code = .anchorNotFound ∨ failure.code = .anchorAmbiguous)) ∧
    List.Forall₂ PatchSpec.RecordedAs specs set.results ∧
    (set.failed = true → set.text = t ∧ set.changed = false ∧
      ∀ (i : Nat) (spec : PatchSpec) (result : PatchResult),
        specs[i]? = some spec → set.results[i]? = some result →
        result.applied = false ∧
        (∀ patched, attempt i spec = .ok patched → result.reason = some .rolledBack) ∧
        ∀ failure, attempt i spec = .error failure →
          result.reason = some failure.code.reason ∧ result.message = failure.message) ∧
    (set.failed = false → set.text = textBefore t specs specs.length ∧
      (set.changed = true ↔ set.text ≠ t) ∧
      ∀ (i : Nat) (spec : PatchSpec) (result : PatchResult),
        specs[i]? = some spec → set.results[i]? = some result →
        (result.applied = true ↔ ∃ patched, attempt i spec = .ok patched) ∧
        (result.applied = false → result.reason = some .alreadyApplied)) := by
  intro set attempt
  refine ⟨?_, applyPatches_recorded t specs, fun hfailed => ?_, fun hfailed => ?_⟩
  · rw [applyPatches_failed, attemptPatches_failed_iff]
    simp only [isHardFailure_iff, exists_and_left, attempt]
  · have hset := applyPatches_of_failed (applyPatches_failed ▸ hfailed)
    refine ⟨by simp only [set, hset], by simp only [set, hset], ?_⟩
    intro i spec result hspec hresult
    obtain rfl := applyPatches_result_eq hspec hresult
    rw [if_pos hfailed]
    exact ⟨rollBack_applied _, rollBack_reason spec _⟩
  · have hset := applyPatches_of_not_failed (applyPatches_failed ▸ hfailed)
    refine ⟨by simp only [set, hset, attemptPatches_last], by simp [set, hset], ?_⟩
    intro i spec result hspec hresult
    have hsettled := applyPatches_settled hfailed result (List.mem_of_getElem? hresult)
    obtain rfl := applyPatches_result_eq hspec hresult
    rw [if_neg (by simp [set, hfailed])] at hsettled ⊢
    refine ⟨of_applied_iff, fun hnot => ?_⟩
    exact (hsettled.resolve_left fun h => by simp [hnot] at h).2

def bareFunction : Text := "int f(void)\n\x7b\n\x7d\n"

set_option maxRecDepth 4000 in
/-- The first patch applies and is undone, because the second one finds nothing in the text that the
first one leaves. -/
theorem applyPatches_all_or_none_undone :
    let set := applyPatches bareFunction [oneLinePatch "a.c", absentPatch]
    set.failed = true ∧ set.text = bareFunction ∧
      ∀ result, set.results[0]? = some result →
        result.applied = false ∧ result.reason = some .rolledBack := by
  intro set
  have hfirst : applyPatch bareFunction (oneLinePatch "a.c") =
      .ok ⟨(oneLinePatch "a.c").replacement, ⟨1, 3⟩⟩ := by decide +kernel
  have hsecond : applyPatch (oneLinePatch "a.c").replacement absentPatch =
      .error (.notLocated (.anchorMissing "g(void)")) := by decide +kernel
  have hlast : textBefore bareFunction [oneLinePatch "a.c", absentPatch] 1 =
      (oneLinePatch "a.c").replacement := by rw [textBefore_succ, textAfter, hfirst]; rfl
  obtain ⟨hiff, -, hundone, -⟩ :=
    applyPatches_all_or_none bareFunction [oneLinePatch "a.c", absentPatch]
  have hfailed : set.failed = true :=
    hiff.2 ⟨1, absentPatch, _, rfl, hlast ▸ hsecond, .inl rfl⟩
  obtain ⟨htext, -, hrecords⟩ := hundone hfailed
  refine ⟨hfailed, htext, fun result hresult => ?_⟩
  obtain ⟨happlied, hrolledBack, -⟩ := hrecords 0 _ result rfl hresult
  exact ⟨happlied, hrolledBack _ hfirst⟩

end Remedy
