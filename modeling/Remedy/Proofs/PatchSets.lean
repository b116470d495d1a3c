import Mathlib.Tactic.Common
import Remedy.Patch.Apply
import Remedy.Patch.Source

/-!
# Patch sets on the bytes of a file

`patchSet` is the outcome of a file's patches on its content, and `patchedBytes` what the content
becomes. A set that fails, or applies nothing, gives back the bytes it was given
(`patchedBytes_of_unchanged`); one that does not fail reports each patch as applied or as applied
before (`applyPatches_settled`).
-/

namespace Remedy

/-! ## Encodings -/

theorem Latin1.encode_decode (bytes : Bytes) : Latin1.encode (Latin1.decode bytes) = bytes := by
  simp [Latin1.encode, Latin1.decode, Function.comp_def]

/-- Writing back what was read reproduces every byte. -/
theorem Source.toBytes_ofBytes (content : Bytes) : (Source.ofBytes content).toBytes = content := by
  unfold Source.ofBytes
  dsimp only
  split_ifs with h
  · exact h
  · exact Latin1.encode_decode content

/-- In a file in UTF-8 the texts of a patch stand as they are. -/
theorem PatchSpec.toSource_utf8 (spec : PatchSpec) : spec.toSource .utf8 = spec := by
  rcases spec with ⟨id, file, description, anchor | ⟨signature, gate | stop⟩, replacement⟩
  · rfl
  · cases gate <;> rfl
  · rfl

/-! ## Attempts in order -/

/-- A patch was applied, or it was found to be applied already. -/
def PatchResult.Settled (result : PatchResult) : Prop :=
  (result.applied = true ∧ result.reason = none) ∨
    (result.applied = false ∧ result.reason = some .alreadyApplied)

theorem settled_of_not_hardFailure (spec : PatchSpec) {outcome : Except PatchFailure Patched}
    (h : isHardFailure outcome = false) : (PatchResult.of spec outcome).Settled := by
  cases outcome with
  | ok patched => exact .inl ⟨rfl, rfl⟩
  | error failure =>
    have hcode : failure.code = .alreadyApplied := by simpa [isHardFailure] using h
    exact .inr ⟨rfl, by simp [PatchResult.of, hcode, FailureCode.reason]⟩

theorem attemptPatches_settled {t : Text} {specs : List PatchSpec}
    (h : (attemptPatches t specs).2.2 = false) :
    ∀ result ∈ (attemptPatches t specs).2.1, result.Settled := by
  induction specs generalizing t with
  | nil => simp [attemptPatches]
  | cons spec specs ih =>
    simp only [attemptPatches, Bool.or_eq_false_iff] at h ⊢
    intro result hresult
    obtain rfl | hrest := List.mem_cons.mp hresult
    · exact settled_of_not_hardFailure spec h.1
    · exact ih h.2 result hrest

/-- The text changes only by patches that are recorded as applied. -/
theorem attemptPatches_text {t : Text} {specs : List PatchSpec}
    (h : ∀ result ∈ (attemptPatches t specs).2.1, result.applied = false) :
    (attemptPatches t specs).1 = t := by
  induction specs generalizing t with
  | nil => rfl
  | cons spec specs ih =>
    cases houtcome : applyPatch t spec with
    | ok patched =>
      have := h (.of spec (.ok patched)) (by simp [attemptPatches, houtcome])
      simp [PatchResult.of] at this
    | error failure =>
      simp only [attemptPatches, houtcome] at h ⊢
      exact ih fun result hresult => h result (List.mem_cons_of_mem _ hresult)

/-! ## All or none -/

theorem rollBack_applied (result : PatchResult) : result.rollBack.applied = false := by
  unfold PatchResult.rollBack
  split_ifs with h
  · rfl
  · simpa using h

theorem applyPatches_of_failed {t : Text} {specs : List PatchSpec}
    (h : (attemptPatches t specs).2.2 = true) :
    applyPatches t specs =
      ⟨t, (attemptPatches t specs).2.1.map PatchResult.rollBack, true, false⟩ := by
  simp [applyPatches, h]

theorem applyPatches_of_not_failed {t : Text} {specs : List PatchSpec}
    (h : (attemptPatches t specs).2.2 = false) :
    applyPatches t specs = ⟨(attemptPatches t specs).1, (attemptPatches t specs).2.1, false,
      decide ((attemptPatches t specs).1 ≠ t)⟩ := by
  simp [applyPatches, h]

theorem applyPatches_failed {t : Text} {specs : List PatchSpec} :
    (applyPatches t specs).failed = (attemptPatches t specs).2.2 := by
  cases h : (attemptPatches t specs).2.2
  · rw [applyPatches_of_not_failed h]
  · rw [applyPatches_of_failed h]

theorem applyPatches_text_of_unchanged {t : Text} {specs : List PatchSpec}
    (h : (applyPatches t specs).changed = false) : (applyPatches t specs).text = t := by
  cases hfailed : (attemptPatches t specs).2.2
  · rw [applyPatches_of_not_failed hfailed] at h ⊢
    simpa using h
  · rw [applyPatches_of_failed hfailed]

theorem applyPatches_settled {t : Text} {specs : List PatchSpec}
    (h : (applyPatches t specs).failed = false) :
    ∀ result ∈ (applyPatches t specs).results, result.Settled := by
  rw [applyPatches_failed] at h
  rw [applyPatches_of_not_failed h]
  exact attemptPatches_settled h

/-- A set that reports a patch as applied has not failed. -/
theorem applyPatches_settled_of_applied {t : Text} {specs : List PatchSpec}
    (h : (applyPatches t specs).results.any PatchResult.applied = true) :
    ∀ result ∈ (applyPatches t specs).results, result.Settled := by
  refine applyPatches_settled ?_
  rw [applyPatches_failed]
  by_contra hfailed
  rw [applyPatches_of_failed (by simpa using hfailed)] at h
  simp [rollBack_applied] at h

/-- A set that changes the text does not fail, and records a patch as applied. -/
theorem applyPatches_of_changed {t : Text} {specs : List PatchSpec}
    (h : (applyPatches t specs).changed = true) :
    (applyPatches t specs).failed = false ∧
      (applyPatches t specs).results.any PatchResult.applied = true := by
  cases hfailed : (attemptPatches t specs).2.2
  · rw [applyPatches_of_not_failed hfailed] at h ⊢
    refine ⟨rfl, ?_⟩
    by_contra hnone
    have htext : (attemptPatches t specs).1 = t := by
      refine attemptPatches_text fun result hresult => ?_
      simpa using fun happlied => hnone (List.any_eq_true.mpr ⟨result, hresult, happlied⟩)
    simp [htext] at h
  · simp [applyPatches_of_failed hfailed] at h

/-! ## On bytes -/

/-- The outcome of patches on the content of a file, in the file's own encoding. -/
def patchSet (specs : List PatchSpec) (content : Bytes) : PatchSetResult :=
  let source := Source.ofBytes content
  applyPatches source.text (specs.map fun spec => spec.toSource source.encoding)

/-- The bytes that patches make of the content of a file. -/
def patchedBytes (specs : List PatchSpec) (content : Bytes) : Bytes :=
  ({ Source.ofBytes content with text := (patchSet specs content).text } : Source).toBytes

theorem patchedBytes_of_unchanged {specs : List PatchSpec} {content : Bytes}
    (h : (patchSet specs content).changed = false) : patchedBytes specs content = content := by
  have htext : (patchSet specs content).text = (Source.ofBytes content).text :=
    applyPatches_text_of_unchanged h
  rw [patchedBytes, htext]
  exact Source.toBytes_ofBytes content

@[simp]
theorem patchSet_nil_changed (content : Bytes) : (patchSet [] content).changed = false := by
  simp [patchSet, applyPatches, attemptPatches]

/-! ## Patches to try -/

/-- Writes the function `f` of a file on one line. -/
def oneLinePatch (file : Text) : PatchSpec where
  id := "p1"
  targetFile := file
  description := none
  locator := .signature "f(void)" (.columnZeroBrace none)
  replacement := "int f(void) \x7b return 1; \x7d\n"

/-- Looks for a function that is not there. -/
def absentPatch : PatchSpec where
  id := "p2"
  targetFile := "a.c"
  description := none
  locator := .exact "g(void)"
  replacement := ""

end Remedy
