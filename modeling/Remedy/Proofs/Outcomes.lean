import Remedy.Proofs.ExactPatches
import Remedy.Proofs.Lists

/-!
# What the outcomes of a patch mean

A patch that applies changes the text. One that is refused as applied before has a copy of what it
inserts in the text (`exists_copy_of_alreadyApplied`), whether its place is found, and covered by
the copy, or is gone and the copy stands there alone. The other two failures are those of the
locator, and a place that is not found is reported as such unless the first spelling of the inserted
text that occurs, `FirstSpelling`, occurs once. `applyPatch_outcomes` says so for each outcome.
-/

namespace Remedy

/-! ## Copies of what is inserted -/

/-- A text with its line endings as they are, or all of them written in one style. -/
def Respelled (r x : Text) : Prop := x = r ∨ ∃ ending, x = toLineEnding r ending

theorem mem_spellings_iff_respelled {x r t : Text} : x ∈ spellings r t ↔ Respelled r x := by
  rw [mem_spellings]
  constructor
  · rintro (rfl | rfl | rfl)
    · exact .inl rfl
    · exact .inr ⟨_, rfl⟩
    · exact .inr ⟨_, rfl⟩
  · rintro (rfl | ⟨_ | _, rfl⟩) <;> simp

/-- What a patch keeps of a replacement: for a function found by its signature the final line break
is dropped. -/
def PatchSpec.kept (spec : PatchSpec) (replacement : Text) : Text :=
  match spec.locator with
  | .exact _ => replacement
  | .signature .. => stripTerminator replacement

/-- A copy of what a patch inserts. The line endings of the replacement may be rewritten both before
and after its final line break is dropped. -/
def PatchSpec.IsCopy (spec : PatchSpec) (x : Text) : Prop :=
  ∃ r, Respelled spec.replacement r ∧ Respelled (spec.kept r) x

theorem PatchSpec.insertedAt_eq (spec : PatchSpec) (t : Text) (m : Match) : spec.insertedAt t m =
    spec.kept (toLineEnding spec.replacement (lineEndingAt t m.startOffset m.endOffset)) := rfl

theorem isCopy_of_mem_spellings {spec : PatchSpec} {t x : Text}
    (h : x ∈ spellings spec.inserted t) : spec.IsCopy x :=
  ⟨spec.replacement, .inl rfl, mem_spellings_iff_respelled.1 h⟩

theorem isCopy_of_mem_spellings_insertedAt {spec : PatchSpec} {t u x : Text} {m : Match}
    (h : x ∈ spellings (spec.insertedAt t m) u) : spec.IsCopy x := by
  rw [spec.insertedAt_eq, mem_spellings_iff_respelled] at h
  exact ⟨_, .inr ⟨_, rfl⟩, h⟩

section NoDoubledReturn

variable {spec : PatchSpec} (h : ¬ HasDoubledReturn spec.replacement)
include h

theorem not_hasDoubledReturn_inserted : ¬ HasDoubledReturn spec.inserted := by
  intro hin
  unfold PatchSpec.inserted at hin
  split at hin
  · exact h hin
  · exact h (hin.trans (List.take_prefix _ _).isInfix)

theorem kept_toLineEnding (ending : LineEnding) :
    spec.kept (toLineEnding spec.replacement ending) = toLineEnding spec.inserted ending := by
  unfold PatchSpec.kept PatchSpec.inserted
  cases spec.locator with
  | exact anchor => rfl
  | signature signature stop => exact (toLineEnding_of_stripTerminator h ending).symm

/-- Without a doubled carriage return the line endings need to be rewritten once only. -/
theorem PatchSpec.IsCopy.respelled {x : Text} (hx : spec.IsCopy x) : Respelled spec.inserted x := by
  obtain ⟨r, rfl | ⟨ending, rfl⟩, hx⟩ := hx
  · exact hx
  · rw [kept_toLineEnding h] at hx
    rcases hx with rfl | ⟨other, rfl⟩
    · exact .inr ⟨ending, rfl⟩
    · exact .inr ⟨other, toLineEnding_toLineEnding (not_hasDoubledReturn_inserted h) ending other⟩

end NoDoubledReturn

/-! ## Outcomes -/

theorem LocateFailure.code_ne_alreadyApplied (cause : LocateFailure) :
    cause.code ≠ .alreadyApplied := by
  cases cause <;> simp [LocateFailure.code]

/-- A place that is found leads to no other failure than that the patch was applied before. -/
theorem code_of_located {t : Text} {spec : PatchSpec} {m : Match} {failure : PatchFailure}
    (hl : locate t spec.locator = .ok m) (h : applyPatch t spec = .error failure) :
    failure.code = .alreadyApplied ∧
      CopyAround t (spec.insertedAt t m) m.startOffset m.endOffset := by
  rw [applyPatch_of_located hl] at h
  split_ifs at h with hcovered
  obtain rfl := Except.error.inj h
  exact ⟨rfl, coveredByReplacement_iff.1 hcovered⟩

/-- A place that is not found leads to the failure of the locator, or to a single copy. -/
theorem code_of_not_located {t : Text} {spec : PatchSpec} {cause : LocateFailure} :
    (refuse t spec cause).code =
      if cause.code = .anchorNotFound ∧ (findFirstSpelling t spec.inserted).offsets.length = 1 then
        .alreadyApplied
      else cause.code := by
  have hne (h : (findFirstSpelling t spec.inserted).offsets.length = 1) : spec.inserted ≠ [] := by
    intro hnil
    simp [offsets_eq_nil_of_empty (.inr hnil)] at h
  rw [refuse_code]
  congr 1
  rw [eq_iff_iff]
  exact ⟨fun h => ⟨h.1, h.2.2⟩, fun h => ⟨h.1, hne h.2, h.2⟩⟩

theorem exists_copy_of_alreadyApplied {t : Text} {spec : PatchSpec} {failure : PatchFailure}
    (h : applyPatch t spec = .error failure) (hcode : failure.code = .alreadyApplied) :
    ∃ x, x ≠ [] ∧ x <:+: t ∧ spec.IsCopy x := by
  cases hl : locate t spec.locator with
  | ok m =>
    obtain ⟨-, copy, hcopy, hne, i, ⟨before, after, ht, -⟩, -⟩ := code_of_located hl h
    exact ⟨copy, hne, ⟨before, after, ht.symm⟩, isCopy_of_mem_spellings_insertedAt hcopy⟩
  | error cause =>
    rw [applyPatch_of_not_located hl] at h
    obtain rfl := Except.error.inj h
    rw [code_of_not_located] at hcode
    split_ifs at hcode with hsingle
    · obtain ⟨x, ⟨hne, hin, earlier, later, hspell, -⟩, -⟩ := single_iff_firstSpelling.1 hsingle.2
      have hx : x ∈ spellings spec.inserted t := by simp [hspell]
      exact ⟨x, hne, hin, isCopy_of_mem_spellings hx⟩
    · exact absurd hcode cause.code_ne_alreadyApplied

/-- The other failures are those of the locator, except that nothing is reported as not found when a
single copy stands in the text. -/
theorem applyPatch_fails_iff {t : Text} {spec : PatchSpec} {code : FailureCode}
    (hcode : code ≠ .alreadyApplied) :
    (applyPatch t spec).mapError PatchFailure.code = .error code ↔
      (locate t spec.locator).mapError LocateFailure.code = .error code ∧
        ¬ (code = .anchorNotFound ∧ (findFirstSpelling t spec.inserted).offsets.length = 1) := by
  rw [mapError_eq_error_iff, mapError_eq_error_iff]
  constructor
  · rintro ⟨failure, h, rfl⟩
    cases hl : locate t spec.locator with
    | ok m => exact absurd (code_of_located hl h).1 hcode
    | error cause =>
      rw [applyPatch_of_not_located hl] at h
      obtain rfl := Except.error.inj h
      rw [code_of_not_located] at hcode ⊢
      split_ifs at hcode ⊢ with hsingle
      · exact absurd rfl hcode
      · exact ⟨⟨cause, rfl, rfl⟩, hsingle⟩
  · rintro ⟨⟨cause, hl, rfl⟩, hsingle⟩
    exact ⟨_, applyPatch_of_not_located hl, by rw [code_of_not_located, if_neg hsingle]⟩

/-- What each outcome of a patch says. If it is applied, the text changes. If it is said to be
applied before, a copy of what it inserts stands in the text. It is ambiguous if and only if its
place is. It is not found if and only if its place is not, and the first spelling of what it inserts
that occurs in the text, if there is one, does not occur exactly once. -/
theorem applyPatch_outcomes (t : Text) (spec : PatchSpec) :
    let outcome := (applyPatch t spec).mapError PatchFailure.code
    let located := (locate t spec.locator).mapError LocateFailure.code
    (∀ p, outcome = .ok p → p.text ≠ t) ∧
    (outcome = .error .alreadyApplied → ∃ x, x ≠ [] ∧ x <:+: t ∧ spec.IsCopy x ∧
      (¬ HasDoubledReturn spec.replacement → Respelled spec.inserted x)) ∧
    (outcome = .error .anchorAmbiguous ↔ located = .error .anchorAmbiguous) ∧
    (outcome = .error .anchorNotFound ↔ located = .error .anchorNotFound ∧
      ∀ x, FirstSpelling t spec.inserted x → ¬ ∃! i, OccursAt x t i) := by
  intro outcome located
  refine ⟨fun p hp => ?_, fun hcode => ?_, ?_, ?_⟩
  · apply applyPatch_text_ne
    cases h : applyPatch t spec with
    | ok q => simpa [outcome, h, Except.mapError] using hp
    | error failure => simp [outcome, h, Except.mapError] at hp
  · obtain ⟨failure, h, hcode⟩ := mapError_eq_error_iff.1 hcode
    obtain ⟨x, hne, hin, hcopy⟩ := exists_copy_of_alreadyApplied h hcode
    exact ⟨x, hne, hin, hcopy, fun hreturns => hcopy.respelled hreturns⟩
  · rw [applyPatch_fails_iff (by decide)]
    exact and_iff_left (by simp)
  · rw [applyPatch_fails_iff (by decide), single_iff_firstSpelling]
    simp [located]

/-- Gives the function `f` an empty body. -/
def emptyBodyPatch : PatchSpec where
  id := "p1"
  targetFile := "a.c"
  description := none
  locator := .signature "f(void)" (.columnZeroBrace none)
  replacement := "int f(void)\n\x7b\n\x7d\n"

/-- The function with a statement in it. -/
def filledFunction : Text := "int f(void)\n\x7b\nx;\n\x7d\n"

/-- The function with an empty body, in CR LF. -/
def emptiedFunction : Text := "int f(void)\r\n\x7b\r\n\x7d\r\n"

/-- Two lines on which the function can be found. -/
def doubledHeader : Text := "int f(void)\nint f(void)\n"

/-- No function at all. -/
def bareVariable : Text := "int n;\n"

/-- Texts for the four outcomes. -/
theorem applyPatch_outcomes_emptyBody :
    (∃ p, applyPatch filledFunction emptyBodyPatch = .ok p ∧ p.text ≠ filledFunction) ∧
    (∃ x, x ≠ [] ∧ x <:+: emptiedFunction ∧ Respelled emptyBodyPatch.inserted x) ∧
    (applyPatch doubledHeader emptyBodyPatch).mapError PatchFailure.code =
      .error .anchorAmbiguous ∧
    ∀ x, FirstSpelling bareVariable emptyBodyPatch.inserted x →
      ¬ ∃! i, OccursAt x bareVariable i := by
  have happlied : applyPatch filledFunction emptyBodyPatch =
      .ok ⟨emptyBodyPatch.replacement, ⟨1, 4⟩⟩ := by decide +kernel
  have hcopied : (applyPatch emptiedFunction emptyBodyPatch).mapError PatchFailure.code =
      .error .alreadyApplied := by decide +kernel
  have hdoubled : (locate doubledHeader emptyBodyPatch.locator).mapError LocateFailure.code =
      .error .anchorAmbiguous := by decide +kernel
  have hmissing : (applyPatch bareVariable emptyBodyPatch).mapError PatchFailure.code =
      .error .anchorNotFound := by decide +kernel
  have hreturns : ¬ HasDoubledReturn emptyBodyPatch.replacement := by
    unfold HasDoubledReturn
    decide +kernel
  obtain ⟨hchanges, -, -, -⟩ := applyPatch_outcomes filledFunction emptyBodyPatch
  obtain ⟨-, hcopy, -, -⟩ := applyPatch_outcomes emptiedFunction emptyBodyPatch
  obtain ⟨-, -, hambiguous, -⟩ := applyPatch_outcomes doubledHeader emptyBodyPatch
  obtain ⟨-, -, -, habsent⟩ := applyPatch_outcomes bareVariable emptyBodyPatch
  obtain ⟨x, hne, hin, -, hrespelled⟩ := hcopy hcopied
  refine ⟨⟨_, happlied, hchanges _ ?_⟩, ⟨x, hne, hin, hrespelled hreturns⟩,
    hambiguous.2 hdoubled, (habsent.1 hmissing).2⟩
  rw [happlied]
  rfl

end Remedy
