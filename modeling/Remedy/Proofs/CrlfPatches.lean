import Remedy.Proofs.CrlfTexts
import Remedy.Proofs.ExactPatches

/-!
# Exact patches in CR LF

An exact patch is searched for in several spellings and written in the line ending of the place that
is found, so that a plan written with bare line feeds fits a text in CR LF. It does the same there
as in the text itself (`exact_patch_sameInCrlf_iff`) with one exception: an anchor that starts with
its only line break is found as it is written, between the two units of a line break.
-/

namespace Remedy

/-! ## Searching -/

theorem findAll_expandLineBreaks {x : Text} (hx : 0x0D ∉ x) (t : Text) :
    findAll (expandLineBreaks t) (expandLineBreaks x) = (findAll t x).map (crlfOffset t) := by
  refine findAll_eq_map (fun i j => crlfOffset_lt) fun j => ?_
  rcases eq_or_ne x [] with rfl | hne
  · simp [findAll]
  · have hlast : x.getLast? ≠ some 0x0D := fun hl => hx (List.mem_of_getLast? hl)
    simp only [mem_findAll, occursAt_expandLineBreaks_iff hne hlast, ne_eq,
      expandLineBreaks_eq_nil_iff, hne, not_false_eq_true, true_and, @eq_comm _ j]

theorem LeadsWithBreak.findAll_eq {x : Text} (h : LeadsWithBreak x) (hx : 0x0D ∉ x) (t : Text) :
    findAll (expandLineBreaks t) x = (findAll t x).map fun i => crlfOffset t i + 1 := by
  refine findAll_eq_map (fun i j hij hj => Nat.succ_lt_succ (crlfOffset_lt hij hj)) fun j => ?_
  simp only [mem_findAll, h.occursAt_iff hx]
  constructor
  · rintro ⟨hne, i, hi, rfl⟩
    exact ⟨i, ⟨hne, hi⟩, rfl⟩
  · rintro ⟨i, ⟨hne, hi⟩, rfl⟩
    exact ⟨hne, i, hi, rfl⟩

theorem findAll_bare_eq_nil {x : Text} (hx : 0x0D ∉ x) (hlf : 0x0A ∈ x) (h : ¬ LeadsWithBreak x)
    (t : Text) : findAll (expandLineBreaks t) x = [] :=
  List.eq_nil_iff_forall_not_mem.2 fun _ hi =>
    h (leadsWithBreak_of_occursAt hx hlf (mem_findAll.1 hi).2)

theorem findAll_crlf_eq_nil {x t : Text} (hlf : 0x0A ∈ x) (ht : 0x0D ∉ t) :
    findAll t (expandLineBreaks x) = [] := by
  refine List.eq_nil_iff_forall_not_mem.2 fun i hi => ?_
  obtain ⟨before, after, rfl, -⟩ := (mem_findAll.1 hi).2
  exact ht (by simp [mem_expandLineBreaks_cr hlf])

/-! ## Spellings -/

theorem spellings_plain {x : Text} (hx : 0x0D ∉ x) (t : Text) :
    spellings x t = if 0x0A ∈ x then [x, expandLineBreaks x] else [x] := by
  have hne (h : 0x0A ∈ x) : expandLineBreaks x ≠ x := fun he =>
    hx (he ▸ mem_expandLineBreaks_cr h)
  split_ifs with hlf
  · cases h : detectLineEnding t <;>
      simp [spellings, h, LineEnding.other, toLineEnding_lf hx, toLineEnding_crlf hx, distinct,
        hne hlf, (hne hlf).symm]
  · cases h : detectLineEnding t <;>
      simp [spellings, h, LineEnding.other, toLineEnding_lf hx, toLineEnding_crlf hx, distinct,
        expandLineBreaks_eq_self hlf]

theorem findFirstSpelling_plain {x : Text} (hx : 0x0D ∉ x) (u : Text) :
    findFirstSpelling u x =
      if 0x0A ∈ x ∧ findAll u x = [] then ⟨expandLineBreaks x, findAll u (expandLineBreaks x)⟩
      else ⟨x, findAll u x⟩ := by
  rw [findFirstSpelling, spellings_plain hx]
  by_cases hlf : 0x0A ∈ x
  · simp only [hlf, if_true, firstOccurring, List.isEmpty_iff, true_and]
  · simp only [hlf, if_false, firstOccurring, false_and]

theorem findFirstSpelling_in_plain {x t : Text} (hx : 0x0D ∉ x) (ht : 0x0D ∉ t) :
    (findFirstSpelling t x).offsets = findAll t x ∧
      (findAll t x ≠ [] → (findFirstSpelling t x).needle = x) := by
  rw [findFirstSpelling_plain hx]
  split_ifs with h
  · exact ⟨by rw [h.2, findAll_crlf_eq_nil h.1 ht], fun hne => absurd h.2 hne⟩
  · exact ⟨rfl, fun _ => rfl⟩

theorem findFirstSpelling_crlf {x : Text} (hx : 0x0D ∉ x) (h : ¬ LeadsWithBreak x) (t : Text) :
    findFirstSpelling (expandLineBreaks t) x =
      ⟨expandLineBreaks x, (findAll t x).map (crlfOffset t)⟩ := by
  rw [findFirstSpelling_plain hx, ← findAll_expandLineBreaks hx]
  by_cases hlf : 0x0A ∈ x
  · rw [if_pos ⟨hlf, findAll_bare_eq_nil hx hlf h t⟩]
  · rw [if_neg (by simp [hlf]), expandLineBreaks_eq_self hlf]

theorem LeadsWithBreak.findFirstSpelling_crlf {x t : Text} (h : LeadsWithBreak x) (hx : 0x0D ∉ x)
    (hfound : findAll t x ≠ []) :
    findFirstSpelling (expandLineBreaks t) x =
      ⟨x, (findAll t x).map fun i => crlfOffset t i + 1⟩ := by
  rw [findFirstSpelling_plain hx, h.findAll_eq hx, if_neg (by simp [hfound])]

/-- A fragment is found equally often. -/
theorem length_findFirstSpelling_crlf {x : Text} (hx : 0x0D ∉ x) (t : Text) :
    (findFirstSpelling (expandLineBreaks t) x).offsets.length = (findAll t x).length := by
  by_cases h : LeadsWithBreak x
  · by_cases hfound : findAll t x = []
    · have hlf : 0x0A ∈ x := List.mem_of_mem_head? h.1
      simp [findFirstSpelling_plain hx, h.findAll_eq hx, findAll_expandLineBreaks hx, hfound, hlf]
    · rw [h.findFirstSpelling_crlf hx hfound, List.length_map]
  · rw [Remedy.findFirstSpelling_crlf hx h, List.length_map]

/-! ## Copies of the replacement -/

theorem copyAround_plain_iff {t r : Text} (ht : 0x0D ∉ t) (hr : 0x0D ∉ r) {start stop : Nat} :
    CopyAround t r start stop ↔
      r ≠ [] ∧ ∃ k, OccursAt r t k ∧ k ≤ start ∧ stop ≤ k + r.length := by
  constructor
  · rintro ⟨copy, hcopy, hne, k, hk, hle⟩
    obtain rfl : copy = r := by
      rcases mem_spellings.1 hcopy with rfl | rfl | rfl
      · rfl
      · exact toLineEnding_lf hr
      · rw [toLineEnding_crlf hr] at hne hk ⊢
        by_contra hdiff
        have hlf : 0x0A ∈ r := by
          by_contra hlf
          exact hdiff (expandLineBreaks_eq_self hlf)
        have hk := mem_findAll.2 ⟨hne, hk⟩
        simp [findAll_crlf_eq_nil hlf ht] at hk
    exact ⟨hne, k, hk, hle⟩
  · rintro ⟨hne, k, hk, hle⟩
    exact ⟨r, mem_spellings.2 (.inl rfl), hne, k, hk, hle⟩

/-- Around a place in CR LF, in whichever spelling the replacement is given, stand copies of it in
CR LF. -/
theorem copyAround_crlf_iff {t r y : Text} (hr : 0x0D ∉ r) (hy : y = r ∨ y = expandLineBreaks r)
    {start stop : Nat} :
    CopyAround (expandLineBreaks t) y start stop ↔
      r ≠ [] ∧ ∃ k, OccursAt r t k ∧ crlfOffset t k ≤ start ∧
        stop ≤ crlfOffset t k + (expandLineBreaks r).length := by
  have hspell (x : Text) :
      x ∈ spellings y (expandLineBreaks t) ↔ x = r ∨ x = expandLineBreaks r := by
    rw [mem_spellings]
    rcases hy with rfl | rfl
    · rw [toLineEnding_lf hr, toLineEnding_crlf hr]
      tauto
    · simp only [toLineEnding, unifyLineBreaks_expandLineBreaks]
      tauto
  have hlast : r.getLast? ≠ some 0x0D := fun hl => hr (List.mem_of_getLast? hl)
  constructor
  · rintro ⟨copy, hcopy, hne, j, hj, hstart, hstop⟩
    have hrne : r ≠ [] := by
      rintro rfl
      rcases (hspell copy).1 hcopy with rfl | rfl <;> exact hne rfl
    refine ⟨hrne, ?_⟩
    rcases (hspell copy).1 hcopy with rfl | rfl
    · by_cases hlf : 0x0A ∈ copy
      · -- a copy with bare line feeds stands in one with CR LF
        have hleads := leadsWithBreak_of_occursAt hr hlf hj
        obtain ⟨k, hk, rfl⟩ := (hleads.occursAt_iff hr).1 hj
        refine ⟨k, hk, by omega, ?_⟩
        rw [hleads.expandLineBreaks_eq, List.length_cons]
        omega
      · rw [← expandLineBreaks_eq_self hlf] at hj
        obtain ⟨k, hk, rfl⟩ := (occursAt_expandLineBreaks_iff hrne hlast).1 hj
        exact ⟨k, hk, hstart, by rwa [expandLineBreaks_eq_self hlf]⟩
    · obtain ⟨k, hk, rfl⟩ := (occursAt_expandLineBreaks_iff hrne hlast).1 hj
      exact ⟨k, hk, hstart, hstop⟩
  · rintro ⟨hne, k, hk, hstart, hstop⟩
    exact ⟨expandLineBreaks r, (hspell _).2 (.inr rfl), mt expandLineBreaks_eq_nil_iff.1 hne,
      crlfOffset t k, (occursAt_expandLineBreaks_iff hne hlast).2 ⟨k, hk, rfl⟩, hstart, hstop⟩

theorem OccursAt.crlfOffset_add_length {x t : Text} {i : Nat} (h : OccursAt x t i) :
    crlfOffset t (i + x.length) = crlfOffset t i + (expandLineBreaks x).length := by
  obtain ⟨before, after, rfl, rfl⟩ := h
  rw [crlfOffset_add]
  simp

/-- A copy covers a place in CR LF exactly when it covers the place in the text. The place may start
at either unit of a line break. -/
theorem copyAround_crlf_iff_plain {t r y x : Text} (ht : 0x0D ∉ t) (hr : 0x0D ∉ r)
    (hy : y = r ∨ y = expandLineBreaks r) {i start : Nat} (hi : OccursAt x t i) (hne : x ≠ [])
    (hlow : crlfOffset t i ≤ start) (hhigh : start < crlfOffset t (i + 1)) :
    CopyAround (expandLineBreaks t) y start (crlfOffset t (i + x.length)) ↔
      CopyAround t r i (i + x.length) := by
  rw [copyAround_crlf_iff hr hy, copyAround_plain_iff ht hr]
  have hend := hi.add_length_le
  have hpos := List.length_pos_iff.2 hne
  refine and_congr_right fun _ => exists_congr fun k => and_congr_right fun hk => ?_
  have hkend := hk.add_length_le
  rw [← hk.crlfOffset_add_length, crlfOffset_le_iff hend hkend]
  refine and_congr_left fun _ => ⟨fun h => ?_, fun h => ?_⟩
  · by_contra hlt
    have := (crlfOffset_le_iff (t := t) (i := i + 1) (j := k) (by omega) (by omega)).2 (by omega)
    omega
  · have := (crlfOffset_le_iff (t := t) (i := k) (j := i) (by omega) (by omega)).2 h
    omega

/-! ## The two outcomes -/

/-- A patched text with all its line breaks written in one ending. -/
def Patched.inEnding (ending : LineEnding) (p : Patched) : Patched :=
  ⟨toLineEnding p.text ending, p.span⟩

/-- The outcome in CR LF is that of the plain text: a failure with the same code, or the same lines
replaced and the same text but for its line endings. -/
def SameInCrlf (plain crlf : Except PatchFailure Patched) : Prop :=
  crlf.mapError PatchFailure.code = (plain.map (Patched.inEnding .crlf)).mapError PatchFailure.code

theorem leadsWithBreak_iff_expandLineBreaks {x : Text} (hx : 0x0D ∉ x) :
    expandLineBreaks x = 0x0D :: x ↔ LeadsWithBreak x := by
  refine ⟨fun h => ?_, LeadsWithBreak.expandLineBreaks_eq⟩
  cases x with
  | nil => simp at h
  | cons c x =>
    by_cases hc : c = 0x0A
    · subst hc
      have hself : expandLineBreaks x = x := by simpa using h
      rw [List.mem_cons, not_or] at hx
      exact leadsWithBreak_iff.2 ⟨x, rfl, fun hlf => hx.2 (hself ▸ mem_expandLineBreaks_cr hlf)⟩
    · rw [expandLineBreaks_cons hc, List.cons.injEq] at h
      exact absurd (List.mem_cons.2 (.inl h.1.symm)) hx

section ExactPatch

variable {t anchor : Text} {spec : PatchSpec} (hs : spec.locator = .exact anchor)
  (ht : 0x0D ∉ t) (ha : 0x0D ∉ anchor) (hr : 0x0D ∉ spec.replacement)

include hs ht ha hr

/-- Where the anchor is not found once, the patch fails for the same reason. -/
theorem sameInCrlf_of_not_single (h : (findAll t anchor).length ≠ 1) :
    SameInCrlf (applyPatch t spec) (applyPatch (expandLineBreaks t) spec) := by
  have hplain : (findFirstSpelling t anchor).offsets.length ≠ 1 := by
    rwa [(findFirstSpelling_in_plain ha ht).1]
  have hcrlf : (findFirstSpelling (expandLineBreaks t) anchor).offsets.length ≠ 1 := by
    rwa [length_findFirstSpelling_crlf ha]
  have hcode := applyPatch_of_not_single hs hplain
  have hcode' := applyPatch_of_not_single hs hcrlf
  rw [length_findFirstSpelling_crlf ha, length_findFirstSpelling_crlf hr] at hcode'
  rw [(findFirstSpelling_in_plain ha ht).1, (findFirstSpelling_in_plain hr ht).1] at hcode
  rw [SameInCrlf, hcode', ← hcode]
  cases hp : applyPatch t spec with
  | error failure => rfl
  | ok p =>
    rw [hp] at hcode
    simp [Except.mapError] at hcode

omit ha in
/-- A patch at the place where the anchor is found, which in CR LF may start at either unit of a
line break. -/
theorem applyAt_crlf {i start n : Nat} {y : Text} (hi : OccursAt anchor t i) (hne : anchor ≠ [])
    (hstart : start = crlfOffset t i ∨ start = crlfOffset t i + 1 ∧ t[i]? = some 0x0A)
    (hstop : start + n = crlfOffset t (i + anchor.length))
    (hinserted : spec.insertedAt (expandLineBreaks t) (matchAt (expandLineBreaks t) start n) = y)
    (hy : y = spec.replacement ∨ y = expandLineBreaks spec.replacement) :
    applyAt (expandLineBreaks t) spec (matchAt (expandLineBreaks t) start n) =
      if coveredByReplacement t spec.replacement i (i + anchor.length) then
        .error (.alreadyApplied spec.id)
      else .ok ⟨(expandLineBreaks t).take start ++ y ++
          expandLineBreaks (t.drop (i + anchor.length)), (matchAt t i anchor.length).span⟩ := by
  have hpos := List.length_pos_iff.2 hne
  have hend := hi.add_length_le
  have hit : i < t.length := by omega
  have hlines : lineAt (lineStarts (expandLineBreaks t)) start = lineAt (lineStarts t) i := by
    rcases hstart with rfl | ⟨rfl, hlf⟩
    · exact lineAt_crlfOffset hit
    · exact lineAt_crlfOffset_lf hlf
  have hspan : (matchAt (expandLineBreaks t) start n).span = (matchAt t i anchor.length).span := by
    have hlast := lineAt_pred_crlfOffset_succ (show i + anchor.length - 1 < t.length by omega)
    rw [show i + anchor.length - 1 + 1 = i + anchor.length by omega, ← hstop] at hlast
    simp only [matchAt, hlines, hlast]
    congr 2
    omega
  have hbounds : crlfOffset t i ≤ start ∧ start < crlfOffset t (i + 1) := by
    have := crlfOffset_lt (Nat.lt_add_one i) hit
    rcases hstart with rfl | ⟨rfl, hlf⟩
    · omega
    · have := crlfOffset_succ_of_lf hlf
      omega
  have hcovered :
      coveredByReplacement (expandLineBreaks t) y start (crlfOffset t (i + anchor.length)) =
        coveredByReplacement t spec.replacement i (i + anchor.length) := by
    rw [Bool.eq_iff_iff, coveredByReplacement_iff, coveredByReplacement_iff]
    exact copyAround_crlf_iff_plain ht hr hy hi hne hbounds.1 hbounds.2
  rw [applyAt_eq, hinserted, hspan]
  simp only [PatchSpec.appliedAt, hs, hinserted]
  simp only [matchAt, hstop, hcovered, drop_crlfOffset]

theorem applyPatch_plain {i : Nat} (h : findAll t anchor = [i]) :
    applyPatch t spec =
      if coveredByReplacement t spec.replacement i (i + anchor.length) then
        .error (.alreadyApplied spec.id)
      else .ok ⟨t.take i ++ spec.replacement ++ t.drop (i + anchor.length),
        (matchAt t i anchor.length).span⟩ := by
  obtain ⟨hoff, hneedle⟩ := findFirstSpelling_in_plain ha ht
  obtain ⟨hne, hi⟩ := mem_findAll.1 (h ▸ List.mem_singleton_self i)
  rw [applyPatch_of_single hs (hoff.trans h), hneedle (by simp [h]), applyAt_eq]
  simp only [PatchSpec.appliedAt, PatchSpec.insertedAt, hs, matchAt, lineEndingAt_plain ht,
    toLineEnding_lf hr]

/-- An anchor with no line break, or with one that is not its first unit, is replaced in CR LF. -/
theorem applyPatch_crlf {i : Nat} (hlf : 0x0A ∈ t) (h : findAll t anchor = [i])
    (hleads : ¬ LeadsWithBreak anchor) :
    applyPatch (expandLineBreaks t) spec =
      if coveredByReplacement t spec.replacement i (i + anchor.length) then
        .error (.alreadyApplied spec.id)
      else .ok ⟨expandLineBreaks (t.take i ++ spec.replacement ++ t.drop (i + anchor.length)),
        (matchAt t i anchor.length).span⟩ := by
  obtain ⟨hne, hi⟩ := mem_findAll.1 (h ▸ List.mem_singleton_self i)
  have hfound := findFirstSpelling_crlf ha hleads t
  have hstop := hi.crlfOffset_add_length
  have hending := lineEndingAt_expandLineBreaks hlf (Nat.le_add_right i anchor.length)
  rw [applyPatch_of_single hs (by rw [hfound, h]; rfl), hfound]
  rw [applyAt_crlf hs ht hr hi hne (.inl rfl) hstop.symm ?_ (.inr rfl)]
  · simp only [take_crlfOffset, expandLineBreaks_append]
  · simp only [PatchSpec.insertedAt, hs, matchAt, ← hstop, hending, toLineEnding_crlf hr]

/-- An anchor whose one line break comes first is found behind a carriage return, which stays, and
the replacement keeps its bare line feeds. -/
theorem applyPatch_crlf_of_leads {i : Nat} (h : findAll t anchor = [i])
    (hleads : LeadsWithBreak anchor) :
    applyPatch (expandLineBreaks t) spec =
      if coveredByReplacement t spec.replacement i (i + anchor.length) then
        .error (.alreadyApplied spec.id)
      else .ok ⟨expandLineBreaks (t.take i) ++ 0x0D :: spec.replacement ++
          expandLineBreaks (t.drop (i + anchor.length)), (matchAt t i anchor.length).span⟩ := by
  obtain ⟨hne, hi⟩ := mem_findAll.1 (h ▸ List.mem_singleton_self i)
  have hfound := hleads.findFirstSpelling_crlf ha (t := t) (by simp [h])
  have hstop : crlfOffset t i + 1 + anchor.length = crlfOffset t (i + anchor.length) := by
    rw [hi.crlfOffset_add_length, hleads.expandLineBreaks_eq, List.length_cons]
    omega
  have hat : t[i]? = some 0x0A := by
    obtain ⟨before, after, rfl, rfl⟩ := hi
    obtain ⟨rest, rfl, -⟩ := leadsWithBreak_iff.1 hleads
    simp
  have hocc : OccursAt anchor (expandLineBreaks t) (crlfOffset t i + 1) :=
    (hleads.occursAt_iff ha).2 ⟨i, hi, rfl⟩
  have hending : lineEndingAt (expandLineBreaks t) (crlfOffset t i + 1)
      (crlfOffset t i + 1 + anchor.length) = .lf := by
    unfold lineEndingAt
    dsimp only
    rw [hocc.slice_eq, if_pos (List.mem_of_mem_head? hleads.1), detectLineEnding_plain ha]
  have htake : (expandLineBreaks t).take (crlfOffset t i + 1) =
      expandLineBreaks (t.take i) ++ [0x0D] := by
    obtain ⟨hlt, hc⟩ := List.getElem?_eq_some_iff.1 hat
    rw [List.take_add, take_crlfOffset, drop_crlfOffset, List.drop_eq_getElem_cons hlt, hc]
    rfl
  rw [applyPatch_of_single hs (by rw [hfound, h]; rfl), hfound]
  rw [applyAt_crlf hs ht hr hi hne (.inr ⟨rfl, hat⟩) hstop ?_ (.inl rfl), htake]
  · simp only [List.append_assoc, List.cons_append, List.nil_append]
  · simp only [PatchSpec.insertedAt, hs, matchAt, hending, toLineEnding_lf hr]

/-- What it means that the patch applies. -/
theorem single_of_ok {p : Patched} (hp : applyPatch t spec = .ok p) :
    ∃ i, findAll t anchor = [i] ∧
      coveredByReplacement t spec.replacement i (i + anchor.length) = false ∧
      p = ⟨t.take i ++ spec.replacement ++ t.drop (i + anchor.length),
        (matchAt t i anchor.length).span⟩ := by
  have hsingle : (findAll t anchor).length = 1 := by
    by_contra h
    have hcode := applyPatch_of_not_single hs (by rwa [(findFirstSpelling_in_plain ha ht).1])
    simp [hp, Except.mapError] at hcode
  obtain ⟨i, hi⟩ := List.length_eq_one_iff.1 hsingle
  rw [applyPatch_plain hs ht ha hr hi] at hp
  split_ifs at hp with hcovered
  exact ⟨i, hi, by simpa using hcovered, (Except.ok.inj hp).symm⟩

/-- A failure is a failure for the same reason. -/
theorem sameInCrlf_of_error (hlf : 0x0A ∈ t) {failure : PatchFailure}
    (hp : applyPatch t spec = .error failure) :
    SameInCrlf (applyPatch t spec) (applyPatch (expandLineBreaks t) spec) := by
  by_cases hsingle : (findAll t anchor).length = 1
  · obtain ⟨i, hi⟩ := List.length_eq_one_iff.1 hsingle
    have hplain := applyPatch_plain hs ht ha hr hi
    have hcovered : coveredByReplacement t spec.replacement i (i + anchor.length) = true := by
      by_contra h
      simp [hplain, h] at hp
    rw [SameInCrlf, hplain, if_pos hcovered]
    by_cases hleads : LeadsWithBreak anchor
    · rw [applyPatch_crlf_of_leads hs ht ha hr hi hleads, if_pos hcovered]
      rfl
    · rw [applyPatch_crlf hs ht ha hr hlf hi hleads, if_pos hcovered]
      rfl
  · exact sameInCrlf_of_not_single hs ht ha hr hsingle

end ExactPatch

/-- An exact patch does the same to a text in CR LF as to the text itself, unless it applies, the
only line break of its anchor is the first unit and the replacement is not of that form. Whenever
such an anchor is replaced, the carriage return before it stays and the replacement is written with
bare line feeds. -/
theorem exact_patch_sameInCrlf_iff {t anchor : Text} {spec : PatchSpec}
    (hs : spec.locator = .exact anchor) (ht : 0x0D ∉ t) (hlf : 0x0A ∈ t) (ha : 0x0D ∉ anchor)
    (hr : 0x0D ∉ spec.replacement) :
    (SameInCrlf (applyPatch t spec) (applyPatch (toLineEnding t .crlf) spec) ↔
      ¬ ((∃ p, applyPatch t spec = .ok p) ∧ LeadsWithBreak anchor ∧
        ¬ LeadsWithBreak spec.replacement)) ∧
    ∀ p, applyPatch t spec = .ok p → LeadsWithBreak anchor →
      ∃ before after, t = before ++ anchor ++ after ∧
        p.text = before ++ spec.replacement ++ after ∧
        applyPatch (toLineEnding t .crlf) spec =
          .ok ⟨toLineEnding before .crlf ++ 0x0D :: spec.replacement ++ toLineEnding after .crlf,
            p.span⟩ := by
  rw [toLineEnding_crlf ht]
  cases hp : applyPatch t spec with
  | error failure =>
    have hsame := sameInCrlf_of_error hs ht ha hr hlf hp
    rw [hp] at hsame
    exact ⟨iff_of_true hsame (by simp), by simp⟩
  | ok p =>
    obtain ⟨i, hi, hcovered, rfl⟩ := single_of_ok hs ht ha hr hp
    have hocc := (mem_findAll.1 (hi ▸ List.mem_singleton_self i)).2
    have hbefore : 0x0D ∉ t.take i := fun h => ht (List.mem_of_mem_take h)
    have hafter : 0x0D ∉ t.drop (i + anchor.length) := fun h => ht (List.mem_of_mem_drop h)
    have hpatched : 0x0D ∉ t.take i ++ spec.replacement ++ t.drop (i + anchor.length) := by
      simp [hbefore, hafter, hr]
    by_cases hleads : LeadsWithBreak anchor
    · have hcrlf := applyPatch_crlf_of_leads hs ht ha hr hi hleads
      rw [if_neg (by simp [hcovered])] at hcrlf
      refine ⟨?_, fun p' hp' _ => ?_⟩
      · -- the two texts agree exactly when the carriage return completes the replacement
        have htexts := leadsWithBreak_iff_expandLineBreaks hr
        simp only [SameInCrlf, hcrlf, Except.map, Except.mapError, Patched.inEnding,
          toLineEnding_crlf hpatched, expandLineBreaks_append, Except.ok.injEq, Patched.mk.injEq,
          and_true, List.append_cancel_right_eq, List.append_cancel_left_eq, ← htexts, hleads]
        simp [eq_comm]
      · obtain rfl := Except.ok.inj hp'
        exact ⟨_, _, hocc.take_drop, rfl,
          by rw [hcrlf, toLineEnding_crlf hbefore, toLineEnding_crlf hafter]⟩
    · have hcrlf := applyPatch_crlf hs ht ha hr hlf hi hleads
      rw [if_neg (by simp [hcovered])] at hcrlf
      refine ⟨iff_of_true ?_ (by simp [hleads]), fun _ _ h => absurd h hleads⟩
      simp only [SameInCrlf, hcrlf, Except.map, Except.mapError, Patched.inEnding,
        toLineEnding_crlf hpatched]

/-! ## A replacement of a call -/

/-- A line of code with another one before it. -/
def twoCalls : Text := "open(p);\ngets(s);\n"

theorem exact_patch_sameInCrlf_twoCalls :
    SameInCrlf (applyPatch twoCalls (replaceText "gets(s);\n" "get(s);\nput(s);\n"))
      (applyPatch (toLineEnding twoCalls .crlf)
        (replaceText "gets(s);\n" "get(s);\nput(s);\n")) := by
  refine (exact_patch_sameInCrlf_iff rfl (by decide) (by decide) (by decide) (by decide)).1.2 ?_
  rintro ⟨-, h, -⟩
  exact absurd h (by decide)

/-- With the line break before the call in the anchor, the text in CR LF is left with bare line
feeds and the text itself is not. -/
theorem exact_patch_mixes_lineEndings :
    let spec := replaceText "\ngets(s);" "\nget(s);\nput(s);"
    (applyPatch twoCalls spec).map Patched.text =
        .ok "open(p);\nget(s);\nput(s);\n" ∧
      (applyPatch (toLineEnding twoCalls .crlf) spec).map Patched.text =
        .ok "open(p);\r\nget(s);\nput(s);\r\n" ∧
      ¬ SameInCrlf (applyPatch twoCalls spec) (applyPatch (toLineEnding twoCalls .crlf) spec) := by
  refine ⟨rfl, rfl, fun h => ?_⟩
  have htexts : some (Text.ofString "open(p);\r\nget(s);\nput(s);\r\n") =
      some (Text.ofString "open(p);\r\nget(s);\r\nput(s);\r\n") :=
    congrArg (fun outcome => outcome.toOption.map Patched.text) h
  exact absurd htexts (by decide)

end Remedy
