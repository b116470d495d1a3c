import Remedy.Proofs.ByteTexts
import Remedy.Proofs.ExactPatches

/-!
# Exact patches on bytes

An exact patch does the same to a text and to its bytes: it finds its anchor in the same places, in
the same spelling, and puts the replacement there in the same line ending. So it makes no difference
to the bytes of a file which of the two the file is held as (`exact_patch_in_bytes`).
-/

namespace Remedy

open Text

/-! ## Searching -/

theorem findAll_byteText {t x : Text} (ht : WellFormed t) (hx : WellFormed x) :
    findAll (byteText t) (byteText x) = (findAll t x).map (byteOffset t) := by
  refine findAll_eq_map_of_mem (fun i hi j hj hij => ?_) fun j => ?_
  · obtain ⟨hne, hi⟩ := mem_findAll.1 hi
    have hj := (mem_findAll.1 hj).2
    have hlength := hj.add_length_le
    exact byteOffset_lt (hi.wellFormed_take ht hx hne).1 (hj.wellFormed_take ht hx hne).1 hij
      (by omega)
  · simp only [mem_findAll, ne_eq, byteText_eq_nil_iff hx]
    constructor
    · rintro ⟨hne, hj⟩
      obtain ⟨i, hi, rfl⟩ := (occursAt_byteText_iff ht hx hne).1 hj
      exact ⟨i, ⟨hne, hi⟩, rfl⟩
    · rintro ⟨i, ⟨hne, hi⟩, rfl⟩
      exact ⟨hne, (occursAt_byteText_iff ht hx hne).2 ⟨i, hi, rfl⟩⟩

theorem distinct_map {α β : Type} [BEq α] [LawfulBEq α] [BEq β] [LawfulBEq β] {f : α → β}
    {as : List α} (hf : ∀ a ∈ as, ∀ b ∈ as, f a = f b → a = b) :
    distinct (as.map f) = (distinct as).map f := by
  have collect : ∀ seen : List α, (∀ a ∈ as, ∀ b ∈ seen, f a = f b → a = b) →
      (as.map f).foldl (fun seen b => if seen.contains b then seen else b :: seen) (seen.map f) =
        (as.foldl (fun seen a => if seen.contains a then seen else a :: seen) seen).map f := by
    induction as with
    | nil => exact fun _ _ => rfl
    | cons a as ih =>
      intro seen hseen
      simp only [List.forall_mem_cons] at hf hseen
      have hcontains : (seen.map f).contains (f a) = seen.contains a := by
        rw [Bool.eq_iff_iff, List.contains_iff_mem, List.contains_iff_mem, List.mem_map]
        constructor
        · rintro ⟨b, hb, hfb⟩
          rwa [hseen.1 b hb hfb.symm]
        · exact fun h => ⟨a, h, rfl⟩
      rw [List.map_cons, List.foldl_cons, List.foldl_cons, hcontains]
      split_ifs
      · exact ih (fun a ha b hb => (hf.2 a ha).2 b hb) seen hseen.2
      · refine ih (fun a ha b hb => (hf.2 a ha).2 b hb) (a :: seen) fun b hb => ?_
        rw [List.forall_mem_cons]
        exact ⟨(hf.2 b hb).1, hseen.2 b hb⟩
  rw [distinct, distinct, List.map_reverse, ← collect [] (by simp)]
  rfl

theorem spellings_byteText {t x : Text} (ht : WellFormed t) (hx : WellFormed x) :
    spellings (byteText x) (byteText t) = (spellings x t).map byteText := by
  have hwell : ∀ y ∈ [x, toLineEnding x (detectLineEnding t),
      toLineEnding x (detectLineEnding t).other], WellFormed y := by
    simp only [List.forall_mem_cons]
    exact ⟨hx, hx.toLineEnding _, hx.toLineEnding _, by simp⟩
  rw [spellings, spellings, ← distinct_map fun a ha b hb =>
    byteText_injective (hwell a ha) (hwell b hb)]
  simp only [detectLineEnding_byteText ht, toLineEnding_byteText hx, List.map_cons, List.map_nil]

/-- Where the bytes of a text are found. -/
def Occurrences.inBytes (t : Text) (o : Occurrences) : Occurrences :=
  ⟨byteText o.needle, o.offsets.map (byteOffset t)⟩

theorem firstOccurring_byteText {t : Text} (ht : WellFormed t) {needles : List Text}
    (h : ∀ x ∈ needles, WellFormed x) :
    firstOccurring (byteText t) (needles.map byteText) =
      (firstOccurring t needles).inBytes t := by
  fun_induction firstOccurring t needles with
  | case1 => rfl
  | case2 x =>
    rw [List.map_singleton, firstOccurring, findAll_byteText ht (h x (by simp))]
    rfl
  | case3 x needles hne offsets hoff ih =>
    rw [List.forall_mem_cons] at h
    obtain ⟨y, needles, rfl⟩ := List.exists_cons_of_ne_nil hne
    rw [List.map_cons, List.map_cons, firstOccurring, if_pos, ← List.map_cons, ih h.2]
    · rw [findAll_byteText ht h.1, List.isEmpty_map]
      exact hoff
    · simp
  | case4 x needles hne offsets hoff =>
    rw [List.forall_mem_cons] at h
    obtain ⟨y, needles, rfl⟩ := List.exists_cons_of_ne_nil hne
    rw [List.map_cons, List.map_cons, firstOccurring, findAll_byteText ht h.1, if_neg]
    · rfl
    · rwa [List.isEmpty_map]
    · simp

theorem findFirstSpelling_byteText {t x : Text} (ht : WellFormed t) (hx : WellFormed x) :
    findFirstSpelling (byteText t) (byteText x) = (findFirstSpelling t x).inBytes t := by
  rw [findFirstSpelling, spellings_byteText ht hx,
    firstOccurring_byteText ht fun y hy => hx.of_mem_spellings hy]
  rfl

/-! ## One place -/

section Place

variable {t x : Text} {i : Nat} (ht : WellFormed t) (hx : WellFormed x) (hne : x ≠ [])
  (hi : OccursAt x t i)
include ht hx hne hi

theorem lineEndingAt_byteText :
    lineEndingAt (byteText t) (byteOffset t i) (byteOffset t i + (byteText x).length) =
      lineEndingAt t i (i + x.length) := by
  have hbytes := (occursAt_byteText_iff ht hx hne).2 ⟨i, hi, rfl⟩
  unfold lineEndingAt
  dsimp only
  rw [hbytes.slice_eq, hi.slice_eq, detectLineEnding_byteText hx, detectLineEnding_byteText ht]
  simp only [mem_lf_byteText hx]

theorem span_matchAt_byteText :
    (matchAt (byteText t) (byteOffset t i) (byteText x).length).span =
      (matchAt t i x.length).span := by
  have hpos := List.length_pos_iff.2 hne
  have hlength := hi.add_length_le
  obtain ⟨hstart, hstop⟩ := hi.wellFormed_take ht hx hne
  unfold matchAt
  dsimp only
  rw [lineAt_byteOffset ht hstart (by omega), ← hi.byteOffset_add_length ht hx hne,
    lineAt_pred_byteOffset ht hstop (by omega) hlength]

/-- A copy covers the bytes of a place just if it covers the place. -/
theorem copyAround_byteText_iff {r : Text} (hr : WellFormed r) :
    CopyAround (byteText t) (byteText r) (byteOffset t i)
        (byteOffset t i + (byteText x).length) ↔ CopyAround t r i (i + x.length) := by
  have hlength := hi.add_length_le
  obtain ⟨hstart, hstop⟩ := hi.wellFormed_take ht hx hne
  rw [← hi.byteOffset_add_length ht hx hne, CopyAround, spellings_byteText ht hr]
  -- a copy at some offset covers the bytes as it covers the units
  have hcovers {c : Text} (hc : WellFormed c) (hcne : c ≠ []) {k : Nat} (hk : OccursAt c t k) :
      (byteOffset t k ≤ byteOffset t i ∧
        byteOffset t (i + x.length) ≤ byteOffset t k + (byteText c).length) ↔
      k ≤ i ∧ i + x.length ≤ k + c.length := by
    have hklength := hk.add_length_le
    obtain ⟨hkstart, hkstop⟩ := hk.wellFormed_take ht hc hcne
    rw [← hk.byteOffset_add_length ht hc hcne,
      byteOffset_le_iff hkstart hstart (by omega) (by omega),
      byteOffset_le_iff hstop hkstop hlength hklength]
  constructor
  · rintro ⟨copy, hcopy, hcne, j, hj, hle⟩
    obtain ⟨c, hc, rfl⟩ := List.mem_map.1 hcopy
    have hcwell := hr.of_mem_spellings hc
    rw [ne_eq, byteText_eq_nil_iff hcwell] at hcne
    obtain ⟨k, hk, rfl⟩ := (occursAt_byteText_iff ht hcwell hcne).1 hj
    exact ⟨c, hc, hcne, k, hk, (hcovers hcwell hcne hk).1 hle⟩
  · rintro ⟨c, hc, hcne, k, hk, hle⟩
    have hcwell := hr.of_mem_spellings hc
    exact ⟨byteText c, List.mem_map_of_mem hc, mt (byteText_eq_nil_iff hcwell).1 hcne,
      byteOffset t k, (occursAt_byteText_iff ht hcwell hcne).2 ⟨k, hk, rfl⟩,
      (hcovers hcwell hcne hk).2 hle⟩

/-- A text put in a place, and the bytes put in the bytes of the place. -/
theorem byteText_splice {r : Text} (hr : WellFormed r) :
    byteText (t.take i ++ r ++ t.drop (i + x.length)) =
      (byteText t).take (byteOffset t i) ++ byteText r ++
        (byteText t).drop (byteOffset t i + (byteText x).length) := by
  obtain ⟨hstart, hstop⟩ := hi.wellFormed_take ht hx hne
  rw [byteText_append (hstart.append hr), byteText_append hstart, take_byteOffset hstart,
    ← hi.byteOffset_add_length ht hx hne, drop_byteOffset hstop]

end Place

/-! ## The outcome -/

/-- A patched text with one unit for each byte. -/
def Patched.inBytes (p : Patched) : Patched := ⟨SourceEncoding.latin1.toSource p.text, p.span⟩

theorem toSource_exact {anchor : Text} {spec : PatchSpec} (hs : spec.locator = .exact anchor) :
    (spec.toSource .latin1).locator = .exact (byteText anchor) := by
  rw [PatchSpec.toSource, hs]
  rfl

section Outcome

variable {t anchor : Text} {spec : PatchSpec} (hs : spec.locator = .exact anchor)
  (ht : WellFormed t) (ha : WellFormed anchor) (hr : WellFormed spec.replacement)
include hs ht hr

theorem applyAt_byteText {x : Text} {i : Nat} (hx : WellFormed x) (hne : x ≠ [])
    (hi : OccursAt x t i) :
    applyAt (byteText t) (spec.toSource .latin1)
        (matchAt (byteText t) (byteOffset t i) (byteText x).length) =
      (applyAt t spec (matchAt t i x.length)).map Patched.inBytes := by
  set m := matchAt t i x.length
  set m' := matchAt (byteText t) (byteOffset t i) (byteText x).length
  have hs' := toSource_exact hs
  have hwell : WellFormed (spec.insertedAt t m) := by
    simp only [PatchSpec.insertedAt, hs]
    exact hr.toLineEnding _
  have hinserted : (spec.toSource .latin1).insertedAt (byteText t) m' =
      byteText (spec.insertedAt t m) := by
    simp only [PatchSpec.insertedAt, hs, hs', m, m', matchAt, lineEndingAt_byteText ht hx hne hi]
    exact toLineEnding_byteText hr _
  have htext : (spec.toSource .latin1).appliedAt (byteText t) m' =
      byteText (spec.appliedAt t m) := by
    simp only [PatchSpec.appliedAt, hs, hs', hinserted]
    exact (byteText_splice ht hx hne hi hwell).symm
  have hcovered :
      coveredByReplacement (byteText t) (byteText (spec.insertedAt t m)) m'.startOffset
          m'.endOffset =
        coveredByReplacement t (spec.insertedAt t m) m.startOffset m.endOffset := by
    rw [Bool.eq_iff_iff, coveredByReplacement_iff, coveredByReplacement_iff]
    exact copyAround_byteText_iff ht hx hne hi hwell
  have hspan : m'.span = m.span := span_matchAt_byteText ht hx hne hi
  rw [applyAt_eq, applyAt_eq, hinserted, htext, hspan, hcovered]
  split_ifs <;> rfl

include ha

/-- Found once, the anchor is replaced in the bytes as it is in the text. -/
theorem applyPatch_byteText_of_single {i : Nat}
    (h : (findFirstSpelling t anchor).offsets = [i]) :
    applyPatch (byteText t) (spec.toSource .latin1) =
      (applyPatch t spec).map Patched.inBytes := by
  obtain ⟨hneedle, hoffsets⟩ := findFirstSpelling_spec t anchor
  obtain ⟨hne, hi⟩ := mem_findAll.1 (hoffsets ▸ h ▸ List.mem_singleton_self i)
  have hfound := findFirstSpelling_byteText ht ha
  have hsingle : (findFirstSpelling (byteText t) (byteText anchor)).offsets = [byteOffset t i] := by
    rw [hfound, Occurrences.inBytes, h]
    rfl
  rw [applyPatch_of_single (toSource_exact hs) hsingle, applyPatch_of_single hs h, hfound]
  exact applyAt_byteText hs ht hr (ha.of_mem_spellings hneedle) hne hi

/-- Otherwise the patch fails for the same reason. -/
theorem applyPatch_byteText_of_not_single (h : (findFirstSpelling t anchor).offsets.length ≠ 1) :
    (applyPatch (byteText t) (spec.toSource .latin1)).mapError PatchFailure.code =
      ((applyPatch t spec).map Patched.inBytes).mapError PatchFailure.code := by
  have hlength {x : Text} (hx : WellFormed x) :
      (findFirstSpelling (byteText t) (byteText x)).offsets.length =
        (findFirstSpelling t x).offsets.length := by
    rw [findFirstSpelling_byteText ht hx, Occurrences.inBytes, List.length_map]
  have hreplacement : (spec.toSource .latin1).replacement = byteText spec.replacement := rfl
  have hcode := applyPatch_of_not_single hs h
  rw [applyPatch_of_not_single (toSource_exact hs) (by rwa [hlength ha]), hreplacement, hlength ha,
    hlength hr]
  simp only [ne_eq, byteText_eq_nil_iff hr] at hcode ⊢
  rw [← hcode]
  cases hp : applyPatch t spec with
  | error failure => rfl
  | ok p =>
    rw [hp] at hcode
    simp [Except.mapError] at hcode

end Outcome

/-- Bytes after a patch, and the lines it replaced, for a file that is held in an encoding. -/
def PatchSpec.onBytes (spec : PatchSpec) (encoding : SourceEncoding) (content : Bytes) :
    Except FailureCode (Bytes × Span) :=
  ((applyPatch (encoding.decode content) (spec.toSource encoding)).map
    fun p => (encoding.encode p.text, p.span)).mapError PatchFailure.code

/-- An exact patch does the same to a text that is held one unit per byte as to the text itself: it
replaces the same lines, and what it leaves is the other text in that form, or it fails for the same
reason. So the bytes of a file in UTF-8 are patched alike, whichever encoding the file is held
in. -/
theorem exact_patch_in_bytes {anchor : Text} {spec : PatchSpec} (hs : spec.locator = .exact anchor)
    (ha : WellFormed anchor) (hr : WellFormed spec.replacement) :
    (∀ t : Text, t.WellFormed →
      (applyPatch (SourceEncoding.latin1.toSource t) (spec.toSource .latin1)).mapError
          PatchFailure.code =
        ((applyPatch t spec).map Patched.inBytes).mapError PatchFailure.code) ∧
    ∀ content : Bytes, Utf8.IsUtf8 content →
      spec.onBytes .latin1 content = spec.onBytes .utf8 content := by
  have htexts (t : Text) (ht : t.WellFormed) :
      (applyPatch (byteText t) (spec.toSource .latin1)).mapError PatchFailure.code =
        ((applyPatch t spec).map Patched.inBytes).mapError PatchFailure.code := by
    by_cases hsingle : (findFirstSpelling t anchor).offsets.length = 1
    · obtain ⟨i, hi⟩ := List.length_eq_one_iff.1 hsingle
      rw [applyPatch_byteText_of_single hs ht ha hr hi]
    · exact applyPatch_byteText_of_not_single hs ht ha hr hsingle
  refine ⟨htexts, fun content hcontent => ?_⟩
  have hdecode : Latin1.decode content = byteText (Utf8.decode content) := by
    rw [byteText, Utf8.encode_decode hcontent]
  have houtcome := htexts _ (Utf8.wellFormed_decode content)
  rw [← hdecode] at houtcome
  -- the bytes are read off the outcome, which does not depend on the reason of a failure
  have hread {outcome : Except PatchFailure Patched} {f : Patched → Bytes × Span} :
      (outcome.map f).mapError PatchFailure.code = (outcome.mapError PatchFailure.code).map f := by
    cases outcome <;> rfl
  rw [PatchSpec.onBytes, PatchSpec.onBytes, PatchSpec.toSource_utf8, hread, hread]
  refine (congrArg _ houtcome).trans ?_
  show _ = ((applyPatch (Utf8.decode content) spec).mapError PatchFailure.code).map _
  cases applyPatch (Utf8.decode content) spec with
  | error failure => rfl
  | ok p =>
    have hbytes : Latin1.encode (byteText p.text) = Utf8.encode p.text := Latin1.encode_decode _
    exact congrArg (fun bytes => Except.ok (bytes, p.span)) hbytes

/-- Two lines in CR LF with characters of two and of four bytes. -/
def wideLines : Text := "é😀;\r\nf();\r\n"

/-- Replaces a character of four bytes, and the line break after it. -/
def widePatch : PatchSpec := replaceText "😀;\nf" "ü;\ng"

theorem exact_patch_in_bytes_wide :
    (applyPatch (SourceEncoding.latin1.toSource wideLines)
        (widePatch.toSource .latin1)).mapError PatchFailure.code =
      .ok ⟨SourceEncoding.latin1.toSource "éü;\r\ng();\r\n", ⟨1, 2⟩⟩ ∧
      widePatch.onBytes .latin1 (Utf8.encode wideLines) =
        widePatch.onBytes .utf8 (Utf8.encode wideLines) := by
  have hwell : WellFormed wideLines := wellFormed_ofString _
  have happlied : applyPatch wideLines widePatch = .ok ⟨"éü;\r\ng();\r\n", ⟨1, 2⟩⟩ := by
    decide +kernel
  obtain ⟨htexts, hbytes⟩ := @exact_patch_in_bytes "😀;\nf" widePatch rfl (wellFormed_ofString _)
    (wellFormed_ofString _)
  have hpatched := htexts wideLines hwell
  rw [happlied] at hpatched
  exact ⟨hpatched, hbytes (Utf8.encode wideLines) (Utf8.isUtf8_encode hwell)⟩

end Remedy
