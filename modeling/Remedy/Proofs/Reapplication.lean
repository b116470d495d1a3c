import Remedy.Proofs.PatchSets
import Remedy.Proofs.Patching

/-!
# Applying a patch to its own output

Text that a patch has inserted is recognised, in whatever line ending it was written
(`copyAround_insertedAt`), and a place found inside it is not patched again
(`applyPatch_of_copyAround`). A second application therefore succeeds only where the place is found
again across an edge of the inserted text: an anchor that forms anew from what was inserted and what
stands beside it, or a function whose end is searched for beyond the inserted lines. The other way
is an anchor that also stands in the text in another line ending. `applyPatch_again_iff` is the
exact condition.
-/

namespace Remedy

/-! ## Recognising what was inserted -/

/-- The text inserted before is a spelling of the one a second application would insert. -/
theorem insertedAt_mem_spellings {spec : PatchSpec} (h : ¬ HasDoubledReturn spec.replacement)
    (t u : Text) (m m' : Match) :
    spec.insertedAt t m ∈ spellings (spec.insertedAt u m') u := by
  rw [mem_spellings]
  right
  unfold PatchSpec.insertedAt
  cases spec.locator with
  | exact anchor =>
    dsimp only
    rw [toLineEnding_toLineEnding h, toLineEnding_toLineEnding h]
    cases lineEndingAt t m.startOffset m.endOffset <;> simp
  | signature signature stop =>
    dsimp only
    rw [toLineEnding_stripTerminator h, toLineEnding_stripTerminator h]
    cases lineEndingAt t m.startOffset m.endOffset <;> simp

/-- A place inside the inserted text is covered by a copy of the replacement. -/
theorem copyAround_insertedAt {spec : PatchSpec} (h : ¬ HasDoubledReturn spec.replacement)
    {t before after : Text} {m m' : Match} (hne : spec.insertedAt t m ≠ [])
    (hstart : before.length ≤ m'.startOffset)
    (hstop : m'.endOffset ≤ before.length + (spec.insertedAt t m).length) :
    CopyAround (before ++ spec.insertedAt t m ++ after)
      (spec.insertedAt (before ++ spec.insertedAt t m ++ after) m') m'.startOffset m'.endOffset :=
  ⟨_, insertedAt_mem_spellings h t _ m m', hne, before.length, OccursAt.middle _ _ _, hstart, hstop⟩

theorem locate_startOffset_lt {spec : PatchSpec} {t : Text} {m : Match}
    (h : locate t spec.locator = .ok m) : m.startOffset < m.endOffset := by
  obtain ⟨before, content, after, rest, hp⟩ := locate_placement h
  have := List.length_pos_iff.2 hp.content_ne_nil
  have := hp.startOffset_eq
  have := hp.endOffset_eq
  omega

/-- A place that is found again inside the inserted text is covered by a copy of it. -/
theorem copyAround_of_inside {spec : PatchSpec} {t : Text} {m m' : Match}
    (hr : ¬ HasDoubledReturn spec.replacement) (hl : locate t spec.locator = .ok m)
    (hl' : locate (spec.appliedAt t m) spec.locator = .ok m')
    (hstart : m.startOffset ≤ m'.startOffset)
    (hstop : m'.endOffset ≤ m.startOffset + (spec.insertedAt t m).length) :
    CopyAround (spec.appliedAt t m) (spec.insertedAt (spec.appliedAt t m) m') m'.startOffset
      m'.endOffset := by
  obtain ⟨before, content, after, rest, hp⟩ := locate_placement hl
  have hbefore := hp.startOffset_eq
  have hlt := locate_startOffset_lt hl'
  have hne : spec.insertedAt t m ≠ [] := List.length_pos_iff.1 (by omega)
  rw [hp.applied_eq]
  exact copyAround_insertedAt hr hne (by omega) (by omega)

theorem applyPatch_of_copyAround {spec : PatchSpec} {t : Text} {m : Match}
    (hl : locate t spec.locator = .ok m)
    (h : CopyAround t (spec.insertedAt t m) m.startOffset m.endOffset) :
    applyPatch t spec = .error (.alreadyApplied spec.id) := by
  rw [applyPatch_of_located hl, if_pos (coveredByReplacement_iff.2 h)]

/-- The text that a patch has inserted, between what stood before the place and the rest, is
recognised: when the patch finds its place inside of it, it is refused as applied before. The line
ending that would be written there need not be the one the text was inserted with. -/
theorem applyPatch_inside_inserted {t : Text} {spec : PatchSpec} {p : Patched}
    (hr : ¬ HasDoubledReturn spec.replacement) (h : applyPatch t spec = .ok p) :
    ∃ m rest, locate t spec.locator = .ok m ∧
      p.text = t.take m.startOffset ++ spec.insertedAt t m ++ rest ∧
      ∀ m', locate p.text spec.locator = .ok m' → m.startOffset ≤ m'.startOffset →
        m'.endOffset ≤ m.startOffset + (spec.insertedAt t m).length →
        applyPatch p.text spec = .error (.alreadyApplied spec.id) := by
  obtain ⟨m, hl, -, rfl⟩ := applyPatch_ok_iff.1 h
  obtain ⟨before, content, after, rest, hp⟩ := locate_placement hl
  refine ⟨m, rest, hl, ?_, fun m' hl' hstart hstop => ?_⟩
  · have hbefore : t.take m.startOffset = before := by
      rw [hp.text_eq, hp.startOffset_eq, List.append_assoc, List.take_left]
    rw [hbefore]
    exact hp.applied_eq
  · exact applyPatch_of_copyAround hl' (copyAround_of_inside hr hl hl' hstart hstop)

/-- A function in CR LF among lines in LF. -/
def crlfFunction : Text := "int a;\nint b;\nint f(void)\r\n\x7b\r\n\x7d\r\nint c;\n"

/-- Writes the function on one line, below a comment. -/
def commentedPatch : PatchSpec where
  id := "p1"
  targetFile := "a.c"
  description := none
  locator := .signature "f(void)" .braceDepth
  replacement := "// short\nint f(void) \x7b \x7d\n"

def commentedFunction : Text := "int a;\nint b;\n// short\r\nint f(void) \x7b \x7d\r\nint c;\n"

set_option maxRecDepth 4000 in
/-- The comment and the function are inserted in CR LF. The function is found again on its one line,
where LF would be written. -/
theorem applyPatch_inside_inserted_otherEnding :
    applyPatch crlfFunction commentedPatch = .ok ⟨commentedFunction, ⟨3, 5⟩⟩ ∧
      lineEndingAt crlfFunction 14 31 = .crlf ∧ lineEndingAt commentedFunction 24 39 = .lf ∧
      applyPatch commentedFunction commentedPatch = .error (.alreadyApplied "p1") := by
  have hreturns : ¬ HasDoubledReturn commentedPatch.replacement := by
    unfold HasDoubledReturn
    decide +kernel
  have happlied : applyPatch crlfFunction commentedPatch = .ok ⟨commentedFunction, ⟨3, 5⟩⟩ := by
    decide +kernel
  have hplace : locate crlfFunction commentedPatch.locator = .ok ⟨⟨3, 5⟩, 14, 31⟩ := by
    decide +kernel
  have hagain : locate commentedFunction commentedPatch.locator = .ok ⟨⟨4, 4⟩, 24, 39⟩ := by
    decide +kernel
  obtain ⟨m, rest, hl, -, hrecognised⟩ := applyPatch_inside_inserted hreturns happlied
  obtain rfl := Except.ok.inj (hl.symm.trans hplace)
  have hstart : 14 ≤ 24 := by decide
  have hstop : 39 ≤ 14 + (commentedPatch.insertedAt crlfFunction ⟨⟨3, 5⟩, 14, 31⟩).length := by
    decide +kernel
  exact ⟨happlied, by decide +kernel, by decide +kernel, hrecognised _ hagain hstart hstop⟩

/-! ## Where the place can be found again -/

/-- A match starts before an offset and ends after it. -/
def Match.Crosses (m : Match) (edge : Nat) : Prop := m.startOffset < edge ∧ edge < m.endOffset

/-- An anchor found again in the spelling that was replaced overlaps the inserted text. -/
theorem SoleOccurrence.overlaps {needle before after inserted : Text} {m m' : Match}
    (h : SoleOccurrence needle (before ++ needle ++ after) m)
    (hstart : m.startOffset = before.length)
    (h' : SoleOccurrence needle (before ++ inserted ++ after) m') :
    before.length < m'.endOffset ∧ m'.startOffset < before.length + inserted.length := by
  have hlen := List.length_pos_iff.2 h.ne_nil
  have hend := h'.endOffset_eq
  constructor
  · by_contra hle
    have hin : OccursAt needle before m'.startOffset := by
      have := h'.occursAt
      rw [List.append_assoc] at this
      exact this.of_append_left (by omega)
    have := (h.occursAt_iff _).1 ((hin.append_right needle).append_right after)
    omega
  · by_contra hle
    have hin : OccursAt needle after (m'.startOffset - (before ++ inserted).length) :=
      h'.occursAt.of_append_right (by simp; omega)
    have := (h.occursAt_iff _).1 (hin.append_left (before ++ needle))
    simp only [List.length_append] at this
    omega

/-- The content of a line that was put in lies before the terminator taken over. -/
theorem content_within_closedLike {line replacement : Text} {k : Nat}
    (hk : k < (splitLines (closedLike line replacement)).length) :
    ((splitLines (closedLike line replacement)).take k).flatten.length +
        (stripTerminator ((splitLines (closedLike line replacement)).getD k [])).length ≤
      (stripTerminator replacement).length := by
  have hwithin := (isLines_splitLines _).content_within hk
  rw [flatten_splitLines] at hwithin
  unfold closedLike at *
  split_ifs at *
  · simp [splitLines] at hk
  · have := length_terminator_le (stripTerminator replacement) line
    rw [List.length_append] at hwithin
    omega

/-- The lines before and after those replaced hold no place for the signature, so the function is
found again on an inserted line only. -/
theorem FoundLines.starts_inside {signature t replacement : Text} {m m' : Match}
    {first last first' last' : Nat} (h : FoundLines signature t m first last)
    (h' : FoundLines signature (spliceLines t m.span replacement) m' first' last') :
    m.startOffset ≤ m'.startOffset ∧
      m'.startOffset < m.startOffset + (stripTerminator replacement).length := by
  have hlines := splitLines_spliceLines h.first_le h.last_lt replacement
  rw [← h.span_eq] at hlines
  obtain ⟨line', hline'⟩ : ∃ line', (splitLines (spliceLines t m.span replacement))[first']? =
      some line' := ⟨_, List.getElem?_eq_getElem h'.first_lt⟩
  have hcand := (h'.candidate_iff _ _ hline').2 rfl
  have hcontent := List.length_pos_iff.2 (h'.content_ne_nil hline')
  have hstart' := h'.startOffset_eq
  rw [hlines, List.append_assoc] at hline' hstart'
  have hfirst : ((splitLines t).take first).length = first := by
    rw [List.length_take]
    exact Nat.min_eq_left (Nat.le_of_lt h.first_lt)
  by_cases hbefore : first' < first
  · rw [List.getElem?_append_left (by omega), List.getElem?_take_of_lt hbefore] at hline'
    have := (h.candidate_iff _ _ hline').1 hcand
    omega
  · rw [List.getElem?_append_right (by omega), hfirst] at hline'
    by_cases hafter : (splitLines (closedLike ((splitLines t).getD last []) replacement)).length ≤
        first' - first
    · rw [List.getElem?_append_right hafter, List.getElem?_drop] at hline'
      have := (h.candidate_iff _ _ hline').1 hcand
      have := h.first_le
      omega
    · rw [List.getElem?_append_left (by omega)] at hline'
      rw [List.take_append, hfirst, List.take_of_length_le (by omega),
        List.take_append_of_le_length (by omega), List.flatten_append, List.length_append,
        ← h.startOffset_eq] at hstart'
      have hwithin := content_within_closedLike (Nat.lt_of_not_le hafter)
      rw [List.getD_eq_getElem?_getD.trans (congrArg (Option.getD · []) hline'), Option.getD_some]
        at hwithin
      omega

/-- How a place found again lies to the inserted text, which stands where the match was. An anchor
crosses an edge of the inserted text, or is found in another spelling than the one replaced; a
function starts on an inserted line and ends after the last of them. A place inside the inserted
text is taken for a new one only if the replacement holds a doubled carriage return. -/
def PatchSpec.StandsOut (spec : PatchSpec) (t : Text) (m : Match) (u : Text) (m' : Match) : Prop :=
  let left := m.startOffset
  let right := m.startOffset + (spec.insertedAt t m).length
  match spec.locator with
  | .exact _ =>
    m'.Crosses left ∨ m'.Crosses right ∨
      u.slice m'.startOffset m'.endOffset ≠ t.slice m.startOffset m.endOffset ∨
      left ≤ m'.startOffset ∧ m'.endOffset ≤ right ∧ HasDoubledReturn spec.replacement
  | .signature .. =>
    left ≤ m'.startOffset ∧ m'.startOffset < right ∧
      (right < m'.endOffset ∨ HasDoubledReturn spec.replacement)

/-- The patch that was applied to `t` at `m` and left `u` finds a place in `u` again, at `m'`, which
no copy of the replacement covers. -/
structure Reopened (spec : PatchSpec) (t : Text) (m : Match) (u : Text) (m' : Match) : Prop where
  located : locate u spec.locator = .ok m'
  uncovered : ¬ CopyAround u (spec.insertedAt u m') m'.startOffset m'.endOffset
  standsOut : spec.StandsOut t m u m'

theorem standsOut_exact {spec : PatchSpec} {anchor t : Text} {m m' : Match}
    (hs : spec.locator = .exact anchor) (hl : locate t spec.locator = .ok m)
    (hl' : locate (spec.appliedAt t m) spec.locator = .ok m')
    (huncovered : ¬ CopyAround (spec.appliedAt t m) (spec.insertedAt (spec.appliedAt t m) m')
      m'.startOffset m'.endOffset) :
    spec.StandsOut t m (spec.appliedAt t m) m' := by
  have hfind : locateExact t anchor = .ok m := by rw [← locate_exact, ← hs, hl]
  have hfind' : locateExact (spec.appliedAt t m) anchor = .ok m' := by
    rw [← locate_exact, ← hs, hl']
  obtain ⟨needle, -, hsole⟩ := locateExact_ok hfind
  obtain ⟨needle', -, hsole'⟩ := locateExact_ok hfind'
  obtain ⟨before, after, hp⟩ := hsole.placement hs
  simp only [PatchSpec.StandsOut, hs]
  by_cases hn : needle' = needle
  · subst hn
    rw [hp.applied_eq] at hsole'
    have hstart := hp.startOffset_eq
    have hover := (hp.text_eq ▸ hsole).overlaps hstart hsole'
    by_cases hin : m.startOffset ≤ m'.startOffset ∧
        m'.endOffset ≤ m.startOffset + (spec.insertedAt t m).length
    · refine .inr (.inr (.inr ⟨hin.1, hin.2, ?_⟩))
      by_contra hreturns
      exact huncovered (copyAround_of_inside hreturns hl hl' hin.1 hin.2)
    · unfold Match.Crosses
      omega
  · refine .inr (.inr (.inl ?_))
    rw [hsole.slice_eq, hsole'.slice_eq]
    exact hn

theorem standsOut_signature {spec : PatchSpec} {signature t : Text} {stop : EndMarker}
    {m m' : Match} (hs : spec.locator = .signature signature stop)
    (hl : locate t spec.locator = .ok m)
    (hl' : locate (spec.appliedAt t m) spec.locator = .ok m')
    (huncovered : ¬ CopyAround (spec.appliedAt t m) (spec.insertedAt (spec.appliedAt t m) m')
      m'.startOffset m'.endOffset) :
    spec.StandsOut t m (spec.appliedAt t m) m' := by
  have hfind : locateSignature (.build t) t signature stop = .ok m := by
    rw [← locate_signature, ← hs, hl]
  have hfind' : locateSignature (.build (spec.appliedAt t m)) (spec.appliedAt t m) signature stop =
      .ok m' := by
    rw [← locate_signature, ← hs, hl']
  obtain ⟨first, last, hfound⟩ := locateSignature_ok hfind
  obtain ⟨first', last', hfound'⟩ := locateSignature_ok hfind'
  have hinside : m.startOffset ≤ m'.startOffset ∧
      m'.startOffset < m.startOffset + (spec.insertedAt t m).length := by
    simp only [PatchSpec.appliedAt, hs] at hfound'
    simp only [PatchSpec.insertedAt, hs]
    exact hfound.starts_inside hfound'
  simp only [PatchSpec.StandsOut, hs]
  refine ⟨hinside.1, hinside.2, ?_⟩
  by_contra hin
  rw [not_or, Nat.not_lt] at hin
  exact huncovered (copyAround_of_inside hin.2 hl hl' hinside.1 hin.1)

theorem reopened_of_ok {spec : PatchSpec} {t : Text} {m m' : Match}
    (hl : locate t spec.locator = .ok m)
    (hl' : locate (spec.appliedAt t m) spec.locator = .ok m')
    (huncovered : ¬ CopyAround (spec.appliedAt t m) (spec.insertedAt (spec.appliedAt t m) m')
      m'.startOffset m'.endOffset) : Reopened spec t m (spec.appliedAt t m) m' := by
  refine ⟨hl', huncovered, ?_⟩
  cases hs : spec.locator with
  | exact anchor => exact standsOut_exact hs hl hl' huncovered
  | signature signature stop => exact standsOut_signature hs hl hl' huncovered

/-! ## The second application -/

theorem applyPatches_singleton_text (u : Text) (spec : PatchSpec) :
    (applyPatches u [spec]).text = u ↔ ¬ ∃ q, applyPatch u spec = .ok q := by
  cases h : applyPatch u spec with
  | ok q =>
    have hne := applyPatch_text_ne h
    simp [applyPatches, attemptPatches, h, isHardFailure, hne]
  | error failure =>
    cases hf : isHardFailure (.error failure) <;> simp [applyPatches, attemptPatches, h, hf]

/-- A patch can be applied to its own output exactly when its place is found there again and stands
out of the inserted text and of every copy of the replacement. If it is not, running the patch again
leaves the text as it is. -/
theorem applyPatch_again_iff {t : Text} {spec : PatchSpec} {p : Patched}
    (h : applyPatch t spec = .ok p) :
    ∃ m, locate t spec.locator = .ok m ∧
      ((∃ q, applyPatch p.text spec = .ok q) ↔ ∃ m', Reopened spec t m p.text m') ∧
      ((applyPatches p.text [spec]).text = p.text ↔ ¬ ∃ m', Reopened spec t m p.text m') := by
  obtain ⟨m, hl, -, rfl⟩ := applyPatch_ok_iff.1 h
  have hiff : (∃ q, applyPatch (spec.appliedAt t m) spec = .ok q) ↔
      ∃ m', Reopened spec t m (spec.appliedAt t m) m' := by
    constructor
    · rintro ⟨q, hq⟩
      obtain ⟨m', hl', huncovered, -⟩ := applyPatch_ok_iff.1 hq
      exact ⟨m', reopened_of_ok hl hl' huncovered⟩
    · rintro ⟨m', hr⟩
      exact ⟨_, applyPatch_ok_iff.2 ⟨m', hr.located, hr.uncovered, rfl⟩⟩
  exact ⟨m, hl, hiff, by rw [applyPatches_singleton_text, hiff]⟩

/-- Two functions, one below the other. -/
def functionPair : Text := "int f(void)\n\x7b\n\x7d\nint g(void)\n\x7b\n\x7d\n"

/-- The first of them on one line. -/
def patchedPair : Text := "int f(void) \x7b return 1; \x7d\nint g(void)\n\x7b\n\x7d\n"

set_option maxRecDepth 4000 in
/-- The exact condition at a text with a second function below the one that is replaced. -/
theorem applyPatch_again_iff_oneLinePatch :
    ∃ m, locate functionPair (oneLinePatch "a.c").locator = .ok m ∧
      ((∃ q, applyPatch patchedPair (oneLinePatch "a.c") = .ok q) ↔
        ∃ m', Reopened (oneLinePatch "a.c") functionPair m patchedPair m') ∧
      ((applyPatches patchedPair [oneLinePatch "a.c"]).text = patchedPair ↔
        ¬ ∃ m', Reopened (oneLinePatch "a.c") functionPair m patchedPair m') :=
  have happlied : applyPatch functionPair (oneLinePatch "a.c") = .ok ⟨patchedPair, ⟨1, 3⟩⟩ := rfl
  applyPatch_again_iff happlied

set_option maxRecDepth 4000 in
/-- The end of a function written on one line is found in the next function, so that a second
application removes that one. -/
theorem applyPatch_again_swallows :
    applyPatch functionPair (oneLinePatch "a.c") = .ok ⟨patchedPair, ⟨1, 3⟩⟩ ∧
      applyPatch patchedPair (oneLinePatch "a.c") =
        .ok ⟨"int f(void) \x7b return 1; \x7d\n", ⟨1, 4⟩⟩ := ⟨rfl, rfl⟩

end Remedy
