import Remedy.Proofs.Locate

/-!
# What a patch leaves behind

A patch applies exactly when its place is found outside every copy of what it would insert
(`applyPatch_ok_iff`). The text it leaves is the old one with the place found replaced
(`locate_placement`), its lines are those before the place, those of the inserted text and those
after it (`splitLines_spliceLines`), and it is never the old text (`applyPatch_text_ne`). For a
function found by its signature, lines and offsets cut the text at the same places
(`spliceLines_keeps_other_lines`).
-/

namespace Remedy

/-- The text a patch puts in the place of a match. -/
def PatchSpec.insertedAt (spec : PatchSpec) (t : Text) (m : Match) : Text :=
  let replacement := toLineEnding spec.replacement (lineEndingAt t m.startOffset m.endOffset)
  match spec.locator with
  | .exact _ => replacement
  | .signature .. => stripTerminator replacement

/-- The text after a patch was applied at a match. -/
def PatchSpec.appliedAt (spec : PatchSpec) (t : Text) (m : Match) : Text :=
  match spec.locator with
  | .exact _ => t.take m.startOffset ++ spec.insertedAt t m ++ t.drop m.endOffset
  | .signature .. => spliceLines t m.span
      (toLineEnding spec.replacement (lineEndingAt t m.startOffset m.endOffset))

theorem applyAt_eq (t : Text) (spec : PatchSpec) (m : Match) :
    applyAt t spec m =
      if coveredByReplacement t (spec.insertedAt t m) m.startOffset m.endOffset then
        .error (.alreadyApplied spec.id)
      else .ok ⟨spec.appliedAt t m, m.span⟩ := by
  unfold applyAt PatchSpec.appliedAt PatchSpec.insertedAt
  cases spec.locator with
  | exact anchor => rfl
  | signature signature stop =>
    dsimp only
    -- the check that something is inserted is part of the check for a copy
    congr 1
    rw [eq_iff_iff, and_iff_right_iff_imp, coveredByReplacement_iff]
    intro h hnil
    exact not_copyAround_nil _ _ _ (hnil ▸ h)

theorem applyPatch_of_located {t : Text} {spec : PatchSpec} {m : Match}
    (hl : locate t spec.locator = .ok m) :
    applyPatch t spec =
      if coveredByReplacement t (spec.insertedAt t m) m.startOffset m.endOffset then
        .error (.alreadyApplied spec.id)
      else .ok ⟨spec.appliedAt t m, m.span⟩ := by
  rw [applyPatch, hl]
  exact applyAt_eq t spec m

theorem applyPatch_of_not_located {t : Text} {spec : PatchSpec} {cause : LocateFailure}
    (hl : locate t spec.locator = .error cause) :
    applyPatch t spec = .error (refuse t spec cause) := by
  rw [applyPatch, hl]

theorem applyPatch_ok_iff {t : Text} {spec : PatchSpec} {p : Patched} :
    applyPatch t spec = .ok p ↔
      ∃ m, locate t spec.locator = .ok m ∧
        ¬ CopyAround t (spec.insertedAt t m) m.startOffset m.endOffset ∧
        p = ⟨spec.appliedAt t m, m.span⟩ := by
  cases hl : locate t spec.locator with
  | error cause => simp [applyPatch_of_not_located hl]
  | ok m =>
    simp only [applyPatch_of_located hl, ← coveredByReplacement_iff, Except.ok.injEq]
    split_ifs with hc
    · simp only [false_iff]
      rintro ⟨m', rfl, hn, -⟩
      exact hn hc
    · constructor
      · intro h
        exact ⟨m, rfl, hc, (Except.ok.inj h).symm⟩
      · rintro ⟨m', rfl, -, rfl⟩
        rfl

/-! ## Lines -/

/-- The text put in the place of some lines, the last of which is given: it takes over the
terminator of that line. -/
def closedLike (line replacement : Text) : Text :=
  if replacement = [] then [] else stripTerminator replacement ++ terminator line

theorem spliceLines_eq (t replacement : Text) (first last : Nat) :
    spliceLines t ⟨first + 1, last + 1⟩ replacement =
      ((splitLines t).take first).flatten ++ closedLike ((splitLines t).getD last []) replacement ++
        ((splitLines t).drop (last + 1)).flatten := by
  have hfirst : placeOf (splitLines t).length ((first + 1 : Nat) - 1 : Int) = first := by
    simp only [placeOf]
    rw [if_neg (by omega)]
    omega
  have hlast : placeOf (splitLines t).length ((last + 1 : Nat) : Int) = last + 1 := by
    simp only [placeOf]
    rw [if_neg (by omega)]
    rfl
  have hreplaced : ¬ ((last + 1 : Nat) : Int) < 1 := by omega
  have hindex : (((last + 1 : Nat) : Int) - 1).toNat = last := by omega
  simp only [spliceLines, spliceBetween, closedLike, hfirst, hlast, hreplaced, hindex, if_false,
    List.isEmpty_iff]

/-- The lines after a patch are those before the replaced ones, those of the text put in their
place and those after them. -/
theorem splitLines_spliceLines {t : Text} {first last : Nat} (hle : first ≤ last)
    (hlt : last < (splitLines t).length) (replacement : Text) :
    splitLines (spliceLines t ⟨first + 1, last + 1⟩ replacement) =
      (splitLines t).take first ++
        splitLines (closedLike ((splitLines t).getD last []) replacement) ++
        (splitLines t).drop (last + 1) := by
  have hlines := isLines_splitLines t
  rw [spliceLines_eq, List.append_assoc, splitLines_append, splitLines_append, splitLines_take,
    splitLines_drop, List.append_assoc]
  · by_cases ht : terminator ((splitLines t).getD last []) = []
    · exact .inr (by rw [hlines.drop_eq_nil hlt ht, List.flatten_nil])
    · left
      unfold closedLike
      split_ifs
      · exact endsLine_nil
      · apply endsLine_of_terminator_ne_nil
        have := length_terminator_le (stripTerminator replacement) ((splitLines t).getD last [])
        intro h
        rw [h] at this
        exact ht (List.length_eq_zero_iff.1 (Nat.le_zero.1 this))
  · exact .inl (hlines.endsLine_take (by omega))

namespace FoundLines

variable {signature t : Text} {m : Match} {first last : Nat}

theorem first_lt (h : FoundLines signature t m first last) : first < (splitLines t).length :=
  Nat.lt_of_le_of_lt h.first_le h.last_lt

/-- A line that the signature can be found on has something on it. -/
theorem content_ne_nil (h : FoundLines signature t m first last) {line : Text}
    (hl : (splitLines t)[first]? = some line) : stripTerminator line ≠ [] := by
  intro hnil
  have hincludes := ((h.candidate_iff first line hl).2 rfl).1
  rw [hnil, includes_iff, List.infix_nil] at hincludes
  exact h.signature_ne_nil hincludes

/-- The text around a match: what stands before its first line, the lines themselves without the
last terminator, and the rest. -/
theorem split (h : FoundLines signature t m first last) :
    ∃ content ≠ [], t = ((splitLines t).take first).flatten ++ content ++
        (terminator ((splitLines t).getD last []) ++ ((splitLines t).drop (last + 1)).flatten) ∧
      m.endOffset = m.startOffset + content.length := by
  have hcontent := h.content_ne_nil (List.getElem?_eq_getElem h.first_lt)
  obtain ⟨d, rfl⟩ := Nat.exists_eq_add_of_le h.first_le
  have hend : m.endOffset = m.startOffset + ((((splitLines t).drop first).take d).flatten ++
      stripTerminator ((splitLines t).getD (first + d) [])).length := by
    rw [h.endOffset_eq, h.startOffset_eq, List.take_add, List.flatten_append, List.length_append,
      List.length_append, Nat.add_assoc]
  refine ⟨_, ?_, ?_, hend⟩
  · cases d with
    | zero => simpa [List.getD_eq_getElem?_getD, List.getElem?_eq_getElem h.first_lt] using hcontent
    | succ d =>
      have := length_flatten_take_lt (isLines_splitLines t) (show first < first + (d + 1) by omega)
        (Nat.le_of_lt h.last_lt)
      have hstart := h.startOffset_eq
      have hstop := h.endOffset_eq
      intro hnil
      rw [hnil, List.length_nil] at hend
      omega
  · calc t = (splitLines t).flatten := (flatten_splitLines t).symm
      _ = ((splitLines t).take (first + d)).flatten ++ ((splitLines t).getD (first + d) [] ++
          ((splitLines t).drop (first + d + 1)).flatten) :=
        (flatten_take_getD_drop h.last_lt).symm
      _ = _ := by
        rw [List.take_add, List.flatten_append]
        simp only [List.append_assoc]
        rw [← List.append_assoc (stripTerminator _), stripTerminator_append_terminator]

theorem take_startOffset (h : FoundLines signature t m first last) :
    t.take m.startOffset = ((splitLines t).take first).flatten := by
  obtain ⟨content, -, ht, -⟩ := h.split
  rw [h.startOffset_eq]
  exact (congrArg (List.take _) (ht.trans (List.append_assoc ..))).trans List.take_left

theorem drop_endOffset (h : FoundLines signature t m first last) :
    t.drop m.endOffset =
      terminator ((splitLines t).getD last []) ++ ((splitLines t).drop (last + 1)).flatten := by
  obtain ⟨content, -, ht, hend⟩ := h.split
  rw [hend, h.startOffset_eq, ← List.length_append]
  exact (congrArg (List.drop _) ht).trans List.drop_left

end FoundLines

/-- Replacing the lines of a function that was found is replacing the text between its offsets by
the replacement without its final line break; with an empty replacement the lines are removed. The
lines before and after keep what they hold, terminators included. -/
theorem spliceLines_keeps_other_lines {t signature : Text} {stop : EndMarker} {m : Match}
    (h : locate t (.signature signature stop) = .ok m) (replacement : Text) :
    let before := (splitLines t).take (m.span.startLine - 1)
    let replaced := (splitLines t).getD (m.span.endLine - 1) []
    let after := (splitLines t).drop m.span.endLine
    (1 ≤ m.span.startLine ∧ m.span.startLine ≤ m.span.endLine ∧
      m.span.endLine ≤ (splitLines t).length) ∧
    spliceLines t m.span replacement =
      (if replacement = [] then before.flatten ++ after.flatten
        else t.take m.startOffset ++ stripTerminator replacement ++ t.drop m.endOffset) ∧
    splitLines (spliceLines t m.span replacement) =
      before ++ splitLines (closedLike replaced replacement) ++ after := by
  rw [locate_signature] at h
  obtain ⟨first, last, hfound⟩ := locateSignature_ok h
  have hle := hfound.first_le
  have hlt := hfound.last_lt
  simp only [hfound.span_eq, Nat.add_sub_cancel]
  refine ⟨by omega, ?_, splitLines_spliceLines hle hlt replacement⟩
  rw [spliceLines_eq, closedLike, hfound.take_startOffset, hfound.drop_endOffset]
  split_ifs with hnil
  · rw [List.append_nil]
  · simp only [List.append_assoc]

/-- A function between lines with both kinds of line break, the last of which has none. -/
def mixedLines : Text := "a;\r\nint f(void)\n\x7b\r\n\x7d\nint g;"

set_option maxRecDepth 4000 in
theorem spliceLines_keeps_other_lines_mixed :
    locate mixedLines (.signature "f(void)" .braceDepth) = .ok ⟨⟨2, 4⟩, 4, 20⟩ ∧
      spliceLines mixedLines ⟨2, 4⟩ "x;\r\n\r\n" = "a;\r\nx;\r\n\nint g;" ∧
      spliceLines mixedLines ⟨2, 4⟩ "" = "a;\r\nint g;" ∧
      splitLines (spliceLines mixedLines ⟨2, 4⟩ "x;\r\n\r\n") =
        [("a;\r\n" : Text), "x;\r\n", "\n", "int g;"] := by
  have hfound : locate mixedLines (.signature "f(void)" .braceDepth) = .ok ⟨⟨2, 4⟩, 4, 20⟩ := by
    decide +kernel
  obtain ⟨-, hsplice, hlines⟩ := spliceLines_keeps_other_lines hfound "x;\r\n\r\n"
  obtain ⟨-, hremoved, -⟩ := spliceLines_keeps_other_lines hfound ""
  exact ⟨hfound, hsplice, hremoved, hlines⟩

/-! ## The text around a place -/

/-- A match as a cut of the text, with what the patch makes of the text. When nothing is inserted,
the terminator of the last line may go as well. -/
structure Placement (spec : PatchSpec) (t : Text) (m : Match) (before content after rest : Text) :
    Prop where
  text_eq : t = before ++ content ++ after
  content_ne_nil : content ≠ []
  startOffset_eq : m.startOffset = before.length
  endOffset_eq : m.endOffset = before.length + content.length
  applied_eq : spec.appliedAt t m = before ++ spec.insertedAt t m ++ rest
  rest_cases : rest = after ∨ spec.insertedAt t m = [] ∧ rest.length ≤ after.length

theorem SoleOccurrence.placement {spec : PatchSpec} {anchor needle t : Text} {m : Match}
    (hs : spec.locator = .exact anchor) (h : SoleOccurrence needle t m) :
    ∃ before after, Placement spec t m before needle after after := by
  obtain ⟨before, after, ht, hb⟩ := h.occursAt
  have hend : m.endOffset = before.length + needle.length := by rw [h.endOffset_eq, hb]
  refine ⟨before, after, ht, h.ne_nil, hb.symm, hend, ?_, .inl rfl⟩
  have htake : t.take m.startOffset = before := by rw [ht, ← hb]; simp
  have hdrop : t.drop m.endOffset = after := by rw [hend, ← List.length_append, ht]; simp
  simp only [PatchSpec.appliedAt, hs, htake, hdrop]

theorem FoundLines.placement {spec : PatchSpec} {signature t : Text} {stop : EndMarker} {m : Match}
    {first last : Nat} (hs : spec.locator = .signature signature stop)
    (h : FoundLines signature t m first last) :
    ∃ content after rest,
      Placement spec t m ((splitLines t).take first).flatten content after rest := by
  obtain ⟨content, hne, ht, hend⟩ := h.split
  have hend : m.endOffset = ((splitLines t).take first).flatten.length + content.length := by
    rw [hend, h.startOffset_eq]
  have happlied := spliceLines_eq t
    (toLineEnding spec.replacement (lineEndingAt t m.startOffset m.endOffset)) first last
  have hinserted : spec.insertedAt t m = stripTerminator
      (toLineEnding spec.replacement (lineEndingAt t m.startOffset m.endOffset)) := by
    simp only [PatchSpec.insertedAt, hs]
  rw [← h.span_eq, closedLike] at happlied
  split_ifs at happlied with hnil
  · rw [hnil] at hinserted
    refine ⟨content, _, ((splitLines t).drop (last + 1)).flatten, ht, hne, h.startOffset_eq, hend,
      ?_, .inr ⟨hinserted, by simp⟩⟩
    simp only [PatchSpec.appliedAt, hs, happlied, hinserted]
    rfl
  · refine ⟨content, _, _, ht, hne, h.startOffset_eq, hend, ?_, .inl rfl⟩
    simp only [PatchSpec.appliedAt, hs, happlied, hinserted, List.append_assoc]

theorem locate_placement {spec : PatchSpec} {t : Text} {m : Match}
    (h : locate t spec.locator = .ok m) :
    ∃ before content after rest, Placement spec t m before content after rest := by
  cases hs : spec.locator with
  | exact anchor =>
    rw [hs, locate_exact] at h
    obtain ⟨needle, -, hsole⟩ := locateExact_ok h
    obtain ⟨before, after, hp⟩ := hsole.placement hs
    exact ⟨before, needle, after, after, hp⟩
  | signature signature stop =>
    rw [hs, locate_signature] at h
    obtain ⟨first, last, hfound⟩ := locateSignature_ok h
    exact ⟨_, hfound.placement hs⟩

/-- A patch that applies changes the text. -/
theorem applyPatch_text_ne {t : Text} {spec : PatchSpec} {p : Patched}
    (h : applyPatch t spec = .ok p) : p.text ≠ t := by
  obtain ⟨m, hl, huncovered, rfl⟩ := applyPatch_ok_iff.1 h
  obtain ⟨before, content, after, rest, hp⟩ := locate_placement hl
  intro heq
  have heq : spec.insertedAt t m ++ rest = content ++ after := by
    have := hp.applied_eq.symm.trans (heq.trans hp.text_eq)
    simpa using this
  rcases hp.rest_cases with hrest | ⟨hnil, hlen⟩
  · rw [hrest] at heq
    have hins : spec.insertedAt t m = content := List.append_cancel_right heq
    refine huncovered ⟨_, mem_spellings.2 (.inl rfl), hins ▸ hp.content_ne_nil, before.length, ?_,
      Nat.le_of_eq hp.startOffset_eq.symm, Nat.le_of_eq (by rw [hins, hp.endOffset_eq])⟩
    exact ⟨before, after, by rw [hins]; exact hp.text_eq, rfl⟩
  · have := congrArg List.length heq
    have := List.length_pos_iff.2 hp.content_ne_nil
    simp only [hnil, List.nil_append, List.length_append] at *
    omega

end Remedy
