import Mathlib.Data.List.GetD
import Remedy.Proofs.CrlfPatches

/-!
# Functions found by their signature in CR LF

A function that ends at a lone closing brace is looked for on lines without their terminators, which
are the same in both line endings (`contents_expandLineBreaks`). In CR LF it is therefore found on
the same lines, at the offsets that these lines have there (`locateSignature_expandLineBreaks`), and
the lines are replaced by the replacement in CR LF (`spliceLines_expandLineBreaks`). Unlike an exact
patch, such a patch does in CR LF what it does in LF without exception
(`signature_patch_in_crlf`).
-/

namespace Remedy

/-! ## Lines -/

theorem IsLines.map_expandLineBreaks {lines : List Text} (h : IsLines lines) :
    IsLines (lines.map expandLineBreaks) := by
  induction h with
  | nil => exact .nil
  | last hne hb =>
    rw [List.map_singleton, expandLineBreaks_eq_self hb]
    exact .last hne hb
  | @cons body lines hb _ ih =>
    have hline : expandLineBreaks (body ++ [0x0A]) = body ++ [0x0D] ++ [0x0A] := by
      simp [expandLineBreaks_eq_self hb]
    rw [List.map_cons, hline]
    exact .cons (by simpa using hb) ih

theorem expandLineBreaks_flatten (lines : List Text) :
    expandLineBreaks lines.flatten = (lines.map expandLineBreaks).flatten := by
  induction lines with
  | nil => rfl
  | cons line lines ih =>
    rw [List.flatten_cons, expandLineBreaks_append, ih]
    rfl

theorem splitLines_expandLineBreaks (t : Text) :
    splitLines (expandLineBreaks t) = (splitLines t).map expandLineBreaks := by
  conv_lhs => rw [← flatten_splitLines t, expandLineBreaks_flatten]
  exact (isLines_splitLines t).map_expandLineBreaks.splitLines_flatten

/-- A line holds the same in both line endings. -/
theorem stripTerminator_line_expandLineBreaks {t line : Text} (ht : 0x0D ∉ t)
    (hl : line ∈ splitLines t) :
    stripTerminator (expandLineBreaks line) = stripTerminator line := by
  have hplain : 0x0D ∉ line := fun h => ht (mem_of_mem_splitLines hl h)
  rw [stripTerminator_expandLineBreaks (not_crlf_of_plain hplain)]
  exact expandLineBreaks_eq_self ((isLines_splitLines t).lf_not_mem_content hl)

theorem contents_expandLineBreaks {t : Text} (ht : 0x0D ∉ t) :
    (splitLines (expandLineBreaks t)).map stripTerminator = (splitLines t).map stripTerminator := by
  rw [splitLines_expandLineBreaks, List.map_map]
  exact List.map_congr_left fun line hl => stripTerminator_line_expandLineBreaks ht hl

theorem terminator_expandLineBreaks {line : Text} (h : 0x0D ∉ line) :
    terminator (expandLineBreaks line) = expandLineBreaks (terminator line) := by
  have hwhole : stripTerminator (expandLineBreaks line) ++ terminator (expandLineBreaks line) =
      expandLineBreaks (stripTerminator line) ++ expandLineBreaks (terminator line) := by
    rw [stripTerminator_append_terminator, ← expandLineBreaks_append,
      stripTerminator_append_terminator]
  rw [stripTerminator_expandLineBreaks (not_crlf_of_plain h)] at hwhole
  exact List.append_cancel_left hwhole

/-! ## Replacing lines -/

theorem closedLike_expandLineBreaks {line replacement : Text} (hl : 0x0D ∉ line)
    (hr : 0x0D ∉ replacement) :
    closedLike (expandLineBreaks line) (expandLineBreaks replacement) =
      expandLineBreaks (closedLike line replacement) := by
  simp only [closedLike, expandLineBreaks_eq_nil_iff]
  split_ifs
  · rfl
  · rw [stripTerminator_expandLineBreaks (not_crlf_of_plain hr), terminator_expandLineBreaks hl,
      expandLineBreaks_append]

theorem getD_splitLines_plain {t : Text} (ht : 0x0D ∉ t) (k : Nat) :
    0x0D ∉ (splitLines t).getD k [] := by
  rw [List.getD_eq_getElem?_getD]
  cases hk : (splitLines t)[k]? with
  | none => simp
  | some line => exact fun h => ht (mem_of_mem_splitLines (List.mem_of_getElem? hk) h)

theorem spliceLines_expandLineBreaks {t replacement : Text} (ht : 0x0D ∉ t)
    (hr : 0x0D ∉ replacement) (first last : Nat) :
    spliceLines (expandLineBreaks t) ⟨first + 1, last + 1⟩ (expandLineBreaks replacement) =
      expandLineBreaks (spliceLines t ⟨first + 1, last + 1⟩ replacement) := by
  have hline : (splitLines (expandLineBreaks t)).getD last [] =
      expandLineBreaks ((splitLines t).getD last []) := by
    rw [splitLines_expandLineBreaks]
    exact List.getD_map (splitLines t) [] expandLineBreaks
  rw [spliceLines_eq, spliceLines_eq, hline,
    closedLike_expandLineBreaks (getD_splitLines_plain ht last) hr, splitLines_expandLineBreaks,
    expandLineBreaks_append, expandLineBreaks_append, expandLineBreaks_flatten,
    expandLineBreaks_flatten, List.map_take, List.map_drop]

theorem spliceLines_plain {t replacement : Text} (ht : 0x0D ∉ t) (hr : 0x0D ∉ replacement)
    (first last : Nat) : 0x0D ∉ spliceLines t ⟨first + 1, last + 1⟩ replacement := by
  intro h
  rw [spliceLines_eq, List.mem_append, List.mem_append] at h
  rcases h with (h | h) | h
  · apply ht
    rw [← flatten_take_append_drop t first]
    exact List.mem_append_left _ h
  · unfold closedLike at h
    split_ifs at h
    · simp at h
    · rcases List.mem_append.1 h with h | h
      · exact hr (List.mem_of_mem_take h)
      · apply getD_splitLines_plain ht last
        rw [← stripTerminator_append_terminator ((splitLines t).getD last [])]
        exact List.mem_append_right _ h
  · apply ht
    rw [← flatten_take_append_drop t (last + 1)]
    exact List.mem_append_right _ h

/-! ## Locating -/

theorem lineStarts_expandLineBreaks {t : Text} {k : Nat} (hk : k < (splitLines t).length) :
    (lineStarts (expandLineBreaks t)).getD k 0 = crlfOffset t ((lineStarts t).getD k 0) := by
  have hk' : k < (splitLines (expandLineBreaks t)).length := by
    rwa [splitLines_expandLineBreaks, List.length_map]
  rw [lineStarts_getD _ hk', splitLines_expandLineBreaks, ← List.map_take,
    ← expandLineBreaks_flatten, crlfOffset, take_lineStart hk]

/-- The match in CR LF: the same lines, at their offsets there. -/
def Match.inCrlf (t : Text) (m : Match) : Match :=
  ⟨m.span, crlfOffset t m.startOffset, crlfOffset t m.endOffset⟩

/-- The content of a line holds no line break, so that its end moves as its start does. -/
theorem crlfOffset_content {t : Text} {k : Nat} (hk : k < (splitLines t).length) :
    crlfOffset t ((lineStarts t).getD k 0 +
        (((splitLines t).map stripTerminator).getD k []).length) =
      crlfOffset t ((lineStarts t).getD k 0) +
        (((splitLines t).map stripTerminator).getD k []).length := by
  have hline : ((splitLines t).map stripTerminator).getD k [] =
      stripTerminator (splitLines t)[k] := by
    simp [List.getD_eq_getElem?_getD, hk]
  have hrest : t.drop ((lineStarts t).getD k 0) = stripTerminator (splitLines t)[k] ++
      (terminator (splitLines t)[k] ++ ((splitLines t).drop (k + 1)).flatten) := by
    rw [drop_lineStart hk, List.drop_eq_getElem_cons hk, List.flatten_cons, ← List.append_assoc,
      stripTerminator_append_terminator]
  have hcontent : 0x0A ∉ stripTerminator (splitLines t)[k] :=
    (isLines_splitLines t).lf_not_mem_content (List.getElem_mem hk)
  rw [hline, crlfOffset_add, hrest, List.take_left, expandLineBreaks_eq_self hcontent]

/-- A function is found on the same lines, and otherwise missed for the same reason. -/
theorem locateSignature_expandLineBreaks {t : Text} (ht : 0x0D ∉ t)
    (table table' : Code.FunctionTable) (signature : Text) (gate : Option Text) :
    locateSignature table' (expandLineBreaks t) signature (.columnZeroBrace gate) =
      (locateSignature table t signature (.columnZeroBrace gate)).map (Match.inCrlf t) := by
  have hempty : (expandLineBreaks t).isEmpty = t.isEmpty := by
    rw [Bool.eq_iff_iff, List.isEmpty_iff, List.isEmpty_iff, expandLineBreaks_eq_nil_iff]
  unfold locateSignature
  rw [hempty, contents_expandLineBreaks ht]
  split_ifs with hne
  · rfl
  dsimp only
  rcases hc : candidates signature 0 ((splitLines t).map stripTerminator) with
    _ | ⟨first, _ | ⟨second, rest⟩⟩
  · rfl
  · cases hl : closingLine gate (first + 1)
        (((splitLines t).map stripTerminator).drop (first + 1)) with
    | none => simp only [hl]; rfl
    | some last =>
      have hbounds := closingLine_bounds hl
      simp only [List.length_drop, List.length_map] at hbounds
      have hfirst : first < (splitLines t).length := by omega
      have hlast : last < (splitLines t).length := by omega
      simp only [hl, Except.map, Match.inCrlf, crlfOffset_content hlast,
        lineStarts_expandLineBreaks hfirst, lineStarts_expandLineBreaks hlast]
  · rfl

/-! ## Applying -/

theorem columnZeroBrace_startLine_lt {table : Code.FunctionTable} {t signature : Text}
    {gate : Option Text} {m : Match}
    (h : locateSignature table t signature (.columnZeroBrace gate) = .ok m) :
    m.span.startLine < m.span.endLine := by
  unfold locateSignature at h
  split_ifs at h
  dsimp only at h
  split at h
  next => simp at h
  next first _ =>
    split at h
    next last hclose =>
      obtain rfl := Except.ok.inj h
      have := (closingLine_bounds hclose).1
      show first + 1 < last + 1
      omega
    next => simp [Except.map] at h
  next => simp at h

section SignaturePatch

variable {t signature : Text} {stop : EndMarker} {spec : PatchSpec} {m : Match} {first last : Nat}

theorem lineEndingAt_inCrlf (hlf : 0x0A ∈ t) (h : FoundLines signature t m first last) :
    lineEndingAt (expandLineBreaks t) (m.inCrlf t).startOffset (m.inCrlf t).endOffset = .crlf := by
  obtain ⟨content, -, -, hend⟩ := h.split
  exact lineEndingAt_expandLineBreaks hlf (by omega)

/-- A copy covers the lines in CR LF exactly when it covers them in the text. -/
theorem coveredByReplacement_inCrlf {body : Text} (ht : 0x0D ∉ t) (hbody : 0x0D ∉ body)
    (h : FoundLines signature t m first last) :
    coveredByReplacement (expandLineBreaks t) (expandLineBreaks body) (m.inCrlf t).startOffset
        (m.inCrlf t).endOffset =
      coveredByReplacement t body m.startOffset m.endOffset := by
  obtain ⟨content, hne, htext, hend⟩ := h.split
  have hocc : OccursAt content t m.startOffset := ⟨_, _, htext, h.startOffset_eq.symm⟩
  have hlt : m.startOffset + 1 ≤ t.length := by
    have := hocc.add_length_le
    have := List.length_pos_iff.2 hne
    omega
  rw [Bool.eq_iff_iff, coveredByReplacement_iff, coveredByReplacement_iff, Match.inCrlf, hend]
  exact copyAround_crlf_iff_plain ht hbody (.inr rfl) hocc hne (Nat.le_refl _)
    (crlfOffset_lt (Nat.lt_add_one _) hlt)

variable (hs : spec.locator = .signature signature stop) (ht : 0x0D ∉ t)
  (hr : 0x0D ∉ spec.replacement)
include hs ht hr

theorem insertedAt_plain : spec.insertedAt t m = stripTerminator spec.replacement := by
  simp only [PatchSpec.insertedAt, hs, lineEndingAt_plain ht, toLineEnding_lf hr]

omit ht in
theorem insertedAt_inCrlf (hlf : 0x0A ∈ t) (h : FoundLines signature t m first last) :
    spec.insertedAt (expandLineBreaks t) (m.inCrlf t) =
      expandLineBreaks (stripTerminator spec.replacement) := by
  simp only [PatchSpec.insertedAt, hs, lineEndingAt_inCrlf hlf h, toLineEnding_crlf hr]
  exact stripTerminator_expandLineBreaks (not_crlf_of_plain hr)

theorem appliedAt_inCrlf (hlf : 0x0A ∈ t) (h : FoundLines signature t m first last) :
    spec.appliedAt (expandLineBreaks t) (m.inCrlf t) =
      toLineEnding (spec.appliedAt t m) .crlf := by
  simp only [PatchSpec.appliedAt, hs, lineEndingAt_inCrlf hlf h, lineEndingAt_plain ht,
    toLineEnding_lf hr, toLineEnding_crlf hr]
  rw [Match.inCrlf, h.span_eq, spliceLines_expandLineBreaks ht hr,
    toLineEnding_crlf (spliceLines_plain ht hr first last)]

/-- Lines that were found are replaced alike, or found to be replaced already. -/
theorem applyAt_inCrlf (hlf : 0x0A ∈ t) (h : FoundLines signature t m first last) :
    applyAt (expandLineBreaks t) spec (m.inCrlf t) =
      (applyAt t spec m).map (Patched.inEnding .crlf) := by
  have hbody : 0x0D ∉ stripTerminator spec.replacement := fun h => hr (List.mem_of_mem_take h)
  rw [applyAt_eq, applyAt_eq, insertedAt_plain hs ht hr, insertedAt_inCrlf hs hr hlf h,
    coveredByReplacement_inCrlf ht hbody h, appliedAt_inCrlf hs ht hr hlf h]
  split_ifs
  · rfl
  · rfl

theorem refuse_expandLineBreaks (cause : LocateFailure) :
    refuse (expandLineBreaks t) spec cause = refuse t spec cause := by
  have hbody : 0x0D ∉ spec.inserted := by
    simp only [PatchSpec.inserted, hs]
    exact fun h => hr (List.mem_of_mem_take h)
  unfold refuse
  rw [length_findFirstSpelling_crlf hbody, (findFirstSpelling_in_plain hbody ht).1]

end SignaturePatch

/-- A patch of a function that ends at a lone closing brace does the same to a text in CR LF as to
the text itself: the same lines are replaced and the text is the same in CR LF, or the patch fails
with the same failure. -/
theorem signature_patch_in_crlf {t signature : Text} {gate : Option Text} {spec : PatchSpec}
    (hs : spec.locator = .signature signature (.columnZeroBrace gate)) (ht : 0x0D ∉ t)
    (hr : 0x0D ∉ spec.replacement) :
    applyPatch (toLineEnding t .crlf) spec =
      (applyPatch t spec).map (Patched.inEnding .crlf) := by
  rw [toLineEnding_crlf ht, applyPatch, applyPatch, hs, locate_signature, locate_signature,
    locateSignature_expandLineBreaks ht (.build t)]
  cases hl : locateSignature (.build t) t signature (.columnZeroBrace gate) with
  | error cause =>
    show Except.error (refuse (expandLineBreaks t) spec cause) = .error (refuse t spec cause)
    rw [refuse_expandLineBreaks hs ht hr]
  | ok m =>
    obtain ⟨first, last, hfound⟩ := locateSignature_ok hl
    have hlines : first + 1 < last + 1 := by
      have := columnZeroBrace_startLine_lt hl
      rwa [hfound.span_eq] at this
    -- it ends on a later line than it starts on: there is a line break to tell the ending by
    have hlf : 0x0A ∈ t := lf_mem_of_lines (by omega) hfound.last_lt
    exact applyAt_inCrlf hs ht hr hlf hfound

/-- A function with an inner block whose brace stands at the start of its line. -/
def gatedText : Text := "int f(void)\n\x7b\nif (n)\n\x7b\n\x7d\n\x7d\n// end of f\nint n;"

/-- Replaces the function up to the brace before the comment. -/
def gatedPatch : PatchSpec where
  id := "p1"
  targetFile := "a.c"
  description := none
  locator := .signature "f(void)" (.columnZeroBrace (some "end of f"))
  replacement := "\nint f(void)\n\x7b\n\x7d\n"

/-- The text with the function replaced. -/
def gatedResult : Text := "\nint f(void)\n\x7b\n\x7d\n// end of f\nint n;"

/-- The replacement begins with a line break. -/
theorem signature_patch_in_crlf_gated :
    applyPatch gatedText gatedPatch = .ok ⟨gatedResult, ⟨1, 6⟩⟩ ∧
      applyPatch (toLineEnding gatedText .crlf) gatedPatch =
        .ok ⟨toLineEnding gatedResult .crlf, ⟨1, 6⟩⟩ := by
  have hplain : 0x0D ∉ gatedText := by decide
  have hreplacement : 0x0D ∉ gatedPatch.replacement := by decide
  have happlied : applyPatch gatedText gatedPatch = .ok ⟨gatedResult, ⟨1, 6⟩⟩ := by
    decide +kernel
  refine ⟨happlied, ?_⟩
  rw [signature_patch_in_crlf rfl hplain hreplacement, happlied]
  rfl

end Remedy
