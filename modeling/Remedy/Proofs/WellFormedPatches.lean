import Remedy.Proofs.CrlfTexts
import Remedy.Proofs.Patching
import Remedy.Proofs.PatchSets
import Remedy.Proofs.Utf8Codec

/-!
# Patches keep texts well formed

A text is cut where an anchor begins or ends and between lines. None of these places lies within a
surrogate pair, since an anchor that is well formed does not begin or end with half of one, and
nor does a line break. What is put between the parts is well formed too, so the patched text is
(`wellFormed_applyPatches`).
-/

namespace Remedy

namespace Text.WellFormed

variable {a b t needle : Text}

theorem tail_of_not_high {c : CodeUnit} (h : WellFormed (c :: t))
    (hc : c.isHighSurrogate = false) : WellFormed t := by
  cases h with
  | unit _ _ h => exact h
  | pair hhigh _ _ => simp [hc] at hhigh

/-- What follows a well-formed text in another one is well formed. -/
theorem of_append (ha : WellFormed a) (h : WellFormed (a ++ b)) : WellFormed b := by
  induction ha with
  | nil => exact h
  | unit hhigh _ _ ih => exact ih (h.tail_of_not_high hhigh)
  | pair hc _ _ ih =>
    cases h with
    | unit hhigh _ _ => simp [hc] at hhigh
    | pair _ _ h => exact ih h

/-- A cut before a unit that is no second half of a pair. -/
theorem cut (h : WellFormed (a ++ b)) (hb : ∀ c ∈ b.head?, c.isLowSurrogate = false) :
    WellFormed a ∧ WellFormed b := by
  generalize ht : a ++ b = t at h
  induction h generalizing a with
  | nil =>
    obtain ⟨rfl, rfl⟩ := List.append_eq_nil_iff.1 ht
    exact ⟨.nil, .nil⟩
  | unit hhigh hlow h ih =>
    cases a with
    | nil => exact ⟨.nil, (show b = _ from ht) ▸ .unit hhigh hlow h⟩
    | cons c a =>
      rw [List.cons_append, List.cons.injEq] at ht
      exact (ih ht.2).imp_left (ht.1 ▸ .unit hhigh hlow)
  | pair hc hd h ih =>
    match a with
    | [] => exact ⟨.nil, (show b = _ from ht) ▸ .pair hc hd h⟩
    | [c] =>
      obtain rfl : b = _ := (List.cons.inj ht).2
      simp [hb _ rfl] at hd
    | c :: d :: a =>
      rw [List.cons_append, List.cons_append, List.cons.injEq, List.cons.injEq] at ht
      obtain ⟨rfl, rfl, ht⟩ := ht
      exact (ih ht).imp_left (.pair hc hd)

theorem head_not_low (h : WellFormed t) : ∀ c ∈ t.head?, c.isLowSurrogate = false := by
  cases h with
  | nil => simp
  | unit _ hlow _ => simpa using hlow
  | pair hc _ _ =>
    rw [isHighSurrogate_iff] at hc
    simp only [List.head?_cons, Option.mem_some_iff, forall_eq', Bool.eq_false_iff, Ne,
      isLowSurrogate_iff]
    omega

/-- What stands around an occurrence. -/
theorem around (h : WellFormed (a ++ needle ++ b)) (hneedle : WellFormed needle)
    (hne : needle ≠ []) : WellFormed a ∧ WellFormed b := by
  rw [List.append_assoc] at h
  have hcut := h.cut fun c hc => hneedle.head_not_low c (by
    obtain ⟨d, needle, rfl⟩ := List.exists_cons_of_ne_nil hne
    exact hc)
  exact ⟨hcut.1, hneedle.of_append hcut.2⟩

theorem flatten {lines : List Text} (h : ∀ line ∈ lines, WellFormed line) :
    WellFormed lines.flatten := by
  induction lines with
  | nil => exact .nil
  | cons line lines ih =>
    rw [List.forall_mem_cons] at h
    exact h.1.append (ih h.2)

/-! ## Line breaks -/

theorem lf (h : WellFormed t) : WellFormed (0x0A :: t) :=
  .of_not_surrogate (.inl (by decide)) h

theorem cr (h : WellFormed t) : WellFormed (0x0D :: t) :=
  .of_not_surrogate (.inl (by decide)) h

theorem unifyLineBreaks (h : WellFormed t) : WellFormed (unifyLineBreaks t) := by
  induction h with
  | nil => exact .nil
  | @unit c t hhigh hlow h ih =>
    by_cases hbreak : c = 0x0D ∧ t.head? = some 0x0A
    · obtain ⟨rfl, ht⟩ := hbreak
      obtain ⟨t, rfl⟩ := List.head?_eq_some_iff.1 ht
      -- the line feed stays, and what was made of the text from there on is well formed
      rwa [Remedy.unifyLineBreaks, ← unifyLineBreaks_cons (by simp)]
    · rw [unifyLineBreaks_cons fun hc ht => hbreak ⟨hc, ht⟩]
      exact .unit hhigh hlow ih
  | @pair c d t hc hd h ih =>
    have hcr : c ≠ 0x0D := by rintro rfl; simp [CodeUnit.isHighSurrogate] at hc
    have hdr : d ≠ 0x0D := by rintro rfl; simp [CodeUnit.isLowSurrogate] at hd
    rw [unifyLineBreaks_cons fun h => absurd h hcr, unifyLineBreaks_cons fun h => absurd h hdr]
    exact .pair hc hd ih

theorem expandLineBreaks (h : WellFormed t) : WellFormed (expandLineBreaks t) := by
  induction h with
  | nil => exact .nil
  | @unit c t hhigh hlow h ih =>
    by_cases hc : c = 0x0A
    · rw [hc, expandLineBreaks_lf]
      exact ih.lf.cr
    · rw [expandLineBreaks_cons hc]
      exact .unit hhigh hlow ih
  | @pair c d t hc hd h ih =>
    have hcr : c ≠ 0x0A := by rintro rfl; simp [CodeUnit.isHighSurrogate] at hc
    have hdr : d ≠ 0x0A := by rintro rfl; simp [CodeUnit.isLowSurrogate] at hd
    rw [expandLineBreaks_cons hcr, expandLineBreaks_cons hdr]
    exact .pair hc hd ih

theorem toLineEnding (h : WellFormed t) (ending : LineEnding) :
    WellFormed (toLineEnding t ending) := by
  cases ending with
  | lf => exact h.unifyLineBreaks
  | crlf => exact h.unifyLineBreaks.expandLineBreaks

theorem of_mem_spellings (h : WellFormed t) (hneedle : needle ∈ spellings t a) :
    WellFormed needle := by
  obtain rfl | rfl | rfl := mem_spellings.1 hneedle
  · exact h
  · exact h.toLineEnding _
  · exact h.toLineEnding _

theorem terminator (t : Text) : WellFormed (terminator t) := by
  rcases terminator_cases t with ⟨-, -, h⟩ | ⟨-, -, -, h⟩ | ⟨-, h⟩ <;> rw [h]
  · exact nil.lf.cr
  · exact nil.lf
  · exact .nil

theorem stripTerminator (h : WellFormed t) : WellFormed (stripTerminator t) := by
  rw [← stripTerminator_append_terminator t] at h
  exact (h.cut (terminator t).head_not_low).1

theorem of_isLines {lines : List Text} (hlines : IsLines lines) (h : WellFormed lines.flatten) :
    ∀ line ∈ lines, WellFormed line := by
  induction hlines with
  | nil => simp
  | last => simpa using h
  | cons _ _ ih =>
    obtain ⟨hbody, hrest⟩ := around h nil.lf (by simp)
    exact List.forall_mem_cons.2 ⟨hbody.append nil.lf, ih hrest⟩

theorem splitLines (h : WellFormed t) : ∀ line ∈ splitLines t, WellFormed line :=
  of_isLines (isLines_splitLines t) (by rwa [flatten_splitLines])

theorem spliceLines (h : WellFormed t) {replacement : Text} (hr : WellFormed replacement)
    (first last : Nat) : WellFormed (spliceLines t ⟨first + 1, last + 1⟩ replacement) := by
  have hclosed : WellFormed (closedLike ((Remedy.splitLines t).getD last []) replacement) := by
    unfold closedLike
    split_ifs
    · exact .nil
    · exact hr.stripTerminator.append (terminator _)
  rw [spliceLines_eq]
  exact ((flatten fun line hline => h.splitLines line (List.mem_of_mem_take hline)).append
    hclosed).append (flatten fun line hline => h.splitLines line (List.mem_of_mem_drop hline))

end Text.WellFormed

/-! ## Patches -/

/-- The texts of a patch that decide where a text is cut and what is put there. -/
structure PatchSpec.WellFormed (spec : PatchSpec) : Prop where
  anchor : ∀ anchor, spec.locator = .exact anchor → anchor.WellFormed
  replacement : spec.replacement.WellFormed

theorem wellFormed_applyPatch {t : Text} {spec : PatchSpec} {p : Patched} (ht : t.WellFormed)
    (hspec : spec.WellFormed) (h : applyPatch t spec = .ok p) : p.text.WellFormed := by
  obtain ⟨m, hm, -, rfl⟩ := applyPatch_ok_iff.1 h
  have hinserted := hspec.replacement.toLineEnding (lineEndingAt t m.startOffset m.endOffset)
  rcases hlocator : spec.locator with anchor | ⟨signature, stop⟩
  · rw [hlocator, locate_exact] at hm
    obtain ⟨needle, hneedle, hsole⟩ := locateExact_ok hm
    have hwell := (hspec.anchor anchor hlocator).of_mem_spellings hneedle
    obtain ⟨before, after, heq, hbefore⟩ := hsole.occursAt
    have htake : t.take m.startOffset = before := by
      rw [heq, ← hbefore, List.append_assoc, List.take_left]
    have hdrop : t.drop m.endOffset = after := by
      rw [hsole.endOffset_eq, ← hbefore, ← List.length_append, heq, List.drop_left]
    obtain ⟨hwellBefore, hwellAfter⟩ := (heq ▸ ht).around hwell hsole.ne_nil
    simp only [PatchSpec.appliedAt, PatchSpec.insertedAt, hlocator, htake, hdrop]
    exact (hwellBefore.append hinserted).append hwellAfter
  · rw [hlocator, locate_signature] at hm
    obtain ⟨first, last, hfound⟩ := locateSignature_ok hm
    simp only [PatchSpec.appliedAt, hlocator, hfound.span_eq]
    exact ht.spliceLines hinserted first last

theorem wellFormed_attemptPatches {t : Text} {specs : List PatchSpec} (ht : t.WellFormed)
    (hspecs : ∀ spec ∈ specs, spec.WellFormed) : (attemptPatches t specs).1.WellFormed := by
  induction specs generalizing t with
  | nil => exact ht
  | cons spec specs ih =>
    rw [List.forall_mem_cons] at hspecs
    unfold attemptPatches
    dsimp only
    split
    · exact ih (wellFormed_applyPatch ht hspecs.1 ‹_›) hspecs.2
    · exact ih ht hspecs.2

theorem wellFormed_applyPatches {t : Text} {specs : List PatchSpec} (ht : t.WellFormed)
    (hspecs : ∀ spec ∈ specs, spec.WellFormed) : (applyPatches t specs).text.WellFormed := by
  cases hfailed : (attemptPatches t specs).2.2 with
  | true => rwa [applyPatches_of_failed hfailed]
  | false =>
    rw [applyPatches_of_not_failed hfailed]
    exact wellFormed_attemptPatches ht hspecs

end Remedy
