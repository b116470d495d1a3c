import Remedy.Proofs.CodeOrder
import Remedy.Proofs.Search

/-!
# What a locator finds

An exact locator finds the only occurrence of a spelling of its anchor (`locateExact_ok`). A
signature locator finds a range of lines that starts on the only line it can start on
(`locateSignature_ok`), whichever rule gives its end.
-/

namespace Remedy

/-! ## Exact locators -/

/-- The match is the only occurrence of the needle. -/
structure SoleOccurrence (needle t : Text) (m : Match) : Prop where
  ne_nil : needle ≠ []
  occursAt_iff : ∀ i, OccursAt needle t i ↔ i = m.startOffset
  endOffset_eq : m.endOffset = m.startOffset + needle.length

theorem SoleOccurrence.occursAt {needle t : Text} {m : Match} (h : SoleOccurrence needle t m) :
    OccursAt needle t m.startOffset := (h.occursAt_iff _).2 rfl

theorem SoleOccurrence.slice_eq {needle t : Text} {m : Match} (h : SoleOccurrence needle t m) :
    t.slice m.startOffset m.endOffset = needle := by
  rw [h.endOffset_eq]
  exact h.occursAt.slice_eq

theorem locateExact_ok {t anchor : Text} {m : Match} (h : locateExact t anchor = .ok m) :
    ∃ needle ∈ spellings anchor t, SoleOccurrence needle t m := by
  have hfound := findFirstSpelling_spec t anchor
  unfold locateExact at h
  split_ifs at h
  dsimp only at h
  split at h
  next => simp at h
  next offset hoff =>
    obtain rfl := Except.ok.inj h
    rw [hoff] at hfound
    refine ⟨_, hfound.1, ?_⟩
    have hmem (i : Nat) : i = offset ↔ (findFirstSpelling t anchor).needle ≠ [] ∧
        OccursAt (findFirstSpelling t anchor).needle t i := by
      rw [← mem_findAll, ← hfound.2, List.mem_singleton]
    have hne := ((hmem offset).1 rfl).1
    exact ⟨hne, fun i => ⟨fun hi => (hmem i).2 ⟨hne, hi⟩, fun hi => ((hmem i).1 hi).2⟩, rfl⟩
  next => simp at h

/-! ## Signature locators -/

/-- A line the signature can be found on: it contains the signature and is no prototype. -/
def IsCandidate (signature line : Text) : Prop :=
  line.includes signature = true ∧ line.trimEnd.endsWith ";" = false

theorem mem_candidates {signature : Text} {i j : Nat} {lines : List Text} :
    j ∈ candidates signature i lines ↔
      ∃ k line, j = i + k ∧ lines[k]? = some line ∧ IsCandidate signature line := by
  induction lines generalizing i with
  | nil => simp [candidates]
  | cons first lines ih =>
    have later : (∃ k line, j = i + k ∧ (first :: lines)[k]? = some line ∧
          IsCandidate signature line) ↔
        (j = i ∧ IsCandidate signature first) ∨
          ∃ k line, j = i + 1 + k ∧ lines[k]? = some line ∧ IsCandidate signature line := by
      constructor
      · rintro ⟨k, line, rfl, hk, h⟩
        cases k with
        | zero => exact .inl ⟨rfl, by simp at hk; exact hk ▸ h⟩
        | succ k => exact .inr ⟨k, line, by omega, by simpa using hk, h⟩
      · rintro (⟨rfl, h⟩ | ⟨k, line, rfl, hk, h⟩)
        · exact ⟨0, first, rfl, rfl, h⟩
        · exact ⟨k + 1, line, by omega, by simpa using hk, h⟩
    rw [candidates, later]
    split_ifs with h
    · have h : IsCandidate signature first := by simpa [IsCandidate] using h
      simp [ih, h]
    · have h : ¬ IsCandidate signature first := by simpa [IsCandidate] using h
      simp [ih, h]

/-- The match is made of the lines with indices `first` to `last`, and starts on the only line that
the signature can be found on. -/
structure FoundLines (signature t : Text) (m : Match) (first last : Nat) : Prop where
  signature_ne_nil : signature ≠ []
  span_eq : m.span = ⟨first + 1, last + 1⟩
  first_le : first ≤ last
  last_lt : last < (splitLines t).length
  startOffset_eq : m.startOffset = ((splitLines t).take first).flatten.length
  endOffset_eq : m.endOffset = ((splitLines t).take last).flatten.length +
    (stripTerminator ((splitLines t).getD last [])).length
  candidate_iff : ∀ k line, (splitLines t)[k]? = some line →
    (IsCandidate signature (stripTerminator line) ↔ k = first)

theorem closingLine_bounds {gate : Option Text} {i j : Nat} {lines : List Text}
    (h : closingLine gate i lines = some j) : i ≤ j ∧ j < i + lines.length := by
  fun_induction closingLine gate i lines with
  | case1 => simp at h
  | case2 i line lines passes hp =>
    obtain rfl : i = j := by simpa using h
    simp
  | case3 i line lines passes hp ih =>
    have := ih h
    simp
    omega

/-- The body opened on a line does not close on an earlier one. -/
theorem lt_lineAt_bodyEnd {t : Text} {line b : Nat} (hline : line < (splitLines t).length)
    (h : bodyEnd (.build t) t (lineStarts t) (line + 1) = some b) :
    line < lineAt (lineStarts t) b := by
  have ht : t ≠ [] := by
    rintro rfl
    simp [splitLines] at hline
  have hblock (h : Code.blockEnd t ((lineStarts t).getD line 0) = some b) :
      line < lineAt (lineStarts t) b :=
    (lt_lineAt_iff b hline).2 (.inr (Code.le_blockEnd h))
  unfold bodyEnd at h
  split at h
  next entry hat =>
    split_ifs at h with hle
    · obtain rfl : entry.endOffset = b := by simpa using h
      have hlt := Code.FunctionTable.body_lt (Code.FunctionTable.mem_of_at? hat)
      have := lineAt_mono ht (show (entry.bodyOffset : Int) ≤ entry.endOffset by omega)
      omega
    · exact hblock h
  next => exact hblock h

theorem locateSignature_ok {t signature : Text} {stop : EndMarker} {m : Match}
    (h : locateSignature (.build t) t signature stop = .ok m) :
    ∃ first last, FoundLines signature t m first last := by
  unfold locateSignature at h
  split_ifs at h with hempty
  have ht : t ≠ [] := by simp_all
  have hsig : signature ≠ [] := by simp_all
  dsimp only at h
  split at h
  next => simp at h
  next first hfirst =>
    have hcand (k : Nat) (line : Text) (hk : (splitLines t)[k]? = some line) :
        IsCandidate signature (stripTerminator line) ↔ k = first := by
      have hmem : k ∈ candidates signature 0 ((splitLines t).map stripTerminator) ↔ k = first := by
        rw [hfirst, List.mem_singleton]
      rw [← hmem, mem_candidates]
      constructor
      · exact fun h => ⟨k, _, by simp, by simp [hk], h⟩
      · rintro ⟨k', line', hkk, hk', h⟩
        obtain rfl : k = k' := by omega
        rw [List.getElem?_map, hk] at hk'
        simpa using (Option.some.inj hk') ▸ h
    have hlt : first < (splitLines t).length := by
      obtain ⟨k, line, hk, hline, -⟩ := mem_candidates.1
        (show first ∈ candidates signature 0 ((splitLines t).map stripTerminator) by simp [hfirst])
      have := (List.getElem?_eq_some_iff.1 hline).1
      simp at this
      omega
    -- both rules for the end give a line at or after the first one
    obtain ⟨last, hle, hlast, rfl⟩ : ∃ last, first ≤ last ∧ last < (splitLines t).length ∧
        m = ⟨⟨first + 1, last + 1⟩, (lineStarts t).getD first 0, (lineStarts t).getD last 0 +
          (((splitLines t).map stripTerminator).getD last []).length⟩ := by
      cases stop with
      | columnZeroBrace gate =>
        dsimp only at h
        split at h
        next last hclose =>
          have := closingLine_bounds hclose
          simp only [List.length_drop, List.length_map] at this
          exact ⟨last, by omega, by omega, (Except.ok.inj h).symm⟩
        next => simp [Except.map] at h
      | braceDepth =>
        dsimp only at h
        split at h
        next brace hbody =>
          have := lt_lineAt_bodyEnd hlt hbody
          have := lineAt_le ht brace
          exact ⟨_, by omega, by omega, (Except.ok.inj h).symm⟩
        next => simp [Except.map] at h
    refine ⟨first, last, hsig, rfl, hle, hlast, lineStarts_getD t hlt, ?_, hcand⟩
    rw [lineStarts_getD t hlast, List.getD_eq_getElem?_getD, List.getD_eq_getElem?_getD,
      List.getElem?_map, List.getElem?_eq_getElem hlast]
    rfl
  next => simp at h

/-- Finding by an exact locator. -/
theorem locate_exact (t anchor : Text) : locate t (.exact anchor) = locateExact t anchor := rfl

theorem locate_signature (t signature : Text) (stop : EndMarker) :
    locate t (.signature signature stop) = locateSignature (.build t) t signature stop := rfl

end Remedy
