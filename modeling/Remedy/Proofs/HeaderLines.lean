import Mathlib.Data.List.Sort
import Remedy.Proofs.FunctionTables
import Remedy.Proofs.Locate

/-!
# Signatures in the header of a function

A signature that is found in the header of a function should be located with the lines of that
function. The end is looked up by the line of the signature, and the first function on that line is
taken. So it is the right one unless another function ends on the line, before the header: then
nothing is found or a range that ends on the line itself (`locate_of_signedHeader`).
-/

namespace Remedy

open Code

/-! ## Lines -/

/-- An offset within a line is on it. -/
theorem lineAt_of_within {t : Text} {k o : Nat} (hk : k < (splitLines t).length)
    (hlow : (lineStarts t).getD k 0 ≤ o)
    (hhigh : o < (lineStarts t).getD k 0 + ((splitLines t).getD k []).length) :
    lineAt (lineStarts t) o = k + 1 := by
  have ht : t ≠ [] := by
    rintro rfl
    simp [splitLines] at hk
  have hbeyond : k < lineAt (lineStarts t) o := (lt_lineAt_iff o hk).2 (.inr (by omega))
  have hle := lineAt_le ht o
  by_contra hne
  have hnext : k + 1 < (splitLines t).length := by omega
  have hstart := ((lt_lineAt_iff o hnext).1 (by omega)).resolve_left (by omega)
  -- the next line starts where this one ends
  have hlines : ((splitLines t).take (k + 1)).flatten.length =
      ((splitLines t).take k).flatten.length + ((splitLines t).getD k []).length := by
    rw [List.take_succ_eq_append_getElem hk, List.flatten_append, List.length_append,
      List.getD_eq_getElem?_getD, List.getElem?_eq_getElem hk]
    simp
  rw [lineStarts_getD t hnext, hlines, ← lineStarts_getD t hk] at hstart
  omega

/-! ## The only candidate -/

theorem pairwise_candidates (signature : Text) (i : Nat) (lines : List Text) :
    (candidates signature i lines).Pairwise (· < ·) := by
  induction lines generalizing i with
  | nil => exact .nil
  | cons line lines ih =>
    unfold candidates
    split_ifs
    · refine List.pairwise_cons.2 ⟨fun j hj => ?_, ih (i + 1)⟩
      obtain ⟨k, _, rfl, -⟩ := mem_candidates.1 hj
      omega
    · exact ih (i + 1)

theorem candidates_eq_singleton_iff {signature : Text} {lines : List Text} {first : Nat} :
    candidates signature 0 lines = [first] ↔ first < lines.length ∧
      ∀ k line, lines[k]? = some line → (IsCandidate signature line ↔ k = first) := by
  have hmem (k : Nat) : k ∈ candidates signature 0 lines ↔
      ∃ line, lines[k]? = some line ∧ IsCandidate signature line := by
    simp [mem_candidates]
  constructor
  · intro h
    simp only [h, List.mem_singleton] at hmem
    obtain ⟨line, hline, -⟩ := (hmem first).1 rfl
    refine ⟨(List.getElem?_eq_some_iff.1 hline).1, fun k line hk => ?_⟩
    rw [hmem, hk]
    simp
  · rintro ⟨hfirst, h⟩
    refine (pairwise_candidates signature 0 lines).eq_of_mem_iff (List.pairwise_singleton _ _)
      fun k => ?_
    rw [hmem, List.mem_singleton]
    constructor
    · rintro ⟨line, hk, hline⟩
      exact (h k line hk).1 hline
    · rintro rfl
      have hline := List.getElem?_eq_getElem hfirst
      exact ⟨_, hline, (h k _ hline).2 rfl⟩

/-- Where a function found by its signature ends is a matter of the line it starts on. -/
theorem locate_braceDepth {t signature : Text} {first : Nat} (ht : t ≠ []) (hsig : signature ≠ [])
    (hcand : candidates signature 0 ((splitLines t).map stripTerminator) = [first]) :
    (locate t (.signature signature .braceDepth)).map Match.span =
      match bodyEnd (.build t) t (lineStarts t) (first + 1) with
      | some brace => .ok ⟨first + 1, lineAt (lineStarts t) brace⟩
      | none => .error (.noBody signature (first + 1)) := by
  rw [locate_signature, locateSignature, if_neg (by simp [ht, hsig])]
  simp only [hcand]
  cases bodyEnd (.build t) t (lineStarts t) (first + 1) with
  | none => rfl
  | some brace =>
    have := lineAt_pos (lineStarts t) brace
    simp only [Except.map, Nat.sub_add_cancel this]

/-! ## The function on a line -/

section Covers

variable {t : Text} {e : FunctionEntry} {line : Nat}

/-- Of the functions on a line the first is looked up. -/
theorem at?_of_covers (he : e ∈ (FunctionTable.build t).entries) (hstart : e.span.startLine ≤ line)
    (hend : line ≤ e.span.endLine) :
    ∃ f ∈ (FunctionTable.build t).entries, (FunctionTable.build t).at? line = some f ∧
      line ≤ f.span.endLine ∧ (f = e ∨ f.endOffset < e.startOffset) := by
  have hcovers : ((FunctionTable.build t).at? line).isSome := by
    rw [FunctionTable.at?, List.find?_isSome]
    exact ⟨e, he, by simp [hstart, hend]⟩
  obtain ⟨f, hf⟩ := Option.isSome_iff_exists.1 hcovers
  obtain ⟨hline, before, after, hentries, hbefore⟩ := List.find?_eq_some_iff_append.1 hf
  refine ⟨f, FunctionTable.mem_of_at? hf, hf, ?_, ?_⟩
  · simp only [decide_eq_true_eq] at hline
    exact Int.ofNat_le.1 hline.2
  · rw [hentries, List.mem_append, List.mem_cons] at he
    rcases he with he | he | he
    · have := hbefore e he
      simp [hstart, hend] at this
    · exact .inl he.symm
    · have horder := pairwise_entries t
      rw [hentries, List.pairwise_append, List.pairwise_cons] at horder
      exact .inr (horder.2.1.1 e he)

/-- From inside a body, the search for the end of a block does not lead out of it. -/
theorem blockEnd_lt_of_inside (he : e ∈ (FunctionTable.build t).entries) {start b : Nat}
    (hbody : e.bodyOffset < start) (hend : start ≤ e.endOffset) (h : blockEnd t start = some b) :
    b < e.endOffset := by
  obtain ⟨front, header, inner, rest, hlayout⟩ := layout_of_mem he
  have hbefore := hlayout.sorted_body.around.1
  have hinner := hlayout.sorted_end.around.1
  have hdropped : ∀ p ∈ front ++ header ++ [(e.bodyOffset, 0x7B)],
      decide ((p.1 : Int) < start) = true := by
    intro p hp
    rw [List.mem_append, List.mem_singleton] at hp
    rcases hp with hp | rfl
    · have := hbefore p hp
      simp only [decide_eq_true_eq]
      omega
    · simpa using hbody
  rw [blockEnd, dropWhile_of_split hlayout.code_eq (by omega),
    ← List.singleton_append (l := inner), ← List.append_assoc,
    List.dropWhile_append_of_pos hdropped] at h
  -- the search starts at some depth within the body
  have hopen := hlayout.staysOpen
  have hone := hlayout.closes
  rw [← List.takeWhile_append_dropWhile (p := fun p => decide ((p.1 : Int) < start)) (l := inner)]
    at hopen hone
  rw [staysOpen_append] at hopen
  rw [nesting_append] at hone
  have hmem := mem_of_closingBrace (k := 0) hopen.1.pos (by simpa using hopen.2)
    (by simpa using hone) h
  exact hinner (b, 0x7D) (by simp [(List.dropWhile_sublist _).subset hmem])

end Covers

/-! ## Signatures -/

/-- The line with index `first` is the only one that contains the signature and is no prototype, and
on it the signature stands in the header of a definition only. -/
structure SignedHeader (signature t : Text) (first : Nat) (e : FunctionEntry) : Prop where
  signature_ne_nil : signature ≠ []
  first_lt : first < (splitLines t).length
  candidate_iff : ∀ k line, (splitLines t)[k]? = some line →
    (IsCandidate signature (stripTerminator line) ↔ k = first)
  mem : e ∈ (FunctionTable.build t).entries
  in_header : ∀ i, OccursAt signature (stripTerminator ((splitLines t).getD first [])) i →
    e.startOffset ≤ (lineStarts t).getD first 0 + i ∧
      (lineStarts t).getD first 0 + i + signature.length ≤ e.bodyOffset

/-- Another function ends on the line with index `first`, before the definition. -/
def ClosesBefore (t : Text) (first : Nat) (e : FunctionEntry) : Prop :=
  ∃ f ∈ (FunctionTable.build t).entries, f.endOffset < e.startOffset ∧ f.span.endLine = first + 1

namespace SignedHeader

variable {signature t : Text} {first : Nat} {e : FunctionEntry}
  (h : SignedHeader signature t first e)
include h

theorem ne_nil : t ≠ [] := by
  rintro rfl
  exact absurd h.first_lt (by simp [splitLines])

theorem candidates_eq :
    candidates signature 0 ((splitLines t).map stripTerminator) = [first] := by
  refine candidates_eq_singleton_iff.2 ⟨by simpa using h.first_lt, fun k line hk => ?_⟩
  rw [List.getElem?_map, Option.map_eq_some_iff] at hk
  obtain ⟨line, hk, rfl⟩ := hk
  exact h.candidate_iff k line hk

/-- Some unit of the header is on the line. -/
theorem exists_offset :
    ∃ o, e.startOffset ≤ o ∧ o < e.bodyOffset ∧ lineAt (lineStarts t) o = first + 1 := by
  have hline : (splitLines t).getD first [] = (splitLines t).get ⟨first, h.first_lt⟩ := by
    simp [List.getD_eq_getElem?_getD, List.getElem?_eq_getElem h.first_lt]
  have hcandidate := (h.candidate_iff first _ (List.getElem?_eq_getElem h.first_lt)).2 rfl
  obtain ⟨a, b, hab⟩ := includes_iff.1 hcandidate.1
  have hoccurs : OccursAt signature (stripTerminator ((splitLines t).getD first [])) a.length :=
    ⟨a, b, by rw [hline]; exact hab.symm, rfl⟩
  obtain ⟨hlow, hhigh⟩ := h.in_header _ hoccurs
  have hpos := List.length_pos_iff.2 h.signature_ne_nil
  have hlength : a.length + signature.length ≤ ((splitLines t).getD first []).length := by
    have hstrip := length_stripTerminator ((splitLines t).getD first [])
    have habs := congrArg List.length hab
    simp only [List.length_append] at habs
    rw [hline] at hstrip ⊢
    simp only [List.get_eq_getElem] at hstrip ⊢
    omega
  refine ⟨(lineStarts t).getD first 0 + a.length, hlow, by omega,
    lineAt_of_within h.first_lt (by omega) (by omega)⟩

/-- The definition covers the line, and its body does not begin before it. -/
theorem covers : e.span.startLine ≤ first + 1 ∧ first + 1 ≤ lineAt (lineStarts t) e.bodyOffset ∧
    first + 1 ≤ e.span.endLine := by
  obtain ⟨o, hstart, hbody, hline⟩ := h.exists_offset
  obtain ⟨_, _, _, _, hlayout⟩ := layout_of_mem h.mem
  have hend := hlayout.body_lt_end
  rw [hlayout.span_eq, ← hline]
  exact ⟨lineAt_mono h.ne_nil (by omega), lineAt_mono h.ne_nil (by omega),
    lineAt_mono h.ne_nil (by omega)⟩

/-- A function before the definition that reaches the line ends on it. -/
theorem endLine_eq {f : FunctionEntry} (hf : f ∈ (FunctionTable.build t).entries)
    (hbefore : f.endOffset < e.startOffset) (hline : first + 1 ≤ f.span.endLine) :
    f.span.endLine = first + 1 := by
  obtain ⟨o, hstart, -, ho⟩ := h.exists_offset
  obtain ⟨_, _, _, _, hlayout⟩ := layout_of_mem hf
  have hle := lineAt_mono h.ne_nil (show (f.endOffset : Int) ≤ o by omega)
  rw [hlayout.span_eq] at hline ⊢
  dsimp only at hline ⊢
  omega

/-- Where no other function ends on the line before the header, the body is looked up. -/
theorem bodyEnd_eq (hnone : ¬ ClosesBefore t first e) :
    bodyEnd (.build t) t (lineStarts t) (first + 1) = some e.endOffset := by
  obtain ⟨hstart, hbody, hend⟩ := h.covers
  obtain ⟨f, hf, hat, hline, rfl | hbefore⟩ := at?_of_covers h.mem hstart hend
  · rw [bodyEnd, hat]
    exact if_pos hbody
  · exact absurd ⟨f, hf, hbefore, h.endLine_eq hf hbefore hline⟩ hnone

/-- Otherwise the end that is found is on the line itself. -/
theorem lineAt_bodyEnd (hcloses : ClosesBefore t first e) {b : Nat}
    (hb : bodyEnd (.build t) t (lineStarts t) (first + 1) = some b) :
    lineAt (lineStarts t) b = first + 1 := by
  obtain ⟨f', hf', hbefore', hend'⟩ := hcloses
  obtain ⟨_, _, _, _, hlayout'⟩ := layout_of_mem hf'
  have hstart' : f'.span.startLine ≤ first + 1 := by
    rw [← hend', hlayout'.span_eq]
    have := hlayout'.start_lt_body
    have := hlayout'.body_lt_end
    exact lineAt_mono h.ne_nil (by omega)
  obtain ⟨f, hf, hat, hline, hfirst⟩ := at?_of_covers hf' hstart' (Nat.le_of_eq hend'.symm)
  have hbefore : f.endOffset < e.startOffset := by
    have := hlayout'.start_lt_body
    have := hlayout'.body_lt_end
    rcases hfirst with rfl | hlt <;> omega
  have hend := h.endLine_eq hf hbefore hline
  obtain ⟨_, _, _, _, hlayout⟩ := layout_of_mem hf
  rw [hlayout.span_eq] at hend
  dsimp only at hend
  rw [bodyEnd, hat, Nat.add_sub_cancel] at hb
  dsimp only at hb
  split_ifs at hb with hbody
  · obtain rfl : f.endOffset = b := Option.some.inj hb
    exact hend
  · -- the line starts in the body of the other function, and the search stays there
    obtain ⟨hnotFirst, hinside⟩ :=
      not_or.1 ((lt_lineAt_iff f.bodyOffset h.first_lt).not.1 (by omega))
    have hreaches :=
      ((lt_lineAt_iff f.endOffset h.first_lt).1 (by omega)).resolve_left hnotFirst
    have hlt := blockEnd_lt_of_inside hf (by omega) (by omega) hb
    have hle := lineAt_mono h.ne_nil (show (b : Int) ≤ f.endOffset by omega)
    have hge := (lt_lineAt_iff b h.first_lt).2 (.inr (le_blockEnd hb))
    omega

end SignedHeader

/-- The signature can be looked for line by line. -/
theorem signedHeader_iff {signature t : Text} {first : Nat} {e : FunctionEntry}
    (hsig : signature ≠ []) : SignedHeader signature t first e ↔
      candidates signature 0 ((splitLines t).map stripTerminator) = [first] ∧
        e ∈ (FunctionTable.build t).entries ∧
        ∀ i ∈ findAll (stripTerminator ((splitLines t).getD first [])) signature,
          e.startOffset ≤ (lineStarts t).getD first 0 + i ∧
            (lineStarts t).getD first 0 + i + signature.length ≤ e.bodyOffset := by
  simp only [mem_findAll, hsig, ne_eq, not_false_eq_true, true_and]
  constructor
  · exact fun h => ⟨h.candidates_eq, h.mem, h.in_header⟩
  · rintro ⟨hcandidates, hmem, hheader⟩
    obtain ⟨hfirst, hiff⟩ := candidates_eq_singleton_iff.1 hcandidates
    exact ⟨hsig, by simpa using hfirst,
      fun k line hk => hiff k _ (by rw [List.getElem?_map, hk, Option.map_some]), hmem, hheader⟩

/-- A signature in the header of a function is located with the end of that function, unless another
function ends on the same line before the header. In that case what is located, if anything is, ends
on the line itself. -/
theorem locate_of_signedHeader {signature t : Text} {first : Nat} {e : FunctionEntry}
    (h : SignedHeader signature t first e) :
    (¬ ClosesBefore t first e →
      ∃ m, locate t (.signature signature .braceDepth) = .ok m ∧
        m.span = ⟨first + 1, e.span.endLine⟩) ∧
    (ClosesBefore t first e → ∀ m, locate t (.signature signature .braceDepth) = .ok m →
      m.span = ⟨first + 1, first + 1⟩) := by
  have hlocate := locate_braceDepth h.ne_nil h.signature_ne_nil h.candidates_eq
  constructor
  · intro hnone
    obtain ⟨_, _, _, _, hlayout⟩ := layout_of_mem h.mem
    rw [h.bodyEnd_eq hnone] at hlocate
    cases hm : locate t (.signature signature .braceDepth) with
    | error cause => simp [hm, Except.map] at hlocate
    | ok m =>
      rw [hm] at hlocate
      refine ⟨m, rfl, ?_⟩
      rw [hlayout.span_eq]
      exact Except.ok.inj hlocate
  · intro hcloses m hm
    rw [hm] at hlocate
    cases hb : bodyEnd (.build t) t (lineStarts t) (first + 1) with
    | none => simp [hb, Except.map] at hlocate
    | some b =>
      rw [hb] at hlocate
      dsimp only at hlocate
      rw [h.lineAt_bodyEnd hcloses hb] at hlocate
      exact Except.ok.inj hlocate

/-- A function that begins on the line another one ends on, and a function on lines of its own. -/
def sharedLine : Text :=
  "int f(void) \x7b \x7d int g(void) \x7b\n\x7d\nint h(void)\n\x7b\n\x7d\n"

theorem locate_of_signedHeader_sharedLine :
    ∃ m, locate sharedLine (.signature "h(void)" .braceDepth) = .ok m ∧ m.span = ⟨3, 5⟩ := by
  have hheader : SignedHeader "h(void)" sharedLine 2 ⟨"h", ⟨3, 5⟩, 32, 44, 46⟩ :=
    (signedHeader_iff (by decide)).2 (by decide +kernel)
  refine (locate_of_signedHeader hheader).1 ?_
  show ¬ ∃ f ∈ (FunctionTable.build sharedLine).entries, f.endOffset < 32 ∧ f.span.endLine = 3
  decide +kernel

/-- The second function on a line is located with the end of the first. -/
theorem locate_ends_in_other_function :
    SignedHeader "g(void)" sharedLine 0 ⟨"g", ⟨1, 2⟩, 16, 28, 30⟩ ∧
      ((locate sharedLine (.signature "g(void)" .braceDepth)).map Match.span).toOption =
        some ⟨1, 1⟩ :=
  ⟨(signedHeader_iff (by decide)).2 (by decide +kernel), by decide +kernel⟩

end Remedy
