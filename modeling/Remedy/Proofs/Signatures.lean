import Mathlib.Order.Bounds.Basic
import Remedy.Proofs.HeaderLines
import Remedy.Proofs.Outcomes

/-!
# Signatures

What a signature locator answers, told by the lines of the text: the lines the signature can be
found on (`CandidateLine`) and the line a function that starts on one of them ends on (`EndsOn`).
Both rules for the end are described without the searches that implement them: a lone closing brace
is the first on a later line (`closingLine_drop_eq_some_iff`), and the brace that closes the body
closes the first block opened from some offset of the line on (`bodyEnd_eq_blockEnd`).

The result is `locate_signature_answers`. It holds whatever text was located in before, since the
table of functions that is kept is always the one of the text at hand (`TableCache.locate_eq`).
-/

namespace Remedy

open Code

/-! ## The table at hand -/

namespace Code.TableCache

theorem text_fetch (cache : TableCache) (t : Text) : (cache.fetch t).1.text = t := by
  unfold fetch
  split_ifs with h
  · exact h
  · rfl

/-- What is located does not depend on the table that was kept. -/
theorem locate_eq (cache : TableCache) (t : Text) (locator : Locator) :
    (cache.locate t locator).1 = Remedy.locate t locator := by
  have htable : (cache.fetch t).1.table = .build t := by
    rw [(cache.fetch t).1.built, text_fetch]
  rw [locate, htable]
  rfl

end Code.TableCache

/-! ## The line a function starts on -/

/-- What the lines of a text hold, without their terminators. -/
def lineContents (t : Text) : List Text := (splitLines t).map stripTerminator

theorem length_lineContents (t : Text) : (lineContents t).length = (splitLines t).length :=
  List.length_map _

/-- The line with index `k` contains the signature and does not end in a semicolon. -/
def CandidateLine (signature t : Text) (k : Nat) : Prop :=
  ∃ line, (lineContents t)[k]? = some line ∧ IsCandidate signature line

theorem mem_candidates_iff {signature t : Text} {k : Nat} :
    k ∈ candidates signature 0 (lineContents t) ↔ CandidateLine signature t k := by
  simp [mem_candidates, CandidateLine]

/-- The line with index `first` is the only one the signature can be found on. -/
def StartsOn (signature t : Text) (first : Nat) : Prop :=
  ∀ k, CandidateLine signature t k ↔ k = first

theorem candidates_eq_singleton_iff_startsOn {signature t : Text} {first : Nat} :
    candidates signature 0 (lineContents t) = [first] ↔ StartsOn signature t first := by
  simp only [StartsOn, ← mem_candidates_iff]
  constructor
  · intro h k
    rw [h, List.mem_singleton]
  · intro h
    exact (pairwise_candidates signature 0 _).eq_of_mem_iff (List.pairwise_singleton _ _)
      fun k => by rw [h, List.mem_singleton]

theorem StartsOn.lt_length {signature t : Text} {first : Nat} (h : StartsOn signature t first) :
    first < (splitLines t).length := by
  obtain ⟨line, hline, -⟩ := (h first).2 rfl
  rw [← length_lineContents]
  exact (List.getElem?_eq_some_iff.1 hline).1

/-! ## Lone closing braces -/

/-- Of some lines the one with index `k` is a lone closing brace and, with a gate, the next one
contains the gate. -/
def ClosesAt (gate : Option Text) (lines : List Text) (k : Nat) : Prop :=
  lines[k]?.map Text.trimEnd = some [0x7D] ∧
    ∀ g ∈ gate, ∃ next, lines[k + 1]? = some next ∧ g <:+: next

theorem closesAt_drop {gate : Option Text} {lines : List Text} {n k : Nat} (h : n ≤ k) :
    ClosesAt gate (lines.drop n) (k - n) ↔ ClosesAt gate lines k := by
  have hnext : n + (k - n + 1) = k + 1 := by omega
  rw [ClosesAt, ClosesAt, List.getElem?_drop, List.getElem?_drop, hnext, Nat.add_sub_of_le h]

theorem closingLine_cons {gate : Option Text} {i : Nat} {line : Text} {lines : List Text}
    [Decidable (ClosesAt gate (line :: lines) 0)] :
    closingLine gate i (line :: lines) =
      if ClosesAt gate (line :: lines) 0 then some i else closingLine gate (i + 1) lines := by
  cases gate with
  | none =>
    rw [closingLine]
    exact if_congr (by simp [ClosesAt]) rfl rfl
  | some g =>
    rw [closingLine]
    exact if_congr (by cases lines <;> simp [ClosesAt, includes_iff]) rfl rfl

/-- The search comes to the first lone closing brace. -/
theorem closingLine_eq_some_iff {gate : Option Text} {i j : Nat} {lines : List Text} :
    closingLine gate i lines = some j ↔ IsLeast {k | i ≤ k ∧ ClosesAt gate lines (k - i)} j := by
  classical
  induction lines generalizing i with
  | nil => simp [closingLine, ClosesAt, IsLeast]
  | cons line lines ih =>
    rw [closingLine_cons]
    split_ifs with h
    · have hleast : IsLeast {k | i ≤ k ∧ ClosesAt gate (line :: lines) (k - i)} i :=
        ⟨⟨Nat.le_refl i, by simpa using h⟩, fun k hk => hk.1⟩
      rw [Option.some.injEq]
      exact ⟨fun hij => hij ▸ hleast, fun hj => hleast.unique hj⟩
    · -- the first line does not count, and the others have the indices they had
      have hset : {k | i ≤ k ∧ ClosesAt gate (line :: lines) (k - i)} =
          {k | i + 1 ≤ k ∧ ClosesAt gate lines (k - (i + 1))} := by
        ext k
        constructor
        · rintro ⟨hk, hcloses⟩
          have hne : i ≠ k := by
            rintro rfl
            exact h (by simpa using hcloses)
          have hsucc : k - i = k - (i + 1) + 1 := by omega
          rw [hsucc] at hcloses
          exact ⟨by omega, hcloses⟩
        · rintro ⟨hk, hcloses⟩
          have hsucc : k - i = k - (i + 1) + 1 := by omega
          refine ⟨by omega, ?_⟩
          rw [hsucc]
          exact hcloses
      rw [ih, hset]

theorem closingLine_drop_eq_some_iff {gate : Option Text} {first last : Nat} {lines : List Text} :
    closingLine gate (first + 1) (lines.drop (first + 1)) = some last ↔
      IsLeast {k | first < k ∧ ClosesAt gate lines k} last := by
  have hset : {k | first + 1 ≤ k ∧ ClosesAt gate (lines.drop (first + 1)) (k - (first + 1))} =
      {k | first < k ∧ ClosesAt gate lines k} :=
    Set.ext fun k => and_congr_right fun hk => closesAt_drop hk
  rw [closingLine_eq_some_iff, hset]

/-! ## The end of the body -/

/-- Where the body of the function on a line is looked for: from the start of the line on or, when
the first function on the line opens its body there or later, from the start of that function on,
if this comes after the start of the line. -/
def bodySearchStart (t : Text) (first : Nat) : Nat :=
  let start := (lineStarts t).getD first 0
  match (FunctionTable.build t).at? (first + 1 : Nat) with
  | some e => if first + 1 ≤ lineAt (lineStarts t) e.bodyOffset then max start e.startOffset
    else start
  | none => start

theorem le_bodySearchStart (t : Text) (first : Nat) :
    (lineStarts t).getD first 0 ≤ bodySearchStart t first := by
  unfold bodySearchStart
  dsimp only
  split
  · split_ifs
    · exact Nat.le_max_left _ _
    · exact Nat.le_refl _
  · exact Nat.le_refl _

/-- The table only tells where to start: the end it gives is that of the first block from there. -/
theorem bodyEnd_eq_blockEnd {t : Text} {first : Nat} (hfirst : first < (splitLines t).length) :
    bodyEnd (.build t) t (lineStarts t) (first + 1) = blockEnd t (bodySearchStart t first) := by
  unfold bodyEnd bodySearchStart
  dsimp only
  cases hat : (FunctionTable.build t).at? (first + 1 : Nat) with
  | none => rfl
  | some e =>
    dsimp only
    split_ifs with hbody
    · obtain ⟨_, _, _, _, hlayout⟩ := layout_of_mem (FunctionTable.mem_of_at? hat)
      have hstart : (lineStarts t).getD first 0 ≤ e.bodyOffset := by
        rcases (lt_lineAt_iff e.bodyOffset hfirst).1 hbody with rfl | h
        · rw [lineStarts_getD t hfirst]
          exact Nat.zero_le _
        · omega
      have hheader := hlayout.start_lt_body
      exact (hlayout.blockEnd_eq (by omega) (by omega)).symm
    · rfl

theorem codeAt_blockEnd {t : Text} {start : Int} {b : Nat} (h : blockEnd t start = some b) :
    CodeAt t b 0x7D :=
  mem_code_iff.1 ((List.dropWhile_sublist _).subset (closingBrace_mem h))

/-! ## The line a function ends on -/

/-- The function that starts on the line with index `first` ends on the one with index `last`: the
first later one that is a lone closing brace, or the one of the brace that closes the body. -/
def EndsOn (t : Text) (first last : Nat) : EndMarker → Prop
  | .columnZeroBrace gate => IsLeast {k | first < k ∧ ClosesAt gate (lineContents t) k} last
  | .braceDepth => ∃ b, blockEnd t (bodySearchStart t first) = some b ∧ last = countLf (t.take b)

theorem EndsOn.unique {t : Text} {first last last' : Nat} {stop : EndMarker}
    (h : EndsOn t first last stop) (h' : EndsOn t first last' stop) : last = last' := by
  cases stop with
  | columnZeroBrace gate => exact IsLeast.unique h h'
  | braceDepth =>
    obtain ⟨b, hb, rfl⟩ := h
    obtain ⟨b', hb', rfl⟩ := h'
    rw [Option.some.inj (hb.symm.trans hb')]

section StartsOn

variable {t signature : Text} {first : Nat}

theorem StartsOn.ne_nil (h : StartsOn signature t first) : t ≠ [] := by
  rintro rfl
  exact absurd h.lt_length (by simp [splitLines])

theorem locate_columnZeroBrace (gate : Option Text) (hsig : signature ≠ [])
    (h : StartsOn signature t first) :
    (locate t (.signature signature (.columnZeroBrace gate))).map Match.span =
      match closingLine gate (first + 1) ((lineContents t).drop (first + 1)) with
      | some last => .ok ⟨first + 1, last + 1⟩
      | none => .error (.noClosingLine signature gate (first + 1)) := by
  have hcandidates := candidates_eq_singleton_iff_startsOn.2 h
  rw [lineContents] at hcandidates ⊢
  rw [locate_signature, locateSignature, if_neg (by simp [h.ne_nil, hsig])]
  simp only [hcandidates]
  cases closingLine gate (first + 1) (((splitLines t).map stripTerminator).drop (first + 1)) with
  | none => rfl
  | some last => rfl

/-- With a line to start on, whether the function is found is a matter of its end. -/
theorem locate_of_startsOn (stop : EndMarker) (hsig : signature ≠ [])
    (h : StartsOn signature t first) :
    (∃ last, EndsOn t first last stop ∧
      (locate t (.signature signature stop)).map Match.span = .ok ⟨first + 1, last + 1⟩) ∨
    (∀ last, ¬ EndsOn t first last stop) ∧
      ∃ cause, (locate t (.signature signature stop)).map Match.span = .error cause ∧
        cause.code = .anchorNotFound := by
  cases stop with
  | columnZeroBrace gate =>
    have hspan := locate_columnZeroBrace gate hsig h
    cases hclose : closingLine gate (first + 1) ((lineContents t).drop (first + 1)) with
    | some last =>
      rw [hclose] at hspan
      exact .inl ⟨last, closingLine_drop_eq_some_iff.1 hclose, hspan⟩
    | none =>
      rw [hclose] at hspan
      refine .inr ⟨fun last hlast => ?_, _, hspan, rfl⟩
      rw [closingLine_drop_eq_some_iff.2 hlast] at hclose
      simp at hclose
  | braceDepth =>
    have hspan := locate_braceDepth h.ne_nil hsig (candidates_eq_singleton_iff_startsOn.2 h)
    rw [bodyEnd_eq_blockEnd h.lt_length] at hspan
    cases hblock : blockEnd t (bodySearchStart t first) with
    | some b =>
      have hb : b < t.length := (List.getElem?_eq_some_iff.1 (codeAt_blockEnd hblock).2).1
      rw [hblock] at hspan
      dsimp only at hspan
      rw [lineAt_eq_countLf hb] at hspan
      exact .inl ⟨_, ⟨b, hblock, rfl⟩, hspan⟩
    | none =>
      rw [hblock] at hspan
      refine .inr ⟨?_, _, hspan, rfl⟩
      rintro last ⟨b, hb, -⟩
      simp [hblock] at hb

end StartsOn

/-! ## The lines of a match -/

/-- Some lines together end in the terminator of the last of them. -/
theorem IsLines.terminator_flatten {lines : List Text} (h : IsLines lines) {first last : Nat}
    (hle : first ≤ last) (hlt : last < lines.length) :
    terminator ((lines.take (last + 1)).drop first).flatten = terminator (lines.getD last []) := by
  obtain ⟨n, rfl⟩ := Nat.exists_eq_add_of_le hle
  have hn : n < (lines.drop first).length := by
    rw [List.length_drop]
    omega
  have hlast : (lines.drop first).get ⟨n, hn⟩ = lines.getD (first + n) [] := by
    simp [List.getD_eq_getElem?_getD, List.getElem?_eq_getElem hlt]
  rw [List.drop_take, show first + n + 1 - first = n + 1 by omega,
    List.take_succ_eq_append_getElem hn, List.flatten_append, List.flatten_singleton,
    terminator_append ((h.drop first).endsLine_take hn)
      ((h.drop first).ne_nil (List.getElem_mem hn)), ← hlast]
  rfl

/-- A match of whole lines: the text between its offsets is that of its lines without the last
terminator. -/
structure Match.OfLines (m : Match) (t : Text) : Prop where
  start_pos : 1 ≤ m.span.startLine
  start_le : m.span.startLine ≤ m.span.endLine
  end_le : m.span.endLine ≤ (splitLines t).length
  startOffset_eq : m.startOffset = ((splitLines t).take (m.span.startLine - 1)).flatten.length
  slice_eq : t.slice m.startOffset m.endOffset =
    stripTerminator (((splitLines t).take m.span.endLine).drop (m.span.startLine - 1)).flatten

namespace FoundLines

variable {signature t : Text} {m : Match} {first last : Nat}

theorem startsOn (h : FoundLines signature t m first last) : StartsOn signature t first := by
  refine candidates_eq_singleton_iff_startsOn.1 (candidates_eq_singleton_iff.2 ⟨?_, ?_⟩)
  · rw [length_lineContents]
    exact h.first_lt
  · intro k line hk
    rw [lineContents, List.getElem?_map, Option.map_eq_some_iff] at hk
    obtain ⟨line, hk, rfl⟩ := hk
    exact h.candidate_iff k line hk

theorem slice_eq (h : FoundLines signature t m first last) :
    t.slice m.startOffset m.endOffset =
      stripTerminator (((splitLines t).take (last + 1)).drop first).flatten := by
  obtain ⟨content, -, htext, hend⟩ := h.split
  have hocc : OccursAt content t m.startOffset := ⟨_, _, htext, h.startOffset_eq.symm⟩
  rw [hend, hocc.slice_eq]
  -- the lines, cut before and after, are the text as well
  have hlines : t = ((splitLines t).take first).flatten ++
      (((splitLines t).take (last + 1)).drop first).flatten ++
        ((splitLines t).drop (last + 1)).flatten := by
    have hle := h.first_le
    have htake : ((splitLines t).take (last + 1)).take first = (splitLines t).take first := by
      rw [List.take_take, Nat.min_eq_left (by omega)]
    rw [← htake, ← List.flatten_append, List.take_append_drop, flatten_take_append_drop]
  rw [← stripTerminator_append_terminator (((splitLines t).take (last + 1)).drop first).flatten,
    (isLines_splitLines t).terminator_flatten h.first_le h.last_lt] at hlines
  have hsame := htext.symm.trans hlines
  simp only [List.append_assoc] at hsame
  exact List.append_cancel_right (List.append_cancel_left hsame)

theorem ofLines (h : FoundLines signature t m first last) : m.OfLines t := by
  constructor <;> rw [h.span_eq]
  · exact Nat.le_add_left 1 first
  · exact Nat.succ_le_succ h.first_le
  · exact h.last_lt
  · exact h.startOffset_eq
  · exact h.slice_eq

end FoundLines

/-! ## What is answered -/

section Answer

variable {t signature : Text} {stop : EndMarker}

theorem locate_of_no_line (stop : EndMarker) (h : ∀ k, ¬ CandidateLine signature t k) :
    ∃ cause, locate t (.signature signature stop) = .error cause ∧
      cause.code = .anchorNotFound := by
  have hnone : candidates signature 0 ((splitLines t).map stripTerminator) = [] :=
    List.eq_nil_iff_forall_not_mem.2 fun k hk => h k (mem_candidates_iff.1 hk)
  rw [locate_signature, locateSignature]
  split_ifs
  · exact ⟨_, rfl, rfl⟩
  · simp only [hnone]
    exact ⟨_, rfl, rfl⟩

theorem locate_of_two_lines (hsig : signature ≠ []) {j k : Nat} (hjk : j ≠ k)
    (hj : CandidateLine signature t j) (hk : CandidateLine signature t k) :
    ∃ cause, locate t (.signature signature stop) = .error cause ∧
      cause.code = .anchorAmbiguous := by
  have ht : t ≠ [] := by
    rintro rfl
    obtain ⟨line, hline, -⟩ := hj
    simp [lineContents, splitLines] at hline
  have hj := mem_candidates_iff.2 hj
  have hk := mem_candidates_iff.2 hk
  rw [lineContents] at hj hk
  rw [locate_signature, locateSignature, if_neg (by simp [ht, hsig])]
  rcases hfound : candidates signature 0 ((splitLines t).map stripTerminator) with
    _ | ⟨a, _ | ⟨b, rest⟩⟩
  · simp [hfound] at hj
  · rw [hfound, List.mem_singleton] at hj hk
    exact absurd (hj.trans hk.symm) hjk
  · simp only [hfound]
    exact ⟨_, rfl, rfl⟩

/-- Either no line can be meant, or exactly one, or two. -/
theorem candidateLine_cases (signature t : Text) :
    (∀ k, ¬ CandidateLine signature t k) ∨ (∃ first, StartsOn signature t first) ∨
      ∃ j k, j ≠ k ∧ CandidateLine signature t j ∧ CandidateLine signature t k := by
  by_cases hnone : ∀ k, ¬ CandidateLine signature t k
  · exact .inl hnone
  right
  obtain ⟨first, hfirst⟩ := not_forall_not.1 hnone
  by_cases hother : ∃ k, k ≠ first ∧ CandidateLine signature t k
  · obtain ⟨k, hne, hk⟩ := hother
    exact .inr ⟨k, first, hne, hk, hfirst⟩
  · refine .inl ⟨first, fun k => ⟨fun hk => ?_, fun hk => hk ▸ hfirst⟩⟩
    by_contra hne
    exact hother ⟨k, hne, hk⟩

/-- What is answered for a signature that is not empty, told by the lines of the text. -/
structure AnswersSignature (t signature : Text) (stop : EndMarker)
    (answer : Except LocateFailure Match) : Prop where
  ambiguous_iff : answer.mapError LocateFailure.code = .error .anchorAmbiguous ↔
    ∃ j k, j ≠ k ∧ CandidateLine signature t j ∧ CandidateLine signature t k
  ok_iff : (∃ m, answer = .ok m) ↔
    ∃ first last, StartsOn signature t first ∧ EndsOn t first last stop
  found : ∀ m, answer = .ok m → m.OfLines t ∧ StartsOn signature t (m.span.startLine - 1) ∧
    EndsOn t (m.span.startLine - 1) (m.span.endLine - 1) stop
  /-- A lone closing brace on any later line is enough. -/
  columnZeroBrace_iff : ∀ gate, stop = .columnZeroBrace gate → ((∃ m, answer = .ok m) ↔
    ∃ first, StartsOn signature t first ∧ ∃ k, first < k ∧ ClosesAt gate (lineContents t) k)
  /-- The last line is that of a closing brace in the code, from the first line on. -/
  braceDepth_end : stop = .braceDepth → ∀ m, answer = .ok m →
    ∃ b, CodeAt t b 0x7D ∧ m.startOffset ≤ b ∧ m.span.endLine = countLf (t.take b) + 1
  otherwise : (∀ m, answer ≠ .ok m) →
    answer.mapError LocateFailure.code ≠ .error .anchorAmbiguous →
    answer.mapError LocateFailure.code = .error .anchorNotFound

theorem exists_endsOn_columnZeroBrace {first : Nat} {gate : Option Text} :
    (∃ last, EndsOn t first last (.columnZeroBrace gate)) ↔
      ∃ k, first < k ∧ ClosesAt gate (lineContents t) k := by
  classical
  constructor
  · rintro ⟨last, hlast, -⟩
    exact ⟨last, hlast⟩
  · intro h
    exact ⟨Nat.find h, Nat.find_spec h, fun k hk => Nat.find_min' h hk⟩

theorem locate_found {m : Match} (hsig : signature ≠ [])
    (hm : locate t (.signature signature stop) = .ok m) :
    m.OfLines t ∧ StartsOn signature t (m.span.startLine - 1) ∧
      EndsOn t (m.span.startLine - 1) (m.span.endLine - 1) stop := by
  obtain ⟨first, last, hfound⟩ := locateSignature_ok (locate_signature .. ▸ hm)
  refine ⟨hfound.ofLines, ?_⟩
  rw [hfound.span_eq]
  refine ⟨hfound.startsOn, ?_⟩
  obtain ⟨last', hlast, hspan⟩ | ⟨-, cause, hspan, -⟩ :=
    locate_of_startsOn stop hsig hfound.startsOn
  · obtain rfl : last = last' := by simpa [hm, Except.map, hfound.span_eq] using hspan
    exact hlast
  · simp [hm, Except.map] at hspan

theorem locate_ok_iff (hsig : signature ≠ []) :
    (∃ m, locate t (.signature signature stop) = .ok m) ↔
      ∃ first last, StartsOn signature t first ∧ EndsOn t first last stop := by
  constructor
  · rintro ⟨m, hm⟩
    exact ⟨_, _, (locate_found hsig hm).2⟩
  · rintro ⟨first, last, hfirst, hlast⟩
    obtain ⟨last', -, hspan⟩ | ⟨hnone, -⟩ := locate_of_startsOn stop hsig hfirst
    · cases hm : locate t (.signature signature stop) with
      | ok m => exact ⟨m, rfl⟩
      | error cause => simp [hm, Except.map] at hspan
    · exact absurd hlast (hnone last)

theorem locate_ambiguous_iff (hsig : signature ≠ []) :
    (locate t (.signature signature stop)).mapError LocateFailure.code = .error .anchorAmbiguous ↔
      ∃ j k, j ≠ k ∧ CandidateLine signature t j ∧ CandidateLine signature t k := by
  rw [mapError_eq_error_iff]
  constructor
  · rintro ⟨cause, hcause, hcode⟩
    obtain hnone | ⟨first, hfirst⟩ | htwo := candidateLine_cases signature t
    · obtain ⟨cause', hcause', hcode'⟩ := locate_of_no_line stop hnone
      obtain rfl : cause = cause' := Except.error.inj (hcause.symm.trans hcause')
      simp [hcode] at hcode'
    · obtain ⟨last, -, hspan⟩ | ⟨-, cause', hspan, hcode'⟩ :=
        locate_of_startsOn stop hsig hfirst
      · simp [hcause, Except.map] at hspan
      · obtain rfl : cause = cause' := by simpa [hcause, Except.map] using hspan
        simp [hcode] at hcode'
    · exact htwo
  · rintro ⟨j, k, hjk, hj, hk⟩
    exact locate_of_two_lines hsig hjk hj hk

/-- The end of a body, as a brace in the code. -/
theorem EndsOn.exists_brace {first last : Nat} (h : EndsOn t first last .braceDepth) :
    ∃ b, CodeAt t b 0x7D ∧ (lineStarts t).getD first 0 ≤ b ∧ last = countLf (t.take b) := by
  obtain ⟨b, hb, hlast⟩ := h
  have hstart := le_bodySearchStart t first
  have hle := le_blockEnd hb
  exact ⟨b, codeAt_blockEnd hb, by omega, hlast⟩

theorem locate_answersSignature (hsig : signature ≠ []) :
    AnswersSignature t signature stop (locate t (.signature signature stop)) where
  ambiguous_iff := locate_ambiguous_iff hsig
  ok_iff := locate_ok_iff hsig
  found m hm := locate_found hsig hm
  columnZeroBrace_iff := by
    rintro gate rfl
    simp only [locate_ok_iff hsig, ← exists_endsOn_columnZeroBrace, exists_and_left]
  braceDepth_end := by
    rintro rfl m hm
    obtain ⟨hlines, hfirst, hlast⟩ := locate_found hsig hm
    obtain ⟨b, hcode, hb, hline⟩ := hlast.exists_brace
    have hpos := hlines.start_pos
    have hle := hlines.start_le
    rw [lineStarts_getD t hfirst.lt_length, ← hlines.startOffset_eq] at hb
    exact ⟨b, hcode, hb, by omega⟩
  otherwise := by
    intro hnone hunambiguous
    cases hm : locate t (.signature signature stop) with
    | ok m => exact absurd hm (hnone m)
    | error cause =>
      rw [hm] at hunambiguous
      have hother := cause.code_ne_alreadyApplied
      cases hcode : cause.code with
      | anchorNotFound => simp [Except.mapError, hcode]
      | anchorAmbiguous => simp [Except.mapError, hcode] at hunambiguous
      | alreadyApplied => exact absurd hcode hother

end Answer

/-- What a signature locator answers, whatever was located before: an empty signature is found
nowhere, and any other as the lines of the text tell. -/
theorem locate_signature_answers (cache : TableCache) (t signature : Text) (stop : EndMarker) :
    let answer := (cache.locate t (.signature signature stop)).1
    (signature = [] → answer.mapError LocateFailure.code = .error .anchorNotFound) ∧
      (signature ≠ [] → AnswersSignature t signature stop answer) := by
  intro answer
  have hanswer : answer = locate t (.signature signature stop) := cache.locate_eq t _
  rw [hanswer]
  refine ⟨?_, locate_answersSignature⟩
  rintro rfl
  simp [locate_signature, locateSignature, Except.mapError, LocateFailure.code]

/-- A declaration and a definition of a function, and braces around the end of the definition. -/
def declaredSource : Text := "int f(void);\nint f(void)\n\x7b\n\x7d\n\x7d\nend\n"

theorem locate_signature_answers_declared :
    let answer (stop : EndMarker) :=
      ((TableCache.of sharedLine).locate declaredSource (.signature "f(void)" stop)).1
    ("f(void)" : Text) ≠ [] ∧
      (∃ m, answer .braceDepth = .ok m ∧ m.OfLines declaredSource ∧ m.span = ⟨2, 4⟩) ∧
      ∃ m, answer (.columnZeroBrace (some "end")) = .ok m ∧ m.OfLines declaredSource ∧
        m.span = ⟨2, 5⟩ := by
  intro answer
  have hsig : ("f(void)" : Text) ≠ [] := by decide
  have hstart : StartsOn "f(void)" declaredSource 1 :=
    candidates_eq_singleton_iff_startsOn.1 (by decide +kernel)
  have hfound (stop : EndMarker) (last : Nat) (hlast : EndsOn declaredSource 1 last stop) :
      ∃ m, answer stop = .ok m ∧ m.OfLines declaredSource ∧ m.span = ⟨2, last + 1⟩ := by
    have hanswers :=
      (locate_signature_answers (.of sharedLine) declaredSource "f(void)" stop).2 hsig
    obtain ⟨m, hm⟩ := hanswers.ok_iff.2 ⟨1, last, hstart, hlast⟩
    obtain ⟨hlines, hfirst, hend⟩ := hanswers.found m hm
    have hone : 1 = m.span.startLine - 1 := (hfirst 1).1 ((hstart 1).2 rfl)
    rw [← hone] at hend
    have hlast := hend.unique hlast
    have hle := hlines.start_le
    refine ⟨m, hm, hlines, ?_⟩
    rcases hspan : m.span with ⟨startLine, endLine⟩
    simp only [hspan] at hone hlast hle
    rw [Span.mk.injEq]
    omega
  refine ⟨hsig, hfound _ 3 ⟨27, by decide +kernel, by decide +kernel⟩, hfound _ 4 ?_⟩
  exact closingLine_drop_eq_some_iff.1 (by decide +kernel)

end Remedy
