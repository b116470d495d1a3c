import Remedy.Proofs.CrlfMarkers

/-!
# Lines that are reported

Verification cuts a text at its line feeds, and what follows the last one is a line as well. The
lines that patches are located by are those of `splitLines`, which has no line after the last line
feed. `exists_lastPiece` puts the two side by side: they agree on all lines that end in a line feed.
What they make of the rest of the text is all that can make the numbers of reported lines, or the
texts that exempt a line, differ (`reported_lines`).
-/

namespace Remedy

/-- The line with a number, without its terminator; empty if there is none. -/
def numberedLine (t : Text) (number : Nat) : Text :=
  stripTerminator ((splitLines t).getD (number - 1) [])

/-- A line that holds a text which exempts it. -/
def IsExempt (allowList : List Text) (line : Text) : Prop := ∃ entry ∈ allowList, entry <:+: line

/-- A line on which a test succeeds and which is not exempt. -/
def IsReported (testers : List Tester) (allowList : List Text) (line : Text) : Prop :=
  ¬ IsExempt allowList line ∧ ∃ tester ∈ testers, tester.test line = true

/-! ## Two ways to cut a text into lines -/

theorem stripTerminator_lf (body : Text) :
    stripTerminator (body ++ [0x0A]) = withoutReturn body := by
  unfold withoutReturn
  split_ifs with h
  · obtain ⟨body, rfl⟩ := List.getLast?_eq_some_iff.1 (beq_iff_eq.1 h)
    rw [List.append_assoc, List.dropLast_concat]
    exact stripTerminator_append_crlf body
  · exact stripTerminator_append_lf fun hlast => h (beq_iff_eq.2 hlast)

/-- A text as lines that end in a line feed and a last piece without one. The lines are cut alike.
The last piece is a line of `splitLines` if it is not empty; it always is one of verification, less
a carriage return at its end. -/
structure LastPiece (t front last : Text) : Prop where
  text_eq : t = front ++ last
  endsLine : EndsLine front
  lf_not_mem : 0x0A ∉ last
  splitLines_eq : splitLines t = splitLines front ++ if last = [] then [] else [last]
  plainLines_eq : Scan.plainLines t =
    (splitLines front).map stripTerminator ++ [withoutReturn last]

theorem exists_lastPiece (t : Text) : ∃ front last, LastPiece t front last := by
  induction t using pieces_induction (· == 0x0A) with
  | last s hs =>
    have hlf : 0x0A ∉ s := fun h => by simpa using hs _ h
    refine ⟨[], s, rfl, endsLine_nil, hlf, ?_, ?_⟩
    · split_ifs with hnil
      · rw [hnil]
        rfl
      · exact splitLines_body hnil hlf
    · rw [plainLines_eq, splitAt_of_forall hs]
      rfl
  | cut a c b ha hc ih =>
    obtain rfl : c = 0x0A := by simpa using hc
    have hlf : 0x0A ∉ a := fun h => by simpa using ha _ h
    obtain ⟨front, last, rfl, hfront, hlast, hsplit, hplain⟩ := ih
    have hends : EndsLine (a ++ 0x0A :: front) := by
      rw [List.append_cons]
      exact (endsLine_append_lf a).append hfront
    refine ⟨a ++ 0x0A :: front, last, by simp, hends, hlast, ?_, ?_⟩
    · rw [splitLines_body_lf hlf, splitLines_body_lf hlf, hsplit]
      rfl
    · rw [plainLines_append_lf hlf, hplain, splitLines_body_lf hlf, List.map_cons,
        stripTerminator_lf]
      rfl

namespace LastPiece

variable {t front last : Text}

theorem length_splitLines (h : LastPiece t front last) :
    (splitLines t).length = (splitLines front).length + if last = [] then 0 else 1 := by
  rw [h.splitLines_eq, List.length_append]
  split_ifs <;> rfl

theorem endsLine_iff (h : LastPiece t front last) : EndsLine t ↔ last = [] := by
  constructor
  · intro hends
    by_contra hne
    refine h.lf_not_mem (hends (last.getLast hne) ?_ ▸ List.getLast_mem hne)
    rw [h.text_eq, List.getLast?_append, List.getLast?_eq_some_getLast hne]
    rfl
  · rintro rfl
    rw [h.text_eq, List.append_nil]
    exact h.endsLine

/-- Only the last piece can end in a carriage return. -/
theorem getLast?_iff (h : LastPiece t front last) :
    t.getLast? = some 0x0D ↔ last.getLast? = some 0x0D := by
  rw [h.text_eq, List.getLast?_append, Option.or_eq_some_iff]
  refine or_iff_left ?_
  rintro ⟨-, hfront⟩
  exact absurd (h.endsLine _ hfront) (by decide)

theorem numberedLine_last (h : LastPiece t front last) :
    numberedLine t (1 + (splitLines front).length) = last := by
  rw [numberedLine, Nat.add_sub_cancel_left, h.splitLines_eq, List.getD_eq_getElem?_getD,
    List.getElem?_append_right (Nat.le_refl _), Nat.sub_self]
  split_ifs with hnil
  · rw [hnil]
    rfl
  · exact stripTerminator_eq_self fun hlf => h.lf_not_mem (List.mem_of_getLast? hlf)

/-- A line of verification is a line of `splitLines` or the last piece. -/
theorem plainLine_cases (h : LastPiece t front last) {i : Nat} {line : Text}
    (hline : (Scan.plainLines t)[i]? = some line) :
    (i < (splitLines front).length ∧ line = numberedLine t (1 + i)) ∨
      (i = (splitLines front).length ∧ line = withoutReturn last) := by
  rw [h.plainLines_eq] at hline
  by_cases hi : i < (splitLines front).length
  · left
    rw [List.getElem?_append_left (by simpa using hi), List.getElem?_map,
      List.getElem?_eq_getElem hi] at hline
    refine ⟨hi, ?_⟩
    rw [numberedLine, Nat.add_sub_cancel_left, h.splitLines_eq, List.getD_eq_getElem?_getD,
      List.getElem?_append_left hi, List.getElem?_eq_getElem hi]
    exact (Option.some.inj hline).symm
  · right
    rw [List.getElem?_append_right (by simpa using hi), List.length_map,
      List.getElem?_singleton] at hline
    split_ifs at hline with hzero
    exact ⟨by omega, (Option.some.inj hline).symm⟩

theorem plainLine_last (h : LastPiece t front last) :
    (Scan.plainLines t)[(splitLines front).length]? = some (withoutReturn last) := by
  rw [h.plainLines_eq, List.getElem?_append_right (by simp)]
  simp

end LastPiece

/-! ## Blanks at the end of a line -/

theorem trimEnd_append_blank {c : CodeUnit} (hc : c.isBlank = true) (t : Text) :
    Text.trimEnd (t ++ [c]) = Text.trimEnd t := by
  simp [Text.trimEnd, Text.trimStart, hc]

theorem trim_append_blank {c : CodeUnit} (hc : c.isBlank = true) (t : Text) :
    Text.trim (t ++ [c]) = Text.trim t := by
  rw [Text.trim, Text.trimStart, List.dropWhile_append]
  split_ifs with hempty
  · simp [Text.trim, Text.trimStart, List.isEmpty_iff.1 hempty, hc]
  · exact trimEnd_append_blank hc _

theorem trim_withoutReturn (line : Text) : Text.trim (withoutReturn line) = Text.trim line := by
  unfold withoutReturn
  split_ifs with h
  · obtain ⟨body, rfl⟩ := List.getLast?_eq_some_iff.1 (beq_iff_eq.1 h)
    rw [List.dropLast_concat, trim_append_blank (by decide)]
  · rfl

/-! ## Matches -/

theorem any_includes_iff {allowList : List Text} {line : Text} :
    (allowList.any fun entry => line.includes entry) = true ↔ IsExempt allowList line := by
  simp only [List.any_eq_true, includes_iff, IsExempt]

theorem mem_forbiddenOn_iff {testers : List Tester} {allowList : List Text} {number : Nat}
    {lines : List Text} {m : ForbiddenMatch} :
    m ∈ forbiddenOn testers allowList number lines ↔ ∃ i line, lines[i]? = some line ∧
      ¬ IsExempt allowList line ∧ ∃ tester ∈ testers, tester.test line = true ∧
        m = ⟨number + i, tester.label, Text.trim line⟩ := by
  induction lines generalizing number with
  | nil => simp [forbiddenOn]
  | cons first lines ih =>
    have hhere : (m ∈ if allowList.any (fun entry => first.includes entry) then []
          else (testers.filter fun tester => tester.test first).map fun tester =>
            (⟨number, tester.label, Text.trim first⟩ : ForbiddenMatch)) ↔
        ¬ IsExempt allowList first ∧ ∃ tester ∈ testers, tester.test first = true ∧
          m = ⟨number, tester.label, Text.trim first⟩ := by
      split_ifs with hexempt
      · simp [any_includes_iff.1 hexempt]
      · have hnot := mt any_includes_iff.2 hexempt
        simp only [List.mem_map, List.mem_filter, and_assoc, hnot, not_false_eq_true, true_and]
        exact exists_congr fun _ => and_congr_right fun _ => and_congr_right fun _ => eq_comm
    rw [forbiddenOn, List.mem_append, hhere, ih]
    constructor
    · rintro (h | ⟨i, line, hline, h⟩)
      · exact ⟨0, first, rfl, h⟩
      · exact ⟨i + 1, line, hline, by rwa [Nat.add_comm i, ← Nat.add_assoc]⟩
    · rintro ⟨i, line, hline, h⟩
      cases i with
      | zero =>
        obtain rfl : first = line := by simpa using hline
        exact .inl h
      | succ i => exact .inr ⟨i, line, by simpa using hline, by rwa [Nat.add_assoc, Nat.add_comm 1]⟩

theorem mem_forbiddenMatches_iff {present absent : List Tester} {t : Text} {probe : Probe}
    {m : ForbiddenMatch} :
    m ∈ (verifyWith present absent t probe).forbiddenMatches ↔
      ∃ i line, (Scan.plainLines t)[i]? = some line ∧ ¬ IsExempt probe.allowList line ∧
        ∃ tester ∈ absent, tester.test line = true ∧
          m = ⟨1 + i, tester.label, Text.trim line⟩ := by
  rw [← mem_forbiddenOn_iff]
  cases absent with
  | nil =>
    rw [mem_forbiddenOn_iff]
    simp [verifyWith]
  | cons => rfl

/-- What is reported of the lines of a text, compared with the lines of `splitLines`. -/
structure ReportsLines (t : Text) (testers : List Tester) (allowList : List Text)
    (found : List ForbiddenMatch) : Prop where
  /-- The text of a match is that of its line. -/
  text_eq : ∀ m ∈ found, 1 ≤ m.line ∧ m.line ≤ (splitLines t).length + 1 ∧
    m.text = Text.trim (numberedLine t m.line)
  /-- Every reported line exists, unless an empty line after the last one is reported. -/
  exist_iff : (∀ m ∈ found, m.line ≤ (splitLines t).length) ↔
    (EndsLine t → ¬ IsReported testers allowList [])
  /-- No reported line holds a text that exempts it, unless the carriage return at the end of the
  text belongs to it. -/
  exempt_iff : (∀ m ∈ found, ¬ IsExempt allowList (numberedLine t m.line)) ↔
    (t.getLast? = some 0x0D →
      IsReported testers allowList (numberedLine t (splitLines t).length).dropLast →
        ¬ IsExempt allowList (numberedLine t (splitLines t).length))

section Reports

variable {present absent : List Tester} {t front last : Text} {probe : Probe}

/-- A match is on a line that is the same in both views, or on the last piece. -/
theorem reported_cases (h : LastPiece t front last) {m : ForbiddenMatch}
    (hm : m ∈ (verifyWith present absent t probe).forbiddenMatches) :
    (1 ≤ m.line ∧ m.line ≤ (splitLines front).length ∧
        m.text = Text.trim (numberedLine t m.line) ∧
        ¬ IsExempt probe.allowList (numberedLine t m.line)) ∨
      (m.line = 1 + (splitLines front).length ∧ m.text = Text.trim last ∧
        IsReported absent probe.allowList (withoutReturn last)) := by
  obtain ⟨i, line, hi, hexempt, tester, htester, htest, rfl⟩ := mem_forbiddenMatches_iff.1 hm
  rcases h.plainLine_cases hi with ⟨hlt, rfl⟩ | ⟨rfl, rfl⟩
  · exact .inl ⟨Nat.le_add_right 1 i, by rw [Nat.add_comm]; exact hlt, rfl, hexempt⟩
  · exact .inr ⟨rfl, trim_withoutReturn last, hexempt, tester, htester, htest⟩

theorem exists_reported_last (present : List Tester) (h : LastPiece t front last)
    (hreported : IsReported absent probe.allowList (withoutReturn last)) :
    ∃ m ∈ (verifyWith present absent t probe).forbiddenMatches,
      m.line = 1 + (splitLines front).length := by
  obtain ⟨hexempt, tester, htester, htest⟩ := hreported
  exact ⟨_, mem_forbiddenMatches_iff.2 ⟨_, _, h.plainLine_last, hexempt, tester, htester, htest,
    rfl⟩, rfl⟩

theorem reportsLines_verifyWith (present absent : List Tester) (t : Text) (probe : Probe) :
    ReportsLines t absent probe.allowList (verifyWith present absent t probe).forbiddenMatches := by
  obtain ⟨front, last, h⟩ := exists_lastPiece t
  have hlength := h.length_splitLines
  have hnumbered := h.numberedLine_last
  refine ⟨fun m hm => ?_, ⟨fun hall hends hreported => ?_, fun hnone m hm => ?_⟩,
    ⟨fun hall hreturn hreported => ?_, fun hcut m hm => ?_⟩⟩
  · rcases reported_cases h hm with ⟨hpos, hle, htext, -⟩ | ⟨hline, htext, -⟩
    · exact ⟨hpos, by omega, htext⟩
    · rw [hline, hnumbered]
      exact ⟨by omega, by omega, htext⟩
  · obtain rfl := h.endsLine_iff.1 hends
    obtain ⟨m, hm, hline⟩ := exists_reported_last present h hreported
    have hle := hall m hm
    rw [if_pos rfl] at hlength
    omega
  · rcases reported_cases h hm with ⟨-, hle, -⟩ | ⟨hline, -, hreported⟩
    · omega
    · by_cases hnil : last = []
      · subst hnil
        exact (hnone (h.endsLine_iff.2 rfl) hreported).elim
      · rw [if_neg hnil] at hlength
        omega
  · have hlast := h.getLast?_iff.1 hreturn
    have hne : last ≠ [] := fun hnil => by simp [hnil] at hlast
    rw [if_neg hne] at hlength
    rw [hlength, Nat.add_comm, hnumbered] at hreported ⊢
    have hplain : last.dropLast = withoutReturn last := by
      rw [withoutReturn, if_pos (by rw [hlast]; rfl)]
    obtain ⟨m, hm, hline⟩ := exists_reported_last present h (hplain ▸ hreported)
    have hexempt := hall m hm
    rwa [hline, hnumbered] at hexempt
  · rcases reported_cases h hm with ⟨-, -, -, hexempt⟩ | ⟨hline, -, hreported⟩
    · exact hexempt
    · rw [hline, hnumbered]
      by_cases hlast : last.getLast? = some 0x0D
      · have hne : last ≠ [] := fun hnil => by simp [hnil] at hlast
        rw [if_neg hne] at hlength
        rw [hlength, Nat.add_comm, hnumbered] at hcut
        rw [withoutReturn, if_pos (by rw [hlast]; rfl)] at hreported
        exact hcut (h.getLast?_iff.2 hlast) hreported
      · rw [withoutReturn, if_neg (by simpa using hlast)] at hreported
        exact hreported.1

end Reports

/-- The lines a probe reports, for tests of any kind and for the tests of its markers: their texts
are those of the lines of `splitLines`, and it is said when all of them exist and when none of them
holds a text that exempts it. -/
theorem reported_lines (t : Text) (probe : Probe) :
    (∀ present absent, ReportsLines t absent probe.allowList
        (verifyWith present absent t probe).forbiddenMatches) ∧
      ∀ v, verify t probe = .ok v → ∃ absent,
        probe.expectedAbsent.mapM Marker.compile = .ok absent ∧
          ReportsLines t absent probe.allowList v.forbiddenMatches := by
  refine ⟨fun present absent => reportsLines_verifyWith present absent t probe, fun v hv => ?_⟩
  obtain ⟨present, absent, -, habsent, rfl⟩ := verify_ok hv
  exact ⟨absent, habsent, reportsLines_verifyWith present absent t probe⟩

/-- A probe that forbids empty lines. -/
def emptyLineProbe : Probe where
  file := "a.c"
  expectedPresent := []
  expectedAbsent := [.regex "^$" none]
  allowList := []

theorem reported_lines_emptyLine : ∃ absent,
    emptyLineProbe.expectedAbsent.mapM Marker.compile = .ok absent ∧
      ReportsLines "int x;\n" absent [] [⟨2, "/^$/", []⟩] := by
  have hverify : (verify "int x;\n" emptyLineProbe).toOption =
      some ⟨"a.c", false, [], [⟨2, "/^$/", []⟩], none⟩ := by decide +kernel
  cases h : verify "int x;\n" emptyLineProbe with
  | error fault => simp [h, Except.toOption] at hverify
  | ok v =>
    obtain rfl : v = _ := by simpa [h, Except.toOption] using hverify
    exact (reported_lines _ _).2 _ h

/-- A second line is reported of a text that has one. And the carriage return at the end of a text,
which exempts its line, does not keep it from being reported. -/
theorem reported_line_missing :
    ((verify "int x;\n" emptyLineProbe).toOption =
        some ⟨"a.c", false, [], [⟨2, "/^$/", []⟩], none⟩ ∧
      (splitLines "int x;\n").length = 1) ∧
    (verify "gets(s);\r" ⟨"a.c", [], [.literal "gets("], ["\r"]⟩).toOption =
        some ⟨"a.c", false, [], [⟨1, "gets(", "gets(s);"⟩], none⟩ ∧
      numberedLine "gets(s);\r" 1 = "gets(s);\r" := by
  decide +kernel

end Remedy
