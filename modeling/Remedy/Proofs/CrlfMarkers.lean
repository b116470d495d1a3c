import Remedy.Proofs.AbsentMarkers
import Remedy.Proofs.CrlfTexts

/-!
# Markers in CR LF

Markers that are expected to be absent are looked for on lines without their line breaks, which are
the same in both line endings (`plainLines_expandLineBreaks`). Markers that are expected to be
present are looked for as they are written, in the whole text: one that goes on after a line feed
is not found when the text is in CR LF (`infix_expandLineBreaks_iff`). `verify_in_crlf` says what
that means for a probe, and `verify_misses_marker_in_crlf` is a probe that fails for it.
-/

namespace Remedy

/-! ## Lines and fragments -/

theorem withoutReturn_append_return (line : Text) : withoutReturn (line ++ [0x0D]) = line := by
  simp [withoutReturn]

theorem withoutReturn_eq_self {line : Text} (h : 0x0D ∉ line) : withoutReturn line = line :=
  if_neg fun hlast => h (List.mem_of_getLast? (beq_iff_eq.1 hlast))

theorem plainLines_append_lf {a : Text} (h : 0x0A ∉ a) (b : Text) :
    Scan.plainLines (a ++ 0x0A :: b) = withoutReturn a :: Scan.plainLines b := by
  have hcut : Text.splitAt (· == 0x0A) (a ++ 0x0A :: b) =
      Text.splitAt (· == 0x0A) a ++ Text.splitAt (· == 0x0A) b := splitAt_append_cons rfl a b
  have hline : ∀ c ∈ a, (c == 0x0A) = false := fun c hc => by
    simpa using fun heq : c = 0x0A => h (heq ▸ hc)
  rw [plainLines_eq, plainLines_eq, hcut, splitAt_of_forall hline]
  rfl

/-- The line ending makes no difference to lines without their line breaks. -/
theorem plainLines_expandLineBreaks {t : Text} (h : 0x0D ∉ t) :
    Scan.plainLines (expandLineBreaks t) = Scan.plainLines t := by
  induction t using pieces_induction (· == 0x0A) with
  | last s hs => rw [expandLineBreaks_eq_self fun hlf => by simpa using hs _ hlf]
  | cut a c b ha hc ih =>
    obtain rfl : c = 0x0A := by simpa using hc
    have hlf : 0x0A ∉ a := fun hlf => by simpa using ha _ hlf
    have hcr : 0x0D ∉ a ∧ 0x0D ∉ b := by simpa using h
    rw [expandLineBreaks_append, expandLineBreaks_eq_self hlf, expandLineBreaks_lf,
      List.append_cons a, plainLines_append_lf (by simpa using hlf), plainLines_append_lf hlf,
      ih hcr.2, withoutReturn_append_return, withoutReturn_eq_self hcr.1]

theorem infix_iff_exists_occursAt {x t : Text} : x <:+: t ↔ ∃ i, OccursAt x t i := by
  constructor
  · rintro ⟨before, after, rfl⟩
    exact ⟨_, .middle before x after⟩
  · rintro ⟨_, before, after, rfl, -⟩
    exact ⟨before, after, rfl⟩

/-- A fragment of a text stands in its CR LF form too, as long as it does not go on after a line
feed. -/
theorem infix_expandLineBreaks_iff {x t : Text} (hx : 0x0D ∉ x) :
    x <:+: expandLineBreaks t ↔ x <:+: t ∧ 0x0A ∉ x.tail := by
  rcases eq_or_ne x [] with rfl | hne
  · simp
  rw [infix_iff_exists_occursAt, infix_iff_exists_occursAt]
  by_cases hlf : 0x0A ∈ x
  · constructor
    · rintro ⟨j, hj⟩
      have hleads := leadsWithBreak_of_occursAt hx hlf hj
      obtain ⟨i, hi, -⟩ := (hleads.occursAt_iff hx).1 hj
      exact ⟨⟨i, hi⟩, hleads.2⟩
    · rintro ⟨⟨i, hi⟩, htail⟩
      have hleads : LeadsWithBreak x := by
        obtain ⟨c, rest, rfl⟩ := List.exists_cons_of_ne_nil hne
        exact ⟨by simpa using ((List.mem_cons.1 hlf).resolve_right htail).symm, htail⟩
      exact ⟨_, (hleads.occursAt_iff hx).2 ⟨i, hi, rfl⟩⟩
  · have hlast : x.getLast? ≠ some 0x0D := fun h => hx (List.mem_of_getLast? h)
    have hoccurs (j : Nat) := occursAt_expandLineBreaks_iff (t := t) (j := j) hne hlast
    rw [expandLineBreaks_eq_self hlf] at hoccurs
    simp only [hoccurs, mt List.mem_of_mem_tail hlf, not_false_eq_true, and_true]
    exact ⟨fun ⟨_, i, hi, _⟩ => ⟨i, hi⟩, fun ⟨i, hi⟩ => ⟨_, i, hi, rfl⟩⟩

/-! ## Probes with literal markers -/

/-- A literal marker without carriage returns. -/
def Marker.IsPlain : Marker → Prop
  | .literal marker => 0x0D ∉ marker
  | .regex .. => False

/-- The test for a literal marker. -/
def literalTester (marker : Text) : Tester := ⟨marker, fun t => t.includes marker⟩

theorem Marker.IsPlain.compile {marker : Marker} (h : marker.IsPlain) :
    marker.compile = .ok (literalTester marker.label) := by
  cases marker with
  | literal => rfl
  | regex => exact h.elim

theorem Marker.IsPlain.label {marker : Marker} (h : marker.IsPlain) : 0x0D ∉ marker.label := by
  cases marker with
  | literal => exact h
  | regex => exact h.elim

/-- The markers of a list that a text does not contain. -/
def missingFrom (t : Text) (markers : List Text) : List Text :=
  markers.filter fun marker => !t.includes marker

/-- What a probe with literal markers finds. -/
theorem verify_of_plain {probe : Probe}
    (hpresent : ∀ marker ∈ probe.expectedPresent, marker.IsPlain)
    (habsent : ∀ marker ∈ probe.expectedAbsent, marker.IsPlain) (t : Text) :
    ∃ v, verify t probe = .ok v ∧
      v.missingMarkers = missingFrom t (probe.expectedPresent.map Marker.label) ∧
      v.forbiddenMatches = (if probe.expectedAbsent = [] then []
        else forbiddenOn (probe.expectedAbsent.map fun marker => literalTester marker.label)
          probe.allowList 1 (Scan.plainLines t)) ∧
      v.passed = (v.missingMarkers.isEmpty && v.forbiddenMatches.isEmpty) := by
  have hp := mapM_eq_ok fun marker h => (hpresent marker h).compile
  have ha := mapM_eq_ok fun marker h => (habsent marker h).compile
  refine ⟨_, by rw [verify, hp, ha]; rfl, ?_, ?_, rfl⟩
  · simp [verifyWith, missingFrom, List.filter_map, Function.comp_def, literalTester]
  · simp [verifyWith]

theorem missingFrom_expandLineBreaks {t : Text} {markers : List Text}
    (h : ∀ marker ∈ markers, 0x0D ∉ marker) :
    missingFrom (expandLineBreaks t) markers =
      markers.filter fun marker => !t.includes marker || marker.tail.contains 0x0A := by
  refine List.filter_congr fun marker hmarker => ?_
  rw [Bool.eq_iff_iff, Bool.not_eq_true', ← Bool.not_eq_true, includes_iff,
    infix_expandLineBreaks_iff (h marker hmarker), ← includes_iff]
  cases t.includes marker <;> simp

/-- The same markers are missing if none of those found goes on after a line feed, and only then. -/
theorem missingFrom_expandLineBreaks_eq_iff {t : Text} {markers : List Text}
    (h : ∀ marker ∈ markers, 0x0D ∉ marker) :
    missingFrom (expandLineBreaks t) markers = missingFrom t markers ↔
      ∀ marker ∈ markers, marker <:+: t → 0x0A ∉ marker.tail := by
  rw [missingFrom_expandLineBreaks h]
  constructor
  · intro heq marker hmarker hfound hlf
    have hmissing : marker ∈ missingFrom t markers :=
      heq ▸ List.mem_filter.2 ⟨hmarker, by simpa using .inr hlf⟩
    have hnot := (List.mem_filter.1 hmissing).2
    simp [includes_iff.2 hfound] at hnot
  · intro hfound
    refine List.filter_congr fun marker hmarker => ?_
    cases hin : t.includes marker with
    | false => rfl
    | true => simpa using hfound marker hmarker (includes_iff.1 hin)

/-- In CR LF a probe with literal markers forbids what it forbids in LF, and misses what it misses
there and every marker that goes on after a line feed. Its outcome is the same exactly when no
marker of the latter kind stands in the text. -/
theorem verify_in_crlf {t : Text} {probe : Probe} (ht : 0x0D ∉ t)
    (hpresent : ∀ marker ∈ probe.expectedPresent, marker.IsPlain)
    (habsent : ∀ marker ∈ probe.expectedAbsent, marker.IsPlain) :
    ∃ v w, verify t probe = .ok v ∧ verify (toLineEnding t .crlf) probe = .ok w ∧
      w.forbiddenMatches = v.forbiddenMatches ∧
      w.missingMarkers = (probe.expectedPresent.map Marker.label).filter
        (fun marker => !t.includes marker || marker.tail.contains 0x0A) ∧
      (w.passed = v.passed ∧ w.missingMarkers = v.missingMarkers ∧
          w.forbiddenMatches = v.forbiddenMatches ↔
        ∀ marker ∈ probe.expectedPresent, marker.label <:+: t → 0x0A ∉ marker.label.tail) := by
  have hlabels : ∀ marker ∈ probe.expectedPresent.map Marker.label, 0x0D ∉ marker :=
    List.forall_mem_map.2 fun marker hmarker => (hpresent marker hmarker).label
  obtain ⟨v, hv, hvmissing, hvforbidden, hvpassed⟩ := verify_of_plain hpresent habsent t
  obtain ⟨w, hw, hwmissing, hwforbidden, hwpassed⟩ :=
    verify_of_plain hpresent habsent (expandLineBreaks t)
  rw [plainLines_expandLineBreaks ht, ← hvforbidden] at hwforbidden
  rw [toLineEnding_crlf ht]
  refine ⟨v, w, hv, hw, hwforbidden, hwmissing.trans (missingFrom_expandLineBreaks hlabels), ?_⟩
  have hsame : w.missingMarkers = v.missingMarkers ↔
      ∀ marker ∈ probe.expectedPresent, marker.label <:+: t → 0x0A ∉ marker.label.tail := by
    rw [hwmissing, hvmissing, missingFrom_expandLineBreaks_eq_iff hlabels, List.forall_mem_map]
  rw [← hsame]
  constructor
  · exact fun h => h.2.1
  · exact fun h => ⟨by rw [hwpassed, hvpassed, h, hwforbidden], h, hwforbidden⟩

/-- A probe that asks for one text and forbids another. -/
def pairProbe (present absent : Text) : Probe where
  file := "a.c"
  expectedPresent := [.literal present]
  expectedAbsent := [.literal absent]
  allowList := ["vetted"]

/-- Two lines with a forbidden call, one of which is allowed. -/
def vettedCall : Text := "x;\ngets(s);\ngets(t); // vetted"

set_option maxRecDepth 2000 in
/-- A marker may begin with a line feed. -/
theorem verify_in_crlf_leading_break :
    ∃ v w, verify vettedCall (pairProbe "\ngets" "gets(") = .ok v ∧
      verify (toLineEnding vettedCall .crlf) (pairProbe "\ngets" "gets(") = .ok w ∧
      w.passed = v.passed ∧ w.missingMarkers = v.missingMarkers ∧
      w.forbiddenMatches = v.forbiddenMatches ∧ v.forbiddenMatches.length = 1 := by
  have hpresent : 0x0D ∉ ("\ngets" : Text) := by decide
  have habsent : 0x0D ∉ ("gets(" : Text) := by decide
  have htail : 0x0A ∉ ("\ngets" : Text).tail := by decide
  obtain ⟨v, w, hv, hw, -, -, hsame⟩ := @verify_in_crlf vettedCall
    (pairProbe "\ngets" "gets(") (by decide) (List.forall_mem_singleton.2 hpresent)
    (List.forall_mem_singleton.2 habsent)
  obtain ⟨hpassed, hmissing, hforbidden⟩ := hsame.2 (List.forall_mem_singleton.2 fun _ => htail)
  refine ⟨v, w, hv, hw, hpassed, hmissing, hforbidden, ?_⟩
  obtain rfl := Except.ok.inj hv
  rfl

set_option maxRecDepth 2000 in
/-- A marker of two lines that is accepted by the rules for plans stands in a text, and is missed
when the text is in CR LF. -/
theorem verify_misses_marker_in_crlf :
    (Marker.read (.text "if (n)\nreturn;")).result = .ok (.literal "if (n)\nreturn;") ∧
      verify "if (n)\nreturn;" (pairProbe "if (n)\nreturn;" "gets(") =
        .ok ⟨"a.c", true, [], [], none⟩ ∧
      verify (toLineEnding "if (n)\nreturn;" .crlf) (pairProbe "if (n)\nreturn;" "gets(") =
        .ok ⟨"a.c", false, ["if (n)\nreturn;"], [], none⟩ :=
  ⟨rfl, rfl, rfl⟩

end Remedy
