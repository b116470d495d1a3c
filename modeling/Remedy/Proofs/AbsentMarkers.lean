import Remedy.Plan.Check
import Remedy.Proofs.Lists
import Remedy.Proofs.Pieces
import Remedy.Proofs.Search

/-!
# Markers that are expected to be absent

Lines are tested one by one and without their line breaks. A marker that stands inside a line is
found, and a marker that takes in a line break is not: `verify_passed_absent` says which occurrences
a passed probe leaves open, and `verify_passes_across_lines` is one of them.
-/

namespace Remedy

/-! ## Lines -/

/-- A line without the carriage return at its end. -/
def withoutReturn (line : Text) : Text :=
  if line.getLast? == some 0x0D then line.dropLast else line

theorem plainLines_eq (t : Text) :
    Scan.plainLines t = (Text.splitAt (· == 0x0A) t).map withoutReturn := rfl

/-- What an occurrence of a marker has to do with line breaks: it holds a line feed, or it ends in
the carriage return at the end of a line. -/
def TouchesLineBreak (marker t : Text) (i : Nat) : Prop :=
  0x0A ∈ marker ∨
    marker.getLast? = some 0x0D ∧
      ((t.drop (i + marker.length)).head? = none ∨ (t.drop (i + marker.length)).head? = some 0x0A)

theorem infix_withoutReturn {a marker b : Text} (h : b ≠ [] ∨ marker.getLast? ≠ some 0x0D) :
    marker <:+: withoutReturn (a ++ marker ++ b) := by
  unfold withoutReturn
  split_ifs with hlast
  · rcases List.eq_nil_or_concat b with rfl | ⟨b, c, rfl⟩
    · rcases List.eq_nil_or_concat marker with rfl | ⟨marker, c, rfl⟩
      · exact List.nil_infix
      · have hc : c = 0x0D := by simpa using hlast
        simp [hc] at h
    · refine ⟨a, b, ?_⟩
      rw [List.concat_eq_append, ← List.append_assoc, List.dropLast_concat]
  · exact ⟨a, b, rfl⟩

/-- An occurrence that touches no line break lies on a line. -/
theorem exists_plainLine_of_occursAt {marker t : Text} {i : Nat} (h : OccursAt marker t i)
    (htouch : ¬ TouchesLineBreak marker t i) : ∃ line ∈ Scan.plainLines t, marker <:+: line := by
  obtain ⟨a, b, rfl, rfl⟩ := h
  unfold TouchesLineBreak at htouch
  rw [not_or] at htouch
  obtain ⟨hlf, hcr⟩ := htouch
  have hdrop : (a ++ marker ++ b).drop (a.length + marker.length) = b := by
    rw [← List.length_append, List.drop_left]
  rw [hdrop] at hcr
  obtain ⟨pieces, hb⟩ := head_splitAt (· == 0x0A) b
  have hinside : ∀ c ∈ marker, (c == 0x0A) = false := fun c hc => by
    simpa using fun h : c = 0x0A => hlf (h ▸ hc)
  have hmarker := splitAt_append_piece hinside hb
  obtain ⟨before, x, hsplit⟩ := splitAt_append a hmarker
  refine ⟨withoutReturn (x ++ marker ++ b.takeWhile fun c => !(c == 0x0A)), ?_,
    infix_withoutReturn ?_⟩
  · rw [plainLines_eq, List.append_assoc, hsplit, List.map_append, List.map_cons,
      ← List.append_assoc]
    simp
  · by_contra hno
    rw [not_or, not_not, not_not] at hno
    refine hcr ⟨hno.2, ?_⟩
    cases b with
    | nil => exact .inl rfl
    | cons c b =>
      right
      have : ¬ (!(c == 0x0A)) = true := fun hc => by simp [hc] at hno
      simpa using this

/-! ## Verification -/

theorem verify_ok {t : Text} {probe : Probe} {v : Verification} (h : verify t probe = .ok v) :
    ∃ present absent, probe.expectedPresent.mapM Marker.compile = .ok present ∧
      probe.expectedAbsent.mapM Marker.compile = .ok absent ∧
      v = verifyWith present absent t probe := by
  unfold verify at h
  cases hp : probe.expectedPresent.mapM Marker.compile with
  | error e => simp [hp, bind, Except.bind] at h
  | ok present =>
    cases ha : probe.expectedAbsent.mapM Marker.compile with
    | error e => simp [hp, ha, bind, Except.bind] at h
    | ok absent =>
      refine ⟨present, absent, rfl, rfl, ?_⟩
      simpa [hp, ha, bind, Except.bind, pure, Except.pure] using h.symm

/-- With no line exempt, nothing is reported only if no test succeeds on any line. -/
theorem test_eq_false_of_forbiddenOn {testers : List Tester} {number : Nat} {lines : List Text}
    (h : forbiddenOn testers [] number lines = []) :
    ∀ line ∈ lines, ∀ tester ∈ testers, tester.test line = false := by
  induction lines generalizing number with
  | nil => simp
  | cons first lines ih =>
    simp only [forbiddenOn, List.any_nil, Bool.false_eq_true, if_false, List.append_eq_nil_iff,
      List.map_eq_nil_iff, List.filter_eq_nil_iff] at h
    intro line hline tester ht
    rcases List.mem_cons.1 hline with rfl | hline
    · exact Bool.not_eq_true _ ▸ h.1 tester ht
    · exact ih h.2 line hline tester ht

/-- A probe that passes and exempts no line leaves open only such occurrences of a literal marker as
touch a line break. A marker that holds no line feed and does not end in a carriage return stands
nowhere in the text. -/
theorem verify_passed_absent {t : Text} {probe : Probe} {v : Verification}
    (hallow : probe.allowList = []) (h : verify t probe = .ok v) (hpassed : v.passed = true)
    {marker : Text} (hm : .literal marker ∈ probe.expectedAbsent) :
    (∀ i, OccursAt marker t i → TouchesLineBreak marker t i) ∧
      (0x0A ∉ marker → marker.getLast? ≠ some 0x0D → ¬ marker <:+: t) := by
  have htouch : ∀ i, OccursAt marker t i → TouchesLineBreak marker t i := by
    intro i hi
    by_contra hno
    obtain ⟨line, hline, hin⟩ := exists_plainLine_of_occursAt hi hno
    obtain ⟨present, absent, -, habsent, rfl⟩ := verify_ok h
    obtain ⟨tester, ht, hcompile⟩ := exists_mem_of_mapM_ok habsent hm
    obtain rfl : ⟨marker, fun text => Text.includes text marker⟩ = tester := Except.ok.inj hcompile
    have hforbidden : forbiddenOn absent [] 1 (Scan.plainLines t) = [] := by
      simp only [verifyWith, hallow, Bool.and_eq_true, List.isEmpty_iff] at hpassed
      rw [if_neg (List.ne_nil_of_mem ht)] at hpassed
      exact hpassed.2
    have hfalse : Text.includes line marker = false :=
      test_eq_false_of_forbiddenOn hforbidden line hline _ ht
    simp [includes_iff.2 hin] at hfalse
  refine ⟨htouch, fun hlf hcr hin => ?_⟩
  obtain ⟨a, b, rfl⟩ := hin
  rcases htouch a.length (OccursAt.middle a marker b) with h | h
  · exact hlf h
  · exact hcr h.1

/-- A probe that forbids some texts and exempts no line. -/
def absentProbe (markers : List Text) : Probe where
  file := "a.c"
  expectedPresent := []
  expectedAbsent := markers.map .literal
  allowList := []

set_option maxRecDepth 2000 in
/-- A call that stands on no line of a text, before a line break or elsewhere. -/
theorem verify_passed_absent_gets :
    (verify "fgets(s);\r\nputs(s);" (absentProbe ["gets(t)"])).toOption.map Verification.passed =
        some true ∧
      ¬ ("gets(t)" : Text) <:+: "fgets(s);\r\nputs(s);" := by
  have hverify : verify "fgets(s);\r\nputs(s);" (absentProbe ["gets(t)"]) =
      .ok ⟨"a.c", true, [], [], none⟩ := rfl
  have hmarker : .literal "gets(t)" ∈ (absentProbe ["gets(t)"]).expectedAbsent :=
    List.mem_singleton.2 rfl
  exact ⟨by rw [hverify]; rfl,
    (verify_passed_absent rfl hverify rfl hmarker).2 (by decide) (by decide)⟩

/-- A marker with a line break in it is accepted by the rules for plans, stands in the text, and is
not found. -/
theorem verify_passes_across_lines :
    (Marker.read (.text "gets(\ns)")).result = .ok (.literal "gets(\ns)") ∧
      verify "gets(\ns)" (absentProbe ["gets(\ns)"]) = .ok ⟨"a.c", true, [], [], none⟩ ∧
      OccursAt "gets(\ns)" "gets(\ns)" 0 :=
  ⟨rfl, rfl, ⟨[], [], rfl, rfl⟩⟩

end Remedy
