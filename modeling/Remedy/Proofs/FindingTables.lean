import Mathlib.Algebra.Ring.Parity
import Mathlib.Data.List.Induction
import Mathlib.Tactic.Common
import Remedy.Proofs.Lists
import Remedy.Report.Markdown

/-!
# Findings as rows of a table

The findings of a report are written as tables, one for each severity, and no finding is lost or
repeated (`findings_in_tables`). A reader splits a row at its bars, unless an odd number of
backslashes stands before them. A backslash is put before each bar of the text that matched, and
before none in the path and the rule. So the row has its three cells exactly when the bars in the
path and the rule are escaped already and those in the text that matched are not
(`cells_findingRow_iff`).
-/

namespace Remedy.Markdown

/-! ## Cells -/

/-- The backslashes right before the next unit, when there are `run` of them before this one. -/
def runAfter (run : Nat) (c : CodeUnit) : Nat := if c = 0x5C then run + 1 else 0

/-- The pieces of a text between its bars, where a bar after an odd number of backslashes is part of
a piece. There are `run` backslashes right before the text. -/
def cellsAfter (run : Nat) : Text → List Text
  | [] => [[]]
  | c :: t =>
    if c = 0x7C ∧ run % 2 = 0 then [] :: cellsAfter 0 t
    else (cellsAfter (runAfter run c) t).modifyHead (c :: ·)

def cells (row : Text) : List Text := cellsAfter 0 row

theorem cellsAfter_ne_nil (run : Nat) (t : Text) : cellsAfter run t ≠ [] := by
  fun_induction cellsAfter run t with
  | case1 => simp
  | case2 => simp
  | case3 run c t _ ih => simpa using ih

/-- A bar that is not escaped separates the cells before it from those after it. -/
theorem cellsAfter_append_bar {run : Nat} {a : Text} (ha : a.foldl runAfter run % 2 = 0)
    (b : Text) : cellsAfter run (a ++ 0x7C :: b) = cellsAfter run a ++ cellsAfter 0 b := by
  induction a generalizing run with
  | nil => simp [cellsAfter, show run % 2 = 0 from ha]
  | cons c a ih =>
    obtain ⟨piece, pieces, hpieces⟩ := List.exists_cons_of_ne_nil
      (cellsAfter_ne_nil (runAfter run c) a)
    rw [List.cons_append, cellsAfter, cellsAfter]
    split_ifs with hc
    · rw [ih (by simpa [runAfter, hc.1] using ha)]
      rfl
    · rw [ih ha, hpieces]
      rfl

/-! ## Bars and the backslashes before them -/

/-- Every bar of a text comes after a number of backslashes as asked for. There are `run` of them
right before the text. -/
def BarsAfter (p : Nat → Prop) (run : Nat) : Text → Prop
  | [] => True
  | c :: t => (c = 0x7C → p run) ∧ BarsAfter p (runAfter run c) t

theorem cellsAfter_eq_singleton_iff {run : Nat} {t : Text} :
    cellsAfter run t = [t] ↔ BarsAfter Odd run t := by
  induction t generalizing run with
  | nil => simp [cellsAfter, BarsAfter]
  | cons c t ih =>
    have hhead : (cellsAfter (runAfter run c) t).modifyHead (c :: ·) = [c :: t] ↔
        cellsAfter (runAfter run c) t = [t] := by
      rcases cellsAfter (runAfter run c) t with _ | ⟨piece, pieces⟩ <;> simp
    rw [cellsAfter, BarsAfter, ← ih, Nat.odd_iff]
    split_ifs with hc
    · simp [hc]
    · rw [hhead]
      refine ⟨fun h => ⟨fun hbar => ?_, h⟩, fun h => h.2⟩
      have := not_and.1 hc hbar
      omega

section Bars

variable {p : Nat → Prop} {run : Nat} {a b t : Text}

theorem barsAfter_append :
    BarsAfter p run (a ++ b) ↔ BarsAfter p run a ∧ BarsAfter p (a.foldl runAfter run) b := by
  induction a generalizing run with
  | nil => simp [BarsAfter]
  | cons c a ih => simp [BarsAfter, ih, and_assoc]

theorem barsAfter_of_not_mem (h : 0x7C ∉ a) : BarsAfter p run a := by
  induction a generalizing run with
  | nil => trivial
  | cons c a ih =>
    rw [List.mem_cons, not_or] at h
    exact ⟨fun hc => absurd hc.symm h.1, ih h.2⟩

/-- What stands around a text has no part in this if it holds no bars, and no backslash comes right
before the text. -/
theorem barsAfter_between (ha : 0x7C ∉ a) (hrun : a.foldl runAfter 0 = 0) (hb : 0x7C ∉ b) :
    BarsAfter p 0 (a ++ t ++ b) ↔ BarsAfter p 0 t := by
  rw [barsAfter_append, barsAfter_append, hrun]
  exact ⟨fun h => h.1.2, fun h => ⟨⟨barsAfter_of_not_mem ha, h⟩, barsAfter_of_not_mem hb⟩⟩

/-- One more backslash stands before each bar. -/
theorem barsAfter_escapeBars : BarsAfter Odd run (escapeBars t) ↔ BarsAfter Even run t := by
  induction t generalizing run with
  | nil => rfl
  | cons c t ih =>
    rw [escapeBars, List.flatMap_cons, ← escapeBars, barsAfter_append]
    by_cases hc : c = 0x7C
    · simp [hc, BarsAfter, runAfter, ih, Nat.odd_add_one]
    · simp [hc, BarsAfter, ih]

/-- The number of backslashes at the end of a text. -/
def backslashes (t : Text) : Nat := (t.reverse.takeWhile (· == 0x5C)).length

/-- Every bar of a text comes after a number of backslashes as asked for. -/
def EveryBar (p : Nat → Prop) (t : Text) : Prop :=
  ∀ before after, t = before ++ 0x7C :: after → p (backslashes before)

theorem foldl_runAfter (t : Text) : t.foldl runAfter 0 = backslashes t := by
  induction t using List.reverseRecOn with
  | nil => rfl
  | append_singleton t c ih =>
    rw [List.foldl_append, ih]
    by_cases hc : c = 0x5C <;> simp [runAfter, hc, backslashes]

theorem barsAfter_iff : BarsAfter p run t ↔
    ∀ before after, t = before ++ 0x7C :: after → p (before.foldl runAfter run) := by
  induction t generalizing run with
  | nil => simp [BarsAfter]
  | cons c t ih =>
    rw [BarsAfter, ih]
    constructor
    · rintro ⟨hc, ht⟩ (_ | ⟨d, before⟩) after h
      · exact hc (List.cons.inj h).1
      · obtain ⟨rfl, rfl⟩ := List.cons.inj h
        exact ht before after rfl
    · intro h
      exact ⟨fun hc => h [] t (by rw [hc]; rfl),
        fun before after ht => h (c :: before) after (by rw [ht]; rfl)⟩

theorem barsAfter_zero_iff : BarsAfter p 0 t ↔ EveryBar p t := by
  simp only [barsAfter_iff, foldl_runAfter, EveryBar]

end Bars

instance decidableBarsAfter (p : Nat → Prop) [DecidablePred p] :
    (run : Nat) → (t : Text) → Decidable (BarsAfter p run t)
  | _, [] => .isTrue trivial
  | run, c :: t =>
    have := decidableBarsAfter p (runAfter run c) t
    inferInstanceAs (Decidable ((c = 0x7C → p run) ∧ BarsAfter p (runAfter run c) t))

instance (p : Nat → Prop) [DecidablePred p] (t : Text) : Decidable (EveryBar p t) :=
  decidable_of_iff _ barsAfter_zero_iff

/-! ## Rows -/

theorem isDigit_of_mem_ofNat {n : Nat} {c : CodeUnit} (h : c ∈ Text.ofNat n) :
    c.isDigit = true := by
  obtain ⟨d, hd, rfl⟩ := List.mem_map.1 h
  have hdigit : 48 ≤ d.toNat ∧ d.toNat ≤ 57 := by
    simpa [Char.isDigit, UInt32.le_iff_toNat_le] using
      Nat.isDigit_of_mem_toDigits (by decide) (by decide) hd
  have hunit : d.toNat.toUInt16.toNat = d.toNat :=
    UInt16.toNat_ofNat_of_lt (Nat.lt_of_le_of_lt hdigit.2 (by decide))
  simpa [CodeUnit.isDigit, UInt16.le_iff_toNat_le, hunit] using hdigit

/-- A text with a blank on both sides. -/
def padded (t : Text) : Text := " " ++ t ++ " "

/-- The path and the line of a finding. -/
def place (f : Finding) : Text := f.file ++ ":" ++ Text.ofNat f.line

theorem findingRow_eq (f : Finding) : findingRow f = [] ++ 0x7C :: (padded (codeSpan (place f)) ++
    0x7C :: (padded f.rule ++ 0x7C :: (padded (codeSpan (escapeBars f.matchedText)) ++
      0x7C :: []))) := by
  have hopen : ("| " : Text) = [0x7C, 0x20] := rfl
  have hbar : (" | " : Text) = [0x20, 0x7C, 0x20] := rfl
  have hclose : (" |" : Text) = [0x20, 0x7C] := rfl
  have hblank : (" " : Text) = [0x20] := rfl
  simp [findingRow, padded, place, hopen, hbar, hclose, hblank]

/-- The bars of a row that are written as such stand after a blank. -/
theorem cells_findingRow (f : Finding) : cells (findingRow f) = [[]] ++
    (cells (padded (codeSpan (place f))) ++ (cells (padded f.rule) ++
      (cells (padded (codeSpan (escapeBars f.matchedText))) ++ [[]]))) := by
  have hpadded (t : Text) : (padded t).foldl runAfter 0 % 2 = 0 := by
    rw [padded, List.foldl_append]
    rfl
  rw [findingRow_eq, cells, cellsAfter_append_bar rfl, cellsAfter_append_bar (hpadded _),
    cellsAfter_append_bar (hpadded _), cellsAfter_append_bar (hpadded _)]
  rfl

section Parts

variable {p : Nat → Prop}

theorem barsAfter_padded {t : Text} : BarsAfter p 0 (padded t) ↔ BarsAfter p 0 t :=
  barsAfter_between (by decide) rfl (by decide)

theorem barsAfter_codeSpan {t : Text} : BarsAfter p 0 (codeSpan t) ↔ BarsAfter p 0 t :=
  barsAfter_between (by decide) rfl (by decide)

theorem barsAfter_place {f : Finding} : BarsAfter p 0 (place f) ↔ BarsAfter p 0 f.file := by
  have hcolon : (":" : Text) = [0x3A] := rfl
  have hline : 0x7C ∉ Text.ofNat f.line := fun h => absurd (isDigit_of_mem_ofNat h) (by decide)
  have hparts : place f = [] ++ f.file ++ (0x3A :: Text.ofNat f.line) := by simp [place, hcolon]
  rw [hparts, barsAfter_between (by simp) rfl (by simp [hline])]

end Parts

theorem append_eq_three_iff {α : Type} {a b c tail : List α} {x y z : α} (ha : a ≠ [])
    (hb : b ≠ []) (hc : c ≠ []) :
    a ++ (b ++ (c ++ tail)) = x :: y :: z :: tail ↔ a = [x] ∧ b = [y] ∧ c = [z] := by
  constructor
  · intro h
    have hlength := congrArg List.length h
    have := List.length_pos_iff.2 ha
    have := List.length_pos_iff.2 hb
    have := List.length_pos_iff.2 hc
    simp only [List.length_append, List.length_cons] at hlength
    obtain ⟨a, rfl⟩ := List.length_eq_one_iff.1 (show a.length = 1 by omega)
    obtain ⟨b, rfl⟩ := List.length_eq_one_iff.1 (show b.length = 1 by omega)
    obtain ⟨c, rfl⟩ := List.length_eq_one_iff.1 (show c.length = 1 by omega)
    simpa using h
  · rintro ⟨rfl, rfl, rfl⟩
    rfl

/-- A row has the cells it was written from exactly when the bars in the path and in the rule are
escaped, and those in the text that matched are not. -/
theorem cells_findingRow_iff (f : Finding) :
    cells (findingRow f) = [[], padded (codeSpan (place f)), padded f.rule,
        padded (codeSpan (escapeBars f.matchedText)), []] ↔
      EveryBar Odd f.file ∧ EveryBar Odd f.rule ∧ EveryBar Even f.matchedText := by
  have hnil (t : Text) : cells t ≠ [] := cellsAfter_ne_nil 0 t
  rw [cells_findingRow, List.singleton_append, List.cons.injEq, eq_self, true_and,
    append_eq_three_iff (hnil _) (hnil _) (hnil _)]
  simp only [cells, cellsAfter_eq_singleton_iff, barsAfter_padded, barsAfter_codeSpan,
    barsAfter_place, barsAfter_escapeBars, ← barsAfter_zero_iff]

/-! ## Tables -/

/-- A finding whose texts each stand on one line. -/
structure OneLine (f : Finding) : Prop where
  file : 0x0A ∉ f.file
  rule : 0x0A ∉ f.rule
  matched : 0x0A ∉ f.matchedText

/-- The findings of a severity. -/
def groupOf (findings : List Finding) (severity : Severity) : List Finding :=
  findings.filter fun f => f.severity == severity

/-- The heading of a severity, with a number of findings. -/
def heading (severity : Severity) (n : Nat) : Text :=
  "### " ++ icon severity ++ " " ++ title severity ++ " (" ++ Text.ofNat n ++ ")"

/-- The heading of a severity with the number of rows, and the table with these rows. -/
def tableLines (severity : Severity) (group : List Finding) : List Text :=
  [heading severity group.length, [], "| Location | Rule | Match |",
    "|----------|------|-------|"] ++ group.map findingRow ++ [[]]

theorem severityLines_eq (findings : List Finding) (severity : Severity) :
    severityLines findings severity =
      if (groupOf findings severity).isEmpty then []
      else tableLines severity (groupOf findings severity) := rfl

theorem not_mem_escapeBars {t : Text} (h : 0x0A ∉ t) : 0x0A ∉ escapeBars t := by
  rw [escapeBars, List.mem_flatMap]
  rintro ⟨c, hc, hlf⟩
  split_ifs at hlf with hbar
  · simp [hbar] at hlf
  · exact h (List.mem_singleton.1 hlf ▸ hc)

theorem not_mem_ofNat (n : Nat) : 0x0A ∉ Text.ofNat n := fun h =>
  absurd (isDigit_of_mem_ofNat h) (by decide)

theorem OneLine.not_mem_findingRow {f : Finding} (h : OneLine f) : 0x0A ∉ findingRow f := by
  have hblank : (" " : Text) = [0x20] := rfl
  have hcolon : (":" : Text) = [0x3A] := rfl
  rw [findingRow_eq]
  simp [padded, place, codeSpan, hblank, hcolon, h.file, h.rule, not_mem_escapeBars h.matched,
    not_mem_ofNat]

theorem not_mem_heading (severity : Severity) (n : Nat) : 0x0A ∉ heading severity n := by
  have hicon : 0x0A ∉ "### " ++ icon severity ++ " " ++ title severity ++ " (" := by
    cases severity <;> decide
  have hclose : 0x0A ∉ (")" : Text) := by decide
  rw [heading, List.mem_append, List.mem_append]
  rintro ((h | h) | h)
  · exact hicon h
  · exact not_mem_ofNat n h
  · exact hclose h

theorem not_mem_tableLines {severity : Severity} {group : List Finding}
    (h : ∀ f ∈ group, OneLine f) : ∀ l ∈ tableLines severity group, 0x0A ∉ l := by
  have hcolumns : 0x0A ∉ ("| Location | Rule | Match |" : Text) := by decide
  have hruler : 0x0A ∉ ("|----------|------|-------|" : Text) := by decide
  intro l hl
  rw [tableLines, List.mem_append, List.mem_append] at hl
  rcases hl with (hl | hl) | hl
  · simp only [List.mem_cons, List.not_mem_nil, or_false] at hl
    rcases hl with rfl | rfl | rfl | rfl
    · exact not_mem_heading severity _
    · simp
    · exact hcolumns
    · exact hruler
  · obtain ⟨f, hf, rfl⟩ := List.mem_map.1 hl
    exact (h f hf).not_mem_findingRow
  · obtain rfl := List.mem_singleton.1 hl
    simp

/-- Lines that hold no line feed are read back from the text they are written as. -/
theorem splitOn_lines {ls : List Text} (hne : ls ≠ []) (h : ∀ l ∈ ls, 0x0A ∉ l) :
    (lines ls).splitOn 0x0A = ls :=
  List.splitOn_intercalate 0x0A h hne

theorem lines_cons_cons (a b : Text) (ls : List Text) :
    lines (a :: b :: ls) = a ++ 0x0A :: lines (b :: ls) := by
  rw [lines, List.intercalate_cons_cons, List.append_assoc]
  rfl

theorem lines_append_cons {ls : List Text} (hne : ls ≠ []) (a b : Text) (rest : List Text) :
    lines (ls ++ a :: b :: rest) = lines ls ++ 0x0A :: (a ++ 0x0A :: lines (b :: rest)) := by
  induction ls with
  | nil => exact absurd rfl hne
  | cons l ls ih =>
    cases ls with
    | nil =>
      have hone : lines [l] = l := List.intercalate_singleton
      rw [List.singleton_append, lines_cons_cons, lines_cons_cons, hone]
    | cons m ls =>
      have := ih (List.cons_ne_nil m ls)
      simp only [List.cons_append] at this ⊢
      rw [lines_cons_cons, this, lines_cons_cons, List.append_assoc, List.cons_append]

/-- The severities that have findings, the worst first. -/
def severitiesOf (findings : List Finding) : List Severity :=
  Severity.all.filter fun s => !(groupOf findings s).isEmpty

theorem flatMap_severitiesOf {α : Type} {findings : List Finding} {f : Severity → List α}
    (hf : ∀ s, groupOf findings s = [] → f s = []) :
    (severitiesOf findings).flatMap f = Severity.all.flatMap f := by
  rw [severitiesOf]
  induction Severity.all with
  | nil => rfl
  | cons s ss ih =>
    rw [List.filter_cons, List.flatMap_cons, ← ih]
    cases hs : groupOf findings s with
    | nil => simp [hf s hs]
    | cons => simp

/-- Each finding stands in the group of one severity. -/
theorem perm_groups (findings : List Finding) :
    ((severitiesOf findings).flatMap (groupOf findings)).Perm findings := by
  rw [flatMap_severitiesOf fun _ h => h]
  refine perm_flatMap_filter (by decide) fun f _ => ?_
  cases f.severity <;> decide

theorem flatMap_severityLines (findings : List Finding) :
    Severity.all.flatMap (severityLines findings) =
      (severitiesOf findings).flatMap fun s => tableLines s (groupOf findings s) := by
  rw [← flatMap_severitiesOf fun s hs => by rw [severityLines_eq, hs]; rfl]
  refine List.flatMap_congr fun s hs => ?_
  have hgroup : (groupOf findings s).isEmpty = false := by simpa using (List.mem_filter.1 hs).2
  rw [severityLines_eq, hgroup]
  rfl

theorem splitOn_findingsSection {findings : List Finding} (hne : findings ≠ [])
    (h : ∀ f ∈ findings, OneLine f) :
    (findingsSection findings).splitOn 0x0A = (["## Findings", []] : List Text) ++
      (severitiesOf findings).flatMap fun s => tableLines s (groupOf findings s) := by
  have htitle : 0x0A ∉ ("## Findings" : Text) := by decide
  rw [findingsSection, if_neg (by simpa using hne), flatMap_severityLines]
  refine splitOn_lines (by simp) fun l hl => ?_
  rcases List.mem_append.1 hl with hl | hl
  · simp only [List.mem_cons, List.not_mem_nil, or_false] at hl
    rcases hl with rfl | rfl
    · exact htitle
    · simp
  · obtain ⟨s, -, hl⟩ := List.mem_flatMap.1 hl
    exact not_mem_tableLines (fun f hf => h f (List.mem_of_mem_filter hf)) l hl

/-- The findings have lines of their own in a report. -/
theorem exists_render_eq (report : ScanReport) : ∃ before after,
    render report = before ++ 0x0A :: (findingsSection report.findings ++ 0x0A :: after) := by
  let head : List Text := ["# C Source Scan Report", [], "*Generated: " ++ report.timestamp ++ "*"]
  let above : List Text := ["*Duration: " ++ (report.duration.divNat 1000).withTwoPlaces ++ "s*",
    [], "---", [], statsSection report, summarySection report]
  have hsections : render report = lines ((head ++ planLines report ++ above) ++
      findingsSection report.findings :: errorsSection report.errors :: ["---", [], note]) := by
    rw [List.append_assoc]
    rfl
  exact ⟨_, _, hsections.trans (lines_append_cons (by simp [head]) _ _ _)⟩

/-- A report has its findings in a section of its own: for each severity that has findings, the
worst first, a heading with their number and a table with a row for each of them. No finding is
lost or repeated. A row splits into its place, its rule and its text exactly when the bars in the
path and in the rule are escaped, and those in the text that matched are not. -/
theorem findings_in_tables (report : ScanReport) (hlines : ∀ f ∈ report.findings, OneLine f) :
    (∃ before after, render report =
      before ++ 0x0A :: (findingsSection report.findings ++ 0x0A :: after)) ∧
    (∃ severities : List Severity, severities.Sublist Severity.all ∧
      (findingsSection report.findings).splitOn 0x0A = (["## Findings", []] : List Text) ++
        (if severities = [] then (["No suspicious patterns found.", []] : List Text)
          else severities.flatMap fun s => tableLines s (groupOf report.findings s)) ∧
      (severities.flatMap (groupOf report.findings)).Perm report.findings) ∧
    ∀ f ∈ report.findings,
      (cells (findingRow f) = [[], padded (codeSpan (place f)), padded f.rule,
        padded (codeSpan (escapeBars f.matchedText)), []] ↔
        EveryBar Odd f.file ∧ EveryBar Odd f.rule ∧ EveryBar Even f.matchedText) := by
  refine ⟨exists_render_eq report, ⟨severitiesOf report.findings, List.filter_sublist, ?_,
    perm_groups _⟩, fun f _ => cells_findingRow_iff f⟩
  by_cases hnil : report.findings = []
  · rw [hnil]
    decide
  · have hsome : severitiesOf report.findings ≠ [] := by
      intro hs
      have hperm := perm_groups report.findings
      rw [hs] at hperm
      exact hnil hperm.symm.eq_nil
    rw [if_neg hsome, splitOn_findingsSection hnil hlines]

/-- A finding whose text has a bar, and another one after two backslashes. -/
def barredFinding : Finding where
  file := "src/a.c"
  line := 3
  category := .overflowRisk
  rule := "size_arithmetic"
  severity := .low
  message := "Arithmetic on a size_t line may overflow"
  matchedText := "n = a | b + '\\\\|';"

def barredReport : ScanReport where
  version := reportVersion
  timestamp := "2020-01-02T03:04:05.678Z"
  root := "r"
  planName := none
  findings := [barredFinding, { barredFinding with severity := .critical }]
  summary := ⟨1, 0, 0, 1, 0⟩
  stats := {}
  duration := .ofNat 0
  errors := []

theorem findings_in_tables_barred :
    (∀ f ∈ barredReport.findings, OneLine f) ∧
      cells (findingRow barredFinding) = [[], padded (codeSpan (place barredFinding)),
        padded barredFinding.rule, padded (codeSpan (escapeBars barredFinding.matchedText)), []] ∧
      escapeBars barredFinding.matchedText = "n = a \\| b + '\\\\\\|';" := by
  have hlines : ∀ f ∈ barredReport.findings, OneLine f :=
    List.forall_mem_cons.2 ⟨⟨by decide, by decide, by decide⟩,
      List.forall_mem_singleton.2 ⟨by decide, by decide, by decide⟩⟩
  have hrow := (findings_in_tables barredReport hlines).2.2 barredFinding List.mem_cons_self
  exact ⟨hlines, hrow.2 ⟨by decide, by decide, by decide⟩, rfl⟩

/-- A finding in a text with a backslash before a bar. -/
def escapedBarFinding : Finding where
  file := "a.c"
  line := 1
  category := .overflowRisk
  rule := "size_arithmetic"
  severity := .low
  message := "Arithmetic on a size_t line may overflow"
  matchedText := "size_t n = strlen(\"a\\|b\") + 1;"

/-- A finding in a file with a bar in its name. -/
def barredPathFinding : Finding where
  file := "x|y.c"
  line := 1
  category := .unsafeCall
  rule := "unsafe_input"
  severity := .critical
  message := "gets() cannot bound its input"
  matchedText := "gets("

/-- The backslash in the text undoes the one that is put before the bar, and no backslash is put
before the bar in the path: both rows have one cell too many. -/
theorem finding_row_splits :
    (Scan.scan ⟨[], []⟩ escapedBarFinding.matchedText "a.c").toOption = some [escapedBarFinding] ∧
      OneLine escapedBarFinding ∧ (cells (findingRow escapedBarFinding)).length = 6 ∧
      (Scan.scan ⟨[], []⟩ "gets(s);" "x|y.c").toOption = some [barredPathFinding] ∧
      OneLine barredPathFinding ∧ (cells (findingRow barredPathFinding)).length = 6 :=
  ⟨by decide +kernel, ⟨by decide, by decide, by decide⟩, by decide, by decide +kernel,
    ⟨by decide, by decide, by decide⟩, by decide⟩

end Remedy.Markdown
