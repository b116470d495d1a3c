import Remedy.Proofs.CrlfMarkers
import Remedy.Proofs.Lists
import Remedy.Proofs.Words

/-!
# Scans of joined texts

A text that is cut at a line feed can be scanned part by part: lines are tested one by one, so the
findings of the second part only move down. One rule looks at the whole text, the one for
allocations, and a release in either part switches it off in both. `scan_joined` puts this together.
-/

namespace Remedy

/-- A finding, a number of lines further down. -/
def Finding.down (n : Nat) (f : Finding) : Finding := { f with line := f.line + n }

namespace Scan

/-- A finding of the rule that looks at the whole text. -/
def IsAllocation (f : Finding) : Prop := f.rule = uncheckedAllocation.name

instance : DecidablePred IsAllocation := fun f => inferInstanceAs (Decidable (f.rule = _))

/-! ## Lines -/

theorem plainLines_joined (t₁ t₂ : Text) :
    plainLines (t₁ ++ 0x0A :: t₂) = plainLines t₁ ++ plainLines t₂ := by
  rw [plainLines_eq, splitAt_append_cons (by rfl), List.map_append]
  rfl

theorem length_plainLines (t : Text) : (plainLines t).length = 1 + countLf t := by
  induction t using pieces_induction (· == 0x0A) with
  | last s hs =>
    have hlf : 0x0A ∉ s := fun h => by simpa using hs _ h
    rw [plainLines_eq, splitAt_of_forall hs, countLf, List.count_eq_zero_of_not_mem hlf]
    rfl
  | cut a c b ha hc ih =>
    have hlf : 0x0A ∉ a := fun h => by simpa using ha _ h
    obtain rfl : c = 0x0A := by simpa using hc
    rw [plainLines_append_lf hlf, List.length_cons, ih, countLf, countLf, List.count_append,
      List.count_cons_self, List.count_eq_zero_of_not_mem hlf]
    omega

section Lines

variable {allowList : List Text} {active : List Rule} {file : Text}

theorem report?_add (rule : Rule) (line : Text) (number n : Nat) :
    rule.report? file line (number + n) = (rule.report? file line number).map (Finding.down n) := by
  unfold Rule.report?
  split
  · split_ifs <;> rfl
  · rfl

theorem rule_of_report? {rule : Rule} {line : Text} {number : Nat} {f : Finding}
    (h : rule.report? file line number = some f) : f.rule = rule.name := by
  unfold Rule.report? at h
  split at h
  · split_ifs at h
    obtain rfl := Option.some.inj h
    rfl
  · simp at h

theorem scanLines_append (number : Nat) (lines lines' : List Text) :
    scanLines allowList active file number (lines ++ lines') =
      scanLines allowList active file number lines ++
        scanLines allowList active file (number + lines.length) lines' := by
  induction lines generalizing number with
  | nil => rfl
  | cons line lines ih =>
    simp only [List.cons_append, scanLines, ih, List.append_assoc, List.length_cons]
    rw [Nat.add_right_comm, Nat.add_assoc number]

theorem scanLines_add (number n : Nat) (lines : List Text) :
    scanLines allowList active file (number + n) lines =
      (scanLines allowList active file number lines).map (Finding.down n) := by
  induction lines generalizing number with
  | nil => rfl
  | cons line lines ih =>
    have hreport : Rule.report? file line (number + n) =
        fun rule => (rule.report? file line number).map (Finding.down n) :=
      funext fun rule => report?_add rule line number n
    simp only [scanLines, hreport, List.map_append, Nat.add_right_comm number n 1, ih]
    split_ifs
    · rfl
    · rw [List.map_filterMap]

/-- Leaving out the findings of one rule is the same as leaving out the rule. -/
theorem filter_scanLines (name : Text) (number : Nat) (lines : List Text) :
    (scanLines allowList active file number lines).filter (fun f => f.rule ≠ name) =
      scanLines allowList (active.filter fun rule => rule.name ≠ name) file number lines := by
  induction lines generalizing number with
  | nil => rfl
  | cons line lines ih =>
    simp only [scanLines, List.filter_append, ih]
    congr 1
    split_ifs
    · rfl
    · rw [List.filter_filterMap, List.filterMap_filter]
      congr 1
      funext rule
      cases hreport : rule.report? file line number with
      | none => simp
      | some f => simp [Option.filter, rule_of_report? hreport]

end Lines

/-! ## Rules -/

/-- Which rules are suppressed does not depend on the text. -/
theorem activeRules_cases (options : ScanOptions) (file : Text) :
    (∃ fault, ∀ t, activeRules options t file = .error fault) ∨
      ∃ kept : List Rule, (∀ rule ∈ kept, rule ∈ rules) ∧
        ∀ t, activeRules options t file = .ok (kept.filter fun rule => rule.inFile t) := by
  rcases filterAuxM_cases (isSuppressed options file) rules with ⟨fault, h⟩ | ⟨kept, hsub, h⟩
  · refine .inl ⟨fault, fun t => ?_⟩
    rw [activeRules, List.filterM, h]
    rfl
  · refine .inr ⟨kept, fun rule hrule => hsub.subset hrule, fun t => ?_⟩
    rw [activeRules, List.filterM, h, List.append_nil]
    exact congrArg Except.ok (List.reverse_reverse _)

theorem inFile_eq {rule : Rule} (h : rule ∈ rules) (t : Text) :
    rule.inFile t = (decide (rule.name ≠ uncheckedAllocation.name) || !hasRelease t) := by
  simp only [rules, List.mem_cons, List.not_mem_nil, or_false] at h
  rcases h with rfl | rfl | rfl | rfl | rfl | rfl <;> rfl

/-- No rule finds anything on an empty line. -/
theorem find_nil {rule : Rule} (h : rule ∈ rules) : rule.find [] = none := by
  simp only [rules, List.mem_cons, List.not_mem_nil, or_false] at h
  rcases h with rfl | rfl | rfl | rfl | rfl | rfl <;> rfl

/-- All rules but the one that looks at the whole text. -/
def lineRules (active : List Rule) : List Rule :=
  active.filter fun rule => rule.name ≠ uncheckedAllocation.name

/-- A release in the text takes the rule for allocations out of the rules, and nothing else does. -/
theorem filter_inFile {kept : List Rule} (hkept : ∀ rule ∈ kept, rule ∈ rules) (t : Text) :
    kept.filter (fun rule => rule.inFile t) =
      if hasRelease t then lineRules kept else kept := by
  split_ifs with hrelease
  · refine List.filter_congr fun rule hrule => ?_
    rw [inFile_eq (hkept rule hrule), hrelease, Bool.not_true, Bool.or_false]
  · refine List.filter_eq_self.2 fun rule hrule => ?_
    rw [inFile_eq (hkept rule hrule), Bool.eq_false_iff.2 hrelease, Bool.not_false, Bool.or_true]

theorem scanWith_eq {allowList : List Text} {active : List Rule}
    (hactive : ∀ rule ∈ active, rule ∈ rules) (t file : Text) :
    scanWith allowList active t file = scanLines allowList active file 1 (plainLines t) := by
  cases t with
  | nil =>
    have hnone : active.filterMap (Rule.report? file [] 1) = [] :=
      List.filterMap_eq_nil_iff.2 fun rule hrule => by
        rw [Rule.report?, find_nil (hactive rule hrule)]
    have hlines : plainLines [] = [[]] := rfl
    simp [scanWith, hlines, scanLines, hnone]
  | cons c t => rfl

theorem hasRelease_joined (t₁ t₂ : Text) :
    hasRelease (t₁ ++ 0x0A :: t₂) = (hasRelease t₁ || hasRelease t₂) :=
  hasWord_append_cons _ (by decide) t₁ t₂

/-- With the same rules in force, the findings of joined texts follow on each other. -/
theorem scanWith_joined {allowList : List Text} {active : List Rule}
    (hactive : ∀ rule ∈ active, rule ∈ rules) (t₁ t₂ file : Text) :
    scanWith allowList active (t₁ ++ 0x0A :: t₂) file =
      scanWith allowList active t₁ file ++
        (scanWith allowList active t₂ file).map (Finding.down (1 + countLf t₁)) := by
  simp only [scanWith_eq hactive]
  rw [plainLines_joined, scanLines_append, scanLines_add, length_plainLines]

theorem lineRules_filter_inFile {kept : List Rule} (hkept : ∀ rule ∈ kept, rule ∈ rules)
    (t : Text) : lineRules (kept.filter fun rule => rule.inFile t) = lineRules kept := by
  rw [filter_inFile hkept]
  split_ifs
  · rw [lineRules, lineRules, List.filter_filter]
    simp
  · rfl

theorem filter_scanWith (allowList : List Text) {active : List Rule}
    (hactive : ∀ rule ∈ active, rule ∈ rules) (t file : Text) :
    (scanWith allowList active t file).filter (fun f => ¬ IsAllocation f) =
      scanWith allowList (lineRules active) t file := by
  have hline : ∀ rule ∈ lineRules active, rule ∈ rules := fun rule h =>
    hactive rule (List.mem_filter.1 h).1
  rw [scanWith_eq hactive, scanWith_eq hline]
  exact filter_scanLines uncheckedAllocation.name 1 (plainLines t)

theorem filter_map_down (n : Nat) (findings : List Finding) :
    (findings.map (Finding.down n)).filter (fun f => ¬ IsAllocation f) =
      (findings.filter fun f => ¬ IsAllocation f).map (Finding.down n) := by
  rw [List.filter_map]
  rfl

/-- Scanning can be done part by part. The findings of a text that is cut at a line feed are those
of its first part and, further down, those of the second; only a release in one part takes the
allocations out of both. -/
theorem scan_joined (options : ScanOptions) (t₁ t₂ file : Text) :
    (∃ fault, ∀ t, scan options t file = .error fault) ∨
      ∃ first second joined, scan options t₁ file = .ok first ∧ scan options t₂ file = .ok second ∧
        scan options (t₁ ++ 0x0A :: t₂) file = .ok joined ∧
        (joined.filter fun f => ¬ IsAllocation f) =
          ((first ++ second.map (Finding.down (1 + countLf t₁))).filter fun f => ¬ IsAllocation f) ∧
        (¬ NamesRelease t₁ → ¬ NamesRelease t₂ →
          joined = first ++ second.map (Finding.down (1 + countLf t₁))) ∧
        (NamesRelease t₁ ∨ NamesRelease t₂ → ∀ f ∈ joined, ¬ IsAllocation f) := by
  rcases activeRules_cases options file with ⟨fault, h⟩ | ⟨kept, hkept, h⟩
  · refine .inl ⟨fault, fun t => ?_⟩
    rw [scan, h]
    rfl
  right
  have hactive (t : Text) : ∀ rule ∈ kept.filter fun rule => rule.inFile t, rule ∈ rules :=
    fun rule hrule => hkept rule (List.mem_filter.1 hrule).1
  have hscan (t : Text) : scan options t file =
      .ok (scanWith options.allowList (kept.filter fun rule => rule.inFile t) t file) := by
    rw [scan, h]
    rfl
  have hlines (t : Text) := filter_scanWith options.allowList (hactive t) t file
  simp only [lineRules_filter_inFile hkept] at hlines
  refine ⟨_, _, _, hscan t₁, hscan t₂, hscan _, ?_, fun hfirst hsecond => ?_, fun hrelease => ?_⟩
  · rw [List.filter_append, filter_map_down, hlines, hlines, hlines]
    exact scanWith_joined (fun rule hrule => hkept rule (List.mem_filter.1 hrule).1) t₁ t₂ file
  · rw [← hasRelease_iff] at hfirst hsecond
    rw [filter_inFile hkept, filter_inFile hkept, filter_inFile hkept, hasRelease_joined,
      if_neg hfirst, if_neg hsecond, if_neg (by simp [hfirst, hsecond])]
    exact scanWith_joined hkept t₁ t₂ file
  · have hjoined : hasRelease (t₁ ++ 0x0A :: t₂) = true := by
      rw [hasRelease_joined, Bool.or_eq_true, hasRelease_iff, hasRelease_iff]
      exact hrelease
    have hsame := hlines (t₁ ++ 0x0A :: t₂)
    rw [filter_inFile hkept, if_pos hjoined] at hsame ⊢
    exact fun f hf => by simpa using List.filter_eq_self.1 hsame f hf

end Scan

end Remedy
