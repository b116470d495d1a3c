import Remedy.Proofs.Search

/-!
# Texts in CR LF

A text without carriage returns beside the same text with every line feed written as CR LF. An
offset of the one is an offset of the other (`crlfOffset`), on the same line (`lineAt_crlfOffset`),
and a fragment stands in both at the same places (`occursAt_expandLineBreaks_iff`). The exception is
a fragment as it is written, with bare line feeds: it stands in the text with CR LF only if its one
line feed comes first, and there it starts between the two units of a line break.
-/

namespace Remedy

/-! ## Dominant line endings -/

theorem countLf_expandLineBreaks (t : Text) : countLf (expandLineBreaks t) = countLf t := by
  induction t with
  | nil => rfl
  | cons c t ih =>
    by_cases hc : c = 0x0A
    · simpa [countLf, hc] using ih
    · simpa [countLf, expandLineBreaks_cons hc, List.count_cons, hc] using ih

theorem countCrlf_cons {c : CodeUnit} {t : Text} (h : c = 0x0D → t.head? ≠ some 0x0A) :
    countCrlf (c :: t) = countCrlf t := by
  rw [countCrlf]
  rintro t rfl rfl
  exact h rfl rfl

theorem countCrlf_expandLineBreaks (t : Text) : countCrlf (expandLineBreaks t) = countLf t := by
  induction t with
  | nil => rfl
  | cons c t ih =>
    by_cases hc : c = 0x0A
    · simpa [countCrlf, countLf, hc] using ih
    · rw [expandLineBreaks_cons hc, countCrlf_cons fun _ => head?_expandLineBreaks_ne_lf t, ih]
      simp [countLf, hc]

theorem countCrlf_eq_zero {t : Text} (h : 0x0D ∉ t) : countCrlf t = 0 := by
  induction t with
  | nil => rfl
  | cons c t ih =>
    rw [List.mem_cons, not_or] at h
    rw [countCrlf_cons fun hc => absurd hc.symm h.1, ih h.2]

theorem detectLineEnding_plain {t : Text} (h : 0x0D ∉ t) : detectLineEnding t = .lf := by
  simp [detectLineEnding, countCrlf_eq_zero h]

theorem detectLineEnding_expandLineBreaks {t : Text} (h : 0x0A ∈ t) :
    detectLineEnding (expandLineBreaks t) = .crlf := by
  have : 0 < countLf t := List.count_pos_iff.2 h
  simp [detectLineEnding, countLf_expandLineBreaks, countCrlf_expandLineBreaks, this]

theorem not_crlf_of_plain {t : Text} (h : 0x0D ∉ t) : ¬ [0x0D, 0x0A] <:+: t := fun hs =>
  h (hs.subset (by simp))

theorem unifyLineBreaks_plain {t : Text} (h : 0x0D ∉ t) : unifyLineBreaks t = t :=
  unifyLineBreaks_eq_self (not_crlf_of_plain h)

theorem toLineEnding_crlf {t : Text} (h : 0x0D ∉ t) :
    toLineEnding t .crlf = expandLineBreaks t := by
  rw [toLineEnding, unifyLineBreaks_plain h]

theorem toLineEnding_lf {t : Text} (h : 0x0D ∉ t) : toLineEnding t .lf = t :=
  unifyLineBreaks_plain h

/-! ## Offsets -/

/-- The offset at which the unit at offset `i` of a text stands in CR LF. At a line feed this is the
offset of its carriage return. -/
def crlfOffset (t : Text) (i : Nat) : Nat := (expandLineBreaks (t.take i)).length

@[simp]
theorem crlfOffset_zero (t : Text) : crlfOffset t 0 = 0 := by simp [crlfOffset]

theorem crlfOffset_append (a b : Text) :
    crlfOffset (a ++ b) a.length = (expandLineBreaks a).length := by
  simp [crlfOffset]

theorem crlfOffset_add (t : Text) (i n : Nat) :
    crlfOffset t (i + n) = crlfOffset t i + (expandLineBreaks ((t.drop i).take n)).length := by
  simp [crlfOffset, List.take_add]

theorem length_expandLineBreaks_pos {t : Text} (h : t ≠ []) : 0 < (expandLineBreaks t).length :=
  List.length_pos_iff.2 (mt expandLineBreaks_eq_nil_iff.1 h)

theorem crlfOffset_lt {t : Text} {i j : Nat} (hij : i < j) (hj : j ≤ t.length) :
    crlfOffset t i < crlfOffset t j := by
  obtain ⟨n, rfl⟩ := Nat.exists_eq_add_of_le (Nat.le_of_lt hij)
  have hne : (t.drop i).take n ≠ [] := List.length_pos_iff.1 (by simp; omega)
  have := length_expandLineBreaks_pos hne
  rw [crlfOffset_add]
  omega

theorem crlfOffset_le_iff {t : Text} {i j : Nat} (hi : i ≤ t.length) (hj : j ≤ t.length) :
    crlfOffset t i ≤ crlfOffset t j ↔ i ≤ j := by
  rcases Nat.lt_trichotomy i j with h | rfl | h
  · have := crlfOffset_lt h hj
    omega
  · simp
  · have := crlfOffset_lt h hi
    omega

theorem take_crlfOffset (t : Text) (i : Nat) :
    (expandLineBreaks t).take (crlfOffset t i) = expandLineBreaks (t.take i) := by
  conv_lhs => rw [← List.take_append_drop i t, expandLineBreaks_append]
  rw [List.take_append_drop, crlfOffset, List.take_left]

theorem drop_crlfOffset (t : Text) (i : Nat) :
    (expandLineBreaks t).drop (crlfOffset t i) = expandLineBreaks (t.drop i) := by
  conv_lhs => rw [← List.take_append_drop i t, expandLineBreaks_append]
  rw [List.take_append_drop, crlfOffset, List.drop_left]

theorem slice_crlfOffset (t : Text) {i j : Nat} (hij : i ≤ j) :
    (expandLineBreaks t).slice (crlfOffset t i) (crlfOffset t j) =
      expandLineBreaks (t.slice i j) := by
  obtain ⟨n, rfl⟩ := Nat.exists_eq_add_of_le hij
  have h := take_crlfOffset (t.drop i) n
  rw [Text.slice, drop_crlfOffset, crlfOffset_add, Nat.add_sub_cancel_left, ← crlfOffset, h,
    Text.slice, Nat.add_sub_cancel_left]

/-! ## The line ending at a place -/

theorem lineEndingAt_plain {t : Text} (ht : 0x0D ∉ t) (i j : Nat) : lineEndingAt t i j = .lf := by
  have hslice : 0x0D ∉ t.slice i j := fun h => ht (List.mem_of_mem_drop (List.mem_of_mem_take h))
  unfold lineEndingAt
  dsimp only
  rw [detectLineEnding_plain hslice, detectLineEnding_plain ht, ite_self]

theorem lineEndingAt_expandLineBreaks {t : Text} (hlf : 0x0A ∈ t) {i j : Nat} (hij : i ≤ j) :
    lineEndingAt (expandLineBreaks t) (crlfOffset t i) (crlfOffset t j) = .crlf := by
  unfold lineEndingAt
  dsimp only
  rw [slice_crlfOffset t hij, detectLineEnding_expandLineBreaks hlf]
  split_ifs with hbreak
  · exact detectLineEnding_expandLineBreaks (mem_expandLineBreaks_lf_iff.1 hbreak)
  · rfl

/-! ## Line numbers -/

theorem crlfOffset_lt_length {t : Text} {i : Nat} (hi : i < t.length) :
    crlfOffset t i < (expandLineBreaks t).length := by
  have := crlfOffset_lt hi (Nat.le_refl _)
  rwa [crlfOffset, crlfOffset, List.take_length] at this

/-- A unit stands on the same line. -/
theorem lineAt_crlfOffset {t : Text} {i : Nat} (hi : i < t.length) :
    lineAt (lineStarts (expandLineBreaks t)) (crlfOffset t i) = lineAt (lineStarts t) i := by
  rw [lineAt_eq_countLf (crlfOffset_lt_length hi), take_crlfOffset, countLf_expandLineBreaks,
    lineAt_eq_countLf hi]

theorem crlfOffset_succ_of_lf {t : Text} {i : Nat} (h : t[i]? = some 0x0A) :
    crlfOffset t (i + 1) = crlfOffset t i + 2 := by
  simp [crlfOffset, List.take_add_one, h]

theorem crlfOffset_succ {t : Text} {i : Nat} (hi : i < t.length) (h : t[i]? ≠ some 0x0A) :
    crlfOffset t (i + 1) = crlfOffset t i + 1 := by
  rw [List.getElem?_eq_getElem hi] at h
  have hc : t[i] ≠ 0x0A := fun hc => h (by rw [hc])
  rw [crlfOffset, List.take_add_one, List.getElem?_eq_getElem hi, expandLineBreaks_append,
    List.length_append, ← crlfOffset, Option.toList_some, expandLineBreaks_cons hc]
  rfl

/-- The second unit of a line break stands on the line that it ends. -/
theorem lineAt_crlfOffset_lf {t : Text} {i : Nat} (h : t[i]? = some 0x0A) :
    lineAt (lineStarts (expandLineBreaks t)) (crlfOffset t i + 1 : Nat) =
      lineAt (lineStarts t) i := by
  obtain ⟨hi, hc⟩ := List.getElem?_eq_some_iff.1 h
  have hdrop : (expandLineBreaks t).drop (crlfOffset t i) =
      0x0D :: 0x0A :: expandLineBreaks (t.drop (i + 1)) := by
    rw [drop_crlfOffset, List.drop_eq_getElem_cons hi, hc, expandLineBreaks_lf]
  have htake : (expandLineBreaks t).take (crlfOffset t i + 1) =
      expandLineBreaks (t.take i) ++ [0x0D] := by
    rw [List.take_add, take_crlfOffset, hdrop]
    rfl
  have hlt : crlfOffset t i + 1 < (expandLineBreaks t).length := by
    have := congrArg List.length hdrop
    simp only [List.length_drop, List.length_cons] at this
    omega
  rw [lineAt_eq_countLf hlt, htake, countLf, List.count_append, ← countLf,
    countLf_expandLineBreaks, lineAt_eq_countLf hi]
  rfl

/-- The last unit before the place of the next one stands on the same line. -/
theorem lineAt_pred_crlfOffset_succ {t : Text} {i : Nat} (hi : i < t.length) :
    lineAt (lineStarts (expandLineBreaks t)) (crlfOffset t (i + 1) - 1 : Int) =
      lineAt (lineStarts t) i := by
  by_cases h : t[i]? = some 0x0A
  · rw [crlfOffset_succ_of_lf h, ← lineAt_crlfOffset_lf h]
    congr 1
    omega
  · rw [crlfOffset_succ hi h, ← lineAt_crlfOffset hi]
    congr 1
    omega

/-! ## Occurrences -/

/-- Everything that is found in a text is found in CR LF, and nothing else. -/
theorem occursAt_expandLineBreaks_iff {x t : Text} {j : Nat} (hne : x ≠ [])
    (hx : x.getLast? ≠ some 0x0D) :
    OccursAt (expandLineBreaks x) (expandLineBreaks t) j ↔
      ∃ i, OccursAt x t i ∧ j = crlfOffset t i := by
  constructor
  · rintro ⟨before, after, h, rfl⟩
    rw [List.append_assoc] at h
    have hhead : (expandLineBreaks x ++ after).head? ≠ some 0x0A := by
      obtain ⟨c, y, hy⟩ := List.exists_cons_of_ne_nil (mt expandLineBreaks_eq_nil_iff.1 hne)
      have := head?_expandLineBreaks_ne_lf x
      simpa [hy] using this
    obtain ⟨a, b, rfl, rfl, hb⟩ := expandLineBreaks_eq_append h hhead
    have hafter : after.head? ≠ some 0x0A := by
      intro hlf
      obtain ⟨rest, rfl⟩ := List.head?_eq_some_iff.1 hlf
      exact hx (getLast?_expandLineBreaks x ▸ getLast?_of_expandLineBreaks hb.symm)
    obtain ⟨y, c, rfl, hy, rfl⟩ := expandLineBreaks_eq_append hb.symm hafter
    obtain rfl := expandLineBreaks_injective hy
    exact ⟨a.length, ⟨a, c, by simp, rfl⟩, (crlfOffset_append a _).symm⟩
  · rintro ⟨i, ⟨before, after, rfl, rfl⟩, rfl⟩
    refine ⟨expandLineBreaks before, expandLineBreaks after, by simp, ?_⟩
    rw [List.append_assoc, crlfOffset_append]

/-- The only line break of the fragment is its first unit. -/
def LeadsWithBreak (x : Text) : Prop := x.head? = some 0x0A ∧ 0x0A ∉ x.tail

instance (x : Text) : Decidable (LeadsWithBreak x) := inferInstanceAs (Decidable (_ ∧ _))

theorem leadsWithBreak_iff {x : Text} :
    LeadsWithBreak x ↔ ∃ rest, x = 0x0A :: rest ∧ 0x0A ∉ rest := by
  cases x <;> simp [LeadsWithBreak]

/-- A fragment with bare line feeds starts right after a carriage return. -/
theorem leadsWithBreak_of_occursAt {x t : Text} {j : Nat} (hx : 0x0D ∉ x) (hlf : 0x0A ∈ x)
    (h : OccursAt x (expandLineBreaks t) j) : LeadsWithBreak x := by
  obtain ⟨before, after, h, -⟩ := h
  have hfirst (u v : Text) (hu : x = u ++ 0x0A :: v) : u = [] := by
    by_contra hne
    subst hu
    have hcut : expandLineBreaks t = (before ++ u) ++ 0x0A :: (v ++ after) := by rw [h]; simp
    have hlast := getLast?_of_expandLineBreaks hcut
    rw [List.getLast?_append, Option.or_eq_some_iff] at hlast
    rcases hlast with hlast | ⟨hnil, -⟩
    · exact hx (List.mem_append_left _ (List.mem_of_getLast? hlast))
    · exact hne (List.getLast?_eq_none_iff.1 hnil)
  obtain ⟨u, v, huv⟩ := List.append_of_mem hlf
  obtain rfl := hfirst u v huv
  refine leadsWithBreak_iff.2 ⟨v, huv, fun hv => ?_⟩
  obtain ⟨u', v', rfl⟩ := List.append_of_mem hv
  exact absurd (hfirst (0x0A :: u') v' huv) (by simp)

theorem LeadsWithBreak.expandLineBreaks_eq {x : Text} (h : LeadsWithBreak x) :
    expandLineBreaks x = 0x0D :: x := by
  obtain ⟨rest, rfl, hrest⟩ := leadsWithBreak_iff.1 h
  rw [expandLineBreaks_lf, expandLineBreaks_eq_self hrest]

/-- A fragment whose one line feed comes first is found one unit after its place. -/
theorem LeadsWithBreak.occursAt_iff {x t : Text} {j : Nat} (h : LeadsWithBreak x) (hx : 0x0D ∉ x) :
    OccursAt x (expandLineBreaks t) j ↔ ∃ i, OccursAt x t i ∧ j = crlfOffset t i + 1 := by
  obtain ⟨rest, rfl, -⟩ := leadsWithBreak_iff.1 h
  have hlast : (0x0A :: rest).getLast? ≠ some 0x0D := fun hl => hx (List.mem_of_getLast? hl)
  have hiff (k : Nat) := occursAt_expandLineBreaks_iff (t := t) (j := k)
    (List.cons_ne_nil _ rest) hlast
  constructor
  · rintro ⟨before, after, ht, rfl⟩
    have hcut : expandLineBreaks t = before ++ 0x0A :: (rest ++ after) := by rw [ht]; simp
    have hcr := getLast?_of_expandLineBreaks hcut
    obtain ⟨front, rfl⟩ := List.getLast?_eq_some_iff.1 hcr
    obtain ⟨i, hi, hlen⟩ := (hiff front.length).1
      ⟨front, after, by rw [ht, h.expandLineBreaks_eq]; simp, rfl⟩
    exact ⟨i, hi, by simp [hlen]⟩
  · rintro ⟨i, hi, rfl⟩
    obtain ⟨before, after, ht, hlen⟩ := (hiff _).2 ⟨i, hi, rfl⟩
    exact ⟨before ++ [0x0D], after, by rw [ht, h.expandLineBreaks_eq]; simp, by simp [hlen]⟩

end Remedy
