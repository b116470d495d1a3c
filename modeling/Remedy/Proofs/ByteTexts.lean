import Remedy.Proofs.Utf8Sequences
import Remedy.Proofs.WellFormedPatches

/-!
# Texts with one unit per byte

In a file that is not UTF-8 a text stands with one unit for each of its bytes. The first byte of a
character is told from the others, so the bytes of a text occur only where the text does
(`occursAt_byteText_iff`), and a line break takes one byte that nothing else is written with, so
lines and line endings are the same (`lineAt_byteOffset`, `toLineEnding_byteText`).
-/

namespace Remedy

open Text

theorem Latin1.decode_injective {a b : Bytes} (h : Latin1.decode a = Latin1.decode b) : a = b := by
  rw [← Latin1.encode_decode a, h, Latin1.encode_decode]

/-- A text with one unit for each of its bytes. -/
def byteText (t : Text) : Text := Latin1.decode (Utf8.encode t)

theorem byteText_append {a : Text} (ha : WellFormed a) (b : Text) :
    byteText (a ++ b) = byteText a ++ byteText b := by
  rw [byteText, Utf8.encode_append ha, Latin1.decode, List.map_append]
  rfl

theorem byteText_injective {a b : Text} (ha : WellFormed a) (hb : WellFormed b)
    (h : byteText a = byteText b) : a = b := by
  rw [← Utf8.decode_encode ha, Latin1.decode_injective h, Utf8.decode_encode hb]

theorem byteText_eq_nil_iff {t : Text} (ht : WellFormed t) : byteText t = [] ↔ t = [] :=
  ⟨fun h => byteText_injective ht .nil h, fun h => by rw [h]; rfl⟩

/-! ## Offsets -/

/-- The offset of the bytes of what stands at an offset of a text. -/
def byteOffset (t : Text) (i : Nat) : Nat := (byteText (t.take i)).length

theorem byteOffset_zero (t : Text) : byteOffset t 0 = 0 := rfl

theorem byteOffset_length (t : Text) : byteOffset t t.length = (byteText t).length := by
  rw [byteOffset, List.take_length]

section Offsets

variable {t : Text} {i j : Nat}

theorem take_byteOffset (hi : WellFormed (t.take i)) :
    (byteText t).take (byteOffset t i) = byteText (t.take i) := by
  conv_lhs => rw [← List.take_append_drop i t, byteText_append hi]
  rw [List.take_append_drop, byteOffset, List.take_left]

theorem drop_byteOffset (hi : WellFormed (t.take i)) :
    (byteText t).drop (byteOffset t i) = byteText (t.drop i) := by
  conv_lhs => rw [← List.take_append_drop i t, byteText_append hi]
  rw [List.take_append_drop, byteOffset, List.drop_left]

theorem byteOffset_lt (hi : WellFormed (t.take i)) (hj : WellFormed (t.take j)) (hij : i < j)
    (hlength : j ≤ t.length) : byteOffset t i < byteOffset t j := by
  obtain ⟨n, rfl⟩ := Nat.exists_eq_add_of_le (Nat.le_of_lt hij)
  have hne : (t.drop i).take n ≠ [] := List.length_pos_iff.1 (by simp; omega)
  rw [List.take_add] at hj
  have hpos := List.length_pos_iff.2 (mt (byteText_eq_nil_iff (hi.of_append hj)).1 hne)
  rw [byteOffset, byteOffset, List.take_add, byteText_append hi, List.length_append]
  omega

theorem byteOffset_le_iff (hi : WellFormed (t.take i)) (hj : WellFormed (t.take j))
    (hit : i ≤ t.length) (hjt : j ≤ t.length) : byteOffset t i ≤ byteOffset t j ↔ i ≤ j := by
  rcases Nat.lt_trichotomy i j with h | rfl | h
  · have := byteOffset_lt hi hj h hjt
    omega
  · simp
  · have := byteOffset_lt hj hi h hit
    omega

end Offsets

/-! ## Occurrences -/

section Occurrences

variable {t x : Text} {i : Nat}

/-- What stands up to a place where a text occurs, and up to where it ends. -/
theorem OccursAt.wellFormed_take (h : OccursAt x t i) (ht : WellFormed t) (hx : WellFormed x)
    (hne : x ≠ []) : WellFormed (t.take i) ∧ WellFormed (t.take (i + x.length)) := by
  obtain ⟨before, after, rfl, rfl⟩ := h
  have hbefore := (ht.around hx hne).1
  rw [← List.length_append, List.take_left, List.append_assoc, List.take_left]
  exact ⟨hbefore, hbefore.append hx⟩

theorem OccursAt.byteOffset_add_length (h : OccursAt x t i) (ht : WellFormed t)
    (hx : WellFormed x) (hne : x ≠ []) :
    byteOffset t (i + x.length) = byteOffset t i + (byteText x).length := by
  have hbefore := (h.wellFormed_take ht hx hne).1
  obtain ⟨before, after, rfl, rfl⟩ := h
  rw [List.append_assoc, List.take_left] at hbefore
  rw [byteOffset, byteOffset, ← List.length_append, List.take_left, List.append_assoc,
    List.take_left, byteText_append hbefore, List.length_append]

/-- The first byte of a text is no tail. -/
theorem exists_encode_eq_cons (hx : WellFormed x) (hne : x ≠ []) :
    ∃ b bs, Utf8.encode x = b :: bs ∧ ¬ Utf8.IsTail b := by
  induction hx using Utf8.wellFormed_induction with
  | nil => exact absurd rfl hne
  | append n t hn ht ih =>
    obtain ⟨b, tails, hcons, hlead, -⟩ := (Utf8.isSequence_encodeCodePoint hn).lead_tails
    exact ⟨b, _, by rw [Utf8.encode_ofCodePoint_append hn, hcons, List.cons_append], hlead⟩

/-- The bytes of a text occur where the text occurs. -/
theorem occursAt_byteText_iff (ht : WellFormed t) (hx : WellFormed x) (hne : x ≠ []) {j : Nat} :
    OccursAt (byteText x) (byteText t) j ↔ ∃ i, OccursAt x t i ∧ byteOffset t i = j := by
  constructor
  · rintro ⟨before, after, h, rfl⟩
    rw [byteText, Latin1.decode, List.append_assoc, List.map_eq_append_iff] at h
    obtain ⟨u, w, hencode, rfl, h⟩ := h
    rw [List.map_eq_append_iff] at h
    obtain ⟨m, v, rfl, hm, rfl⟩ := h
    obtain rfl : m = Utf8.encode x := Latin1.decode_injective hm
    -- the cut before the bytes of the text is a cut between characters
    obtain ⟨c, cs, hcons, hlead⟩ := exists_encode_eq_cons hx hne
    obtain ⟨a, r, rfl, ha, hr, rfl, hrest⟩ := Utf8.encode_eq_append ht hencode
      (by simpa [hcons] using hlead)
    have hr' : r = x ++ Utf8.decode v := by
      rw [← Utf8.decode_encode hr, hrest, Utf8.decode_encode_append hx]
    refine ⟨a.length, ⟨a, Utf8.decode v, by rw [hr', List.append_assoc], rfl⟩, ?_⟩
    rw [byteOffset, List.take_left]
    rfl
  · rintro ⟨i, ⟨before, after, rfl, rfl⟩, rfl⟩
    have hbefore := (ht.around hx hne).1
    refine ⟨byteText before, byteText after, ?_, ?_⟩
    · rw [byteText_append (hbefore.append hx), byteText_append hbefore]
    · rw [byteOffset, List.append_assoc, List.take_left]

end Occurrences

/-! ## Line breaks -/

/-- A character that takes several bytes, none of which is a character of its own. -/
structure IsWide (a : Text) : Prop where
  wellFormed : WellFormed a
  ne_nil : a ≠ []
  units : ∀ c ∈ a, 0x80 ≤ c.toNat
  bytes : ∀ c ∈ byteText a, 0x80 ≤ c.toNat

theorem isWide_ofCodePoint {n : Nat} (hn : n.isValidChar) (hwide : 0x80 ≤ n) :
    IsWide (ofCodePoint n) where
  wellFormed := wellFormed_ofCodePoint hn
  ne_nil := by
    unfold ofCodePoint
    split_ifs <;> simp
  units := by
    intro c hc
    unfold ofCodePoint at hc
    unfold Nat.isValidChar at hn
    split_ifs at hc with hsmall
    · obtain rfl := List.mem_singleton.1 hc
      rwa [toNat_toUInt16 hsmall]
    · simp only [List.mem_cons, List.not_mem_nil, or_false] at hc
      rcases hc with rfl | rfl <;> rw [toNat_toUInt16 (by omega)] <;> omega
  bytes := by
    intro c hc
    have hencode : Utf8.encode (ofCodePoint n) = Utf8.encodeCodePoint n := by
      simpa [Utf8.encode] using Utf8.encode_ofCodePoint_append hn []
    rw [byteText, hencode, Latin1.decode, List.mem_map] at hc
    obtain ⟨b, hb, rfl⟩ := hc
    have hbyte {m : Nat} (hlow : 0x80 ≤ m) (hm : m < 0x100) : 0x80 ≤ m.toUInt8.toNat := by
      rwa [Utf8.toNat_toUInt8 hm]
    rw [UInt8.toNat_toUInt16]
    unfold Nat.isValidChar at hn
    unfold Utf8.encodeCodePoint at hb
    split_ifs at hb <;> simp only [List.mem_cons, List.not_mem_nil, or_false] at hb
    · omega
    · rcases hb with rfl | rfl <;> exact hbyte (by omega) (by omega)
    · rcases hb with rfl | rfl | rfl <;> exact hbyte (by omega) (by omega)
    · rcases hb with rfl | rfl | rfl | rfl <;> exact hbyte (by omega) (by omega)

theorem byteText_cons {c : CodeUnit} (hc : c.toNat < 0x80) (t : Text) :
    byteText (c :: t) = c :: byteText t := by
  have hplain : WellFormed [c] := .of_not_surrogate (.inl (by omega)) .nil
  have hone : byteText [c] = [c] := by
    cases hplain with
    | unit hhigh hlow _ =>
      have hbyte : c.toNat.toUInt8.toUInt16 = c := by
        rw [← UInt16.toNat_inj, UInt8.toNat_toUInt16, Utf8.toNat_toUInt8 (by omega)]
      rw [byteText, Utf8.encode_cons hhigh hlow, Utf8.encodeCodePoint, if_pos hc]
      exact congrArg (fun c => [c]) hbyte
  rw [← List.singleton_append, byteText_append hplain, hone]
  rfl

/-- A text is made of units that are bytes themselves and of wide characters. -/
@[elab_as_elim]
theorem wide_induction {motive : (t : Text) → t.WellFormed → Prop} (nil : motive [] .nil)
    (cons : ∀ c t (hc : c.toNat < 0x80) (ht : WellFormed t), motive t ht →
      motive (c :: t) (.of_not_surrogate (.inl (Nat.lt_trans hc (by decide))) ht))
    (wide : ∀ a t (ha : IsWide a) (ht : WellFormed t), motive t ht →
      motive (a ++ t) (ha.wellFormed.append ht))
    {t : Text} (h : t.WellFormed) : motive t h := by
  induction h using Utf8.wellFormed_induction with
  | nil => exact nil
  | append n t hn ht ih =>
    by_cases hwide : 0x80 ≤ n
    · exact wide _ t (isWide_ofCodePoint hn hwide) ht ih
    · have hone : ofCodePoint n = [n.toUInt16] := if_pos (by omega)
      simp only [hone, List.singleton_append]
      exact cons n.toUInt16 t (by rw [toNat_toUInt16 (by omega)]; omega) ht ih

theorem IsWide.not_mem {a : Text} (ha : IsWide a) {c : CodeUnit} (hc : c.toNat < 0x80) :
    c ∉ a ∧ c ∉ byteText a :=
  ⟨fun h => by have := ha.units c h; omega, fun h => by have := ha.bytes c h; omega⟩

theorem unifyLineBreaks_append {a : Text} (ha : 0x0D ∉ a) (t : Text) :
    unifyLineBreaks (a ++ t) = a ++ unifyLineBreaks t := by
  induction a with
  | nil => rfl
  | cons c a ih =>
    rw [List.mem_cons, not_or] at ha
    rw [List.cons_append, unifyLineBreaks_cons fun h => absurd h.symm ha.1, ih ha.2]
    rfl

theorem countCrlf_append {a : Text} (ha : 0x0D ∉ a) (t : Text) :
    countCrlf (a ++ t) = countCrlf t := by
  induction a with
  | nil => rfl
  | cons c a ih =>
    rw [List.mem_cons, not_or] at ha
    rw [List.cons_append, countCrlf_cons fun h => absurd h.symm ha.1, ih ha.2]

section LineBreaks

variable {t : Text} (ht : WellFormed t)
include ht

theorem countLf_byteText : countLf (byteText t) = countLf t := by
  induction ht using wide_induction with
  | nil => rfl
  | cons c t hc ht ih =>
    rw [byteText_cons hc, countLf, countLf, List.count_cons, List.count_cons]
    exact congrArg (· + _) ih
  | wide a t ha ht ih =>
    obtain ⟨hunits, hbytes⟩ := ha.not_mem (c := 0x0A) (by decide)
    rw [byteText_append ha.wellFormed, countLf, countLf, List.count_append, List.count_append,
      List.count_eq_zero.2 hunits, List.count_eq_zero.2 hbytes]
    exact congrArg (0 + ·) ih

theorem mem_lf_byteText : 0x0A ∈ byteText t ↔ 0x0A ∈ t := by
  rw [← List.count_pos_iff, ← List.count_pos_iff]
  exact iff_of_eq (congrArg (0 < ·) (countLf_byteText ht))

theorem head?_byteText : (byteText t).head? = some 0x0A ↔ t.head? = some 0x0A := by
  induction ht using wide_induction with
  | nil => rfl
  | cons c t hc ht ih => rw [byteText_cons hc, List.head?_cons, List.head?_cons]
  | wide a t ha ht ih =>
    obtain ⟨hunits, hbytes⟩ := ha.not_mem (c := 0x0A) (by decide)
    have hhead {u v : Text} (hu : u ≠ []) (hlf : 0x0A ∉ u) : (u ++ v).head? ≠ some 0x0A := by
      obtain ⟨c, u, rfl⟩ := List.exists_cons_of_ne_nil hu
      intro h
      exact hlf (List.mem_cons.2 (.inl (Option.some.inj h).symm))
    rw [byteText_append ha.wellFormed]
    exact iff_of_false (hhead (mt (byteText_eq_nil_iff ha.wellFormed).1 ha.ne_nil) hbytes)
      (hhead ha.ne_nil hunits)

theorem unifyLineBreaks_byteText : unifyLineBreaks (byteText t) = byteText (unifyLineBreaks t) := by
  induction ht using wide_induction with
  | nil => rfl
  | cons c t hc ht ih =>
    rw [byteText_cons hc]
    by_cases hbreak : c = 0x0D ∧ t.head? = some 0x0A
    · -- the carriage return goes on both sides
      have hdrop {u : Text} (hu : u.head? = some 0x0A) :
          unifyLineBreaks (0x0D :: u) = unifyLineBreaks u := by
        obtain ⟨u, rfl⟩ := List.head?_eq_some_iff.1 hu
        rw [unifyLineBreaks, unifyLineBreaks_cons (by simp)]
      rw [hbreak.1, hdrop hbreak.2, hdrop ((head?_byteText ht).2 hbreak.2), ih]
    · have hbreak' : c = 0x0D → t.head? ≠ some 0x0A := fun hc ht => hbreak ⟨hc, ht⟩
      rw [unifyLineBreaks_cons hbreak', byteText_cons hc, ← ih,
        unifyLineBreaks_cons fun hc => mt (head?_byteText ht).1 (hbreak' hc)]
  | wide a t ha ht ih =>
    obtain ⟨hunits, hbytes⟩ := ha.not_mem (c := 0x0D) (by decide)
    rw [byteText_append ha.wellFormed, unifyLineBreaks_append hbytes, unifyLineBreaks_append hunits,
      byteText_append ha.wellFormed, ih]

theorem countCrlf_byteText : countCrlf (byteText t) = countCrlf t := by
  induction ht using wide_induction with
  | nil => rfl
  | cons c t hc ht ih =>
    rw [byteText_cons hc]
    by_cases hbreak : c = 0x0D ∧ t.head? = some 0x0A
    · have hcount {u : Text} (hu : u.head? = some 0x0A) :
          countCrlf (0x0D :: u) = countCrlf u + 1 := by
        obtain ⟨u, rfl⟩ := List.head?_eq_some_iff.1 hu
        rw [countCrlf, countCrlf_cons (by simp)]
      rw [hbreak.1, hcount hbreak.2, hcount ((head?_byteText ht).2 hbreak.2), ih]
    · have hbreak' : c = 0x0D → t.head? ≠ some 0x0A := fun hc ht => hbreak ⟨hc, ht⟩
      rw [countCrlf_cons hbreak', ← ih,
        countCrlf_cons fun hc => mt (head?_byteText ht).1 (hbreak' hc)]
  | wide a t ha ht ih =>
    obtain ⟨hunits, hbytes⟩ := ha.not_mem (c := 0x0D) (by decide)
    rw [byteText_append ha.wellFormed, countCrlf_append hbytes, countCrlf_append hunits, ih]

theorem expandLineBreaks_byteText :
    expandLineBreaks (byteText t) = byteText (expandLineBreaks t) := by
  induction ht using wide_induction with
  | nil => rfl
  | cons c t hc ht ih =>
    rw [byteText_cons hc]
    by_cases hlf : c = 0x0A
    · subst hlf
      rw [expandLineBreaks_lf, expandLineBreaks_lf, byteText_cons (by decide),
        byteText_cons (by decide), ih]
    · rw [expandLineBreaks_cons hlf, expandLineBreaks_cons hlf, byteText_cons hc, ih]
  | wide a t ha ht ih =>
    obtain ⟨hunits, hbytes⟩ := ha.not_mem (c := 0x0A) (by decide)
    rw [byteText_append ha.wellFormed, expandLineBreaks_append, expandLineBreaks_append,
      expandLineBreaks_eq_self hunits, expandLineBreaks_eq_self hbytes,
      byteText_append ha.wellFormed, ih]

theorem toLineEnding_byteText (ending : LineEnding) :
    toLineEnding (byteText t) ending = byteText (toLineEnding t ending) := by
  cases ending with
  | lf => exact unifyLineBreaks_byteText ht
  | crlf =>
    rw [toLineEnding, unifyLineBreaks_byteText ht, expandLineBreaks_byteText ht.unifyLineBreaks]
    rfl

theorem detectLineEnding_byteText : detectLineEnding (byteText t) = detectLineEnding t := by
  rw [detectLineEnding, countLf_byteText ht, countCrlf_byteText ht]
  rfl

/-- The last unit is a line feed just if the last byte is. -/
theorem countLf_dropLast_byteText : countLf (byteText t).dropLast = countLf t.dropLast := by
  induction ht using wide_induction with
  | nil => rfl
  | cons c t hc ht ih =>
    rw [byteText_cons hc]
    rcases eq_or_ne t [] with rfl | hne
    · rfl
    · rw [List.dropLast_cons_of_ne_nil hne,
        List.dropLast_cons_of_ne_nil (mt (byteText_eq_nil_iff ht).1 hne), countLf, countLf,
        List.count_cons, List.count_cons]
      exact congrArg (· + _) ih
  | wide a t ha ht ih =>
    obtain ⟨hunits, hbytes⟩ := ha.not_mem (c := 0x0A) (by decide)
    rw [byteText_append ha.wellFormed]
    rcases eq_or_ne t [] with rfl | hne
    · have hnone {u : Text} (hu : 0x0A ∉ u) : countLf (u ++ []).dropLast = 0 := by
        rw [List.append_nil]
        exact List.count_eq_zero.2 fun h => hu ((List.dropLast_sublist u).subset h)
      exact (hnone hbytes).trans (hnone hunits).symm
    · rw [List.dropLast_append_of_ne_nil hne,
        List.dropLast_append_of_ne_nil (mt (byteText_eq_nil_iff ht).1 hne), countLf, countLf,
        List.count_append, List.count_append, List.count_eq_zero.2 hunits,
        List.count_eq_zero.2 hbytes]
      exact congrArg (0 + ·) ih

end LineBreaks

section Lines

variable {t : Text} {i : Nat} (ht : WellFormed t) (hi : WellFormed (t.take i))
include ht hi

theorem lineAt_byteOffset (hit : i < t.length) :
    lineAt (lineStarts (byteText t)) (byteOffset t i) = lineAt (lineStarts t) i := by
  have hlength : byteOffset t i < (byteText t).length := by
    rw [← byteOffset_length]
    exact byteOffset_lt hi (by rwa [List.take_length]) hit (Nat.le_refl _)
  rw [lineAt_eq_countLf hlength, take_byteOffset hi, countLf_byteText hi, lineAt_eq_countLf hit]

/-- The line on which what stands before an offset ends. -/
theorem lineAt_pred_byteOffset (hpos : 0 < i) (hit : i ≤ t.length) :
    lineAt (lineStarts (byteText t)) ((byteOffset t i : Int) - 1) =
      lineAt (lineStarts t) ((i : Int) - 1) := by
  have hoffset := byteOffset_lt (t := t) (i := 0) .nil hi hpos hit
  have hlength : byteOffset t i ≤ (byteText t).length := by
    rw [← byteOffset_length, byteOffset_le_iff hi (by rwa [List.take_length]) hit (Nat.le_refl _)]
    exact hit
  rw [byteOffset_zero] at hoffset
  -- what stands before the last unit is what stands before the offset, without its last unit
  have hpred {u : Text} {n : Nat} (hn : 0 < n) (hu : n ≤ u.length) :
      lineAt (lineStarts u) ((n : Int) - 1) = countLf (u.take n).dropLast + 1 := by
    rw [show (n : Int) - 1 = (n - 1 : Nat) by omega, lineAt_eq_countLf (by omega),
      List.dropLast_eq_take, List.take_take, List.length_take]
    congr 3
    omega
  rw [hpred hoffset hlength, hpred hpos hit, take_byteOffset hi, countLf_dropLast_byteText hi]

end Lines

end Remedy
