import Mathlib.Tactic.Common
import Mathlib.Tactic.IntervalCases
import Mathlib.Tactic.Ring
import Remedy.Text.Utf8

/-!
# Well-formed texts and UTF-8

In a well-formed text every half of a surrogate pair stands with the other half. Decoding gives only
such texts, whatever the bytes are (`Utf8.wellFormed_decode`), and encoding one and decoding the
bytes gives it back (`Utf8.decode_encode`).
-/

namespace Remedy

namespace Text

/-- Every half of a surrogate pair stands with the other half. -/
inductive WellFormed : Text → Prop where
  | nil : WellFormed []
  | unit {c : CodeUnit} {t : Text} (hhigh : c.isHighSurrogate = false)
      (hlow : c.isLowSurrogate = false) (h : WellFormed t) : WellFormed (c :: t)
  | pair {c d : CodeUnit} {t : Text} (hc : c.isHighSurrogate = true) (hd : d.isLowSurrogate = true)
      (h : WellFormed t) : WellFormed (c :: d :: t)

theorem isHighSurrogate_iff {c : CodeUnit} :
    c.isHighSurrogate = true ↔ 0xD800 ≤ c.toNat ∧ c.toNat ≤ 0xDBFF := by
  simp [CodeUnit.isHighSurrogate, UInt16.le_iff_toNat_le]

theorem isLowSurrogate_iff {c : CodeUnit} :
    c.isLowSurrogate = true ↔ 0xDC00 ≤ c.toNat ∧ c.toNat ≤ 0xDFFF := by
  simp [CodeUnit.isLowSurrogate, UInt16.le_iff_toNat_le]

theorem toNat_toUInt16 {n : Nat} (h : n < 0x10000) : n.toUInt16.toNat = n :=
  UInt16.toNat_ofNat_of_lt h

theorem WellFormed.append {a b : Text} (ha : WellFormed a) (hb : WellFormed b) :
    WellFormed (a ++ b) := by
  induction ha with
  | nil => exact hb
  | unit hhigh hlow _ ih => exact .unit hhigh hlow ih
  | pair hc hd _ ih => exact .pair hc hd ih

/-- A unit that is no half of a pair. -/
theorem WellFormed.of_not_surrogate {c : CodeUnit} {t : Text}
    (hc : c.toNat < 0xD800 ∨ 0xDFFF < c.toNat) (h : WellFormed t) : WellFormed (c :: t) := by
  refine .unit ?_ ?_ h
  · rw [Bool.eq_false_iff, Ne, isHighSurrogate_iff]
    omega
  · rw [Bool.eq_false_iff, Ne, isLowSurrogate_iff]
    omega

theorem wellFormed_ofCodePoint {n : Nat} (h : n.isValidChar) : WellFormed (ofCodePoint n) := by
  unfold Nat.isValidChar at h
  unfold ofCodePoint
  split_ifs with hn
  · refine .of_not_surrogate ?_ .nil
    rw [toNat_toUInt16 hn]
    omega
  · refine .pair ?_ ?_ .nil
    · rw [isHighSurrogate_iff, toNat_toUInt16 (by omega)]
      omega
    · rw [isLowSurrogate_iff, toNat_toUInt16 (by omega)]
      omega

theorem wellFormed_ofString (s : String) : WellFormed (ofString s) := by
  unfold ofString
  induction s.toList with
  | nil => exact .nil
  | cons c cs ih =>
    rw [List.flatMap_cons]
    exact (wellFormed_ofCodePoint c.valid).append ih

end Text

namespace Utf8

open Text

theorem toNat_toUInt8 {n : Nat} (h : n < 0x100) : n.toUInt8.toNat = n :=
  UInt8.toNat_ofNat_of_lt h

/-! ## Decoding what was encoded -/

section Continue

variable {bits m : Nat} {low high : UInt8}

/-- A byte in the range that is asked for adds its six bits. -/
theorem decodeFrom_continue {needed : Nat} (hm : m < 0x40) (hlow : low.toNat ≤ 0x80 + m)
    (hhigh : 0x80 + m ≤ high.toNat) (bs : Bytes) :
    decodeFrom (some ⟨bits, needed, low, high⟩) ((0x80 + m).toUInt8 :: bs) =
      if needed = 1 then ofCodePoint (bits * 64 + m) ++ decodeFrom none bs
      else decodeFrom (some ⟨bits * 64 + m, needed - 1, 0x80, 0xBF⟩) bs := by
  have hb : (0x80 + m).toUInt8.toNat = 0x80 + m := toNat_toUInt8 (by omega)
  have hrange : (low ≤ (0x80 + m).toUInt8 && (0x80 + m).toUInt8 ≤ high) = true := by
    simp only [Bool.and_eq_true, decide_eq_true_eq, UInt8.le_iff_toNat_le, hb]
    exact ⟨hlow, hhigh⟩
  rw [decodeFrom, if_pos hrange, hb, Nat.add_sub_cancel_left]

theorem decodeFrom_next {needed : Nat} (hm : m < 0x40) (hlow : low.toNat ≤ 0x80 + m)
    (hhigh : 0x80 + m ≤ high.toNat) (bs : Bytes) :
    decodeFrom (some ⟨bits, needed + 2, low, high⟩) ((0x80 + m).toUInt8 :: bs) =
      decodeFrom (some ⟨bits * 64 + m, needed + 1, 0x80, 0xBF⟩) bs := by
  rw [decodeFrom_continue hm hlow hhigh, if_neg (by omega)]
  rfl

theorem decodeFrom_last (hm : m < 0x40) (hlow : low.toNat ≤ 0x80 + m)
    (hhigh : 0x80 + m ≤ high.toNat) (bs : Bytes) :
    decodeFrom (some ⟨bits, 1, low, high⟩) ((0x80 + m).toUInt8 :: bs) =
      ofCodePoint (bits * 64 + m) ++ decodeFrom none bs := by
  rw [decodeFrom_continue hm hlow hhigh, if_pos rfl]

end Continue

theorem lead_one {n : Nat} (h : n < 0x80) : lead n.toUInt8 = ([n.toUInt16], none) := by
  interval_cases n <;> rfl

theorem lead_two {n : Nat} (h : 2 ≤ n) (h' : n < 0x20) :
    lead (0xC0 + n).toUInt8 = ([], some ⟨n, 1, 0x80, 0xBF⟩) := by
  interval_cases n <;> rfl

/-- The second byte of three must not give a code point that is too small, nor a surrogate. -/
theorem lead_three {n : Nat} (h : n < 0x10) :
    lead (0xE0 + n).toUInt8 = ([], some ⟨n, 2, if n = 0 then 0xA0 else 0x80,
      if n = 0xD then 0x9F else 0xBF⟩) := by
  interval_cases n <;> rfl

/-- The second byte of four must not give a code point that is too small or too large. -/
theorem lead_four {n : Nat} (h : n < 5) :
    lead (0xF0 + n).toUInt8 = ([], some ⟨n, 3, if n = 0 then 0x90 else 0x80,
      if n = 4 then 0x8F else 0xBF⟩) := by
  interval_cases n <;> rfl

theorem decodeFrom_none_cons {b : UInt8} {p : Pending} (h : lead b = ([], some p)) (bs : Bytes) :
    decodeFrom none (b :: bs) = decodeFrom (some p) bs := by
  rw [decodeFrom, h, List.nil_append]

theorem decodeFrom_encodeCodePoint {n : Nat} (h : n.isValidChar) (bs : Bytes) :
    decodeFrom none (encodeCodePoint n ++ bs) = ofCodePoint n ++ decodeFrom none bs := by
  unfold Nat.isValidChar at h
  -- a byte that is not the second one lies in the full range
  have hlow (m : Nat) : (0x80 : UInt8).toNat ≤ 0x80 + m := Nat.le_add_right 0x80 m
  have hhigh {m : Nat} (hm : m < 0x40) : 0x80 + m ≤ (0xBF : UInt8).toNat := by
    simp only [UInt8.reduceToNat]
    omega
  have hmod (k : Nat) : k % 0x40 < 0x40 := Nat.mod_lt _ (by decide)
  unfold encodeCodePoint
  split_ifs with h1 h2 h3 <;> simp only [List.cons_append, List.nil_append]
  · rw [decodeFrom, lead_one h1, ofCodePoint, if_pos (by omega)]
  · rw [decodeFrom_none_cons (lead_two (by omega) (by omega)),
      decodeFrom_last (hmod _) (hlow _) (hhigh (hmod _)), Nat.div_add_mod']
  · have hsecond : (if n / 0x1000 = 0 then 0xA0 else 0x80 : UInt8).toNat ≤
          0x80 + n / 0x40 % 0x40 ∧
        0x80 + n / 0x40 % 0x40 ≤ (if n / 0x1000 = 0xD then 0x9F else 0xBF : UInt8).toNat := by
      split_ifs <;> simp only [UInt8.reduceToNat] <;> omega
    rw [decodeFrom_none_cons (lead_three (by omega)),
      decodeFrom_next (hmod _) hsecond.1 hsecond.2,
      decodeFrom_last (hmod _) (hlow _) (hhigh (hmod _))]
    congr 2
    omega
  · have hsecond : (if n / 0x40000 = 0 then 0x90 else 0x80 : UInt8).toNat ≤
          0x80 + n / 0x1000 % 0x40 ∧
        0x80 + n / 0x1000 % 0x40 ≤ (if n / 0x40000 = 4 then 0x8F else 0xBF : UInt8).toNat := by
      split_ifs <;> simp only [UInt8.reduceToNat] <;> omega
    rw [decodeFrom_none_cons (lead_four (by omega)),
      decodeFrom_next (hmod _) hsecond.1 hsecond.2,
      decodeFrom_next (hmod _) (hlow _) (hhigh (hmod _)),
      decodeFrom_last (hmod _) (hlow _) (hhigh (hmod _))]
    congr 2
    omega

theorem encode_cons {c : CodeUnit} (hhigh : c.isHighSurrogate = false)
    (hlow : c.isLowSurrogate = false) (t : Text) :
    encode (c :: t) = encodeCodePoint c.toNat ++ encode t := by
  have hunit : encodeUnit c = encodeCodePoint c.toNat := by simp [encodeUnit, hhigh, hlow]
  cases t with
  | nil => simp [encode, hunit]
  | cons d t => simp [encode, hunit, hhigh]

theorem ofCodePoint_toNat (c : CodeUnit) : ofCodePoint c.toNat = [c] := by
  rw [ofCodePoint, if_pos c.toNat_lt]
  simp

/-- The code point of a pair and back. -/
theorem ofCodePoint_pair {c d : CodeUnit} (hc : c.isHighSurrogate = true)
    (hd : d.isLowSurrogate = true) :
    (pairCodePoint c d).isValidChar ∧ ofCodePoint (pairCodePoint c d) = [c, d] := by
  rw [isHighSurrogate_iff] at hc
  rw [isLowSurrogate_iff] at hd
  unfold pairCodePoint
  refine ⟨.inr (by omega), ?_⟩
  have hhigh : 0xD7C0 + (0x10000 + (c.toNat - 0xD800) * 0x400 + (d.toNat - 0xDC00)) / 0x400 =
      c.toNat := by omega
  have hlow : 0xDC00 + (0x10000 + (c.toNat - 0xD800) * 0x400 + (d.toNat - 0xDC00)) % 0x400 =
      d.toNat := by omega
  rw [ofCodePoint, if_neg (by omega), hhigh, hlow]
  simp

/-! ## One code point after another -/

/-- A text can be taken apart into code points. -/
@[elab_as_elim]
theorem wellFormed_induction {motive : (t : Text) → t.WellFormed → Prop} (nil : motive [] .nil)
    (append : ∀ n t (hn : n.isValidChar) (ht : WellFormed t), motive t ht →
      motive (ofCodePoint n ++ t) ((wellFormed_ofCodePoint hn).append ht))
    {t : Text} (h : t.WellFormed) : motive t h := by
  induction h with
  | nil => exact nil
  | @unit c t hhigh hlow h ih =>
    have hvalid : c.toNat.isValidChar := by
      rw [Bool.eq_false_iff, Ne, isHighSurrogate_iff] at hhigh
      rw [Bool.eq_false_iff, Ne, isLowSurrogate_iff] at hlow
      have := c.toNat_lt
      unfold Nat.isValidChar
      omega
    simpa only [ofCodePoint_toNat, List.singleton_append] using append c.toNat t hvalid h ih
  | @pair c d t hc hd h ih =>
    obtain ⟨hvalid, hpair⟩ := ofCodePoint_pair hc hd
    simpa only [hpair, List.cons_append, List.nil_append] using append _ t hvalid h ih

theorem encode_pair {c d : CodeUnit} (hc : c.isHighSurrogate = true) (hd : d.isLowSurrogate = true)
    (t : Text) : encode (c :: d :: t) = encodeCodePoint (pairCodePoint c d) ++ encode t := by
  rw [encode, if_pos (by rw [hc, hd]; rfl)]

theorem encode_ofCodePoint_append {n : Nat} (h : n.isValidChar) (t : Text) :
    encode (ofCodePoint n ++ t) = encodeCodePoint n ++ encode t := by
  have hwell := wellFormed_ofCodePoint h
  unfold Nat.isValidChar at h
  unfold ofCodePoint at hwell ⊢
  split_ifs at hwell ⊢ with hn
  · cases hwell with
    | unit hhigh hlow _ =>
      rw [List.singleton_append, encode_cons hhigh hlow, toNat_toUInt16 hn]
  · have hhigh := toNat_toUInt16 (show 0xD7C0 + n / 0x400 < 0x10000 by omega)
    have hlow := toNat_toUInt16 (show 0xDC00 + n % 0x400 < 0x10000 by omega)
    have hpair : pairCodePoint (0xD7C0 + n / 0x400).toUInt16 (0xDC00 + n % 0x400).toUInt16 = n := by
      unfold pairCodePoint
      omega
    rw [List.cons_append, List.singleton_append,
      encode_pair (isHighSurrogate_iff.2 (by omega)) (isLowSurrogate_iff.2 (by omega)), hpair]

theorem encode_append {a : Text} (ha : WellFormed a) (b : Text) :
    encode (a ++ b) = encode a ++ encode b := by
  induction ha using wellFormed_induction with
  | nil => rfl
  | append n t hn ht ih =>
    rw [List.append_assoc, encode_ofCodePoint_append hn, encode_ofCodePoint_append hn, ih,
      List.append_assoc]

/-- A well-formed text is read back from its bytes, whatever follows them. -/
theorem decode_encode_append {a : Text} (ha : WellFormed a) (bs : Bytes) :
    decode (encode a ++ bs) = a ++ decode bs := by
  unfold decode
  induction ha using wellFormed_induction with
  | nil => rfl
  | append n t hn ht ih =>
    rw [encode_ofCodePoint_append hn, List.append_assoc, decodeFrom_encodeCodePoint hn, ih,
      List.append_assoc]

theorem decode_encode {t : Text} (h : WellFormed t) : decode (encode t) = t := by
  simpa [decode, decodeFrom] using decode_encode_append h []

/-! ## Whatever the bytes are -/

/-- However a sequence goes on in the ranges it asks for, it gives a code point that is no
surrogate. -/
structure Pending.Sound (p : Pending) : Prop where
  needed : 1 ≤ p.needed
  low : 0x80 ≤ p.low.toNat
  valid : ∀ m, p.low.toNat ≤ 0x80 + m → 0x80 + m ≤ p.high.toNat →
    ∀ r < 64 ^ (p.needed - 1), ((p.bits * 64 + m) * 64 ^ (p.needed - 1) + r).isValidChar

theorem wellFormed_lead (b : UInt8) : WellFormed (lead b).1 := by
  have hb : b.toUInt16.toNat < 0xD800 := by
    have := b.toNat_lt
    simp only [UInt8.toNat_toUInt16]
    omega
  unfold lead
  split_ifs
  · exact .of_not_surrogate (.inl hb) .nil
  all_goals first | exact .nil | exact .of_not_surrogate (.inr (by decide)) .nil

theorem sound_lead {b : UInt8} {p : Pending} (h : (lead b).2 = some p) : p.Sound := by
  unfold lead at h
  simp only [Bool.and_eq_true, decide_eq_true_eq, UInt8.le_iff_toNat_le, UInt8.lt_iff_toNat_lt,
    ← UInt8.toNat_inj, UInt8.reduceToNat] at h
  split_ifs at h <;> obtain rfl := Option.some.inj h
  all_goals
    refine ⟨by simp, by simp, fun m hlow hhigh r hr => ?_⟩
    simp only [UInt8.reduceToNat] at hlow hhigh hr ⊢
    unfold Nat.isValidChar
    omega

namespace Pending.Sound

variable {p : Pending} {b : UInt8} (h : p.Sound) (hlow : p.low ≤ b) (hhigh : b ≤ p.high)
include h hlow hhigh

/-- The bits of a byte in the range. -/
theorem valid_byte {r : Nat} (hr : r < 64 ^ (p.needed - 1)) :
    ((p.bits * 64 + (b.toNat - 0x80)) * 64 ^ (p.needed - 1) + r).isValidChar := by
  have hb : 0x80 + (b.toNat - 0x80) = b.toNat := by
    have := h.low
    have := UInt8.le_iff_toNat_le.1 hlow
    omega
  refine h.valid _ ?_ ?_ r hr
  · rw [hb]
    exact UInt8.le_iff_toNat_le.1 hlow
  · rw [hb]
    exact UInt8.le_iff_toNat_le.1 hhigh

theorem last (hneeded : p.needed = 1) : (p.bits * 64 + (b.toNat - 0x80)).isValidChar := by
  simpa [hneeded] using h.valid_byte hlow hhigh (r := 0) (by simp [hneeded])

theorem next (hneeded : p.needed ≠ 1) :
    Sound ⟨p.bits * 64 + (b.toNat - 0x80), p.needed - 1, 0x80, 0xBF⟩ := by
  obtain ⟨k, hk⟩ : ∃ k, p.needed = k + 2 := ⟨p.needed - 2, by have := h.needed; omega⟩
  refine ⟨by simp [hk], by simp, fun m _ hm r hr => ?_⟩
  replace hm : m + 1 ≤ 64 := by simp at hm; omega
  replace hr : r < 64 ^ k := by simpa [hk] using hr
  -- the bits of the next byte and what follows are what may follow this one
  have hrest : m * 64 ^ k + r < 64 ^ (p.needed - 1) := by
    calc m * 64 ^ k + r < (m + 1) * 64 ^ k := by rw [Nat.succ_mul]; omega
      _ ≤ 64 * 64 ^ k := Nat.mul_le_mul_right _ hm
      _ = 64 ^ (p.needed - 1) := by rw [hk]; exact (Nat.pow_succ').symm
  have hvalid := h.valid_byte hlow hhigh hrest
  simp only [hk, Nat.add_one_sub_one, Nat.pow_succ] at hvalid ⊢
  convert hvalid using 1
  ring

end Pending.Sound

theorem wellFormed_decodeFrom {pending : Option Pending} (h : ∀ p ∈ pending, p.Sound)
    (bs : Bytes) : WellFormed (decodeFrom pending bs) := by
  fun_induction decodeFrom pending bs with
  | case1 => exact .nil
  | case2 => exact .of_not_surrogate (.inr (by decide)) .nil
  | case3 b bs ih => exact (wellFormed_lead b).append (ih fun p hp => sound_lead hp)
  | case4 p b bs hrange bits hneeded ih =>
    simp only [Bool.and_eq_true, decide_eq_true_eq] at hrange
    have hvalid := (h p rfl).last hrange.1 hrange.2 hneeded
    exact (wellFormed_ofCodePoint hvalid).append (ih (by simp))
  | case5 p b bs hrange bits hneeded ih =>
    simp only [Bool.and_eq_true, decide_eq_true_eq] at hrange
    refine ih fun q hq => ?_
    obtain rfl := Option.some.inj hq
    exact (h p rfl).next hrange.1 hrange.2 hneeded
  | case6 p b bs hrange ih =>
    have hrest := (wellFormed_lead b).append (ih fun p hp => sound_lead hp)
    exact .of_not_surrogate (.inr (by decide)) hrest

/-- Decoding gives well-formed texts only. -/
theorem wellFormed_decode (bs : Bytes) : WellFormed (decode bs) :=
  wellFormed_decodeFrom (by simp) bs

end Utf8

end Remedy
