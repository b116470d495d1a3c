import Remedy.Proofs.Utf8Codec

/-!
# Well-formed UTF-8

Bytes are well-formed UTF-8 if they are a row of sequences from the table of the standard: the first
byte says how many follow, and the second must not give a code point that could be written shorter,
that is a surrogate or that is too large. These are the bytes that come back if they are decoded and
encoded again (`isUtf8_iff`), so that no ill-formed part gets through as U+FFFD.
-/

namespace Remedy

namespace Utf8

open Text

/-! ## The table -/

/-- A byte in a range. -/
def InRange (low high : Nat) (b : UInt8) : Prop := low ≤ b.toNat ∧ b.toNat ≤ high

instance (low high : Nat) (b : UInt8) : Decidable (InRange low high b) :=
  inferInstanceAs (Decidable (_ ∧ _))

/-- A byte that is not the first of a sequence. -/
abbrev IsTail (b : UInt8) : Prop := InRange 0x80 0xBF b

/-- The rows of the table of well-formed sequences. -/
inductive IsSequence : Bytes → Prop where
  | one {a : UInt8} (ha : InRange 0x00 0x7F a) : IsSequence [a]
  | two {a b : UInt8} (ha : InRange 0xC2 0xDF a) (hb : IsTail b) : IsSequence [a, b]
  | threeFirst {b c : UInt8} (hb : InRange 0xA0 0xBF b) (hc : IsTail c) : IsSequence [0xE0, b, c]
  | three {a b c : UInt8} (ha : InRange 0xE1 0xEC a ∨ InRange 0xEE 0xEF a) (hb : IsTail b)
      (hc : IsTail c) : IsSequence [a, b, c]
  | threeBelowSurrogates {b c : UInt8} (hb : InRange 0x80 0x9F b) (hc : IsTail c) :
      IsSequence [0xED, b, c]
  | fourFirst {b c d : UInt8} (hb : InRange 0x90 0xBF b) (hc : IsTail c) (hd : IsTail d) :
      IsSequence [0xF0, b, c, d]
  | four {a b c d : UInt8} (ha : InRange 0xF1 0xF3 a) (hb : IsTail b) (hc : IsTail c)
      (hd : IsTail d) : IsSequence [a, b, c, d]
  | fourLast {b c d : UInt8} (hb : InRange 0x80 0x8F b) (hc : IsTail c) (hd : IsTail d) :
      IsSequence [0xF4, b, c, d]

/-- Well-formed bytes: one sequence after another. -/
inductive IsUtf8 : Bytes → Prop where
  | nil : IsUtf8 []
  | append {s bs : Bytes} (hs : IsSequence s) (h : IsUtf8 bs) : IsUtf8 (s ++ bs)

/-- A byte and what it stands for. -/
theorem toUInt8_eq_iff {n : Nat} {b : UInt8} (hn : n < 0x100) : n.toUInt8 = b ↔ n = b.toNat := by
  rw [← UInt8.toNat_inj, toNat_toUInt8 hn]

/-- Every code point is written as the table has it. -/
theorem isSequence_encodeCodePoint {n : Nat} (h : n.isValidChar) :
    IsSequence (encodeCodePoint n) := by
  unfold Nat.isValidChar at h
  unfold encodeCodePoint
  have hrange {m low high : Nat} (hlow : low ≤ m) (hhigh : m ≤ high) (hm : high < 0x100) :
      InRange low high m.toUInt8 := by
    unfold InRange
    rw [toNat_toUInt8 (by omega)]
    exact ⟨hlow, hhigh⟩
  have htail (m : Nat) : IsTail (0x80 + m % 0x40).toUInt8 :=
    hrange (by omega) (by omega) (by omega)
  split_ifs with h1 h2 h3
  · exact .one (hrange (by omega) (by omega) (by omega))
  · exact .two (hrange (by omega) (by omega) (by omega)) (htail _)
  · by_cases hfirst : n / 0x1000 = 0
    · rw [hfirst]
      exact .threeFirst (hrange (by omega) (by omega) (by omega)) (htail _)
    by_cases hbelow : n / 0x1000 = 0xD
    · rw [hbelow]
      exact .threeBelowSurrogates (hrange (by omega) (by omega) (by omega)) (htail _)
    refine .three ?_ (htail _) (htail _)
    by_cases hlow : n / 0x1000 < 0xD
    · exact .inl (hrange (by omega) (by omega) (by omega))
    · exact .inr (hrange (by omega) (by omega) (by omega))
  · by_cases hfirst : n / 0x40000 = 0
    · rw [hfirst]
      exact .fourFirst (hrange (by omega) (by omega) (by omega)) (htail _) (htail _)
    by_cases hlast : n / 0x40000 = 4
    · rw [hlast]
      exact .fourLast (hrange (by omega) (by omega) (by omega)) (htail _) (htail _)
    exact .four (hrange (by omega) (by omega) (by omega)) (htail _) (htail _) (htail _)

section Sequences

variable {a b c d : UInt8}

theorem exists_codePoint_three (ha : InRange 0xE0 0xEF a) (hb : IsTail b) (hc : IsTail c)
    (hfirst : a.toNat = 0xE0 → 0xA0 ≤ b.toNat) (hbelow : a.toNat = 0xED → b.toNat ≤ 0x9F) :
    ∃ n, n.isValidChar ∧ encodeCodePoint n = [a, b, c] := by
  obtain ⟨_, _⟩ := ha
  obtain ⟨_, _⟩ := hb
  obtain ⟨_, _⟩ := hc
  refine ⟨(a.toNat - 0xE0) * 0x1000 + (b.toNat - 0x80) * 0x40 + (c.toNat - 0x80), ?_, ?_⟩
  · unfold Nat.isValidChar
    omega
  · rw [encodeCodePoint, if_neg (by omega), if_neg (by omega), if_pos (by omega)]
    simp only [List.cons.injEq, and_true]
    refine ⟨(toUInt8_eq_iff ?_).2 ?_, (toUInt8_eq_iff ?_).2 ?_, (toUInt8_eq_iff ?_).2 ?_⟩ <;> omega

theorem exists_codePoint_four (ha : InRange 0xF0 0xF4 a) (hb : IsTail b) (hc : IsTail c)
    (hd : IsTail d) (hfirst : a.toNat = 0xF0 → 0x90 ≤ b.toNat)
    (hlast : a.toNat = 0xF4 → b.toNat ≤ 0x8F) :
    ∃ n, n.isValidChar ∧ encodeCodePoint n = [a, b, c, d] := by
  obtain ⟨_, _⟩ := ha
  obtain ⟨_, _⟩ := hb
  obtain ⟨_, _⟩ := hc
  obtain ⟨_, _⟩ := hd
  refine ⟨(a.toNat - 0xF0) * 0x40000 + (b.toNat - 0x80) * 0x1000 + (c.toNat - 0x80) * 0x40 +
    (d.toNat - 0x80), ?_, ?_⟩
  · unfold Nat.isValidChar
    omega
  · rw [encodeCodePoint, if_neg (by omega), if_neg (by omega), if_neg (by omega)]
    simp only [List.cons.injEq, and_true]
    refine ⟨(toUInt8_eq_iff ?_).2 ?_, (toUInt8_eq_iff ?_).2 ?_, (toUInt8_eq_iff ?_).2 ?_,
      (toUInt8_eq_iff ?_).2 ?_⟩ <;> omega

end Sequences

theorem InRange.mono {low low' high high' : Nat} {b : UInt8} (h : InRange low high b)
    (hlow : low' ≤ low) (hhigh : high ≤ high') : InRange low' high' b :=
  ⟨hlow.trans h.1, h.2.trans hhigh⟩

/-- Every row of the table writes a code point. -/
theorem IsSequence.exists_codePoint {s : Bytes} (h : IsSequence s) :
    ∃ n, n.isValidChar ∧ encodeCodePoint n = s := by
  cases h with
  | @one a ha =>
    obtain ⟨_, _⟩ := ha
    refine ⟨a.toNat, .inl (by omega), ?_⟩
    rw [encodeCodePoint, if_pos (by omega), (toUInt8_eq_iff a.toNat_lt).2 rfl]
  | @two a b ha hb =>
    obtain ⟨_, _⟩ := ha
    obtain ⟨_, _⟩ := hb
    refine ⟨(a.toNat - 0xC0) * 0x40 + (b.toNat - 0x80), .inl (by omega), ?_⟩
    rw [encodeCodePoint, if_neg (by omega), if_pos (by omega)]
    simp only [List.cons.injEq, and_true]
    refine ⟨(toUInt8_eq_iff ?_).2 ?_, (toUInt8_eq_iff ?_).2 ?_⟩ <;> omega
  | threeFirst hb hc =>
    exact exists_codePoint_three (by decide) (hb.mono (by decide) (by decide)) hc (fun _ => hb.1)
      (by simp)
  | three ha hb hc =>
    rcases ha with ⟨_, _⟩ | ⟨_, _⟩ <;>
      exact exists_codePoint_three ⟨by omega, by omega⟩ hb hc (by omega) (by omega)
  | threeBelowSurrogates hb hc =>
    exact exists_codePoint_three (by decide) (hb.mono (by decide) (by decide)) hc (by simp)
      (fun _ => hb.2)
  | fourFirst hb hc hd =>
    exact exists_codePoint_four (by decide) (hb.mono (by decide) (by decide)) hc hd (fun _ => hb.1)
      (by simp)
  | four ha hb hc hd =>
    obtain ⟨_, _⟩ := ha
    exact exists_codePoint_four ⟨by omega, by omega⟩ hb hc hd (by omega) (by omega)
  | fourLast hb hc hd =>
    exact exists_codePoint_four (by decide) (hb.mono (by decide) (by decide)) hc hd (by simp)
      (fun _ => hb.2)

/-- Only the first byte of a sequence is no tail. -/
theorem IsSequence.lead_tails {s : Bytes} (h : IsSequence s) :
    ∃ a tails, s = a :: tails ∧ ¬ IsTail a ∧ ∀ b ∈ tails, IsTail b := by
  have hlead {low high : Nat} {a : UInt8} (ha : InRange low high a)
      (hrange : high < 0x80 ∨ 0xBF < low) : ¬ IsTail a := by
    rintro ⟨_, _⟩
    obtain ⟨_, _⟩ := ha
    omega
  cases h with
  | one ha => exact ⟨_, _, rfl, hlead ha (by decide), by simp⟩
  | two ha hb => exact ⟨_, _, rfl, hlead ha (by decide), by simpa using hb⟩
  | threeFirst hb hc =>
    exact ⟨_, _, rfl, by decide, by simpa using ⟨hb.mono (by decide) (by decide), hc⟩⟩
  | three ha hb hc =>
    refine ⟨_, _, rfl, ?_, by simpa using ⟨hb, hc⟩⟩
    exact ha.elim (fun ha => hlead ha (by decide)) (fun ha => hlead ha (by decide))
  | threeBelowSurrogates hb hc =>
    exact ⟨_, _, rfl, by decide, by simpa using ⟨hb.mono (by decide) (by decide), hc⟩⟩
  | fourFirst hb hc hd =>
    exact ⟨_, _, rfl, by decide, by simpa using ⟨hb.mono (by decide) (by decide), hc, hd⟩⟩
  | four ha hb hc hd => exact ⟨_, _, rfl, hlead ha (by decide), by simpa using ⟨hb, hc, hd⟩⟩
  | fourLast hb hc hd =>
    exact ⟨_, _, rfl, by decide, by simpa using ⟨hb.mono (by decide) (by decide), hc, hd⟩⟩

/-! ## Decoding and encoding again -/

theorem isUtf8_encode {t : Text} (h : WellFormed t) : IsUtf8 (encode t) := by
  induction h using wellFormed_induction with
  | nil => exact .nil
  | append n t hn ht ih =>
    rw [encode_ofCodePoint_append hn]
    exact .append (isSequence_encodeCodePoint hn) ih

theorem encode_decode {bs : Bytes} (h : IsUtf8 bs) : encode (decode bs) = bs := by
  unfold decode
  induction h with
  | nil => rfl
  | append hs _ ih =>
    obtain ⟨n, hn, rfl⟩ := hs.exists_codePoint
    rw [decodeFrom_encodeCodePoint hn, encode_ofCodePoint_append hn, ih]

/-- Bytes are well formed just if they come back. -/
theorem isUtf8_iff {bs : Bytes} : IsUtf8 bs ↔ encode (decode bs) = bs := by
  constructor
  · exact encode_decode
  · intro h
    rw [← h]
    exact isUtf8_encode (wellFormed_decode bs)

/-- Bytes are cut between characters wherever the second part does not begin with a tail. -/
theorem encode_eq_append {t : Text} (ht : WellFormed t) {u w : Bytes} (h : encode t = u ++ w)
    (hw : ∀ b ∈ w.head?, ¬ IsTail b) :
    ∃ a b, t = a ++ b ∧ WellFormed a ∧ WellFormed b ∧ encode a = u ∧ encode b = w := by
  induction ht using wellFormed_induction generalizing u with
  | nil =>
    obtain ⟨rfl, rfl⟩ := List.append_eq_nil_iff.1 h.symm
    exact ⟨[], [], rfl, .nil, .nil, rfl, rfl⟩
  | append n t hn ht ih =>
    have hchar := wellFormed_ofCodePoint hn
    rw [encode_ofCodePoint_append hn] at h
    rcases List.append_eq_append_iff.1 h with ⟨u', rfl, hrest⟩ | ⟨w', hsequence, rfl⟩
    · obtain ⟨a, b, rfl, ha, hb, rfl, rfl⟩ := ih hrest
      exact ⟨ofCodePoint n ++ a, b, by simp, hchar.append ha, hb, encode_ofCodePoint_append hn a,
        rfl⟩
    · rcases u with _ | ⟨c, u⟩
      · rw [List.nil_append] at hsequence
        rw [← hsequence]
        exact ⟨[], ofCodePoint n ++ t, rfl, .nil, hchar.append ht, rfl,
          encode_ofCodePoint_append hn t⟩
      rcases w' with _ | ⟨d, w'⟩
      · refine ⟨ofCodePoint n, t, rfl, hchar, ht, ?_, rfl⟩
        simpa [hsequence, encode] using encode_ofCodePoint_append hn []
      · -- what begins within a sequence begins with a tail
        obtain ⟨_, tails, hcons, -, htails⟩ := (isSequence_encodeCodePoint hn).lead_tails
        rw [hcons, List.cons_append, List.cons.injEq] at hsequence
        exact absurd (htails d (by simp [hsequence.2])) (hw d rfl)

instance (bs : Bytes) : Decidable (IsUtf8 bs) := decidable_of_iff _ isUtf8_iff.symm

end Utf8

end Remedy
