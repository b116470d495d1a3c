import Remedy.Text

/-!
# UTF-8

Decoding is total: each maximal ill-formed part becomes U+FFFD. Encoding writes U+FFFD for half of a
surrogate pair.
-/

namespace Remedy

abbrev Bytes := List UInt8

namespace Utf8

/-- A sequence that has begun: the bits read, the bytes still to come, and the range the next of
them must lie in. -/
structure Pending where
  bits : Nat
  needed : Nat
  low : UInt8
  high : UInt8

/-- A byte at the start of a sequence: the units it gives at once, and the sequence it begins. -/
def lead (b : UInt8) : Text × Option Pending :=
  if b < 0x80 then ([b.toUInt16], none)
  else if 0xC2 ≤ b && b ≤ 0xDF then ([], some ⟨b.toNat - 0xC0, 1, 0x80, 0xBF⟩)
  else if b = 0xE0 then ([], some ⟨0, 2, 0xA0, 0xBF⟩)
  else if b = 0xED then ([], some ⟨0xD, 2, 0x80, 0x9F⟩)
  else if 0xE1 ≤ b && b ≤ 0xEF then ([], some ⟨b.toNat - 0xE0, 2, 0x80, 0xBF⟩)
  else if b = 0xF0 then ([], some ⟨0, 3, 0x90, 0xBF⟩)
  else if b = 0xF4 then ([], some ⟨4, 3, 0x80, 0x8F⟩)
  else if 0xF1 ≤ b && b ≤ 0xF3 then ([], some ⟨b.toNat - 0xF0, 3, 0x80, 0xBF⟩)
  else ([0xFFFD], none)

def decodeFrom : Option Pending → Bytes → Text
  | none, [] => []
  | some _, [] => [0xFFFD]
  | none, b :: bs => (lead b).1 ++ decodeFrom (lead b).2 bs
  | some p, b :: bs =>
    if p.low ≤ b && b ≤ p.high then
      let bits := p.bits * 64 + (b.toNat - 0x80)
      if p.needed = 1 then Text.ofCodePoint bits ++ decodeFrom none bs
      else decodeFrom (some ⟨bits, p.needed - 1, 0x80, 0xBF⟩) bs
    else 0xFFFD :: ((lead b).1 ++ decodeFrom (lead b).2 bs)

def decode (bs : Bytes) : Text := decodeFrom none bs

def encodeCodePoint (n : Nat) : Bytes :=
  if n < 0x80 then [n.toUInt8]
  else if n < 0x800 then [(0xC0 + n / 0x40).toUInt8, (0x80 + n % 0x40).toUInt8]
  else if n < 0x10000 then
    [(0xE0 + n / 0x1000).toUInt8, (0x80 + n / 0x40 % 0x40).toUInt8, (0x80 + n % 0x40).toUInt8]
  else
    [(0xF0 + n / 0x40000).toUInt8, (0x80 + n / 0x1000 % 0x40).toUInt8,
      (0x80 + n / 0x40 % 0x40).toUInt8, (0x80 + n % 0x40).toUInt8]

def encodeUnit (c : CodeUnit) : Bytes :=
  encodeCodePoint (if c.isHighSurrogate || c.isLowSurrogate then 0xFFFD else c.toNat)

def encode : Text → Bytes
  | [] => []
  | [c] => encodeUnit c
  | c :: d :: t =>
    if c.isHighSurrogate && d.isLowSurrogate then
      encodeCodePoint (Text.pairCodePoint c d) ++ encode t
    else encodeUnit c ++ encode (d :: t)

/-- Decodes bytes that have no ill-formed part. -/
def decode? (bs : Bytes) : Option Text :=
  let t := decode bs
  if encode t == bs then some t else none

end Utf8

namespace Latin1

/-- One unit for each byte. -/
def decode (bs : Bytes) : Text := bs.map UInt8.toUInt16

/-- The low byte of each unit. -/
def encode (t : Text) : Bytes := t.map UInt16.toUInt8

end Latin1

end Remedy
