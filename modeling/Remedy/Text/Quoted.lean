import Remedy.Text

/-!
# Quoted texts

A text between double quotes, with quotes, backslashes, control characters and halves of surrogate
pairs escaped; and texts for messages, between apostrophes.
-/

namespace Remedy.Text

def hex4 (c : CodeUnit) : Text :=
  [c.toNat / 0x1000, c.toNat / 0x100 % 16, c.toNat / 16 % 16, c.toNat % 16].map CodeUnit.hexDigit

def escapeUnit (c : CodeUnit) : Text :=
  if c = 0x22 then "\\\""
  else if c = 0x5C then "\\\\"
  else if c = 0x08 then "\\b"
  else if c = 0x0C then "\\f"
  else if c = 0x0A then "\\n"
  else if c = 0x0D then "\\r"
  else if c = 0x09 then "\\t"
  else if c < 0x20 || 0xD800 ≤ c && c ≤ 0xDFFF then "\\u" ++ hex4 c
  else [c]

def escape : Text → Text
  | [] => []
  | [c] => escapeUnit c
  | c :: d :: rest =>
    if c.isHighSurrogate && d.isLowSurrogate then c :: d :: escape rest
    else escapeUnit c ++ escape (d :: rest)

def quoted (t : Text) : Text := 0x22 :: escape t ++ [0x22]

/-- A text between apostrophes, as it is. -/
def inApostrophes (t : Text) : Text := [0x27] ++ t ++ [0x27]

/-- The quote that a message puts a text in: an apostrophe, unless the text holds one and not the
next best quote. -/
def messageQuote (t : Text) : CodeUnit :=
  if !t.contains 0x27 then 0x27
  else if !t.contains 0x22 then 0x22
  else if !t.contains 0x60 then 0x60
  else 0x27

/-- A unit inside quotes in a message, with control characters and backslashes escaped. -/
def messageUnit (quote c : CodeUnit) : Text :=
  if c = 0x5C || c = quote then [0x5C, c]
  else if c = 0x08 then "\\b"
  else if c = 0x09 then "\\t"
  else if c = 0x0A then "\\n"
  else if c = 0x0C then "\\f"
  else if c = 0x0D then "\\r"
  else if c < 0x20 || 0x7F ≤ c && c ≤ 0x9F then
    let digit (n : Nat) : CodeUnit := if n < 10 then (0x30 + n).toUInt16 else (0x37 + n).toUInt16
    [0x5C, 0x78, digit (c.toNat / 16), digit (c.toNat % 16)]
  else [c]

/-- Messages show this many units of a text. -/
def maxShown : Nat := 128

/-- A text in quotes, as messages show it; a long one is cut off. -/
def shown (t : Text) : Text :=
  let quote := messageQuote t
  let whole := quote :: t.flatMap (messageUnit quote) ++ [quote]
  if maxShown < whole.length then whole.take maxShown ++ "..." else whole

end Remedy.Text
