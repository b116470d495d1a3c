import Remedy.Unicode.Ranges

/-!
# Properties of strings

Sets of emoji, most of which are sequences of code points. A word of a table is a sequence of sets,
with a stop between them, and stands for every string that takes one member of each.
-/

namespace Remedy.Unicode

structure StringProperty where
  name : Text
  words : String

namespace StringProperty

/-- All strings that take one member of each set. -/
def choices : List (List Nat) → List (List Nat)
  | [] => [[]]
  | set :: sets => set.flatMap fun c => (choices sets).map (c :: ·)

/-- The codes of a set, whose ranges are separated by commas. -/
def members (set : Text) : List Nat :=
  (Text.splitAt (· == 0x2C) set).flatMap fun word =>
    let (low, high) := Ranges.parseRange word
    List.range' low (high + 1 - low)

def strings (p : StringProperty) : List (List Nat) :=
  (tableWords p.words).flatMap fun word => choices ((Text.splitAt (· == 0x2E) word).map members)

end StringProperty

def stringProperties : List StringProperty :=
  [ { name := "Basic_Emoji"
      words := "231A-231B 23E9-23EC 23F0 23F3 25FD-25FE 2614-2615 2648-2653 267F 2693 26A1
        26AA-26AB 26BD-26BE 26C4-26C5 26CE 26D4 26EA 26F2-26F3 26F5 26FA 26FD 2705 270A-270B
        2728 274C 274E 2753-2755 2757 2795-2797 27B0 27BF 2B1B-2B1C 2B50 2B55 1F004 1F0CF 1F18E
        1F191-1F19A 1F201 1F21A 1F22F 1F232-1F236 1F238-1F23A 1F250-1F251 1F300-1F320
        1F32D-1F335 1F337-1F37C 1F37E-1F393 1F3A0-1F3CA 1F3CF-1F3D3 1F3E0-1F3F0 1F3F4
        1F3F8-1F43E 1F440 1F442-1F4FC 1F4FF-1F53D 1F54B-1F54E 1F550-1F567 1F57A 1F595-1F596
        1F5A4 1F5FB-1F64F 1F680-1F6C5 1F6CC 1F6D0-1F6D2 1F6D5-1F6D8 1F6DC-1F6DF 1F6EB-1F6EC
        1F6F4-1F6FC 1F7E0-1F7EB 1F7F0 1F90C-1F93A 1F93C-1F945 1F947-1F9FF 1FA70-1FA7C
        1FA80-1FA8A 1FA8E-1FAC6 1FAC8 1FACD-1FADC 1FADF-1FAEA 1FAEF-1FAF8
        A9,AE,203C,2049,2122,2139,2194-2199.FE0F
        21A9-21AA,2328,23CF,23ED-23EF,23F1-23F2,23F8-23FA,24C2.FE0F
        25AA-25AB,25B6,25C0,25FB-25FC,2600-2604,260E,2611.FE0F
        2618,261D,2620,2622-2623,2626,262A,262E-262F,2638-263A.FE0F
        2640,2642,265F-2660,2663,2665-2666,2668,267B.FE0F
        267E,2692,2694-2697,2699,269B-269C,26A0,26A7.FE0F
        26B0-26B1,26C8,26CF,26D1,26D3,26E9,26F0-26F1.FE0F
        26F4,26F7-26F9,2702,2708-2709,270C-270D,270F,2712,2714.FE0F
        2716,271D,2721,2733-2734,2744,2747,2763-2764.FE0F
        27A1,2934-2935,2B05-2B07,3030,303D,3297,3299.FE0F
        1F170-1F171,1F17E-1F17F,1F202,1F237,1F321,1F324-1F32C,1F336.FE0F
        1F37D,1F396-1F397,1F399-1F39B,1F39E-1F39F,1F3CB-1F3CE,1F3D4-1F3DF,1F3F3,1F3F5.FE0F
        1F3F7,1F43F,1F441,1F4FD,1F549-1F54A,1F56F-1F570,1F573-1F579.FE0F
        1F587,1F58A-1F58D,1F590,1F5A5,1F5A8,1F5B1-1F5B2,1F5BC.FE0F
        1F5C2-1F5C4,1F5D1-1F5D3,1F5DC-1F5DE,1F5E1,1F5E3,1F5E8,1F5EF.FE0F
        1F5F3,1F5FA,1F6CB,1F6CD-1F6CF,1F6E0-1F6E5,1F6E9,1F6F0,1F6F3.FE0F" },
    { name := "Emoji_Keycap_Sequence"
      words := "23,2A,30-39.FE0F.20E3" },
    { name := "RGI_Emoji_Modifier_Sequence"
      words := "261D,26F9,270A-270D,1F385,1F3C2-1F3C4.1F3FB-1F3FF
        1F3C7,1F3CA-1F3CC,1F442-1F443,1F446-1F450,1F466-1F469.1F3FB-1F3FF
        1F46B-1F478,1F47C,1F481-1F483,1F485-1F487,1F48F.1F3FB-1F3FF
        1F491,1F4AA,1F574-1F575,1F57A,1F590.1F3FB-1F3FF
        1F595-1F596,1F645-1F647,1F64B-1F64F,1F6A3,1F6B4-1F6B6.1F3FB-1F3FF
        1F6C0,1F6CC,1F90C,1F90F,1F918-1F91F.1F3FB-1F3FF
        1F926,1F930-1F939,1F93C-1F93E,1F977,1F9B5-1F9B6.1F3FB-1F3FF
        1F9B8-1F9B9,1F9BB,1F9CD-1F9CF,1F9D1-1F9DD,1FAC3-1FAC5,1FAF0-1FAF8.1F3FB-1F3FF" },
    { name := "RGI_Emoji_Flag_Sequence"
      words := "1F1E6.1F1E8-1F1EC,1F1EE,1F1F1-1F1F2,1F1F4,1F1F6-1F1FA,1F1FC-1F1FD,1F1FF
        1F1E7.1F1E6-1F1E7,1F1E9-1F1EF,1F1F1-1F1F4,1F1F6-1F1F9,1F1FB-1F1FC,1F1FE-1F1FF
        1F1E8.1F1E6,1F1E8-1F1E9,1F1EB-1F1EE,1F1F0-1F1F7,1F1FA-1F1FF
        1F1E9.1F1EA,1F1EC,1F1EF-1F1F0,1F1F2,1F1F4,1F1FF
        1F1EA.1F1E6,1F1E8,1F1EA,1F1EC-1F1ED,1F1F7-1F1FA 1F1EB.1F1EE-1F1F0,1F1F2,1F1F4,1F1F7
        1F1EC.1F1E6-1F1E7,1F1E9-1F1EE,1F1F1-1F1F3,1F1F5-1F1FA,1F1FC,1F1FE
        1F1ED.1F1F0,1F1F2-1F1F3,1F1F7,1F1F9-1F1FA 1F1EE.1F1E8-1F1EA,1F1F1-1F1F4,1F1F6-1F1F9
        1F1EF.1F1EA,1F1F2,1F1F4-1F1F5
        1F1F0.1F1EA,1F1EC-1F1EE,1F1F2-1F1F3,1F1F5,1F1F7,1F1FC,1F1FE-1F1FF
        1F1F1.1F1E6-1F1E8,1F1EE,1F1F0,1F1F7-1F1FB,1F1FE 1F1F2.1F1E6,1F1E8-1F1ED,1F1F0-1F1FF
        1F1F3.1F1E6,1F1E8,1F1EA-1F1EC,1F1EE,1F1F1,1F1F4-1F1F5,1F1F7,1F1FA,1F1FF 1F1F4.1F1F2
        1F1F5.1F1E6,1F1EA-1F1ED,1F1F0-1F1F3,1F1F7-1F1F9,1F1FC,1F1FE 1F1F6.1F1E6
        1F1F7.1F1EA,1F1F4,1F1F8,1F1FA,1F1FC
        1F1F8.1F1E6-1F1EA,1F1EC-1F1F4,1F1F7-1F1F9,1F1FB,1F1FD-1F1FF
        1F1F9.1F1E6,1F1E8-1F1E9,1F1EB-1F1ED,1F1EF-1F1F4,1F1F7,1F1F9,1F1FB-1F1FC,1F1FF
        1F1FA.1F1E6,1F1EC,1F1F2-1F1F3,1F1F8,1F1FE-1F1FF
        1F1FB.1F1E6,1F1E8,1F1EA,1F1EC,1F1EE,1F1F3,1F1FA 1F1FC.1F1EB,1F1F8 1F1FD.1F1F0
        1F1FE.1F1EA,1F1F9 1F1FF.1F1E6,1F1F2,1F1FC" },
    { name := "RGI_Emoji_Tag_Sequence"
      words := "1F3F4.E0067.E0062.E0065.E006E.E0067.E007F
        1F3F4.E0067.E0062.E0073.E0063.E0074.E007F 1F3F4.E0067.E0062.E0077.E006C.E0073.E007F" },
    { name := "RGI_Emoji_ZWJ_Sequence"
      words := "1F344.200D.1F7EB 1F34B.200D.1F7E9 1F408,1F426.200D.2B1B 1F415.200D.1F9BA
        1F426.200D.1F525 1F468-1F469.200D.1F466-1F467
        1F468-1F469,1F9D1.200D.1F33E,1F373,1F37C,1F393,1F3A4,1F3A8,1F3EB
        1F468-1F469,1F9D1.200D.1F3ED,1F4BB-1F4BC,1F527,1F52C
        1F468-1F469,1F9D1.200D.1F680,1F692,1F9AF-1F9B3,1F9BC-1F9BD 1F62E.200D.1F4A8
        1F635.200D.1F4AB 1F9D1.200D.1F384,1F9D2,1FA70 26D3.FE0F.200D.1F4A5
        2764.FE0F.200D.1F525,1FA79 1F3C3-1F3C4,1F3CA,1F46E-1F471,1F473,1F477.200D.2640,2642.FE0F
        1F481-1F482,1F486-1F487,1F645-1F647,1F64B,1F64D-1F64E.200D.2640,2642.FE0F
        1F6A3,1F6B4-1F6B6,1F926,1F935,1F937-1F939.200D.2640,2642.FE0F
        1F93C-1F93E,1F9B8-1F9B9,1F9CD-1F9CF,1F9D4,1F9D6-1F9DF.200D.2640,2642.FE0F
        1F3C3,1F6B6,1F9CE.200D.27A1.FE0F 1F3F3.FE0F.200D.1F308 1F3F4.200D.2620.FE0F
        1F43B.200D.2744.FE0F 1F468-1F469,1F9D1.200D.2695-2696,2708.FE0F
        1F468-1F469,1F9D1.1F3FB-1F3FF.200D.1F33E,1F373,1F37C,1F393,1F3A4,1F3A8,1F3EB
        1F468-1F469,1F9D1.1F3FB-1F3FF.200D.1F3ED,1F4BB-1F4BC,1F527,1F52C
        1F468-1F469,1F9D1.1F3FB-1F3FF.200D.1F680,1F692,1F9AF-1F9B3,1F9BC-1F9BD
        1F636.200D.1F32B.FE0F 1F642.200D.2194-2195.FE0F 1F9D1.1F3FB-1F3FF.200D.1F384,1FA70
        26F9,1F3CB-1F3CC,1F575.FE0F,1F3FB-1F3FF.200D.2640,2642.FE0F
        1F3C3-1F3C4,1F3CA,1F46E-1F471,1F473,1F477.1F3FB-1F3FF.200D.2640,2642.FE0F
        1F481-1F482,1F486-1F487,1F645-1F647,1F64B,1F64D-1F64E.1F3FB-1F3FF.200D.2640,2642.FE0F
        1F6A3,1F6B4-1F6B6,1F926,1F935,1F937-1F939.1F3FB-1F3FF.200D.2640,2642.FE0F
        1F93C-1F93E,1F9B8-1F9B9,1F9CD-1F9CF,1F9D4,1F9D6-1F9DD.1F3FB-1F3FF.200D.2640,2642.FE0F
        1F3C3,1F6B6,1F9CE.1F3FB-1F3FF.200D.27A1.FE0F 1F3F3.FE0F.200D.26A7.FE0F
        1F441.FE0F.200D.1F5E8.FE0F 1F468.200D.1F468.200D.1F466-1F467
        1F468-1F469.200D.1F466.200D.1F466 1F468-1F469.200D.1F467,1F469.200D.1F466-1F467
        1F468-1F469,1F9D1.1F3FB-1F3FF.200D.2695-2696,2708.FE0F 1F9D1.200D.1F91D.200D.1F9D1
        1F9D1.200D.1F9D1-1F9D2.200D.1F9D2 1FAF1.1F3FB-1F3FE.200D.1FAF2.1F3FF
        1FAF1.1F3FB-1F3FD,1F3FF.200D.1FAF2.1F3FE 1FAF1.1F3FB-1F3FC,1F3FE-1F3FF.200D.1FAF2.1F3FD
        1FAF1.1F3FB,1F3FD-1F3FF.200D.1FAF2.1F3FC 1FAF1.1F3FC-1F3FF.200D.1FAF2.1F3FB
        1F468-1F469.200D.2764.FE0F.200D.1F468
        1F468-1F469,1F9D1.200D.1F9AF,1F9BC-1F9BD.200D.27A1.FE0F 1F469.200D.2764.FE0F.200D.1F469
        1F3C3,1F6B6,1F9CE.200D.2640,2642.FE0F.200D.27A1.FE0F
        1F468.200D.1F468.200D.1F466-1F467.200D.1F466 1F468.200D.1F468.200D.1F467.200D.1F467
        1F468.1F3FB-1F3FE.200D.1F430,1FAEF.200D.1F468.1F3FF
        1F468.1F3FB-1F3FD,1F3FF.200D.1F430,1FAEF.200D.1F468.1F3FE
        1F468.1F3FB-1F3FC,1F3FE-1F3FF.200D.1F430,1FAEF.200D.1F468.1F3FD
        1F468.1F3FB,1F3FD-1F3FF.200D.1F430,1FAEF.200D.1F468.1F3FC
        1F468.1F3FC-1F3FF.200D.1F430,1FAEF.200D.1F468.1F3FB
        1F468-1F469.200D.1F469.200D.1F466-1F467.200D.1F466
        1F468-1F469.200D.1F469.200D.1F467.200D.1F467
        1F468-1F469.1F3FB-1F3FE.200D.1F91D.200D.1F468.1F3FF
        1F468-1F469.1F3FB-1F3FD,1F3FF.200D.1F91D.200D.1F468.1F3FE
        1F468-1F469.1F3FB-1F3FC,1F3FE-1F3FF.200D.1F91D.200D.1F468.1F3FD
        1F468-1F469.1F3FB,1F3FD-1F3FF.200D.1F91D.200D.1F468.1F3FC
        1F468-1F469.1F3FC-1F3FF.200D.1F91D.200D.1F468.1F3FB
        1F468-1F469,1F9D1.1F3FB-1F3FF.200D.1F9AF,1F9BC-1F9BD.200D.27A1.FE0F
        1F469.1F3FB-1F3FE.200D.1F430,1F91D,1FAEF.200D.1F469.1F3FF
        1F469.1F3FB-1F3FD,1F3FF.200D.1F430,1F91D,1FAEF.200D.1F469.1F3FE
        1F469.1F3FB-1F3FC,1F3FE-1F3FF.200D.1F430,1F91D,1FAEF.200D.1F469.1F3FD
        1F469.1F3FB,1F3FD-1F3FF.200D.1F430,1F91D,1FAEF.200D.1F469.1F3FC
        1F469.1F3FC-1F3FF.200D.1F430,1F91D,1FAEF.200D.1F469.1F3FB
        1F9D1.200D.1F9D1.200D.1F9D2.200D.1F9D2
        1F9D1.1F3FB-1F3FE.200D.1F430,1FAEF.200D.1F9D1.1F3FF
        1F9D1.1F3FB-1F3FF.200D.1F91D.200D.1F9D1.1F3FB-1F3FF
        1F9D1.1F3FB-1F3FD,1F3FF.200D.1F430,1FAEF.200D.1F9D1.1F3FE
        1F9D1.1F3FB-1F3FC,1F3FE-1F3FF.200D.1F430,1FAEF.200D.1F9D1.1F3FD
        1F9D1.1F3FB,1F3FD-1F3FF.200D.1F430,1FAEF.200D.1F9D1.1F3FC
        1F9D1.1F3FC-1F3FF.200D.1F430,1FAEF.200D.1F9D1.1F3FB
        1F3C3,1F6B6,1F9CE.1F3FB-1F3FF.200D.2640,2642.FE0F.200D.27A1.FE0F
        1F468-1F469.200D.2764.FE0F.200D.1F48B.200D.1F468
        1F468-1F469.1F3FB-1F3FF.200D.2764.FE0F.200D.1F468.1F3FB-1F3FF
        1F469.200D.2764.FE0F.200D.1F48B.200D.1F469
        1F469.1F3FB-1F3FF.200D.2764.FE0F.200D.1F469.1F3FB-1F3FF
        1F9D1.1F3FB-1F3FE.200D.2764.FE0F.200D.1F9D1.1F3FF
        1F9D1.1F3FB-1F3FD,1F3FF.200D.2764.FE0F.200D.1F9D1.1F3FE
        1F9D1.1F3FB-1F3FC,1F3FE-1F3FF.200D.2764.FE0F.200D.1F9D1.1F3FD
        1F9D1.1F3FB,1F3FD-1F3FF.200D.2764.FE0F.200D.1F9D1.1F3FC
        1F9D1.1F3FC-1F3FF.200D.2764.FE0F.200D.1F9D1.1F3FB
        1F468-1F469.1F3FB-1F3FF.200D.2764.FE0F.200D.1F48B.200D.1F468.1F3FB-1F3FF
        1F469.1F3FB-1F3FF.200D.2764.FE0F.200D.1F48B.200D.1F469.1F3FB-1F3FF
        1F9D1.1F3FB-1F3FE.200D.2764.FE0F.200D.1F48B.200D.1F9D1.1F3FF
        1F9D1.1F3FB-1F3FD,1F3FF.200D.2764.FE0F.200D.1F48B.200D.1F9D1.1F3FE
        1F9D1.1F3FB-1F3FC,1F3FE-1F3FF.200D.2764.FE0F.200D.1F48B.200D.1F9D1.1F3FD
        1F9D1.1F3FB,1F3FD-1F3FF.200D.2764.FE0F.200D.1F48B.200D.1F9D1.1F3FC
        1F9D1.1F3FC-1F3FF.200D.2764.FE0F.200D.1F48B.200D.1F9D1.1F3FB" } ]

/-- The strings that a property holds of, if there is one of this name: the property of all emoji
is the union of the others. -/
def stringSet (name : Text) : Option (List (List Nat)) :=
  if name == ("RGI_Emoji" : Text) then some (stringProperties.flatMap StringProperty.strings)
  else (stringProperties.find? fun p => p.name == name).map StringProperty.strings

end Remedy.Unicode
