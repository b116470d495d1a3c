import Remedy.Proofs.Products

/-!
# Arithmetic on a line

A line has arithmetic if its code, which is the line with arrows, increments and decrements masked
(`Masked`), has a sum or a difference (`HasSum`) or a product (`HasProduct`). Sums and differences
are all seen (`hasSum_iff`). Of a word between two stars the search has already taken the first unit
when it looks for the product on its right. It can go wrong only on a word that is the name of a
type with its first unit and not without it, or the other way round, or that has no other unit
(`Misread`).
-/

namespace Remedy.Scan

/-! ## Masking -/

/-- The operators that are not arithmetic on two operands. -/
def doubleOperators : List Text := ["->", "++", "--"]

/-- A text with the double operators replaced by a blank, from left to right. -/
inductive Masked : Text → Text → Prop
  | done : Masked [] []
  | operator {pair t code : Text} (hpair : pair ∈ doubleOperators) (rest : Masked t code) :
      Masked (pair ++ t) (0x20 :: code)
  | unit {c : CodeUnit} {t code : Text} (hnone : ∀ pair ∈ doubleOperators, ¬ pair <+: c :: t)
      (rest : Masked t code) : Masked (c :: t) (c :: code)

theorem doubleOperators_eq : doubleOperators = [[0x2D, 0x3E], [0x2B, 0x2B], [0x2D, 0x2D]] := rfl

/-- A double operator comes next exactly if the next two units are one. -/
theorem exists_operator_iff {c d : CodeUnit} {t : Text} :
    (∃ pair ∈ doubleOperators, pair <+: c :: d :: t) ↔ [c, d] ∈ doubleOperators := by
  constructor
  · rintro ⟨pair, hpair, hstart⟩
    have hlength : pair.length = 2 :=
      (by decide : ∀ pair ∈ doubleOperators, pair.length = 2) pair hpair
    rw [List.prefix_iff_eq_take.1 hstart, hlength] at hpair
    exact hpair
  · exact fun hpair => ⟨[c, d], hpair, t, rfl⟩

theorem pair_mem_iff {c d : CodeUnit} : [c, d] ∈ doubleOperators ↔
    ((c == '-' && d == '>') || (c == '+' && d == '+') || (c == '-' && d == '-')) = true := by
  simp [doubleOperators_eq, or_assoc]

theorem maskOperators_operator {pair : Text} (h : pair ∈ doubleOperators) (t : Text) :
    maskOperators (pair ++ t) = 0x20 :: maskOperators t := by
  simp only [doubleOperators, List.mem_cons, List.not_mem_nil, or_false] at h
  rcases h with rfl | rfl | rfl <;> rfl

theorem maskOperators_unit {c : CodeUnit} {t : Text}
    (h : ∀ pair ∈ doubleOperators, ¬ pair <+: c :: t) :
    maskOperators (c :: t) = c :: maskOperators t := by
  cases t with
  | nil => rfl
  | cons d t => exact if_neg fun hpair => h [c, d] (pair_mem_iff.2 hpair) ⟨t, rfl⟩

theorem masked_maskOperators (t : Text) : Masked t (maskOperators t) := by
  fun_induction maskOperators t with
  | case1 => exact .done
  | case2 c => exact .unit (by simp [doubleOperators_eq]) .done
  | case3 c d t hpair ih => exact .operator (pair_mem_iff.2 hpair) ih
  | case4 c d t hpair ih =>
    refine .unit (fun pair hmem hstart => hpair ?_) ih
    exact pair_mem_iff.1 (exists_operator_iff.1 ⟨pair, hmem, hstart⟩)

theorem masked_iff {t code : Text} : Masked t code ↔ code = maskOperators t := by
  constructor
  · intro h
    induction h with
    | done => rfl
    | operator hpair _ ih => rw [maskOperators_operator hpair, ih]
    | unit hnone _ ih => rw [maskOperators_unit hnone, ih]
  · rintro rfl
    exact masked_maskOperators t

/-! ## Sums -/

/-- A word, a closing parenthesis or a closing bracket comes before, blanks aside. -/
def EndsOperand (last : Option CodeUnit) : Prop :=
  ∃ c ∈ last, c.isWord = true ∨ c = 0x29 ∨ c = 0x5D

/-- A plus or a minus between two operands. -/
def HasSum (code : Text) : Prop :=
  ∃ before op after, code = before ++ op :: after ∧ (op = 0x2B ∨ op = 0x2D) ∧
    EndsOperand (lastVisible before) ∧ StartsOperand after

/-- The last visible unit, from that of the text before. -/
theorem lastVisible_cons_or (c : CodeUnit) (t : Text) (left : Option CodeUnit) :
    (lastVisible (c :: t)).or left = (lastVisible t).or (if c.isBlank then left else some c) := by
  simp only [lastVisible, Text.trimEnd, Text.trimStart, List.getLast?_reverse, List.reverse_cons,
    List.dropWhile_append]
  cases t.reverse.dropWhile CodeUnit.isBlank with
  | nil => cases hc : c.isBlank <;> simp [hc]
  | cons d rest => simp

theorem hasSumFrom_iff {left : Option CodeUnit} {t : Text} :
    hasSum left t = true ↔ ∃ before op after, t = before ++ op :: after ∧ (op = 0x2B ∨ op = 0x2D) ∧
      EndsOperand ((lastVisible before).or left) ∧ StartsOperand after := by
  induction t generalizing left with
  | nil => simp [hasSum]
  | cons c t ih =>
    rw [exists_unit_cons_iff, hasSum, Bool.or_eq_true, ih]
    simp only [lastVisible_cons_or]
    refine or_congr_left ?_
    rw [Bool.and_eq_true, Bool.and_eq_true, startsOperand_iff, and_assoc]
    simp [lastVisible, Text.trimEnd, Text.trimStart, EndsOperand, Option.any_eq_true, or_assoc]

theorem hasSum_iff {t : Text} : hasSum none t = true ↔ HasSum t := by
  simp [hasSumFrom_iff, HasSum]

/-! ## The arithmetic of a line -/

/-- A product: behind a closing parenthesis, or behind a word of which a factor is seen. -/
def HasProduct (seen : Text → Text → Text) (code : Text) : Prop :=
  ClosesProduct code ∨ ∃ front word rest, WordAt code front word rest ∧ Multiplies rest ∧
    IsFactor (seen front word)

/-- A word between two stars is a factor as a whole and not without its first unit, or the other way
round. -/
def Misread (code : Text) : Prop :=
  ∃ front word rest, WordAt code front word rest ∧ Multiplies rest ∧ isTaken front = true ∧
    ¬ (IsFactor word.tail ↔ IsFactor word)

/-- Unless a word is misread, the products that are read are those of whole words. -/
theorem hasProduct_readPart_iff {code : Text} (h : ¬ Misread code) :
    HasProduct readPart code ↔ HasProduct (fun _ word => word) code := by
  refine or_congr_right (exists_congr fun front => exists_congr fun word => exists_congr fun rest =>
    and_congr_right fun hword => and_congr_right fun hrest => ?_)
  cases htaken : isTaken front with
  | false => rw [readPart_of_not_taken (by simp [htaken])]
  | true =>
    rw [readPart_of_taken htaken]
    by_contra hmis
    exact h ⟨front, word, rest, hword, hrest, htaken, hmis⟩

/-- The rule sees a line exactly if its code has a sum, or a product of what the search reads of a
word. These are the sums and the products of whole words, unless a word between two stars is
misread. -/
theorem hasSizeArithmetic_reads (line : Text) :
    (∀ code, Masked line code ↔ code = maskOperators line) ∧
      (hasSizeArithmetic line = true ↔
        HasSum (maskOperators line) ∨ HasProduct readPart (maskOperators line)) ∧
      (¬ Misread (maskOperators line) → (hasSizeArithmetic line = true ↔
        HasSum (maskOperators line) ∨ HasProduct (fun _ word => word) (maskOperators line))) := by
  have hreads : hasSizeArithmetic line = true ↔
      HasSum (maskOperators line) ∨ HasProduct readPart (maskOperators line) := by
    rw [hasSizeArithmetic, Bool.or_eq_true, hasSum_iff, hasProduct_iff]
    rfl
  refine ⟨fun code => masked_iff, hreads, fun h => ?_⟩
  rw [hreads, hasProduct_readPart_iff h]

example : hasSizeArithmetic "size_t count(char * const * names);" = true := by decide

/-- A product of a word of one letter is missed behind the name of a type and a star. -/
theorem hasSizeArithmetic_misses :
    HasProduct (fun _ word => word) (maskOperators "size_t n = width_t * h * 4;") ∧
      hasSizeArithmetic "size_t n = width_t * h * 4;" = false := by
  have hword : WordAt (maskOperators "size_t n = width_t * h * 4;") "size_t n = width_t * " "h"
      " * 4;" :=
    ⟨by decide, by decide, List.forall_mem_singleton.2 rfl, fun c hc => Option.some.inj hc ▸ rfl,
      fun c hc => Option.some.inj hc ▸ rfl⟩
  have hstar : Multiplies " * 4;" :=
    ⟨" ", " 4;", by decide, List.forall_mem_singleton.2 rfl, 0x34, by decide, by decide⟩
  exact ⟨.inr ⟨_, _, _, hword, hstar, by decide, by decide⟩, by decide⟩

end Remedy.Scan
