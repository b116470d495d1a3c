import Mathlib.Data.List.DropRight
import Remedy.Proofs.Words

/-!
# Products

The search for products goes from left to right and takes the first unit of the operand along with
each product that it looks at. So it may come to a word whose first unit is taken (`isTaken`), and
looks at what is left of that word (`readPart`). `StandsAt` says where the search can stand, with
one lemma for each step (`StandsAt.cons`, `StandsAt.skip`, `StandsAt.star`), and the `FindsProducts`
lemmas say that each step finds what there is to be read. Together they describe the whole search
(`hasProduct_iff`).
-/

namespace Remedy.Scan

/-- The next unit that is not blank. -/
def nextVisible (after : Text) : Option CodeUnit := (Text.trimStart after).head?

/-- The last unit that is not blank. -/
def lastVisible (before : Text) : Option CodeUnit := (Text.trimEnd before).getLast?

/-- A word or an opening parenthesis comes next, blanks aside. -/
def StartsOperand (after : Text) : Prop := ∃ c ∈ nextVisible after, c.isWord = true ∨ c = 0x28

/-- A star and an operand come next, blanks aside. -/
def Multiplies (rest : Text) : Prop :=
  ∃ gap after, rest = gap ++ 0x2A :: after ∧ (∀ c ∈ gap, c.isBlank = true) ∧ StartsOperand after

/-- A star with blanks around it. -/
def IsStar (between : Text) : Prop :=
  ∃ gap space, between = gap ++ 0x2A :: space ∧ (∀ c ∈ gap, c.isBlank = true) ∧
    ∀ c ∈ space, c.isBlank = true

theorem IsStar.units {between : Text} (h : IsStar between) {c : CodeUnit} (hc : c ∈ between) :
    c.isWord = false ∧ c ≠ 0x28 ∧ c ≠ 0x29 := by
  obtain ⟨gap, space, rfl, hgap, hspace⟩ := h
  have hunit : c.isBlank = true ∨ c = 0x2A := by
    rcases List.mem_append.1 hc with hc | hc
    · exact .inl (hgap c hc)
    · exact (List.mem_cons.1 hc).elim .inr fun hc => .inl (hspace c hc)
  rcases hunit with hblank | rfl
  · refine ⟨?_, by rintro rfl; exact absurd hblank (by decide),
      by rintro rfl; exact absurd hblank (by decide)⟩
    by_contra hword
    simp [CodeUnit.not_isBlank_of_isWord (Bool.not_eq_false _ ▸ hword)] at hblank
  · decide

/-- The parts of a text that goes on with a star and an operand. -/
structure StarParts (rest gap space operand : Text) : Prop where
  text_eq : rest = gap ++ 0x2A :: (space ++ operand)
  gap : ∀ c ∈ gap, c.isBlank = true
  space : ∀ c ∈ space, c.isBlank = true
  operand : ∃ c ∈ operand.head?, c.isWord = true ∨ c = 0x28

theorem startsOperand_iff {after : Text} : startsOperand after = true ↔ StartsOperand after := by
  simp [startsOperand, StartsOperand, nextVisible, Text.trimStart, Option.any_eq_true]

theorem isBlank_of_operand {c : CodeUnit} (h : c.isWord = true ∨ c = 0x28) : c.isBlank = false := by
  rcases h with h | rfl
  · exact CodeUnit.not_isBlank_of_isWord h
  · decide

theorem StarParts.dropWhile_space {rest gap space operand : Text}
    (h : StarParts rest gap space operand) :
    (space ++ operand).dropWhile CodeUnit.isBlank = operand := by
  obtain ⟨c, hc, hoperand⟩ := h.operand
  have hrest : ∀ d ∈ operand.head?, d.isBlank = false := by
    intro d hd
    obtain rfl := Option.mem_unique hc hd
    exact isBlank_of_operand hoperand
  exact ((Text.run_iff (p := CodeUnit.isBlank)).2 ⟨rfl, h.space, hrest⟩).2

theorem StarParts.multiplies {rest gap space operand : Text}
    (h : StarParts rest gap space operand) : Multiplies rest := by
  refine ⟨gap, space ++ operand, h.text_eq, h.gap, ?_⟩
  rw [StartsOperand, nextVisible, Text.trimStart, h.dropWhile_space]
  exact h.operand

theorem Multiplies.exists_starParts {rest : Text} (h : Multiplies rest) :
    ∃ gap space operand, StarParts rest gap space operand := by
  obtain ⟨gap, after, rfl, hgap, hoperand⟩ := h
  exact ⟨gap, after.takeWhile CodeUnit.isBlank, after.dropWhile CodeUnit.isBlank,
    by rw [List.takeWhile_append_dropWhile], hgap, fun c hc => List.mem_takeWhile_imp hc, hoperand⟩

/-! ## The search -/

theorem productTail?_of_starParts {rest gap space operand : Text}
    (h : StarParts rest gap space operand) :
    productTail? rest = some (gap.length + space.length + 2) := by
  have hstar : rest.dropWhile CodeUnit.isBlank = 0x2A :: (space ++ operand) :=
    ((Text.run_iff (p := CodeUnit.isBlank)).2 ⟨h.text_eq, h.gap, by simp; decide⟩).2
  have hoperand : startsOperand operand = true := by
    rw [startsOperand_iff, StartsOperand, nextVisible, Text.trimStart, ← h.dropWhile_space,
      List.dropWhile_idempotent, h.dropWhile_space]
    exact h.operand
  have hlength : rest.length = gap.length + (space.length + operand.length + 1) := by
    simp [h.text_eq]
  simp only [productTail?, hstar, h.dropWhile_space, if_pos hoperand, Option.some.injEq]
  omega

theorem productTail?_of_not {rest : Text} (h : ¬ Multiplies rest) : productTail? rest = none := by
  unfold productTail?
  split
  next after hafter =>
    refine if_neg fun hoperand => h ⟨rest.takeWhile CodeUnit.isBlank, after, ?_,
      fun c hc => List.mem_takeWhile_imp hc, ?_⟩
    · rw [← hafter, List.takeWhile_append_dropWhile]
    · rw [startsOperand_iff, StartsOperand, nextVisible, Text.trimStart,
        List.dropWhile_idempotent] at hoperand
      exact hoperand
  next => rfl

theorem isSome_productTail?_iff {rest : Text} :
    (productTail? rest).isSome = true ↔ Multiplies rest := by
  by_cases h : Multiplies rest
  · obtain ⟨gap, space, operand, hparts⟩ := h.exists_starParts
    simp [productTail?_of_starParts hparts, h]
  · simp [productTail?_of_not h, h]

theorem hasProduct_eq_drop (n : Nat) (t : Text) : hasProduct n t = hasProduct 0 (t.drop n) := by
  induction t generalizing n with
  | nil => simp [hasProduct]
  | cons c t ih =>
    cases n with
    | zero => rfl
    | succ n => exact ih n

theorem hasProduct_cons {c : CodeUnit} (hc : c.isWord = false) (t : Text) :
    hasProduct 0 (c :: t) = true ↔ c = 0x29 ∧ Multiplies t ∨ hasProduct 0 t = true := by
  rw [hasProduct, if_neg (by simp [hc])]
  split_ifs with hclose
  · rw [Bool.or_eq_true, isSome_productTail?_iff]
    simp [show c = 0x29 by simpa using hclose]
  · simp [show c ≠ 0x29 by simpa using hclose]

section Word

variable {word rest : Text}

/-- Which word is looked at, and what the search goes on with. -/
theorem hasProduct_run (hne : word ≠ []) (hword : ∀ c ∈ word, c.isWord = true)
    (hrest : ∀ c ∈ rest.head?, c.isWord = false) :
    hasProduct 0 (word ++ rest) =
      match productTail? rest with
      | some n => !isTypeWord word || hasProduct 0 (rest.drop n)
      | none => hasProduct 0 rest := by
  obtain ⟨c, word, rfl⟩ := List.exists_cons_of_ne_nil hne
  have hrun := (Text.run_iff (p := CodeUnit.isWord)).2 ⟨rfl, hword, hrest⟩
  rw [List.cons_append] at hrun ⊢
  have hdrop (n : Nat) : hasProduct ((c :: word).length - 1 + n) (word ++ rest) =
      hasProduct 0 (rest.drop n) := by
    rw [hasProduct_eq_drop, List.length_cons, Nat.add_sub_cancel, List.drop_append,
      List.drop_eq_nil_of_le (Nat.le_add_right _ _), Nat.add_sub_cancel_left, List.nil_append]
  simp only [hasProduct, if_pos (hword c List.mem_cons_self), hrun.1, hrun.2]
  cases productTail? rest with
  | none => exact hdrop 0
  | some n => exact congrArg (!isTypeWord (c :: word) || ·) (hdrop n)

theorem hasProduct_word_star (hne : word ≠ []) (hword : ∀ c ∈ word, c.isWord = true)
    {gap space operand : Text} (h : StarParts rest gap space operand) :
    hasProduct 0 (word ++ rest) = true ↔
      isTypeWord word = false ∨ hasProduct 0 operand.tail = true := by
  have hrest : ∀ c ∈ rest.head?, c.isWord = false := by
    rw [h.text_eq]
    exact not_isWord_of_blanks h.gap (by decide) _
  have hdrop : rest.drop (gap.length + space.length + 2) = operand.tail := by
    rw [h.text_eq, ← List.drop_one, Nat.add_right_comm _ _ 2, ← List.drop_drop, ← List.drop_drop]
    simp
  rw [hasProduct_run hne hword hrest, productTail?_of_starParts h]
  simp [hdrop]

theorem hasProduct_word (hword : ∀ c ∈ word, c.isWord = true)
    (hrest : ∀ c ∈ rest.head?, c.isWord = false) (h : ¬ Multiplies rest) :
    hasProduct 0 (word ++ rest) = hasProduct 0 rest := by
  rcases eq_or_ne word [] with rfl | hne
  · rfl
  · rw [hasProduct_run hne hword hrest, productTail?_of_not h]

end Word

/-! ## Units that are taken -/

/-- Tells of a word, from the text before it read backwards, that its first unit has been taken as
the operand of the product with the word before it. That product is seen only if the word before
has a unit left itself. -/
def takenAfter (reversed : Text) : Bool :=
  match _hstar : reversed.dropWhile CodeUnit.isBlank with
  | 0x2A :: spaced =>
    let rest := spaced.dropWhile CodeUnit.isBlank
    let word := rest.takeWhile CodeUnit.isWord
    !word.isEmpty && (2 ≤ word.length || !takenAfter (rest.dropWhile CodeUnit.isWord))
  | _ => false
termination_by reversed.length
decreasing_by
  have hdrop := (List.dropWhile_suffix CodeUnit.isBlank (l := reversed)).length_le
  have hblank := (List.dropWhile_suffix CodeUnit.isBlank (l := spaced)).length_le
  have hword := (List.dropWhile_suffix CodeUnit.isWord
    (l := spaced.dropWhile CodeUnit.isBlank)).length_le
  rw [_hstar, List.length_cons] at hdrop
  omega

/-- The first unit of the word after a text has been taken. -/
def isTaken (front : Text) : Bool := takenAfter front.reverse

/-- A text that ends in a word, blanks, a star and blanks. -/
structure EndsInStar (front before word gap space : Text) : Prop where
  text_eq : front = before ++ (word ++ (gap ++ 0x2A :: space))
  ne_nil : word ≠ []
  word : ∀ c ∈ word, c.isWord = true
  left : ∀ c ∈ before.getLast?, c.isWord = false
  gap : ∀ c ∈ gap, c.isBlank = true
  space : ∀ c ∈ space, c.isBlank = true

theorem isTaken_of_endsInStar {front before word gap space : Text}
    (h : EndsInStar front before word gap space) :
    isTaken front = (2 ≤ word.length || !isTaken before) := by
  have hstar : front.reverse.dropWhile CodeUnit.isBlank =
      0x2A :: (gap.reverse ++ (word.reverse ++ before.reverse)) := by
    have hsplit : front.reverse =
        space.reverse ++ 0x2A :: (gap.reverse ++ (word.reverse ++ before.reverse)) := by
      simp [h.text_eq]
    exact ((Text.run_iff (p := CodeUnit.isBlank)).2
      ⟨hsplit, by simpa using h.space, by simp; decide⟩).2
  have hgap : (gap.reverse ++ (word.reverse ++ before.reverse)).dropWhile CodeUnit.isBlank =
      word.reverse ++ before.reverse := by
    refine ((Text.run_iff (p := CodeUnit.isBlank)).2 ⟨rfl, by simpa using h.gap, ?_⟩).2
    obtain ⟨word, c, hconcat⟩ := (List.eq_nil_or_concat word).resolve_left h.ne_nil
    have hc := h.word c (by simp [hconcat])
    simpa [hconcat] using CodeUnit.not_isBlank_of_isWord hc
  have hword := (Text.run_iff (p := CodeUnit.isWord) (t := word.reverse ++ before.reverse)).2
    ⟨rfl, by simpa using h.word, by simpa [List.head?_reverse] using h.left⟩
  rw [isTaken, takenAfter]
  split
  next spaced hspaced =>
    obtain rfl : _ = spaced := (List.cons.inj (hstar.symm.trans hspaced)).2
    simp only [hgap, hword.1, hword.2, List.length_reverse, isTaken]
    simp [h.ne_nil]
  next hnone => exact (hnone _ hstar).elim

theorem exists_endsInStar {front : Text} (h : isTaken front = true) :
    ∃ before word gap space, EndsInStar front before word gap space := by
  rw [isTaken, takenAfter] at h
  split at h
  next spaced hspaced =>
    simp only [Bool.and_eq_true, Bool.not_eq_true', List.isEmpty_eq_false_iff] at h
    obtain ⟨hfront, hspace, -⟩ := (Text.run_iff (p := CodeUnit.isBlank)).1 ⟨rfl, hspaced⟩
    obtain ⟨hrest, hgap, -⟩ :=
      (Text.run_iff (p := CodeUnit.isBlank) (t := spaced)).1 ⟨rfl, rfl⟩
    obtain ⟨hsplit, hword, hleft⟩ := (Text.run_iff (p := CodeUnit.isWord)
      (t := spaced.dropWhile CodeUnit.isBlank)).1 ⟨rfl, rfl⟩
    refine ⟨((spaced.dropWhile CodeUnit.isBlank).dropWhile CodeUnit.isWord).reverse,
      ((spaced.dropWhile CodeUnit.isBlank).takeWhile CodeUnit.isWord).reverse,
      (spaced.takeWhile CodeUnit.isBlank).reverse,
      (front.reverse.takeWhile CodeUnit.isBlank).reverse, ?_, by simpa using h.1,
      by simpa using hword, by simpa [List.getLast?_reverse] using hleft, by simpa using hgap,
      by simpa using hspace⟩
    rw [hsplit] at hrest
    rw [hrest] at hfront
    have := congrArg List.reverse hfront
    simpa only [List.reverse_reverse, List.reverse_append, List.reverse_cons, List.append_assoc,
      List.singleton_append] using this
  next => simp at h

theorem getLast?_append_isWord {before word : Text} (hne : word ≠ [])
    (hword : ∀ c ∈ word, c.isWord = true) : ∃ c ∈ (before ++ word).getLast?, c.isWord = true := by
  refine ⟨word.getLast hne, ?_, hword _ (List.getLast_mem hne)⟩
  simp [List.getLast?_append, List.getLast?_eq_some_getLast hne]

/-- What follows the last word unit of a text. -/
theorem takeWhile_reverse_append {before between : Text}
    (hbefore : ∃ c ∈ before.getLast?, c.isWord = true)
    (hbetween : ∀ c ∈ between, c.isWord = false) :
    (before ++ between).reverse.takeWhile (!CodeUnit.isWord ·) = between.reverse := by
  refine (Text.run_iff.2 ⟨List.reverse_append, by simpa using hbetween, ?_⟩).1
  obtain ⟨c, hlast, hc⟩ := hbefore
  intro d hd
  rw [List.head?_reverse] at hd
  obtain rfl := Option.mem_unique hlast hd
  simpa using hc

/-- Between a word and one whose first unit is taken there is a star. -/
theorem isStar_of_isTaken {before between : Text}
    (hbefore : ∃ c ∈ before.getLast?, c.isWord = true) (hbetween : ∀ c ∈ between, c.isWord = false)
    (h : isTaken (before ++ between) = true) : IsStar between := by
  obtain ⟨front, word, gap, space, hends⟩ := exists_endsInStar h
  have hstar : IsStar (gap ++ 0x2A :: space) := ⟨gap, space, rfl, hends.gap, hends.space⟩
  obtain rfl : between = gap ++ 0x2A :: space := by
    apply List.reverse_injective
    rw [← takeWhile_reverse_append hbefore hbetween,
      ← takeWhile_reverse_append (getLast?_append_isWord hends.ne_nil hends.word)
        fun c hc => (hstar.units hc).1, hends.text_eq, List.append_assoc]
  exact hstar

theorem isTaken_of_noWord {before : Text} (h : ∀ c ∈ before, c.isWord = false) :
    isTaken before = false := by
  by_contra htaken
  obtain ⟨front, word, gap, space, hstar⟩ := exists_endsInStar (Bool.not_eq_false _ ▸ htaken)
  obtain ⟨c, word, rfl⟩ := List.exists_cons_of_ne_nil hstar.ne_nil
  have hc := hstar.word c List.mem_cons_self
  rw [h c (by simp [hstar.text_eq])] at hc
  simp at hc

/-! ## What is read -/

/-- What is left of a word for the product after it. -/
def readPart (front word : Text) : Text := if isTaken front then word.tail else word

theorem readPart_of_taken {front word : Text} (h : isTaken front = true) :
    readPart front word = word.tail := if_pos h

theorem readPart_of_not_taken {front word : Text} (h : ¬ isTaken front = true) :
    readPart front word = word := if_neg h

theorem readPart_nil (front : Text) : readPart front [] = [] := ite_self []

theorem readPart_units {front word : Text} (h : ∀ c ∈ word, c.isWord = true) :
    ∀ c ∈ readPart front word, c.isWord = true := by
  intro c hc
  rw [readPart] at hc
  split_ifs at hc
  · exact h c (List.mem_of_mem_tail hc)
  · exact h c hc

theorem EndsInStar.isTaken_iff {front before word gap space : Text}
    (h : EndsInStar front before word gap space) :
    isTaken front = true ↔ readPart before word ≠ [] := by
  obtain ⟨c, word, rfl⟩ := List.exists_cons_of_ne_nil h.ne_nil
  rw [isTaken_of_endsInStar h, readPart]
  cases word <;> cases isTaken before <;> simp

/-- A factor: something is left of a word, and it is not the name of a type. -/
def IsFactor (part : Text) : Prop := part ≠ [] ∧ isTypeWord part = false

/-- A product with a closing parenthesis on its left. -/
def ClosesProduct (t : Text) : Prop :=
  ∃ before c rest, t = before ++ c :: rest ∧ c = 0x29 ∧ Multiplies rest

/-- A product with a factor on its left, in a text that stands after another one. -/
def ReadsProduct (before t : Text) : Prop :=
  ∃ front word rest, WordAt t front word rest ∧ Multiplies rest ∧
    IsFactor (readPart (before ++ front) word)

/-- A unit of a text is the first one or one of the rest. -/
theorem exists_unit_cons_iff {P : Text → CodeUnit → Text → Prop} {c : CodeUnit} {t : Text} :
    (∃ before d after, c :: t = before ++ d :: after ∧ P before d after) ↔
      P [] c t ∨ ∃ before d after, t = before ++ d :: after ∧ P (c :: before) d after := by
  constructor
  · rintro ⟨before, d, after, h⟩
    rcases (Text.exists_split_cons_iff (P := (P · d after))).1 ⟨before, h⟩ with
      ⟨rfl, rfl, h⟩ | ⟨before, h⟩
    · exact .inl h
    · exact .inr ⟨before, d, after, h⟩
  · rintro (h | ⟨before, d, after, rfl, h⟩)
    · exact ⟨[], c, t, rfl, h⟩
    · exact ⟨c :: before, d, after, rfl, h⟩

theorem closesProduct_cons_iff {c : CodeUnit} {t : Text} :
    ClosesProduct (c :: t) ↔ c = 0x29 ∧ Multiplies t ∨ ClosesProduct t :=
  exists_unit_cons_iff

theorem closesProduct_append_iff {x t : Text} (hx : 0x29 ∉ x) :
    ClosesProduct (x ++ t) ↔ ClosesProduct t := by
  induction x with
  | nil => rfl
  | cons c x ih =>
    rw [List.mem_cons, not_or] at hx
    rw [List.cons_append, closesProduct_cons_iff, ih hx.2]
    simp [Ne.symm hx.1]

theorem not_mem_of_isWord {word : Text} (h : ∀ c ∈ word, c.isWord = true) : 0x29 ∉ word :=
  fun hmem => absurd (h _ hmem) (by decide)

theorem hasProduct_append {x t : Text} (hx : ∀ c ∈ x, c.isWord = false ∧ c ≠ 0x29) :
    hasProduct 0 (x ++ t) = true ↔ hasProduct 0 t = true := by
  induction x with
  | nil => rfl
  | cons c x ih =>
    rw [List.forall_mem_cons] at hx
    rw [List.cons_append, hasProduct_cons hx.1.1, ih hx.2]
    simp [hx.1.2]

theorem readsProduct_cons_iff {before t : Text} {c : CodeUnit} (hc : c.isWord = false) :
    ReadsProduct before (c :: t) ↔ ReadsProduct (before ++ [c]) t := by
  constructor
  · rintro ⟨front, word, rest, hword, hrest, hfactor⟩
    cases front with
    | nil => simp [(WordAt.head_iff.1 hword).1] at hc
    | cons d front =>
      obtain rfl : c = d := (List.cons.inj hword.text_eq).1
      exact ⟨front, word, rest, (WordAt.cons_iff.1 hword).1, hrest, by simpa using hfactor⟩
  · rintro ⟨front, word, rest, hword, hrest, hfactor⟩
    exact ⟨c :: front, word, rest, WordAt.cons_iff.2 ⟨hword, fun _ => hc⟩, hrest,
      by simpa using hfactor⟩

theorem readsProduct_append_iff {before x t : Text} (hx : ∀ c ∈ x, c.isWord = false) :
    ReadsProduct before (x ++ t) ↔ ReadsProduct (before ++ x) t := by
  induction x generalizing before with
  | nil => rw [List.nil_append, List.append_nil]
  | cons c x ih =>
    rw [List.forall_mem_cons] at hx
    rw [List.cons_append, readsProduct_cons_iff hx.1, ih hx.2, List.append_assoc]
    rfl

theorem readsProduct_word_iff {before word rest : Text} (hne : word ≠ [])
    (hword : ∀ c ∈ word, c.isWord = true) (hrest : ∀ c ∈ rest.head?, c.isWord = false) :
    ReadsProduct before (word ++ rest) ↔
      Multiplies rest ∧ IsFactor (readPart before word) ∨ ReadsProduct (before ++ word) rest := by
  simp only [ReadsProduct, wordAt_append_iff hne hword hrest]
  constructor
  · rintro ⟨front, run, after, ⟨rfl, rfl, rfl⟩ | ⟨front, rfl, h⟩, hrest, hfactor⟩
    · exact .inl ⟨hrest, by simpa using hfactor⟩
    · exact .inr ⟨front, run, after, h, hrest, by simpa using hfactor⟩
  · rintro (⟨hrest, hfactor⟩ | ⟨front, run, after, h, hrest, hfactor⟩)
    · exact ⟨[], word, rest, .inl ⟨rfl, rfl, rfl⟩, hrest, by simpa using hfactor⟩
    · exact ⟨word ++ front, run, after, .inr ⟨front, rfl, h⟩, hrest, by simpa using hfactor⟩

/-! ## The search reads each word once -/

/-- The first word of a text has none of its units taken by what stands before. -/
def OpensFresh (before t : Text) : Prop :=
  ∀ between c after, t = between ++ c :: after → (∀ d ∈ between, d.isWord = false) →
    c.isWord = true → isTaken (before ++ between) = false

/-- Where the search stands: behind a text, at a run of word units, which may be empty. -/
structure StandsAt (before run rest : Text) : Prop where
  units : ∀ c ∈ run, c.isWord = true
  right : ∀ c ∈ rest.head?, c.isWord = false
  left : run ≠ [] → ∀ c ∈ before.getLast?, c.isWord = false
  fresh : run = [] → OpensFresh before rest

/-- From here on, the search finds what there is to be read. -/
def FindsProducts (before run rest : Text) : Prop :=
  hasProduct 0 (readPart before run ++ rest) = true ↔
    ClosesProduct (run ++ rest) ∨ ReadsProduct before (run ++ rest)

/-- The search stands before a text. -/
theorem standsAt_text {before t : Text} (hbefore : ∀ c ∈ before.getLast?, c.isWord = false)
    (h : (∀ c ∈ t.head?, c.isWord = false) → OpensFresh before t) :
    StandsAt before (t.takeWhile CodeUnit.isWord) (t.dropWhile CodeUnit.isWord) := by
  obtain ⟨htext, hrun, hright⟩ := (Text.run_iff (p := CodeUnit.isWord) (t := t)).1 ⟨rfl, rfl⟩
  refine ⟨hrun, hright, fun _ => hbefore, fun hnil => ?_⟩
  rw [hnil, List.nil_append] at htext
  rw [← htext] at hright ⊢
  exact h hright

section Step

variable {before run rest : Text}

/-- The search goes on behind a unit that is not of a word. -/
theorem StandsAt.cons {c : CodeUnit} {t : Text} (h : StandsAt before [] (c :: t)) :
    StandsAt (before ++ [c]) (t.takeWhile CodeUnit.isWord) (t.dropWhile CodeUnit.isWord) := by
  have hc : c.isWord = false := h.right c rfl
  refine standsAt_text (by simpa using hc) fun _ between d after htext hbetween hd => ?_
  rw [List.append_assoc]
  exact h.fresh rfl (c :: between) d after (by rw [htext]; rfl)
    (List.forall_mem_cons.2 ⟨hc, hbetween⟩) hd

/-- A word that is not multiplied takes nothing from the next one. -/
theorem StandsAt.skip (h : StandsAt before run rest) (hne : run ≠ []) (hrest : ¬ Multiplies rest) :
    StandsAt (before ++ run) [] rest := by
  refine ⟨by simp, h.right, fun hnil => (hnil rfl).elim, ?_⟩
  intro _ between c after htext hbetween hc
  by_contra htaken
  obtain ⟨gap, space, rfl, hgap, hspace⟩ :=
    isStar_of_isTaken (getLast?_append_isWord hne h.units) hbetween (Bool.not_eq_false _ ▸ htaken)
  have hparts : StarParts rest gap space (c :: after) :=
    ⟨by simpa using htext, hgap, hspace, c, rfl, .inl hc⟩
  exact hrest hparts.multiplies

section Star

variable {gap space operand : Text} (hparts : StarParts rest gap space operand)

include hparts

theorem StarParts.isStar : IsStar (gap ++ 0x2A :: space) :=
  ⟨gap, space, rfl, hparts.gap, hparts.space⟩

theorem StandsAt.endsInStar (h : StandsAt before run rest) (hne : run ≠ []) :
    EndsInStar (before ++ (run ++ (gap ++ 0x2A :: space))) before run gap space :=
  ⟨rfl, hne, h.units, h.left hne, hparts.gap, hparts.space⟩

/-- A product with an opening parenthesis on its right takes that one and no unit of a word. -/
theorem StandsAt.star (h : StandsAt before run rest) (hne : run ≠ []) :
    StandsAt (before ++ (run ++ (gap ++ 0x2A :: space))) (operand.takeWhile CodeUnit.isWord)
      (operand.dropWhile CodeUnit.isWord) := by
  refine standsAt_text (fun c hc => ?_) fun hhead between c after htext hbetween hc => ?_
  · refine (hparts.isStar.units (List.mem_of_getLast? ?_)).1
    simpa [List.getLast?_append] using hc
  · by_contra htaken
    rw [← List.append_assoc before, List.append_assoc (before ++ run)] at htaken
    have hstar := isStar_of_isTaken (getLast?_append_isWord hne h.units)
      (List.forall_mem_append.2 ⟨fun d hd => (hparts.isStar.units hd).1, hbetween⟩)
      (Bool.not_eq_false _ ▸ htaken)
    have hparen : 0x28 ∈ between := by
      obtain ⟨d, hd, hoperand⟩ := hparts.operand
      obtain rfl := hoperand.resolve_left (by simp [hhead d hd])
      cases between with
      | nil => simp [hhead c (by simp [htext])] at hc
      | cons e between => simp_all
    exact (hstar.units (List.mem_append_right _ hparen)).2.1 rfl

/-- The first unit of an operand is taken from its word. If it is a parenthesis, it does not matter
that it is taken. -/
theorem hasProduct_tail_iff : hasProduct 0 operand.tail = true ↔ hasProduct 0
    ((operand.takeWhile CodeUnit.isWord).tail ++ operand.dropWhile CodeUnit.isWord) = true := by
  obtain ⟨c, hc, hword | rfl⟩ := hparts.operand
  all_goals obtain ⟨operand, rfl⟩ := List.head?_eq_some_iff.1 hc
  · simp [hword]
  · rw [List.takeWhile_cons_of_neg (by decide), List.dropWhile_cons_of_neg (by decide)]
    simp [hasProduct_cons (c := 0x28) (by decide)]

/-- The search finds a factor before a star, or goes on behind what it takes of the operand. -/
theorem hasProduct_star (h : StandsAt before run rest) (hne : run ≠ []) :
    hasProduct 0 (readPart before run ++ rest) = true ↔
      IsFactor (readPart before run) ∨
        hasProduct 0 (readPart (before ++ (run ++ (gap ++ 0x2A :: space)))
          (operand.takeWhile CodeUnit.isWord) ++ operand.dropWhile CodeUnit.isWord) = true := by
  have htaken := (h.endsInStar hparts hne).isTaken_iff
  -- a word of which nothing is left is no match, so nothing is taken of the operand either
  by_cases hpart : readPart before run = []
  · rw [readPart_of_not_taken (mt htaken.1 (not_not.2 hpart)), List.takeWhile_append_dropWhile,
      hpart, List.nil_append, hparts.text_eq, ← List.cons_append, ← List.append_assoc,
      hasProduct_append fun c hc => ⟨(hparts.isStar.units hc).1, (hparts.isStar.units hc).2.2⟩]
    simp [IsFactor]
  · rw [readPart_of_taken (htaken.2 hpart),
      hasProduct_word_star hpart (readPart_units h.units) hparts]
    rw [hasProduct_tail_iff hparts]
    simp [IsFactor, hpart]

end Star

theorem findsProducts_cons {c : CodeUnit} {t : Text} (h : StandsAt before [] (c :: t))
    (hnext : FindsProducts (before ++ [c]) (t.takeWhile CodeUnit.isWord)
      (t.dropWhile CodeUnit.isWord)) : FindsProducts before [] (c :: t) := by
  have hc : c.isWord = false := h.right c rfl
  have hpart : readPart (before ++ [c]) (t.takeWhile CodeUnit.isWord) =
      t.takeWhile CodeUnit.isWord := by
    cases t with
    | nil => exact readPart_nil _
    | cons d t =>
      cases hd : d.isWord with
      | false => rw [List.takeWhile_cons_of_neg (by simp [hd]), readPart_nil]
      | true =>
        have hfree := h.fresh rfl [c] d t rfl (by simpa using hc) hd
        exact readPart_of_not_taken (by simp [hfree])
  rw [FindsProducts, hpart, List.takeWhile_append_dropWhile] at hnext
  rw [FindsProducts, readPart_nil, List.nil_append, hasProduct_cons hc, closesProduct_cons_iff,
    readsProduct_cons_iff hc, hnext, or_assoc]

theorem findsProducts_skip (h : StandsAt before run rest) (hne : run ≠ [])
    (hrest : ¬ Multiplies rest) (hnext : FindsProducts (before ++ run) [] rest) :
    FindsProducts before run rest := by
  rw [FindsProducts, readPart_nil, List.nil_append] at hnext
  rw [FindsProducts, hasProduct_word (readPart_units h.units) h.right hrest, hnext,
    closesProduct_append_iff (not_mem_of_isWord h.units), readsProduct_word_iff hne h.units h.right]
  simp [hrest]

theorem findsProducts_star {gap space operand : Text} (h : StandsAt before run rest)
    (hne : run ≠ []) (hparts : StarParts rest gap space operand)
    (hnext : FindsProducts (before ++ (run ++ (gap ++ 0x2A :: space)))
      (operand.takeWhile CodeUnit.isWord) (operand.dropWhile CodeUnit.isWord)) :
    FindsProducts before run rest := by
  have hstar := hparts.isStar
  have hclose : ClosesProduct (run ++ rest) ↔ ClosesProduct operand := by
    rw [closesProduct_append_iff (not_mem_of_isWord h.units), hparts.text_eq, ← List.cons_append,
      ← List.append_assoc, closesProduct_append_iff fun hc => (hstar.units hc).2.2 rfl]
  have hread : ReadsProduct before (run ++ rest) ↔ IsFactor (readPart before run) ∨
      ReadsProduct (before ++ (run ++ (gap ++ 0x2A :: space))) operand := by
    rw [readsProduct_word_iff hne h.units h.right, and_iff_right hparts.multiplies]
    nth_rewrite 1 [hparts.text_eq]
    rw [← List.cons_append, ← List.append_assoc gap, readsProduct_append_iff fun c hc =>
      (hstar.units hc).1, List.append_assoc]
  rw [FindsProducts, List.takeWhile_append_dropWhile] at hnext
  rw [FindsProducts, hasProduct_star hparts h hne, hnext, hclose, hread, or_left_comm]

end Step

/-- From wherever it stands, the search finds what there is to be read. -/
theorem findsProducts_of_standsAt {before run rest : Text} (h : StandsAt before run rest) :
    FindsProducts before run rest := by
  induction hn : (run ++ rest).length using Nat.strong_induction_on
    generalizing before run rest with
  | _ n ih =>
  subst hn
  rcases eq_or_ne run [] with rfl | hne
  · cases rest with
    | nil =>
      simp [FindsProducts, readPart_nil, hasProduct, ClosesProduct, ReadsProduct, WordAt.not_nil]
    | cons c t => exact findsProducts_cons h (ih _ (by simp) h.cons rfl)
  · by_cases hrest : Multiplies rest
    · obtain ⟨gap, space, operand, hparts⟩ := hrest.exists_starParts
      refine findsProducts_star h hne hparts (ih _ ?_ (h.star hparts hne) rfl)
      simp [hparts.text_eq]
      omega
    · refine findsProducts_skip h hne hrest (ih _ ?_ (h.skip hne hrest) rfl)
      simp [List.length_pos_of_ne_nil hne]

/-- The search finds a product exactly if one has a closing parenthesis on its left, or what is left
of a word that is not the name of a type. -/
theorem hasProduct_iff {t : Text} :
    hasProduct 0 t = true ↔ ClosesProduct t ∨ ReadsProduct [] t := by
  have h : FindsProducts [] (t.takeWhile CodeUnit.isWord) (t.dropWhile CodeUnit.isWord) :=
    findsProducts_of_standsAt (standsAt_text (by simp)
      fun _ between c after _ hbetween _ => isTaken_of_noWord hbetween)
  rwa [FindsProducts, readPart_of_not_taken (by simp [isTaken_of_noWord]),
    List.takeWhile_append_dropWhile] at h

end Remedy.Scan
