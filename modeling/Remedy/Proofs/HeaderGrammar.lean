import Mathlib.Data.List.DropRight
import Remedy.Code.Header
import Remedy.Pattern.Reader
import Remedy.Proofs.PatternMatches
import Remedy.Proofs.Texts

/-!
# The grammar of function headers

A regular expression finds the name in a header, from the left and with no word boundary in front.
Here the grammar of what it finds is said by counting parentheses: the last one closes a list whose
inner lists nest no deeper, and before the list stands an identifier. What the expression matches is
read off its nodes (`reads_identifier`, `reads_parameters`), with the texts between two parentheses
that match as the repetition of their parts (`repeats_isParameterPart_iff`). The leftmost match
starts at the first letter of a word (`exists_nameParts`), and all matches end in the same list
(`Enclosed.unique`), so that `functionName_by_grammar` can say that a header gives a name exactly if
it has these parts.
-/

namespace Remedy.Code

/-- What stands between a parenthesis and the one that matches it, counted from the end, with lists
inside that hold no further lists. -/
structure Enclosed (inner : Text) : Prop where
  even : inner.count 0x28 = inner.count 0x29
  matched : ∀ part, part <:+ inner → part.count 0x28 ≤ part.count 0x29
  shallow : ∀ part, part <+: inner → part.count 0x28 ≤ part.count 0x29 + 1

/-- The parts of a text that ends, up to blanks, in a word; digits at the start of the word do not
belong to the name. -/
structure NameParts (t front digits name blanks : Text) : Prop where
  text_eq : t = front ++ (digits ++ name) ++ blanks
  blank : ∀ c ∈ blanks, c.isBlank = true
  word : ∀ c ∈ digits ++ name, c.isWord = true
  maximal : ∀ c ∈ front.getLast?, c.isWord = false
  digit : ∀ c ∈ digits, c.isDigit = true
  letter : ∀ c ∈ name.head?, c.isDigit = false
  ne_nil : name ≠ []

/-- A text that ends in a name and a parameter list. -/
def EndsInList (t name : Text) : Prop :=
  ∃ before inner, t = before ++ 0x28 :: (inner ++ [0x29]) ∧ Enclosed inner ∧
    ∃ front digits blanks, NameParts before front digits name blanks

/-- A text that ends in a name and a parameter list, the name not being that of a statement. -/
structure DeclaresFunction (t name : Text) : Prop where
  parts : EndsInList t name
  notKeyword : name ∉ notFunctions

/-! ## Lists in a list -/

/-- Text read from inside `depth` inner lists to the end of all of them, never deeper than one. -/
def Closes (depth : Nat) (t : Text) : Prop :=
  t.count 0x28 + depth = t.count 0x29 ∧ ∀ part, part <+: t →
    part.count 0x29 ≤ part.count 0x28 + depth ∧ part.count 0x28 + depth ≤ part.count 0x29 + 1

namespace Closes

variable {depth : Nat} {c : CodeUnit} {t : Text}

theorem nil_iff : Closes depth [] ↔ depth = 0 := by
  simp only [Closes, List.prefix_nil, forall_eq, List.count_nil]
  omega

theorem open_iff : Closes depth (0x28 :: t) ↔ depth = 0 ∧ Closes 1 t := by
  have hcount (part : Text) : (0x28 :: part).count 0x28 = part.count 0x28 + 1 ∧
      (0x28 :: part).count 0x29 = part.count 0x29 := by simp
  simp only [Closes, Text.forall_prefix_cons_iff, (hcount _).1, (hcount _).2]
  constructor
  · rintro ⟨heven, -, hparts⟩
    have hle := (hparts [] List.nil_prefix).2
    obtain rfl : depth = 0 := by
      simp only [List.count_nil] at hle
      omega
    exact ⟨rfl, heven, hparts⟩
  · rintro ⟨rfl, heven, hparts⟩
    exact ⟨heven, by simp, hparts⟩

theorem close_iff : Closes depth (0x29 :: t) ↔ depth = 1 ∧ Closes 0 t := by
  have hcount (part : Text) : (0x29 :: part).count 0x28 = part.count 0x28 ∧
      (0x29 :: part).count 0x29 = part.count 0x29 + 1 := by simp
  simp only [Closes, Text.forall_prefix_cons_iff, (hcount _).1, (hcount _).2]
  constructor
  · rintro ⟨heven, ⟨-, hle⟩, hparts⟩
    have hge := (hparts [] List.nil_prefix).1
    obtain rfl : depth = 1 := by
      simp only [List.count_nil] at hle hge
      omega
    exact ⟨rfl, by omega, fun part hpart => by have := hparts part hpart; omega⟩
  · rintro ⟨rfl, heven, hparts⟩
    exact ⟨by omega, by simp, fun part hpart => by have := hparts part hpart; omega⟩

theorem plain_iff (hopen : c ≠ 0x28) (hclose : c ≠ 0x29) :
    Closes depth (c :: t) ↔ Closes depth t := by
  have hcount (part : Text) : (c :: part).count 0x28 = part.count 0x28 ∧
      (c :: part).count 0x29 = part.count 0x29 := by
    simp [hopen, hclose]
  simp only [Closes, Text.forall_prefix_cons_iff, (hcount _).1, (hcount _).2]
  exact ⟨fun h => ⟨h.1, h.2.2⟩, fun h => ⟨h.1, h.2 [] List.nil_prefix, h.2⟩⟩

end Closes

/-- Counted from either end, the same texts are enclosed. -/
theorem closes_zero_iff {inner : Text} : Closes 0 inner ↔ Enclosed inner := by
  constructor
  · rintro ⟨heven, hparts⟩
    refine ⟨heven, ?_, fun part hpart => (hparts part hpart).2⟩
    rintro part ⟨front, rfl⟩
    have hfront := (hparts front (List.prefix_append front part)).1
    simp only [List.count_append] at heven
    omega
  · rintro ⟨heven, hmatched, hshallow⟩
    refine ⟨heven, fun part hpart => ⟨?_, hshallow part hpart⟩⟩
    obtain ⟨rest, rfl⟩ := hpart
    have hrest := hmatched rest (List.suffix_append part rest)
    simp only [List.count_append] at heven
    omega

/-- A unit of a parameter list, or a list in it that holds no further lists. -/
def IsParameterPart (part : Text) : Prop :=
  (∃ c, part = [c] ∧ c ≠ 0x28 ∧ c ≠ 0x29) ∨
    ∃ inner, part = 0x28 :: (inner ++ [0x29]) ∧ ∀ c ∈ inner, c ≠ 0x28 ∧ c ≠ 0x29

theorem Closes.plain_append_iff {depth : Nat} {plain t : Text}
    (hplain : ∀ c ∈ plain, c ≠ 0x28 ∧ c ≠ 0x29) :
    Closes depth (plain ++ t) ↔ Closes depth t := by
  induction plain with
  | nil => rfl
  | cons c plain ih =>
    obtain ⟨hc, hplain⟩ := List.forall_mem_cons.1 hplain
    rw [List.cons_append, Closes.plain_iff hc.1 hc.2, ih hplain]

theorem IsParameterPart.closes_append_iff {part t : Text} (h : IsParameterPart part) :
    Closes 0 (part ++ t) ↔ Closes 0 t := by
  rcases h with ⟨c, rfl, hopen, hclose⟩ | ⟨inner, rfl, hplain⟩
  · exact Closes.plain_iff hopen hclose
  · rw [List.cons_append, Closes.open_iff, List.append_assoc, Closes.plain_append_iff hplain,
      List.singleton_append, Closes.close_iff]
    simp

/-- The list that a text begins in ends before any other begins. -/
theorem Closes.exists_close {t : Text} (h : Closes 1 t) :
    ∃ inner rest, t = inner ++ 0x29 :: rest ∧ (∀ c ∈ inner, c ≠ 0x28 ∧ c ≠ 0x29) ∧
      Closes 0 rest := by
  induction t with
  | nil => exact absurd (Closes.nil_iff.1 h) (by decide)
  | cons c t ih =>
    by_cases hclose : c = 0x29
    · subst hclose
      exact ⟨[], t, rfl, by simp, (Closes.close_iff.1 h).2⟩
    have hopen : c ≠ 0x28 := by
      rintro rfl
      exact absurd (Closes.open_iff.1 h).1 (by decide)
    obtain ⟨inner, rest, rfl, hplain, hrest⟩ := ih ((Closes.plain_iff hopen hclose).1 h)
    exact ⟨c :: inner, rest, rfl, List.forall_mem_cons.2 ⟨⟨hopen, hclose⟩, hplain⟩, hrest⟩

/-- A text that closes all its lists is made of parts, the first one being a unit or a list. -/
theorem Closes.exists_part {c : CodeUnit} {t : Text} (h : Closes 0 (c :: t)) :
    ∃ part rest, c :: t = part ++ rest ∧ IsParameterPart part ∧ Closes 0 rest := by
  by_cases hopen : c = 0x28
  · subst hopen
    obtain ⟨inner, rest, rfl, hplain, hrest⟩ := (Closes.open_iff.1 h).2.exists_close
    exact ⟨0x28 :: (inner ++ [0x29]), rest, by simp, .inr ⟨inner, rfl, hplain⟩, hrest⟩
  have hclose : c ≠ 0x29 := by
    rintro rfl
    exact absurd (Closes.close_iff.1 h).1 (by decide)
  exact ⟨[c], t, rfl, .inl ⟨c, rfl, hopen, hclose⟩, (Closes.plain_iff hopen hclose).1 h⟩

theorem IsParameterPart.ne_nil {part : Text} (h : IsParameterPart part) : part ≠ [] := by
  rcases h with ⟨c, rfl, -⟩ | ⟨inner, rfl, -⟩ <;> simp

/-- What is enclosed is any number of parts. -/
theorem repeats_isParameterPart_iff {before inner after : Text} :
    Pattern.Repeats (fun _ part _ => IsParameterPart part) before inner after ↔
      Enclosed inner := by
  rw [← closes_zero_iff]
  constructor
  · intro h
    induction h with
    | nil => exact Closes.nil_iff.2 rfl
    | cons hpart _ ih => exact hpart.closes_append_iff.2 ih
  · intro h
    -- each part takes up some of the text
    induction hn : inner.length using Nat.strongRecOn generalizing before inner with
    | ind n ih =>
      cases inner with
      | nil => exact .nil before after
      | cons c t =>
        obtain ⟨part, rest, heq, hpart, hrest⟩ := h.exists_part
        have hpos : 0 < part.length := List.length_pos_iff.2 hpart.ne_nil
        rw [heq, List.length_append] at hn
        rw [heq]
        exact .cons hpart (ih rest.length (by omega) hrest rfl)

/-- The parenthesis that matches the last one is determined. -/
theorem Enclosed.unique {before before' inner inner' : Text} (h : Enclosed inner)
    (h' : Enclosed inner') (heq : before ++ 0x28 :: inner = before' ++ 0x28 :: inner') :
    before = before' ∧ inner = inner' := by
  -- of two of them, the inner one would open a list that the text between does not close
  have hnone {x y between : Text} (hx : Enclosed x) (hy : Enclosed y)
      (hsplit : 0x28 :: x = between ++ 0x28 :: y) : between = [] := by
    cases between with
    | nil => rfl
    | cons c between =>
      obtain ⟨-, rfl⟩ := List.cons.inj hsplit
      have hle := hx.matched (0x28 :: y) (List.suffix_append between _)
      have heven := hy.even
      simp at hle
      omega
  rcases List.append_eq_append_iff.1 heq with ⟨between, rfl, hsplit⟩ | ⟨between, rfl, hsplit⟩
  · obtain rfl := hnone h h' hsplit
    simpa using hsplit
  · obtain rfl := hnone h' h hsplit
    simpa using hsplit.symm

/-! ## The parts of the expression -/

section Patterns

open Pattern

variable {t : Text}

/-- A word that does not begin with a digit. -/
structure IsIdentifier (name : Text) : Prop where
  word : ∀ c ∈ name, c.isWord = true
  letter : ∀ c ∈ name.head?, c.isDigit = false
  ne_nil : name ≠ []

theorem isIdentifier_cons_iff {c : CodeUnit} {name : Text} :
    IsIdentifier (c :: name) ↔
      (c.isWord = true ∧ c.isDigit = false) ∧ ∀ d ∈ name, d.isWord = true := by
  constructor
  · rintro ⟨hword, hletter, -⟩
    obtain ⟨hc, hname⟩ := List.forall_mem_cons.1 hword
    exact ⟨⟨hc, hletter c rfl⟩, hname⟩
  · rintro ⟨⟨hc, hdigit⟩, hname⟩
    exact ⟨List.forall_mem_cons.2 ⟨hc, hname⟩, fun d hd => Option.some.inj hd ▸ hdigit, by simp⟩

theorem reads_blanks : Reads t HeaderPattern.blanks fun _ part _ =>
    ∀ c ∈ part, c.isBlank = true :=
  (Reads.star (.part (.space false))).of_iff fun _ _ _ => by simp only [contains_space]

theorem contains_letters_iff (c : CodeUnit) :
    HeaderPattern.letters.contains noFlags c.toNat = true ↔
      c.isWord = true ∧ c.isDigit = false := by
  simp [HeaderPattern.letters, CharSet.contains, CharSet.containsOneOf, equivalents, noFlags,
    ClassItem.contains, CodeUnit.isWord, CodeUnit.isLetter, CodeUnit.isUpper, CodeUnit.isLower,
    CodeUnit.isDigit, UInt16.le_iff_toNat_le, ← UInt16.toNat_inj]
  omega

theorem contains_others_iff (c : CodeUnit) :
    HeaderPattern.others.contains noFlags c.toNat = true ↔ c ≠ 0x28 ∧ c ≠ 0x29 := by
  simp [HeaderPattern.others, CharSet.contains, CharSet.containsOneOf, equivalents, noFlags,
    ClassItem.contains, ← UInt16.toNat_inj]

theorem reads_identifier : Reads t HeaderPattern.identifier fun _ part _ =>
    IsIdentifier part := by
  refine ((Reads.set HeaderPattern.letters).seq ((Reads.star (.part (.word false))).seq
    Reads.empty)).of_iff fun before part after => ?_
  simp only [contains_letters_iff, contains_word]
  constructor
  · rintro ⟨_, _, rfl, ⟨c, rfl, hc⟩, name, _, rfl, hname, rfl⟩
    rw [List.append_nil]
    exact isIdentifier_cons_iff.2 ⟨hc, hname⟩
  · intro hpart
    obtain ⟨c, name, rfl⟩ := List.exists_cons_of_ne_nil hpart.ne_nil
    obtain ⟨hc, hname⟩ := isIdentifier_cons_iff.1 hpart
    exact ⟨[c], name, rfl, ⟨c, rfl, hc⟩, name, [], by simp, hname, rfl⟩

theorem reads_parameterPart : Reads t HeaderPattern.parameterPart fun _ part _ =>
    IsParameterPart part := by
  refine (((Reads.set HeaderPattern.others).seq Reads.empty).alt ((Reads.char 0x28).seq
    ((Reads.star HeaderPattern.others).seq ((Reads.char 0x29).seq Reads.empty)))).of_iff
    fun before part after => ?_
  simp only [contains_others_iff]
  refine or_congr ?_ ?_
  · constructor
    · rintro ⟨_, _, rfl, ⟨c, rfl, hc⟩, rfl⟩
      exact ⟨c, rfl, hc⟩
    · rintro ⟨c, rfl, hc⟩
      exact ⟨[c], [], rfl, ⟨c, rfl, hc⟩, rfl⟩
  · constructor
    · rintro ⟨_, _, rfl, rfl, inner, _, rfl, hinner, _, _, rfl, rfl, rfl⟩
      exact ⟨inner, rfl, hinner⟩
    · rintro ⟨inner, rfl, hinner⟩
      exact ⟨[0x28], _, rfl, rfl, inner, _, rfl, hinner, [0x29], [], rfl, rfl, rfl⟩

/-- What the expression matches after the name. -/
theorem reads_parameters : Reads t HeaderPattern.parameters fun _ part after =>
    ∃ blanks inner trailing, part = blanks ++ 0x28 :: (inner ++ 0x29 :: trailing) ∧
      (∀ c ∈ blanks, c.isBlank = true) ∧ Enclosed inner ∧ (∀ c ∈ trailing, c.isBlank = true) ∧
      after = [] := by
  have hinner : Reads t (HeaderPattern.anyNumber HeaderPattern.parameterPart) fun _ part _ =>
      Enclosed part :=
    (reads_parameterPart.loop fun _ _ h => h.ne_nil rfl).of_iff fun _ _ _ =>
      repeats_isParameterPart_iff
  refine (reads_blanks.seq ((Reads.char 0x28).seq (hinner.seq ((Reads.char 0x29).seq
    (reads_blanks.seq (Reads.stop.seq Reads.empty)))))).of_iff fun before part after => ?_
  constructor
  · rintro ⟨blanks, _, rfl, hblank, _, _, rfl, rfl, inner, _, rfl, hinner, _, _, rfl, rfl,
      trailing, _, rfl, htrailing, _, _, rfl, ⟨rfl, hafter⟩, rfl⟩
    exact ⟨blanks, inner, trailing, by simp, hblank, hinner, htrailing, by simpa using hafter⟩
  · rintro ⟨blanks, inner, trailing, rfl, hblank, hinner, htrailing, rfl⟩
    exact ⟨blanks, _, rfl, hblank, [0x28], _, rfl, rfl, inner, _, rfl, hinner, [0x29], _, rfl, rfl,
      trailing, [], by simp, htrailing, [], [], rfl, ⟨rfl, rfl⟩, rfl⟩

end Patterns

/-! ## The leftmost match -/

/-- A match of the expression that starts after `before`. -/
structure HeaderMatch (t before name blanks inner trailing : Text) : Prop where
  text_eq : t = before ++ name ++ blanks ++ 0x28 :: (inner ++ 0x29 :: trailing)
  name : IsIdentifier name
  blank : ∀ c ∈ blanks, c.isBlank = true
  enclosed : Enclosed inner
  trailing : ∀ c ∈ trailing, c.isBlank = true

theorem leftmost_headerPattern (t : Text) :
    Pattern.Leftmost (fun before m => ∃ name blanks inner trailing,
        HeaderMatch t before name blanks inner trailing ∧
        m = ⟨name ++ (blanks ++ 0x28 :: (inner ++ 0x29 :: trailing)), [some name]⟩)
      (headerPattern.find? t) := by
  refine (Pattern.leftmost_find?_of_group reads_identifier reads_parameters).of_iff
    fun before m => ?_
  constructor
  · rintro ⟨name, _, _, htext, hname,
      ⟨blanks, inner, trailing, rfl, hblank, hinner, htrailing, rfl⟩, rfl⟩
    exact ⟨name, blanks, inner, trailing, ⟨by simpa using htext, hname, hblank, hinner, htrailing⟩,
      rfl⟩
  · rintro ⟨name, blanks, inner, trailing, h, rfl⟩
    exact ⟨name, _, [], by simpa using h.text_eq, h.name,
      ⟨blanks, inner, trailing, rfl, h.blank, h.enclosed, h.trailing, rfl⟩, rfl⟩

/-- Digits may stand before the leftmost match, but nothing else that belongs to the word. -/
theorem exists_nameParts {before name blanks : Text} (hname : IsIdentifier name)
    (hblank : ∀ c ∈ blanks, c.isBlank = true)
    (hleft : ∀ front word, before ++ name = front ++ word → IsIdentifier word →
      before.length ≤ front.length) :
    ∃ front digits, NameParts (before ++ name ++ blanks) front digits name blanks := by
  obtain ⟨front, run, rfl, hrun, hmaximal⟩ := Text.exists_last_run CodeUnit.isWord before
  have hdigit : ∀ c ∈ run, c.isDigit = true := by
    intro c hc
    by_contra hnot
    obtain ⟨digits, word, rfl⟩ := List.append_of_mem hc
    have hword : IsIdentifier (c :: (word ++ name)) := by
      obtain ⟨-, hrun⟩ := List.forall_mem_append.1 hrun
      obtain ⟨hc, hrun⟩ := List.forall_mem_cons.1 hrun
      exact isIdentifier_cons_iff.2 ⟨⟨hc, by simpa using hnot⟩,
        List.forall_mem_append.2 ⟨hrun, hname.word⟩⟩
    -- the match could start at this letter
    have hle := hleft (front ++ digits) (c :: (word ++ name)) (by simp) hword
    simp only [List.length_append, List.length_cons] at hle
    omega
  exact ⟨front, run, by simp, hblank, List.forall_mem_append.2 ⟨hrun, hname.word⟩, hmaximal,
    hdigit, hname.letter, hname.ne_nil⟩

/-- The name at the end of a text. -/
def nameBefore (t : Text) : Text :=
  ((t.reverse.dropWhile CodeUnit.isBlank).takeWhile CodeUnit.isWord).reverse.dropWhile
    CodeUnit.isDigit

theorem NameParts.nameBefore_eq {t front digits name blanks : Text}
    (h : NameParts t front digits name blanks) : nameBefore t = name := by
  have ht : t.reverse = blanks.reverse ++ ((digits ++ name).reverse ++ front.reverse) := by
    rw [h.text_eq]
    simp
  have hword : ∀ c ∈ (digits ++ name).reverse, c.isWord = true := fun c hc =>
    h.word c (List.mem_reverse.1 hc)
  -- the word is not empty, so the blanks end with it
  have hlast : ∀ c ∈ ((digits ++ name).reverse ++ front.reverse).head?, c.isBlank = false := by
    obtain ⟨c, rest, hcons⟩ := List.exists_cons_of_ne_nil (l := (digits ++ name).reverse)
      (by simp [h.ne_nil])
    rw [hcons, List.cons_append, List.head?_cons]
    intro d hd
    obtain rfl := Option.mem_some_iff.1 hd
    exact CodeUnit.not_isBlank_of_isWord (hword c (by simp [hcons]))
  have hblanks := (Text.run_iff (p := CodeUnit.isBlank)).2 ⟨ht, by simpa using h.blank, hlast⟩
  have hrun := (Text.run_iff (p := CodeUnit.isWord)).2
    ⟨hblanks.2, hword, by simpa [List.head?_reverse] using h.maximal⟩
  have hdigits := (Text.run_iff (p := CodeUnit.isDigit)).2 ⟨rfl, h.digit, h.letter⟩
  rw [nameBefore, hrun.1, List.reverse_reverse, hdigits.2]

theorem nameParts_nameBefore {t : Text} (h : nameBefore t ≠ []) :
    ∃ front digits blanks, NameParts t front digits (nameBefore t) blanks := by
  obtain ⟨ht, hblank, -⟩ := (Text.run_iff (p := CodeUnit.isBlank) (t := t.reverse)).1 ⟨rfl, rfl⟩
  obtain ⟨hrest, hword, hmaximal⟩ := (Text.run_iff (p := CodeUnit.isWord)
    (t := t.reverse.dropWhile CodeUnit.isBlank)).1 ⟨rfl, rfl⟩
  obtain ⟨hdigits, hdigit, hletter⟩ := (Text.run_iff (p := CodeUnit.isDigit)
    (t := ((t.reverse.dropWhile CodeUnit.isBlank).takeWhile CodeUnit.isWord).reverse)).1 ⟨rfl, rfl⟩
  rw [← nameBefore] at hdigits hletter
  refine ⟨((t.reverse.dropWhile CodeUnit.isBlank).dropWhile CodeUnit.isWord).reverse, _,
    (t.reverse.takeWhile CodeUnit.isBlank).reverse, ?_, by simpa using hblank, ?_, ?_, hdigit,
    hletter, h⟩
  · rw [← hdigits, ← List.reverse_append, ← hrest, ← List.reverse_append, ← ht,
      List.reverse_reverse]
  · rw [← hdigits]
    simpa using hword
  · simpa [List.getLast?_reverse] using hmaximal

theorem endsInList_iff {t name : Text} :
    EndsInList t name ↔ ∃ before inner, t = before ++ 0x28 :: (inner ++ [0x29]) ∧
      Closes 0 inner ∧ nameBefore before = name ∧ name ≠ [] := by
  constructor
  · rintro ⟨before, inner, htext, hinner, front, digits, blanks, hname⟩
    exact ⟨before, inner, htext, closes_zero_iff.2 hinner, hname.nameBefore_eq, hname.ne_nil⟩
  · rintro ⟨before, inner, htext, hinner, rfl, hne⟩
    exact ⟨before, inner, htext, closes_zero_iff.1 hinner, nameParts_nameBefore hne⟩

theorem EndsInList.unique {t name name' : Text} (h : EndsInList t name)
    (h' : EndsInList t name') : name = name' := by
  obtain ⟨before, inner, rfl, hinner, front, digits, blanks, hname⟩ := h
  obtain ⟨before', inner', heq, hinner', front', digits', blanks', hname'⟩ := h'
  rw [← List.cons_append, ← List.cons_append, ← List.append_assoc, ← List.append_assoc] at heq
  obtain ⟨rfl, -⟩ := hinner.unique hinner' (List.append_cancel_right heq)
  rw [← hname.nameBefore_eq, hname'.nameBefore_eq]

/-! ## Names -/

theorem EndsInList.exists_match {t name : Text} (h : EndsInList t name) :
    ∃ before blanks inner, HeaderMatch t before name blanks inner [] := by
  obtain ⟨_, inner, rfl, hinner, front, digits, blanks, hname⟩ := h
  obtain ⟨-, hword⟩ := List.forall_mem_append.1 hname.word
  refine ⟨front ++ digits, blanks, inner, ?_, ⟨hword, hname.letter, hname.ne_nil⟩, hname.blank,
    hinner, by simp⟩
  rw [hname.text_eq, ← List.append_assoc front]

theorem HeaderMatch.endsInList {t before name blanks inner trailing : Text}
    (h : HeaderMatch t before name blanks inner trailing)
    (htrim : ∀ c ∈ t.getLast?, c.isBlank = false)
    (hleft : ∀ front word, HeaderMatch t front word blanks inner trailing →
      before.length ≤ front.length) : EndsInList t name := by
  have htrailing : trailing = [] := by
    rcases List.eq_nil_or_concat trailing with hnil | ⟨rest, c, rfl⟩
    · exact hnil
    · have hblank : c.isBlank = true := h.trailing c (by simp)
      have hlast : t.getLast? = some c := by
        rw [List.getLast?_eq_some_iff]
        exact ⟨before ++ name ++ blanks ++ 0x28 :: (inner ++ 0x29 :: rest), by simp [h.text_eq]⟩
      rw [htrim c hlast] at hblank
      cases hblank
  subst htrailing
  refine ⟨before ++ name ++ blanks, inner, h.text_eq, h.enclosed, ?_⟩
  obtain ⟨front, digits, hparts⟩ := exists_nameParts h.name h.blank fun front word heq hword =>
    hleft front word ⟨heq ▸ h.text_eq, hword, h.blank, h.enclosed, h.trailing⟩
  exact ⟨front, digits, blanks, hparts⟩

/-- What the group of the leftmost match holds. -/
theorem group_find?_eq_some_iff {t name : Text} (htrim : ∀ c ∈ t.getLast?, c.isBlank = false) :
    (headerPattern.find? t).bind (fun found => found.group? 1) = some name ↔
      EndsInList t name := by
  have hleftmost := leftmost_headerPattern t
  cases hfind : headerPattern.find? t with
  | none =>
    rw [hfind] at hleftmost
    constructor
    · intro h
      cases h
    · intro h
      obtain ⟨before, blanks, inner, hmatch⟩ := h.exists_match
      exact (hleftmost before _ ⟨name, blanks, inner, [], hmatch, rfl⟩).elim
  | some m =>
    rw [hfind] at hleftmost
    obtain ⟨before, ⟨word, blanks, inner, trailing, hmatch, rfl⟩, hfirst⟩ := hleftmost
    have hword : EndsInList t word := hmatch.endsInList htrim fun front word hother =>
      hfirst front _ ⟨word, blanks, inner, trailing, hother, rfl⟩
    constructor
    · intro h
      obtain rfl : word = name := Option.some.inj h
      exact hword
    · intro h
      exact congrArg some (hword.unique h)

theorem trimEnd_cleanHeader (header : Text) :
    (cleanHeader header).trimEnd = cleanHeader header :=
  List.rdropWhile_idempotent CodeUnit.isBlank _

theorem not_isBlank_getLast?_cleanHeader (header : Text) :
    ∀ c ∈ (cleanHeader header).getLast?, c.isBlank = false := by
  rw [cleanHeader, Text.trimEnd, List.getLast?_reverse]
  exact (Text.run_iff.1 ⟨rfl, rfl⟩).2.2

theorem not_endsInList_of_endsWith {t name : Text} (h : t.endsWith "=" = true) :
    ¬ EndsInList t name := by
  rintro ⟨before, inner, rfl, -⟩
  obtain ⟨front, heq⟩ := List.isSuffixOf_iff_suffix.1 h
  have hlast : front ++ ("=" : Text) = (before ++ 0x28 :: inner) ++ [0x29] := by
    rw [heq, List.append_assoc, List.cons_append]
  exact absurd (List.append_inj_right' hlast rfl) (by decide)

theorem functionName_eq_some_iff {header name : Text} :
    functionName header = some name ↔ DeclaresFunction (cleanHeader header) name := by
  rw [functionName, trimEnd_cleanHeader]
  split_ifs with hequals
  · constructor
    · intro h
      cases h
    · intro h
      exact (not_endsInList_of_endsWith hequals h.parts).elim
  · rw [Option.filter_eq_some_iff,
      group_find?_eq_some_iff (not_isBlank_getLast?_cleanHeader header)]
    constructor
    · rintro ⟨hparts, hname⟩
      exact ⟨hparts, by simpa using hname⟩
    · rintro ⟨hparts, hname⟩
      exact ⟨hparts, by simpa using hname⟩

/-- A header gives a name exactly if it ends, comments, a final attribute and blanks left out, in
that name and a parameter list. The expression that finds the name is the one written out here. -/
theorem functionName_by_grammar (header : Text) :
    Pattern.compile? "([A-Za-z_]\\w*)\\s*\\((?:[^()]|\\([^()]*\\))*\\)\\s*$" [] =
        some headerPattern ∧
      (∀ name, functionName header = some name ↔ DeclaresFunction (cleanHeader header) name) ∧
      (functionName header = none ↔ ¬ ∃ name, DeclaresFunction (cleanHeader header) name) := by
  refine ⟨by decide +kernel, fun name => functionName_eq_some_iff, ?_⟩
  rw [Option.eq_none_iff_forall_ne_some, not_exists]
  exact forall_congr' fun name => not_congr functionName_eq_some_iff

example : functionName "g(1) 2f (int (*h)(int))" = some "f" := by decide +kernel

end Remedy.Code
