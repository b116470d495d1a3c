import Mathlib.Data.List.TakeWhile
import Remedy.Proofs.Texts
import Remedy.Scan.Rule

/-!
# Words of a text

A word is a maximal run of word units (`WordAt`). The searches for words go through a text unit by
unit and remember whether the unit before belongs to a word. `exists_wordAt_cons_iff` says what one
such step does to the words of a text, and `hasWord_iff` what the search finds. No word crosses a
unit that is not of a word (`hasWord_append_cons`).
-/

namespace Remedy.Scan

/-- A maximal run of word units, with what stands before it and after it. -/
structure WordAt (t before word after : Text) : Prop where
  text_eq : t = before ++ (word ++ after)
  ne_nil : word ≠ []
  word : ∀ c ∈ word, c.isWord = true
  left : ∀ c ∈ before.getLast?, c.isWord = false
  right : ∀ c ∈ after.head?, c.isWord = false

namespace WordAt

variable {t before word after : Text} {c : CodeUnit}

/-- The word a text starts with. -/
theorem head_iff : WordAt (c :: t) [] word after ↔
    c.isWord = true ∧ word = (c :: t).takeWhile CodeUnit.isWord ∧
      after = (c :: t).dropWhile CodeUnit.isWord := by
  constructor
  · rintro ⟨htext, hne, hword, -, hright⟩
    rw [List.nil_append] at htext
    obtain ⟨hrun, hrest⟩ := (Text.run_iff (p := CodeUnit.isWord)).2 ⟨htext, hword, hright⟩
    refine ⟨?_, hrun.symm, hrest.symm⟩
    by_contra hc
    exact hne (by rw [← hrun, List.takeWhile_cons_of_neg hc])
  · rintro ⟨hc, rfl, rfl⟩
    obtain ⟨htext, hword, hright⟩ :=
      (Text.run_iff (p := CodeUnit.isWord) (t := c :: t)).1 ⟨rfl, rfl⟩
    exact ⟨htext, by simp [hc], hword, by simp, hright⟩

/-- A word of a text is a word of a longer one, if the unit put before it does not extend it. -/
theorem cons_iff : WordAt (c :: t) (c :: before) word after ↔
    WordAt t before word after ∧ (before = [] → c.isWord = false) := by
  constructor
  · rintro ⟨htext, hne, hword, hleft, hright⟩
    cases before with
    | nil => exact ⟨⟨List.cons.inj htext |>.2, hne, hword, by simp, hright⟩, by simpa using hleft⟩
    | cons d before =>
      rw [List.getLast?_cons_cons] at hleft
      exact ⟨⟨List.cons.inj htext |>.2, hne, hword, hleft, hright⟩, by simp⟩
  · rintro ⟨⟨htext, hne, hword, hleft, hright⟩, hc⟩
    refine ⟨by rw [htext]; rfl, hne, hword, ?_, hright⟩
    cases before with
    | nil => simpa using hc rfl
    | cons d before => rwa [List.getLast?_cons_cons]

theorem not_nil : ¬ WordAt [] before word after := fun h => by
  have := h.text_eq
  simp [h.ne_nil] at this

end WordAt

/-- Blanks and a unit that is not of a word do not go on with a word. -/
theorem not_isWord_of_blanks {blanks : Text} (h : ∀ c ∈ blanks, c.isBlank = true) {d : CodeUnit}
    (hd : d.isWord = false) (after : Text) :
    ∀ c ∈ (blanks ++ d :: after).head?, c.isWord = false := by
  intro c hc
  cases blanks with
  | nil =>
    obtain rfl : d = c := by simpa using hc
    exact hd
  | cons b blanks =>
    obtain rfl : b = c := by simpa using hc
    by_contra hword
    have := CodeUnit.not_isBlank_of_isWord (Bool.not_eq_false _ ▸ hword)
    simp [h b List.mem_cons_self] at this

/-- The words of a text that starts with a word. -/
theorem wordAt_append_iff {run rest front word after : Text} (hne : run ≠ [])
    (hrun : ∀ c ∈ run, c.isWord = true) (hrest : ∀ c ∈ rest.head?, c.isWord = false) :
    WordAt (run ++ rest) front word after ↔
      front = [] ∧ word = run ∧ after = rest ∨
        ∃ front', front = run ++ front' ∧ WordAt rest front' word after := by
  constructor
  · intro h
    rcases List.append_eq_append_iff.1 h.text_eq with ⟨front, hfront, htext⟩ | ⟨mid, hmid, htext⟩
    · refine .inr ⟨front, hfront, htext, h.ne_nil, h.word, fun c hc => h.left c ?_, h.right⟩
      simp_all [List.getLast?_append]
    · -- a unit of the run before the word would go on with it
      obtain rfl : front = [] := by
        by_contra hnil
        have hlast := h.left _ (List.getLast?_eq_some_getLast hnil)
        simp [hrun (front.getLast hnil) (by simp [hmid])] at hlast
      obtain rfl : run = mid := hmid
      have hleft := (Text.run_iff (p := CodeUnit.isWord)).2 ⟨htext, hrun, hrest⟩
      have hright := (Text.run_iff (p := CodeUnit.isWord)).2 ⟨rfl, h.word, h.right⟩
      exact .inl ⟨rfl, hright.1.symm.trans hleft.1, hright.2.symm.trans hleft.2⟩
  · rintro (⟨rfl, rfl, rfl⟩ | ⟨front, rfl, h⟩)
    · exact ⟨rfl, hne, hrun, by simp, hrest⟩
    · refine ⟨by rw [h.text_eq, List.append_assoc], h.ne_nil, h.word, ?_, h.right⟩
      cases front with
      | nil =>
        obtain ⟨c, word, rfl⟩ := List.exists_cons_of_ne_nil h.ne_nil
        have hc := hrest c (by simp [h.text_eq])
        simp [h.word c List.mem_cons_self] at hc
      | cons d front =>
        have := h.left
        simpa [List.getLast?_append] using this

/-- The words of a text are the one that starts with its first unit, if that one starts a word, and
those of the rest that it does not belong to. -/
theorem exists_wordAt_cons_iff {P : Text → Text → Text → Prop} {inWord : Bool} {c : CodeUnit}
    {t : Text} :
    (∃ before word after, WordAt (c :: t) before word after ∧ (before = [] → inWord = false) ∧
        P before word after) ↔
      (inWord = false ∧ c.isWord = true ∧
        P [] ((c :: t).takeWhile CodeUnit.isWord) ((c :: t).dropWhile CodeUnit.isWord)) ∨
      ∃ before word after, WordAt t before word after ∧ (before = [] → c.isWord = false) ∧
        P (c :: before) word after := by
  constructor
  · rintro ⟨before, word, after, hword, hin, h⟩
    cases before with
    | nil =>
      obtain ⟨hc, rfl, rfl⟩ := WordAt.head_iff.1 hword
      exact .inl ⟨hin rfl, hc, h⟩
    | cons d before =>
      obtain rfl : c = d := (List.cons.inj hword.text_eq).1
      obtain ⟨hword, hc⟩ := WordAt.cons_iff.1 hword
      exact .inr ⟨before, word, after, hword, hc, h⟩
  · rintro (⟨hin, hc, h⟩ | ⟨before, word, after, hword, hc, h⟩)
    · exact ⟨[], _, _, WordAt.head_iff.2 ⟨hc, rfl, rfl⟩, fun _ => hin, h⟩
    · exact ⟨c :: before, word, after, WordAt.cons_iff.2 ⟨hword, hc⟩, by simp, h⟩

theorem hasWordFrom_iff {test : Text → Bool} {inWord : Bool} {t : Text} :
    hasWordFrom test inWord t = true ↔ ∃ before word after,
      WordAt t before word after ∧ (before = [] → inWord = false) ∧ test word = true := by
  induction t generalizing inWord with
  | nil => simp [hasWordFrom, WordAt.not_nil]
  | cons c t ih =>
    rw [exists_wordAt_cons_iff, hasWordFrom, Bool.or_eq_true, ih]
    simp [and_assoc]

/-- The search finds a word exactly if there is one that passes the test. -/
theorem hasWord_iff {test : Text → Bool} {t : Text} :
    hasWord test t = true ↔ ∃ before word after, WordAt t before word after ∧ test word = true := by
  simp [hasWord, hasWordFrom_iff]

theorem hasWordFrom_append_cons {test : Text → Bool} {c : CodeUnit} (hc : c.isWord = false)
    (inWord : Bool) (a b : Text) :
    hasWordFrom test inWord (a ++ c :: b) =
      (hasWordFrom test inWord a || hasWordFrom test false b) := by
  induction a generalizing inWord with
  | nil => simp [hasWordFrom, hc]
  | cons d a ih =>
    have hrun : (d :: (a ++ c :: b)).takeWhile CodeUnit.isWord =
        (d :: a).takeWhile CodeUnit.isWord := by
      rw [← List.cons_append]
      by_cases hall : ∀ e ∈ d :: a, e.isWord = true
      · rw [List.takeWhile_append_of_pos hall, List.takeWhile_cons_of_neg (by simp [hc]),
          List.append_nil, List.takeWhile_eq_self_iff.2 hall]
      · rw [List.takeWhile_append, if_neg]
        rw [← List.takeWhile_eq_self_iff] at hall
        exact fun hlength => hall ((List.takeWhile_prefix _).eq_of_length hlength)
    rw [List.cons_append, hasWordFrom, hrun, ih, hasWordFrom, Bool.or_assoc]

/-- A unit that belongs to no word keeps apart the words on its two sides. -/
theorem hasWord_append_cons (test : Text → Bool) {c : CodeUnit} (hc : c.isWord = false)
    (a b : Text) : hasWord test (a ++ c :: b) = (hasWord test a || hasWord test b) :=
  hasWordFrom_append_cons hc false a b

theorem endsWith_iff {word tail : Text} : word.endsWith tail = true ↔ tail <:+ word :=
  List.isSuffixOf_iff_suffix

/-- A text names a release function if one of its words ends in `free`. -/
def NamesRelease (t : Text) : Prop :=
  ∃ before word after, WordAt t before word after ∧ ("free" : Text) <:+ word

theorem hasRelease_iff {t : Text} : hasRelease t = true ↔ NamesRelease t := by
  simp only [hasRelease, hasWord_iff, endsWith_iff, NamesRelease]

end Remedy.Scan
