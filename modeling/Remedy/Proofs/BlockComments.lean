import Remedy.Proofs.ReadingModes

/-!
# Code and block comments

Where the block comments of a text are is a matter of comments and literals only: a directive is
text like any other to `Layer`, and a comment that begins in a directive goes on until its closing
mark. The reader of code knows directives as well and forgets about a comment when the directive
ends in which it began. As long as no directive has ended in a comment, both readers go along with
each other (`alongside_of_unbroken`) and no code lies in a comment; after a directive that ended in
one, the next thing that is read is code in that comment (`code_outside_comments`).
-/

namespace Remedy.Code

/-- What a unit of a text belongs to, directives left out of account. -/
inductive Layer where
  | plain
  | lineComment
  /-- A block comment whose opening star comes next. -/
  | opening
  /-- A block comment, after a star that may close it if `star`. -/
  | blockComment (star : Bool)
  /-- A literal, after a backslash if `escaped`. -/
  | literal (quote : CodeUnit) (escaped : Bool)
  deriving DecidableEq, Repr

namespace Layer

def next (c : CodeUnit) (ahead : Option CodeUnit) : Layer → Layer
  | .plain =>
    if c = '/' ∧ ahead = some 0x2F then .lineComment
    else if c = '/' ∧ ahead = some 0x2A then .opening
    else if c = 0x22 ∨ c = 0x27 then .literal c false
    else .plain
  | .lineComment => if c = 0x0A then .plain else .lineComment
  | .opening => .blockComment false
  | .blockComment star => if star && c == '/' then .plain else .blockComment (c == '*')
  | .literal quote escaped =>
    if escaped then .literal quote false
    else if c = 0x5C then .literal quote true
    else if c = quote ∨ c = 0x0A then .plain
    else .literal quote false

def inComment : Layer → Bool
  | .opening => true
  | .blockComment _ => true
  | _ => false

end Layer

def layerAt (t : Text) (i : Nat) : Layer := stateAt Layer.next .plain t i

/-- The unit at an offset belongs to a block comment, its marks included. -/
def InBlockComment (t : Text) (i : Nat) : Prop :=
  (layerAt t i).inComment = true ∨ layerAt t (i + 1) = .opening

/-- The line feed at an offset ends a directive. -/
def EndsDirective (t : Text) (k : Nat) : Prop :=
  modeAt t k = .directive .nothing ∧ t[k]? = some 0x0A

instance (t : Text) (i : Nat) : Decidable (InBlockComment t i) :=
  inferInstanceAs (Decidable (_ ∨ _))

instance (t : Text) (k : Nat) : Decidable (EndsDirective t k) :=
  inferInstanceAs (Decidable (_ ∧ _))

/-! ## Both readers side by side -/

/-- A mode and a layer that both readers can be in at the same place. In a directive the layer may
be any, but a literal is carried on to the next line only if the directive is. -/
inductive Alongside : Mode → Layer → Prop where
  | code (atStart : Bool) : Alongside (.code atStart) .plain
  | directive {carry : Carry} {layer : Layer}
      (h : ∀ quote, layer = .literal quote true → carry = .backslash) :
      Alongside (.directive carry) layer
  | lineComment : Alongside .lineComment .lineComment
  | opening : Alongside .commentOpening .opening
  | blockComment (star : Bool) : Alongside (.blockComment star) (.blockComment star)
  | literal (quote : CodeUnit) (escaped : Bool) :
      Alongside (.literal quote escaped) (.literal quote escaped)

theorem Layer.next_plain {c : CodeUnit} {ahead : Option CodeUnit} (hslash : c ≠ '/')
    (hquote : ¬ (c = 0x22 ∨ c = 0x27)) : Layer.next c ahead .plain = .plain := by
  rw [Layer.next, if_neg fun h => hslash h.1, if_neg fun h => hslash h.1, if_neg hquote]

/-- A backslash that escapes the next unit of a literal has just been read. -/
theorem Layer.eq_backslash_of_next {layer : Layer} {c quote : CodeUnit} {ahead : Option CodeUnit}
    (h : layer.next c ahead = .literal quote true) : c = 0x5C := by
  cases layer <;> simp only [Layer.next] at h <;> grind

/-- Where a directive ends outside comments, both readers go on in code. -/
theorem Layer.next_lf {layer : Layer} {ahead : Option CodeUnit} (hcomment : layer.inComment = false)
    (hliteral : ∀ quote, layer ≠ .literal quote true) : layer.next 0x0A ahead = .plain := by
  cases layer with
  | plain => simp [Layer.next]
  | lineComment => simp [Layer.next]
  | opening => simp [Layer.inComment] at hcomment
  | blockComment star => simp [Layer.inComment] at hcomment
  | literal quote escaped =>
    cases escaped with
    | false => simp [Layer.next]
    | true => exact absurd rfl (hliteral quote)

theorem Alongside.next {mode : Mode} {layer : Layer} {c : CodeUnit} {ahead : Option CodeUnit}
    (h : Alongside mode layer)
    (hend : mode = .directive .nothing → c = 0x0A → layer.inComment = false) :
    Alongside (mode.next c ahead) (layer.next c ahead) := by
  cases h with
  | code atStart =>
    rw [Mode.next]
    split_ifs with hlf hblank hdirective hline hblock hquote
    · rw [Layer.next_plain (by simp [hlf]) (by simp [hlf])]
      exact .code true
    · rw [Layer.next_plain (by rintro rfl; simp [isBlank] at hblank)
        (by rintro (rfl | rfl) <;> simp [isBlank] at hblank)]
      exact .code atStart
    · have hhash : c = 0x23 := by simpa using (Bool.and_eq_true_iff.1 hdirective).2
      rw [Layer.next_plain (by simp [hhash]) (by simp [hhash])]
      exact .directive (by simp)
    · rw [Layer.next, if_pos hline]
      exact .lineComment
    · rw [Layer.next, if_neg hline, if_pos hblock]
      exact .opening
    · rw [Layer.next, if_neg hline, if_neg hblock, if_pos hquote]
      exact .literal c false
    · rw [Layer.next, if_neg hline, if_neg hblock, if_neg hquote]
      exact .code false
  | @directive carry layer h =>
    rw [Mode.next]
    split_ifs with hlf
    · obtain ⟨rfl, rfl⟩ := hlf
      rw [Layer.next_lf (hend rfl rfl) fun quote hquote => by simpa using h quote hquote]
      exact .code true
    · refine .directive fun quote hquote => ?_
      rw [Layer.eq_backslash_of_next hquote]
      rfl
  | lineComment =>
    by_cases hlf : c = 0x0A
    · simpa [Mode.next, Layer.next, hlf] using Alongside.code true
    · simpa [Mode.next, Layer.next, hlf] using Alongside.lineComment
  | opening => exact .blockComment false
  | blockComment star =>
    rw [Mode.next, Layer.next]
    split_ifs
    · exact .code false
    · exact .blockComment _
  | literal quote escaped =>
    cases escaped with
    | true => exact .literal quote false
    | false =>
      by_cases hbackslash : c = 0x5C
      · simpa [Mode.next, Layer.next, hbackslash] using Alongside.literal quote true
      by_cases hquote : c = quote
      · subst hquote
        simpa [Mode.next, Layer.next, hbackslash] using Alongside.code false
      by_cases hlf : c = 0x0A
      · subst hlf
        simpa [Mode.next, Layer.next, hquote] using Alongside.code true
      · simpa [Mode.next, Layer.next, hbackslash, hquote, hlf] using Alongside.literal quote false

theorem alongside_of_unbroken {t : Text} {i : Nat} (hi : i ≤ t.length)
    (h : ∀ k < i, EndsDirective t k → ¬ InBlockComment t k) :
    Alongside (modeAt t i) (layerAt t i) := by
  induction i with
  | zero =>
    rw [modeAt, layerAt, stateAt_zero, stateAt_zero]
    exact .code true
  | succ i ih =>
    have hc : t[i]? = some t[i] := List.getElem?_eq_getElem hi
    rw [modeAt, layerAt, stateAt_succ hc, stateAt_succ hc]
    refine (ih (Nat.le_of_lt hi) fun k hk => h k (Nat.lt_succ_of_lt hk)).next fun hmode hlf => ?_
    have hout : ¬ InBlockComment t i := h i (Nat.lt_succ_self i) ⟨hmode, hc.trans (by rw [hlf])⟩
    exact Bool.eq_false_iff.2 fun hin => hout (.inl hin)

/-! ## Code in comments -/

theorem Mode.exists_code_of_yields {mode : Mode} {c : CodeUnit} {ahead : Option CodeUnit}
    (h : mode.yields c ahead = true) : ∃ atStart, mode = .code atStart := by
  cases mode with
  | code atStart => exact ⟨atStart, rfl⟩
  | _ => simp [Mode.yields] at h

/-- What is code opens no comment. -/
theorem Layer.next_ne_opening {mode : Mode} {c : CodeUnit} {ahead : Option CodeUnit}
    (h : mode.yields c ahead = true) : Layer.next c ahead .plain ≠ .opening := by
  obtain ⟨atStart, rfl⟩ := Mode.exists_code_of_yields h
  simp only [Mode.yields] at h
  rw [Layer.next]
  grind

theorem not_inBlockComment_of_unbroken {t : Text} {i : Nat} (hi : i ∈ codeIndices t)
    (h : ∀ k < i, EndsDirective t k → ¬ InBlockComment t k) : ¬ InBlockComment t i := by
  obtain ⟨c, hc, hyields⟩ := mem_codeIndices_iff.1 hi
  have hlt : i < t.length := (List.getElem?_eq_some_iff.1 hc).1
  have halong := alongside_of_unbroken (Nat.le_of_lt hlt) h
  obtain ⟨atStart, hmode⟩ := Mode.exists_code_of_yields hyields
  have hlayer : layerAt t i = .plain := by
    rw [hmode] at halong
    generalize layerAt t i = layer at halong
    cases halong
    rfl
  rintro (hin | hopening)
  · simp [hlayer, Layer.inComment] at hin
  · rw [layerAt, stateAt_succ hc, ← layerAt, hlayer] at hopening
    exact Layer.next_ne_opening hyields hopening

/-- A comment that is open at the end of a line stays open. -/
theorem Layer.next_lf_of_inComment {layer : Layer} {ahead : Option CodeUnit}
    (h : layer.inComment = true) : layer.next 0x0A ahead = .blockComment false := by
  cases layer with
  | opening => rfl
  | blockComment star => simp [Layer.next]
  | _ => simp [Layer.inComment] at h

theorem Layer.next_lf_ne_opening (layer : Layer) (ahead : Option CodeUnit) :
    layer.next 0x0A ahead ≠ .opening := by
  cases layer <;> simp only [Layer.next] <;> grind

/-- After a directive that ended in a comment, one reader is at the start of a line of code and the
other still in the comment, as long as there are only blanks. -/
theorem modes_after_broken_directive {t : Text} {k j : Nat} (hend : EndsDirective t k)
    (hin : InBlockComment t k) (hkj : k < j)
    (hblanks : ∀ m, k < m → m < j → ∃ c ∈ t[m]?, c = 0x0A ∨ isBlank c = true) :
    modeAt t j = .code true ∧ ∃ star, layerAt t j = .blockComment star := by
  induction hkj with
  | refl =>
    have hmode : modeAt t (k + 1) = .code true := by
      rw [modeAt, stateAt_succ hend.2, ← modeAt, hend.1]
      rfl
    have hstep : layerAt t (k + 1) = (layerAt t k).next 0x0A t[k + 1]? := stateAt_succ hend.2
    rcases hin with hin | hopening
    · exact ⟨hmode, false, hstep.trans (Layer.next_lf_of_inComment hin)⟩
    · exact absurd (hstep.symm.trans hopening) (Layer.next_lf_ne_opening _ _)
  | @step j hkj ih =>
    obtain ⟨hmode, star, hlayer⟩ := ih fun m hk hm => hblanks m hk (Nat.lt_succ_of_lt hm)
    obtain ⟨c, hc, hblank⟩ := hblanks j hkj (Nat.lt_succ_self j)
    have hslash : c ≠ 0x2F := by rintro rfl; simp [isBlank] at hblank
    rw [modeAt, layerAt, stateAt_succ hc, stateAt_succ hc, ← modeAt, ← layerAt, hmode, hlayer]
    refine ⟨?_, c == 0x2A, by simp [Layer.next, hslash]⟩
    rcases hblank with rfl | hblank
    · rfl
    · simp [Mode.next, hblank]

/-- Code lies in a block comment only after a directive has ended in one. After such a directive it
does: the next unit that is not blank is code in the comment, unless it opens a directive or a
comment itself. -/
theorem code_outside_comments (t : Text) :
    (∀ i ∈ codeIndices t, (∀ k < i, EndsDirective t k → ¬ InBlockComment t k) →
      ¬ InBlockComment t i) ∧
    ∀ k j, EndsDirective t k → InBlockComment t k → k < j →
      (∀ m, k < m → m < j → ∃ c ∈ t[m]?, c = 0x0A ∨ isBlank c = true) →
      (∃ c ∈ t[j]?, (Mode.code true).yields c t[j + 1]? = true) →
      j ∈ codeIndices t ∧ InBlockComment t j := by
  refine ⟨fun i hi h => not_inBlockComment_of_unbroken hi h, ?_⟩
  rintro k j hend hin hkj hblanks ⟨c, hc, hyields⟩
  obtain ⟨hmode, star, hlayer⟩ := modes_after_broken_directive hend hin hkj hblanks
  refine ⟨mem_codeIndices_iff.2 ⟨c, hc, hmode ▸ hyields⟩, .inl ?_⟩
  rw [hlayer]
  rfl

/-- A comment that ends on the line of its directive, before code and another comment. -/
def closedComment : Text := "#define A /* \x7b */\nint a; /* \x7b */\n"

/-- A comment that goes on after the line of its directive. -/
def openComment : Text := "#define A /*\n  \x7b */\n"

theorem code_outside_comments_directives :
    (EndsDirective closedComment 17 ∧ 23 ∈ codeIndices closedComment ∧
      ¬ InBlockComment closedComment 23) ∧
    EndsDirective openComment 12 ∧ InBlockComment openComment 12 ∧
      15 ∈ codeIndices openComment ∧ InBlockComment openComment 15 := by
  have hclosed : ∀ k < 23, EndsDirective closedComment k → ¬ InBlockComment closedComment k := by
    decide
  have hblanks : ∀ m, 12 < m → m < 15 → ∃ c ∈ openComment[m]?, c = 0x0A ∨ isBlank c = true := by
    intro m hlt hgt
    obtain rfl | rfl : m = 13 ∨ m = 14 := by omega
    · exact ⟨0x20, rfl, by decide⟩
    · exact ⟨0x20, rfl, by decide⟩
  exact ⟨⟨by decide, by decide, (code_outside_comments closedComment).1 23 (by decide) hclosed⟩,
    by decide, by decide, (code_outside_comments openComment).2 12 15 (by decide) (by decide)
      (by decide) hblanks ⟨0x7B, rfl, by decide⟩⟩

/-- The brace in the comment is taken for code. -/
theorem code_in_open_comment : ∃ i ∈ codeIndices openComment, InBlockComment openComment i :=
  ⟨15, by decide, by decide⟩

end Remedy.Code
