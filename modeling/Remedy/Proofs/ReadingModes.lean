import Remedy.Proofs.Nesting

/-!
# Reading code unit by unit

The reader of C texts leaps over a directive, a comment or a literal once it has seen the beginning
of it. `Mode` is the state of a reader that never leaps: it takes one unit after another and looks
one unit ahead. Each leap is a run of single steps (`leaps_directive`, `leaps_lineComment`,
`leaps_blockComment`, `leaps_literal`), so both find the same code (`code_eq_codeFollowing`).
`codeIndices_by_modes` says it offset by offset.
-/

namespace Remedy.Code

/-! ## One step -/

/-- The end of what has been read of a directive, as far as it decides whether a line feed ends the
directive. -/
inductive Carry where
  | nothing
  | backslash
  | backslashReturn
  deriving DecidableEq, Repr

/-- What the units being read belong to. -/
inductive Mode where
  /-- Code; only blanks stand before on the line if `atStart`. -/
  | code (atStart : Bool)
  | directive (carry : Carry)
  | lineComment
  /-- A block comment whose opening star comes next. -/
  | commentOpening
  /-- A block comment, after a star that may close it if `star`. -/
  | blockComment (star : Bool)
  /-- A literal, after a backslash if `escaped`. -/
  | literal (quote : CodeUnit) (escaped : Bool)
  deriving DecidableEq, Repr

def Mode.isCode : Mode → Bool
  | .code _ => true
  | _ => false

/-- What a unit of a directive leaves behind. -/
def Carry.next (carry : Carry) (c : CodeUnit) : Carry :=
  if c = 0x5C then .backslash
  else if c = 0x0D ∧ carry = .backslash then .backslashReturn
  else .nothing

/-- The mode after the unit `c`, where `ahead` is the unit that follows it. A line feed that ends
something begins a line, as one in code does. -/
def Mode.next (c : CodeUnit) (ahead : Option CodeUnit) : Mode → Mode
  | .code atStart =>
    if c = 0x0A then .code true
    else if isBlank c then .code atStart
    else if atStart && c == '#' then .directive .nothing
    else if c = '/' ∧ ahead = some 0x2F then .lineComment
    else if c = '/' ∧ ahead = some 0x2A then .commentOpening
    else if c = 0x22 ∨ c = 0x27 then .literal c false
    else .code false
  | .directive carry =>
    if c = 0x0A ∧ carry = .nothing then .code true else .directive (carry.next c)
  | .lineComment => if c = 0x0A then .code true else .lineComment
  | .commentOpening => .blockComment false
  | .blockComment star => if star && c == '/' then .code false else .blockComment (c == '*')
  | .literal quote escaped =>
    if escaped then .literal quote false
    else if c = 0x5C then .literal quote true
    else if c = quote then .code false
    else if c = 0x0A then .code true
    else .literal quote false

/-- In code, on a unit that is not blank and opens neither a directive nor a comment. -/
def Mode.yields (c : CodeUnit) (ahead : Option CodeUnit) : Mode → Bool
  | .code atStart =>
    c != 0x0A && !isBlank c && !(atStart && c == '#') &&
      !(c == '/' && (ahead == some 0x2F || ahead == some 0x2A))
  | _ => false

/-! ## A whole text -/

/-- The state in which a reader comes to an offset of a text that it reads from state `s` on, one
unit at a time and with the unit ahead in view. -/
def stateAt {σ : Type} (next : CodeUnit → Option CodeUnit → σ → σ) (s : σ) : Text → Nat → σ
  | c :: t, k + 1 => stateAt next (next c t.head? s) t k
  | _, _ => s

/-- The mode in which the unit at an offset of a text is read. -/
def modeAt (t : Text) (i : Nat) : Mode := stateAt Mode.next (.code true) t i

theorem stateAt_zero {σ : Type} (next : CodeUnit → Option CodeUnit → σ → σ) (s : σ) (t : Text) :
    stateAt next s t 0 = s := by
  cases t <;> rfl

theorem stateAt_succ {σ : Type} {next : CodeUnit → Option CodeUnit → σ → σ} {s : σ} {t : Text}
    {i : Nat} {c : CodeUnit} (h : t[i]? = some c) :
    stateAt next s t (i + 1) = next c t[i + 1]? (stateAt next s t i) := by
  induction t generalizing s i with
  | nil => simp at h
  | cons d t ih =>
    cases i with
    | zero =>
      obtain rfl : d = c := by simpa using h
      rw [stateAt, stateAt_zero, stateAt_zero, List.head?_eq_getElem?, List.getElem?_cons_succ]
    | succ i => exact ih (by simpa using h)

/-- The code of a text read from offset `i` on in the given mode. -/
def codeFollowing (mode : Mode) (i : Nat) : Text → List (Nat × CodeUnit)
  | [] => []
  | c :: t =>
    let rest := codeFollowing (mode.next c t.head?) (i + 1) t
    if mode.yields c t.head? then (i, c) :: rest else rest

theorem codeFollowing_of_not_yields {mode : Mode} {c : CodeUnit} {t : Text}
    (h : mode.yields c t.head? = false) (i : Nat) :
    codeFollowing mode i (c :: t) = codeFollowing (mode.next c t.head?) (i + 1) t := by
  simp [codeFollowing, h]

/-- Outside code nothing is yielded. -/
theorem codeFollowing_cons {mode : Mode} (h : mode.isCode = false) (i : Nat) (c : CodeUnit)
    (t : Text) :
    codeFollowing mode i (c :: t) = codeFollowing (mode.next c t.head?) (i + 1) t := by
  refine codeFollowing_of_not_yields ?_ i
  cases mode with
  | code atStart => simp [Mode.isCode] at h
  | _ => rfl

/-- The code that is read is what the modes yield. -/
theorem mem_codeFollowing_iff {mode : Mode} {i : Nat} {t : Text} {p : Nat × CodeUnit} :
    p ∈ codeFollowing mode i t ↔
      ∃ k, p.1 = i + k ∧ t[k]? = some p.2 ∧
        (stateAt Mode.next mode t k).yields p.2 t[k + 1]? = true := by
  induction t generalizing mode i with
  | nil => simp [codeFollowing]
  | cons c t ih =>
    have hhead : p ∈ codeFollowing mode i (c :: t) ↔
        p = (i, c) ∧ mode.yields c t.head? = true ∨
          p ∈ codeFollowing (mode.next c t.head?) (i + 1) t := by
      by_cases h : mode.yields c t.head? = true <;> simp [codeFollowing, h]
    rw [hhead, ih]
    constructor
    · rintro (⟨rfl, h⟩ | ⟨k, hk, hc, h⟩)
      · exact ⟨0, rfl, rfl, by simpa [stateAt, List.head?_eq_getElem?] using h⟩
      · exact ⟨k + 1, by omega, by simpa using hc, by simpa [stateAt] using h⟩
    · rintro ⟨k, hk, hc, h⟩
      cases k with
      | zero =>
        obtain ⟨j, d⟩ := p
        obtain rfl : c = d := by simpa using hc
        obtain rfl : j = i := hk
        exact .inl ⟨rfl, by simpa [stateAt, List.head?_eq_getElem?] using h⟩
      | succ k =>
        exact .inr ⟨k, by omega, by simpa using hc, by simpa [stateAt] using h⟩

/-! ## Leaps -/

/-- A leap of the given length is made by single steps: they lead from one mode to another and
yield nothing on the way. -/
def Leaps (mode stop : Mode) (length : Nat) (t : Text) : Prop :=
  ∀ i, codeFollowing mode i t = codeFollowing stop (i + length) (t.drop length)

namespace Leaps

variable {mode next stop : Mode} {length : Nat} {c : CodeUnit} {t : Text}

theorem nil (mode stop : Mode) (length : Nat) : Leaps mode stop length [] := fun _ => by
  simp [codeFollowing]

/-- The step to another mode on a unit outside code. -/
theorem cons (hcode : mode.isCode = false) (hnext : mode.next c t.head? = next)
    (h : Leaps next stop length t) : Leaps mode stop (length + 1) (c :: t) := by
  intro i
  rw [codeFollowing_cons hcode, hnext, h, List.drop_succ_cons, Nat.add_right_comm, Nat.add_assoc]

/-- A line feed that ends something is read as code. -/
theorem lf (hcode : mode.isCode = false)
    (hnext : mode.next 0x0A t.head? = .code true) (atStart : Bool) :
    Leaps mode (.code atStart) 0 (0x0A :: t) := by
  intro i
  have hstop : codeFollowing (.code atStart) i (0x0A :: t) = codeFollowing (.code true) (i + 1) t :=
    codeFollowing_of_not_yields rfl i
  rw [codeFollowing_cons hcode, hnext, ← hstop]
  rfl

/-- Modes that no step tells apart. -/
theorem of_eq {other : Mode} (heq : ∀ i, codeFollowing mode i t = codeFollowing other i t)
    (h : Leaps other stop length t) : Leaps mode stop length t := fun i => (heq i).trans (h i)

end Leaps

/-- A carriage return after a backslash matters only before a line feed. -/
theorem codeFollowing_backslashReturn {t : Text} (h : t.head? ≠ some 0x0A) (i : Nat) :
    codeFollowing (.directive .backslashReturn) i t = codeFollowing (.directive .nothing) i t := by
  cases t with
  | nil => rfl
  | cons c t =>
    have hc : c ≠ 0x0A := by simpa using h
    rw [codeFollowing_cons rfl, codeFollowing_cons rfl]
    simp [Mode.next, Carry.next, hc]

/-- A backslash matters only before a line break. -/
theorem codeFollowing_backslash {t : Text} (hlf : t.head? ≠ some 0x0A)
    (hcrlf : ∀ rest, t ≠ 0x0D :: 0x0A :: rest) (i : Nat) :
    codeFollowing (.directive .backslash) i t = codeFollowing (.directive .nothing) i t := by
  cases t with
  | nil => rfl
  | cons c t =>
    have hc : c ≠ 0x0A := by simpa using hlf
    rw [codeFollowing_cons rfl, codeFollowing_cons rfl]
    by_cases hcr : c = 0x0D
    · subst hcr
      have hhead : t.head? ≠ some 0x0A := by
        intro hhead
        obtain ⟨rest, rfl⟩ := List.head?_eq_some_iff.1 hhead
        exact hcrlf rest rfl
      exact codeFollowing_backslashReturn hhead (i + 1)
    · simp [Mode.next, Carry.next, hc, hcr]

theorem leaps_directive (t : Text) :
    Leaps (.directive .nothing) (.code true) (directiveLength t) t := by
  fun_induction directiveLength t with
  | case1 => exact .nil _ _ _
  | case2 t ih => exact .cons rfl rfl (.cons rfl rfl ih)
  | case3 t ih => exact .cons rfl rfl (.cons rfl rfl (.cons rfl rfl ih))
  | case4 t => exact .lf rfl rfl true
  | case5 c t hlf hcrlf hc ih =>
    by_cases hbackslash : c = 0x5C
    · subst hbackslash
      refine .cons rfl rfl (.of_eq (codeFollowing_backslash ?_ ?_) ih)
      · intro hhead
        obtain ⟨rest, rfl⟩ := List.head?_eq_some_iff.1 hhead
        exact hlf rest rfl rfl
      · intro rest ht
        exact hcrlf rest rfl ht
    · exact .cons rfl (by simp [Mode.next, Carry.next, hc, hbackslash]) ih

theorem leaps_lineComment (t : Text) : Leaps .lineComment (.code false) (lineLength t) t := by
  induction t with
  | nil => exact .nil _ _ _
  | cons c t ih =>
    by_cases hc : c = 0x0A
    · subst hc
      exact .lf rfl rfl false
    · have hlength : lineLength (c :: t) = lineLength t + 1 := by simp [lineLength, hc]
      rw [hlength]
      exact .cons rfl (by simp [Mode.next, hc]) ih

/-- A star matters only before a slash. -/
theorem codeFollowing_star {t : Text} (h : t.head? ≠ some 0x2F) (i : Nat) :
    codeFollowing (.blockComment true) i t = codeFollowing (.blockComment false) i t := by
  cases t with
  | nil => rfl
  | cons c t =>
    have hc : c ≠ 0x2F := by simpa using h
    rw [codeFollowing_cons rfl, codeFollowing_cons rfl]
    simp [Mode.next, hc]

theorem leaps_blockComment (t : Text) :
    Leaps (.blockComment false) (.code false) (commentLength t) t := by
  fun_induction commentLength t with
  | case1 => exact .nil _ _ _
  | case2 t => exact .cons rfl rfl (.cons rfl rfl fun _ => rfl)
  | case3 c t hclose ih =>
    by_cases hstar : c = 0x2A
    · subst hstar
      refine .cons rfl rfl (.of_eq (codeFollowing_star fun hhead => ?_) ih)
      obtain ⟨rest, rfl⟩ := List.head?_eq_some_iff.1 hhead
      exact hclose rest rfl rfl
    · have hnext : Mode.next c t.head? (.blockComment false) = .blockComment false := by
        simp [Mode.next, hstar]
      exact .cons rfl hnext ih

theorem leaps_literal {quote : CodeUnit} (hquote : quote = 0x22 ∨ quote = 0x27) (t : Text) :
    Leaps (.literal quote false) (.code false) (literalLength quote t) t := by
  have hlf : (0x0A : CodeUnit) ≠ quote := by rcases hquote with rfl | rfl <;> decide
  have hbreak (t : Text) : Leaps (.literal quote false) (.code false) 0 (0x0A :: t) :=
    .lf rfl (by simp [Mode.next, hlf]) false
  fun_induction literalLength quote t with
  | case1 => exact .nil _ _ _
  | case2 => exact hbreak []
  | case3 c hc => exact .cons rfl rfl (.nil _ _ _)
  | case4 d t ih => exact .cons rfl rfl (.cons rfl rfl ih)
  | case5 d t hc => exact .cons rfl (by simp [Mode.next, hc]) fun _ => rfl
  | case6 d t _ _ => exact hbreak _
  | case7 c d t hc hq hl ih => exact .cons rfl (by simp [Mode.next, hc, hq, hl]) ih

/-! ## The same code -/

theorem codeFollowing_code (atStart : Bool) (i : Nat) (c : CodeUnit) (t : Text) :
    codeFollowing (.code atStart) i (c :: t) =
      if c = 0x0A then codeFollowing (.code true) (i + 1) t
      else if isBlank c then codeFollowing (.code atStart) (i + 1) t
      else if atStart && c == '#' then codeFollowing (.directive .nothing) (i + 1) t
      else if c = '/' ∧ t.head? = some 0x2F then codeFollowing .lineComment (i + 1) t
      else if c = '/' ∧ t.head? = some 0x2A then codeFollowing .commentOpening (i + 1) t
      else if c = 0x22 ∨ c = 0x27 then (i, c) :: codeFollowing (.literal c false) (i + 1) t
      else (i, c) :: codeFollowing (.code false) (i + 1) t := by
  simp only [codeFollowing, Mode.next, Mode.yields]
  grind

theorem codeFrom_eq_codeFollowing (atStart : Bool) (i skip : Nat) (t : Text) :
    codeFrom atStart i skip t = codeFollowing (.code atStart) (i + skip) (t.drop skip) := by
  fun_induction codeFrom atStart i skip t with
  | case1 => simp [codeFollowing]
  | case2 atStart i c t skip ih =>
    rw [ih, List.drop_succ_cons, Nat.add_right_comm, Nat.add_assoc]
  | case3 atStart i t ih => exact ih
  | case4 atStart i c t hlf hblank ih =>
    rw [ih, List.drop_zero, List.drop_zero, codeFollowing_code, if_neg hlf, if_pos hblank]
  | case5 atStart i c t hlf hblank hdirective ih =>
    rw [ih, ← leaps_directive, List.drop_zero, codeFollowing_code, if_neg hlf, if_neg hblank,
      if_pos hdirective]
  | case6 atStart i c t hlf hblank hdirective hline ih =>
    rw [ih, ← leaps_lineComment, List.drop_zero, codeFollowing_code, if_neg hlf, if_neg hblank,
      if_neg hdirective, if_pos hline]
  | case7 atStart i c t hlf hblank hdirective hline hblock ih =>
    obtain ⟨rest, rfl⟩ := List.head?_eq_some_iff.1 hblock.2
    have hopening : Leaps .commentOpening (.code false) (1 + commentLength rest) (0x2A :: rest) :=
      Nat.add_comm 1 _ ▸ .cons rfl rfl (leaps_blockComment rest)
    rw [ih, List.tail_cons, ← hopening, List.drop_zero, codeFollowing_code, if_neg hlf,
      if_neg hblank, if_neg hdirective, if_neg hline, if_pos hblock]
  | case8 atStart i c t hlf hblank hdirective hline hblock hquote ih =>
    rw [ih, ← leaps_literal hquote, List.drop_zero, codeFollowing_code, if_neg hlf, if_neg hblank,
      if_neg hdirective, if_neg hline, if_neg hblock, if_pos hquote]
    rfl
  | case9 atStart i c t hlf hblank hdirective hline hblock hquote ih =>
    rw [ih, List.drop_zero, List.drop_zero, codeFollowing_code, if_neg hlf, if_neg hblank,
      if_neg hdirective, if_neg hline, if_neg hblock, if_neg hquote]
    rfl

theorem code_eq_codeFollowing (t : Text) : code t = codeFollowing (.code true) 0 t :=
  codeFrom_eq_codeFollowing true 0 0 t

theorem mem_codeIndices_iff {t : Text} {i : Nat} :
    i ∈ codeIndices t ↔ ∃ c, t[i]? = some c ∧ (modeAt t i).yields c t[i + 1]? = true := by
  rw [codeIndices, code_eq_codeFollowing, List.mem_map]
  constructor
  · rintro ⟨⟨j, c⟩, hmem, rfl⟩
    obtain ⟨k, hk, hc, hyields⟩ := mem_codeFollowing_iff.1 hmem
    obtain rfl : j = k := by simpa using hk
    exact ⟨c, hc, hyields⟩
  · rintro ⟨c, hc, hyields⟩
    exact ⟨(i, c), mem_codeFollowing_iff.2 ⟨i, (Nat.zero_add i).symm, hc, hyields⟩, rfl⟩

/-- The offsets of code are, in increasing order, those at which the reader that takes one unit
after another is in code on a unit that is not blank and opens neither a directive nor a comment. -/
theorem codeIndices_by_modes (t : Text) :
    (codeIndices t).Pairwise (· < ·) ∧ ∀ i, i ∈ codeIndices t ↔
      ∃ c, t[i]? = some c ∧ (modeAt t i).yields c t[i + 1]? = true :=
  ⟨List.pairwise_map.2 (code_sortedFrom t).sorted, fun _ => mem_codeIndices_iff⟩

example : codeIndices "/*/ a */ \"\\\" b\" c // d" = [9, 16] := by decide

end Remedy.Code
