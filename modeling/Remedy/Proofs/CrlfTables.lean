import Remedy.Proofs.CrlfHeaders
import Remedy.Proofs.ReadingModes

/-!
# Function tables in CR LF

Directives, comments and literals are read line by line, and each must take CR LF for the end of a
line. `SkipsAlike` says that two texts are left behind at the same place; at the end of a line the
carriage return may have been read as well. All but one of the rules keep to it: a backslash before
CR LF does not carry a literal on to the next line as a backslash before a line feed does. Where no
literal is carried on in that way, the code is the same (`code_expandLineBreaks`), and so are the
functions that are found (`functions_in_crlf`).
-/

namespace Remedy.Code

/-- A literal is carried on to the next line by a backslash; the text starts after the opening
quote. -/
def continuesLiteral (quote : CodeUnit) : Text → Bool
  | [] => false
  | [_] => false
  | c :: d :: t =>
    if c = 0x5C then d == 0x0A || continuesLiteral quote t
    else if c = quote then false
    else if c = 0x0A then false
    else continuesLiteral quote (d :: t)

def isQuote (c : CodeUnit) : Bool := c == 0x22 || c == 0x27

/-- Some literal of the text is carried on to the next line. -/
def hasContinuedLiteral (t : Text) : Bool :=
  (code t).any fun p => isQuote p.2 && continuesLiteral p.2 (t.drop (p.1 + 1))

/-! ## Leaving text behind -/

theorem crlfOffset_cons {c : CodeUnit} (hc : c ≠ 0x0A) (t : Text) (n : Nat) :
    crlfOffset (c :: t) (n + 1) = crlfOffset t n + 1 := by
  simp [crlfOffset, expandLineBreaks_cons hc]

theorem crlfOffset_lf (t : Text) (n : Nat) :
    crlfOffset (0x0A :: t) (n + 1) = crlfOffset t n + 2 := by
  simp [crlfOffset]

/-- Skipping `n` units of a text and `m` units of the same text in CR LF leads to the same place,
or in CR LF past the carriage return at the end of the line. -/
def SkipsAlike (t : Text) (n m : Nat) : Prop :=
  m = crlfOffset t n ∨ m = crlfOffset t n + 1 ∧ t[n]? = some 0x0A

namespace SkipsAlike

variable {c : CodeUnit} {t : Text} {n m : Nat}

theorem zero (t : Text) : SkipsAlike t 0 0 := .inl (by simp)

theorem cons (hc : c ≠ 0x0A) (h : SkipsAlike t n m) : SkipsAlike (c :: t) (n + 1) (m + 1) := by
  rcases h with rfl | ⟨rfl, hlf⟩
  · exact .inl (crlfOffset_cons hc t n).symm
  · exact .inr ⟨by rw [crlfOffset_cons hc], by simpa using hlf⟩

theorem lf (h : SkipsAlike t n m) : SkipsAlike (0x0A :: t) (n + 1) (m + 2) := by
  rcases h with rfl | ⟨rfl, hlf⟩
  · exact .inl (crlfOffset_lf t n).symm
  · exact .inr ⟨by rw [crlfOffset_lf], by simpa using hlf⟩

theorem of_cons (hc : c ≠ 0x0A) (h : SkipsAlike (c :: t) (n + 1) m) :
    ∃ m', m = m' + 1 ∧ SkipsAlike t n m' := by
  rw [SkipsAlike, crlfOffset_cons hc, List.getElem?_cons_succ] at h
  rcases h with rfl | ⟨rfl, hlf⟩
  · exact ⟨_, rfl, .inl rfl⟩
  · exact ⟨_, rfl, .inr ⟨rfl, hlf⟩⟩

theorem of_lf (h : SkipsAlike (0x0A :: t) (n + 1) m) : ∃ m', m = m' + 2 ∧ SkipsAlike t n m' := by
  rw [SkipsAlike, crlfOffset_lf, List.getElem?_cons_succ] at h
  rcases h with rfl | ⟨rfl, hlf⟩
  · exact ⟨_, rfl, .inl rfl⟩
  · exact ⟨_, by omega, .inr ⟨rfl, hlf⟩⟩

theorem eq_zero (hc : c ≠ 0x0A) (h : SkipsAlike (c :: t) 0 m) : m = 0 := by
  rcases h with rfl | ⟨-, hlf⟩
  · exact crlfOffset_zero _
  · exact absurd (by simpa using hlf) hc

/-- The carriage return before a line feed. -/
theorem lineEnd (t : Text) : SkipsAlike (0x0A :: t) 0 1 := .inr (by simp)

end SkipsAlike

theorem head?_expandLineBreaks_iff {c : CodeUnit} (hcr : c ≠ 0x0D) (hlf : c ≠ 0x0A) (t : Text) :
    (expandLineBreaks t).head? = some c ↔ t.head? = some c := by
  cases t with
  | nil => simp
  | cons d t =>
    by_cases hd : d = 0x0A
    · simp [hd, hcr.symm, hlf.symm]
    · simp [expandLineBreaks_cons hd]

/-- The first unit of a text that is not expanded there is no carriage return. -/
theorem head_of_expandLineBreaks {t rest : Text} (ht : 0x0D ∉ t)
    (h : expandLineBreaks t = 0x0D :: rest) : t.head? = some 0x0A := by
  cases t with
  | nil => simp at h
  | cons c t =>
    by_cases hc : c = 0x0A
    · simp [hc]
    · rw [expandLineBreaks_cons hc, List.cons.injEq] at h
      simp [h.1] at ht

theorem directiveLength_skipsAlike {t : Text} (ht : 0x0D ∉ t) :
    SkipsAlike t (directiveLength t) (directiveLength (expandLineBreaks t)) := by
  fun_induction directiveLength t with
  | case1 => exact .zero []
  | case2 t ih =>
    simp only [List.mem_cons, not_or] at ht
    simpa [expandLineBreaks_cons, directiveLength] using (ih ht.2.2).lf.cons (c := 0x5C) (by decide)
  | case3 t ih => simp at ht
  | case4 t => exact .lineEnd t
  | case5 c t hlf hcrlf hc ih =>
    rw [List.mem_cons, not_or] at ht
    rw [expandLineBreaks_cons hc, directiveLength, if_neg hc]
    · exact (ih ht.2).cons hc
    · intro rest _ hrest
      exact head?_expandLineBreaks_ne_lf t (by rw [hrest]; rfl)
    · intro rest hbackslash hrest
      obtain ⟨t', rfl⟩ := List.head?_eq_some_iff.1 (head_of_expandLineBreaks ht.2 hrest)
      exact hlf t' hbackslash rfl

theorem lineLength_skipsAlike (t : Text) :
    SkipsAlike t (lineLength t) (lineLength (expandLineBreaks t)) := by
  induction t with
  | nil => exact .zero []
  | cons c t ih =>
    by_cases hc : c = 0x0A
    · subst hc
      exact .lineEnd t
    · simpa [lineLength, expandLineBreaks_cons hc, hc] using ih.cons hc

theorem commentLength_cons {c : CodeUnit} {t : Text} (h : c = 0x2A → t.head? ≠ some 0x2F) :
    commentLength (c :: t) = commentLength t + 1 := by
  rw [commentLength]
  rintro t rfl rfl
  exact h rfl rfl

theorem commentLength_skipsAlike (t : Text) :
    SkipsAlike t (commentLength t) (commentLength (expandLineBreaks t)) := by
  fun_induction commentLength t with
  | case1 => exact .zero []
  | case2 t => exact .inl rfl
  | case3 c t h ih =>
    by_cases hc : c = 0x0A
    · subst hc
      simpa [commentLength] using ih.lf
    · rw [expandLineBreaks_cons hc, commentLength_cons]
      · exact ih.cons hc
      · intro hstar hslash
        rw [head?_expandLineBreaks_iff (by decide) (by decide)] at hslash
        obtain ⟨t', rfl⟩ := List.head?_eq_some_iff.1 hslash
        exact h t' hstar rfl

theorem literalLength_cons {quote c : CodeUnit} (hquote : quote ≠ 0x0A) (hc : c ≠ 0x5C)
    (t : Text) :
    literalLength quote (c :: t) =
      if c = quote then 1 else if c = 0x0A then 0 else literalLength quote t + 1 := by
  cases t with
  | nil =>
    simp only [literalLength]
    split_ifs with hlf hq hq
    · exact absurd (hq.symm.trans hlf) hquote
    · rfl
    · rfl
    · rfl
  | cons d t => rw [literalLength, if_neg hc]

/-- A literal that is not carried on to the next line ends at the same place. -/
theorem literalLength_skipsAlike {quote : CodeUnit} (hquote : isQuote quote = true) {t : Text}
    (h : continuesLiteral quote t = false) :
    SkipsAlike t (literalLength quote t) (literalLength quote (expandLineBreaks t)) := by
  have hlf : quote ≠ 0x0A := by rintro rfl; simp [isQuote] at hquote
  have hcr : ¬ (0x0D : CodeUnit) = quote := by rintro rfl; simp [isQuote] at hquote
  have hbreak (t : Text) : literalLength quote (expandLineBreaks (0x0A :: t)) = 1 := by
    rw [expandLineBreaks_lf, literalLength_cons hlf (by decide), if_neg hcr, if_neg (by decide),
      literalLength_cons hlf (by decide), if_neg (Ne.symm hlf), if_pos rfl]
  fun_induction literalLength quote t with
  | case1 => exact .zero []
  | case2 =>
    rw [hbreak]
    exact .lineEnd []
  | case3 c hc =>
    rw [expandLineBreaks_cons hc]
    simpa [literalLength, hc] using (SkipsAlike.zero []).cons hc
  | case4 d t ih =>
    simp only [continuesLiteral, if_true, Bool.or_eq_false_iff, beq_eq_false_iff_ne] at h
    rw [expandLineBreaks_cons (by decide), expandLineBreaks_cons h.1, literalLength, if_pos rfl]
    exact ((ih h.2).cons h.1).cons (by decide)
  | case5 d t hc =>
    rw [expandLineBreaks_cons hlf, literalLength_cons hlf hc, if_pos rfl]
    exact (SkipsAlike.zero _).cons hlf
  | case6 d t _ _ =>
    rw [hbreak]
    exact .lineEnd _
  | case7 c d t hc hq hl ih =>
    simp only [continuesLiteral, hc, hq, hl, if_false] at h
    rw [expandLineBreaks_cons hl, literalLength_cons hlf hc, if_neg hq, if_neg hl]
    exact (ih h).cons hl

/-! ## Code -/

/-- The place of a unit of code in CR LF. -/
def shift (w : Text) (p : Nat × CodeUnit) : Nat × CodeUnit := (crlfOffset w p.1, p.2)

theorem crlfOffset_succ_of_drop {w t : Text} {c : CodeUnit} {i : Nat} (h : w.drop i = c :: t) :
    crlfOffset w (i + 1) = crlfOffset w i + (if c = 0x0A then 2 else 1) := by
  rw [crlfOffset_add, h]
  split_ifs with hc <;> simp [crlfOffset, hc, expandLineBreaks_cons]

theorem drop_succ_of_drop {w t : Text} {c : CodeUnit} {i : Nat} (h : w.drop i = c :: t) :
    w.drop (i + 1) = t := by
  rw [← List.drop_drop, h, List.drop_one, List.tail_cons]

/-- CR LF is a blank and the end of a line; the carriage return may have been skipped. -/
theorem codeFrom_crlf {atStart : Bool} {i m : Nat} {t : Text} (hm : m ≤ 1) :
    codeFrom atStart i m (0x0D :: 0x0A :: t) = codeFrom true (i + 2) 0 t := by
  obtain rfl | rfl : m = 0 ∨ m = 1 := by omega
  · simp [codeFrom, isBlank]
  · simp [codeFrom]

theorem codeFrom_expandLineBreaks {w t : Text} (hw : 0x0D ∉ w) {atStart : Bool} {i skip m : Nat}
    (ht : w.drop i = t)
    (hlit : ∀ p ∈ codeFrom atStart i skip t, isQuote p.2 = true →
      continuesLiteral p.2 (w.drop (p.1 + 1)) = false)
    (hskip : SkipsAlike t skip m) :
    codeFrom atStart (crlfOffset w i) m (expandLineBreaks t) =
      (codeFrom atStart i skip t).map (shift w) := by
  have plain {j : Nat} {t : Text} (h : w.drop j = t) : 0x0D ∉ t :=
    fun hcr => hw (List.mem_of_mem_drop (h ▸ hcr))
  fun_induction codeFrom atStart i skip t generalizing m with
  | case1 => rfl
  | case2 atStart i c t skip ih =>
    have hoff := crlfOffset_succ_of_drop ht
    have ih {m} := ih (m := m) (drop_succ_of_drop ht) hlit
    by_cases hc : c = 0x0A
    · subst hc
      obtain ⟨m, rfl, hm⟩ := hskip.of_lf
      rw [← ih hm, hoff]
      simp [codeFrom]
    · obtain ⟨m, rfl, hm⟩ := hskip.of_cons hc
      rw [← ih hm, hoff, if_neg hc]
      simp [codeFrom, expandLineBreaks_cons hc]
  | case3 atStart i t ih =>
    have hm : m ≤ 1 := by rcases hskip with rfl | ⟨rfl, -⟩ <;> simp
    rw [← ih (drop_succ_of_drop ht) hlit (.zero t), crlfOffset_succ_of_drop ht,
      expandLineBreaks_lf, codeFrom_crlf hm, if_pos rfl]
  | case4 atStart i c t hc hblank ih =>
    obtain rfl := hskip.eq_zero hc
    rw [← ih (drop_succ_of_drop ht) hlit (.zero t), crlfOffset_succ_of_drop ht,
      expandLineBreaks_cons hc, codeFrom, if_neg hc, if_neg hc, if_pos hblank]
  | case5 atStart i c t hc hblank hhash ih =>
    obtain rfl := hskip.eq_zero hc
    have htail := drop_succ_of_drop ht
    rw [← ih htail hlit (directiveLength_skipsAlike (plain htail)), crlfOffset_succ_of_drop ht,
      expandLineBreaks_cons hc, codeFrom, if_neg hc, if_neg hc, if_neg hblank, if_pos hhash]
  | case6 atStart i c t hc hblank hhash hline ih =>
    obtain rfl := hskip.eq_zero hc
    rw [← ih (drop_succ_of_drop ht) hlit (lineLength_skipsAlike t), crlfOffset_succ_of_drop ht,
      expandLineBreaks_cons hc, codeFrom, if_neg hc, if_neg hc, if_neg hblank, if_neg hhash,
      if_pos (by rwa [head?_expandLineBreaks_iff (by decide) (by decide)])]
  | case7 atStart i c t hc hblank hhash hline hblock ih =>
    obtain rfl := hskip.eq_zero hc
    obtain ⟨t, rfl⟩ := List.head?_eq_some_iff.1 hblock.2
    have hcomment : SkipsAlike (0x2A :: t) (1 + commentLength t)
        (1 + commentLength (expandLineBreaks t)) := by
      rw [Nat.add_comm 1, Nat.add_comm 1]
      exact (commentLength_skipsAlike t).cons (by decide)
    rw [← ih (drop_succ_of_drop ht) hlit hcomment, crlfOffset_succ_of_drop ht,
      expandLineBreaks_cons hc, codeFrom, if_neg hc, if_neg hc, if_neg hblank, if_neg hhash,
      expandLineBreaks_cons (by decide), if_neg (by simp), if_pos ⟨hblock.1, rfl⟩, List.tail_cons]
  | case8 atStart i c t hc hblank hhash hline hblock hquote ih =>
    obtain rfl := hskip.eq_zero hc
    have htail := drop_succ_of_drop ht
    have hq : isQuote c = true := by simpa [isQuote] using hquote
    have hend : continuesLiteral c t = false := by
      simpa [htail] using hlit (i, c) List.mem_cons_self hq
    rw [List.map_cons, ← ih htail (fun p hp => hlit p (List.mem_cons_of_mem _ hp))
        (literalLength_skipsAlike hq hend), crlfOffset_succ_of_drop ht,
      expandLineBreaks_cons hc, codeFrom, if_neg hc, if_neg hc, if_neg hblank, if_neg hhash,
      if_neg (by rwa [head?_expandLineBreaks_iff (by decide) (by decide)]),
      if_neg (by rwa [head?_expandLineBreaks_iff (by decide) (by decide)]), if_pos hquote, shift]
  | case9 atStart i c t hc hblank hhash hline hblock hquote ih =>
    obtain rfl := hskip.eq_zero hc
    rw [List.map_cons, ← ih (drop_succ_of_drop ht) (fun p hp => hlit p (List.mem_cons_of_mem _ hp))
        (.zero t), crlfOffset_succ_of_drop ht,
      expandLineBreaks_cons hc, codeFrom, if_neg hc, if_neg hc, if_neg hblank, if_neg hhash,
      if_neg (by rwa [head?_expandLineBreaks_iff (by decide) (by decide)]),
      if_neg (by rwa [head?_expandLineBreaks_iff (by decide) (by decide)]), if_neg hquote, shift]

/-- The code of a text in CR LF, when no literal is carried on to the next line. -/
theorem code_expandLineBreaks {t : Text} (ht : 0x0D ∉ t) (h : hasContinuedLiteral t = false) :
    code (expandLineBreaks t) = (code t).map (shift t) := by
  have hlit : ∀ p ∈ code t, isQuote p.2 = true →
      continuesLiteral p.2 (t.drop (p.1 + 1)) = false := by
    simpa [hasContinuedLiteral] using h
  simpa [code] using codeFrom_expandLineBreaks ht (i := 0) rfl hlit (.zero t)

theorem codeFrom_lt {atStart : Bool} {i skip : Nat} {t : Text} :
    ∀ p ∈ codeFrom atStart i skip t, p.1 < i + t.length := by
  fun_induction codeFrom atStart i skip t with
  | case1 => simp
  | _ => grind

theorem code_lt {t : Text} : ∀ p ∈ code t, p.1 < t.length := fun p hp => by
  simpa using codeFrom_lt p hp

/-! ## Tables -/

def OpenBlock.inCrlf (w : Text) (block : OpenBlock) : OpenBlock :=
  ⟨block.name, crlfOffset w block.startOffset, crlfOffset w block.bodyOffset⟩

def Place.inCrlf (w : Text) : Place → Place
  | .outside header => .outside (header.map (crlfOffset w))
  | .inside block depth => .inside (block.inCrlf w) depth

/-- The entry of the same function in CR LF: only the offsets differ. -/
def FunctionEntry.inCrlf (w : Text) (e : FunctionEntry) : FunctionEntry :=
  ⟨e.name, e.span, crlfOffset w e.startOffset, crlfOffset w e.bodyOffset,
    crlfOffset w e.endOffset⟩

/-- A header or block that has begun started before offset `i`. -/
def Place.StartedBefore (i : Nat) : Place → Prop
  | .outside header => ∀ start ∈ header, start < i
  | .inside block _ => block.startOffset < i

/-- A header that has begun starts at or before the next unit of code. -/
theorem Place.StartedBefore.getD_le {header : Option Nat} {i j : Nat} {c : CodeUnit}
    {code : List (Nat × CodeUnit)} (h : (Place.outside header).StartedBefore i)
    (hs : SortedFrom i ((j, c) :: code)) : header.getD j ≤ j := by
  cases header with
  | none => exact Nat.le_refl j
  | some start => exact Nat.le_of_lt (hs.lt_head (h start rfl))

theorem OpenBlock.entry_inCrlf {w : Text} {block : OpenBlock} {stop : Nat}
    (hstart : block.startOffset < stop) (hstop : stop < w.length) :
    (block.inCrlf w).entry (lineStarts (expandLineBreaks w)) (crlfOffset w stop) =
      (block.entry (lineStarts w) stop).map (FunctionEntry.inCrlf w) := by
  rcases block with ⟨name, start, body⟩
  have hline := lineAt_crlfOffset (Nat.lt_trans hstart hstop)
  cases name with
  | none => rfl
  | some name =>
    simp only [OpenBlock.entry, OpenBlock.inCrlf, List.map_cons, List.map_nil,
      FunctionEntry.inCrlf, lineAt_crlfOffset hstop] at hline ⊢
    rw [hline]

theorem entriesFrom_expandLineBreaks {w : Text} {place : Place} {code : List (Nat × CodeUnit)}
    {i : Nat} (hs : SortedFrom i code) (hlt : ∀ p ∈ code, p.1 < w.length)
    (hp : place.StartedBefore i) :
    entriesFrom (expandLineBreaks w) (lineStarts (expandLineBreaks w)) (place.inCrlf w)
        (code.map (shift w)) =
      (entriesFrom w (lineStarts w) place code).map (FunctionEntry.inCrlf w) := by
  fun_induction entriesFrom w (lineStarts w) place code generalizing i with
  | case1 => simp [entriesFrom]
  | case2 header j c rest hc ih =>
    rw [← ih hs.tail (List.forall_mem_cons.1 hlt).2 (by simp [Place.StartedBefore])]
    simp only [List.map_cons, shift, Place.inCrlf, entriesFrom, if_pos hc, Option.map_none]
  | case3 header j rest start hc =>
    rename_i ih
    have hle : header.getD j ≤ j := hp.getD_le hs
    have hname : functionName ((expandLineBreaks w).slice (crlfOffset w start) (crlfOffset w j)) =
        functionName (w.slice start j) := by
      rw [slice_crlfOffset w hle, functionName_expandLineBreaks]
    rw [← ih hs.tail (List.forall_mem_cons.1 hlt).2 (Nat.lt_succ_of_le hle)]
    simp only [List.map_cons, shift, Place.inCrlf, entriesFrom, if_neg hc, if_true,
      Option.getD_map, OpenBlock.inCrlf, ← hname, start]
  | case4 header j c rest start hc hb =>
    rename_i ih
    have hstarted : (Place.outside (some start)).StartedBefore (j + 1) := by
      simpa [Place.StartedBefore] using Nat.lt_succ_of_le (hp.getD_le hs)
    rw [← ih hs.tail (List.forall_mem_cons.1 hlt).2 hstarted]
    simp only [List.map_cons, shift, Place.inCrlf, entriesFrom, if_neg hc, if_neg hb,
      Option.getD_map, Option.map_some, start]
  | case5 block depth j rest ih =>
    rw [← ih hs.tail (List.forall_mem_cons.1 hlt).2 (Nat.lt_succ_of_lt (hs.lt_head hp))]
    simp only [List.map_cons, shift, Place.inCrlf, entriesFrom, if_true]
  | case6 block depth j rest hd hc ih =>
    have hj := (List.forall_mem_cons.1 hlt).1
    rw [List.map_append, ← OpenBlock.entry_inCrlf (hs.lt_head hp) hj,
      ← ih hs.tail (List.forall_mem_cons.1 hlt).2 (by simp [Place.StartedBefore])]
    simp only [List.map_cons, shift, Place.inCrlf, entriesFrom, if_neg hc, if_true, if_pos hd,
      Option.map_none]
  | case7 block depth j rest hd hc ih =>
    rw [← ih hs.tail (List.forall_mem_cons.1 hlt).2 (Nat.lt_succ_of_lt (hs.lt_head hp))]
    simp only [List.map_cons, shift, Place.inCrlf, entriesFrom, if_neg hc, if_true, if_neg hd]
  | case8 block depth j c rest hc hd ih =>
    rw [← ih hs.tail (List.forall_mem_cons.1 hlt).2 (Nat.lt_succ_of_lt (hs.lt_head hp))]
    simp only [List.map_cons, shift, Place.inCrlf, entriesFrom, if_neg hc, if_neg hd]

/-- Where no literal is carried on to the next line, the table in CR LF has the same entries at
their places there. -/
theorem build_expandLineBreaks {t : Text} (ht : 0x0D ∉ t) (h : hasContinuedLiteral t = false) :
    (FunctionTable.build (expandLineBreaks t)).entries =
      (FunctionTable.build t).entries.map (FunctionEntry.inCrlf t) := by
  have hp : (Place.outside none).StartedBefore 0 := by simp [Place.StartedBefore]
  rw [FunctionTable.build, code_expandLineBreaks ht h]
  exact entriesFrom_expandLineBreaks (code_sortedFrom t) code_lt hp

/-- A text whose literals all end on their lines has the same functions on the same lines in
CR LF. -/
theorem functions_in_crlf {t : Text} (ht : 0x0D ∉ t) (h : hasContinuedLiteral t = false) :
    (FunctionTable.build (toLineEnding t .crlf)).entries.map (fun e => (e.name, e.span)) =
      (FunctionTable.build t).entries.map fun e => (e.name, e.span) := by
  rw [toLineEnding_crlf ht, build_expandLineBreaks ht h, List.map_map]
  rfl

/-- A directive carried on to the next line, a brace in a comment and a brace in a literal. -/
def busySource : Text :=
  "#define OPEN \\\n  \x7b\nint f(void) // \x7b\n\x7b\n  puts(\"\\\"\x7b\");\n\x7d\n"

theorem functions_in_crlf_busySource :
    0x0D ∉ busySource ∧ hasContinuedLiteral busySource = false ∧
      (FunctionTable.build (toLineEnding busySource .crlf)).entries.map
          (fun e => (e.name, e.span)) =
        (FunctionTable.build busySource).entries.map fun e => (e.name, e.span) :=
  ⟨by decide, by decide, functions_in_crlf (by decide) (by decide)⟩

/-- A literal that a backslash carries on to the next line, with a brace there. -/
def carriedLiteral : Text := "int f(void)\n\x7b\n    p = \"\\\n\x7b\";\n\x7d\n"

/-- In CR LF the literal ends with its line, the brace after it is code and the function is
lost. -/
theorem function_lost_in_crlf :
    0x0D ∉ carriedLiteral ∧
      (FunctionTable.build carriedLiteral).entries.map (·.name) = [Text.ofString "f"] ∧
      (FunctionTable.build (toLineEnding carriedLiteral .crlf)).entries = [] := by
  refine ⟨by decide, ?_, ?_⟩
  · decide
  · decide

end Remedy.Code
