import Remedy.Proofs.CrlfTexts
import Remedy.Proofs.HeaderGrammar

/-!
# Function headers in CR LF

The name of a function is read off its header with comments, attributes and blanks taken away. The
steps treat a carriage return beside a line feed as they treat the line feed, though they do not
keep the two together: a line comment takes the carriage return at its end with it. `LooseReturns`
is what all of them keep, and it is enough for the name (`functionName_expandLineBreaks`).
-/

namespace Remedy

/-- The second text is the first with carriage returns added, each beside a line feed. -/
inductive LooseReturns : Text → Text → Prop
  | nil : LooseReturns [] []
  | cons (c : CodeUnit) {x y : Text} : LooseReturns x y → LooseReturns (c :: x) (c :: y)
  | before {x y : Text} : LooseReturns x y → LooseReturns (0x0A :: x) (0x0D :: 0x0A :: y)
  | after {x y : Text} : LooseReturns x y → LooseReturns (0x0A :: x) (0x0A :: 0x0D :: y)

namespace LooseReturns

theorem refl (x : Text) : LooseReturns x x := by
  induction x with
  | nil => exact .nil
  | cons c x ih => exact .cons c ih

theorem append {x y x' y' : Text} (h : LooseReturns x y) (h' : LooseReturns x' y') :
    LooseReturns (x ++ x') (y ++ y') := by
  induction h with
  | nil => exact h'
  | cons c _ ih => exact .cons c ih
  | before _ ih => exact .before ih
  | after _ ih => exact .after ih

theorem reverse {x y : Text} (h : LooseReturns x y) : LooseReturns x.reverse y.reverse := by
  induction h with
  | nil => exact .nil
  | cons c _ ih => simpa using ih.append (refl [c])
  | before _ ih => simpa using ih.append (.after .nil)
  | after _ ih => simpa using ih.append (.before .nil)

theorem expandLineBreaks (x : Text) : LooseReturns x (expandLineBreaks x) := by
  induction x with
  | nil => exact .nil
  | cons c x ih =>
    by_cases hc : c = 0x0A
    · subst hc
      exact .before ih
    · rw [expandLineBreaks_cons hc]
      exact .cons c ih

variable {x y : Text}

/-- Dropping units that line breaks are among. -/
theorem dropWhile {p : CodeUnit → Bool} (hcr : p 0x0D = true) (hlf : p 0x0A = true)
    (h : LooseReturns x y) : LooseReturns (x.dropWhile p) (y.dropWhile p) := by
  induction h with
  | nil => exact .nil
  | cons c h ih =>
    rw [List.dropWhile_cons, List.dropWhile_cons]
    split_ifs
    · exact ih
    · exact .cons c h
  | before h ih => simpa [List.dropWhile_cons, hcr, hlf] using ih
  | after h ih => simpa [List.dropWhile_cons, hcr, hlf] using ih

theorem all_eq {p : CodeUnit → Bool} (hcr : p 0x0D = true) (hlf : p 0x0A = true)
    (h : LooseReturns x y) : x.all p = y.all p := by
  induction h with
  | nil => rfl
  | cons c h ih => simp [ih]
  | before h ih => simp [ih, hcr, hlf]
  | after h ih => simp [ih, hcr, hlf]

/-- Taking units that line breaks are not among. -/
theorem takeWhile_eq {p : CodeUnit → Bool} (hcr : p 0x0D = false) (hlf : p 0x0A = false)
    (h : LooseReturns x y) : x.takeWhile p = y.takeWhile p := by
  induction h with
  | nil => rfl
  | cons c h ih => simp [List.takeWhile_cons, ih]
  | before h ih => simp [hcr, hlf]
  | after h ih => simp [hlf]

/-- Where the first text has a unit that belongs to no line break, the second has it too. -/
theorem exists_right {c : CodeUnit} (hlf : c ≠ 0x0A) (h : LooseReturns x y) {u v : Text}
    (hx : x = u ++ c :: v) :
    ∃ u' v', y = u' ++ c :: v' ∧ LooseReturns u u' ∧ LooseReturns v v' := by
  induction h generalizing u with
  | nil => simp at hx
  | @cons d x y h ih =>
    rcases List.cons_eq_append_iff.1 hx with ⟨rfl, hcons⟩ | ⟨u, rfl, hrest⟩
    · obtain ⟨rfl, rfl⟩ := List.cons.inj hcons
      exact ⟨[], y, rfl, .nil, h⟩
    · obtain ⟨u', v', rfl, hu, hv⟩ := ih hrest
      exact ⟨d :: u', v', rfl, .cons d hu, hv⟩
  | before h ih =>
    rcases List.cons_eq_append_iff.1 hx with ⟨rfl, hcons⟩ | ⟨u, rfl, hrest⟩
    · exact absurd (List.cons.inj hcons).1 hlf
    · obtain ⟨u', v', rfl, hu, hv⟩ := ih hrest
      exact ⟨0x0D :: 0x0A :: u', v', rfl, .before hu, hv⟩
  | after h ih =>
    rcases List.cons_eq_append_iff.1 hx with ⟨rfl, hcons⟩ | ⟨u, rfl, hrest⟩
    · exact absurd (List.cons.inj hcons).1 hlf
    · obtain ⟨u', v', rfl, hu, hv⟩ := ih hrest
      exact ⟨0x0A :: 0x0D :: u', v', rfl, .after hu, hv⟩

/-- Where the second text has a unit that belongs to no line break, the first has it too. -/
theorem exists_left {c : CodeUnit} (hcr : c ≠ 0x0D) (hlf : c ≠ 0x0A) (h : LooseReturns x y)
    {u v : Text} (hy : y = u ++ c :: v) :
    ∃ u' v', x = u' ++ c :: v' ∧ LooseReturns u' u ∧ LooseReturns v' v := by
  induction h generalizing u with
  | nil => simp at hy
  | @cons d x y h ih =>
    rcases List.cons_eq_append_iff.1 hy with ⟨rfl, hcons⟩ | ⟨u, rfl, hrest⟩
    · obtain ⟨rfl, rfl⟩ := List.cons.inj hcons
      exact ⟨[], x, rfl, .nil, h⟩
    · obtain ⟨u', v', rfl, hu, hv⟩ := ih hrest
      exact ⟨d :: u', v', rfl, .cons d hu, hv⟩
  | before h ih =>
    rcases List.cons_eq_append_iff.1 hy with ⟨rfl, hcons⟩ | ⟨u, rfl, hnext⟩
    · exact absurd (List.cons.inj hcons).1 hcr
    rcases List.cons_eq_append_iff.1 hnext with ⟨rfl, hcons⟩ | ⟨u, rfl, hrest⟩
    · exact absurd (List.cons.inj hcons).1 hlf
    · obtain ⟨u', v', rfl, hu, hv⟩ := ih hrest
      exact ⟨0x0A :: u', v', rfl, .before hu, hv⟩
  | after h ih =>
    rcases List.cons_eq_append_iff.1 hy with ⟨rfl, hcons⟩ | ⟨u, rfl, hnext⟩
    · exact absurd (List.cons.inj hcons).1 hlf
    rcases List.cons_eq_append_iff.1 hnext with ⟨rfl, hcons⟩ | ⟨u, rfl, hrest⟩
    · exact absurd (List.cons.inj hcons).1 hcr
    · obtain ⟨u', v', rfl, hu, hv⟩ := ih hrest
      exact ⟨0x0A :: u', v', rfl, .after hu, hv⟩

/-- The same unit comes first, unless it belongs to a line break. -/
theorem cons_cases {c : CodeUnit} (hcr : c ≠ 0x0D) (hlf : c ≠ 0x0A) (h : LooseReturns x y) :
    (∃ x' y', x = c :: x' ∧ y = c :: y' ∧ LooseReturns x' y') ∨
      x.head? ≠ some c ∧ y.head? ≠ some c := by
  cases h with
  | nil => exact .inr (by simp)
  | @cons d x y h =>
    by_cases hd : d = c
    · exact .inl ⟨x, y, by rw [hd], by rw [hd], h⟩
    · exact .inr (by simp [hd])
  | before => exact .inr (by simp [hcr.symm, hlf.symm])
  | after => exact .inr (by simp [hlf.symm])

theorem pair_cases {c : CodeUnit} (hcr : c ≠ 0x0D) (hlf : c ≠ 0x0A) (h : LooseReturns x y) :
    (∃ x' y', x = c :: c :: x' ∧ y = c :: c :: y' ∧ LooseReturns x' y') ∨
      (∀ z, x ≠ c :: c :: z) ∧ ∀ z, y ≠ c :: c :: z := by
  rcases h.cons_cases hcr hlf with ⟨x', y', rfl, rfl, h'⟩ | ⟨hx, hy⟩
  · rcases h'.cons_cases hcr hlf with ⟨x'', y'', rfl, rfl, h''⟩ | ⟨hx, hy⟩
    · exact .inl ⟨x'', y'', rfl, rfl, h''⟩
    · exact .inr ⟨by rintro z hz; simp_all, by rintro z hz; simp_all⟩
  · exact .inr ⟨by rintro z rfl; simp at hx, by rintro z rfl; simp at hy⟩

theorem isPrefixOf_eq {w : Text} (hcr : 0x0D ∉ w) (hlf : 0x0A ∉ w) (h : LooseReturns x y) :
    w.isPrefixOf x = w.isPrefixOf y ∧
      (w.isPrefixOf x = true → LooseReturns (x.drop w.length) (y.drop w.length)) := by
  induction w generalizing x y with
  | nil => simpa using h
  | cons c w ih =>
    rw [List.mem_cons, not_or] at hcr hlf
    rcases h.cons_cases (Ne.symm hcr.1) (Ne.symm hlf.1) with ⟨x', y', rfl, rfl, h'⟩ | ⟨hx, hy⟩
    · simpa using ih hcr.2 hlf.2 h'
    · have hne (z : Text) (hz : z.head? ≠ some c) : (c :: w).isPrefixOf z = false := by
        cases z with
        | nil => rfl
        | cons d z => simp [List.isPrefixOf, show ¬ c = d by rintro rfl; simp at hz]
      simp [hne x hx, hne y hy]

end LooseReturns

namespace Code

/-! ## Comments -/

theorem afterComment_cons {c : CodeUnit} {t : Text} (h : c = 0x2A → t.head? ≠ some 0x2F) :
    afterComment (c :: t) = afterComment t := by
  rw [afterComment]
  rintro t rfl rfl
  exact h rfl rfl

theorem afterComment_suffix {t rest : Text} (h : afterComment t = some rest) : rest <:+ t := by
  fun_induction afterComment t with
  | case1 => simp at h
  | case2 t =>
    obtain rfl := Option.some.inj h
    exact ⟨[0x2A, 0x2F], rfl⟩
  | case3 c t _ ih => exact (ih h).trans (List.suffix_cons c t)

theorem afterComment_looseReturns {x y : Text} (h : LooseReturns x y) :
    Option.Rel LooseReturns (afterComment x) (afterComment y) := by
  induction h with
  | nil => exact .none
  | @cons c x y h ih =>
    by_cases hc : c = 0x2A
    · subst hc
      rcases h.cons_cases (c := 0x2F) (by decide) (by decide) with
        ⟨x', y', rfl, rfl, h'⟩ | ⟨hx, hy⟩
      · exact .some h'
      · rwa [afterComment_cons fun _ => hx, afterComment_cons fun _ => hy]
    · rwa [afterComment_cons fun h => absurd h hc, afterComment_cons fun h => absurd h hc]
  | before h ih => simpa [afterComment] using ih
  | after h ih => simpa [afterComment] using ih

theorem blankComments_eq_drop (skip : Nat) (t : Text) :
    blankComments skip t = blankComments 0 (t.drop skip) := by
  induction t generalizing skip with
  | nil => simp [blankComments]
  | cons c t ih =>
    cases skip with
    | zero => rfl
    | succ skip => rw [blankComments, ih, List.drop_succ_cons]

/-- A comment that is closed becomes a space. -/
theorem blankComments_closed {t rest : Text} (h : afterComment t = some rest) :
    blankComments 0 (0x2F :: 0x2A :: t) = 0x20 :: blankComments 0 rest := by
  have hopen : (0x2F : CodeUnit) = '/' ∧ (0x2A :: t).head? = some 0x2A := ⟨rfl, rfl⟩
  obtain ⟨front, hfront⟩ := (afterComment_suffix h).trans (List.suffix_cons 0x2A t)
  rw [blankComments, if_pos hopen, List.tail_cons, h]
  dsimp only
  rw [blankComments_eq_drop, ← hfront, List.length_append, Nat.add_sub_cancel, List.drop_left]

theorem blankComments_cons {c : CodeUnit} {t : Text}
    (h : c = 0x2F → ∀ t', t = 0x2A :: t' → afterComment t' = none) :
    blankComments 0 (c :: t) = c :: blankComments 0 t := by
  rw [blankComments]
  split_ifs with hc
  · obtain ⟨t', rfl⟩ := List.head?_eq_some_iff.1 hc.2
    simp [h hc.1 t' rfl]
  · rfl

theorem blankComments_open {t : Text} (h : afterComment t = none) :
    blankComments 0 (0x2F :: 0x2A :: t) = 0x2F :: blankComments 0 (0x2A :: t) :=
  blankComments_cons fun _ _ ht => (List.cons.inj ht).2 ▸ h

theorem blankComments_looseReturns {x y : Text} (h : LooseReturns x y) :
    LooseReturns (blankComments 0 x) (blankComments 0 y) := by
  -- a comment is left behind as a whole, so that the induction is on the length
  induction hn : x.length using Nat.strongRecOn generalizing x y with
  | ind n ih =>
    cases h with
    | nil => exact .nil
    | before h =>
      rw [blankComments_cons (by simp), blankComments_cons (by simp), blankComments_cons (by simp)]
      exact .before (ih _ (by simp [← hn]) h rfl)
    | after h =>
      rw [blankComments_cons (by simp), blankComments_cons (by simp), blankComments_cons (by simp)]
      exact .after (ih _ (by simp [← hn]) h rfl)
    | @cons c x y h =>
      by_cases hc : c = 0x2F
      · subst hc
        rcases h.cons_cases (c := 0x2A) (by decide) (by decide) with
          ⟨x', y', rfl, rfl, h'⟩ | ⟨hx, hy⟩
        · match hx : afterComment x', hy : afterComment y', afterComment_looseReturns h' with
          | none, none, _ =>
            rw [blankComments_open hx, blankComments_open hy]
            exact .cons _ (ih _ (by simp [← hn]) h rfl)
          | some rest, some rest', .some hrest =>
            rw [blankComments_closed hx, blankComments_closed hy]
            have hlen := (afterComment_suffix hx).length_le
            exact .cons _ (ih _ (by simp [← hn]; omega) hrest rfl)
        · rw [blankComments_cons fun _ t' ht => absurd (by simp [ht]) hx,
            blankComments_cons fun _ t' ht => absurd (by simp [ht]) hy]
          exact .cons _ (ih _ (by simp [← hn]) h rfl)
      · rw [blankComments_cons fun h => absurd h hc, blankComments_cons fun h => absurd h hc]
        exact .cons c (ih _ (by simp [← hn]) h rfl)

theorem blankLineComments_looseReturns {x y : Text} (h : LooseReturns x y) (inside : Bool) :
    LooseReturns (blankLineComments inside x) (blankLineComments inside y) := by
  have hslash : (('/' : Char) : CodeUnit) = 0x2F := rfl
  induction h generalizing inside with
  | nil => exact .nil
  | @cons c x y h ih =>
    simp only [blankLineComments, hslash]
    split_ifs with hlf _ hx hy hy
    · exact .cons c (ih false)
    · exact ih true
    · exact .cons _ (ih true)
    · rcases h.cons_cases (c := 0x2F) (by decide) (by decide) with
        ⟨x', y', rfl, rfl, -⟩ | ⟨hx', -⟩
      · exact absurd ⟨hx.1, rfl⟩ hy
      · exact absurd hx.2 hx'
    · rcases h.cons_cases (c := 0x2F) (by decide) (by decide) with
        ⟨x', y', rfl, rfl, -⟩ | ⟨-, hy'⟩
      · exact absurd ⟨hy.1, rfl⟩ hx
      · exact absurd hy.2 hy'
    · exact .cons c (ih false)
  | before h ih =>
    -- inside a comment the carriage return goes with it
    cases inside with
    | true => simpa [blankLineComments, hslash] using .cons 0x0A (ih false)
    | false => simpa [blankLineComments, hslash] using .before (ih false)
  | after h ih => simpa [blankLineComments, hslash] using .after (ih false)

/-! ## Attributes -/

theorem isAttribute_eq {x y : Text} (h : LooseReturns x y) : isAttribute x = isAttribute y := by
  have hword : 0x0D ∉ attributeWord ∧ 0x0A ∉ attributeWord := by decide
  obtain ⟨hpre, hrest⟩ := h.isPrefixOf_eq hword.1 hword.2
  unfold isAttribute
  rw [← hpre]
  cases hx : attributeWord.isPrefixOf x with
  | false => rfl
  | true =>
    rw [Bool.true_and, Bool.true_and]
    have hargument := (hrest hx).dropWhile (p := CodeUnit.isBlank) (by decide) (by decide)
    rcases hargument.pair_cases (c := 0x28) (by decide) (by decide) with
      ⟨x', y', hx', hy', h'⟩ | ⟨hx', hy'⟩
    · simp only [hx', hy']
      have hclose := h'.dropWhile (p := (· != 0x29)) (by decide) (by decide)
      rcases hclose.pair_cases (c := 0x29) (by decide) (by decide) with
        ⟨x'', y'', hx'', hy'', h''⟩ | ⟨hx'', hy''⟩
      · simp only [hx'', hy'']
        exact h''.all_eq (by decide) (by decide)
      · split
        next hz => exact absurd hz (hx'' _)
        next => rfl
    · split
      next hz => exact absurd hz (hx' _)
      next => rfl

theorem isAttribute_cons {c : CodeUnit} (hc : c ≠ 0x5F) (t : Text) :
    isAttribute (c :: t) = false := by
  have hword : attributeWord = 0x5F :: attributeWord.tail := rfl
  rw [isAttribute, hword]
  simp [hc.symm]

theorem dropAttribute_looseReturns {x y : Text} (h : LooseReturns x y) :
    LooseReturns (dropAttribute x) (dropAttribute y) := by
  induction h with
  | nil => exact .nil
  | @cons c x y h ih =>
    rw [dropAttribute, dropAttribute, isAttribute_eq (h.cons c)]
    split_ifs
    · exact .nil
    · exact .cons c ih
  | before h ih => simpa [dropAttribute, isAttribute_cons] using .before ih
  | after h ih => simpa [dropAttribute, isAttribute_cons] using .after ih

/-! ## Names -/

theorem reverse_trimEnd (t : Text) : t.trimEnd.reverse = t.reverse.dropWhile CodeUnit.isBlank := by
  simp [Text.trimEnd, Text.trimStart]

theorem cleanHeader_looseReturns {x y : Text} (h : LooseReturns x y) :
    LooseReturns (cleanHeader x) (cleanHeader y) := by
  have hreverse : LooseReturns (cleanHeader x).reverse (cleanHeader y).reverse := by
    rw [cleanHeader, cleanHeader, reverse_trimEnd, reverse_trimEnd]
    exact (dropAttribute_looseReturns (blankLineComments_looseReturns
      (blankComments_looseReturns h) false)).reverse.dropWhile (by decide) (by decide)
  simpa using hreverse.reverse

theorem closes_looseReturns {x y : Text} (h : LooseReturns x y) (depth : Nat) :
    Closes depth x ↔ Closes depth y := by
  have hplain {c : CodeUnit} (hc : c = 0x0D ∨ c = 0x0A) {depth : Nat} {t : Text} :
      Closes depth (c :: t) ↔ Closes depth t := by
    rcases hc with rfl | rfl <;> exact Closes.plain_iff (by decide) (by decide)
  induction h generalizing depth with
  | nil => rfl
  | @cons c x y h ih =>
    by_cases hopen : c = 0x28
    · rw [hopen, Closes.open_iff, Closes.open_iff]
      exact and_congr_right fun _ => ih 1
    by_cases hclose : c = 0x29
    · rw [hclose, Closes.close_iff, Closes.close_iff]
      exact and_congr_right fun _ => ih 0
    · rw [Closes.plain_iff hopen hclose, Closes.plain_iff hopen hclose]
      exact ih depth
  | before h ih =>
    rw [hplain (.inr rfl), hplain (.inl rfl), hplain (.inr rfl)]
    exact ih depth
  | after h ih =>
    rw [hplain (.inr rfl), hplain (.inr rfl), hplain (.inl rfl)]
    exact ih depth

theorem nameBefore_looseReturns {x y : Text} (h : LooseReturns x y) :
    nameBefore x = nameBefore y := by
  have hblank := h.reverse.dropWhile (p := CodeUnit.isBlank) (by decide) (by decide)
  rw [nameBefore, nameBefore, hblank.takeWhile_eq (p := CodeUnit.isWord) (by decide) (by decide)]

theorem endsInList_looseReturns {x y name : Text} (h : LooseReturns x y) :
    EndsInList x name ↔ EndsInList y name := by
  rw [endsInList_iff, endsInList_iff]
  constructor
  · rintro ⟨before, inner, hx, hinner, hname, hne⟩
    obtain ⟨before', rest, rfl, hbefore, hrest⟩ := h.exists_right (by decide) hx
    obtain ⟨inner', last, rfl, hinner', hlast⟩ := hrest.exists_right (by decide) rfl
    cases hlast
    exact ⟨before', inner', rfl, (closes_looseReturns hinner' 0).1 hinner,
      (nameBefore_looseReturns hbefore).symm.trans hname, hne⟩
  · rintro ⟨before, inner, hy, hinner, hname, hne⟩
    obtain ⟨before', rest, rfl, hbefore, hrest⟩ := h.exists_left (by decide) (by decide) hy
    obtain ⟨inner', last, rfl, hinner', hlast⟩ := hrest.exists_left (by decide) (by decide) rfl
    cases hlast
    exact ⟨before', inner', rfl, (closes_looseReturns hinner' 0).2 hinner,
      (nameBefore_looseReturns hbefore).trans hname, hne⟩

/-- Carriage returns beside line feeds do not matter for the name of a function. -/
theorem functionName_looseReturns {x y : Text} (h : LooseReturns x y) :
    functionName x = functionName y := by
  refine Option.ext fun name => ?_
  have hparts : EndsInList (cleanHeader x) name ↔ EndsInList (cleanHeader y) name :=
    endsInList_looseReturns (cleanHeader_looseReturns h)
  rw [functionName_eq_some_iff, functionName_eq_some_iff]
  exact ⟨fun h => ⟨hparts.1 h.parts, h.notKeyword⟩, fun h => ⟨hparts.2 h.parts, h.notKeyword⟩⟩

theorem functionName_expandLineBreaks (header : Text) :
    functionName (expandLineBreaks header) = functionName header :=
  (functionName_looseReturns (.expandLineBreaks header)).symm

end Code

end Remedy
