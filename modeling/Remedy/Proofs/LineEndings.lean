import Remedy.Proofs.Lines

/-!
# Rewriting line endings

Writing a text in one line ending and then in another is the same as writing it in the other at
once, unless the text holds a doubled carriage return: CR CR LF becomes CR LF when line breaks are
unified, and unifying once more takes that away as well (`line_endings_compose`). What is left
without its last line break behaves in the same way.
-/

namespace Remedy

/-- A carriage return before a line break. -/
def HasDoubledReturn (t : Text) : Prop := [0x0D, 0x0D, 0x0A] <:+: t

theorem unifyLineBreaks_cons {c : CodeUnit} {t : Text} (h : c = 0x0D → t.head? ≠ some 0x0A) :
    unifyLineBreaks (c :: t) = c :: unifyLineBreaks t := by
  rw [unifyLineBreaks]
  rintro t rfl rfl
  exact h rfl rfl

theorem unifyLineBreaks_expandLineBreaks (t : Text) : unifyLineBreaks (expandLineBreaks t) = t := by
  induction t with
  | nil => rfl
  | cons c t ih =>
    rw [expandLineBreaks, List.flatMap_cons, ← expandLineBreaks]
    split_ifs with hc
    · simp [unifyLineBreaks, ih, hc]
    · rw [List.singleton_append, unifyLineBreaks_cons, ih]
      intro _ hd
      cases t with
      | nil => simp [expandLineBreaks] at hd
      | cons d t => by_cases hd' : d = 0x0A <;> simp_all [expandLineBreaks]

theorem head?_of_head?_unifyLineBreaks {t : Text} (h : (unifyLineBreaks t).head? = some 0x0A) :
    t.head? = some 0x0A ∨ [0x0D, 0x0A] <+: t := by
  fun_cases unifyLineBreaks t with
  | case1 => simp [unifyLineBreaks] at h
  | case2 t => exact .inr (by simp)
  | case3 c t hc => exact .inl (by simpa [unifyLineBreaks, hc] using h)

theorem hasDoubledReturn_of_unifyLineBreaks {t : Text} (h : [0x0D, 0x0A] <:+: unifyLineBreaks t) :
    HasDoubledReturn t := by
  fun_induction unifyLineBreaks t with
  | case1 => simp at h
  | case2 t ih =>
    have h := (List.infix_cons_iff.1 h).resolve_left (by simp)
    exact List.infix_cons (List.infix_cons (ih h))
  | case3 c t hc ih =>
    rcases List.infix_cons_iff.1 h with h | h
    · obtain ⟨rfl, hlf⟩ := List.cons_prefix_cons.1 h
      have hhead : (unifyLineBreaks t).head? = some 0x0A := by
        obtain ⟨rest, hrest⟩ := hlf
        rw [← hrest]
        rfl
      rcases head?_of_head?_unifyLineBreaks hhead with ht | ⟨rest, rfl⟩
      · cases t with
        | nil => simp at ht
        | cons d t => exact (hc t rfl (by simpa using ht)).elim
      · exact ⟨[], rest, rfl⟩
    · exact List.infix_cons (ih h)

theorem unifyLineBreaks_eq_self {t : Text} (h : ¬ [0x0D, 0x0A] <:+: t) : unifyLineBreaks t = t := by
  fun_induction unifyLineBreaks t with
  | case1 => rfl
  | case2 t ih => exact absurd ⟨[], t, rfl⟩ h
  | case3 c t hc ih => rw [ih fun ht => h (List.infix_cons ht)]

/-- Unifying line breaks changes a text exactly when it has a CR LF. -/
theorem unifyLineBreaks_eq_self_iff {t : Text} :
    unifyLineBreaks t = t ↔ ¬ [0x0D, 0x0A] <:+: t := by
  refine ⟨fun h hcrlf => ?_, unifyLineBreaks_eq_self⟩
  fun_induction unifyLineBreaks t with
  | case1 => simp at hcrlf
  | case2 t ih => simp at h
  | case3 c t hc ih =>
    rcases List.infix_cons_iff.1 hcrlf with ⟨rest, hrest⟩ | hcrlf
    · obtain ⟨rfl, rfl⟩ := List.cons.inj hrest
      exact hc rest rfl rfl
    · exact ih (List.cons.inj h).2 hcrlf

/-- A cut that does not part a CR LF. -/
theorem unifyLineBreaks_append_of_uncut {a b : Text}
    (h : a.getLast? = some 0x0D → b.head? ≠ some 0x0A) :
    unifyLineBreaks (a ++ b) = unifyLineBreaks a ++ unifyLineBreaks b := by
  fun_induction unifyLineBreaks a with
  | case1 => rfl
  | case2 t ih =>
    rw [List.cons_append, List.cons_append, unifyLineBreaks, ih, List.cons_append]
    intro ht
    apply h
    simp [List.getLast?_cons, ht]
  | case3 c t hc ih =>
    have hhead : c = 0x0D → (t ++ b).head? ≠ some 0x0A := by
      rintro rfl hlf
      cases t with
      | nil => exact h rfl hlf
      | cons d t => exact hc t rfl (by simpa using hlf)
    rw [List.cons_append, unifyLineBreaks_cons hhead, ih, List.cons_append]
    intro ht
    apply h
    simp [List.getLast?_cons, ht]

theorem unifyLineBreaks_append_crlf (a : Text) :
    unifyLineBreaks (a ++ [0x0D, 0x0A]) = unifyLineBreaks a ++ [0x0A] :=
  unifyLineBreaks_append_of_uncut (by simp)

theorem unifyLineBreaks_append_lf {a : Text} (h : a.getLast? ≠ some 0x0D) :
    unifyLineBreaks (a ++ [0x0A]) = unifyLineBreaks a ++ [0x0A] :=
  unifyLineBreaks_append_of_uncut fun hcr => absurd hcr h

theorem getLast?_unifyLineBreaks (t : Text) : (unifyLineBreaks t).getLast? = t.getLast? := by
  rcases terminator_cases t with ⟨body, rfl, -⟩ | ⟨body, rfl, hlast, -⟩ | ⟨hlast, -⟩
  · rw [unifyLineBreaks_append_crlf]
    simp
  · rw [unifyLineBreaks_append_lf hlast]
    simp
  · rcases List.eq_nil_or_concat t with rfl | ⟨body, c, rfl⟩
    · rfl
    · have hc : c ≠ 0x0A := by simpa using hlast
      rw [List.concat_eq_append, unifyLineBreaks_append_of_uncut fun _ => by simpa using hc]
      simp [unifyLineBreaks]

/-- Unifying line breaks leaves a CR LF behind exactly where a carriage return was doubled. -/
theorem crlf_unifyLineBreaks_iff {t : Text} :
    [0x0D, 0x0A] <:+: unifyLineBreaks t ↔ HasDoubledReturn t := by
  refine ⟨hasDoubledReturn_of_unifyLineBreaks, ?_⟩
  rintro ⟨before, after, rfl⟩
  have hcut : unifyLineBreaks (before ++ [0x0D, 0x0D, 0x0A] ++ after) =
      unifyLineBreaks (before ++ [0x0D]) ++ 0x0A :: unifyLineBreaks after := by
    rw [show before ++ [0x0D, 0x0D, 0x0A] ++ after =
      (before ++ [0x0D]) ++ (0x0D :: 0x0A :: after) by simp,
      unifyLineBreaks_append_of_uncut (by simp), unifyLineBreaks]
  have hlast : (unifyLineBreaks (before ++ [0x0D])).getLast? = some 0x0D := by
    rw [getLast?_unifyLineBreaks]
    simp
  obtain ⟨front, hfront⟩ := List.getLast?_eq_some_iff.1 hlast
  rw [hcut, hfront]
  exact ⟨front, unifyLineBreaks after, by simp⟩

/-! ## Writing line feeds as CR LF -/

@[simp]
theorem expandLineBreaks_nil : expandLineBreaks [] = [] := rfl

@[simp]
theorem expandLineBreaks_append (a b : Text) :
    expandLineBreaks (a ++ b) = expandLineBreaks a ++ expandLineBreaks b := by
  simp [expandLineBreaks]

@[simp]
theorem expandLineBreaks_lf (t : Text) :
    expandLineBreaks (0x0A :: t) = 0x0D :: 0x0A :: expandLineBreaks t := rfl

theorem expandLineBreaks_cons {c : CodeUnit} (h : c ≠ 0x0A) (t : Text) :
    expandLineBreaks (c :: t) = c :: expandLineBreaks t := by
  simp [expandLineBreaks, h]

theorem expandLineBreaks_eq_self {t : Text} (h : 0x0A ∉ t) : expandLineBreaks t = t := by
  induction t with
  | nil => rfl
  | cons c t ih =>
    rw [List.mem_cons, not_or] at h
    rw [expandLineBreaks_cons (Ne.symm h.1), ih h.2]

theorem expandLineBreaks_injective {a b : Text} (h : expandLineBreaks a = expandLineBreaks b) :
    a = b := by
  rw [← unifyLineBreaks_expandLineBreaks a, h, unifyLineBreaks_expandLineBreaks]

theorem expandLineBreaks_eq_nil_iff {t : Text} : expandLineBreaks t = [] ↔ t = [] :=
  ⟨fun h => expandLineBreaks_injective (h.trans expandLineBreaks_nil.symm), by rintro rfl; rfl⟩

theorem mem_expandLineBreaks_lf_iff {t : Text} : 0x0A ∈ expandLineBreaks t ↔ 0x0A ∈ t := by
  simp only [expandLineBreaks, List.mem_flatMap]
  constructor
  · rintro ⟨c, hc, h⟩
    split_ifs at h with hlf
    · exact hlf ▸ hc
    · exact List.mem_singleton.1 h ▸ hc
  · exact fun h => ⟨0x0A, h, by simp⟩

theorem mem_expandLineBreaks_cr {t : Text} (h : 0x0A ∈ t) : 0x0D ∈ expandLineBreaks t := by
  simp only [expandLineBreaks, List.mem_flatMap]
  exact ⟨0x0A, h, by simp⟩

theorem head?_expandLineBreaks_ne_lf (t : Text) : (expandLineBreaks t).head? ≠ some 0x0A := by
  cases t with
  | nil => simp
  | cons c t =>
    by_cases hc : c = 0x0A
    · simp [hc]
    · simpa [expandLineBreaks_cons hc] using hc

/-- A cut that does not part a line break is a cut of the text before its line feeds were
expanded. -/
theorem expandLineBreaks_eq_append {t x y : Text} (h : expandLineBreaks t = x ++ y)
    (hy : y.head? ≠ some 0x0A) :
    ∃ a b, t = a ++ b ∧ x = expandLineBreaks a ∧ y = expandLineBreaks b := by
  induction t generalizing x with
  | nil =>
    obtain ⟨rfl, rfl⟩ := List.append_eq_nil_iff.1 h.symm
    exact ⟨[], [], rfl, rfl, rfl⟩
  | cons c t ih =>
    cases x with
    | nil => exact ⟨[], c :: t, rfl, rfl, h.symm⟩
    | cons d x =>
      by_cases hc : c = 0x0A
      · subst hc
        rw [expandLineBreaks_lf, List.cons_append, List.cons.injEq] at h
        obtain ⟨rfl, h⟩ := h
        cases x with
        | nil => exact absurd (congrArg List.head? h.symm) hy
        | cons e x =>
          rw [List.cons_append, List.cons.injEq] at h
          obtain ⟨a, b, rfl, rfl, rfl⟩ := ih h.2
          exact ⟨0x0A :: a, b, rfl, by simp [← h.1], rfl⟩
      · rw [expandLineBreaks_cons hc, List.cons_append, List.cons.injEq] at h
        obtain ⟨a, b, rfl, rfl, rfl⟩ := ih h.2
        exact ⟨c :: a, b, rfl, by rw [expandLineBreaks_cons hc, h.1], rfl⟩

/-- Every line feed comes after a carriage return. -/
theorem getLast?_of_expandLineBreaks {t x y : Text} (h : expandLineBreaks t = x ++ 0x0A :: y) :
    x.getLast? = some 0x0D := by
  induction t generalizing x with
  | nil => simp at h
  | cons c t ih =>
    cases x with
    | nil => exact absurd (by rw [h]; rfl) (head?_expandLineBreaks_ne_lf (c :: t))
    | cons d x =>
      by_cases hc : c = 0x0A
      · subst hc
        rw [expandLineBreaks_lf, List.cons_append, List.cons.injEq] at h
        obtain ⟨rfl, h⟩ := h
        cases x with
        | nil => rfl
        | cons e x =>
          rw [List.cons_append, List.cons.injEq] at h
          simp [List.getLast?_cons, ih h.2]
      · rw [expandLineBreaks_cons hc, List.cons_append, List.cons.injEq] at h
        simp [List.getLast?_cons, ih h.2]

theorem getLast?_expandLineBreaks (t : Text) : (expandLineBreaks t).getLast? = t.getLast? := by
  rcases List.eq_nil_or_concat t with rfl | ⟨t, c, rfl⟩
  · rfl
  · by_cases hc : c = 0x0A <;> simp [expandLineBreaks, hc]

/-- Without CR LF in a text, dropping its last line break can be done before or after writing the
line breaks as CR LF. -/
theorem stripTerminator_expandLineBreaks {t : Text} (h : ¬ [0x0D, 0x0A] <:+: t) :
    stripTerminator (expandLineBreaks t) = expandLineBreaks (stripTerminator t) := by
  by_cases ht : t.getLast? = some 0x0A
  · obtain ⟨body, rfl⟩ := List.getLast?_eq_some_iff.1 ht
    have hb : body.getLast? ≠ some 0x0D := by
      intro hb
      obtain ⟨body, rfl⟩ := List.getLast?_eq_some_iff.1 hb
      exact h ⟨body, [], by simp⟩
    have he : expandLineBreaks (body ++ [0x0A]) = expandLineBreaks body ++ [0x0D, 0x0A] := by
      simp [expandLineBreaks]
    rw [he, stripTerminator_append_crlf, stripTerminator_append_lf hb]
  · rw [stripTerminator_eq_self ht, stripTerminator_eq_self (getLast?_expandLineBreaks t ▸ ht)]

theorem stripTerminator_unifyLineBreaks {t : Text} (h : ¬ HasDoubledReturn t) :
    stripTerminator (unifyLineBreaks t) = unifyLineBreaks (stripTerminator t) := by
  rcases terminator_cases t with ⟨body, rfl, -⟩ | ⟨body, rfl, hlast, -⟩ | ⟨hlast, -⟩
  · have hlast : body.getLast? ≠ some 0x0D := by
      intro hcr
      obtain ⟨front, rfl⟩ := List.getLast?_eq_some_iff.1 hcr
      exact h ⟨front, [], by simp⟩
    rw [unifyLineBreaks_append_crlf, stripTerminator_append_crlf,
      stripTerminator_append_lf (by rwa [getLast?_unifyLineBreaks])]
  · rw [unifyLineBreaks_append_lf hlast, stripTerminator_append_lf hlast,
      stripTerminator_append_lf (by rwa [getLast?_unifyLineBreaks])]
  · rw [stripTerminator_eq_self hlast,
      stripTerminator_eq_self (by rwa [getLast?_unifyLineBreaks])]

theorem not_crlf_stripTerminator {t : Text} (h : ¬ [0x0D, 0x0A] <:+: t) :
    ¬ [0x0D, 0x0A] <:+: stripTerminator t := fun hs =>
  h (hs.trans ⟨[], terminator t, stripTerminator_append_terminator t⟩)

/-! ## Writing a text twice -/

/-- Only a first pass that unifies line breaks can get in the way of the second: it leaves CR LF in
a text whose line breaks should be LF. -/
theorem toLineEnding_twice_iff {t : Text} {a b : LineEnding} :
    toLineEnding (toLineEnding t a) b = toLineEnding t b ↔ ¬ (a = .lf ∧ HasDoubledReturn t) := by
  cases a with
  | crlf => cases b <;> simp [toLineEnding, unifyLineBreaks_expandLineBreaks]
  | lf =>
    have hpass : toLineEnding (toLineEnding t .lf) b = toLineEnding t b ↔
        unifyLineBreaks (unifyLineBreaks t) = unifyLineBreaks t := by
      cases b with
      | lf => exact Iff.rfl
      | crlf => exact ⟨expandLineBreaks_injective, congrArg expandLineBreaks⟩
    rw [hpass, unifyLineBreaks_eq_self_iff, crlf_unifyLineBreaks_iff]
    simp

/-- Writing a text in one line ending and then in another is writing it in the other at once, unless
the first is LF and the text has a CR CR LF. In CR LF every line feed comes after a carriage return;
in LF a CR LF is left exactly where there was CR CR LF. -/
theorem line_endings_compose (t : Text) :
    (∀ a b : LineEnding, toLineEnding (toLineEnding t a) b = toLineEnding t b ↔
      ¬ (a = .lf ∧ [0x0D, 0x0D, 0x0A] <:+: t)) ∧
    (∀ before after, toLineEnding t .crlf = before ++ 0x0A :: after →
      before.getLast? = some 0x0D) ∧
    ([0x0D, 0x0A] <:+: toLineEnding t .lf ↔ [0x0D, 0x0D, 0x0A] <:+: t) :=
  ⟨fun _ _ => toLineEnding_twice_iff, fun _ _ => getLast?_of_expandLineBreaks,
    crlf_unifyLineBreaks_iff⟩

/-- The first line break of this text is left a CR LF by the first pass, and unified by the
second. -/
theorem line_endings_compose_doubled :
    let doubled : Text := "a\r\r\nb\n"
    toLineEnding (toLineEnding doubled .lf) .crlf ≠ toLineEnding doubled .crlf ∧
      toLineEnding (toLineEnding doubled .crlf) .lf = toLineEnding doubled .lf ∧
      (∃ before after, toLineEnding doubled .crlf = before ++ 0x0A :: after ∧
        before.getLast? = some 0x0D) ∧
      [0x0D, 0x0A] <:+: toLineEnding doubled .lf := by
  intro doubled
  obtain ⟨htwice, hcrlf, hlf⟩ := line_endings_compose doubled
  have hdoubled : [0x0D, 0x0D, 0x0A] <:+: doubled := ⟨"a", "b\n", rfl⟩
  have hbreak : toLineEnding doubled .crlf = [0x61, 0x0D, 0x0D] ++ 0x0A :: "b\r\n" := rfl
  exact ⟨fun h => (htwice .lf .crlf).1 h ⟨rfl, hdoubled⟩, (htwice .crlf .lf).2 (by simp),
    ⟨_, _, hbreak, hcrlf _ _ hbreak⟩, hlf.2 hdoubled⟩

section NoDoubledReturn

variable {t : Text} (h : ¬ HasDoubledReturn t)

include h

theorem not_crlf_unifyLineBreaks : ¬ [0x0D, 0x0A] <:+: unifyLineBreaks t :=
  mt hasDoubledReturn_of_unifyLineBreaks h

/-- Only the last line ending a text is written in counts. -/
theorem toLineEnding_toLineEnding (a b : LineEnding) :
    toLineEnding (toLineEnding t a) b = toLineEnding t b :=
  toLineEnding_twice_iff.2 fun hlf => h hlf.2

/-- The last line break can be dropped before or after the line endings are rewritten. -/
theorem toLineEnding_of_stripTerminator (ending : LineEnding) :
    toLineEnding (stripTerminator t) ending = stripTerminator (toLineEnding t ending) := by
  cases ending with
  | lf => exact (stripTerminator_unifyLineBreaks h).symm
  | crlf =>
    rw [toLineEnding, toLineEnding, stripTerminator_expandLineBreaks (not_crlf_unifyLineBreaks h),
      stripTerminator_unifyLineBreaks h]

theorem toLineEnding_stripTerminator (a b : LineEnding) :
    toLineEnding (stripTerminator (toLineEnding t a)) b = stripTerminator (toLineEnding t b) := by
  have hu := not_crlf_unifyLineBreaks h
  have hs := unifyLineBreaks_eq_self (not_crlf_stripTerminator hu)
  cases a <;> cases b <;> simp only [toLineEnding, stripTerminator_expandLineBreaks hu,
    unifyLineBreaks_expandLineBreaks, hs]

end NoDoubledReturn

theorem toLineEnding_eq_nil_iff {t : Text} {ending : LineEnding} :
    toLineEnding t ending = [] ↔ t = [] := by
  have hnil (u : Text) : u = [] ↔ u.getLast? = none := List.getLast?_eq_none_iff.symm
  rw [hnil, hnil t]
  cases ending with
  | lf => rw [toLineEnding, getLast?_unifyLineBreaks]
  | crlf => rw [toLineEnding, getLast?_expandLineBreaks, getLast?_unifyLineBreaks]

end Remedy
