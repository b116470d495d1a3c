import Mathlib.Data.List.Induction
import Mathlib.Logic.Relation
import Mathlib.Tactic.Common
import Remedy.Pattern.Reach

/-!
# What an expression matches

A test without captures goes by the positions an expression can reach, a search by the matcher that
tries one way after another. Here both are said of texts: `Reads t node Matches` tells which parts
of `t` a node matches, given what stands before and after them. There is one rule for each way to
put a node together. `test_iff` draws the conclusion for a test, `leftmost_find?_of_reads` for the
leftmost match and `leftmost_find?_of_group` for one with a group in front. The rules cover
expressions without flags that read forwards and repeat their parts without bounds.
-/

namespace Remedy.Pattern

/-- A text as the input of an expression without flags. -/
def inputOf (t : Text) : Input := ⟨(t.map UInt16.toNat).toArray, noFlags⟩

/-- A part of a text for which `Matches` holds, together with what stands before and after it, leads
from one position to another. -/
def Step (t : Text) (Matches : Text → Text → Text → Prop) (p q : Nat) : Prop :=
  ∃ before part after, t = before ++ (part ++ after) ∧ before.length = p ∧
    (before ++ part).length = q ∧ Matches before part after

/-- A node matches exactly those parts of a text for which `Matches` holds. This is so for the
positions it reaches, and for what the matcher hands on to the rest of the expression. -/
structure Reads (t : Text) (node : Node) (Matches : Text → Text → Text → Prop) : Prop where
  mem_reach_iff : ∀ ps : Positions, (∀ p ∈ ps, p ≤ t.length) → ∀ q,
    q ∈ reach (inputOf t) node .forward ps ↔ ∃ p ∈ ps, Step t Matches p q
  exists_of_run : ∀ {before rest : Text} {captures : Array (Option (Nat × Nat))}
    {k : Continuation} {last : State}, t = before ++ rest →
    run (inputOf t) node .forward ⟨before.length, captures⟩ k = some last →
    ∃ part after, rest = part ++ after ∧ Matches before part after ∧
      k ⟨(before ++ part).length, captures⟩ = some last
  isSome_run : ∀ {before part after : Text} {captures : Array (Option (Nat × Nat))}
    {k : Continuation}, t = before ++ (part ++ after) → Matches before part after →
    (k ⟨(before ++ part).length, captures⟩).isSome = true →
    (run (inputOf t) node .forward ⟨before.length, captures⟩ k).isSome = true

/-! ## Reaching positions by steps -/

section Steps

variable {step : Positions → Positions} {R : Nat → Nat → Prop} {size : Nat}

/-- Once every step from a position leads to another one of them, no number of steps leads away. -/
theorem mem_iff_of_closed {ps : Positions} (h : ∀ p ∈ ps, ∀ q, R p q → q ∈ ps) {q : Nat} :
    q ∈ ps ↔ ∃ p ∈ ps, Relation.ReflTransGen R p q := by
  refine ⟨fun hq => ⟨q, hq, .refl⟩, ?_⟩
  rintro ⟨p, hp, hsteps⟩
  induction hsteps with
  | refl => exact hp
  | tail _ hlast ih => exact h _ ih _ hlast

/-- All positions that any number of steps lead to are found, as long as each step leads onwards and
none leads beyond the end. -/
theorem mem_withSteps
    (hstep : ∀ ps : Positions, (∀ p ∈ ps, p ≤ size) → ∀ q, q ∈ step ps ↔ ∃ p ∈ ps, R p q)
    (honward : ∀ p q, R p q → p < q ∧ q ≤ size) {seen : Std.HashSet Nat}
    {reached last : Positions} {n : Nat} (hseen : ∀ p, seen.contains p = true ↔ p ∈ reached)
    (hlast : ∀ p ∈ last, p ∈ reached) (hbound : ∀ p ∈ last, p ≤ size)
    (hclosed : ∀ p ∈ reached, p ∉ last → ∀ q, R p q → q ∈ reached)
    (hfuel : ∀ p ∈ last, size ≤ p + n) {q : Nat} :
    q ∈ withSteps step seen reached last n ↔ ∃ p ∈ reached, Relation.ReflTransGen R p q := by
  -- a step leads out of what is reached only from the last positions, and these move on
  induction n generalizing seen reached last with
  | zero =>
    refine mem_iff_of_closed fun p hp q hpq => ?_
    by_cases hmem : p ∈ last
    · have := hfuel p hmem
      have := honward p q hpq
      omega
    · exact hclosed p hp hmem q hpq
  | succ n ih =>
    simp only [withSteps]
    set next := (step last).filter fun p => !seen.contains p with hnext
    have hmem (r : Nat) : r ∈ next ↔ (∃ p ∈ last, R p r) ∧ r ∉ reached := by
      rw [hnext, List.mem_filter, hstep last hbound, Bool.not_eq_true', ← Bool.not_eq_true, hseen]
    split_ifs with hempty
    · refine mem_iff_of_closed fun p hp r hpr => ?_
      by_cases hin : p ∈ last
      · by_contra hr
        have := (hmem r).2 ⟨⟨p, hin, hpr⟩, hr⟩
        rw [List.isEmpty_iff.1 hempty] at this
        simp at this
      · exact hclosed p hp hin r hpr
    · rw [ih]
      · constructor
        · rintro ⟨p, hp, hsteps⟩
          rcases List.mem_append.1 hp with hp | hp
          · obtain ⟨⟨r, hr, hrp⟩, -⟩ := (hmem p).1 hp
            exact ⟨r, hlast r hr, .head hrp hsteps⟩
          · exact ⟨p, hp, hsteps⟩
        · rintro ⟨p, hp, hsteps⟩
          exact ⟨p, List.mem_append_right _ hp, hsteps⟩
      · intro p
        rw [Std.HashSet.contains_insertMany_list, Bool.or_eq_true, hseen, List.mem_append,
          List.contains_iff_mem, or_comm]
      · exact fun p hp => List.mem_append_left _ hp
      · intro p hp
        obtain ⟨⟨r, hr, hrp⟩, -⟩ := (hmem p).1 hp
        exact (honward r p hrp).2
      · intro p hp hnot r hpr
        have hold := (List.mem_append.1 hp).resolve_left hnot
        by_cases hr : r ∈ reached
        · exact List.mem_append_right _ hr
        · by_cases hin : p ∈ last
          · exact List.mem_append_left _ ((hmem r).2 ⟨⟨p, hin, hpr⟩, hr⟩)
          · exact (hr (hclosed p hold hin r hpr)).elim
      · intro p hp
        obtain ⟨⟨r, hr, hrp⟩, -⟩ := (hmem p).1 hp
        have := hfuel r hr
        have := (honward r p hrp).1
        omega

end Steps

/-! ## Parts -/

section Parts

variable {t : Text} {Matches Others : Text → Text → Text → Prop} {p q : Nat}

theorem Step.le (h : Step t Matches p q) : p ≤ q ∧ q ≤ t.length := by
  obtain ⟨before, part, after, rfl, rfl, rfl, -⟩ := h
  simp only [List.length_append]
  omega

theorem Step.imp (h : Step t Matches p q)
    (himp : ∀ before part after, Matches before part after → Others before part after) :
    Step t Others p q := by
  obtain ⟨before, part, after, htext, hp, hq, hmatches⟩ := h
  exact ⟨before, part, after, htext, hp, hq, himp _ _ _ hmatches⟩

/-- A part that takes up no room. -/
theorem step_nil_iff (At : Text → Text → Prop) (hp : p ≤ t.length) :
    Step t (fun before part after => part = [] ∧ At before after) p q ↔
      p = q ∧ At (t.take p) (t.drop p) := by
  constructor
  · rintro ⟨before, part, after, rfl, rfl, rfl, rfl, hat⟩
    simpa using hat
  · rintro ⟨rfl, hat⟩
    have hlength : (t.take p).length = p := List.length_take_of_le hp
    exact ⟨t.take p, [], t.drop p, by simp, hlength, by rw [List.append_nil, hlength], rfl, hat⟩

theorem step_append_iff :
    Step t (fun before part after => ∃ first second, part = first ++ second ∧
        Matches before first (second ++ after) ∧ Others (before ++ first) second after) p q ↔
      ∃ r, Step t Matches p r ∧ Step t Others r q := by
  constructor
  · rintro ⟨before, part, after, htext, hp, hq, first, second, rfl, hfirst, hsecond⟩
    rw [List.append_assoc] at htext
    refine ⟨(before ++ first).length, ⟨before, first, second ++ after, htext, hp, rfl, hfirst⟩, ?_⟩
    exact ⟨before ++ first, second, after, by rw [htext, List.append_assoc], rfl,
      by rw [← hq, List.append_assoc], hsecond⟩
  · rintro ⟨r, ⟨before, first, rest, htext, hp, hr, hfirst⟩, front, second, after, htext', hr', hq,
      hsecond⟩
    -- both parts lie in the same text, so that the second begins where the first ends
    rw [htext, ← List.append_assoc] at htext'
    obtain ⟨rfl, rfl⟩ := List.append_inj htext' (hr.trans hr'.symm)
    exact ⟨before, first ++ second, after, by rw [htext, List.append_assoc], hp,
      by rw [← hq, List.append_assoc], first, second, rfl, hfirst, hsecond⟩

theorem step_or_iff :
    Step t (fun before part after => Matches before part after ∨ Others before part after) p q ↔
      Step t Matches p q ∨ Step t Others p q := by
  constructor
  · rintro ⟨before, part, after, htext, hp, hq, h | h⟩
    · exact .inl ⟨before, part, after, htext, hp, hq, h⟩
    · exact .inr ⟨before, part, after, htext, hp, hq, h⟩
  · rintro (h | h)
    · exact h.imp fun _ _ _ => .inl
    · exact h.imp fun _ _ _ => .inr

/-- Any number of parts, one after the other. -/
inductive Repeats (Matches : Text → Text → Text → Prop) : Text → Text → Text → Prop
  | nil (before after : Text) : Repeats Matches before [] after
  | cons {before first rest after : Text} : Matches before first (rest ++ after) →
      Repeats Matches (before ++ first) rest after → Repeats Matches before (first ++ rest) after

theorem repeats_singleton_iff {test : CodeUnit → Bool} {before part after : Text} :
    Repeats (fun _ part _ => ∃ c, part = [c] ∧ test c = true) before part after ↔
      ∀ c ∈ part, test c = true := by
  constructor
  · intro h
    induction h with
    | nil => simp
    | cons hfirst _ ih =>
      obtain ⟨c, rfl, hc⟩ := hfirst
      exact List.forall_mem_cons.2 ⟨hc, ih⟩
  · intro h
    induction part generalizing before with
    | nil => exact .nil before after
    | cons c part ih =>
      obtain ⟨hc, hpart⟩ := List.forall_mem_cons.1 h
      show Repeats _ before ([c] ++ part) after
      exact .cons ⟨c, rfl, hc⟩ (ih hpart)

theorem reflTransGen_step_iff (hp : p ≤ t.length) :
    Relation.ReflTransGen (Step t Matches) p q ↔ Step t (Repeats Matches) p q := by
  constructor
  · intro h
    have hq : q ≤ t.length := by
      rcases h.cases_tail with rfl | ⟨r, -, hlast⟩
      · exact hp
      · exact hlast.le.2
    induction h using Relation.ReflTransGen.head_induction_on with
    | refl =>
      have hnone := (step_nil_iff (fun _ _ => True) hq).2 ⟨rfl, trivial⟩
      refine hnone.imp ?_
      rintro before part after ⟨rfl, -⟩
      exact .nil before after
    | head hfirst _ ih =>
      refine (step_append_iff.2 ⟨_, hfirst, ih hfirst.le.2⟩).imp ?_
      rintro before part after ⟨first, rest, rfl, hfirst, hrest⟩
      exact .cons hfirst hrest
  · rintro ⟨before, part, after, htext, rfl, rfl, hpart⟩
    induction hpart with
    | nil => simpa using Relation.ReflTransGen.refl
    | @cons before first rest after hfirst _ ih =>
      rw [List.append_assoc] at htext
      rw [← List.append_assoc]
      have hstep := ih (by rw [htext, List.append_assoc]) (by simp [htext])
      exact .head ⟨before, first, rest ++ after, htext, rfl, rfl, hfirst⟩ hstep

end Parts

/-! ## Rules -/

section Rules

variable {t : Text} {node other : Node} {Matches Others : Text → Text → Text → Prop}

theorem Reads.of_iff (h : Reads t node Matches)
    (hiff : ∀ before part after, Matches before part after ↔ Others before part after) :
    Reads t node Others := by
  obtain rfl : Matches = Others := by
    funext before part after
    exact propext (hiff before part after)
  exact h

theorem Reads.empty : Reads t .empty fun _ part _ => part = [] where
  mem_reach_iff ps hps q := by
    have hstep (p : Nat) (hp : p ∈ ps) : Step t (fun _ part _ => part = []) p q ↔ p = q := by
      simpa using step_nil_iff (q := q) (fun _ _ => True) (hps p hp)
    rw [reach]
    constructor
    · intro hq
      exact ⟨q, hq, (hstep q hq).2 rfl⟩
    · rintro ⟨p, hp, h⟩
      obtain rfl := (hstep p hp).1 h
      exact hp
  exists_of_run := by
    intro before rest captures k last _ hrun
    rw [run] at hrun
    exact ⟨[], rest, rfl, rfl, by simpa using hrun⟩
  isSome_run := by
    rintro before part after captures k _ rfl hk
    rw [run]
    simpa using hk

/-! ### Characters -/

theorem char?_inputOf (t : Text) (i : Nat) : (inputOf t).char? i = t[i]?.map UInt16.toNat := by
  simp [inputOf, Input.char?]

theorem mem_advance {test : Nat → Bool} {ps : Positions} {q : Nat} :
    q ∈ (inputOf t).advance test .forward ps ↔
      ∃ p ∈ ps, Step t (fun _ part _ => ∃ c : CodeUnit, part = [c] ∧ test c.toNat = true) p q := by
  simp only [Input.advance, List.mem_filterMap, char?_inputOf]
  refine exists_congr fun p => and_congr_right fun _ => ?_
  constructor
  · intro h
    split_ifs at h with htest
    rw [Option.any_map, Option.any_eq_true] at htest
    obtain ⟨c, hc, htest⟩ := htest
    obtain ⟨hlt, rfl⟩ := List.getElem?_eq_some_iff.1 hc
    have hlength : (t.take p).length = p := List.length_take_of_le (Nat.le_of_lt hlt)
    refine ⟨t.take p, [t[p]], t.drop (p + 1), ?_, hlength, ?_, t[p], rfl, htest⟩
    · rw [List.singleton_append, ← List.drop_eq_getElem_cons hlt, List.take_append_drop]
    · rw [List.length_append, hlength, ← Option.some.inj h, List.length_singleton]
  · rintro ⟨before, part, after, rfl, rfl, rfl, c, rfl, htest⟩
    simp [htest]

/-- Reading one character that passes a test. -/
theorem Reads.advance {test : Nat → Bool}
    (hreach : ∀ ps, reach (inputOf t) node .forward ps = (inputOf t).advance test .forward ps)
    (hrun : ∀ x k, run (inputOf t) node .forward x k = (inputOf t).step test .forward x k) :
    Reads t node fun _ part _ => ∃ c : CodeUnit, part = [c] ∧ test c.toNat = true where
  mem_reach_iff ps _ q := by rw [hreach, mem_advance]
  exists_of_run := by
    intro before rest captures k last htext h
    rw [hrun, Input.step, char?_inputOf, htext, List.getElem?_append_right (Nat.le_refl _),
      Nat.sub_self, ← List.head?_eq_getElem?, Option.any_map] at h
    split_ifs at h with htest
    rw [Option.any_eq_true] at htest
    obtain ⟨c, hc, htest⟩ := htest
    obtain ⟨after, rfl⟩ := List.head?_eq_some_iff.1 hc
    exact ⟨[c], after, rfl, ⟨c, rfl, htest⟩, by simpa using h⟩
  isSome_run := by
    rintro before part after captures k htext ⟨c, rfl, htest⟩ hk
    rw [hrun, Input.step, char?_inputOf, if_pos (by simp [htext, htest])]
    simpa using hk

theorem Reads.char (c : CodeUnit) : Reads t (.char c.toNat) fun _ part _ => part = [c] := by
  refine (Reads.advance (fun _ => rfl) fun _ _ => rfl).of_iff fun before part after => ?_
  simp [inputOf, canonical, noFlags, UInt16.toNat_inj]

theorem Reads.set (chars : CharSet) : Reads t (.set chars) fun _ part _ =>
    ∃ c : CodeUnit, part = [c] ∧ chars.contains noFlags c.toNat = true :=
  Reads.advance (fun _ => rfl) fun _ _ => rfl

/-! ### Sequences and choices -/

theorem Reads.seq (h : Reads t node Matches) (hother : Reads t other Others) :
    Reads t (.seq node other) fun before part after => ∃ first second, part = first ++ second ∧
      Matches before first (second ++ after) ∧ Others (before ++ first) second after where
  mem_reach_iff ps hps q := by
    have hreached : ∀ p ∈ reach (inputOf t) node .forward ps, p ≤ t.length := by
      intro p hp
      obtain ⟨_, -, hstep⟩ := (h.mem_reach_iff ps hps p).1 hp
      exact hstep.le.2
    rw [reach, hother.mem_reach_iff _ hreached]
    simp only [h.mem_reach_iff ps hps, step_append_iff]
    constructor
    · rintro ⟨r, ⟨p, hp, hfirst⟩, hsecond⟩
      exact ⟨p, hp, r, hfirst, hsecond⟩
    · rintro ⟨p, hp, r, hfirst, hsecond⟩
      exact ⟨r, ⟨p, hp, hfirst⟩, hsecond⟩
  exists_of_run := by
    intro before rest captures k last htext hrun
    rw [run] at hrun
    obtain ⟨first, rest, rfl, hfirst, hrun⟩ := h.exists_of_run htext hrun
    rw [← List.append_assoc] at htext
    obtain ⟨second, after, rfl, hsecond, hk⟩ := hother.exists_of_run htext hrun
    rw [List.append_assoc] at hk
    exact ⟨first ++ second, after, (List.append_assoc ..).symm, ⟨first, second, rfl, hfirst,
      hsecond⟩, hk⟩
  isSome_run := by
    rintro before part after captures k htext ⟨first, second, rfl, hfirst, hsecond⟩ hk
    rw [run]
    rw [List.append_assoc] at htext
    apply h.isSome_run htext hfirst
    rw [← List.append_assoc] at htext hk
    exact hother.isSome_run htext hsecond hk

theorem mem_union {ps qs : Positions} {p : Nat} : p ∈ union ps qs ↔ p ∈ ps ∨ p ∈ qs := by
  simp only [union, List.mem_append, List.mem_filter, Std.HashSet.contains_ofList,
    Bool.not_eq_true', List.contains_eq_mem, decide_eq_false_iff_not]
  tauto

theorem Reads.alt (h : Reads t node Matches) (hother : Reads t other Others) :
    Reads t (.alt node other) fun before part after =>
      Matches before part after ∨ Others before part after where
  mem_reach_iff ps hps q := by
    rw [reach, mem_union, h.mem_reach_iff ps hps, hother.mem_reach_iff ps hps]
    simp only [step_or_iff, and_or_left, exists_or]
  exists_of_run := by
    intro before rest captures k last htext hrun
    rw [run, Option.orElse_eq_orElse, Option.orElse_eq_or, Option.or_eq_some_iff] at hrun
    rcases hrun with hrun | ⟨-, hrun⟩
    · obtain ⟨part, after, hrest, hpart, hk⟩ := h.exists_of_run htext hrun
      exact ⟨part, after, hrest, .inl hpart, hk⟩
    · obtain ⟨part, after, hrest, hpart, hk⟩ := hother.exists_of_run htext hrun
      exact ⟨part, after, hrest, .inr hpart, hk⟩
  isSome_run := by
    rintro before part after captures k htext hpart hk
    rw [run, Option.orElse_eq_orElse, Option.orElse_eq_or, Option.isSome_or, Bool.or_eq_true]
    rcases hpart with hpart | hpart
    · exact .inl (h.isSome_run htext hpart hk)
    · exact .inr (hother.isSome_run htext hpart hk)

/-! ### Repetition -/

section Loop

variable {greedy : Bool} {opened : Nat}

/-- One more iteration of a repetition without bounds, or what follows it; a greedy one prefers to
go on. -/
theorem iterate_succ (body : State → Continuation → Option State) (fuel : Nat) (x : State)
    (k : Continuation) :
    iterate body greedy opened opened (fuel + 1) 0 none x k =
      let again := body x fun y =>
        if y.pos = x.pos then none else iterate body greedy opened opened fuel 0 none y k
      if greedy then again.or (k x) else (k x).or again := by
  simp [iterate, State.clear, Option.orElse_eq_orElse, Option.orElse_eq_or]

theorem exists_of_iterate (h : Reads t node Matches) {fuel : Nat} {before rest : Text}
    {captures : Array (Option (Nat × Nat))} {k : Continuation} {last : State}
    (htext : t = before ++ rest)
    (hrun : iterate (run (inputOf t) node .forward) greedy opened opened fuel 0 none
      ⟨before.length, captures⟩ k = some last) :
    ∃ part after, rest = part ++ after ∧ Repeats Matches before part after ∧
      k ⟨(before ++ part).length, captures⟩ = some last := by
  induction fuel generalizing before rest with
  | zero => cases hrun
  | succ fuel ih =>
    rw [iterate_succ] at hrun
    have hcases : run (inputOf t) node .forward ⟨before.length, captures⟩ (fun y =>
        if y.pos = before.length then none
        else iterate (run (inputOf t) node .forward) greedy opened opened fuel 0 none y k) =
          some last ∨ k ⟨before.length, captures⟩ = some last := by
      cases greedy with
      | true => exact (Option.or_eq_some_iff.1 hrun).imp_right And.right
      | false => exact (Option.or_eq_some_iff.1 hrun).symm.imp_left And.right
    rcases hcases with hagain | hk
    · obtain ⟨first, rest, rfl, hfirst, hnext⟩ := h.exists_of_run htext hagain
      split_ifs at hnext with hpos
      rw [← List.append_assoc] at htext
      obtain ⟨part, after, rfl, hpart, hk⟩ := ih htext hnext
      rw [List.append_assoc] at hk
      exact ⟨first ++ part, after, (List.append_assoc ..).symm, .cons hfirst hpart, hk⟩
    · exact ⟨[], rest, rfl, .nil before rest, by simpa using hk⟩

/-- Each iteration takes up some of the text, and there is fuel for all of it. -/
theorem isSome_iterate (h : Reads t node Matches) (hne : ∀ before after, ¬ Matches before [] after)
    {fuel : Nat} {before part after : Text} {captures : Array (Option (Nat × Nat))}
    {k : Continuation} (htext : t = before ++ (part ++ after)) (hfuel : part.length < fuel)
    (hpart : Repeats Matches before part after)
    (hk : (k ⟨(before ++ part).length, captures⟩).isSome = true) :
    (iterate (run (inputOf t) node .forward) greedy opened opened fuel 0 none
      ⟨before.length, captures⟩ k).isSome = true := by
  induction hpart generalizing fuel with
  | nil before after =>
    cases fuel with
    | zero => exact absurd hfuel (Nat.not_lt_zero _)
    | succ fuel =>
      rw [List.append_nil] at hk
      rw [iterate_succ]
      cases greedy <;> simp [Option.isSome_or, hk]
  | @cons before first rest after hfirst _ ih =>
    cases fuel with
    | zero => exact absurd hfuel (Nat.not_lt_zero _)
    | succ fuel =>
      have hpos : 0 < first.length := List.length_pos_iff.2 fun hnil => hne _ _ (hnil ▸ hfirst)
      rw [List.append_assoc] at htext
      have hrest := @ih fuel (by rw [htext, List.append_assoc])
        (by rw [List.length_append] at hfuel; omega) (by rwa [List.append_assoc])
      have hmoved : (before ++ first).length ≠ before.length := by
        rw [List.length_append]
        omega
      have hagain : (run (inputOf t) node .forward ⟨before.length, captures⟩ fun y =>
          if y.pos = before.length then none
          else iterate (run (inputOf t) node .forward) greedy opened opened fuel 0 none y
            k).isSome = true := by
        apply h.isSome_run htext hfirst
        rwa [if_neg hmoved]
      rw [iterate_succ]
      cases greedy <;> simp [Option.isSome_or, hagain]

theorem Reads.loop (h : Reads t node Matches) (hne : ∀ before after, ¬ Matches before [] after) :
    Reads t (.loop 0 none greedy opened opened node) (Repeats Matches) where
  mem_reach_iff ps hps q := by
    have honward (p q : Nat) (hstep : Step t Matches p q) : p < q ∧ q ≤ t.length := by
      refine ⟨?_, hstep.le.2⟩
      obtain ⟨before, part, after, -, rfl, rfl, hpart⟩ := hstep
      have hpos : 0 < part.length := List.length_pos_iff.2 fun hnil => hne _ _ (hnil ▸ hpart)
      rw [List.length_append]
      omega
    have hfuel : ∀ p ∈ ps, t.length ≤ p + ((inputOf t).chars.size + 2) := by
      intro p _
      simp only [inputOf, List.size_toArray, List.length_map]
      omega
    rw [reach]
    simp only [Nat.zero_min, afterSteps, Option.map_none, Option.getD_none]
    rw [mem_withSteps h.mem_reach_iff honward (by simp) (fun _ => id) hps
      (fun p hp hnot => (hnot hp).elim) hfuel]
    exact exists_congr fun p => and_congr_right fun hp => reflTransGen_step_iff (hps p hp)
  exists_of_run := by
    intro before rest captures k last htext hrun
    rw [run] at hrun
    exact exists_of_iterate h htext hrun
  isSome_run := by
    intro before part after captures k htext hpart hk
    rw [run]
    refine isSome_iterate h hne htext ?_ hpart hk
    simp only [inputOf, htext, List.size_toArray, List.length_map, List.length_append]
    omega

theorem Reads.star (chars : CharSet) :
    Reads t (.loop 0 none greedy opened opened (.set chars)) fun _ part _ =>
      ∀ c ∈ part, chars.contains noFlags c.toNat = true :=
  ((Reads.set chars).loop (by simp)).of_iff fun _ _ _ =>
    repeats_singleton_iff

end Loop

/-! ### Assertions -/

theorem Reads.check {assertion : Assertion} {At : Text → Text → Prop}
    (h : ∀ before after : Text, (inputOf (before ++ after)).holds before.length assertion = true ↔
      At before after) :
    Reads t (.check assertion) fun before part after => part = [] ∧ At before after where
  mem_reach_iff ps hps q := by
    have hat (p : Nat) (hp : p ∈ ps) :
        (inputOf t).holds p assertion = true ↔ At (t.take p) (t.drop p) := by
      rw [← h, List.take_append_drop, List.length_take_of_le (hps p hp)]
    rw [reach, List.mem_filter]
    constructor
    · rintro ⟨hq, hholds⟩
      exact ⟨q, hq, (step_nil_iff At (hps q hq)).2 ⟨rfl, (hat q hq).1 hholds⟩⟩
    · rintro ⟨p, hp, hstep⟩
      obtain ⟨rfl, hholds⟩ := (step_nil_iff At (hps p hp)).1 hstep
      exact ⟨hp, (hat p hp).2 hholds⟩
  exists_of_run := by
    rintro before rest captures k last rfl hrun
    rw [run] at hrun
    split_ifs at hrun with hholds
    exact ⟨[], rest, rfl, ⟨rfl, (h before rest).1 hholds⟩, by simpa using hrun⟩
  isSome_run := by
    rintro before part after captures k rfl ⟨rfl, hat⟩ hk
    rw [List.append_nil] at hk
    rwa [run, List.nil_append, if_pos ((h before after).2 hat)]

/-- A word unit stands on one side of a place only. -/
def IsBoundary (before after : Text) : Prop :=
  before.getLast?.any CodeUnit.isWord ≠ after.head?.any CodeUnit.isWord

theorem isWordChar_toNat (c : CodeUnit) : isWordChar noFlags c.toNat = c.isWord := by
  have hascii (h : c.isWord = true) : c.toNat < 0x80 := by
    simp [CodeUnit.isWord, CodeUnit.isLetter, CodeUnit.isUpper, CodeUnit.isLower, CodeUnit.isDigit,
      UInt16.le_iff_toNat_le, ← UInt16.toNat_inj] at h
    omega
  cases hword : c.isWord with
  | true => simp [isWordChar, hascii hword, hword]
  | false => simp [isWordChar, noFlags, hword]

theorem isSpace_toNat (c : CodeUnit) : isSpace c.toNat = c.isBlank := by
  simp [isSpace, c.toNat_lt]

theorem contains_word (c : CodeUnit) :
    CharSet.contains noFlags (.part (.word false)) c.toNat = c.isWord := by
  rw [← isWordChar_toNat c]
  simp [CharSet.contains, CharSet.containsOneOf, equivalents, noFlags, ClassItem.contains]

theorem contains_space (c : CodeUnit) :
    CharSet.contains noFlags (.part (.space false)) c.toNat = c.isBlank := by
  rw [← isSpace_toNat c]
  simp [CharSet.contains, CharSet.containsOneOf, equivalents, noFlags, ClassItem.contains]

theorem holds_wordBoundary_iff {before after : Text} :
    (inputOf (before ++ after)).holds before.length .wordBoundary = true ↔
      IsBoundary before after := by
  have hword : isWordChar noFlags ∘ UInt16.toNat = CodeUnit.isWord := funext isWordChar_toNat
  have hafter : (inputOf (before ++ after)).isWordAt before.length =
      after.head?.any CodeUnit.isWord := by
    rw [Input.isWordAt, char?_inputOf, List.getElem?_append_right (Nat.le_refl _), Nat.sub_self,
      ← List.head?_eq_getElem?, Option.any_map]
    exact congrArg (fun f => after.head?.any f) hword
  have hbefore : ((inputOf (before ++ after)).before? before.length).any (isWordChar noFlags) =
      before.getLast?.any CodeUnit.isWord := by
    rcases List.eq_nil_or_concat before with rfl | ⟨front, c, rfl⟩
    · rfl
    · simp [Input.before?, char?_inputOf, isWordChar_toNat]
  rw [Input.holds, Input.atBoundary, hafter]
  simp only [bne_iff_ne, ne_eq]
  rw [show (inputOf (before ++ after)).flags = noFlags from rfl, hbefore]
  rfl

theorem Reads.boundary : Reads t (.check .wordBoundary) fun before part after =>
    part = [] ∧ IsBoundary before after :=
  Reads.check fun _ _ => holds_wordBoundary_iff

theorem Reads.stop : Reads t (.check .stop) fun _ part after => part = [] ∧ after = [] :=
  Reads.check fun before after => by simp [Input.holds, inputOf, noFlags]

end Rules

/-! ## Tests and searches -/

section Searches

variable {t : Text} {e : Expression} {Matches : Text → Text → Text → Prop}

theorem inputOf_eq (hflags : e.flags = noFlags) : e.inputOf t = inputOf t := by
  simp [Expression.inputOf, inputOf, hflags, noFlags]

/-- A text passes the test of an expression exactly if it holds something that the expression
matches. -/
theorem test_iff (hflags : e.flags = noFlags) (hplain : e.body.isPlain = true)
    (h : Reads t e.body Matches) :
    e.test t = true ↔ ∃ before part after, t = before ++ (part ++ after) ∧
      Matches before part after := by
  have hstarts : ∀ p ∈ List.range (t.length + 1), p ≤ t.length := fun p hp =>
    Nat.le_of_lt_succ (List.mem_range.1 hp)
  have htest : e.test t =
      !(reach (inputOf t) e.body .forward (List.range (t.length + 1))).isEmpty := by
    simp [Expression.test, hplain, inputOf_eq hflags, inputOf]
  rw [htest, Bool.not_eq_true', List.isEmpty_eq_false_iff_exists_mem]
  simp only [h.mem_reach_iff _ hstarts]
  constructor
  · rintro ⟨q, p, -, before, part, after, htext, -, -, hmatches⟩
    exact ⟨before, part, after, htext, hmatches⟩
  · rintro ⟨before, part, after, htext, hmatches⟩
    refine ⟨_, before.length, ?_, before, part, after, htext, rfl, rfl, hmatches⟩
    rw [List.mem_range, htext, List.length_append]
    omega

/-- The search stops at the first position where there is a match. -/
theorem findFrom_cases (e : Expression) (input : Input) (pos n : Nat) :
    (∃ start last, pos ≤ start ∧ start < pos + n ∧ e.matchAt input start = some last ∧
      (∀ p, pos ≤ p → p < start → e.matchAt input p = none) ∧
      e.findFrom input pos n = some (.of input start last)) ∨
    (e.findFrom input pos n = none ∧ ∀ p, pos ≤ p → p < pos + n → e.matchAt input p = none) := by
  induction n generalizing pos with
  | zero => exact .inr ⟨rfl, fun p _ _ => by omega⟩
  | succ n ih =>
    rw [Expression.findFrom]
    cases hhere : e.matchAt input pos with
    | some last =>
      exact .inl ⟨pos, last, Nat.le_refl _, by omega, hhere, fun p _ _ => by omega, rfl⟩
    | none =>
      have hbefore {p : Nat} (hp : pos ≤ p) : p = pos ∨ pos + 1 ≤ p := by omega
      rcases ih (pos + 1) with ⟨start, last, hle, hlt, hlast, hnone, hfind⟩ | ⟨hfind, hnone⟩
      · refine .inl ⟨start, last, by omega, by omega, hlast, fun p hp hlt => ?_, hfind⟩
        rcases hbefore hp with rfl | hp
        · exact hhere
        · exact hnone p hp hlt
      · refine .inr ⟨hfind, fun p hp hlt => ?_⟩
        rcases hbefore hp with rfl | hp
        · exact hhere
        · exact hnone p hp (by omega)

/-- What a search for the leftmost match gives, `IsMatch before m` telling that `m` is a match that
starts after `before`. -/
def Leftmost (IsMatch : Text → Match → Prop) : Option Match → Prop
  | some m => ∃ before, IsMatch before m ∧ ∀ before' m', IsMatch before' m' →
      before.length ≤ before'.length
  | none => ∀ before m, ¬ IsMatch before m

theorem Leftmost.of_iff {IsMatch IsOther : Text → Match → Prop} {found : Option Match}
    (h : Leftmost IsMatch found) (hiff : ∀ before m, IsMatch before m ↔ IsOther before m) :
    Leftmost IsOther found := by
  obtain rfl : IsMatch = IsOther := by
    funext before m
    exact propext (hiff before m)
  exact h

theorem leftmost_find? {IsMatch : Text → Match → Prop} (hflags : e.flags = noFlags)
    (hsound : ∀ {before rest last}, t = before ++ rest →
      e.matchAt (inputOf t) before.length = some last →
      IsMatch before (.of (inputOf t) before.length last))
    (hcomplete : ∀ {before m}, IsMatch before m → before.length ≤ t.length ∧
      (e.matchAt (inputOf t) before.length).isSome = true) :
    Leftmost IsMatch (e.find? t) := by
  have hfind : e.find? t = e.findFrom (inputOf t) 0 (t.length + 1) := by
    simp [Expression.find?, inputOf_eq hflags, inputOf]
  rcases findFrom_cases e (inputOf t) 0 (t.length + 1) with
    ⟨start, last, -, hlt, hlast, hnone, hfound⟩ | ⟨hfound, hnone⟩
  · have hlength : (t.take start).length = start := List.length_take_of_le (by omega)
    rw [hfind, hfound]
    refine ⟨t.take start, ?_, fun before' m' hmatch => ?_⟩
    · have hmatch := hsound (List.take_append_drop start t).symm (hlength.symm ▸ hlast)
      rwa [hlength] at hmatch
    · -- a match further left would have been found
      by_contra hlt
      have hsome := (hcomplete hmatch).2
      rw [hnone _ (Nat.zero_le _) (by omega)] at hsome
      cases hsome
  · rw [hfind, hfound]
    intro before m hmatch
    obtain ⟨hle, hsome⟩ := hcomplete hmatch
    rw [hnone _ (Nat.zero_le _) (by omega)] at hsome
    cases hsome

theorem toText_map_toNat (t : Text) : toText (t.map UInt16.toNat) = t := by
  induction t with
  | nil => rfl
  | cons c t ih =>
    have hc : Text.ofCodePoint c.toNat = [c] := by simp [Text.ofCodePoint, c.toNat_lt]
    rw [toText, List.map_cons, List.flatMap_cons, hc, ← toText, ih, List.singleton_append]

theorem text_inputOf {before part after : Text} (htext : t = before ++ (part ++ after)) :
    (inputOf t).text before.length (before ++ part).length = part := by
  have hpart : (t.drop before.length).take ((before ++ part).length - before.length) = part := by
    simp [htext]
  rw [Input.text, inputOf, ← List.map_drop, ← List.map_take, hpart, toText_map_toNat]

/-- The leftmost match of an expression without groups. -/
theorem leftmost_find?_of_reads (hflags : e.flags = noFlags) (h : Reads t e.body Matches) :
    Leftmost (fun before m => ∃ after, t = before ++ (m.text ++ after) ∧
      Matches before m.text after) (e.find? t) := by
  refine leftmost_find? hflags ?_ ?_
  · intro before rest last htext hlast
    obtain ⟨part, after, rfl, hpart, hk⟩ := h.exists_of_run htext hlast
    obtain rfl := Option.some.inj hk
    have hmatched : (Match.of (inputOf t) before.length
        ⟨(before ++ part).length, Array.replicate (e.captures + 1) none⟩).text = part :=
      text_inputOf htext
    exact ⟨after, by rw [hmatched, htext], by rwa [hmatched]⟩
  · rintro before m ⟨after, htext, hmatches⟩
    refine ⟨by simp [htext], ?_⟩
    exact h.isSome_run htext hmatches rfl

/-- The leftmost match of an expression that starts with its only group. -/
theorem leftmost_find?_of_group {first rest : Node} {First Rest : Text → Text → Text → Prop}
    (hfirst : Reads t first First) (hrest : Reads t rest Rest) :
    Leftmost (fun before m => ∃ name tail after, t = before ++ (name ++ (tail ++ after)) ∧
        First before name (tail ++ after) ∧ Rest (before ++ name) tail after ∧
        m = ⟨name ++ tail, [some name]⟩)
      (Expression.find? ⟨noFlags, 1, .seq (.capture 1 first) rest⟩ t) := by
  refine leftmost_find? rfl ?_ ?_
  · intro before rest last htext hlast
    simp only [Expression.matchAt, run] at hlast
    obtain ⟨name, rest, rfl, hname, hlast⟩ := hfirst.exists_of_run htext hlast
    rw [← List.append_assoc] at htext
    obtain ⟨tail, after, rfl, htail, hk⟩ := hrest.exists_of_run htext hlast
    obtain rfl := Option.some.inj hk
    rw [List.append_assoc] at htext
    refine ⟨name, tail, after, htext, hname, htail, ?_⟩
    have hgroup := text_inputOf htext
    have hmatch : (inputOf t).text before.length (before ++ (name ++ tail)).length =
        name ++ tail := text_inputOf (htext.trans (by rw [List.append_assoc name]))
    simp only [List.append_assoc, Match.of, hmatch, Match.mk.injEq, true_and]
    simpa using hgroup
  · rintro before m ⟨name, tail, after, htext, hname, htail, rfl⟩
    refine ⟨by simp [htext], ?_⟩
    simp only [Expression.matchAt, run]
    apply hfirst.isSome_run htext hname
    rw [← List.append_assoc] at htext
    exact hrest.isSome_run htext htail rfl

end Searches

end Remedy.Pattern
