import Remedy.Pattern.Reader
import Remedy.Proofs.PatternMatches
import Remedy.Proofs.Words

/-!
# Calls

A call is a word, blanks and an opening parenthesis (`CallAt`). The search for calls gives the first
one of a function of the right kind, and nothing only if there is none (`findsCalls_findCall`). The
same rules can be given as regular expressions. What each of these matches is read off its nodes
(`reads_call`): a line passes its test exactly if the search finds a call (`test_eq_isSome`), and
its leftmost match is the call that the search finds (`find?_text_eq`).
-/

namespace Remedy.Scan

/-- A call on a line: a word, blanks and an opening parenthesis. -/
structure CallAt (line before word blanks after : Text) : Prop where
  word : WordAt line before word (blanks ++ 0x28 :: after)
  blank : ∀ c ∈ blanks, c.isBlank = true

/-- The leftmost call of a function of some kind: its text from the name through the parenthesis. -/
def FirstCall (IsCallee : Text → Prop) (line found : Text) : Prop :=
  ∃ before word blanks after, CallAt line before word blanks after ∧ IsCallee word ∧
    found = word ++ blanks ++ [0x28] ∧
    ∀ before' word' blanks' after', CallAt line before' word' blanks' after' → IsCallee word' →
      before.length ≤ before'.length

/-! ## One call -/

theorem opens_iff {rest blanks after : Text} :
    (rest = blanks ++ 0x28 :: after ∧ ∀ c ∈ blanks, c.isBlank = true) ↔
      rest.takeWhile CodeUnit.isBlank = blanks ∧
        rest.dropWhile CodeUnit.isBlank = 0x28 :: after := by
  rw [Text.run_iff]
  simp [show CodeUnit.isBlank 0x28 = false by decide]

theorem head?_dropWhile_isBlank_iff {rest : Text} :
    (rest.dropWhile CodeUnit.isBlank).head? = some 0x28 ↔
      ∃ after, rest = rest.takeWhile CodeUnit.isBlank ++ 0x28 :: after := by
  rw [List.head?_eq_some_iff]
  refine exists_congr fun after => ?_
  constructor
  · intro h
    exact (opens_iff.2 ⟨rfl, h⟩).1
  · intro h
    exact (opens_iff.1 ⟨h, fun c hc => List.mem_takeWhile_imp hc⟩).2

/-- There is one call at a place. -/
theorem CallAt.unique {line before word blanks after before' word' blanks' after' : Text}
    (h : CallAt line before word blanks after) (h' : CallAt line before' word' blanks' after')
    (hlength : before.length = before'.length) : word = word' ∧ blanks = blanks' := by
  have hsplit := h.word.text_eq.symm.trans h'.word.text_eq
  obtain ⟨-, hrest⟩ := List.append_inj hsplit hlength
  have hrun := (Text.run_iff (p := CodeUnit.isWord)).2 ⟨rfl, h.word.word, h.word.right⟩
  have hrun' := (Text.run_iff (p := CodeUnit.isWord)).2 ⟨hrest, h'.word.word, h'.word.right⟩
  have hblanks := (@opens_iff _ blanks after).1 ⟨rfl, h.blank⟩
  have hblanks' := opens_iff.1 ⟨hrun.2.symm.trans hrun'.2, h'.blank⟩
  exact ⟨hrun.1.symm.trans hrun'.1, hblanks.1.symm.trans hblanks'.1⟩

/-! ## The search -/

/-- A call that a search may find; `inWord` tells that a word unit stands before the text. -/
structure Found (isCallee : Text → Bool) (inWord : Bool) (t before word blanks after : Text) :
    Prop where
  call : CallAt t before word blanks after
  apart : before = [] → inWord = false
  callee : isCallee word = true

section Search

variable {isCallee : Text → Bool} {inWord : Bool} {c : CodeUnit}
  {t before word blanks after : Text}

theorem Found.cons_iff : Found isCallee inWord (c :: t) (c :: before) word blanks after ↔
    Found isCallee c.isWord t before word blanks after := by
  constructor
  · rintro ⟨⟨hword, hblank⟩, -, hcallee⟩
    obtain ⟨hword, hc⟩ := WordAt.cons_iff.1 hword
    exact ⟨⟨hword, hblank⟩, hc, hcallee⟩
  · rintro ⟨⟨hword, hblank⟩, hc, hcallee⟩
    exact ⟨⟨WordAt.cons_iff.2 ⟨hword, hc⟩, hblank⟩, by simp, hcallee⟩

theorem findCallFrom_of_found (h : Found isCallee inWord t [] word blanks after) :
    findCallFrom isCallee inWord t = some (word ++ blanks ++ [0x28]) := by
  obtain ⟨hcall, hapart, hcallee⟩ := h
  cases t with
  | nil => exact (WordAt.not_nil hcall.word).elim
  | cons c t =>
    obtain ⟨hc, rfl, hafter⟩ := WordAt.head_iff.1 hcall.word
    obtain ⟨rfl, hopen⟩ := opens_iff.1 ⟨hafter.symm, hcall.blank⟩
    simp only [findCallFrom]
    rw [if_pos (by simp [hc, hapart]), if_pos (by rw [hcallee, hopen]; rfl)]

theorem findCallFrom_cons
    (h : ∀ word blanks after, ¬ Found isCallee inWord (c :: t) [] word blanks after) :
    findCallFrom isCallee inWord (c :: t) = findCallFrom isCallee c.isWord t := by
  simp only [findCallFrom]
  split_ifs with hstart hcall
  · rw [Bool.and_eq_true, Bool.not_eq_true'] at hstart
    rw [Bool.and_eq_true, beq_iff_eq, head?_dropWhile_isBlank_iff] at hcall
    obtain ⟨hcallee, after, hopen⟩ := hcall
    refine (h _ _ after ⟨⟨WordAt.head_iff.2 ⟨hstart.2, rfl, hopen.symm⟩, ?_⟩, fun _ => hstart.1,
      hcallee⟩).elim
    exact fun d hd => List.mem_takeWhile_imp hd
  · rw [Bool.and_eq_true] at hstart
    rw [hstart.2]
  · rfl

/-- The search gives nothing only if there is no call of the right kind. -/
theorem not_found_of_findCallFrom (h : findCallFrom isCallee inWord t = none) :
    ¬ Found isCallee inWord t before word blanks after := by
  induction t generalizing inWord before with
  | nil => exact fun hfound => WordAt.not_nil hfound.call.word
  | cons c t ih =>
    have hhere (word blanks after : Text) :
        ¬ Found isCallee inWord (c :: t) [] word blanks after := fun hfound => by
      rw [findCallFrom_of_found hfound] at h
      simp at h
    rw [findCallFrom_cons hhere] at h
    cases before with
    | nil => exact hhere word blanks after
    | cons d before =>
      intro hfound
      obtain rfl : c = d := (List.cons.inj hfound.call.word.text_eq).1
      exact ih h (Found.cons_iff.1 hfound)

/-- What the search gives is the first call of the right kind. -/
theorem exists_found_of_findCallFrom {found : Text}
    (h : findCallFrom isCallee inWord t = some found) :
    ∃ before word blanks after, Found isCallee inWord t before word blanks after ∧
      found = word ++ blanks ++ [0x28] ∧
      ∀ before' word' blanks' after', Found isCallee inWord t before' word' blanks' after' →
        before.length ≤ before'.length := by
  induction t generalizing inWord with
  | nil => simp [findCallFrom] at h
  | cons c t ih =>
    by_cases hhere : ∃ word blanks after, Found isCallee inWord (c :: t) [] word blanks after
    · obtain ⟨word, blanks, after, hfound⟩ := hhere
      rw [findCallFrom_of_found hfound] at h
      exact ⟨[], word, blanks, after, hfound, (Option.some.inj h).symm, by simp⟩
    · simp only [not_exists] at hhere
      rw [findCallFrom_cons hhere] at h
      obtain ⟨before, word, blanks, after, hfound, rfl, hfirst⟩ := ih h
      refine ⟨c :: before, word, blanks, after, Found.cons_iff.2 hfound, rfl, ?_⟩
      intro before' word' blanks' after' hfound'
      cases before' with
      | nil => exact (hhere _ _ _ hfound').elim
      | cons d before' =>
        obtain rfl : c = d := (List.cons.inj hfound'.call.word.text_eq).1
        exact Nat.succ_le_succ (hfirst _ _ _ _ (Found.cons_iff.1 hfound'))

end Search

/-- A search for calls on a line: it finds one exactly if there is one of the right kind, and what
it gives is the first. -/
structure FindsCalls (find : Text → Option Text) (IsCallee : Text → Prop) (line : Text) :
    Prop where
  isSome_iff : (find line).isSome = true ↔
    ∃ before word blanks after, CallAt line before word blanks after ∧ IsCallee word
  eq_some_iff : ∀ found, find line = some found ↔ FirstCall IsCallee line found

theorem findsCalls_findCall {isCallee : Text → Bool} {IsCallee : Text → Prop}
    (hcallee : ∀ word, isCallee word = true ↔ IsCallee word) (line : Text) :
    FindsCalls (findCall isCallee) IsCallee line := by
  have hfound {before word blanks after : Text} :
      Found isCallee false line before word blanks after ↔
        CallAt line before word blanks after ∧ IsCallee word := by
    rw [← hcallee]
    exact ⟨fun h => ⟨h.call, h.callee⟩, fun h => ⟨h.1, fun _ => rfl, h.2⟩⟩
  have hsome {found : Text} (h : findCall isCallee line = some found) :
      FirstCall IsCallee line found := by
    obtain ⟨before, word, blanks, after, hcall, rfl, hfirst⟩ := exists_found_of_findCallFrom h
    obtain ⟨hcall, hword⟩ := hfound.1 hcall
    exact ⟨before, word, blanks, after, hcall, hword, rfl,
      fun _ _ _ _ hcall' hword' => hfirst _ _ _ _ (hfound.2 ⟨hcall', hword'⟩)⟩
  have hnone {before word blanks after : Text} (hcall : CallAt line before word blanks after)
      (hword : IsCallee word) : ∃ found, findCall isCallee line = some found := by
    rw [← Option.ne_none_iff_exists']
    exact fun h => not_found_of_findCallFrom h (hfound.2 ⟨hcall, hword⟩)
  constructor
  · rw [Option.isSome_iff_exists]
    constructor
    · rintro ⟨found, h⟩
      obtain ⟨before, word, blanks, after, hcall, hword, -⟩ := hsome h
      exact ⟨before, word, blanks, after, hcall, hword⟩
    · rintro ⟨before, word, blanks, after, hcall, hword⟩
      exact hnone hcall hword
  · intro found
    refine ⟨hsome, ?_⟩
    rintro ⟨before, word, blanks, after, hcall, hword, rfl, hfirst⟩
    obtain ⟨found, h⟩ := hnone hcall hword
    obtain ⟨before', word', blanks', after', hcall', hword', rfl, hfirst'⟩ := hsome h
    have hlength := Nat.le_antisymm (hfirst' _ _ _ _ hcall hword) (hfirst _ _ _ _ hcall' hword')
    obtain ⟨rfl, rfl⟩ := hcall'.unique hcall hlength
    exact h

/-! ## Regular expressions for calls -/

open Pattern

/-- The characters of a text one after another, and then a node. -/
def chars (w : Text) (node : Pattern.Node) : Pattern.Node :=
  w.foldr (fun c rest => .seq (.char c.toNat) rest) node

/-- Any number of word characters. -/
def wordChars : Pattern.Node := .loop 0 none true 0 0 (.set (.part (.word false)))

/-- Blanks and an opening parenthesis. -/
def opening : Pattern.Node :=
  .seq (.loop 0 none true 0 0 (.set (.part (.space false)))) (.seq (.char 0x28) .empty)

/-- One of some texts. -/
def oneOf : List Text → Pattern.Node
  | [] => .empty
  | [w] => chars w .empty
  | w :: ws => .alt (chars w .empty) (oneOf ws)

section Patterns

variable {t : Text}

theorem reads_chars (w : Text) {node : Pattern.Node} {Matches : Text → Text → Text → Prop}
    (h : Reads t node Matches) : Reads t (chars w node) fun before part after =>
      ∃ rest, part = w ++ rest ∧ Matches (before ++ w) rest after := by
  induction w generalizing Matches with
  | nil => exact h.of_iff fun before part after => by simp
  | cons c w ih =>
    refine ((Reads.char c).seq (ih h)).of_iff fun before part after => ?_
    constructor
    · rintro ⟨first, second, rfl, rfl, rest, rfl, hrest⟩
      exact ⟨rest, rfl, by simpa using hrest⟩
    · rintro ⟨rest, rfl, hrest⟩
      exact ⟨[c], w ++ rest, rfl, rfl, rest, rfl, by simpa using hrest⟩

theorem reads_word (w : Text) : Reads t (chars w .empty) fun _ part _ => part = w :=
  (reads_chars w Reads.empty).of_iff fun _ _ _ => by simp

theorem reads_oneOf {ws : List Text} (hws : ws ≠ []) :
    Reads t (oneOf ws) fun _ part _ => part ∈ ws := by
  induction ws with
  | nil => exact (hws rfl).elim
  | cons w ws ih =>
    cases ws with
    | nil => exact (reads_word w).of_iff fun _ _ _ => by simp
    | cons v ws => exact ((reads_word w).alt (ih (by simp))).of_iff fun _ _ _ => by simp

theorem reads_wordChars : Reads t wordChars fun _ part _ => ∀ c ∈ part, c.isWord = true :=
  (Reads.star (.part (.word false))).of_iff fun _ _ _ => by simp only [contains_word]

theorem reads_opening : Reads t opening fun _ part _ =>
    ∃ blanks, part = blanks ++ [0x28] ∧ ∀ c ∈ blanks, c.isBlank = true := by
  refine ((Reads.star (.part (.space false))).seq
    ((Reads.char 0x28).seq Reads.empty)).of_iff fun before part after => ?_
  simp only [contains_space]
  constructor
  · rintro ⟨blanks, _, rfl, hblank, _, _, rfl, rfl, rfl⟩
    exact ⟨blanks, rfl, hblank⟩
  · rintro ⟨blanks, rfl, hblank⟩
    exact ⟨blanks, [0x28], rfl, hblank, [0x28], [], rfl, rfl, rfl⟩

end Patterns

theorem isBoundary_left_iff {before word : Text} (hne : word ≠ [])
    (hword : ∀ c ∈ word, c.isWord = true) (rest : Text) :
    IsBoundary before (word ++ rest) ↔ ∀ c ∈ before.getLast?, c.isWord = false := by
  obtain ⟨c, word, rfl⟩ := List.exists_cons_of_ne_nil hne
  have hc := hword c List.mem_cons_self
  cases h : before.getLast? <;> simp [IsBoundary, hc, h]

theorem isBoundary_right_iff {word after : Text} (hne : word ≠ [])
    (hword : ∀ c ∈ word, c.isWord = true) (before : Text) :
    IsBoundary (before ++ word) after ↔ ∀ c ∈ after.head?, c.isWord = false := by
  obtain ⟨word, c, rfl⟩ := (List.eq_nil_or_concat word).resolve_left hne
  have hc : c.isWord = true := hword c (by simp)
  cases h : after.head? <;> simp [IsBoundary, hc, h]

/-- The regular expression with a source and no flags tests texts in a given way. -/
def IsTest (source : Text) (test : Text → Bool) : Prop :=
  ∃ e, compile? source [] = some e ∧ ∀ t, e.test t = test t

/-- The leftmost text that the regular expression with a source and no flags matches is found in a
given way. -/
def IsSearch (source : Text) (find : Text → Option Text) : Prop :=
  ∃ e, compile? source [] = some e ∧ ∀ t, (e.find? t).map Pattern.Match.text = find t

/-- A rule for calls: it finds the first call of a function of some kind. A regular expression
matches exactly those lines on which it finds one, and the leftmost text that the expression matches
is what the rule finds. -/
structure IsCallRule (rule : Rule) (source : Text) (IsCallee : Text → Prop) : Prop where
  finds : ∀ line, FindsCalls rule.find IsCallee line
  pattern : IsTest source fun line => (rule.find line).isSome
  search : IsSearch source rule.find

/-- What an expression for calls matches after the word boundary in front. -/
def CallPart (IsCallee : Text → Prop) (part : Text) : Prop :=
  ∃ word blanks, part = word ++ (blanks ++ [0x28]) ∧ IsCallee word ∧
    (∀ c ∈ word, c.isWord = true) ∧ ∀ c ∈ blanks, c.isBlank = true

section CallPatterns

variable {line : Text} {body : Pattern.Node} {IsCallee : Text → Prop} {find : Text → Option Text}

theorem CallAt.text_eq {before word blanks after : Text}
    (h : CallAt line before word blanks after) :
    line = before ++ (word ++ blanks ++ [0x28] ++ after) := by
  simpa using h.word.text_eq

/-- Such an expression matches calls. -/
theorem reads_call (hbody : Reads line body fun _ part _ => CallPart IsCallee part)
    (hne : ¬ IsCallee []) :
    Reads line (.seq (.check .wordBoundary) body) fun before part after => ∃ word blanks,
      CallAt (before ++ (part ++ after)) before word blanks after ∧ IsCallee word ∧
        part = word ++ blanks ++ [0x28] := by
  refine (Reads.boundary.seq hbody).of_iff fun before part after => ?_
  constructor
  · rintro ⟨_, _, rfl, ⟨rfl, hboundary⟩, word, blanks, rfl, hcallee, hword, hblank⟩
    have hword_ne : word ≠ [] := fun h => hne (h ▸ hcallee)
    rw [List.append_assoc, isBoundary_left_iff hword_ne hword] at hboundary
    exact ⟨word, blanks, ⟨⟨by simp, hword_ne, hword, hboundary,
      not_isWord_of_blanks hblank (by decide) after⟩, hblank⟩, hcallee, by simp⟩
  · rintro ⟨word, blanks, ⟨hword, hblank⟩, hcallee, rfl⟩
    refine ⟨[], word ++ (blanks ++ [0x28]), by simp, ⟨rfl, ?_⟩, word, blanks, rfl, hcallee,
      hword.word, hblank⟩
    rw [List.append_assoc, isBoundary_left_iff hword.ne_nil hword.word]
    exact hword.left

theorem test_eq_isSome (hplain : body.isPlain = true)
    (hbody : Reads line body fun _ part _ => CallPart IsCallee part) (hne : ¬ IsCallee [])
    (hfind : FindsCalls find IsCallee line) :
    Expression.test ⟨noFlags, 0, .seq (.check .wordBoundary) body⟩ line = (find line).isSome := by
  rw [Bool.eq_iff_iff, hfind.isSome_iff,
    test_iff rfl (by simpa [Pattern.Node.isPlain] using hplain) (reads_call hbody hne)]
  constructor
  · rintro ⟨before, part, after, rfl, word, blanks, hcall, hcallee, -⟩
    exact ⟨before, word, blanks, after, hcall, hcallee⟩
  · rintro ⟨before, word, blanks, after, hcall, hcallee⟩
    exact ⟨before, _, after, hcall.text_eq, word, blanks, hcall.text_eq ▸ hcall, hcallee, rfl⟩

theorem find?_text_eq (hbody : Reads line body fun _ part _ => CallPart IsCallee part)
    (hne : ¬ IsCallee []) (hfind : FindsCalls find IsCallee line) :
    (Expression.find? ⟨noFlags, 0, .seq (.check .wordBoundary) body⟩ line).map Pattern.Match.text =
      find line := by
  have hleftmost : Leftmost (fun before m => ∃ word blanks after,
      CallAt line before word blanks after ∧ IsCallee word ∧ m.text = word ++ blanks ++ [0x28])
      (Expression.find? ⟨noFlags, 0, .seq (.check .wordBoundary) body⟩ line) := by
    refine (leftmost_find?_of_reads rfl (reads_call hbody hne)).of_iff fun before m => ?_
    constructor
    · rintro ⟨after, htext, word, blanks, hcall, hcallee, hm⟩
      exact ⟨word, blanks, after, htext ▸ hcall, hcallee, hm⟩
    · rintro ⟨word, blanks, after, hcall, hcallee, hm⟩
      have htext : line = before ++ (m.text ++ after) := by rw [hm, ← hcall.text_eq]
      exact ⟨after, htext, word, blanks, htext ▸ hcall, hcallee, hm⟩
  cases hfound : Expression.find? ⟨noFlags, 0, .seq (.check .wordBoundary) body⟩ line with
  | none =>
    rw [hfound] at hleftmost
    symm
    rw [Option.map_none, ← Option.not_isSome_iff_eq_none, hfind.isSome_iff]
    rintro ⟨before, word, blanks, after, hcall, hcallee⟩
    exact hleftmost before ⟨_, []⟩ ⟨word, blanks, after, hcall, hcallee, rfl⟩
  | some m =>
    rw [hfound] at hleftmost
    obtain ⟨before, ⟨word, blanks, after, hcall, hcallee, hm⟩, hfirst⟩ := hleftmost
    symm
    rw [Option.map_some, hfind.eq_some_iff]
    refine ⟨before, word, blanks, after, hcall, hcallee, hm, ?_⟩
    intro before' word' blanks' after' hcall' hcallee'
    exact hfirst before' ⟨_, []⟩ ⟨word', blanks', after', hcall', hcallee', rfl⟩

theorem isCallRule_of_callPart {rule : Rule} {source : Text} (body : Pattern.Node)
    (hcompile : compile? source [] = some ⟨noFlags, 0, .seq (.check .wordBoundary) body⟩)
    (hplain : body.isPlain = true)
    (hbody : ∀ t, Reads t body fun _ part _ => CallPart IsCallee part)
    (hne : ¬ IsCallee []) (hfinds : ∀ line, FindsCalls rule.find IsCallee line) :
    IsCallRule rule source IsCallee where
  finds := hfinds
  pattern := ⟨_, hcompile, fun line => test_eq_isSome hplain (hbody line) hne (hfinds line)⟩
  search := ⟨_, hcompile, fun line => find?_text_eq (hbody line) hne (hfinds line)⟩

end CallPatterns

theorem isTest_hasRelease : IsTest "\\b\\w*free\\b" hasRelease := by
  refine ⟨⟨noFlags, 0, .seq (.check .wordBoundary)
    (.seq wordChars (chars "free" (.seq (.check .wordBoundary) .empty)))⟩, by decide +kernel,
    fun t => ?_⟩
  have hreads := (Reads.boundary (t := t)).seq
    (reads_wordChars.seq (reads_chars "free" (Reads.boundary.seq Reads.empty)))
  have hfree : ∀ c ∈ ("free" : Text), c.isWord = true := List.all_eq_true.1 (by decide)
  rw [Bool.eq_iff_iff, hasRelease_iff, test_iff rfl rfl hreads]
  constructor
  · rintro ⟨before, _, after, rfl, _, _, rfl, ⟨rfl, hstart⟩, run, _, rfl, hrun, _, rfl, _, _, rfl,
      ⟨rfl, hend⟩, rfl⟩
    have hword : ∀ c ∈ run ++ ("free" : Text), c.isWord = true :=
      List.forall_mem_append.2 ⟨hrun, hfree⟩
    have hne : run ++ ("free" : Text) ≠ [] := List.append_ne_nil_of_right_ne_nil run (by decide)
    refine ⟨before, run ++ ("free" : Text), after, ⟨by simp, hne, hword, ?_, ?_⟩, run, rfl⟩
    · rw [← isBoundary_left_iff hne hword after]
      simpa using hstart
    · rw [← isBoundary_right_iff hne hword before]
      simpa using hend
  · rintro ⟨before, _, after, hword, run, rfl⟩
    have hleft := (isBoundary_left_iff hword.ne_nil hword.word after).2 hword.left
    have hright := (isBoundary_right_iff hword.ne_nil hword.word before).2 hword.right
    refine ⟨before, run ++ ("free" : Text), after, hword.text_eq, [], _, rfl, ⟨rfl, hleft⟩, run,
      "free", rfl, fun c hc => hword.word c (List.mem_append_left _ hc), [], by simp, [], [], rfl,
      ⟨rfl, ?_⟩, rfl⟩
    simpa using hright

theorem isCallRule_of_names {rule : Rule} {source : Text} {names : List Text}
    (hfind : rule.find = findCall names.contains) (hne : names ≠ [])
    (hnames : names.all (fun name => !name.isEmpty && name.all CodeUnit.isWord) = true)
    (hcompile : compile? source [] =
      some ⟨noFlags, 0, .seq (.check .wordBoundary) (.seq (oneOf names) opening)⟩)
    (hplain : (oneOf names).isPlain = true) : IsCallRule rule source (· ∈ names) := by
  have hword {name : Text} (h : name ∈ names) : name ≠ [] ∧ ∀ c ∈ name, c.isWord = true := by
    simpa using List.all_eq_true.1 hnames name h
  have hfinds (line : Text) : FindsCalls rule.find (· ∈ names) line :=
    hfind ▸ findsCalls_findCall (fun word => by simp) line
  refine isCallRule_of_callPart _ hcompile (by simp [Pattern.Node.isPlain, hplain, opening])
    (fun t => ?_) (fun h => (hword h).1 rfl) hfinds
  refine ((reads_oneOf hne).seq reads_opening).of_iff fun before part after => ?_
  constructor
  · rintro ⟨word, _, rfl, hmem, blanks, rfl, hblank⟩
    exact ⟨word, blanks, rfl, hmem, (hword hmem).2, hblank⟩
  · rintro ⟨word, blanks, rfl, hmem, -, hblank⟩
    exact ⟨word, blanks ++ [0x28], rfl, hmem, blanks, rfl, hblank⟩

theorem isCallRule_unsafeInput : IsCallRule unsafeInput "\\bgets\\s*\\(" (· = "gets") := by
  have hfinds (line : Text) : FindsCalls unsafeInput.find (· = "gets") line :=
    findsCalls_findCall (fun word => by simp) line
  have hgets : ∀ c ∈ ("gets" : Text), c.isWord = true := List.all_eq_true.1 (by decide)
  refine isCallRule_of_callPart (chars "gets" opening) (by decide +kernel) rfl
    (fun t => ?_) (by decide) hfinds
  refine (reads_chars "gets" reads_opening).of_iff fun before part after => ?_
  constructor
  · rintro ⟨_, rfl, blanks, rfl, hblank⟩
    exact ⟨"gets", blanks, rfl, rfl, hgets, hblank⟩
  · rintro ⟨_, blanks, rfl, rfl, -, hblank⟩
    exact ⟨blanks ++ [0x28], rfl, blanks, rfl, hblank⟩

/-- The name of an allocation function. -/
def NamesAllocation (word : Text) : Prop :=
  ∃ name ∈ (["malloc", "calloc", "realloc"] : List Text), name <:+ word

theorem isCallRule_uncheckedAllocation :
    IsCallRule uncheckedAllocation "\\b\\w*(?:malloc|calloc|realloc)\\s*\\(" NamesAllocation := by
  have hfinds (line : Text) : FindsCalls uncheckedAllocation.find NamesAllocation line := by
    refine findsCalls_findCall (fun word => ?_) line
    simp [NamesAllocation, endsWith_iff, or_assoc]
  refine isCallRule_of_callPart
    (.seq wordChars (.seq (oneOf ["malloc", "calloc", "realloc"]) opening))
    (by decide +kernel) rfl (fun t => ?_) ?_ hfinds
  · refine (reads_wordChars.seq ((reads_oneOf (by simp)).seq reads_opening)).of_iff
      fun before part after => ?_
    have hnames : ∀ name ∈ (["malloc", "calloc", "realloc"] : List Text),
        ∀ c ∈ name, c.isWord = true := by
      simpa using show (["malloc", "calloc", "realloc"] : List Text).all
        (fun name => name.all CodeUnit.isWord) = true by decide
    constructor
    · rintro ⟨run, _, rfl, hrun, name, _, rfl, hmem, blanks, rfl, hblank⟩
      exact ⟨run ++ name, blanks, by simp, ⟨name, hmem, run, rfl⟩,
        List.forall_mem_append.2 ⟨hrun, hnames name hmem⟩, hblank⟩
    · rintro ⟨_, blanks, rfl, ⟨name, hmem, run, rfl⟩, hword, hblank⟩
      exact ⟨run, name ++ (blanks ++ [0x28]), by simp, (List.forall_mem_append.1 hword).1, name,
        blanks ++ [0x28], rfl, hmem, blanks, rfl, hblank⟩
  · rintro ⟨name, hmem, hsuffix⟩
    rw [List.suffix_nil.1 hsuffix] at hmem
    revert hmem
    decide

/-- The rules for calls match whole identifiers, and all of them. Each of them, like the test for a
release, is also given by a regular expression, whose leftmost match is the text that is found. -/
theorem call_rules_by_words :
    IsCallRule unsafeStringCopy "\\b(?:strcpy|strcat)\\s*\\("
        (· ∈ (["strcpy", "strcat"] : List Text)) ∧
      IsCallRule unsafeFormat "\\b(?:sprintf|vsprintf)\\s*\\("
        (· ∈ (["sprintf", "vsprintf"] : List Text)) ∧
      IsCallRule unsafeInput "\\bgets\\s*\\(" (· = "gets") ∧
      IsCallRule uncheckedAllocation "\\b\\w*(?:malloc|calloc|realloc)\\s*\\(" NamesAllocation ∧
      IsTest "\\b\\w*free\\b" hasRelease ∧ ∀ t, hasRelease t = true ↔ NamesRelease t :=
  ⟨isCallRule_of_names rfl (by simp) (by decide) (by decide +kernel) rfl,
    isCallRule_of_names rfl (by simp) (by decide) (by decide +kernel) rfl, isCallRule_unsafeInput,
    isCallRule_uncheckedAllocation, isTest_hasRelease, fun _ => hasRelease_iff⟩

end Remedy.Scan
