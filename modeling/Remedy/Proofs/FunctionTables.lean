import Mathlib.Data.List.Induction
import Mathlib.Order.Bounds.Basic
import Remedy.Proofs.Nesting

/-!
# What a function table lists

The table is built in one pass that keeps track of where a header began and how deep it is in a
block. `Place.next` is one step of that pass and `Reached` says what the code read so far looks like
at each place. Every entry is therefore laid out in the code as a header, an opening brace, code
that stays in the block, and the brace that closes it (`layout_of_mem`), and every block at the top
level with the header of a function is listed (`exists_mem_of_opensFunction`).
`functionTable_exact` puts this together with the search for the end of a block, which follows the
same braces.
-/

namespace Remedy.Code

/-! ## One step -/

/-- The place after a unit of code. -/
def Place.next (t : Text) : Place → Nat × CodeUnit → Place
  | .outside header, (i, c) =>
    if c = ';' ∨ c = '}' then .outside none
    else if c = '{' then .inside ⟨functionName (t.slice (header.getD i) i), header.getD i, i⟩ 1
    else .outside (some (header.getD i))
  | .inside block depth, (_, c) =>
    if c = '}' ∧ depth ≤ 1 then .outside none else .inside block (nest depth c)

/-- The entry that a unit of code completes. -/
def Place.completed (starts : Array Nat) : Place → Nat × CodeUnit → List FunctionEntry
  | .outside _, _ => []
  | .inside block depth, (i, c) => if c = '}' ∧ depth ≤ 1 then block.entry starts i else []

section Run

variable (t : Text) (starts : Array Nat)

theorem entriesFrom_cons (place : Place) (p : Nat × CodeUnit) (rest : List (Nat × CodeUnit)) :
    entriesFrom t starts place (p :: rest) =
      place.completed starts p ++ entriesFrom t starts (place.next t p) rest := by
  obtain ⟨i, c⟩ := p
  cases place with
  | outside header =>
    simp only [entriesFrom, Place.completed, Place.next, List.nil_append]
    split_ifs <;> rfl
  | inside block depth =>
    simp only [entriesFrom, Place.completed, Place.next]
    by_cases hopen : c = 0x7B
    · simp [hopen]
    · by_cases hclose : c = 0x7D
      · by_cases hdepth : depth ≤ 1 <;> simp [hclose, hdepth]
      · simp [nest_eq, hopen, hclose]

/-- The place after some code. -/
def placeAfter (code : List (Nat × CodeUnit)) : Place := code.foldl (Place.next t) (.outside none)

theorem placeAfter_append (a b : List (Nat × CodeUnit)) :
    placeAfter t (a ++ b) = b.foldl (Place.next t) (placeAfter t a) := List.foldl_append

/-- An entry is completed at some unit of the code, at the place that the code before leads to. -/
theorem mem_entriesFrom_iff {place : Place} {code : List (Nat × CodeUnit)} {e : FunctionEntry} :
    e ∈ entriesFrom t starts place code ↔
      ∃ front p rest, code = front ++ p :: rest ∧
        e ∈ (front.foldl (Place.next t) place).completed starts p := by
  induction code generalizing place with
  | nil => simp [entriesFrom]
  | cons q code ih =>
    rw [entriesFrom_cons, List.mem_append, ih]
    constructor
    · rintro (h | ⟨front, p, rest, rfl, h⟩)
      · exact ⟨[], q, code, rfl, h⟩
      · exact ⟨q :: front, p, rest, rfl, h⟩
    · rintro ⟨front, p, rest, hcode, h⟩
      cases front with
      | nil =>
        obtain ⟨rfl, rfl⟩ := List.cons.inj hcode
        exact .inl h
      | cons q' front =>
        obtain ⟨rfl, rfl⟩ := List.cons.inj hcode
        exact .inr ⟨front, p, rest, rfl, h⟩

theorem foldl_next_of_staysOpen {block : OpenBlock} {depth : Nat} {code : List (Nat × CodeUnit)}
    (h : StaysOpen depth code) :
    code.foldl (Place.next t) (.inside block depth) = .inside block (nesting depth code) := by
  induction code generalizing depth with
  | nil => rfl
  | cons p code ih =>
    rw [staysOpen_cons] at h
    have hnext : 0 < nest depth p.2 := h.2 [] List.nil_prefix
    have hopen : ¬ (p.2 = 0x7D ∧ depth ≤ 1) := by
      rintro ⟨hc, hle⟩
      rw [hc, nest_close] at hnext
      omega
    have hstep : Place.next t (.inside block depth) p = .inside block (nest depth p.2) :=
      if_neg hopen
    rw [List.foldl_cons, hstep, ih h.2, nesting_cons]

end Run

/-! ## What has been read -/

/-- Code after which a new declaration begins. -/
def Settled (front : List (Nat × CodeUnit)) : Prop :=
  nesting 0 front = 0 ∧ ∀ p ∈ front.getLast?, p.2 = 0x3B ∨ p.2 = 0x7D

/-- Where a header begins that is followed by a brace at offset `i`. -/
def headerStart (header : List (Nat × CodeUnit)) (i : Nat) : Nat :=
  (header.head?.map Prod.fst).getD i

/-- What the code that led to a place looks like. -/
inductive Reached (t : Text) : List (Nat × CodeUnit) → Place → Prop where
  | outside {front header : List (Nat × CodeUnit)} (hfront : Settled front)
      (hheader : ∀ p ∈ header, IsPlain p.2) :
      Reached t (front ++ header) (.outside (header.head?.map Prod.fst))
  | inside {front header inner : List (Nat × CodeUnit)} {i : Nat} (hfront : Settled front)
      (hheader : ∀ p ∈ header, IsPlain p.2) (hinner : StaysOpen 1 inner) :
      Reached t (front ++ header ++ (i, 0x7B) :: inner)
        (.inside ⟨functionName (t.slice (headerStart header i) i), headerStart header i, i⟩
          (nesting 1 inner))

theorem Settled.nil : Settled [] := ⟨rfl, by simp⟩

theorem Settled.concat {code : List (Nat × CodeUnit)} {i : Nat} {c : CodeUnit}
    (hdepth : nest (nesting 0 code) c = 0) (hc : c = 0x3B ∨ c = 0x7D) :
    Settled (code ++ [(i, c)]) := ⟨by simpa using hdepth, by simpa using hc⟩

namespace Reached

variable {t : Text} {code : List (Nat × CodeUnit)} {place : Place}

/-- The start of a declaration. -/
theorem of_settled (h : Settled code) : Reached t code (.outside none) := by
  have hreached : Reached t (code ++ []) (.outside none) := .outside h (by simp)
  rwa [List.append_nil] at hreached

theorem next (h : Reached t code place) (p : Nat × CodeUnit) :
    Reached t (code ++ [p]) (place.next t p) := by
  obtain ⟨i, c⟩ := p
  cases h with
  | @outside front header hfront hheader =>
    have hdepth : nesting 0 (front ++ header) = 0 := by
      rw [nesting_append, hfront.1, nesting_of_isPlain hheader]
    unfold Place.next
    dsimp only
    split_ifs with hend hopen
    · refine of_settled (.concat ?_ hend)
      rw [hdepth]
      rcases hend with rfl | rfl <;> rfl
    · subst hopen
      exact .inside hfront hheader (staysOpen_nil.2 Nat.one_pos)
    · have hplain : IsPlain c := ⟨fun hc => hend (.inl hc), hopen, fun hc => hend (.inr hc)⟩
      have hhead : some ((header.head?.map Prod.fst).getD i) =
          (header ++ [(i, c)]).head?.map Prod.fst := by
        cases header <;> rfl
      rw [List.append_assoc, hhead]
      refine .outside hfront fun p hp => ?_
      rcases List.mem_append.1 hp with hp | hp
      · exact hheader p hp
      · rw [List.mem_singleton.1 hp]
        exact hplain
  | @inside front header inner j hfront hheader hinner =>
    have hdepth : nesting 0 (front ++ header ++ (j, 0x7B) :: inner) = nesting 1 inner := by
      rw [nesting_append, nesting_append, hfront.1, nesting_of_isPlain hheader]
      rfl
    unfold Place.next
    dsimp only
    split_ifs with hclose
    · obtain ⟨rfl, hle⟩ := hclose
      refine of_settled (.concat ?_ (.inr rfl))
      rw [hdepth, show nest (nesting 1 inner) '}' = nesting 1 inner - 1 from rfl]
      omega
    · have hinner' : StaysOpen 1 (inner ++ [(i, c)]) := by
        refine staysOpen_append.2 ⟨hinner, staysOpen_cons.2 ⟨hinner.pos, staysOpen_nil.2 ?_⟩⟩
        have := hinner.pos
        rw [nest_eq]
        split_ifs with ho hc
        · omega
        · have : ¬ nesting 1 inner ≤ 1 := fun hle => hclose ⟨hc, hle⟩
          omega
        · exact this
      have hreached := Reached.inside (t := t) (i := j) hfront hheader hinner'
      rw [nesting_append] at hreached
      simpa using hreached

end Reached

theorem reached_placeAfter (t : Text) (code : List (Nat × CodeUnit)) :
    Reached t code (placeAfter t code) := by
  induction code using List.reverseRecOn with
  | nil => exact .of_settled .nil
  | append_singleton code p ih =>
    rw [placeAfter_append]
    exact ih.next p

/-! ## Entries in the code -/

/-- How a definition lies in the code of a text. -/
structure Layout (t : Text) (e : FunctionEntry) (front header inner rest : List (Nat × CodeUnit)) :
    Prop where
  code_eq : code t = front ++ header ++ (e.bodyOffset, 0x7B) :: inner ++ (e.endOffset, 0x7D) :: rest
  settled : Settled front
  plain : ∀ p ∈ header, IsPlain p.2
  start_eq : e.startOffset = headerStart header e.bodyOffset
  staysOpen : StaysOpen 1 inner
  closes : nesting 1 inner = 1
  name_eq : functionName (t.slice e.startOffset e.bodyOffset) = some e.name
  span_eq : e.span =
    ⟨lineAt (lineStarts t) e.startOffset, lineAt (lineStarts t) e.endOffset⟩

theorem layout_of_mem {t : Text} {e : FunctionEntry} (h : e ∈ (FunctionTable.build t).entries) :
    ∃ front header inner rest, Layout t e front header inner rest := by
  obtain ⟨before, ⟨j, c⟩, rest, hcode, hmem⟩ := (mem_entriesFrom_iff t _).1 h
  rw [← placeAfter] at hmem
  have hreached := reached_placeAfter t before
  generalize placeAfter t before = place at hmem hreached
  cases hreached with
  | outside => simp [Place.completed] at hmem
  | @inside front header inner i hfront hheader hinner =>
    unfold Place.completed at hmem
    dsimp only at hmem
    split_ifs at hmem with hclose
    · obtain ⟨rfl, hle⟩ := hclose
      have hpos := hinner.pos
      unfold OpenBlock.entry at hmem
      split at hmem
      next name hname =>
        obtain rfl := List.mem_singleton.1 hmem
        exact ⟨front, header, inner, rest, hcode, hfront, hheader, rfl, hinner, by omega, hname,
          rfl⟩
      next => simp at hmem
    · simp at hmem

section Layout

variable {t : Text} {e : FunctionEntry} {front header inner rest : List (Nat × CodeUnit)}

theorem functionName_nil : functionName [] = none := rfl

namespace Layout

variable (h : Layout t e front header inner rest)
include h

theorem sorted_body : SortedFrom 0
    ((front ++ header) ++ (e.bodyOffset, 0x7B) :: (inner ++ (e.endOffset, 0x7D) :: rest)) := by
  have := code_sortedFrom t
  rw [h.code_eq] at this
  simpa using this

theorem sorted_end : SortedFrom 0
    ((front ++ header ++ (e.bodyOffset, 0x7B) :: inner) ++ (e.endOffset, 0x7D) :: rest) := by
  have := code_sortedFrom t
  rwa [h.code_eq] at this

/-- The text before a block of a function is not empty. -/
theorem header_ne_nil : header ≠ [] := by
  rintro rfl
  have hname := h.name_eq
  rw [h.start_eq] at hname
  simp [headerStart, Text.slice, functionName_nil] at hname

theorem header_eq : ∃ c tail, header = (e.startOffset, c) :: tail := by
  obtain ⟨⟨s, c⟩, tail, rfl⟩ := List.exists_cons_of_ne_nil h.header_ne_nil
  exact ⟨c, tail, by rw [h.start_eq]; rfl⟩

theorem start_lt_body : e.startOffset < e.bodyOffset := by
  obtain ⟨c, tail, rfl⟩ := h.header_eq
  exact h.sorted_body.around.1 (e.startOffset, c) (by simp)

theorem body_lt_end : e.bodyOffset < e.endOffset :=
  h.sorted_end.around.1 (e.bodyOffset, 0x7B) (by simp)

/-- What was read before the header stands before it. -/
theorem lt_start {q : Nat × CodeUnit} (hq : q ∈ front) : q.1 < e.startOffset := by
  obtain ⟨c, tail, rfl⟩ := h.header_eq
  have hsorted := h.sorted_body
  rw [List.append_assoc, List.cons_append] at hsorted
  exact hsorted.around.1 q hq

theorem codeAt_body : CodeAt t e.bodyOffset 0x7B := by
  rw [← mem_code_iff, h.code_eq]
  simp

theorem codeAt_end : CodeAt t e.endOffset 0x7D := by
  rw [← mem_code_iff, h.code_eq]
  simp

/-- From anywhere in the header the search for the end of the block comes to the closing brace. -/
theorem blockEnd_eq {start : Int} (hstart : e.startOffset ≤ start) (hbody : start ≤ e.bodyOffset) :
    blockEnd t start = some e.endOffset := by
  have hsplit : code t = (front ++ header) ++
      (e.bodyOffset, 0x7B) :: (inner ++ (e.endOffset, 0x7D) :: rest) := by
    rw [h.code_eq]
    simp
  -- what is left before the brace belongs to the header
  have hplain : ∀ p ∈ (front ++ header).dropWhile (fun p => (p.1 : Int) < start),
      IsPlain p.2 := by
    intro p hp
    have hsorted : SortedFrom 0 (front ++ header) :=
      ⟨(List.pairwise_append.1 h.sorted_body.sorted).1, fun _ _ => Nat.zero_le _⟩
    have hge := hsorted.dropWhile start p hp
    rcases List.mem_append.1 ((List.dropWhile_sublist _).subset hp) with hfront | hheader
    · have := h.lt_start hfront
      omega
    · exact h.plain p hheader
  rw [blockEnd, dropWhile_of_split hsplit hbody, closingBrace_of_isPlain hplain]
  simp [closingBrace_cons, closingBrace_append h.staysOpen, h.closes]

end Layout

end Layout

/-! ## The order of entries -/

/-- The next definition does not begin before offset `k`. -/
def Place.StartsFrom (k : Nat) : Place → Prop
  | .outside header => ∀ start ∈ header, k ≤ start
  | .inside block _ => k ≤ block.startOffset

section Order

variable {t : Text} {starts : Array Nat} {place : Place} {p : Nat × CodeUnit} {k : Nat}

theorem Place.StartsFrom.next (h : place.StartsFrom k) (hp : k ≤ p.1) :
    (place.next t p).StartsFrom k := by
  obtain ⟨i, c⟩ := p
  cases place with
  | outside header =>
    have hstart : k ≤ header.getD i := by
      cases header with
      | none => exact hp
      | some start => exact h start rfl
    unfold Place.next
    dsimp only
    split_ifs
    · simp [StartsFrom]
    · exact hstart
    · simpa [StartsFrom] using hstart
  | inside block depth =>
    unfold Place.next
    dsimp only
    split_ifs
    · simp [StartsFrom]
    · exact h

/-- A definition is completed at the unit that is read, and the next one has not begun. -/
theorem Place.completed_cases (t : Text) (starts : Array Nat) (place : Place)
    (p : Nat × CodeUnit) :
    place.completed starts p = [] ∨
      ∃ e, place.completed starts p = [e] ∧ e.endOffset = p.1 ∧ place.next t p = .outside none ∧
        ∀ k, place.StartsFrom k → k ≤ e.startOffset := by
  obtain ⟨i, c⟩ := p
  cases place with
  | outside header => exact .inl rfl
  | inside block depth =>
    unfold Place.completed Place.next OpenBlock.entry
    dsimp only
    split_ifs
    · split
      · exact .inr ⟨_, rfl, rfl, rfl, fun k h => h⟩
      · exact .inl rfl
    · exact .inl rfl

theorem le_startOffset {code : List (Nat × CodeUnit)} {i : Nat} (hs : SortedFrom i code)
    (hk : k ≤ i) (h : place.StartsFrom k) :
    ∀ e ∈ entriesFrom t starts place code, k ≤ e.startOffset := by
  induction code generalizing place i with
  | nil => simp [entriesFrom]
  | cons p code ih =>
    have hp : k ≤ p.1 := Nat.le_trans hk (hs.le p List.mem_cons_self)
    intro e he
    rw [entriesFrom_cons, List.mem_append] at he
    rcases he with he | he
    · rcases place.completed_cases t starts p with hnone | ⟨e', hone, -, -, hstart⟩
      · simp [hnone] at he
      · rw [hone, List.mem_singleton] at he
        exact he ▸ hstart k h
    · exact ih hs.tail (Nat.le_succ_of_le hp) (h.next hp) e he

/-- A definition ends before the next one begins. -/
theorem pairwise_entriesFrom {code : List (Nat × CodeUnit)} {i : Nat} (hs : SortedFrom i code) :
    (entriesFrom t starts place code).Pairwise fun a b => a.endOffset < b.startOffset := by
  induction code generalizing place i with
  | nil => simp [entriesFrom]
  | cons p code ih =>
    rw [entriesFrom_cons]
    rcases place.completed_cases t starts p with hnone | ⟨e, hone, hend, hnext, -⟩
    · rw [hnone, List.nil_append]
      exact ih hs.tail
    · rw [hone, hnext, List.singleton_append, List.pairwise_cons]
      refine ⟨fun e' he' => ?_, ih hs.tail⟩
      rw [hend]
      exact le_startOffset hs.tail (Nat.le_refl _) (by simp [Place.StartsFrom]) e' he'

end Order

theorem pairwise_entries (t : Text) : (FunctionTable.build t).entries.Pairwise
    fun a b => a.endOffset < b.startOffset := pairwise_entriesFrom (code_sortedFrom t)

/-- Definitions with the same body are the same. -/
theorem eq_of_bodyOffset_eq {t : Text} {a b : FunctionEntry}
    (ha : a ∈ (FunctionTable.build t).entries) (hb : b ∈ (FunctionTable.build t).entries)
    (h : a.bodyOffset = b.bodyOffset) : a = b := by
  obtain ⟨_, _, _, _, hla⟩ := layout_of_mem ha
  obtain ⟨_, _, _, _, hlb⟩ := layout_of_mem hb
  have := hla.start_lt_body
  have := hla.body_lt_end
  have := hlb.start_lt_body
  have := hlb.body_lt_end
  obtain ⟨before, after, hentries⟩ := List.append_of_mem ha
  have horder := pairwise_entries t
  rw [hentries, List.pairwise_append, List.pairwise_cons] at horder
  rw [hentries, List.mem_append, List.mem_cons] at hb
  rcases hb with hb | hb | hb
  · have := horder.2.2 b hb a List.mem_cons_self
    omega
  · exact hb.symm
  · have := horder.2.1.1 b hb
    omega

/-! ## Definitions at the top level -/

/-- A declaration or a block at the top level ends at an offset. -/
def EndsDeclaration (t : Text) (k : Nat) : Prop :=
  CodeAt t k ';' ∧ depthAt t k = 0 ∨ CodeAt t k '}' ∧ depthAt t (k + 1) = 0

/-- The header of the brace at offset `i` begins at `s`, with the first code after all that ended
before the brace. -/
def HeaderBegins (t : Text) (i s : Nat) : Prop :=
  IsLeast {s | s ∈ codeIndices t ∧ ∀ k < i, EndsDeclaration t k → k < s} s

/-- The brace at an offset opens the body of a function at the top level. -/
structure OpensFunction (t : Text) (i : Nat) : Prop where
  brace : CodeAt t i '{'
  top : depthAt t i = 0
  closes : ∃ j, i < j ∧ depthAt t j = 0
  named : ∃ s name, HeaderBegins t i s ∧ functionName (t.slice s i) = some name

theorem headerBegins_of_split {t : Text} {front header rest : List (Nat × CodeUnit)} {i : Nat}
    {c : CodeUnit} (hcode : code t = front ++ header ++ (i, c) :: rest) (hfront : Settled front)
    (hheader : ∀ p ∈ header, IsPlain p.2) : HeaderBegins t i (headerStart header i) := by
  obtain ⟨d, tail, htail⟩ : ∃ d tail,
      header ++ (i, c) :: rest = (headerStart header i, d) :: tail := by
    cases header with
    | nil => exact ⟨c, rest, rfl⟩
    | cons p header => exact ⟨p.2, header ++ (i, c) :: rest, rfl⟩
  generalize headerStart header i = s at htail ⊢
  have hsplit : code t = front ++ (s, d) :: tail := by rw [hcode, List.append_assoc, htail]
  obtain ⟨hbefore, hafter⟩ := (hsplit ▸ code_sortedFrom t).around
  have hrest := (hcode ▸ code_sortedFrom t).around.2
  have hsi : s ≤ i := by
    have hmem : (i, c) ∈ (s, d) :: tail := htail ▸ by simp
    rcases List.mem_cons.1 hmem with heq | hmem
    · exact Nat.le_of_eq (Prod.mk.inj heq).1.symm
    · exact Nat.le_of_lt (hafter _ hmem)
  refine ⟨⟨(mem_code_iff.1 (hsplit ▸ by simp : (s, d) ∈ code t)).1, fun k hk hends => ?_⟩,
    fun s' hs' => ?_⟩
  · -- nothing in the header ends a declaration
    obtain ⟨c', hmem, hc'⟩ : ∃ c', (k, c') ∈ code t ∧ ¬ IsPlain c' := by
      rcases hends with ⟨h, -⟩ | ⟨h, -⟩
      · exact ⟨_, mem_code_iff.2 h, fun hplain => hplain.1 rfl⟩
      · exact ⟨_, mem_code_iff.2 h, fun hplain => hplain.2.2 rfl⟩
    rw [hcode, List.mem_append, List.mem_append, List.mem_cons] at hmem
    rcases hmem with (hmem | hmem) | hmem | hmem
    · exact hbefore _ hmem
    · exact absurd (hheader _ hmem) hc'
    · rw [Prod.mk.injEq] at hmem
      omega
    · have := hrest _ hmem
      dsimp only at this
      omega
  · -- code that stands before the header is not after the unit that ended the last declaration
    by_contra hlt
    obtain ⟨⟨s'', d'⟩, hmem, rfl⟩ := List.mem_map.1 hs'.1
    have hmem : (s'', d') ∈ front := by
      rw [hsplit, List.mem_append, List.mem_cons, Prod.mk.injEq] at hmem
      rcases hmem with hmem | hmem | hmem
      · exact hmem
      · omega
      · have := hafter _ hmem
        dsimp only at this hlt
        omega
    obtain rfl | ⟨init, ⟨k, c'⟩, rfl⟩ := List.eq_nil_or_concat front
    · simp at hmem
    · have hends : EndsDeclaration t k := by
        have hlast : code t = init ++ (k, c') :: (s, d) :: tail := by rw [hsplit]; simp
        have hdepth := hfront.1
        rw [List.concat_eq_append] at hdepth
        rcases hfront.2 (k, c') (by simp) with hc' | hc' <;> dsimp only at hc' <;> subst hc'
        · refine .inl ⟨mem_code_iff.1 (hlast ▸ by simp), ?_⟩
          rw [depthAt_of_split hlast]
          simpa [nest] using hdepth
        · refine .inr ⟨mem_code_iff.1 (hlast ▸ by simp), ?_⟩
          rw [depthAt_succ_of_split hlast, hdepth]
      have hks : k < s := hbefore (k, c') (by simp)
      have hle := hs'.2 k (by omega) hends
      have hsorted := hsplit ▸ code_sortedFrom t
      rw [List.concat_eq_append, List.append_assoc] at hsorted
      rw [List.concat_eq_append, List.mem_append, List.mem_singleton, Prod.mk.injEq] at hmem
      rcases hmem with hmem | hmem
      · have := hsorted.around.1 _ hmem
        dsimp only at this hle
        omega
      · dsimp only at hle
        omega

theorem Layout.opensFunction {t : Text} {e : FunctionEntry}
    {front header inner rest : List (Nat × CodeUnit)} (h : Layout t e front header inner rest) :
    OpensFunction t e.bodyOffset := by
  have hbody : code t = front ++ header ++
      (e.bodyOffset, 0x7B) :: (inner ++ (e.endOffset, 0x7D) :: rest) := by
    rw [h.code_eq]
    simp
  have hdepth : nesting 0 (front ++ header) = 0 := by
    rw [nesting_append, h.settled.1, nesting_of_isPlain h.plain]
  refine ⟨h.codeAt_body, by rw [depthAt_of_split hbody, hdepth],
    ⟨e.endOffset + 1, Nat.lt_succ_of_lt h.body_lt_end, ?_⟩,
    ⟨e.startOffset, e.name, ?_, h.name_eq⟩⟩
  · rw [depthAt_succ_of_split h.code_eq, nesting_append, nesting_append, hdepth]
    simp [h.closes]
  · rw [h.start_eq]
    exact headerBegins_of_split hbody h.settled h.plain

theorem exists_mem_of_opensFunction {t : Text} {i : Nat} (h : OpensFunction t i) :
    ∃ e ∈ (FunctionTable.build t).entries, e.bodyOffset = i := by
  obtain ⟨before, after, hcode⟩ := List.append_of_mem (mem_code_iff.2 h.brace)
  have hzero : nesting 0 before = 0 := by rw [← depthAt_of_split hcode, h.top]
  -- the block closes at some brace
  obtain ⟨inner, j, rest, rfl, hopen, hone⟩ : ∃ inner j rest, after = inner ++ (j, 0x7D) :: rest ∧
      StaysOpen 1 inner ∧ nesting 1 inner = 1 := by
    obtain ⟨j, hij, hj⟩ := h.closes
    refine exists_closing Nat.one_pos ⟨_, List.takeWhile_prefix fun p => p.1 < j, ?_⟩
    have hbefore := (hcode ▸ code_sortedFrom t).around.1
    rw [depthAt, hcode, List.takeWhile_append_of_pos fun q hq => by
        simpa using Nat.lt_trans (hbefore q hq) hij,
      List.takeWhile_cons_of_pos (by simpa using hij), nesting_append, hzero] at hj
    exact hj
  obtain ⟨s, name, hbegins, hname⟩ := h.named
  have hreached := reached_placeAfter t before
  generalize hplace : placeAfter t before = place at hreached
  cases hreached with
  | @inside front header inner' i' hfront hheader hinner =>
    have := hinner.pos
    rw [nesting_append, nesting_append, hfront.1, nesting_of_isPlain hheader, nesting_cons,
      nest_open, Nat.zero_add] at hzero
    omega
  | @outside front header hfront hheader =>
    obtain rfl : headerStart header i = s :=
      (headerBegins_of_split hcode hfront hheader).unique hbegins
    have hinside : placeAfter t (front ++ header ++ (i, 0x7B) :: inner) =
        .inside ⟨some name, headerStart header i, i⟩ 1 := by
      have hnext : Place.next t (.outside (header.head?.map Prod.fst)) (i, 0x7B) =
          .inside ⟨some name, headerStart header i, i⟩ 1 := by
        rw [← hname]
        rfl
      rw [placeAfter_append, hplace, List.foldl_cons, hnext, foldl_next_of_staysOpen t hopen, hone]
    let e : FunctionEntry := ⟨name, ⟨lineAt (lineStarts t) (headerStart header i),
      lineAt (lineStarts t) j⟩, headerStart header i, i, j⟩
    refine ⟨e, (mem_entriesFrom_iff t _).2
      ⟨front ++ header ++ (i, 0x7B) :: inner, (j, 0x7D), rest, by rw [hcode]; simp, ?_⟩, rfl⟩
    rw [← placeAfter, hinside]
    exact List.mem_singleton_self e

/-- What holds of every entry of a function table. -/
structure IsDefinition (t : Text) (e : FunctionEntry) : Prop where
  start_lt_body : e.startOffset < e.bodyOffset
  body_lt_end : e.bodyOffset < e.endOffset
  opening : CodeAt t e.bodyOffset '{'
  closing : CodeAt t e.endOffset '}'
  blockEnd_eq : ∀ start : Int, e.startOffset ≤ start → start ≤ e.bodyOffset →
    blockEnd t start = some e.endOffset
  name_eq : some e.name = functionName (t.slice e.startOffset e.bodyOffset)

/-- The entries of a table follow one another, each is a definition whose braces the search for the
end of a block finds as well, and they are all the functions that are defined at the top level. -/
theorem functionTable_exact (t : Text) :
    (FunctionTable.build t).entries.Pairwise (fun a b => a.endOffset < b.startOffset) ∧
      (∀ e ∈ (FunctionTable.build t).entries, IsDefinition t e) ∧
      ∀ i, OpensFunction t i ↔ ∃! e, e ∈ (FunctionTable.build t).entries ∧ e.bodyOffset = i := by
  refine ⟨pairwise_entries t, fun e he => ?_, fun i => ⟨fun hi => ?_, ?_⟩⟩
  · obtain ⟨front, header, inner, rest, h⟩ := layout_of_mem he
    exact ⟨h.start_lt_body, h.body_lt_end, h.codeAt_body, h.codeAt_end,
      fun _ hstart hbody => h.blockEnd_eq hstart hbody, h.name_eq.symm⟩
  · obtain ⟨e, he, hi⟩ := exists_mem_of_opensFunction hi
    exact ⟨e, ⟨he, hi⟩, fun e' he' => eq_of_bodyOffset_eq he'.1 he (he'.2.trans hi.symm)⟩
  · rintro ⟨e, ⟨he, rfl⟩, -⟩
    obtain ⟨front, header, inner, rest, h⟩ := layout_of_mem he
    exact h.opensFunction

/-- A type with a block, a brace that closes nothing, and a function with a brace in a comment of
its header and a block in its body. -/
def strayBrace : Text :=
  "struct s \x7b int a; \x7d; \x7d\nint f(int x) // \x7b\n\x7b if (x) \x7b g(); \x7d \x7d\n"

theorem functionTable_exact_strayBrace :
    ∃ e ∈ (FunctionTable.build strayBrace).entries, e.bodyOffset = 41 ∧
      OpensFunction strayBrace 41 ∧ IsDefinition strayBrace e ∧
      blockEnd strayBrace 30 = some 59 := by
  have hoffsets : (FunctionTable.build strayBrace).entries.map
      (fun e => (e.startOffset, e.bodyOffset, e.endOffset)) = [(23, 41, 59)] := by decide
  obtain ⟨e, he, hoff⟩ := List.mem_map.1 (hoffsets ▸ List.mem_singleton_self _)
  obtain ⟨hstart, hbody, hend⟩ : e.startOffset = 23 ∧ e.bodyOffset = 41 ∧ e.endOffset = 59 := by
    simpa using hoff
  have htable := functionTable_exact strayBrace
  have hdefinition := htable.2.1 e he
  have hsearch := hdefinition.blockEnd_eq 30 (by omega) (by omega)
  rw [hend] at hsearch
  exact ⟨e, he, hbody, (htable.2.2 41).2
    ⟨e, ⟨he, hbody⟩, fun e' he' => eq_of_bodyOffset_eq he'.1 he (he'.2.trans hbody.symm)⟩,
    hdefinition, hsearch⟩

end Remedy.Code
