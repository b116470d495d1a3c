import Remedy.Pattern.Escape
import Remedy.Unicode.StringProperty

/-!
# Classes

Sets of characters in brackets, and the escapes that name sets. Where classes are combined as sets,
they nest, take differences and intersections, and may hold strings of several characters or none.
-/

namespace Remedy.Pattern

/-- What a class stands for. -/
structure ClassSet where
  chars : CharSet
  /-- Its strings that are not single characters. -/
  strings : List (List Nat) := []
  /-- A class may hold strings by its form, even if it has none. -/
  mayHoldStrings : Bool := false

namespace ClassSet

def ofChar (c : Nat) : ClassSet := { chars := .part (.range c c) }

/-- The class that holds the given strings; up to case, their canonical forms are compared. -/
def ofStrings (flags : Flags) (strings : List (List Nat)) : ClassSet :=
  { chars := .ofList (strings.filterMap fun s =>
      match s with
      | [c] => some (.part (.range c c))
      | _ => none)
    strings := (strings.filter fun s => s.length != 1).map (·.map (canonical flags))
    mayHoldStrings := strings.any fun s => s.length != 1 }

def union (a b : ClassSet) : ClassSet :=
  { chars := .union a.chars b.chars
    strings := a.strings ++ b.strings
    mayHoldStrings := a.mayHoldStrings || b.mayHoldStrings }

def both (a b : ClassSet) : ClassSet :=
  { chars := .both a.chars b.chars
    strings := a.strings.filter b.strings.contains
    mayHoldStrings := a.mayHoldStrings && b.mayHoldStrings }

def without (a b : ClassSet) : ClassSet :=
  { chars := .without a.chars b.chars
    strings := a.strings.filter fun s => !b.strings.contains s
    mayHoldStrings := a.mayHoldStrings }

def ofString : List Nat → Node
  | [] => .empty
  | c :: cs => .seq (.char c) (ofString cs)

/-- Longer strings are tried before shorter ones. -/
def toNode (set : ClassSet) : Node :=
  let long := (set.strings.filter fun s => !s.isEmpty).mergeSort fun s t => t.length ≤ s.length
  let last := if set.strings.contains [] then .alt (.set set.chars) .empty else .set set.chars
  long.foldr (fun s node => .alt (ofString s) node) last

end ClassSet

/-- The set that a class escape letter names. -/
def classLetter? (c : Nat) : Option ClassItem :=
  if c = 0x64 then some (.digit false)
  else if c = 0x44 then some (.digit true)
  else if c = 0x73 then some (.space false)
  else if c = 0x53 then some (.space true)
  else if c = 0x77 then some (.word false)
  else if c = 0x57 then some (.word true)
  else none

/-- A property escape, after its letter. Where classes are sets, its complement is taken after
characters equal up to case have been added. -/
def propertyEscape (ctx : Context) (negated : Bool) : Read ClassSet := do
  require '\x7b' .invalidProperty
  let s ← get
  let body := s.rest.takeWhile (· != 0x7D)
  let name := toText (body.takeWhile (· != 0x3D))
  let value := body.dropWhile (· != 0x3D)
  jump (s.rest.drop body.length)
  require '\x7d' .invalidProperty
  let value? := if value.isEmpty then none else some (toText (value.drop 1))
  match Unicode.propertySet name value? with
  | some set =>
    if negated && ctx.flags.classSets then
      return { chars := .others (.part (.property set false)) }
    else return { chars := .part (.property set negated) }
  | none =>
    let strings := if ctx.flags.classSets && value?.isNone then Unicode.stringSet name else none
    match strings with
    | some strings =>
      if negated then fail .negatedStrings
      return { ClassSet.ofStrings ctx.flags strings with mayHoldStrings := true }
    | none => fail .invalidProperty

/-- A set named by an escape letter, if the next character, after a backslash, is one. -/
def setEscape (ctx : Context) : Read (Option ClassSet) := do
  match (← peek) with
  | none => fail .escapeAtEnd
  | some c =>
    match classLetter? c with
    | some item => do
      advance 1
      return some { chars := .part item }
    | none =>
      if ctx.unicode && (c == 0x70 || c == 0x50) then do
        advance 1
        return some (← propertyEscape ctx (c == 0x50))
      else return none

/-! ## Classes of characters -/

/-- One member of a class: a set, or a single character. -/
def classAtom (ctx : Context) : Read (CharSet ⊕ Nat) := do
  match (← peek) with
  | none => fail .unterminatedClass
  | some 0x5C => do
    advance 1
    match (← setEscape ctx) with
    | some set => return .inl set.chars
    | none => do
      if (← accept 'b') then return .inr 0x08
      return .inr (← characterEscape ctx true)
  | some c => do
    advance 1
    return .inr c

def atomSet : CharSet ⊕ Nat → CharSet
  | .inl set => set
  | .inr c => .part (.range c c)

/-- The members of a class up to its closing bracket. -/
def classItems (ctx : Context) : Nat → Read (List CharSet)
  | 0 => fail .tooLarge
  | fuel + 1 => do
    if (← accept ']') then return []
    let first ← classAtom ctx
    let s ← get
    match s.rest with
    | 0x2D :: 0x5D :: _ => return atomSet first :: (← classItems ctx fuel)
    | 0x2D :: _ => do
      advance 1
      let second ← classAtom ctx
      match first, second with
      | .inr low, .inr high =>
        if high < low then fail .classOutOfOrder
        return .part (.range low high) :: (← classItems ctx fuel)
      | _, _ =>
        if ctx.unicode then fail .invalidClass
        return atomSet first :: .part (.range 0x2D 0x2D) :: atomSet second ::
          (← classItems ctx fuel)
    | _ => return atomSet first :: (← classItems ctx fuel)

/-- A class after its opening bracket. -/
def characterClass (ctx : Context) : Read ClassSet := do
  let negated ← accept '^'
  let s ← get
  let set := CharSet.ofList (← classItems ctx (s.rest.length + 1))
  return { chars := if negated then .others set else set }

/-! ## Classes combined as sets -/

/-- Characters that stand for themselves in a class only after a backslash. -/
def classSyntaxCharacters : List Nat := codesOf "()[]\x7b\x7d/-\\|"

/-- Characters that may not stand twice in a row. -/
def doubledCharacters : List Nat := codesOf "&!#$%*+,.:;<=>?@^`~"

/-- Characters that may be escaped in such a class, beside those that may be anywhere. -/
def classEscapable : List Nat := codesOf "&-!#%,:;<=>@`~"

def nextTwoAre (c : Char) (cs : List Nat) : Bool := cs.take 2 == [c.toNat, c.toNat]

/-- A character that stands for itself, or an escape that stands for one. -/
def classCharacter (ctx : Context) : Read Nat := do
  let s ← get
  match s.rest with
  | [] => fail .unterminatedClass
  | 0x5C :: rest => do
    advance 1
    match rest with
    | c :: _ =>
      if c = 0x62 then do
        advance 1
        return 0x08
      else if classEscapable.contains c then do
        advance 1
        return c
      else characterEscape ctx true
    | [] => fail .escapeAtEnd
  | c :: rest =>
    if classSyntaxCharacters.contains c then fail .invalidClassCharacter
    else if doubledCharacters.contains c && rest.head? == some c then fail .invalidClassOperation
    else do
      advance 1
      return c

/-- Strings separated by bars, up to a closing brace; `acc` holds the last string so far, in
reverse. -/
def classStrings (ctx : Context) (acc : List Nat) : Nat → Read (List (List Nat))
  | 0 => fail .tooLarge
  | fuel + 1 => do
    if (← accept '\x7d') then return [acc.reverse]
    else if (← accept '|') then return acc.reverse :: (← classStrings ctx [] fuel)
    else classStrings ctx ((← classCharacter ctx) :: acc) fuel

mutual

/-- One operand: a nested class, a set named by an escape, strings, or a single character. -/
def classOperand (ctx : Context) : Nat → Read (ClassSet ⊕ Nat)
  | 0 => fail .tooLarge
  | fuel + 1 => do
    let s ← get
    match s.rest with
    | 0x5B :: _ => do
      advance 1
      return .inl (← classSet ctx fuel)
    | 0x5C :: 0x71 :: rest => do
      jump rest
      require '\x7b' .invalidEscape
      return .inl (.ofStrings ctx.flags (← classStrings ctx [] (rest.length + 1)))
    | 0x5C :: rest => do
      jump rest
      match (← setEscape ctx) with
      | some set => return .inl set
      | none => do
        jump s.rest
        return .inr (← classCharacter ctx)
    | _ => return .inr (← classCharacter ctx)

/-- The rest of a union, whose last member is still to be joined with what follows it. -/
def classUnion (ctx : Context) (acc : ClassSet) (last : ClassSet ⊕ Nat) : Nat → Read ClassSet
  | 0 => fail .tooLarge
  | fuel + 1 => do
    let s ← get
    if nextTwoAre '-' s.rest || nextTwoAre '&' s.rest then fail .invalidClassOperation
    let member ← match last, s.rest with
      | .inr low, 0x2D :: _ => do
        advance 1
        match (← classOperand ctx fuel) with
        | .inr high =>
          if high < low then fail .classOutOfOrder
          pure { chars := .part (.range low high) }
        | .inl _ => fail .invalidClass
      | .inr c, _ => pure (.ofChar c)
      | .inl set, _ => pure set
    let acc := acc.union member
    if (← accept ']') then return acc
    classUnion ctx acc (← classOperand ctx fuel) fuel

/-- The operands after the first one, each after the operator that joins all of them. -/
def classOperands (ctx : Context) (operator : Char) (combine : ClassSet → ClassSet → ClassSet)
    (acc : ClassSet) : Nat → Read ClassSet
  | 0 => fail .tooLarge
  | fuel + 1 => do
    if (← accept ']') then return acc
    let s ← get
    if !nextTwoAre operator s.rest then fail .invalidClassOperation
    advance 2
    if operator = '&' && s.rest[2]? == some 0x26 then fail .invalidClassCharacter
    let operand := match (← classOperand ctx fuel) with
      | .inl set => set
      | .inr c => .ofChar c
    classOperands ctx operator combine (combine acc operand) fuel

/-- A class after its opening bracket. -/
def classSet (ctx : Context) : Nat → Read ClassSet
  | 0 => fail .tooLarge
  | fuel + 1 => do
    let negated ← accept '^'
    let set ← if (← accept ']') then pure { chars := .empty } else do
      let first ← classOperand ctx fuel
      let s ← get
      let whole := match first with
        | .inl set => set
        | .inr c => .ofChar c
      if nextTwoAre '-' s.rest then classOperands ctx '-' .without whole fuel
      else if nextTwoAre '&' s.rest then classOperands ctx '&' .both whole fuel
      else classUnion ctx { chars := .empty } first fuel
    if !negated then return set
    if set.mayHoldStrings then fail .negatedStrings
    return { chars := .others set.chars }

end

/-- A class after its opening bracket, as the flags have it read. -/
def anyClass (ctx : Context) : Read ClassSet := do
  let s ← get
  if ctx.flags.classSets then classSet ctx (2 * s.rest.length + 2) else characterClass ctx

end Remedy.Pattern
