import Remedy.Pattern.Class

/-!
# Reading regular expressions

Without the Unicode flag the reader is lenient: braces that form no quantifier and references to
groups that do not exist stand for characters. Under the flag each of these is a fault.
-/

namespace Remedy.Pattern

/-- The capture groups of an expression in order, each with its name if it has one. -/
def scanGroups (inClass : Bool) : List Nat → List (Option (List Nat))
  | [] => []
  | 0x5C :: _ :: cs => scanGroups inClass cs
  | 0x28 :: 0x3F :: 0x3C :: cs =>
    if inClass || cs.head? == some 0x3D || cs.head? == some 0x21 then scanGroups inClass cs
    else some ((groupName cs).elim [] Prod.fst) :: scanGroups inClass cs
  | 0x28 :: 0x3F :: cs => scanGroups inClass cs
  | c :: cs =>
    if c = 0x5B then scanGroups true cs
    else if c = 0x5D then scanGroups false cs
    else if c = 0x28 && !inClass then none :: scanGroups inClass cs
    else scanGroups inClass cs

def Context.of (flags : Flags) (cs : List Nat) : Context :=
  let groups := scanGroups false cs
  { flags
    groups := groups.length
    names := groups.zipIdx.filterMap fun (name, i) => name.map (·, i + 1) }

/-- A group before the given one has the same name. -/
def Context.isRepeated (ctx : Context) (name : List Nat) (index : Nat) : Bool :=
  ctx.names.any fun (other, i) => i < index && other == name

def takeDigits (cs : List Nat) : List Nat × List Nat :=
  (cs.takeWhile isDigitChar, cs.dropWhile isDigitChar)

def numeral (ds : List Nat) : Nat := ds.foldl (fun n d => n * 10 + (d - 0x30)) 0

/-- Counts from here on are as good as no bound. -/
def unbounded : Nat := 2147483647

def countOf (ds : List Nat) : Nat := min (numeral ds) unbounded

/-- A quantifier in braces: its bounds, and what follows. -/
def bracedQuantifier (cs : List Nat) : Option ((Nat × Option Nat) × List Nat) :=
  match cs with
  | 0x7B :: rest =>
    let (low, rest) := takeDigits rest
    if low.isEmpty then none
    else match rest with
      | 0x7D :: rest => some ((countOf low, some (countOf low)), rest)
      | 0x2C :: 0x7D :: rest => some ((countOf low, none), rest)
      | 0x2C :: rest =>
        let (high, rest) := takeDigits rest
        match high, rest with
        | _ :: _, 0x7D :: rest => some ((countOf low, some (countOf high)), rest)
        | _, _ => none
      | _ => none
  | _ => none

/-- An escape outside a class, after its backslash. -/
def atomEscape (ctx : Context) : Read Node := do
  let s ← get
  match s.rest with
  | [] => fail .escapeAtEnd
  | c :: rest =>
    if c = 0x6B && (ctx.unicode || !ctx.names.isEmpty) then
      match rest with
      | 0x3C :: rest =>
        match groupName rest with
        | some (name, tail) =>
          match ctx.names.find? fun p => p.1 == name with
          | some (_, index) => do
            jump tail
            return .backref index
          | none => do
            set { s with rest := tail, strayReference := true }
            return .empty
        | none => fail .invalidReference
      | _ => fail .invalidReference
    else if 0x31 ≤ c && c ≤ 0x39 then
      let (digits, tail) := takeDigits s.rest
      if numeral digits ≤ ctx.groups then do
        jump tail
        return .backref (numeral digits)
      else if ctx.unicode then fail .invalidEscape
      else if 0x38 ≤ c then do
        advance 1
        return .char c
      else return .char (← octalEscape)
    else
      match (← setEscape ctx) with
      | some set => return set.toNode
      | none => return .char (← characterEscape ctx false)

/-- The quantifier after an atom that holds the groups opened after `before`. -/
def quantified (ctx : Context) (before : Nat) (atom : Node) : Read Node := do
  let s ← get
  let bounds : Option ((Nat × Option Nat) × List Nat) := match s.rest with
    | 0x2A :: rest => some ((0, none), rest)
    | 0x2B :: rest => some ((1, none), rest)
    | 0x3F :: rest => some ((0, some 1), rest)
    | rest => bracedQuantifier rest
  match bounds with
  | none =>
    if ctx.unicode && s.rest.head? == some 0x7B then fail .incompleteQuantifier else return atom
  | some ((least, most), rest) =>
    if most.any fun most => most < least then fail .quantifierOutOfOrder
    jump rest
    let lazy ← accept '?'
    let most := most.filter (· < unbounded)
    return .loop least most (!lazy) before s.opened atom

mutual

def disjunction (ctx : Context) : Nat → Read Node
  | 0 => fail .tooLarge
  | fuel + 1 => do
    let first ← alternative ctx [] fuel
    if (← accept '|') then return .alt first (← disjunction ctx fuel) else return first

/-- The terms of an alternative, those read so far backwards. -/
def alternative (ctx : Context) (terms : List Node) : Nat → Read Node
  | 0 => fail .tooLarge
  | fuel + 1 => do
    match (← peek) with
    | none | some 0x7C | some 0x29 => return terms.foldl (fun rest term => .seq term rest) .empty
    | some _ => do
      let next ← term ctx fuel
      alternative ctx (next :: terms) fuel

/-- The body of a group, whose opening is `n` characters long, and its closing bracket. -/
def groupBody (ctx : Context) (n : Nat) : Nat → Read Node
  | 0 => fail .tooLarge
  | fuel + 1 => do
    advance n
    let body ← disjunction ctx fuel
    require ')' .unterminatedGroup
    return body

/-- A capture group, after its opening. -/
def captureGroup (ctx : Context) : Nat → Read Node
  | 0 => fail .tooLarge
  | fuel + 1 => do
    let s ← get
    let index := s.opened + 1
    set { s with opened := index }
    return .capture index (← groupBody ctx 0 fuel)

def term (ctx : Context) : Nat → Read Node
  | 0 => fail .tooLarge
  | fuel + 1 => do
    let s ← get
    let before := s.opened
    match s.rest with
    | [] => fail .tooLarge
    | 0x5E :: _ => do
      advance 1
      return .check .start
    | 0x24 :: _ => do
      advance 1
      return .check .stop
    | 0x5C :: 0x62 :: _ => do
      advance 2
      return .check .wordBoundary
    | 0x5C :: 0x42 :: _ => do
      advance 2
      return .check .notWordBoundary
    | 0x5C :: _ => do
      advance 1
      quantified ctx before (← atomEscape ctx)
    | 0x28 :: 0x3F :: 0x3A :: _ => do
      quantified ctx before (← groupBody ctx 3 fuel)
    | 0x28 :: 0x3F :: 0x3D :: _ => do
      let node := Node.look .forward false (← groupBody ctx 3 fuel)
      if ctx.unicode then return node else quantified ctx before node
    | 0x28 :: 0x3F :: 0x21 :: _ => do
      let node := Node.look .forward true (← groupBody ctx 3 fuel)
      if ctx.unicode then return node else quantified ctx before node
    | 0x28 :: 0x3F :: 0x3C :: 0x3D :: _ => do
      return .look .backward false (← groupBody ctx 4 fuel)
    | 0x28 :: 0x3F :: 0x3C :: 0x21 :: _ => do
      return .look .backward true (← groupBody ctx 4 fuel)
    | 0x28 :: 0x3F :: 0x3C :: cs => do
      match groupName cs with
      | none => fail .invalidGroupName
      | some (name, rest) => do
        if ctx.isRepeated name (before + 1) then fail .repeatedGroupName
        jump rest
        quantified ctx before (← captureGroup ctx fuel)
    | 0x28 :: 0x3F :: _ => fail .invalidGroup
    | 0x28 :: _ => do
      advance 1
      quantified ctx before (← captureGroup ctx fuel)
    | 0x2E :: _ => do
      advance 1
      quantified ctx before .any
    | 0x5B :: _ => do
      advance 1
      quantified ctx before (← anyClass ctx).toNode
    | c :: rest =>
      if c = 0x2A || c = 0x2B || c = 0x3F then fail .nothingToRepeat
      else if c = 0x7B && (bracedQuantifier (c :: rest)).isSome then fail .nothingToRepeat
      else if ctx.unicode && (c == 0x7B || c == 0x7D || c == 0x5D) then fail .loneBracket
      else do
        advance 1
        quantified ctx before (.char c)

end

def readExpression (flags : Flags) (source : Text) : Except Fault Expression :=
  let cs := if flags.unicode then source.codePoints else source.map UInt16.toNat
  let ctx := Context.of flags cs
  match (disjunction ctx (5 * cs.length + 8)).run ⟨cs, 0, false⟩ with
  | .error fault => .error fault
  | .ok (body, ⟨[], _, false⟩) => .ok ⟨flags, ctx.groups, body⟩
  | .ok (_, ⟨[], _, true⟩) => .error .unknownReference
  | .ok _ => .error .unmatchedParenthesis

/-- Flags are different letters among `dgimsuvy`, not both `u` and `v`. -/
def readFlags (flags : Text) : Except Fault Flags :=
  let known : Text := "dgimsuvy"
  let has (c : Char) : Bool := flags.contains (c : CodeUnit)
  if flags.any (fun c => !known.contains c || 1 < flags.count c) || (has 'u' && has 'v') then
    .error .flags
  else .ok ⟨has 'i', has 'm', has 's', has 'u' || has 'v', has 'v'⟩

/-- The regular expression with the given source and flags. -/
def compile (source flags : Text) : Except Fault Expression := do
  readExpression (← readFlags flags) source

/-- The regular expression with the given source and flags, if both are well formed. -/
def compile? (source flags : Text) : Option Expression := (compile source flags).toOption

end Remedy.Pattern
