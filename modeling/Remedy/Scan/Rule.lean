import Remedy.Scan.Finding

/-!
# Rules

A rule looks for one kind of suspicious place on a line of C text. Identifiers are maximal runs of
word units, and a call is an identifier followed by blanks and an opening parenthesis.
-/

namespace Remedy.Scan

/-- The first call, from the left, whose identifier passes a test: its text up to the parenthesis.
`inWord` tells that the unit before belongs to a word. -/
def findCallFrom (isCallee : Text → Bool) (inWord : Bool) : Text → Option Text
  | [] => none
  | c :: t =>
    if !inWord && c.isWord then
      let word := (c :: t).takeWhile CodeUnit.isWord
      let rest := (c :: t).dropWhile CodeUnit.isWord
      let blanks := rest.takeWhile CodeUnit.isBlank
      if isCallee word && (rest.dropWhile CodeUnit.isBlank).head? == some 0x28 then
        some (word ++ blanks ++ [0x28])
      else findCallFrom isCallee true t
    else findCallFrom isCallee c.isWord t

def findCall (isCallee : Text → Bool) (line : Text) : Option Text :=
  findCallFrom isCallee false line

/-- Some maximal run of word units passes a test. -/
def hasWordFrom (test : Text → Bool) (inWord : Bool) : Text → Bool
  | [] => false
  | c :: t =>
    (!inWord && c.isWord && test ((c :: t).takeWhile CodeUnit.isWord)) ||
      hasWordFrom test c.isWord t

def hasWord (test : Text → Bool) (t : Text) : Bool := hasWordFrom test false t

/-- Some identifier of the text looks like the name of a release function. -/
def hasRelease (t : Text) : Bool := hasWord (fun word => word.endsWith "free") t

/-! ## Arithmetic -/

/-- Replaces arrows, increments and decrements by a blank, from left to right. -/
def maskOperators : Text → Text
  | [] => []
  | [c] => [c]
  | c :: d :: t =>
    if (c == '-' && d == '>') || (c == '+' && d == '+') || (c == '-' && d == '-') then
      0x20 :: maskOperators t
    else c :: maskOperators (d :: t)

/-- What may stand to the right of an operator, after blanks. -/
def startsOperand (t : Text) : Bool :=
  (t.dropWhile CodeUnit.isBlank).head?.any fun c : CodeUnit => c.isWord || c == '('

/-- A sum or a difference: `left` is the last unit before that is not blank. -/
def hasSum (left : Option CodeUnit) : Text → Bool
  | [] => false
  | c :: t =>
    ((c == '+' || c == '-') && left.any (fun l : CodeUnit => l.isWord || l == ')' || l == ']') &&
        startsOperand t) ||
      hasSum (if c.isBlank then left else some c) t

def typeWords : List Text :=
  ["char", "short", "int", "long", "float", "double", "void", "signed", "unsigned", "const",
    "volatile", "struct", "union", "enum"]

def isTypeWord (word : Text) : Bool := typeWords.contains word || word.endsWith "_t"

/-- The units from here up to the first one of what a star multiplies, if a star and an operand come
next. -/
def productTail? (t : Text) : Option Nat :=
  match t.dropWhile CodeUnit.isBlank with
  | 0x2A :: rest =>
    let operand := rest.dropWhile CodeUnit.isBlank
    if startsOperand operand then some (t.length - operand.length + 1) else none
  | _ => none

/-- A product whose left side is no type: `skip` units belong to what has been looked at. -/
def hasProduct (skip : Nat) : Text → Bool
  | [] => false
  | c :: t =>
    match skip with
    | skip + 1 => hasProduct skip t
    | 0 =>
      if c.isWord then
        let word := (c :: t).takeWhile CodeUnit.isWord
        match productTail? ((c :: t).dropWhile CodeUnit.isWord) with
        | some n => !isTypeWord word || hasProduct (word.length - 1 + n) t
        | none => hasProduct (word.length - 1) t
      else if c == ')' then (productTail? t).isSome || hasProduct 0 t
      else hasProduct 0 t

/-- A line has a sum, a difference, or a product that is no pointer declarator. -/
def hasSizeArithmetic (line : Text) : Bool :=
  let code := maskOperators line
  hasSum none code || hasProduct 0 code

/-! ## Sizes of types -/

def sizeofWord : Text := "sizeof"

/-- A star before the word `sizeof`, at the start of the text: its text up to the word. -/
def starSizeof? (t : Text) : Option Text :=
  match t with
  | 0x2A :: rest =>
    let blanks := rest.takeWhile CodeUnit.isBlank
    let word := (rest.dropWhile CodeUnit.isBlank).takeWhile CodeUnit.isWord
    if word == sizeofWord then some (0x2A :: blanks ++ word) else none
  | _ => none

/-- The word `sizeof` with its operand in parentheses and a star that closes no comment, at the
start of the text: its text up to the star. -/
def sizeofStar? (t : Text) : Option Text :=
  if !sizeofWord.isPrefixOf t then none
  else
    match (t.drop sizeofWord.length).dropWhile CodeUnit.isBlank with
    | 0x28 :: rest =>
      match rest.dropWhile (· != 0x29) with
      | 0x29 :: rest =>
        match rest.dropWhile CodeUnit.isBlank with
        | 0x2A :: rest =>
          if rest.head? == some 0x2F then none else some (t.take (t.length - rest.length))
        | _ => none
      | _ => none
    | _ => none

/-- The first multiplication by the size of a type. -/
def findSizeofFrom (inWord : Bool) : Text → Option Text
  | [] => none
  | c :: t =>
    match starSizeof? (c :: t) with
    | some found => some found
    | none =>
      match (if inWord then none else sizeofStar? (c :: t)) with
      | some found => some found
      | none => findSizeofFrom c.isWord t

/-! ## The rules -/

inductive Evidence where
  /-- The text that matched. -/
  | matched
  /-- The whole line without blanks around it. -/
  | line
  deriving DecidableEq, Repr

structure Rule where
  name : Text
  category : Category
  severity : Severity
  message : Text
  /-- The first match on a line. -/
  find : Text → Option Text
  /-- What else the line has to satisfy. -/
  onLine : Text → Bool := fun _ => true
  /-- What the whole text has to satisfy. -/
  inFile : Text → Bool := fun _ => true
  evidence : Evidence := .matched

def unsafeStringCopy : Rule where
  name := "unsafe_string_copy"
  category := .unsafeCall
  severity := .high
  message := "Unbounded string copy (strcpy/strcat)"
  find := findCall fun word => (["strcpy", "strcat"] : List Text).contains word

def unsafeFormat : Rule where
  name := "unsafe_format"
  category := .unsafeCall
  severity := .high
  message := "Unbounded formatting (sprintf/vsprintf)"
  find := findCall fun word => (["sprintf", "vsprintf"] : List Text).contains word

def unsafeInput : Rule where
  name := "unsafe_input"
  category := .unsafeCall
  severity := .critical
  message := "gets() cannot bound its input"
  find := findCall fun word => word == ("gets" : Text)

def uncheckedAllocation : Rule where
  name := "unchecked_allocation"
  category := .uncheckedAllocation
  severity := .medium
  message := "Allocation in a file with no release call"
  find := findCall fun word =>
    word.endsWith "malloc" || word.endsWith "calloc" || word.endsWith "realloc"
  inFile := fun t => !hasRelease t

def sizeArithmetic : Rule where
  name := "size_arithmetic"
  category := .overflowRisk
  severity := .low
  message := "Arithmetic on a size_t line may overflow"
  find := fun line => if hasWord (· == ("size_t" : Text)) line then some "size_t" else none
  onLine := hasSizeArithmetic
  evidence := .line

def sizeofMultiplication : Rule where
  name := "sizeof_multiplication"
  category := .overflowRisk
  severity := .medium
  message := "Multiplication by sizeof may overflow"
  find := findSizeofFrom false

def rules : List Rule :=
  [unsafeStringCopy, unsafeFormat, unsafeInput, uncheckedAllocation, sizeArithmetic,
    sizeofMultiplication]

end Remedy.Scan
