import Remedy.Pattern.Matcher

/-!
# Function headers

The text before a block names a function when it ends in an identifier and a parameter list whose
parentheses nest at most one level deep. A regular expression finds the two.
-/

namespace Remedy.Code

/-- What follows the mark that closes a block comment, if there is one. -/
def afterComment : Text → Option Text
  | [] => none
  | 0x2A :: 0x2F :: t => some t
  | _ :: t => afterComment t

/-- Replaces each closed block comment by a space; `skip` units belong to one already replaced. -/
def blankComments (skip : Nat) : Text → Text
  | [] => []
  | c :: t =>
    match skip with
    | skip + 1 => blankComments skip t
    | 0 =>
      if c = '/' ∧ t.head? = some 0x2A then
        match afterComment t.tail with
        | some rest => 0x20 :: blankComments (t.length - rest.length) t
        | none => c :: blankComments 0 t
      else c :: blankComments 0 t

/-- Replaces each line comment by a space; `inside` tells that one has begun on this line. -/
def blankLineComments (inside : Bool) : Text → Text
  | [] => []
  | c :: t =>
    if c = 0x0A then c :: blankLineComments false t
    else if inside then blankLineComments true t
    else if c = '/' ∧ t.head? = some 0x2F then 0x20 :: blankLineComments true t
    else c :: blankLineComments false t

def attributeWord : Text := "__attribute__"

/-- The whole text is one attribute, with only blanks after it. -/
def isAttribute (t : Text) : Bool :=
  attributeWord.isPrefixOf t &&
    match (t.drop attributeWord.length).dropWhile CodeUnit.isBlank with
    | 0x28 :: 0x28 :: rest =>
      match rest.dropWhile (· != 0x29) with
      | 0x29 :: 0x29 :: tail => tail.all CodeUnit.isBlank
      | _ => false
    | _ => false

/-- Drops an attribute at the end of a text. -/
def dropAttribute : Text → Text
  | [] => []
  | c :: t => if isAttribute (c :: t) then [] else c :: dropAttribute t

/-- A header without comments, without a final attribute and without blanks at its end. -/
def cleanHeader (header : Text) : Text :=
  Text.trimEnd (dropAttribute (blankLineComments false (blankComments 0 header)))

/-! ## The expression for a name and its parameters -/

namespace HeaderPattern

/-- Any number of copies of a node, which stands in or after the only group. -/
def anyNumber (node : Pattern.Node) : Pattern.Node := .loop 0 none true 1 1 node

def blanks : Pattern.Node := anyNumber (.set (.part (.space false)))

/-- Letters and the underscore. -/
def letters : Pattern.CharSet :=
  .union (.part (.range 'A'.toNat 'Z'.toNat))
    (.union (.part (.range 'a'.toNat 'z'.toNat)) (.part (.range '_'.toNat '_'.toNat)))

def identifier : Pattern.Node :=
  .seq (.set letters) (.seq (anyNumber (.set (.part (.word false)))) .empty)

/-- All characters but parentheses. -/
def others : Pattern.CharSet :=
  .others (.union (.part (.range '('.toNat '('.toNat)) (.part (.range ')'.toNat ')'.toNat)))

/-- A unit of a parameter list, or a list in it that holds no further lists. -/
def parameterPart : Pattern.Node :=
  .alt (.seq (.set others) .empty)
    (.seq (.char '('.toNat) (.seq (anyNumber (.set others)) (.seq (.char ')'.toNat) .empty)))

/-- A parameter list at the end of the text, up to blanks. -/
def parameters : Pattern.Node :=
  .seq blanks (.seq (.char '('.toNat) (.seq (anyNumber parameterPart) (.seq (.char ')'.toNat)
    (.seq blanks (.seq (.check .stop) .empty)))))

end HeaderPattern

def headerPattern : Pattern.Expression where
  flags := Pattern.noFlags
  captures := 1
  body := .seq (.capture 1 HeaderPattern.identifier) HeaderPattern.parameters

/-! ## Names -/

/-- Words that open a block or call but name no function. -/
def notFunctions : List Text :=
  ["if", "for", "while", "switch", "return", "sizeof", "do", "else", "case"]

/-- The name of the function a block header declares, if it declares one. -/
def functionName (header : Text) : Option Text :=
  let cleaned := cleanHeader header
  -- what follows an equals sign is an initializer
  if cleaned.trimEnd.endsWith "=" then none
  else ((headerPattern.find? cleaned).bind fun found => found.group? 1).filter fun name =>
    !notFunctions.contains name

end Remedy.Code
