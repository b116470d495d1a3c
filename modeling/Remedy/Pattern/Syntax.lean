import Remedy.Unicode.Case

/-!
# Regular expressions

The syntax tree of a regular expression and the flags it is read and matched under. Characters are
code points under the Unicode flag and code units without it.
-/

namespace Remedy.Pattern

structure Flags where
  ignoreCase : Bool
  multiline : Bool
  dotAll : Bool
  unicode : Bool
  /-- Classes may be nested, combined and hold strings; this is read under the Unicode flag. -/
  classSets : Bool
  deriving DecidableEq, Repr

def noFlags : Flags := ⟨false, false, false, false, false⟩

/-- A set of characters that a single part of a class names. -/
inductive ClassItem where
  | range (low high : Nat)
  | digit (negated : Bool)
  | space (negated : Bool)
  | word (negated : Bool)
  | property (set : Unicode.CodeSet) (negated : Bool)
  deriving DecidableEq

/-- A set of characters. -/
inductive CharSet where
  | empty
  | part (item : ClassItem)
  | union (first second : CharSet)
  | both (first second : CharSet)
  | without (first second : CharSet)
  | others (set : CharSet)
  deriving DecidableEq

inductive Assertion where
  | start
  | stop
  | wordBoundary
  | notWordBoundary
  deriving DecidableEq, Repr

/-- Whether an assertion about the surroundings looks ahead or behind. -/
inductive Direction where
  | forward
  | backward
  deriving DecidableEq, Repr

inductive Node where
  | empty
  | char (c : Nat)
  | any
  | set (chars : CharSet)
  | seq (first second : Node)
  | alt (first second : Node)
  | capture (index : Nat) (body : Node)
  | backref (index : Nat)
  | look (direction : Direction) (negated : Bool) (body : Node)
  | check (assertion : Assertion)
  /-- Between `least` and `most` copies of the body, which holds the captures after `before` up to
  `upTo`. -/
  | loop (least : Nat) (most : Option Nat) (greedy : Bool) (before upTo : Nat) (body : Node)
  deriving DecidableEq

/-- A regular expression that has been read. -/
structure Expression where
  flags : Flags
  captures : Nat
  body : Node
  deriving DecidableEq

/-- The text that some characters make up. -/
def toText (cs : List Nat) : Text := cs.flatMap Text.ofCodePoint

def isLineTerminator (c : Nat) : Bool := c == 0x0A || c == 0x0D || c == 0x2028 || c == 0x2029

def isSpace (c : Nat) : Bool := c < 0x10000 && CodeUnit.isBlank c.toUInt16

def isDigitChar (c : Nat) : Bool := 0x30 ≤ c && c ≤ 0x39

/-- Word characters; when case is ignored under the Unicode flag, also the two that fold to one. -/
def isWordChar (flags : Flags) (c : Nat) : Bool :=
  (c < 0x80 && CodeUnit.isWord c.toUInt16) ||
    (flags.ignoreCase && flags.unicode && (c == 0x17F || c == 0x212A))

/-- The character that stands for all those equal to it up to case: its simple case folding under
the Unicode flag, and otherwise its upper case, which never takes a character into ASCII. -/
def canonical (flags : Flags) (c : Nat) : Nat :=
  if !flags.ignoreCase then c
  else if flags.unicode then Unicode.foldRuns.apply c
  else
    let upper := Unicode.upperRuns.apply c
    if 0x80 ≤ c && upper < 0x80 then c else upper

/-- All characters equal to `c` up to case. -/
def equivalents (flags : Flags) (c : Nat) : List Nat :=
  if !flags.ignoreCase then [c]
  else
    let k := canonical flags c
    let table := if flags.unicode then Unicode.foldRuns else Unicode.upperRuns
    k :: (table.preimages k).filter fun d => canonical flags d == k

def ClassItem.contains (flags : Flags) (c : Nat) : ClassItem → Bool
  | .range low high => low ≤ c && c ≤ high
  | .digit negated => isDigitChar c != negated
  | .space negated => isSpace c != negated
  | .word negated => isWordChar flags c != negated
  | .property set negated => set.contains c != negated

namespace CharSet

def ofList : List CharSet → CharSet
  | [] => .empty
  | [set] => set
  | set :: sets => .union set (ofList sets)

/-- The set has a character given by all those equal to it up to case: a part of the set has it when
it has one of them. -/
def containsOneOf (flags : Flags) (cs : List Nat) : CharSet → Bool
  | .empty => false
  | .part item => cs.any fun c => item.contains flags c
  | .union a b => a.containsOneOf flags cs || b.containsOneOf flags cs
  | .both a b => a.containsOneOf flags cs && b.containsOneOf flags cs
  | .without a b => a.containsOneOf flags cs && !b.containsOneOf flags cs
  | .others a => !a.containsOneOf flags cs

def contains (flags : Flags) (set : CharSet) (c : Nat) : Bool :=
  set.containsOneOf flags (equivalents flags c)

end CharSet

end Remedy.Pattern
