import Remedy.Text.Lines
import Remedy.Code.Lexer
import Remedy.Code.Header

/-!
# Function tables

The function definitions at the top level of a C text, in source order, and a cache that holds the
table of the text asked for last.
-/

namespace Remedy

/-- An inclusive range of lines, counted from 1. -/
structure Span where
  startLine : Nat
  endLine : Nat
  deriving DecidableEq, Repr

namespace Code

structure FunctionEntry where
  name : Text
  span : Span
  /-- The first unit of the definition. -/
  startOffset : Nat
  /-- The brace that opens the body. -/
  bodyOffset : Nat
  /-- The brace that closes the body. -/
  endOffset : Nat
  deriving DecidableEq, Repr

/-- A block at the top level that has been opened. -/
structure OpenBlock where
  name : Option Text
  startOffset : Nat
  bodyOffset : Nat

/-- Where the reading of a text's code stands: between definitions, with the start of a header if
one has begun, or inside a block, with the number of braces to close. -/
inductive Place where
  | outside (header : Option Nat)
  | inside (block : OpenBlock) (depth : Nat)

/-- The entry for a block that closes at offset `stop`, when its header names a function. -/
def OpenBlock.entry (starts : Array Nat) (block : OpenBlock) (stop : Nat) : List FunctionEntry :=
  match block.name with
  | some name =>
    [⟨name, ⟨lineAt starts block.startOffset, lineAt starts stop⟩,
      block.startOffset, block.bodyOffset, stop⟩]
  | none => []

def entriesFrom (t : Text) (starts : Array Nat) :
    Place → List (Nat × CodeUnit) → List FunctionEntry
  | _, [] => []
  | .outside header, (i, c) :: rest =>
    let start := header.getD i
    if c = ';' ∨ c = '}' then entriesFrom t starts (.outside none) rest
    else if c = '{' then
      entriesFrom t starts (.inside ⟨functionName (t.slice start i), start, i⟩ 1) rest
    else entriesFrom t starts (.outside (some start)) rest
  | .inside block depth, (i, c) :: rest =>
    if c = '{' then entriesFrom t starts (.inside block (depth + 1)) rest
    else if c = '}' then
      if depth ≤ 1 then block.entry starts i ++ entriesFrom t starts (.outside none) rest
      else entriesFrom t starts (.inside block (depth - 1)) rest
    else entriesFrom t starts (.inside block depth) rest

structure FunctionTable where
  entries : List FunctionEntry
  deriving DecidableEq, Repr

namespace FunctionTable

def build (t : Text) : FunctionTable :=
  ⟨entriesFrom t (lineStarts t) (.outside none) (code t)⟩

def size (table : FunctionTable) : Nat := table.entries.length

/-- The entry whose lines include the given one. -/
def at? (table : FunctionTable) (line : Int) : Option FunctionEntry :=
  table.entries.find? fun e => (e.span.startLine : Int) ≤ line ∧ line ≤ e.span.endLine

end FunctionTable

/-- The table of one text. -/
structure TableCache where
  text : Text
  table : FunctionTable
  built : table = FunctionTable.build text

namespace TableCache

def of (t : Text) : TableCache := ⟨t, .build t, rfl⟩

/-- The cache that holds the table of `t`, and whether it is the one that was there. -/
def fetch (cache : TableCache) (t : Text) : TableCache × Bool :=
  if cache.text = t then (cache, true) else (of t, false)

end TableCache

end Code

end Remedy
