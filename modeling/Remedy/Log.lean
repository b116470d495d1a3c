import Remedy.Text.Search
import Remedy.Unicode.Case

/-!
# Log lines

Lines for the console: messages of four levels, findings, and the status of files. Each may be
coloured for a terminal.
-/

namespace Remedy

/-! ## Colours -/

/-- A way to show text, which is switched on before the text and off after it. -/
structure Style where
  on : Nat
  off : Nat
  deriving DecidableEq, Repr

namespace Style

def gray : Style := ⟨90, 39⟩
def blue : Style := ⟨34, 39⟩
def yellow : Style := ⟨33, 39⟩
def red : Style := ⟨31, 39⟩
def green : Style := ⟨32, 39⟩
def cyan : Style := ⟨36, 39⟩
def white : Style := ⟨37, 39⟩
def onRed : Style := ⟨41, 49⟩
def dim : Style := ⟨2, 22⟩

/-- The control sequence with the given number. -/
def sequence (code : Nat) : Text := [0x1B, 0x5B] ++ Text.ofNat code ++ [0x6D]

end Style

/-- Puts a text after each occurrence of a mark; `skip` units belong to a mark that has begun. -/
def insertAfterFrom (mark inserted : Text) : Nat → Text → Text
  | _, [] => []
  | 0, c :: t =>
    if mark.isPrefixOf (c :: t) then
      if mark.length ≤ 1 then c :: inserted ++ insertAfterFrom mark inserted 0 t
      else c :: insertAfterFrom mark inserted (mark.length - 1) t
    else c :: insertAfterFrom mark inserted 0 t
  | 1, c :: t => c :: inserted ++ insertAfterFrom mark inserted 0 t
  | skip + 2, c :: t => c :: insertAfterFrom mark inserted (skip + 1) t

def insertAfter (mark inserted t : Text) : Text := insertAfterFrom mark inserted 0 t

/-- Puts texts before and after each line break. -/
def aroundBreaks (before after : Text) : Text → Text
  | [] => []
  | 0x0D :: 0x0A :: t => before ++ [0x0D, 0x0A] ++ after ++ aroundBreaks before after t
  | c :: t =>
    if c = 0x0A then before ++ [c] ++ after ++ aroundBreaks before after t
    else c :: aroundBreaks before after t

/-- Shows a text in some styles, the outermost first. They are switched off at the end of each line,
and on again wherever the text itself switches them off. -/
def paint (styles : List Style) (t : Text) : Text :=
  if t.isEmpty then t
  else
    let on := styles.flatMap fun s => Style.sequence s.on
    let off := styles.reverse.flatMap fun s => Style.sequence s.off
    let t := styles.reverse.foldl
      (fun t s => insertAfter (Style.sequence s.off) (Style.sequence s.on) t) t
    on ++ aroundBreaks off on t ++ off

/-! ## Lines -/

inductive Level where
  | debug
  | info
  | warn
  | error
  deriving DecidableEq, Repr

namespace Level

def text : Level → Text
  | .debug => "debug"
  | .info => "info"
  | .warn => "warn"
  | .error => "error"

def all : List Level := [.debug, .info, .warn, .error]

def ofText? (t : Text) : Option Level := all.find? fun level => level.text == t

def rank : Level → Nat
  | .debug => 0
  | .info => 1
  | .warn => 2
  | .error => 3

def style : Level → Style
  | .debug => .gray
  | .info => .blue
  | .warn => .yellow
  | .error => .red

end Level

/-- Where a line goes: with the messages of a level, or to the plain output. -/
inductive Channel where
  | messages (level : Level)
  | plain
  deriving DecidableEq, Repr

namespace Channel

def text : Channel → Text
  | .messages level => level.text
  | .plain => "log"

/-- Warnings and errors are kept apart from all other lines. -/
def isError : Channel → Bool
  | .messages .warn => true
  | .messages .error => true
  | _ => false

end Channel

structure LogLine where
  channel : Channel
  text : Text
  deriving DecidableEq, Repr

structure LogSettings where
  level : Level := .info
  /-- Only errors are shown. -/
  quiet : Bool := false
  timestamps : Bool := true
  colored : Bool := false
  deriving DecidableEq, Repr

namespace LogSettings

def paint (settings : LogSettings) (styles : List Style) (t : Text) : Text :=
  if settings.colored then Remedy.paint styles t else t

/-- A message, if its level is shown. -/
def message? (settings : LogSettings) (now : Text) (level : Level) (message : Text) :
    Option LogLine :=
  if settings.quiet && level != .error then none
  else if level.rank < settings.level.rank then none
  else
    let stamp : Text := if settings.timestamps then "[" ++ now ++ "] " else []
    let line := stamp ++ "[" ++ Text.toUpper level.text ++ "] " ++ message
    some ⟨.messages level, settings.paint [level.style] line⟩

/-- How the label of a finding is shown. -/
inductive Label where
  | styled (styles : List Style)
  /-- Without any style. -/
  | bare
  /-- As another text, without any style. -/
  | fixed (t : Text)
  deriving DecidableEq, Repr

/-- The words that have a meaning of their own among the styles, and give a label none. -/
def reservedWords : List Text :=
  ["__proto__", "valueOf", "hasOwnProperty", "propertyIsEnumerable", "toLocaleString",
    "__defineGetter__", "__defineSetter__", "__lookupGetter__", "__lookupSetter__"]

/-- The label of a severity. Any word can be a severity, except for the reserved ones. -/
def label? (severity : Text) : Option Label :=
  if severity == ("critical" : Text) then some (.styled [.onRed, .white])
  else if severity == ("high" : Text) then some (.styled [.red])
  else if severity == ("medium" : Text) then some (.styled [.yellow])
  else if severity == ("low" : Text) then some (.styled [.cyan])
  else if severity == ("info" : Text) then some (.styled [.gray])
  else if severity == ("constructor" : Text) then some .bare
  else if severity == ("toString" : Text) then some (.fixed "[object Undefined]")
  else if severity == ("isPrototypeOf" : Text) then some (.fixed "false")
  else if reservedWords.contains severity then none
  else some (.styled [.white])

/-- One finding, with its severity and its place. A severity without a label shows nothing. -/
def finding? (settings : LogSettings) (severity message location : Text) : Option LogLine :=
  if settings.quiet then none
  else (label? severity).map fun label =>
    let word := "[" ++ Unicode.upperText severity ++ "]"
    let shown := match label with
      | .styled styles => settings.paint styles word
      | .bare => word
      | .fixed t => t
    ⟨.plain, shown ++ " " ++ message ++ " (" ++ settings.paint [.dim] location ++ ")"⟩

/-- The status of one file. -/
def status? (settings : LogSettings) (ok : Bool) (file message : Text) : Option LogLine :=
  if settings.quiet then none
  else
    let label := if ok then settings.paint [.green] "OK  " else settings.paint [.red] "FAIL"
    some ⟨.plain, label ++ " " ++ file ++ ": " ++ message⟩

end LogSettings

/-- A message that carries the name of the part of the program it comes from. -/
def named (part message : Text) : Text := "[" ++ part ++ "] " ++ message

end Remedy
