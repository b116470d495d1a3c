import Remedy.Cli.Arguments

/-!
# Help

The text that explains the program, or one of its commands.
-/

namespace Remedy.Cli

def version : Text := "0.1.0"

def programName : Text := "patchwarden"

/-- Two columns; the first is as wide as its longest entry. -/
def columns (width : Nat) (rows : List (Text × Text)) : List Text :=
  rows.map fun (term, about) =>
    ("  " : Text) ++ term ++ List.replicate (width + 2 - term.length) 0x20 ++ about

/-- A heading with its columns, and an empty line before it. -/
def helpSection (width : Nat) (heading : Text) (rows : List (Text × Text)) : List Text :=
  if rows.isEmpty then [] else [[], heading] ++ columns width rows

/-- How help is asked for. -/
def helpRow : Text × Text := (helpWord ++ " [command]", "display help for command")

def Flag.row (f : Flag) : Text × Text := (f.text, f.about)

/-- The argument of a command, after a blank. -/
def Command.argumentText (c : Command) : Text :=
  match c.argument with
  | some name => " <" ++ name ++ ">"
  | none => []

/-- A command as it is called. -/
def Command.text (c : Command) : Text :=
  let options : Text := if c.flags.isEmpty then [] else " [options]"
  c.word ++ options ++ c.argumentText

def widest (rows : List (Text × Text)) : Nat := (rows.map fun row => row.1.length).foldl max 0

def helpLines (usage about : Text) (options commands : List (Text × Text)) : List Text :=
  let width := widest (options ++ commands)
  ["Usage: " ++ programName ++ " " ++ usage, [], about] ++
    helpSection width "Options:" options ++ helpSection width "Commands:" commands

/-- Help for a command, or for the program. -/
def help (command : Option Command) : Text :=
  let lines := match command with
    | some c => helpLines (c.word ++ " [options]" ++ c.argumentText) c.about
        ((c.flags ++ [helpFlag]).map Flag.row) []
    | none => helpLines "[options] [command]"
        "Scan C sources for unsafe patterns, patch functions and verify the fixes"
        ((programFlags ++ [helpFlag]).map Flag.row)
        (commands.map (fun c : Command => (c.text, c.about)) ++ [helpRow])
  lines.flatMap fun line => line ++ "\n"

end Remedy.Cli
