import Remedy.Cli.Suggest
import Remedy.Text.Quoted

/-!
# Command lines

The commands of the program with their options, and how a list of arguments is read as one of them.
Options of the program itself may stand before or after the command.
-/

namespace Remedy.Cli

/-! ## Options and commands -/

structure Flag where
  short : Option Text
  long : Text
  /-- What the option is for. -/
  about : Text
  /-- The name of the value, for an option that takes one. -/
  value : Option Text := none
  /-- A command cannot do without the option. -/
  mandatory : Bool := false
  deriving DecidableEq, Repr

namespace Flag

/-- The option as messages show it. -/
def text (f : Flag) : Text :=
  let names := match f.short with
    | some short => short ++ ", " ++ f.long
    | none => f.long
  match f.value with
  | some value => names ++ " <" ++ value ++ ">"
  | none => names

def is (f : Flag) (arg : Text) : Bool := f.short == some arg || f.long == arg

end Flag

inductive CommandName where
  | scan
  | fix
  | verify
  | init
  | validate
  deriving DecidableEq, Repr

structure Command where
  name : CommandName
  word : Text
  /-- The name of its argument, for a command that needs one. -/
  argument : Option Text
  flags : List Flag
  /-- What the command is for. -/
  about : Text
  deriving DecidableEq, Repr

def versionFlag : Flag :=
  { short := some "-V", long := "--version", about := "output the version number" }

def verboseFlag : Flag :=
  { short := some "-v", long := "--verbose", about := "Enable verbose output" }

def quietFlag : Flag :=
  { short := some "-q", long := "--quiet", about := "Suppress output except errors" }

def helpFlag : Flag :=
  { short := some "-h", long := "--help", about := "display help for command" }

def outputFlag : Flag :=
  { short := some "-o", long := "--output", value := some "file", about := "Output file path" }

def formatFlag : Flag :=
  { short := some "-f", long := "--format", value := some "format"
    about := "Output format (json|markdown) (default: \"json\")" }

def planFlag : Flag :=
  { short := some "-p", long := "--plan", value := some "file"
    about := "Plan whose scan settings to use" }

def failOnFlag : Flag :=
  { short := none, long := "--fail-on", value := some "severity"
    about := "Exit 1 when a finding is at or above this severity" }

def jsonFlag : Flag :=
  { short := none, long := "--json"
    about := "Print the JSON run report instead of status lines" }

def dryRunFlag : Flag :=
  { short := none, long := "--dry-run"
    about := "Compute and verify patches without writing files" }

def forceFlag : Flag :=
  { short := none, long := "--force", about := "Overwrite existing file" }

/-- The plan of a command that runs one. -/
def neededPlanFlag : Flag := { planFlag with about := "Remediation plan", mandatory := true }

def programFlags : List Flag := [versionFlag, verboseFlag, quietFlag]

def commands : List Command :=
  [{ name := .scan
     word := "scan"
     argument := some "root"
     flags := [outputFlag, formatFlag, planFlag, failOnFlag]
     about := "Scan a C source tree for unsafe patterns" },
   { name := .fix
     word := "fix"
     argument := some "root"
     flags := [neededPlanFlag, outputFlag, jsonFlag, dryRunFlag]
     about := "Apply a remediation plan to a tree and verify the result" },
   { name := .verify
     word := "verify"
     argument := some "root"
     flags := [neededPlanFlag, outputFlag, jsonFlag]
     about := "Run the verification probes of a plan without patching" },
   { name := .init
     word := "init"
     argument := none
     flags := [outputFlag, forceFlag]
     about := "Generate a starter remediation plan" },
   { name := .validate
     word := "validate"
     argument := some "plan"
     flags := []
     about := "Validate a remediation plan file" }]

def helpWord : Text := "help"

def findCommand? (word : Text) : Option Command := commands.find? fun c => c.word == word

/-! ## Reading options -/

inductive UsageError where
  | unknownOption (option : Text) (known : List Text)
  | unknownCommand (word : Text)
  | valueMissing (flag : Flag)
  | optionMissing (flag : Flag)
  | argumentMissing (name : Text)
  deriving DecidableEq, Repr

def UsageError.message : UsageError → Text
  | .unknownOption option known =>
    let hint := if Text.startsWith option "--" then suggestion option known else []
    "error: unknown option " ++ option.inApostrophes ++ hint
  | .unknownCommand word =>
    "error: unknown command " ++ word.inApostrophes ++
      suggestion word (commands.map Command.word ++ [helpWord])
  | .valueMissing flag => "error: option " ++ flag.text.inApostrophes ++ " argument missing"
  | .optionMissing flag => "error: required option " ++ flag.text.inApostrophes ++ " not specified"
  | .argumentMissing name => "error: missing required argument " ++ name.inApostrophes

/-- Why the reading of arguments ends without a command to run. -/
inductive Stop where
  | version
  /-- Help, because it was asked for, or because there is nothing else to do. -/
  | help (command : Option Command) (requested : Bool)
  | failed (error : UsageError)
  deriving DecidableEq, Repr

/-- The options found in some arguments with their values, the latest first, and the other
arguments: those before the first unknown option, and those from there on. -/
structure Sorted where
  values : List (Flag × Text) := []
  operands : List Text := []
  unknown : List Text := []
  deriving DecidableEq, Repr

namespace Sorted

/-- Keeps an argument that belongs to no known option. -/
def keep (s : Sorted) (arg : Text) (startsUnknown : Bool) : Sorted :=
  if startsUnknown || !s.unknown.isEmpty then { s with unknown := s.unknown ++ [arg] }
  else { s with operands := s.operands ++ [arg] }

def set (s : Sorted) (flag : Flag) (value : Text) : Sorted :=
  { s with values := (flag, value) :: s.values }

/-- Keeps all arguments after two dashes. -/
def keepRest (s : Sorted) (rest : List Text) : Sorted :=
  if s.unknown.isEmpty then { s with operands := s.operands ++ rest }
  else { s with unknown := s.unknown ++ (("--" : Text) :: rest) }

def value? (s : Sorted) (flag : Flag) : Option Text :=
  (s.values.find? fun p => p.1 == flag).map Prod.snd

def has (s : Sorted) (flag : Flag) : Bool := (s.value? flag).isSome

end Sorted

def looksLikeOption (arg : Text) : Bool := 1 < arg.length && arg.head? == some 0x2D

/-- Several short options in one argument: the first of them, and what follows it. -/
def shortGroup? (flags : List Flag) (arg : Text) : Option (Flag × Text) :=
  match arg with
  | 0x2D :: c :: d :: rest =>
    if c == 0x2D then none
    else (flags.find? fun f => f.is [0x2D, c]).map (·, d :: rest)
  | _ => none

/-- A long option with its value after an equals sign. -/
def longWithValue? (flags : List Flag) (arg : Text) : Option (Flag × Text) :=
  let name := arg.takeWhile (· != 0x3D)
  match arg.drop name.length with
  | 0x3D :: value =>
    if Text.startsWith name "--" && 2 < name.length then
      (flags.find? fun f => f.is name && f.value.isSome).map (·, value)
    else none
  | _ => none

/-- Sorts arguments into the given options and all others. The request for the version is met at
once. -/
def sortArguments (flags : List Flag) (s : Sorted) : Nat → List Text → Except Stop Sorted
  | _, [] => .ok s
  | 0, _ => .ok s
  | fuel + 1, arg :: args =>
    let switch (flag : Flag) (args : List Text) : Except Stop Sorted :=
      if flag = versionFlag then .error .version else sortArguments flags (s.set flag []) fuel args
    if arg == ("--" : Text) then .ok (s.keepRest args)
    else match if looksLikeOption arg then flags.find? fun f => f.is arg else none with
      | some flag =>
        match flag.value, args with
        | none, args => switch flag args
        | some _, value :: args => sortArguments flags (s.set flag value) fuel args
        | some _, [] => .error (.failed (.valueMissing flag))
      | none =>
        match shortGroup? flags arg, longWithValue? flags arg with
        | some (flag, rest), _ =>
          if flag.value.isSome then sortArguments flags (s.set flag rest) fuel args
          else switch flag ((0x2D :: rest) :: args)
        | none, some (flag, value) => sortArguments flags (s.set flag value) fuel args
        | none, none => sortArguments flags (s.keep arg (looksLikeOption arg)) fuel args

/-- Sorts arguments. Each step takes away an argument or a letter of one. -/
def sorted (flags : List Flag) (args : List Text) : Except Stop Sorted :=
  sortArguments flags {} (args.foldl (fun n arg => n + arg.length + 1) 0) args

/-! ## Reading a command line -/

/-- A command with its argument and its options. -/
structure Invocation where
  command : CommandName
  argument : Text
  verbose : Bool
  quiet : Bool
  options : Sorted
  deriving DecidableEq, Repr

def asksForHelp (args : List Text) : Bool := args.any helpFlag.is

/-- Reads the arguments of a command. -/
def readCommand (program : Sorted) (command : Command) (operands unknown : List Text) :
    Except Stop Invocation := do
  let options ← sorted command.flags unknown
  let operands := operands ++ options.operands
  if asksForHelp options.unknown then .error (.help command true)
  match command.flags.find? fun f => f.mandatory && !options.has f with
  | some flag => .error (.failed (.optionMissing flag))
  | none =>
    match options.unknown, command.argument, operands with
    | option :: _, _, _ =>
      let known := (command.flags ++ [helpFlag] ++ programFlags).map Flag.long
      .error (.failed (.unknownOption option known))
    | [], some name, [] => .error (.failed (.argumentMissing name))
    | [], _, operands =>
      return { command := command.name
               argument := operands.headD []
               verbose := program.has verboseFlag
               quiet := program.has quietFlag
               options }

/-- Reads a command line. -/
def readArguments (args : List Text) : Except Stop Invocation := do
  let program ← sorted programFlags args
  match program.operands with
  | word :: operands =>
    match findCommand? word with
    | some command => readCommand program command operands program.unknown
    | none =>
      if word == helpWord then .error (.help (operands.head?.bind findCommand?) true)
      else if asksForHelp program.unknown then .error (.help none true)
      else .error (.failed (.unknownCommand word))
  | [] =>
    if asksForHelp program.unknown then .error (.help none true)
    else match program.unknown with
      | option :: _ =>
        .error (.failed (.unknownOption option ((programFlags ++ [helpFlag]).map Flag.long)))
      | [] => .error (.help none false)

end Remedy.Cli
