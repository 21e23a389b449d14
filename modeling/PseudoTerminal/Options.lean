import PseudoTerminal.Environment.Basic

/-! The command line options. Arguments are read from the left: an option takes the argument after it
as its value, whatever that looks like, and `--` makes all that follows the command. The first argument
that asks for help, or that fits nowhere, decides the outcome. -/

namespace PseudoTerminal

/-- What the options ask for. -/
structure Options where
  shell : Option String := none
  dir : Option String := none
  /-- Seconds until the program is cancelled. -/
  timeout : Option Nat := none
  /-- Variables in the order given. -/
  vars : List (String × String) := []
  /-- Program and arguments after `--`. -/
  command : List String := []
  deriving DecidableEq, Repr, Inhabited

namespace Options

/-- An option that takes a value. -/
inductive Setting
  | shell
  | dir
  | timeout
  | entry
  deriving DecidableEq, Repr

/-- What the value is called when it is missing. -/
def Setting.noun : Setting → String
  | shell => "shell"
  | dir => "directory"
  | timeout => "timeout"
  | entry => "environment"

/-- The role of an argument in option position. -/
inductive Role
  | help
  | version
  | setting (setting : Setting)
  | command
  deriving DecidableEq, Repr

def Role.of? : String → Option Role
  | "-h" | "--help" => some .help
  | "-v" | "--version" => some .version
  | "-s" | "--shell" => some (.setting .shell)
  | "-d" | "--dir" => some (.setting .dir)
  | "-t" | "--timeout" => some (.setting .timeout)
  | "-e" | "--env" => some (.setting .entry)
  | "--" => some .command
  | _ => none

/-- Why the arguments are refused. -/
inductive Refusal
  | missingValue (setting : Setting)
  | invalidTimeout (value : String)
  | invalidVariable (entry : String)
  | missingProgram
  | unknown (arg : String)
  deriving DecidableEq, Repr

def Refusal.message : Refusal → String
  | missingValue s => "Missing " ++ s.noun ++ " argument"
  | invalidTimeout v => "Invalid timeout: " ++ v
  | invalidVariable e => "Invalid environment entry: " ++ e
  | missingProgram => "Missing program after --"
  | unknown a => "Unknown argument: " ++ a ++ ". Use -h for help."

/-- The value of a decimal digit. -/
def digit? (c : Char) : Option Nat := if '0' ≤ c ∧ c ≤ '9' then some (c.toNat - 48) else none

/-- The number that decimal digits write, if there is at least one and it is below `2 ^ 64`. -/
def digits? (cs : List Char) : Option Nat :=
  if cs.isEmpty then none
  else (cs.foldlM (fun n c => (digit? c).map (n * 10 + ·)) 0).filter (· < Nat.pow 2 64)

/-- A number of seconds: digits, with an optional plus sign. -/
def seconds? (value : String) : Option Nat :=
  match value.toList with
  | '+' :: cs => digits? cs
  | cs => digits? cs

/-- The key before the first `=`, which must not be empty, and the value after it. -/
def assignment? (entry : String) : Option (String × String) :=
  match Environment.splitAtEquals entry.toList with
  | some (key, value) =>
    if key.isEmpty then none else some (String.ofList key, String.ofList value)
  | none => none

/-- Applies an option with its value. -/
def set (o : Options) : Setting → String → Except Refusal Options
  | .shell, v => .ok { o with shell := some v }
  | .dir, v => .ok { o with dir := some v }
  | .timeout, v =>
    match seconds? v with
    | some n => .ok { o with timeout := some n }
    | none => .error (.invalidTimeout v)
  | .entry, v =>
    match assignment? v with
    | some entry => .ok { o with vars := o.vars ++ [entry] }
    | none => .error (.invalidVariable v)

/-- What the arguments ask for. -/
inductive Request
  | run (options : Options)
  | help
  | version
  | refuse (reason : Refusal)
  deriving DecidableEq, Repr

/-- Reads the arguments from here on, with the options read so far. -/
def parseFrom (o : Options) : List String → Request
  | [] => .run o
  | arg :: args =>
    match Role.of? arg with
    | none => .refuse (.unknown arg)
    | some .help => .help
    | some .version => .version
    | some .command =>
      if args.isEmpty then .refuse .missingProgram else .run { o with command := args }
    | some (.setting s) =>
      match args with
      | [] => .refuse (.missingValue s)
      | value :: args =>
        match o.set s value with
        | .ok o => parseFrom o args
        | .error reason => .refuse reason

/-- Reads an argument list without the program's name. -/
def parse (args : List String) : Request := parseFrom {} args

/-- The name under which the program presents itself. -/
def programName : String := "hostpty"

def versionNumber : String := "0.1.0"

def versionText : String := programName ++ " " ++ versionNumber ++ "\n"

def helpText : String :=
  programName ++ " " ++ versionNumber ++ " - Run a program on a pseudo-terminal\n" ++
  "\n" ++
  "Usage: " ++ programName ++ " [OPTIONS] [-- PROGRAM [ARGS...]]\n" ++
  "\n" ++
  "Options:\n" ++
  "  -s, --shell <CMD>     Program to run (default: config or $SHELL)\n" ++
  "  -d, --dir <DIR>       Working directory\n" ++
  "  -t, --timeout <SECS>  Cancel the program after SECS seconds\n" ++
  "  -e, --env <KEY=VAL>   Set an environment variable (repeatable)\n" ++
  "  -v, --version         Show version\n" ++
  "  -h, --help            Show this help\n" ++
  "\n" ++
  "Examples:\n" ++
  "  " ++ programName ++ "                     Configured shell\n" ++
  "  " ++ programName ++ " -t 60 -- top        top, cancelled after a minute\n" ++
  "  " ++ programName ++ " -e TERM=vt100       Shell with TERM overridden\n" ++
  "\n" ++
  "Configuration: ~/." ++ programName ++ "/config.toml\n" ++
  "Log file:      ~/." ++ programName ++ "/" ++ programName ++ ".log (filter with RUST_LOG)\n"

/-- The text about arguments that are refused. -/
def refusalText (reason : Refusal) : String :=
  "Error: " ++ reason.message ++ "\nUse --help for usage information\n"

end Options

end PseudoTerminal
