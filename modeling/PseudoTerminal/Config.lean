import PseudoTerminal.Environment.Basic
import PseudoTerminal.Files.Tree
import PseudoTerminal.Text.Utf8
import PseudoTerminal.Toml.Document

/-! The configuration of the session driver. Every setting is optional; a file that cannot be read, that
is no TOML, or in which a known setting has the wrong type, is refused as a whole, while unknown settings
are passed over. -/

namespace PseudoTerminal

structure LogConfig where
  level : String := "info"
  file : Option String := none
  deriving DecidableEq, Repr, Inhabited

structure SessionConfig where
  rows : Option UInt16 := none
  cols : Option UInt16 := none
  /-- Seconds until the program is cancelled. -/
  timeout : Option UInt64 := none
  /-- Milliseconds between the hang-up and the kill of a cancelled program. -/
  killGrace : Option UInt64 := none
  /-- Milliseconds between two looks at the console's size. -/
  resizePoll : UInt64 := 250
  deriving DecidableEq, Repr, Inhabited

structure Config where
  shell : Option String := none
  args : List String := []
  workingDir : Option String := none
  /-- Variables for the program, in key order. -/
  vars : List (String × String) := []
  log : LogConfig := {}
  session : SessionConfig := {}
  deriving DecidableEq, Repr, Inhabited

namespace Config

open Toml

/-! ### Settings from values -/

def string? : Value → Option String
  | .string s => some s
  | _ => none

/-- A number from zero up to, but not including, a limit. -/
def number? (limit : Nat) : Value → Option Nat
  | .integer n => if 0 ≤ n ∧ n < limit then some n.toNat else none
  | _ => none

def uint16? (v : Value) : Option UInt16 := (number? (Nat.pow 2 16) v).map UInt16.ofNat

def uint64? (v : Value) : Option UInt64 := (number? (Nat.pow 2 64) v).map UInt64.ofNat

def strings? : Value → Option (List String)
  | .array items => items.mapM string?
  | .tables _ => none
  | _ => none

/-- Inserts a variable into a list in key order. -/
def insertVar (key value : String) : List (String × String) → List (String × String)
  | [] => [(key, value)]
  | (k, v) :: rest =>
    if Octets.lt (Octets.ofString key) (Octets.ofString k) then (key, value) :: (k, v) :: rest
    else (k, v) :: insertVar key value rest

/-- The variables of a table whose values are all strings. -/
def vars? : Value → Option (List (String × String))
  | .table _ es => do
    let vars ← es.mapM fun (key, v) => (string? v).map fun s => (key, s)
    return vars.foldl (fun sorted (key, value) => insertVar key value sorted) []
  | _ => none

/-- The settings of a section: those of a table by name, those of an array by position. -/
def section? (names : List String) : Value → Option (String → Option Value)
  | .table _ es => some fun name => es.lookup name
  | .array items => some fun name => (names.zip items).lookup name
  | .tables items => some fun name => (names.zip (items.map (Value.table .header))).lookup name
  | _ => none

/-- Reads a setting if it is there, and keeps the default otherwise. -/
def setting? {α : Type} (read : Value → Option α) (default : α) : Option Value → Option α
  | none => some default
  | some v => read v

/-- A setting that has no default. -/
def optional? {α : Type} (read : Value → Option α) : Option Value → Option (Option α)
  | none => some none
  | some v => (read v).map some

def log? (v : Value) : Option LogConfig := do
  let get ← section? ["level", "file"] v
  return { level := ← setting? string? "info" (get "level"), file := ← optional? string? (get "file") }

def session? (v : Value) : Option SessionConfig := do
  let get ← section? ["rows", "cols", "timeout_secs", "kill_grace_ms", "resize_poll_ms"] v
  return {
    rows := ← optional? uint16? (get "rows")
    cols := ← optional? uint16? (get "cols")
    timeout := ← optional? uint64? (get "timeout_secs")
    killGrace := ← optional? uint64? (get "kill_grace_ms")
    resizePoll := ← setting? uint64? 250 (get "resize_poll_ms") }

/-- The configuration that a document describes. -/
def ofEntries? (es : Entries) : Option Config := do
  return {
    shell := ← optional? string? (es.find? "shell")
    args := ← setting? strings? [] (es.find? "args")
    workingDir := ← optional? string? (es.find? "working_dir")
    vars := ← setting? vars? [] (es.find? "env")
    log := ← setting? log? {} (es.find? "log")
    session := ← setting? session? {} (es.find? "session") }

/-! ### Files -/

/-- Why a configuration file gives no configuration. -/
inductive LoadError
  | unreadable (path : Path) (fault : Fault)
  | malformed (path : Path)
  deriving DecidableEq, Repr

/-- What the error says before any detail of the grammar. -/
def LoadError.message : LoadError → String
  | unreadable p f => "Failed to read " ++ Utf8.toString p ++ ": " ++ f.message
  | malformed p => "Failed to parse " ++ Utf8.toString p

/-- A file that is not text. -/
def notText : Fault := .text .invalidData "stream did not contain valid UTF-8"

/-- The configuration in the file under a path. -/
def loadFrom (files : FileTree) (cwd : Option Place) (p : Path) : Except LoadError Config :=
  match files.read cwd p with
  | .error f => .error (.unreadable p f)
  | .ok data =>
    match Utf8.decode? data with
    | none => .error (.unreadable p notText)
    | some cs =>
      match (parse? (String.ofList cs)).bind ofEntries? with
      | none => .error (.malformed p)
      | some c => .ok c

/-- The user's home directory: `USERPROFILE`, or else `HOME`. -/
def homeDir? (env : List Variable) : Option Path :=
  match Environment.get? env (Octets.ofString "USERPROFILE") with
  | some p => some p
  | none => Environment.get? env (Octets.ofString "HOME")

/-- The directory that holds configuration and log. -/
def configDir? (env : List Variable) : Option Path :=
  (homeDir? env).map fun home => home.join (Octets.ofString ".hostpty")

/-- The user's configuration, or the default one with the reason for it. -/
def load (files : FileTree) (cwd : Option Place) (env : List Variable) : Config × Option LoadError :=
  match configDir? env with
  | none => ({}, none)
  | some dir =>
    let p := dir.join (Octets.ofString "config.toml")
    if !files.isPresent cwd p then ({}, none)
    else match loadFrom files cwd p with
      | .ok c => (c, none)
      | .error e => ({}, some e)

/-- The program to run when none is named: the configured one, `SHELL` if it is text, or `/bin/sh`. -/
def defaultShell (c : Config) (env : List Variable) : String :=
  match c.shell with
  | some s => s
  | none =>
    match (Environment.get? env (Octets.ofString "SHELL")).bind Utf8.decode? with
    | some cs => String.ofList cs
    | none => "/bin/sh"

/-- Where the log goes. -/
def logPath (c : Config) (env : List Variable) : Path :=
  let name := Octets.ofString "hostpty.log"
  match c.log.file with
  | some f => Octets.ofString f
  | none => ((configDir? env).map fun dir => dir.join name).getD name

end Config

end PseudoTerminal
