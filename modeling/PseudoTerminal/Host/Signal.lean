/-! Signals by number: their names, what a shell calls a death by one, and what a process that made no
arrangement does on receipt. -/

namespace PseudoTerminal

/-- A signal number; the ones from 32 on are the real-time signals. -/
abbrev Signal := Nat

namespace Signal

def hangUp : Signal := 1

def interrupt : Signal := 2

def quit : Signal := 3

def kill : Signal := 9

def brokenPipe : Signal := 13

def terminate : Signal := 15

def child : Signal := 17

def resume : Signal := 18

def stop : Signal := 19

def keyboardStop : Signal := 20

def inputStop : Signal := 21

def windowChange : Signal := 28

/-- The signal by which the threads of a process reach each other. -/
def threads : Signal := 33

/-- The greatest signal number. -/
def last : Signal := 64

/-- The signals that have a number of their own in every listing. -/
def isStandard (s : Signal) : Bool := 1 ≤ s && s ≤ 31

/-- Name and description of the standard signals. -/
def table : List (Signal × String × String) := [
  (1, "HUP", "Hangup"), (2, "INT", "Interrupt"), (3, "QUIT", "Quit"),
  (4, "ILL", "Illegal instruction"), (5, "TRAP", "Trace/breakpoint trap"), (6, "ABRT", "Aborted"),
  (7, "BUS", "Bus error"), (8, "FPE", "Floating point exception"), (9, "KILL", "Killed"),
  (10, "USR1", "User defined signal 1"), (11, "SEGV", "Segmentation fault"),
  (12, "USR2", "User defined signal 2"), (13, "PIPE", "Broken pipe"), (14, "ALRM", "Alarm clock"),
  (15, "TERM", "Terminated"), (16, "16", "Stack fault"), (17, "CHLD", "Child exited"),
  (18, "CONT", "Continued"), (19, "STOP", "Stopped (signal)"), (20, "TSTP", "Stopped"),
  (21, "TTIN", "Stopped (tty input)"), (22, "TTOU", "Stopped (tty output)"),
  (23, "URG", "Urgent I/O condition"), (24, "XCPU", "CPU time limit exceeded"),
  (25, "XFSZ", "File size limit exceeded"), (26, "VTALRM", "Virtual timer expired"),
  (27, "PROF", "Profiling timer expired"), (28, "WINCH", "Window changed"), (29, "IO", "I/O possible"),
  (30, "PWR", "Power failure"), (31, "SYS", "Bad system call")]

/-- The name of a signal; the real-time signals count from the nearer end of those that programs may
use. -/
def name (s : Signal) : String :=
  match table.lookup s with
  | some (name, _) => name
  | none =>
    if s = 34 then "RTMIN"
    else if s = last then "RTMAX"
    else if s < 34 || last < s then toString s
    else if s < 50 then "RTMIN+" ++ toString (s - 34)
    else "RTMAX-" ++ toString (last - s)

def describe (s : Signal) : String :=
  match table.lookup s with
  | some (_, text) => text
  | none => if 34 ≤ s ∧ s ≤ last then "Real-time signal " ++ toString (s - 34)
    else "Unknown signal " ++ toString s

/-- The signal of a name. -/
def ofName? (text : String) : Option Signal :=
  ((List.range (last + 1)).drop 1).find? fun s => name s == text

/-- What a process does on a signal for which it made no arrangement. -/
inductive Reaction
  | terminate
  | ignore
  | stop
  | resume
  deriving DecidableEq, Repr

def reaction (s : Signal) : Reaction :=
  if s = resume then .resume
  else if [child, 23, windowChange].contains s then .ignore
  else if [stop, keyboardStop, inputStop, 22].contains s then .stop
  else .terminate

/-- The signals that no process can arrange for. -/
def isForced (s : Signal) : Bool := s == kill || s == stop

end Signal

end PseudoTerminal
