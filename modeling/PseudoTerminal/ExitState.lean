/-! How a process ended, and why. An exit state is taken once, when the process has been waited for:
the way it ended, and whether a cancellation ended it. -/

namespace PseudoTerminal

/-- A normal exit with a code, or death by a signal. -/
inductive ExitKind
  | code (code : Int)
  | signal (number : Int)
  deriving DecidableEq, Repr, Inhabited

namespace ExitKind

def text : ExitKind → String
  | code n => "exit code " ++ toString n
  | signal n => "signal " ++ toString n

/-- The exit code, for a normal exit. -/
def code? : ExitKind → Option Int
  | code n => some n
  | signal _ => none

/-- The signal, for a death by one. -/
def signal? : ExitKind → Option Int
  | code _ => none
  | signal n => some n

end ExitKind

structure ExitState where
  kind : ExitKind
  /-- Whether a cancellation ended the process. -/
  cancelled : Bool := false
  deriving DecidableEq, Repr, Inhabited

namespace ExitState

def text (state : ExitState) : String :=
  state.kind.text ++ if state.cancelled then " (cancelled)" else ""

/-- A normal exit with code zero. -/
def success (state : ExitState) : Bool := state.kind == .code 0

/-- The exit status that a shell would report: the code, or 128 and the signal. -/
def shellStatus (state : ExitState) : Int :=
  match state.kind with
  | .code n => n
  | .signal n => 128 + n

end ExitState

end PseudoTerminal
