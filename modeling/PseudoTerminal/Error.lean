import PseudoTerminal.Fault
import PseudoTerminal.Text.Utf8
import PseudoTerminal.WindowSize

/-! Why an operation on a terminal or a command failed. Every error is a cause, most with nothing
else; those that stem from the operating system carry its fault as their source. -/

namespace PseudoTerminal

/-- A terminal could not be opened. -/
inductive OpenError
  | allocate (fault : Fault)
  | pipeCreation (fault : Fault)
  | consoleCreation (fault : Fault)
  | invalidSize (size : WindowSize)
  deriving DecidableEq, Repr

/-- A device control call was refused. -/
inductive ResizeError
  | closed
  | invalidSize (size : WindowSize)
  | device (fault : Fault)
  deriving DecidableEq, Repr

/-- A command could not be started; nothing of it is left running. -/
inductive StartError
  | alreadyStarted
  | closed
  | busy
  | cancelled
  | invalidCommand (reason : String)
  | notFound (path : Octets)
  | spawn (fault : Fault)
  deriving DecidableEq, Repr

/-- A command could not be waited for. -/
inductive WaitError
  | notStarted
  | alreadyWaited
  | os (fault : Fault)
  deriving DecidableEq, Repr

/-- Terminal data could not be read or written. -/
inductive TransferError
  | closed
  | read (fault : Fault)
  | write (fault : Fault)
  deriving DecidableEq, Repr

/-- Any failure of the library. -/
inductive Error
  | opening (error : OpenError)
  | resizing (error : ResizeError)
  | starting (error : StartError)
  | waiting (error : WaitError)
  | transferring (error : TransferError)
  deriving DecidableEq, Repr

def closedText : String := "Pseudo-terminal is closed"

def invalidSizeText (size : WindowSize) : String := "Invalid terminal size " ++ size.text

namespace OpenError

def message : OpenError → String
  | allocate f => "Failed to allocate pseudo-terminal: " ++ f.message
  | pipeCreation f => "Failed to create pipe: " ++ f.message
  | consoleCreation f => "Failed to create pseudo console: " ++ f.message
  | invalidSize size => invalidSizeText size

def source? : OpenError → Option Fault
  | allocate f | pipeCreation f | consoleCreation f => some f
  | invalidSize _ => none

end OpenError

namespace ResizeError

def message : ResizeError → String
  | closed => closedText
  | invalidSize size => invalidSizeText size
  | device f => "Failed to resize pseudo-terminal: " ++ f.message

def source? : ResizeError → Option Fault
  | device f => some f
  | _ => none

end ResizeError

namespace StartError

def message : StartError → String
  | alreadyStarted => "Command was already started"
  | closed => closedText
  | busy => "Pseudo-terminal already has a running command"
  | cancelled => "Command was cancelled before it started"
  | invalidCommand reason => "Invalid command: " ++ reason
  | notFound path => "Executable not found: " ++ Utf8.toString path
  | spawn f => "Failed to spawn process: " ++ f.message

def source? : StartError → Option Fault
  | spawn f => some f
  | _ => none

end StartError

namespace WaitError

def message : WaitError → String
  | notStarted => "Command was not started"
  | alreadyWaited => "Command was already waited on"
  | os f => "Failed to wait for process: " ++ f.message

def source? : WaitError → Option Fault
  | os f => some f
  | _ => none

end WaitError

namespace TransferError

def message : TransferError → String
  | closed => closedText
  | read f => "Failed to read from PTY: " ++ f.message
  | write f => "Failed to write to PTY: " ++ f.message

def source? : TransferError → Option Fault
  | read f | write f => some f
  | closed => none

/-- The fault that the error is to a caller who knows faults alone. -/
def toFault : TransferError → Fault
  | closed => .text .notConnected closedText
  | read f | write f => f

end TransferError

namespace Error

def message : Error → String
  | opening e => e.message
  | resizing e => e.message
  | starting e => e.message
  | waiting e => e.message
  | transferring e => e.message

def source? : Error → Option Fault
  | opening e => e.source?
  | resizing e => e.source?
  | starting e => e.source?
  | waiting e => e.source?
  | transferring e => e.source?

/-- The conversion to a fault, for the errors that have one. -/
def toFault? : Error → Option Fault
  | transferring e => some e.toFault
  | _ => none

/-- The message and the messages of its causes, outermost first. -/
def chain (e : Error) : List String := e.message :: (e.source?.map Fault.message).toList

end Error

end PseudoTerminal
