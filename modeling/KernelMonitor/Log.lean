import KernelMonitor.Fault

/-! # Log records

A record has a level and a message. It is written as the level's tag, the message and a newline.
A record is handed to the logger unformatted: a logger that is off never formats it, and one that
is on stops the program if formatting its message faults.
-/

namespace KernelMonitor

/-- How serious a log record is, most serious first. -/
inductive Level where
  | error
  | warn
  | info
  | debug
  | trace
  deriving DecidableEq, Repr

def Level.tag : Level → String
  | .error => "[ERROR] "
  | .warn => "[WARN] "
  | .info => "[INFO] "
  | .debug => "[DEBUG] "
  | .trace => "[TRACE] "

structure Record where
  level : Level
  message : String
  deriving DecidableEq, Repr

def Record.render (r : Record) : String := r.level.tag ++ r.message ++ "\n"

/-- A record as it is handed to the logger: formatting its message may fault. -/
abbrev Note := Except Fault Record

/-- The records a logger keeps of `notes`, in order. A logger that is off keeps none and formats
none; one that is on formats each and stops at the first that faults. -/
def Record.collect (on : Bool) (notes : List Note) : Except Fault (List Record) :=
  if on then notes.mapM id else .ok []

end KernelMonitor
