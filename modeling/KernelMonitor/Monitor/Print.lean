import KernelMonitor.Console.Sink
import KernelMonitor.Monitor.Error

/-! # Printing commands

A command prints through `Print`: each piece is offered to the console under its write policy,
and a refused piece stops the command with `MonitorError.console`. Everything printed before
the refusal stays printed. A word operation that faults stops the whole program.
-/

namespace KernelMonitor

/-- A computation that prints to a console which may refuse pieces, may fail, and may fault. -/
abbrev Print := ReaderT WritePolicy (ExceptT MonitorError (StateT Sink (Except Fault)))

namespace Print

/-- Offers one piece; a refusal stops the computation. -/
def emit (piece : String) : Print Unit := do
  let (s, taken) := (← get).write (← read) piece
  set s
  unless taken do throw .console

def emitAll : List String → Print Unit
  | [] => pure ()
  | x :: xs => do emit x; emitAll xs

def ofExcept {α : Type} : Except MonitorError α → Print α
  | .ok a => pure a
  | .error e => throw e

/-- Lifts an exact word operation into printing: a fault stops the program. -/
def exact {α : Type} : Except Fault α → Print α
  | .ok a => pure a
  | .error f => throwThe Fault f

/-- Runs a computation on a console with policy `p` that has received `s` so far: a fault, or
how it ended and the console afterwards. -/
def exec {α : Type} (x : Print α) (p : WritePolicy) (s : Sink) :
    Except Fault (Except MonitorError α × Sink) :=
  (x.run p).run.run s

end Print

end KernelMonitor
