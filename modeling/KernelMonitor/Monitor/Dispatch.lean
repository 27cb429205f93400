import KernelMonitor.Monitor.Info
import KernelMonitor.Monitor.Mappings
import KernelMonitor.Monitor.Content
import KernelMonitor.Monitor.Backtrace
import KernelMonitor.Monitor.Resume

/-! # Running a command line

A line is split into words; the first names a command, found in the registry in order. The
command prints to the console as it goes. If the console refuses a piece, the command stops
there and a warning is logged. If the command fails, its error is printed on a line of its own.
Either way the monitor reads on.
-/

namespace KernelMonitor

/-- The report of a command that only prints; a fault stops the program. -/
def Report.ofPrint (p : WritePolicy) (t : Target) (tf : Option Trapframe) (s : Sink)
    (x : Print Flow) : Report :=
  match x.exec p s with
  | .ok (ending, sink) => { ending, mem := t.mem, tf, sink }
  | .error f => { ending := .ok (.fault f), mem := t.mem, tf, sink := s }

/-- Runs a built-in command with the words `argv`, the first of which is its name. -/
def Builtin.run (b : Builtin) (setup : Setup) (p : WritePolicy) (t : Target)
    (argv : List String) (tf : Option Trapframe) (s : Sink) : Report :=
  match b with
  | .help => Report.ofPrint p t tf s (do Print.emitAll (helpText setup.registry); pure .next)
  | .kerninfo => Report.ofPrint p t tf s (do Print.emitAll (kerninfoText setup.layout); pure .next)
  | .backtrace => Report.ofPrint p t tf s (KernelMonitor.backtrace t setup.symbols)
  | .showmappings => Report.ofPrint p t tf s (KernelMonitor.showmappings t argv)
  | .content => Report.ofPrint p t tf s (KernelMonitor.content t argv)
  | .modifyperm =>
    match KernelMonitor.modifyperm t argv with
    | .ok (mem, r) => { ending := .ok .next, mem, tf, log := [r], sink := s }
    | .error e => { ending := .error e, mem := t.mem, tf, sink := s }
  | .proceed => resumeReport (resume argv tf "continue" false)
  | .step => resumeReport (resume argv tf "step" true)
where
  resumeReport : Except MonitorError (Trapframe × Record) → Report
    | .ok (f, r) => { ending := .ok .resume, mem := t.mem, tf := some f, log := [r], sink := s }
    | .error e => { ending := .error e, mem := t.mem, tf, sink := s }

def Command.run (c : Command) (setup : Setup) (p : WritePolicy) (t : Target)
    (argv : List String) (tf : Option Trapframe) (s : Sink) : Report :=
  match c.action with
  | .builtin b => b.run setup p t argv tf s
  | .custom handler => handler p t argv tf s

/-- What running one line left behind. -/
structure LineResult where
  flow : Flow
  mem : PhysMem
  tf : Option Trapframe
  sink : Sink
  log : List Record

def consoleWarning : Record := ⟨.warn, "monitor: console write failed"⟩

/-- Finishes a line: a command's flow, or the monitor reads on after a failure, printing the
error unless the console itself failed. -/
def finishLine (p : WritePolicy) (r : Report) : LineResult :=
  match r.ending with
  | .ok flow => ⟨flow, r.mem, r.tf, r.sink, r.log⟩
  | .error .console => ⟨.next, r.mem, r.tf, r.sink, r.log ++ [consoleWarning]⟩
  | .error e =>
    match (Print.emitAll (e.pieces ++ ["\n"])).exec p r.sink with
    | .ok (.ok _, s) => ⟨.next, r.mem, r.tf, s, r.log⟩
    | .ok (.error _, s) => ⟨.next, r.mem, r.tf, s, r.log ++ [consoleWarning]⟩
    | .error f => ⟨.fault f, r.mem, r.tf, r.sink, r.log⟩

def unknownCommand (p : WritePolicy) (t : Target) (tf : Option Trapframe) (s : Sink)
    (name : String) : Report :=
  Report.ofPrint p t tf s (do Print.emitAll ["Unknown command '", name, "'\n"]; pure .next)

def runLine (setup : Setup) (p : WritePolicy) (t : Target) (tf : Option Trapframe) (s : Sink)
    (line : String) : LineResult :=
  match tokenize line with
  | .error e => finishLine p { ending := .error e, mem := t.mem, tf, sink := s }
  | .ok [] => ⟨.next, t.mem, tf, s, []⟩
  | .ok (name :: args) =>
    match setup.registry.find? name with
    | none => finishLine p (unknownCommand p t tf s name)
    | some cmd => finishLine p (cmd.run setup p t (name :: args) tf s)

end KernelMonitor
