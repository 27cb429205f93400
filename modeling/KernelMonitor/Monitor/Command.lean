import KernelMonitor.Layout
import KernelMonitor.Symbols
import KernelMonitor.Trapframe
import KernelMonitor.Memory
import KernelMonitor.Log
import KernelMonitor.Monitor.Print

/-! # Commands and registries

A registry is a list of named commands, searched in order. A command is one of the monitor's
built-in commands or a handler of its own. Running a command gives a report: how it ends, what
the console received, and the memory, trap frame and log records it leaves.
-/

namespace KernelMonitor

open Text

/-- What the monitor does after a command: read the next line, leave, resume the trapped
program, or stop the program on a fault. -/
inductive Flow where
  | next
  | exit
  | resume
  | fault (f : Fault)
  deriving DecidableEq, Repr

def Flow.name : Flow → String
  | .next => "Continue"
  | .exit => "Exit"
  | .resume => "Resume"
  | .fault _ => "Fault"

inductive Builtin where
  | help
  | kerninfo
  | backtrace
  | showmappings
  | modifyperm
  | content
  | proceed
  | step
  deriving DecidableEq, Repr

namespace Builtin

/-- All built-in commands, in the order `help` lists them. -/
def all : List Builtin :=
  [.help, .kerninfo, .backtrace, .showmappings, .modifyperm, .content, .proceed, .step]

def name : Builtin → String
  | .help => "help"
  | .kerninfo => "kerninfo"
  | .backtrace => "backtrace"
  | .showmappings => "showmappings"
  | .modifyperm => "modifyperm"
  | .content => "content"
  | .proceed => "c"
  | .step => "si"

def desc : Builtin → String
  | .help => "Display this list of commands"
  | .kerninfo => "Display information about the kernel"
  | .backtrace => "Display information about the stack"
  | .showmappings => "Display physical page mappings that apply to addresses requested"
  | .modifyperm =>
    "Set, clear, or change the permissions of any mapping in the current address space"
  | .content =>
    "Dump the contents of a range of memory given either a virtual or physical address"
  | .proceed => "continue"
  | .step => "step"

def ofName? (n : String) : Option Builtin := all.find? (·.name == n)

end Builtin

/-- The machine as the monitor inspects it: memory, the page-directory base and the frame
pointer. -/
structure Target where
  mem : PhysMem
  root : UInt32
  ebp : UInt32
  deriving Repr

/-- What running one command did: how it ended, and the memory, trap frame, log records and
console it left. -/
structure Report where
  ending : Except MonitorError Flow
  mem : PhysMem
  tf : Option Trapframe
  log : List Record := []
  sink : Sink

inductive Action where
  | builtin (b : Builtin)
  /-- A command with a handler of its own: given the console's write policy, the machine, the
  words of the line, the trap frame and the console, it reports what it did. -/
  | custom (handler : WritePolicy → Target → List String → Option Trapframe → Sink → Report)

/-- The handler that prints nothing and ends with `flow`. -/
def Action.fixed (flow : Flow) : Action :=
  .custom fun _ t _ tf s => { ending := .ok flow, mem := t.mem, tf, sink := s }

structure Command where
  name : String
  desc : String
  action : Action

def Command.ofBuiltin (b : Builtin) : Command := ⟨b.name, b.desc, .builtin b⟩

def Command.debug (c : Command) : String :=
  "Command \x7b name: " ++ quoteString c.name ++ " \x7d"

/-- Commands in the order they are searched. -/
abbrev Registry := List Command

namespace Registry

def builtin : Registry := Builtin.all.map Command.ofBuiltin

def find? (r : Registry) (n : String) : Option Command := List.find? (·.name == n) r

def indexOf? (r : Registry) (n : String) : Option Nat := List.findIdx? (·.name == n) r

end Registry

/-- What the monitor knows besides the machine: its commands, the kernel's symbols and layout,
and the address at which it keeps a trap frame. -/
structure Setup where
  registry : Registry := Registry.builtin
  symbols : SymbolTable := {}
  layout : Layout := Layout.standard
  frameAddr : Nat := 0

end KernelMonitor
