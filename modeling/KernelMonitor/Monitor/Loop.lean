import KernelMonitor.Console.LineEditor
import KernelMonitor.Monitor.Dispatch

/-! # The monitor loop

The monitor greets, dumps the trap frame if there is one, and then reads and runs command lines
until the input ends or a command leaves the monitor. Each line is read after the prompt `K> `
into a buffer of 80 bytes. A greeting the console refuses is logged and the loop still starts.
-/

namespace KernelMonitor

/-- Why the monitor loop ended. -/
inductive RunEnd where
  | exit
  | resume
  | endOfInput
  /-- A word operation faulted and stopped the program. -/
  | fault (f : Fault)
  deriving DecidableEq, Repr

def RunEnd.name : RunEnd → String
  | .exit => "Exit"
  | .resume => "Resume"
  | .endOfInput => "EndOfInput"
  | .fault _ => "Fault"

structure RunResult where
  ending : RunEnd
  rest : List UInt8
  mem : PhysMem
  tf : Option Trapframe
  sink : Sink
  log : List Record

def monitorPrompt : String := "K> "

def lineBufferSize : Nat := 80

/-- The greeting, then the dump of the trap frame if there is one. -/
def bannerText (setup : Setup) (tf : Option Trapframe) : List String :=
  ["Welcome to the kernel monitor!\n", "Type 'help' for a list of commands.\n"] ++
    match tf with
    | some f => f.dump setup.frameAddr
    | none => []

/-- Reads and runs lines from `input` until it ends or a command leaves the monitor. -/
def serve (setup : Setup) (p : WritePolicy) (root ebp : UInt32) (mem : PhysMem)
    (tf : Option Trapframe) (s : Sink) (log : List Record) (input : List UInt8) : RunResult :=
  let r := readLine monitorPrompt lineBufferSize input
  match h : r.line with
  | none =>
    ⟨.endOfInput, r.rest, mem, tf, s.echo r.echo, log ++ [⟨.info, "monitor: end of console input"⟩]⟩
  | some line =>
    let res := runLine setup p ⟨mem, root, ebp⟩ tf (s.echo r.echo) line
    match res.flow with
    | .exit => ⟨.exit, r.rest, res.mem, res.tf, res.sink, log ++ res.log⟩
    | .resume => ⟨.resume, r.rest, res.mem, res.tf, res.sink, log ++ res.log⟩
    | .fault f => ⟨.fault f, r.rest, res.mem, res.tf, res.sink, log ++ res.log⟩
    | .next => serve setup p root ebp res.mem res.tf res.sink (log ++ res.log) r.rest
termination_by input.length
decreasing_by exact readLine_rest_lt _ _ _ (by simp [r] at h; simp [h])

def runMonitor (setup : Setup) (p : WritePolicy) (t : Target) (tf : Option Trapframe) (s : Sink)
    (input : List UInt8) : RunResult :=
  match (Print.emitAll (bannerText setup tf)).exec p s with
  | .ok (.ok _, s') => serve setup p t.root t.ebp t.mem tf s' [] input
  | .ok (.error _, s') =>
    serve setup p t.root t.ebp t.mem tf s'
      [⟨.warn, "monitor: banner: an error occurred when formatting an argument"⟩] input
  | .error f => ⟨.fault f, input, t.mem, tf, s, []⟩

end KernelMonitor
