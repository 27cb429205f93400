import KernelMonitor.PageDirectory
import KernelMonitor.Monitor.Command

/-! # backtrace

The stack is a chain of frames: at a frame pointer lie the caller's frame pointer, the return
address and the arguments. `backtrace` follows the chain from the current frame pointer until
it reaches zero, printing each frame and the function its return address lies in, for at most
64 frames.
-/

namespace KernelMonitor

open Text

/-- The most frames a backtrace follows. -/
def maxBacktraceDepth : Nat := 64

structure StackFrame where
  ebp : UInt32
  savedEbp : UInt32
  eip : UInt32
  args : List UInt32
  deriving DecidableEq, Repr

def stackWord (d : PageDir) (m : PhysMem) (ebp i : UInt32) : Print UInt32 := do
  let off ← Print.exact (mulExact i 4)
  match (addChecked? ebp off).bind (d.read32? m) with
  | some w => pure w
  | none => throw (.stackUnreadable (ebp + off))

/-- The frame at `ebp`: the five arguments are read first, then the saved frame pointer, then
the return address. -/
def readFrame (d : PageDir) (m : PhysMem) (ebp : UInt32) : Print StackFrame := do
  let a0 ← stackWord d m ebp 2
  let a1 ← stackWord d m ebp 3
  let a2 ← stackWord d m ebp 4
  let a3 ← stackWord d m ebp 5
  let a4 ← stackWord d m ebp 6
  let saved ← stackWord d m ebp 0
  let eip ← stackWord d m ebp 1
  pure ⟨ebp, saved, eip, [a0, a1, a2, a3, a4]⟩

def frameLine (f : StackFrame) : List String :=
  ["ebp "] ++ hex8 f.ebp ++ ["  eip "] ++ hex8 f.eip ++ ["  args "] ++
    ((f.args.map hex8).intersperse [" "]).flatten ++ ["\n"]

def sourceLine (info : EipInfo) (eip : UInt32) : List String :=
  ["\t", info.file, ":", dec info.line.toNat, ": ", info.fnName, "+", dec (info.offset eip).toNat,
   "\n"]

/-- Prints the frames from `ebp` on, when `left` more frames may be printed. -/
def printFrames (d : PageDir) (m : PhysMem) (syms : SymbolTable) : Nat → UInt32 → Print Unit
  | left, ebp =>
    if ebp = 0 then pure ()
    else match left with
      | 0 => throw (.backtraceTooDeep maxBacktraceDepth)
      | left + 1 => do
        let f ← readFrame d m ebp
        Print.emitAll (frameLine f)
        match syms.lookup? f.eip with
        | none => throw (.symbolNotFound f.eip)
        | some info =>
          Print.emitAll (sourceLine info f.eip)
          printFrames d m syms left f.savedEbp

def backtrace (t : Target) (syms : SymbolTable) : Print Flow := do
  Print.emit "Stack backtrace:\n"
  printFrames (PageDir.ofRoot t.root) t.mem syms maxBacktraceDepth t.ebp
  pure .next

end KernelMonitor
