import KernelMonitor.Text.Hex

/-! # Trap frames

A trap frame holds the registers saved when the processor entered the kernel. Its dump names
every register; the page-fault error code is decoded, and the user stack is shown only for a
trap from user mode. The dump is a list of pieces in the order a console receives them.
-/

namespace KernelMonitor

open Text

/-- The registers saved on a trap. -/
structure Trapframe where
  edi : UInt32 := 0
  esi : UInt32 := 0
  ebp : UInt32 := 0
  oesp : UInt32 := 0
  ebx : UInt32 := 0
  edx : UInt32 := 0
  ecx : UInt32 := 0
  eax : UInt32 := 0
  es : UInt16 := 0
  ds : UInt16 := 0
  trapno : UInt32 := 0
  err : UInt32 := 0
  eip : UInt32 := 0
  cs : UInt16 := 0
  eflags : UInt32 := 0
  esp : UInt32 := 0
  ss : UInt16 := 0
  deriving DecidableEq, Repr

/-- The names of the processor's exceptions 0 to 19. -/
def exceptionNames : List String :=
  ["Divide error", "Debug", "Non-Maskable Interrupt", "Breakpoint", "Overflow",
   "BOUND Range Exceeded", "Invalid Opcode", "Device Not Available", "Double Fault",
   "Coprocessor Segment Overrun", "Invalid TSS", "Segment Not Present", "Stack Fault",
   "General Protection", "Page Fault", "(unknown trap)", "x87 FPU Floating-Point Error",
   "Alignment Check", "Machine-Check", "SIMD Floating-Point Exception"]

def pageFaultTrap : UInt32 := 14

/-- The name of a trap number: an exception, the system call 48, a hardware interrupt 32 to 47. -/
def trapName (n : UInt32) : String :=
  match exceptionNames[n.toNat]? with
  | some s => s
  | none =>
    if n = 48 then "System call"
    else if 32 ≤ n ∧ n < 48 then "Hardware Interrupt"
    else "(unknown trap)"

namespace Trapframe

/-- The trap flag of EFLAGS: the processor stops after one instruction. -/
def trapFlag : UInt32 := 0x100

def fromUser (tf : Trapframe) : Bool := tf.cs &&& 3 != 0

def singleStep (tf : Trapframe) : Bool := tf.eflags &&& trapFlag != 0

def withSingleStep (tf : Trapframe) (on : Bool) : Trapframe :=
  { tf with eflags := if on then tf.eflags ||| trapFlag else tf.eflags &&& ~~~trapFlag }

def wordLine (label : String) (v : UInt32) : List String := label :: hex8 v ++ ["\n"]

def halfLine (label : String) (v : UInt16) : List String := label :: hex4 v ++ ["\n"]

def faultCause (err : UInt32) : List String :=
  [" [", if err &&& 4 != 0 then "user" else "kernel", ", ",
   if err &&& 2 != 0 then "write" else "read", ", ",
   if err &&& 1 != 0 then "protection" else "not-present", "]"]

/-- The dump of a frame stored at address `addr`, piece by piece. The address goes out as two
pieces, its `0x` prefix and then its digits. -/
def dump (tf : Trapframe) (addr : Nat) : List String :=
  ["TRAP frame at ", "0x", hex addr, "\n"] ++
  wordLine "  edi  0x" tf.edi ++ wordLine "  esi  0x" tf.esi ++
  wordLine "  ebp  0x" tf.ebp ++ wordLine "  oesp 0x" tf.oesp ++
  wordLine "  ebx  0x" tf.ebx ++ wordLine "  edx  0x" tf.edx ++
  wordLine "  ecx  0x" tf.ecx ++ wordLine "  eax  0x" tf.eax ++
  halfLine "  es   0x----" tf.es ++ halfLine "  ds   0x----" tf.ds ++
  ("  trap 0x" :: hex8 tf.trapno ++ [" ", trapName tf.trapno, "\n"]) ++
  ("  err  0x" :: hex8 tf.err) ++
  (if tf.trapno = pageFaultTrap then faultCause tf.err else []) ++ ["\n"] ++
  wordLine "  eip  0x" tf.eip ++ halfLine "  cs   0x----" tf.cs ++
  wordLine "  flag 0x" tf.eflags ++
  (if tf.fromUser then wordLine "  esp  0x" tf.esp ++ halfLine "  ss   0x----" tf.ss else [])

end Trapframe

end KernelMonitor
