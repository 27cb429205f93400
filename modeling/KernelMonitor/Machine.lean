import KernelMonitor.Monitor.Loop

/-! # Machines

A machine is the monitor's world in one value: memory, the page-directory base and frame
pointer, a supply of frames for new page tables, the trap frame if the kernel was entered by a
trap, and the console input not yet read. Mapping pages, reading entries, running one command
line and running the monitor loop are operations on it.
-/

namespace KernelMonitor

/-- The monitor's world. -/
structure Machine where
  target : Target
  supply : FrameSupply
  tf : Option Trapframe := none
  input : List UInt8 := []
  /-- Lines queued with `pushLine` whose line end has not been read. -/
  lines : Nat := 0

namespace Machine

/-- A machine of 0x8000 frames with its page directory at 0x1000, page tables taken from frame
0x7000 on, frame pointer zero and no trap frame. -/
def standard : Machine :=
  { target := ⟨PhysMem.blank 0x8000, 0x1000, 0⟩, supply := ⟨0x7000, 0xffffffff, 0⟩ }

def pageDir (m : Machine) : PageDir := PageDir.ofRoot m.target.root

def withMem (m : Machine) (mem : PhysMem) : Machine := { m with target := { m.target with mem } }

/-- What mapping a page did: the table-entry slot the walk found or made, and whether the entry
was written. -/
structure Mapped where
  slot : Option UInt32
  stored : Bool
  machine : Machine
  log : List Note

/-- Maps the page of `va` to the frame of `pa` with `flags`, making its page table if needed. -/
def map (m : Machine) (va pa : UInt32) (flags : Flags) : Except Fault Mapped := do
  let w ← m.pageDir.walk m.target.mem va m.supply
  let m' := { m with target := { m.target with mem := w.mem }, supply := w.state }
  match w.slot with
  | none => pure ⟨none, false, m', w.log⟩
  | some slot =>
    match w.mem.write32? slot (Entry.make (pageNumber pa) flags).raw with
    | none => pure ⟨some slot, false, m', w.log⟩
    | some mem => pure ⟨some slot, true, m'.withMem mem, w.log⟩

/-- Maps the page of `va` to the frame of `pa` with `flags`, which must succeed: a page table
that can be neither found nor made, or an entry that cannot be stored, faults. -/
def place (m : Machine) (va pa : UInt32) (flags : Flags) : Except Fault Machine := do
  let r ← m.map va pa flags
  let _ ← Fault.require "page table for test mapping" r.slot
  if r.stored then pure r.machine else throw (.unmet "store test mapping")

def mapDirectPage (m : Machine) (pa i : UInt32) : Except Fault Machine := do
  let p ← addExact pa (← mulExact i pageSize)
  m.place (← addExact p kernelBase) p (Flags.union Flags.present Flags.writable)

def mapDirectFrom (m : Machine) (pa pages : UInt32) (i : Nat) : Except Fault Machine :=
  if i < pages.toNat then
    match m.mapDirectPage pa i.toUInt32 with
    | .error f => .error f
    | .ok m' => m'.mapDirectFrom pa pages (i + 1)
  else .ok m
termination_by pages.toNat - i
decreasing_by omega

/-- Maps `pages` pages of physical memory from `pa` at their direct-map addresses, present
and writable. -/
def mapDirect (m : Machine) (pa pages : UInt32) : Except Fault Machine := m.mapDirectFrom pa pages 0

def entry? (m : Machine) (va : UInt32) : Option Entry :=
  ((m.pageDir.lookup? m.target.mem va).bind m.target.mem.read32?).map Entry.mk

def pushLine (m : Machine) (s : String) : Machine :=
  { m with input := m.input ++ s.toUTF8.toList ++ [10], lines := m.lines + 1 }

/-- Writes word `v` at physical address `pa`, which must lie in memory. -/
def poke (m : Machine) (pa v : UInt32) : Except Fault Machine := do
  pure (m.withMem (← Fault.require "poke inside test memory" (m.target.mem.write32? pa v)))

def pushBytes (m : Machine) (bs : List UInt8) : Machine := { m with input := m.input ++ bs }

/-- What running a command line or the loop did. -/
structure Outcome (α : Type) where
  result : α
  out : String
  machine : Machine
  log : List Record

def command (setup : Setup) (p : WritePolicy) (m : Machine) (line : String) : Outcome Flow :=
  let r := runLine setup p m.target m.tf {} line
  let m' := m.withMem r.mem
  ⟨r.flow, r.sink.out, { m' with tf := r.tf }, r.log⟩

def run (setup : Setup) (p : WritePolicy) (m : Machine) : Outcome RunEnd :=
  let r := runMonitor setup p m.target m.tf {} m.input
  let m' := m.withMem r.mem
  ⟨r.ending, r.sink.out, { m' with tf := r.tf, input := r.rest }, r.log⟩

/-- `run` on a console that counts the lines queued with `pushLine`: each line end read takes
one from the count, and a line end read when the count is zero faults. -/
def runScript (setup : Setup) (p : WritePolicy) (m : Machine) : Except Fault (Outcome RunEnd) := do
  let o := m.run setup p
  let lines ← natSubExact m.lines (m.input.count 10 - o.machine.input.count 10)
  pure { o with machine := { o.machine with lines } }

end Machine

end KernelMonitor
