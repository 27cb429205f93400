import KernelMonitor.PageDirectory
import KernelMonitor.Monitor.Command
import KernelMonitor.Monitor.Parse

/-! # content

`content p start end` prints the words of physical memory from `start` on, four bytes apart,
below `end`. `content v start end` does the same for virtual memory page by page: each page is
resolved once, and a word that runs past the end of its page is read through the page table.
The dump stops at the first word it cannot read and reports why.
-/

namespace KernelMonitor

open Text

def physLine (pa : Nat) (w : UInt32) : List String :=
  ["pa: 0x", hex pa, "\t va: 0x", hex (pa.toUInt32 + kernelBase).toNat, "\t content:0x",
   hex w.toNat, "\n"]

/-- Prints the physical words from `pa` on, below `stop`, ending at the top of the address
space. -/
def printPhys (m : PhysMem) (stop : Nat) (pa : Nat) : Print Unit :=
  if pa < stop then
    match m.read32? pa.toUInt32 with
    | none => throw (.physOutOfRange pa.toUInt32)
    | some w => do
      Print.emitAll (physLine pa w)
      if pa + 4 < 4294967296 then printPhys m stop (pa + 4)
  else pure ()
termination_by stop - pa
decreasing_by omega

/-- The word at `page + off` for an offset past the last whole word of the page. When it
cannot be read, the error names the next page: unmapped, or its frame outside memory. -/
def readAcross (d : PageDir) (m : PhysMem) (page off : UInt32) : Print UInt32 := do
  match d.read32? m (← Print.exact (addExact page off)) with
  | some w => pure w
  | none =>
    let next := page + pageSize
    match d.resolve? m next with
    | none => throw (.pageNotFound next)
    | some t => throw (.physOutOfRange t.pa)

def pageWord (d : PageDir) (m : PhysMem) (page pa off : UInt32) : Print UInt32 :=
  if off ≤ 0xffc then
    match m.read32? pa with
    | some w => pure w
    | none => throw (.physOutOfRange pa)
  else readAcross d m page off

def virtLine (va pa w : UInt32) : List String :=
  ["va:0x", hex va.toNat, "\tpa:0x", hex pa.toNat, "\tcontent:0x", hex w.toNat, "\n"]

/-- Prints the words of one page at offsets `off`, `off + 4`, … below `last`; `frame` is the
address of the frame the page maps to. -/
def printPage (d : PageDir) (m : PhysMem) (page frame last off : UInt32) : Print Unit :=
  if hoff : off < last then do
    let pa ← Print.exact (addExact frame off)
    let w ← pageWord d m page pa off
    Print.emitAll (virtLine (← Print.exact (addExact page off)) pa w)
    match h : addExact off 4 with
    | .ok next =>
      have : last.toNat - next.toNat < last.toNat - off.toNat := by
        have hn := toNat_of_addExact_eq_ok h
        have hl := UInt32.lt_iff_toNat_lt.mp hoff
        change next.toNat = off.toNat + 4 at hn
        omega
      printPage d m page frame last next
    | .error f => throwThe Fault f
  else pure ()
termination_by last.toNat - off.toNat

def printVirt (d : PageDir) (m : PhysMem) (stop : Nat) (va : Nat) : Print Unit :=
  if va < stop then
    match d.resolve? m va.toUInt32 with
    | none => throw (.pageNotFound va.toUInt32)
    | some t => do
      let page := va - va % 4096
      let last := if va / 4096 = stop / 4096 then stop % 4096 else 4096
      printPage d m page.toUInt32 t.entry.frameAddr last.toUInt32 (va % 4096).toUInt32
      if va - va % 4096 + 4096 < 4294967296 then printVirt d m stop (va - va % 4096 + 4096)
  else pure ()
termination_by stop - va
decreasing_by omega

/-- `content p|v start end`. -/
def content (t : Target) (argv : List String) : Print Flow :=
  match argv with
  | [_, space, a, b] => do
    let dump ← match space.toList with
      | 'v' :: _ => pure (printVirt (PageDir.ofRoot t.root) t.mem)
      | 'p' :: _ => pure (printPhys t.mem)
      | _ => throw .invalidType
    let (start, stop) ← Print.ofExcept (parseRange a b)
    dump stop.toNat start.toNat
    pure .next
  | _ => throw .invalidArguments

end KernelMonitor
