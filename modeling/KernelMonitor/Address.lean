import KernelMonitor.Text.Hex
import KernelMonitor.Fault

/-! # Addresses

Virtual and physical addresses are 32-bit words. A virtual address splits into a directory index
(bits 31 to 22), a table index (bits 21 to 12) and an offset in its 4 KiB page (bits 11 to 0).
Rounding wraps the way the words do; `addChecked?` is the one sum that refuses to wrap. The
`Exact` forms fault where the word arithmetic they rest on has no result.
-/

namespace KernelMonitor

open Text

def pageSize : UInt32 := 4096

/-- The virtual address at which the kernel sees physical address 0. -/
def kernelBase : UInt32 := 0xF0000000

/-- Bytes of physical memory that the kernel's direct map covers. -/
def directMapSize : UInt32 := 0x10000000

def dirIndex (va : UInt32) : UInt32 := (va >>> 22) &&& 0x3ff

def tableIndex (va : UInt32) : UInt32 := (va >>> 12) &&& 0x3ff

def pageOffset (a : UInt32) : UInt32 := a &&& 0xfff

def pageNumber (a : UInt32) : UInt32 := a >>> 12

def pageBase (a : UInt32) : UInt32 := a &&& 0xfffff000

/-- The first address of page frame `n`, wrapping past the top. -/
def frameStart (n : UInt32) : UInt32 := n * pageSize

/-- The largest multiple of `align` at or below `a`. -/
def roundDown (a align : UInt32) : UInt32 := a - a % align

/-- `a + align - 1` rounded down to a multiple of `align`, the sum wrapping at `2 ^ 32`. -/
def roundUp (a align : UInt32) : UInt32 := roundDown (a + (align - 1)) align

/-- `roundDown` for any alignment: a zero alignment faults, as the remainder by it does. -/
def roundDownExact (a align : UInt32) : Except Fault UInt32 := do
  pure (a - (← remExact a align))

/-- `roundUp` for any alignment: a zero alignment faults when one is taken from it. -/
def roundUpExact (a align : UInt32) : Except Fault UInt32 := do
  roundDownExact (a + (← subExact align 1)) align

/-- The first address of page frame `n`; a frame that starts past the top of the 32-bit
space faults. -/
def frameBase (n : UInt32) : Except Fault UInt32 := mulExact n pageSize

def addChecked? (a b : UInt32) : Option UInt32 :=
  if a.toNat + b.toNat < 4294967296 then some (a + b) else none

/-- The direct-map virtual address of a physical address in the first 256 MiB. -/
def kernelAlias? (pa : UInt32) : Option UInt32 :=
  if pa < directMapSize then some (pa + kernelBase) else none

def virtDebug (va : UInt32) : String := "VirtAddr(" ++ hexPrefixed va.toNat ++ ")"

def physDebug (pa : UInt32) : String := "PhysAddr(" ++ hexPrefixed pa.toNat ++ ")"

/-- Debug text of page frame `n`, shown by its first address, which must exist. -/
def frameDebug (n : UInt32) : Except Fault String := do
  pure ("PhysFrame(" ++ hexPrefixed (← frameBase n).toNat ++ ")")

end KernelMonitor
