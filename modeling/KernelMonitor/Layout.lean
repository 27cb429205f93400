import KernelMonitor.Address

/-! # Kernel image layout

The kernel image is described by five addresses: its physical load address and the virtual
addresses of its entry point, the end of its text, the end of its data and its end. The
footprint is the size from the entry point to the end, in whole KiB.
-/

namespace KernelMonitor

/-- Where the kernel image lies. -/
structure Layout where
  start : UInt32
  entry : UInt32
  etext : UInt32
  edata : UInt32
  imageEnd : UInt32
  deriving DecidableEq, Repr

namespace Layout

/-- The layout of the reference kernel build. -/
def standard : Layout := ⟨0x0010000c, 0xf010000c, 0xf0101a2b, 0xf0112300, 0xf0112950⟩

def physOf (v : UInt32) : UInt32 := v - kernelBase

/-- Size of the image from the entry point to its end, rounded up to whole KiB. -/
def footprintKiB (l : Layout) : UInt32 := roundUp (l.imageEnd - l.entry) 1024 / 1024

def symbols (l : Layout) : List (String × UInt32) :=
  [("entry", l.entry), ("etext", l.etext), ("edata", l.edata), ("end", l.imageEnd)]

end Layout

end KernelMonitor
