import KernelMonitor.Memory
import Std.Data.TreeMap

/-! # Sparse physical memory

The test machine's memory keeps only the frames it has written: an ordered map from frame
numbers to arrays of 4096 bytes, a frame created all zero when a byte of it is first set. Word
accesses pass the bound check first and then address their bytes by sums that fault past the top.
-/

namespace KernelMonitor

/-- Memory of `maxFrames` page frames, holding the frames written so far. -/
structure SparseMem where
  maxFrames : UInt32
  frames : Std.TreeMap UInt32 (Array UInt8) compare := ∅

namespace SparseMem

def empty (n : UInt32) : SparseMem := ⟨n, ∅⟩

def contains (m : SparseMem) (pa : UInt32) (len : Nat) : Bool :=
  pa.toNat + len ≤ m.maxFrames.toNat * 4096

def containsFrame (m : SparseMem) (f : UInt32) : Bool := f < m.maxFrames

/-- The byte at `pa`, zero in a frame not written yet. -/
def byte (m : SparseMem) (pa : UInt32) : Except Fault UInt8 :=
  match m.frames[pa / pageSize]? with
  | none => pure 0
  | some fr =>
    if h : (pa % pageSize).toNat < fr.size then pure fr[(pa % pageSize).toNat]
    else throw (.indexOutOfBounds fr.size (pa % pageSize).toNat)

/-- Memory with `b` at `pa`, the frame of `pa` created all zero if it is missing. -/
def setByte (m : SparseMem) (pa : UInt32) (b : UInt8) : Except Fault SparseMem :=
  let fr := m.frames.getD (pa / pageSize) (Array.replicate 4096 0)
  if h : (pa % pageSize).toNat < fr.size then
    pure { m with frames := m.frames.insert (pa / pageSize) (fr.set (pa % pageSize).toNat b h) }
  else throw (.indexOutOfBounds fr.size (pa % pageSize).toNat)

def read32 (m : SparseMem) (pa : UInt32) : Except Fault (Option UInt32) :=
  if m.contains pa 4 then do
    let b0 ← m.byte (← addExact pa 0)
    let b1 ← m.byte (← addExact pa 1)
    let b2 ← m.byte (← addExact pa 2)
    let b3 ← m.byte (← addExact pa 3)
    pure (some (PhysMem.wordOf b0 b1 b2 b3))
  else pure none

/-- Memory with the bytes of `v`, least significant first, at `pa` to `pa + 3`, if they lie in
memory. -/
def write32 (m : SparseMem) (pa v : UInt32) : Except Fault (Option SparseMem) :=
  if m.contains pa 4 then do
    let m ← m.setByte (← addExact pa 0) v.toUInt8
    let m ← m.setByte (← addExact pa 1) (v >>> 8).toUInt8
    let m ← m.setByte (← addExact pa 2) (v >>> 16).toUInt8
    let m ← m.setByte (← addExact pa 3) (v >>> 24).toUInt8
    pure (some m)
  else pure none

/-- Memory with frame `f` filled with zeros by word writes, if the frame lies in memory. -/
def zeroFrame (m : SparseMem) (f : UInt32) : Except Fault (Option Unit × SparseMem) :=
  zeroFrameWith containsFrame write32 m f

def writtenFrames (m : SparseMem) : List UInt32 := m.frames.keys

end SparseMem

end KernelMonitor
