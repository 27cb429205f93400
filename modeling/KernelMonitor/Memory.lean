import KernelMonitor.Address

/-! # Physical memory

Physical memory is `frames` pages of bytes, all zero at first, kept as the word writes made to
it, newest first. Words are little-endian and may start at any byte; an access that does not fit
below `frames * 4096` is refused. A frame is zeroed one word at a time.
-/

namespace KernelMonitor

/-- One write to physical memory. -/
inductive Store where
  /-- The four bytes of `value`, least significant first, at `pa` to `pa + 3`. -/
  | word (pa value : UInt32)
  deriving DecidableEq, Repr

namespace Store

def byteAt? : Store → Nat → Option UInt8
  | .word pa v, a =>
    if pa.toNat ≤ a ∧ a < pa.toNat + 4 then
      some (v >>> (8 * (a - pa.toNat)).toUInt32).toUInt8
    else none

def frames : Store → List Nat
  | .word pa _ => [pa.toNat / 4096, (pa.toNat + 3) / 4096]

end Store

/-- Physical memory of `frames` pages, as its writes, newest first. -/
structure PhysMem where
  frames : Nat
  log : List Store := []
  deriving Repr

def pageWordOffsets : List UInt32 := (List.range 1024).map fun i => (4 * i).toUInt32

/-- Writes zero at `base + off` for each offset in turn and stops at the first write refused,
keeping what was written before it. -/
def zeroWords {M : Type} (write32 : M → UInt32 → UInt32 → Except Fault (Option M))
    (base : UInt32) : List UInt32 → M → Except Fault (Option Unit × M)
  | [], m => pure (some (), m)
  | off :: offs, m => do
    match ← write32 m (← addExact base off) 0 with
    | none => pure (none, m)
    | some m' => zeroWords write32 base offs m'

/-- Fills page frame `f` with zeros word by word, when the frame lies in memory: the zeroing
that every memory has through its word writes. -/
def zeroFrameWith {M : Type} (containsFrame : M → UInt32 → Bool)
    (write32 : M → UInt32 → UInt32 → Except Fault (Option M)) (m : M) (f : UInt32) :
    Except Fault (Option Unit × M) :=
  if containsFrame m f then do zeroWords write32 (← frameBase f) pageWordOffsets m
  else pure (none, m)

namespace PhysMem

def blank (n : Nat) : PhysMem := ⟨n, []⟩

def size (m : PhysMem) : Nat := m.frames * 4096

def contains (m : PhysMem) (pa : UInt32) (len : Nat) : Bool := pa.toNat + len ≤ m.size

def containsFrame (m : PhysMem) (f : UInt32) : Bool := f.toNat < m.frames

/-- The byte the newest of `writes` that covers `a` left there, or zero. -/
def byteIn (a : Nat) : List Store → UInt8
  | [] => 0
  | s :: rest => (s.byteAt? a).getD (byteIn a rest)

def byte (m : PhysMem) (a : Nat) : UInt8 := byteIn a m.log

def wordOf (b0 b1 b2 b3 : UInt8) : UInt32 :=
  b0.toUInt32 ||| (b1.toUInt32 <<< 8) ||| (b2.toUInt32 <<< 16) ||| (b3.toUInt32 <<< 24)

def read32? (m : PhysMem) (pa : UInt32) : Option UInt32 :=
  if m.contains pa 4 then
    let a := pa.toNat
    some (wordOf (m.byte a) (m.byte (a + 1)) (m.byte (a + 2)) (m.byte (a + 3)))
  else none

def write32? (m : PhysMem) (pa v : UInt32) : Option PhysMem :=
  if m.contains pa 4 then some { m with log := .word pa v :: m.log } else none

/-- Memory with frame `f` filled with zeros by word writes, if the frame lies in memory. -/
def zeroFrame (m : PhysMem) (f : UInt32) : Except Fault (Option Unit × PhysMem) :=
  zeroFrameWith containsFrame (fun m pa v => pure (m.write32? pa v)) m f

def insertSorted (n : Nat) : List Nat → List Nat
  | [] => [n]
  | x :: xs => if n < x then n :: x :: xs else if n = x then x :: xs else x :: insertSorted n xs

def touchedFrames (m : PhysMem) : List Nat :=
  m.log.foldl (fun acc s => s.frames.foldl (fun acc f => insertSorted f acc) acc) []

end PhysMem

/-- A supply of page frames handed out in order, counting every request. -/
structure FrameSupply where
  next : UInt32
  limit : UInt32
  requests : Nat := 0
  deriving DecidableEq, Repr

namespace FrameSupply

/-- The next frame, or `none` once `next` has reached `limit`; the request is counted either way. -/
def take (s : FrameSupply) : Option UInt32 × FrameSupply :=
  if s.next < s.limit then (some s.next, { s with next := s.next + 1, requests := s.requests + 1 })
  else (none, { s with requests := s.requests + 1 })

end FrameSupply

end KernelMonitor
