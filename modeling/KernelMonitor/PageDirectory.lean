import KernelMonitor.Entry
import KernelMonitor.Memory
import KernelMonitor.Log

/-! # Page directories

A page directory is a page of 1024 entries at its root address. A present directory entry
whose frame lies in memory points to a page table of 1024 entries, and a present table entry
maps a virtual page to a page frame. A walk finds the slot of the table entry for an address,
making the table from an allocator's frame when it is missing.
-/

namespace KernelMonitor

open Text

/-- A two-level page directory, by the address of its first entry. -/
structure PageDir where
  root : UInt32
  deriving DecidableEq, Repr

/-- Where a virtual address leads: the entry that maps its page and its physical address. -/
structure Mapping where
  va : UInt32
  entry : Entry
  pa : UInt32
  deriving DecidableEq, Repr

/-- What a walk leaves behind, with the state of the frame allocator it was given. -/
structure WalkOf (σ : Type) where
  slot : Option UInt32
  mem : PhysMem
  state : σ
  log : List Note

namespace PageDir

/-- The directory that a page-directory base register value selects. -/
def ofRoot (cr3 : UInt32) : PageDir := ⟨pageBase cr3⟩

def dirSlot (d : PageDir) (va : UInt32) : UInt32 := d.root + dirIndex va * 4

def tableSlot (table va : UInt32) : UInt32 := frameStart table + tableIndex va * 4

/-- The frame of the page table for `va`: the directory entry must be readable and present,
and its frame must lie in memory. -/
def table? (d : PageDir) (m : PhysMem) (va : UInt32) : Option UInt32 := do
  let e : Entry := ⟨← m.read32? (d.dirSlot va)⟩
  if e.present && m.containsFrame e.frame then some e.frame else none

def lookup? (d : PageDir) (m : PhysMem) (va : UInt32) : Option UInt32 :=
  (d.table? m va).map (tableSlot · va)

/-- Resolves `va` to the physical address it maps to, with the entry that maps it. -/
def resolve? (d : PageDir) (m : PhysMem) (va : UInt32) : Option Mapping := do
  let e : Entry := ⟨← m.read32? (← d.lookup? m va)⟩
  if e.present then some ⟨va, e, e.frameAddr ||| pageOffset va⟩ else none

/-- The byte at virtual address `va`, read through the aligned word that holds it. -/
def readByte? (d : PageDir) (m : PhysMem) (va : UInt32) : Option UInt8 := do
  let t ← d.resolve? m va
  let w ← m.read32? (t.pa - t.pa % 4)
  some (w >>> ((t.pa % 4) * 8)).toUInt8

def readByteAt? (d : PageDir) (m : PhysMem) (va i : UInt32) : Option UInt8 :=
  (addChecked? va i).bind (d.readByte? m)

/-- The word at virtual address `va`. Inside one page it is one physical read; a word that
runs past the end of its page is read byte by byte, each byte resolved on its own. -/
def read32? (d : PageDir) (m : PhysMem) (va : UInt32) : Option UInt32 :=
  if pageOffset va ≤ 0xffc then do
    let t ← d.resolve? m va
    m.read32? t.pa
  else do
    let b0 ← d.readByteAt? m va 0
    let b1 ← d.readByteAt? m va 1
    let b2 ← d.readByteAt? m va 2
    let b3 ← d.readByteAt? m va 3
    some (PhysMem.wordOf b0 b1 b2 b3)

def newTableFlags : Flags := ⟨0x7⟩

/-- Finds the table-entry slot for `va`. Given a frame allocator, a state and a call that
takes it to the next frame and the next state, a missing page table is made from one frame: the
frame is zeroed and entered in the directory as present, writable and user. Without an
allocator a missing page table is not made. -/
def walkWith {σ : Type} (d : PageDir) (m : PhysMem) (va : UInt32)
    (alloc : Option (σ → Option UInt32 × σ)) (s : σ) : Except Fault (WalkOf σ) :=
  match d.table? m va with
  | some table => pure ⟨some (tableSlot table va), m, s, []⟩
  | none =>
    match alloc with
    | none => pure ⟨none, m, s, []⟩
    | some next =>
      match next s with
      | (none, s') => pure ⟨none, m, s', []⟩
      | (some f, s') =>
        if m.containsFrame f then do
          match ← m.zeroFrame f with
          | (none, m') => pure ⟨none, m', s', []⟩
          | (some (), m') =>
            match m'.write32? (d.dirSlot va) (Entry.make f newTableFlags).raw with
            | none => pure ⟨none, m', s', []⟩
            | some m'' =>
              pure ⟨some (tableSlot f va), m'', s',
                [do pure ⟨.debug, "pgdir: new page table " ++ (← frameDebug f) ++ " for pdx=" ++
                  dec (dirIndex va).toNat⟩]⟩
        else
          pure ⟨none, m, s', [do pure ⟨.warn, "pgdir: allocator returned " ++ (← frameDebug f) ++
            " outside physical memory"⟩]⟩

def walk (d : PageDir) (m : PhysMem) (va : UInt32) (s : FrameSupply) :
    Except Fault (WalkOf FrameSupply) :=
  d.walkWith m va (some FrameSupply.take) s

end PageDir

end KernelMonitor
