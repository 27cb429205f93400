import KernelMonitor.Address

/-! # Page-table entries

An entry is a 32-bit word: a frame address in bits 31 to 12 and flags in bits 11 to 0. The
protection of a mapping is its WRITABLE and USER bits; `Entry.apply` sets, clears or flips them
and leaves every other bit alone.
-/

namespace KernelMonitor

open Text

/-- A set of entry flags, as the bits of a word. -/
structure Flags where
  bits : UInt32
  deriving DecidableEq, Repr

namespace Flags

def empty : Flags := ⟨0⟩

def present : Flags := ⟨0x1⟩

def writable : Flags := ⟨0x2⟩

def user : Flags := ⟨0x4⟩

/-- The bits that make up the protection of a mapping. -/
def protection : Flags := ⟨0x6⟩

def union (a b : Flags) : Flags := ⟨a.bits ||| b.bits⟩

def contains (a b : Flags) : Bool := a.bits &&& b.bits == b.bits

def names : List (String × UInt32) :=
  [("PRESENT", 0x1), ("WRITABLE", 0x2), ("USER", 0x4), ("WRITE_THROUGH", 0x8),
   ("CACHE_DISABLE", 0x10), ("ACCESSED", 0x20), ("DIRTY", 0x40), ("PAGE_SIZE", 0x80),
   ("GLOBAL", 0x100), ("AVAIL", 0xe00)]

/-- The names whose bits are all set, and the bits no listed name accounts for. -/
def named (bits : UInt32) : List String × UInt32 :=
  names.foldl (fun (acc : List String × UInt32) (n : String × UInt32) =>
    if bits &&& n.2 == n.2 && acc.2 &&& n.2 != 0 then (acc.1 ++ [n.1], acc.2 &&& ~~~n.2)
    else acc) ([], bits)

/-- Debug text: the set names joined by ` | `, then any other bits in hexadecimal. -/
def debug (f : Flags) : String :=
  let body :=
    if f.bits = 0 then "0x0"
    else
      let (ns, rest) := named f.bits
      let extra := if rest = 0 then [] else [hexPrefixed rest.toNat]
      " | ".intercalate (ns ++ extra)
  "PteFlags(" ++ body ++ ")"

end Flags

/-- The three ways to change the protection of a mapping. -/
inductive PermOp where
  | set
  | clear
  | change
  deriving DecidableEq, Repr

namespace PermOp

/-- The operation a word names: it starts with `s`, `cl` or `ch`. -/
def parse? (word : String) : Option PermOp :=
  match word.toList with
  | 's' :: _ => some .set
  | 'c' :: 'l' :: _ => some .clear
  | 'c' :: 'h' :: _ => some .change
  | _ => none

def name : PermOp → String
  | .set => "Set"
  | .clear => "Clear"
  | .change => "Change"

end PermOp

/-- The flags a permission word asks for, or its first character other than `w` and `u`. -/
def parsePerm : List Char → Except Char Flags
  | [] => .ok Flags.empty
  | 'w' :: r => (parsePerm r).map (Flags.union Flags.writable)
  | 'u' :: r => (parsePerm r).map (Flags.union Flags.user)
  | c :: _ => .error c

/-- A page-table or page-directory entry. -/
structure Entry where
  raw : UInt32
  deriving DecidableEq, Repr

namespace Entry

def flagMask : UInt32 := 0xfff

/-- The entry that maps frame `frame` with the low twelve bits of `f`. -/
def make (frame : UInt32) (f : Flags) : Entry := ⟨frameStart frame ||| (f.bits &&& flagMask)⟩

/-- `make` for any frame number: a frame that starts past the top of the 32-bit space
faults. -/
def ofFrame (frame : UInt32) (f : Flags) : Except Fault Entry := do
  pure ⟨(← frameBase frame) ||| (f.bits &&& flagMask)⟩

def frameAddr (e : Entry) : UInt32 := e.raw &&& ~~~flagMask

def frame (e : Entry) : UInt32 := e.raw >>> 12

def flags (e : Entry) : Flags := ⟨e.raw &&& flagMask⟩

def present (e : Entry) : Bool := e.raw &&& 1 != 0

def setFlags (e : Entry) (f : Flags) : Entry := ⟨e.raw ||| (f.bits &&& flagMask)⟩

def clearProtection (e : Entry) : Entry := ⟨e.raw &&& ~~~Flags.protection.bits⟩

def toggle (e : Entry) (f : Flags) : Entry := ⟨e.raw ^^^ (f.bits &&& flagMask)⟩

/-- Changes the protection: `set` replaces it by `f`, `clear` removes it, `change` flips `f`. -/
def apply (e : Entry) : PermOp → Flags → Entry
  | .set, f => e.clearProtection.setFlags f
  | .clear, _ => e.clearProtection
  | .change, f => e.toggle f

def debug (e : Entry) : String :=
  "Pte(" ++ hexPrefixed e.frameAddr.toNat ++ ", " ++ e.flags.debug ++ ")"

end Entry

end KernelMonitor
