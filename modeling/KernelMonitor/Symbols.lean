/-! # Kernel symbols

A symbol table lists the kernel's functions in increasing order of address, each with its source
file, its first line and a line table. Looking up an instruction address finds the last function
starting at or below it, by halving, and the last line entry at or below it.
-/

namespace KernelMonitor

/-- One line-table entry: code from `addr` on belongs to source line `line`. -/
structure LineEntry where
  addr : UInt32
  line : UInt32
  deriving DecidableEq, Repr

structure FnSymbol where
  name : String
  file : String
  addr : UInt32
  size : UInt32
  line : UInt32
  lines : List LineEntry := []
  deriving DecidableEq, Repr

/-- What the symbol table says about an instruction address. -/
structure EipInfo where
  file : String
  line : UInt32
  fnName : String
  fnAddr : UInt32
  deriving DecidableEq, Repr

/-- The number of leading elements of `xs` that satisfy `p`, when those that do come first.
The search keeps a window `[base, base + size)` and halves it a fixed number of times, so on a
list not split by `p` it still answers, with some boundary between a success and a failure. -/
def partitionPoint {α : Type} (p : α → Bool) (xs : List α) : Nat :=
  if xs.isEmpty then 0 else go 0 xs.length
where
  /-- Halves the window `[base, base + size)`. -/
  go (base size : Nat) : Nat :=
    if 1 < size then
      let mid := base + size / 2
      go (if (xs[mid]?.map p).getD false then mid else base) (size - size / 2)
    else
      base + (if (xs[base]?.map p).getD false then 1 else 0)
  termination_by size
  decreasing_by omega

namespace FnSymbol

def contains (f : FnSymbol) (eip : UInt32) : Bool := f.addr ≤ eip && eip - f.addr < f.size

/-- The source line of `eip`: that of the last line entry at or below it, else the
function's first line. -/
def lineOf (f : FnSymbol) (eip : UInt32) : UInt32 :=
  match partitionPoint (fun l : LineEntry => l.addr ≤ eip) f.lines with
  | 0 => f.line
  | n + 1 => (f.lines[n]?.map (·.line)).getD f.line

end FnSymbol

def addrsSorted : List FnSymbol → Bool
  | a :: b :: rest => a.addr ≤ b.addr && addrsSorted (b :: rest)
  | _ => true

/-- A symbol table: functions in increasing order of address. -/
structure SymbolTable where
  fns : List FnSymbol := []
  deriving Repr

namespace SymbolTable

def ofList? (fns : List FnSymbol) : Option SymbolTable :=
  if addrsSorted fns then some ⟨fns⟩ else none

/-- The function containing `eip` and the source line of `eip` in it. -/
def lookup? (t : SymbolTable) (eip : UInt32) : Option EipInfo :=
  match partitionPoint (fun f : FnSymbol => f.addr ≤ eip) t.fns with
  | 0 => none
  | n + 1 => do
    let f ← t.fns[n]?
    if f.contains eip then some ⟨f.file, f.lineOf eip, f.name, f.addr⟩ else none

end SymbolTable

/-- The distance of `eip` from the start of its function, wrapping. -/
def EipInfo.offset (i : EipInfo) (eip : UInt32) : UInt32 := eip - i.fnAddr

end KernelMonitor
