import KernelMonitor.PageDirectory
import KernelMonitor.Monitor.Command
import KernelMonitor.Monitor.Parse

/-! # showmappings and modifyperm

`showmappings` prints, for each page from the start of a range up to its end, the frame it maps
to and its PRESENT, WRITABLE and USER bits. `modifyperm` sets, clears or flips the protection of
one mapping; it changes one table entry and nothing else.
-/

namespace KernelMonitor

open Text

def mappingLine (d : PageDir) (m : PhysMem) (va : UInt32) : List String :=
  match d.resolve? m va with
  | some t =>
    ["0x", hex va.toNat, "\t 0x", hex t.entry.frameAddr.toNat, "\t\t"] ++
    ([(Flags.present, "PTE_P "), (Flags.writable, "PTE_W "), (Flags.user, "PTE_U ")].filterMap
      fun b => if t.entry.flags.contains b.1 then some b.2 else none) ++ ["\n"]
  | none => ["0x", hex va.toNat, "\t Page unmapped\n"]

/-- Prints the lines for the pages at `va`, `va + 4096`, … below `stop`, ending at the top of
the address space. -/
def printMappings (d : PageDir) (m : PhysMem) (stop : Nat) (va : Nat) : Print Unit :=
  if va < stop then do
    Print.emitAll (mappingLine d m va.toUInt32)
    if va + 4096 < 4294967296 then printMappings d m stop (va + 4096)
  else pure ()
termination_by stop - va
decreasing_by omega

def mappingHeader : String := "virtual addr             frame addr        permissions\n"

/-- `showmappings start end`. -/
def showmappings (t : Target) (argv : List String) : Print Flow :=
  match argv with
  | _ :: a :: b :: _ => do
    let (start, stop) ← Print.ofExcept (parseRange a b)
    Print.emit mappingHeader
    printMappings (PageDir.ofRoot t.root) t.mem stop.toNat start.toNat
    pure .next
  | _ => throw .notEnoughArguments

def orFail {α : Type} (e : MonitorError) : Option α → Except MonitorError α
  | some a => .ok a
  | none => .error e

/-- The permission word of `modifyperm`, if there is one: the flags it names, or an error for
its first character that names none. -/
def permArg : List String → Except MonitorError Flags
  | [] => .ok Flags.empty
  | p :: _ =>
    match parsePerm p.toList with
    | .ok f => .ok f
    | .error c => .error (.invalidPermission c)

/-- `modifyperm op va [perm]`: memory with the entry mapping `va` changed, and the log
record describing the change. The arguments are checked in order: count, address, permission,
operation, then the mapping. -/
def modifyperm (t : Target) (argv : List String) : Except MonitorError (PhysMem × Record) :=
  match argv with
  | _ :: opWord :: addrWord :: rest => do
    let va ← orFail .illegalAddress (parseNonzeroHex? addrWord)
    let perm ← permArg rest
    let op ← orFail .invalidOperation (PermOp.parse? opWord)
    let d := PageDir.ofRoot t.root
    let slot ← orFail (.pageNotFound va) (d.lookup? t.mem va)
    let old : Entry := ⟨← orFail (.pageNotFound va) (t.mem.read32? slot)⟩
    if !old.present then .error (.pageNotFound va) else
    let new := old.apply op perm
    let mem ← orFail (.physOutOfRange slot) (t.mem.write32? slot new.raw)
    pure (mem, ⟨.info, "modifyperm: " ++ op.name ++ " " ++ virtDebug va ++ " " ++ perm.debug ++
      ": " ++ old.debug ++ " -> " ++ new.debug⟩)
  | _ => .error .notEnoughArguments

end KernelMonitor
