import KernelMonitor.Monitor.Command

/-! # help and kerninfo

`help` lists every command of the registry with its description. `kerninfo` lists the kernel's
special symbols with their virtual and physical addresses and the image's footprint.
-/

namespace KernelMonitor

open Text

/-- The pieces `help` prints: one line `name - description` per command. -/
def helpText (r : Registry) : List String :=
  r.flatMap fun c => [c.name, " - ", c.desc, "\n"]

def symbolLine (name : String) (v : UInt32) : List String :=
  ["  "] ++ leftAligned 6 name ++ [" "] ++ hex8 v ++ [" (virt)  "] ++ hex8 (Layout.physOf v) ++
    [" (phys)\n"]

def kerninfoText (l : Layout) : List String :=
  ["Special kernel symbols:\n", "  _start                  "] ++ hex8 l.start ++ [" (phys)\n"] ++
  l.symbols.flatMap (fun s => symbolLine s.1 s.2) ++
  ["Kernel executable memory footprint: ", dec l.footprintKiB.toNat, "KB\n"]

end KernelMonitor
