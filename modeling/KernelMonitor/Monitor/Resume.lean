import KernelMonitor.Monitor.Command

/-! # c and si

`c` resumes the trapped program with the trap flag cleared, `si` with it set, so that the
processor traps again after one instruction. Both need a trap frame and take no arguments.
-/

namespace KernelMonitor

open Text

/-- Resumes the trapped program: the frame with the trap flag set to `step`, and a record. -/
def resume (argv : List String) (tf : Option Trapframe) (what : String) (step : Bool) :
    Except MonitorError (Trapframe × Record) :=
  if argv.length ≠ 1 then .error .invalidParameterCount
  else match tf with
    | none => .error (.noTrapContext what)
    | some f =>
      let f' := f.withSingleStep step
      .ok (f', ⟨.debug, "monitor: " ++ what ++ " from eip=" ++ hexPrefixed f'.eip.toNat⟩)

end KernelMonitor
