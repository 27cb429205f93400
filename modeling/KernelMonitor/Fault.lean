/-! # Faults

A fault stops the whole program: a word operation whose exact result is not a 32-bit word, or a
value that had to be there and was not. Operations that can fault return `Except Fault`. The
exact word operations here fault precisely when the result leaves `0 … 2 ^ 32 - 1`, and
otherwise agree with the wrapping ones.
-/

namespace KernelMonitor

/-- Why the program stopped. -/
inductive Fault where
  | addOverflow
  | subOverflow
  | mulOverflow
  | remByZero
  | indexOutOfBounds (len index : Nat)
  /-- Something that had to succeed did not; the text says what. -/
  | unmet (what : String)
  deriving DecidableEq, Repr

namespace Fault

def message : Fault → String
  | .addOverflow => "attempt to add with overflow"
  | .subOverflow => "attempt to subtract with overflow"
  | .mulOverflow => "attempt to multiply with overflow"
  | .remByZero => "attempt to calculate the remainder with a divisor of zero"
  | .indexOutOfBounds len index =>
    "index out of bounds: the len is " ++ toString len ++ " but the index is " ++ toString index
  | .unmet what => what

/-- The value of an option that must hold one; an empty option faults with the text `what`. -/
def require {α : Type} (what : String) : Option α → Except Fault α
  | some a => .ok a
  | none => .error (.unmet what)

end Fault

/-- The sum of two words; a sum past `2 ^ 32 - 1` faults. -/
def addExact (a b : UInt32) : Except Fault UInt32 :=
  if a.toNat + b.toNat < 4294967296 then .ok (a + b) else .error .addOverflow

def subExact (a b : UInt32) : Except Fault UInt32 :=
  if b ≤ a then .ok (a - b) else .error .subOverflow

def mulExact (a b : UInt32) : Except Fault UInt32 :=
  if a.toNat * b.toNat < 4294967296 then .ok (a * b) else .error .mulOverflow

def remExact (a b : UInt32) : Except Fault UInt32 :=
  if b = 0 then .error .remByZero else .ok (a % b)

/-- A count of queued items less `n` taken from it; taking more than are queued faults. -/
def natSubExact (count n : Nat) : Except Fault Nat :=
  if n ≤ count then .ok (count - n) else .error .subOverflow

theorem addExact_eq_ok {a b : UInt32} (h : a.toNat + b.toNat < 4294967296) :
    addExact a b = .ok (a + b) := by
  rw [addExact, if_pos h]

theorem mulExact_eq_ok {a b : UInt32} (h : a.toNat * b.toNat < 4294967296) :
    mulExact a b = .ok (a * b) := by
  rw [mulExact, if_pos h]

theorem toNat_of_addExact_eq_ok {a b c : UInt32} (h : addExact a b = .ok c) :
    c.toNat = a.toNat + b.toNat := by
  unfold addExact at h
  split at h
  · rename_i hlt
    cases h
    rw [UInt32.toNat_add]
    exact Nat.mod_eq_of_lt hlt
  · cases h

end KernelMonitor
