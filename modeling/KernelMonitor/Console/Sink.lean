/-! # Console output

Output reaches the console in pieces. A write policy decides, piece by piece, whether the console
takes a piece; a refused piece leaves nothing behind. Echoed bytes always get through. A console
that holds at most `n` bytes refuses exactly the pieces that would take it past `n`.
-/

namespace KernelMonitor

/-- What a console has received. -/
structure Sink where
  out : String := ""
  offers : Nat := 0
  deriving DecidableEq, Repr

/-- Decides whether the console takes the next piece, given what it has received. -/
def WritePolicy := Sink → String → Bool

namespace WritePolicy

def unlimited : WritePolicy := fun _ _ => true

def capacity (n : Nat) : WritePolicy := fun s p => s.out.utf8ByteSize + p.utf8ByteSize ≤ n

end WritePolicy

namespace Sink

/-- Echoed text, which always gets through. -/
def echo (s : Sink) (t : String) : Sink := { s with out := s.out ++ t }

def write (p : WritePolicy) (s : Sink) (piece : String) : Sink × Bool :=
  if p s piece then ({ out := s.out ++ piece, offers := s.offers + 1 }, true)
  else ({ s with offers := s.offers + 1 }, false)

end Sink

end KernelMonitor
