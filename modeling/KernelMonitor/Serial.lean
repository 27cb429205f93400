/-! # Serial line

A 16550 UART whose status bits follow two countdowns, one per byte sent and one per byte
received, and the driver that programs it once, polls before each byte, and sends a carriage
return before each line feed.
-/

namespace KernelMonitor

inductive IoAccess where
  | read (reg : UInt16) (value : UInt8)
  | write (reg : UInt16) (value : UInt8)
  deriving DecidableEq, Repr

/-- The data register of the first serial line; the others follow it. -/
def com1 : UInt16 := 0x3F8

def lineStatusReg : UInt16 := com1 + 5

/-- A simulated UART and the register accesses made to it, oldest first. -/
structure Uart where
  rx : List UInt8
  /-- Status reads a sent byte keeps the transmitter busy for. -/
  txBusy : Nat
  /-- Status reads a received byte delays the next one for. -/
  rxDelay : Nat
  busy : Nat
  delay : Nat
  events : List IoAccess := []
  deriving DecidableEq, Repr

namespace Uart

def fresh (rx : List UInt8) (txBusy rxDelay : Nat) : Uart :=
  ⟨rx, txBusy, rxDelay, txBusy, rxDelay, []⟩

/-- Reads the line status register: bit 0x20 when the transmitter is empty, bit 0x01 when data
is ready. A read that finds a countdown running advances it. -/
def lineStatus (u : Uart) : UInt8 × Uart :=
  let (tx, busy) : UInt8 × Nat := if u.busy = 0 then (0x20, 0) else (0, u.busy - 1)
  let (ready, delay) : UInt8 × Nat :=
    if u.rx.isEmpty then (0, u.delay) else if u.delay = 0 then (0x01, 0) else (0, u.delay - 1)
  let v := tx ||| ready
  (v, { u with busy, delay, events := u.events ++ [.read lineStatusReg v] })

/-- Reads a register. The data register hands out the next received byte. -/
def inb (u : Uart) (reg : UInt16) : UInt8 × Uart :=
  if reg = lineStatusReg then u.lineStatus
  else if reg = com1 then
    let (v, rx) := match u.rx with
      | b :: r => (b, r)
      | [] => (0, [])
    (v, { u with rx, delay := u.rxDelay, events := u.events ++ [.read reg v] })
  else (0, { u with events := u.events ++ [.read reg 0] })

/-- Writes a register. A byte written to the data register restarts the transmit countdown. -/
def outb (u : Uart) (reg : UInt16) (v : UInt8) : Uart :=
  let u := { u with events := u.events ++ [.write reg v] }
  if reg = com1 then { u with busy := u.txBusy } else u

end Uart

/-- The serial driver: the UART and whether it has been programmed. -/
structure SerialLine where
  uart : Uart
  ready : Bool := false
  deriving DecidableEq, Repr

namespace SerialLine

/-- The register writes that program the UART: no interrupts, 115200 baud, 8 data bits, no
parity, one stop bit, FIFOs on, DTR, RTS and OUT2 set. -/
def setup : List (UInt16 × UInt8) :=
  [(com1 + 1, 0x00), (com1 + 3, 0x80), (com1, 0x01), (com1 + 1, 0x00),
   (com1 + 3, 0x03), (com1 + 2, 0xC7), (com1 + 4, 0x0B)]

def init (s : SerialLine) : SerialLine :=
  if s.ready then s
  else { uart := setup.foldl (fun u w => u.outb w.1 w.2) s.uart, ready := true }

/-- Polls the line status until bit `mask` is set, for at most `fuel` reads. -/
def poll (mask : UInt8) : Nat → Uart → Uart
  | 0, u => u
  | n + 1, u =>
    let (v, u') := u.lineStatus
    if v &&& mask != 0 then u' else poll mask n u'

/-- Sends one byte once the transmitter is empty, which takes at most `busy + 1` status reads. -/
def sendByte (u : Uart) (b : UInt8) : Uart := (poll 0x20 (u.busy + 1) u).outb com1 b

/-- Sends the bytes of a string, a carriage return before each line feed. -/
def writeStr (s : SerialLine) (t : String) : SerialLine :=
  let send (u : Uart) (b : UInt8) : Uart :=
    if b = 10 then sendByte (sendByte u 13) b else sendByte u b
  { s with uart := t.toUTF8.toList.foldl send s.uart }

/-- Receives one byte once data is ready, which takes at most `delay + 1` status reads while
input waits; with no input waiting, nothing is read. -/
def readByte (s : SerialLine) : Option UInt8 × SerialLine :=
  if s.uart.rx.isEmpty then (none, s)
  else
    let (b, u) := (poll 0x01 (s.uart.delay + 1) s.uart).inb com1
    (some b, { s with uart := u })

end SerialLine

end KernelMonitor
