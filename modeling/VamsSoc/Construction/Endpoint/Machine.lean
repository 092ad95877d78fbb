/-
This file has the cold reset of the endpoint and the events that its surroundings can bring.
-/

import VamsSoc.Construction.Endpoint.Registers
import VamsSoc.Library.EventMachine

namespace VamsSoc.Pcie
open Library Abi

variable {σ : Type}

/-- Times are signed 64-bit counts of nanoseconds. -/
def timeLimitNs : Nat := 2 ^ 63

/-- The virtual clock stays so far below the limit that no deadline of a command wraps. -/
def clockLimitNs : Nat := timeLimitNs - 2 ^ 53

/-- A cold reset gives every register its default and keeps the surroundings. -/
def reset (s : State σ) : State σ :=
  checkInvariants {
    device := { debugEnabled := s.device.debugEnabled }
    bridge := { completion := s.bridge.completion }
    signals := { msix := s.signals.msix, failed := s.signals.failed }
    link := s.link
    clockNs := s.clockNs
    memory := s.memory
    history := s.history }

/-- The board has a command bridge or not, and the debug block is a property of the device. -/
def powerOn (debugEnabled connected : Bool) (memory : σ) : State σ :=
  reset { device := { debugEnabled }, link := { connected }, memory }

inductive Event where
  | write (offset : Nat) (value : U32) (size : Nat)
  | read (offset size : Nat)
  | engineTimer
  | resetTimer
  | firmwareAckTimer
  | receive (bytes : List U8)
  | closed
  | link (writable : Bool)
  | busMaster (enabled : Bool)
  | tick (nowNs : Nat)
  deriving DecidableEq, Repr

def expired (s : State σ) (timer : Option Nat) : Bool := timer.any fun expiry => expiry ≤ s.clockNs

/-- A timer fires at most once after it expires, and the bridge never brings more bytes than asked for. -/
def step (host : Host σ) : EventMachine (State σ) Event
  | s, .write offset value size => some (bar0Write host s offset value size)
  | s, .read offset size => some (bar0Read s offset size).2
  | s, .engineTimer =>
    if expired s s.engine.timer then
      some (engineComplete host (s.setEngine { s.engine with timer := none }))
    else none
  | s, .resetTimer =>
    if expired s s.device.resetTimer then
      some (resetComplete (s.setDevice { s.device with resetTimer := none }))
    else none
  | s, .firmwareAckTimer =>
    if expired s s.bridge.firmwareAckTimer then
      some (firmwareAckTimeout host (s.setBridge { s.bridge with firmwareAckTimer := none }))
    else none
  | s, .receive bytes =>
    if bytes ≠ [] ∧ bytes.length ≤ bridgeCanReceive s then some (bridgeReceive host s bytes) else none
  | s, .closed => some (bridgeClosed host s)
  | s, .link writable => some (s.setLink { s.link with writable })
  | s, .busMaster enabled => some { s with busMaster := enabled }
  | s, .tick nowNs =>
    if s.clockNs ≤ nowNs ∧ nowNs < clockLimitNs then some { s with clockNs := nowNs } else none

/-- This host memory reads as zeros and takes every write. -/
def zeroHost : Host Unit where
  read _ _ count := (some (List.replicate count 0), ())
  write _ _ _ := (true, ())
  allocate _ _ := (true, ())
  fills _ _ count bytes read := by
    obtain rfl := Option.some.inj read
    exact List.length_replicate

/-- Every bus access succeeds, and two descriptors stand in the submission ring at 0x1000. -/
def ringHost (first second : Submission) : Host Unit where
  read _ address count :=
    (some
      (if address = 0x1000 ∧ count = submissionSize then first.toBytes
      else if address = 0x1040 ∧ count = submissionSize then second.toBytes
      else List.replicate count 0), ())
  write _ _ _ := (true, ())
  allocate _ _ := (true, ())
  fills _ _ count bytes read := by
    obtain rfl := Option.some.inj read
    split_ifs with head next
    · rw [Submission.length_toBytes, head.2]
    · rw [Submission.length_toBytes, next.2]
    · exact List.length_replicate

/-- The host writes whole words to registers. -/
def Register.write (register : Register) (value : U32) : Event := .write register.offset value 4

end VamsSoc.Pcie
