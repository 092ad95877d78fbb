/-
This file has the portal on its own. The firmware writes its registers and the bridge brings any bytes.
-/

import VamsSoc.Construction.Portal.Control
import VamsSoc.Library.EventMachine

namespace VamsSoc.Mgmt
open Library Abi

inductive Event where
  | control (register : ControlRegister) (value : U32)
  | command (register : CommandRegister) (value : U32)
  | receive (bytes : List U8) (fetch : Nat)
  | ackTimer
  | watchdogTimer
  | machineReset
  | link (connected writable : Bool)
  | tick (nowNs : Nat)
  deriving DecidableEq, Repr

/-- The bridge never brings more bytes than asked for, and a finished reset pulses the reset of the machine. -/
def step : EventMachine State Event
  | s, .control register value => some (controlWrite s register value)
  | s, .command register value => some (commandWrite s register value)
  | s, .receive bytes fetch =>
    if bytes ≠ [] ∧ bytes.length ≤ canReceive s then some (receive s bytes fetch) else none
  | s, .ackTimer =>
    if expired s s.reset.ackTimer then
      some (resetAckTimeout (s.setReset { s.reset with ackTimer := none }))
    else none
  | s, .watchdogTimer =>
    if expired s s.watchdog.timer then
      some (watchdogExpired (s.setWatchdog { s.watchdog with timer := none }))
    else none
  | s, .machineReset => if s.reset.warmPending then some (warmReset s) else none
  | s, .link connected writable => some (s.setLink { s.link with connected, writable })
  | s, .tick nowNs => if s.clockNs ≤ nowNs then some { s with clockNs := nowNs } else none

/-- A step that brings a request for a management reset has the reason of that request. -/
def requested : Event → Option U32
  | .control .resetRequest value => if value = resetRequestMgmt then some resetReasonFirmware else none
  | .watchdogTimer => some resetReasonWatchdog
  | _ => none

end VamsSoc.Mgmt
