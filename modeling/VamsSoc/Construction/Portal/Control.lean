/-
This file has the control registers of the portal, its timers, and its cold reset.
-/

import VamsSoc.Construction.Portal.Command

namespace VamsSoc.Mgmt
open Library Abi

inductive ControlRegister where
  | wdtTimeoutMs | wdtControl | wdtPet | resetRequest
  | fwHeartbeat | fwUptimeLo | fwUptimeHi | fwVersion | status | retention | unmapped
  deriving DecidableEq, Repr

def ControlRegister.ofOffset (offset : Nat) : ControlRegister :=
  if 0x100 ≤ offset ∧ offset < 0x180 then .retention
  else if offset = 0x00 then .wdtTimeoutMs
  else if offset = 0x04 then .wdtControl
  else if offset = 0x08 then .wdtPet
  else if offset = 0x0c then .resetRequest
  else if offset = 0x18 then .fwHeartbeat
  else if offset = 0x1c then .fwUptimeLo
  else if offset = 0x20 then .fwUptimeHi
  else if offset = 0x24 then .fwVersion
  else if offset = 0x34 then .status
  else .unmapped

def badWrite (s : State) : State :=
  s.setTelemetry { s.telemetry with status := s.telemetry.status ||| controlBadWrite }

def writeWdtTimeoutMs (s : State) (value : U32) : State :=
  if hasBits s.watchdog.control wdtEnable || value < wdtMinTimeoutMs || wdtMaxTimeoutMs < value then
    badWrite s
  else s.setWatchdog { s.watchdog with timeoutMs := value }

def writeWdtControl (s : State) (value : U32) : State :=
  if Library.clearBits value wdtEnable ≠ 0 then badWrite s
  else watchdogReload (s.setWatchdog { s.watchdog with control := value })

def writeWdtPet (s : State) (value : U32) : State :=
  if value != wdtPetMagic || !hasBits s.watchdog.control wdtEnable then badWrite s else watchdogReload s

def writeResetRequest (s : State) (value : U32) : State :=
  if value ≠ resetRequestMgmt then badWrite s else managementReset s resetReasonFirmware

/-- The retention words keep their values and are read by nothing here. -/
def controlWrite (s : State) (register : ControlRegister) (value : U32) : State :=
  match register with
  | .wdtTimeoutMs => writeWdtTimeoutMs s value
  | .wdtControl => writeWdtControl s value
  | .wdtPet => writeWdtPet s value
  | .resetRequest => writeResetRequest s value
  | .fwHeartbeat => s.setTelemetry { s.telemetry with heartbeat := value }
  | .fwUptimeLo =>
    s.setTelemetry { s.telemetry with
      uptimeMs := (s.telemetry.uptimeMs &&& 0xffffffff00000000) ||| value.setWidth 64 }
  | .fwUptimeHi =>
    s.setTelemetry { s.telemetry with
      uptimeMs := (value.setWidth 64 <<< 32) ||| (s.telemetry.uptimeMs &&& 0xffffffff) }
  | .fwVersion => s.setTelemetry { s.telemetry with version := value }
  | .status =>
    s.setTelemetry { s.telemetry with status := Library.clearBits s.telemetry.status value }
  | .retention => s
  | .unmapped => badWrite s

/-- A timer of the portal fires at most once after it expires. -/
def expired (s : State) (timer : Option Nat) : Bool := timer.any fun expiry => expiry ≤ s.clockNs

/-- The machine reset that a finished management reset pulses restarts the watchdog. -/
def warmReset (s : State) : State := watchdogReload (s.setReset { s.reset with warmPending := false })

/-- A cold portal starts with the property that drops the first result of an abort, or without it. -/
def powerOn (dropAbortResult connected : Bool) : State :=
  { command := { dropAbortResult }, link := { connected } }

end VamsSoc.Mgmt
