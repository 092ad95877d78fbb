/-
This file joins the endpoint, the portal and the firmware by the two directions of the command bridge.
-/

import VamsSoc.Construction.Endpoint.Machine
import VamsSoc.Construction.Firmware.Machine
import VamsSoc.Library.FrameStream

namespace VamsSoc.System
open Library Abi
open Firmware (Thread threadStep uptimeLimitMs)

variable {σ : Type}

/-- An entry of `vams_pcie_schedule_engine` is recorded with the frame whose last byte caused it. -/
structure Start where
  fetch : Nat
  submission : Submission
  answer : Option Frame
  deriving DecidableEq, Repr

/-- The readers have taken a part of the first frame in each direction. -/
structure State (σ : Type) where
  endpoint : Pcie.State σ
  portal : Mgmt.State
  firmware : Firmware.State
  portalTaken : Nat := 0
  endpointTaken : Nat := 0
  starts : List Start := []

namespace State

def toPortal (s : State σ) : FrameStream Frame := ⟨s.endpoint.link.tx, s.portalTaken⟩
def toEndpoint (s : State σ) : FrameStream Frame := ⟨s.portal.link.tx, s.endpointTaken⟩

end State

/-- A finished management reset restarts the firmware before anything else happens. The source only asks for the restart, and
what the firmware still does before it comes is left out. -/
def reboot (s : State σ) : State σ :=
  if s.portal.reset.warmPending then
    { s with portal := Mgmt.warmReset s.portal, firmware := Firmware.boot s.firmware s.portal }
  else s

def isStart : Pcie.CommandEvent → Bool
  | .engineStarted _ => true
  | _ => false

def engineStarts (endpoint : Pcie.State σ) : Nat := endpoint.history.commands.countP isStart

/-- The endpoint moves, and an engine start is recorded with its cause. -/
def moveEndpoint (s : State σ) (endpoint : Pcie.State σ) (answer : Option Frame) : State σ :=
  { s with
    endpoint
    starts :=
      if engineStarts s.endpoint < engineStarts endpoint then
        ⟨s.endpoint.history.fetches, s.endpoint.bridge.submission, answer⟩ :: s.starts
      else s.starts }

/-- The portal takes as many bytes as it asks for, or fewer. -/
def deliverPortal (s : State σ) (count : Nat) : Option (State σ) :=
  let bytes := (s.toPortal.pending Frame.bytes).take count
  if 0 < count ∧ bytes.length = count ∧ count ≤ Mgmt.canReceive s.portal then
    let rest := s.toPortal.take Frame.bytes count
    let frame := FrameStream.last? Frame.bytes s.endpoint.link.tx (s.portalTaken + count)
    some (reboot { s with
      endpoint := s.endpoint.setLink { s.endpoint.link with tx := rest.frames }
      portal := Mgmt.receive s.portal bytes ((frame.map Frame.fetch).getD 0)
      portalTaken := rest.taken })
  else none

/-- The endpoint takes as many bytes as it asks for, or fewer. -/
def deliverEndpoint (host : Pcie.Host σ) (s : State σ) (count : Nat) : Option (State σ) :=
  let bytes := (s.toEndpoint.pending Frame.bytes).take count
  if 0 < count ∧ bytes.length = count then
    let rest := s.toEndpoint.take Frame.bytes count
    let frame := FrameStream.last? Frame.bytes s.portal.link.tx (s.endpointTaken + count)
    (Pcie.step host s.endpoint (.receive bytes)).map fun endpoint =>
      { moveEndpoint s endpoint frame with
        portal := s.portal.setLink { s.portal.link with tx := rest.frames }
        endpointTaken := rest.taken }
  else none

/-- The bytes of the bridge arrive only through the two deliveries. -/
inductive Event where
  | endpoint (event : Pcie.Event)
  | deliverPortal (count : Nat)
  | deliverEndpoint (count : Nat)
  | thread (thread : Thread)
  | control (register : Mgmt.ControlRegister) (value : U32)
  | ackTimer
  | watchdogTimer
  | portalTick (nowNs : Nat)
  | uptime (nowMs : Nat)
  deriving DecidableEq, Repr

def isReceive : Pcie.Event → Bool
  | .receive _ => true
  | _ => false

def step (host : Pcie.Host σ) : EventMachine (State σ) Event
  | s, .endpoint event =>
    if isReceive event then none
    else (Pcie.step host s.endpoint event).map fun endpoint => moveEndpoint s endpoint none
  | s, .deliverPortal count => deliverPortal s count
  | s, .deliverEndpoint count => deliverEndpoint host s count
  | s, .thread thread =>
    (threadStep s.firmware s.portal thread).map fun next =>
      reboot { s with firmware := next.1, portal := next.2 }
  | s, .control register value => some (reboot { s with portal := Mgmt.controlWrite s.portal register value })
  | s, .ackTimer =>
    if Mgmt.expired s.portal s.portal.reset.ackTimer then
      let fired := s.portal.setReset { s.portal.reset with ackTimer := none }
      some (reboot { s with portal := Mgmt.resetAckTimeout fired })
    else none
  | s, .watchdogTimer =>
    if Mgmt.expired s.portal s.portal.watchdog.timer then
      let fired := s.portal.setWatchdog { s.portal.watchdog with timer := none }
      some (reboot { s with portal := Mgmt.watchdogExpired fired })
    else none
  | s, .portalTick nowNs =>
    if s.portal.clockNs ≤ nowNs ∧ nowNs < Pcie.clockLimitNs then
      some { s with portal := { s.portal with clockNs := nowNs } }
    else none
  | s, .uptime nowMs =>
    if s.firmware.uptimeMs ≤ nowMs ∧ nowMs < uptimeLimitMs then
      some { s with firmware := { s.firmware with uptimeMs := nowMs } }
    else none

/-- Both devices start cold, with the bridge connected. -/
def powerOn (debugEnabled dropAbortResult : Bool) (memory : σ) : State σ where
  endpoint := Pcie.powerOn debugEnabled true memory
  portal := Mgmt.powerOn dropAbortResult true
  firmware := {}

end VamsSoc.System
