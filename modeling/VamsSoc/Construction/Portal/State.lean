/-
This file has the registers of the management portal and the serializer of management resets.
-/

import VamsSoc.Construction.Abi.Records
import VamsSoc.Library.Masks

namespace VamsSoc.Mgmt
open Library Abi

def commandH2fPending : U32 := 0x01
def commandF2hPending : U32 := 0x02
def commandH2fOverflow : U32 := 0x04
def commandF2hOverflow : U32 := 0x08
def commandProtocolError : U32 := 0x10
def commandResultPending : U32 := 0x20

def wdtEnable : U32 := 0x1
def resetRequestMgmt : U32 := 0x1
def resetReasonPowerOn : U32 := 0
def resetReasonFirmware : U32 := 4
def resetReasonWatchdog : U32 := 5
def controlBadWrite : U32 := 0x1

def wdtDefaultTimeoutMs : U32 := 5000
def wdtMinTimeoutMs : U32 := 100
def wdtMaxTimeoutMs : U32 := 60000
def wdtPetMagic : U32 := 0x56414d53
def resetAckTimeoutMs : Nat := 100
def nanosecondsPerMillisecond : Nat := 1000000
def managementResetTag : U64 := 0x8000000000000000

inductive Assertion where
  | ackTimeoutPending | receiveRoom
  deriving DecidableEq, Repr

/-- The three windows are kept as the bytes of their words. The fetch numbers follow the records and are not
part of the portal. -/
structure Command where
  status : U32 := 0
  submission : List U8 := List.replicate submissionSize 0
  completion : List U8 := List.replicate completionSize 0
  result : List U8 := List.replicate completionSize 0
  submitCount : U32 := 0
  completeCount : U32 := 0
  resultCount : U32 := 0
  abortCount : U32 := 0
  rx : List U8 := []
  resultExpected : Bool := false
  abortResultPending : Bool := false
  active : Bool := false
  dropAbortResult : Bool := false
  submissionFetch : Nat := 0
  completionFetch : Nat := 0
  deriving DecidableEq, Repr

/-- The notice holds the bytes that announced the last reset and is not part of the portal. -/
structure Reset where
  pending : Bool := false
  ackExpected : Bool := false
  pendingReason : U32 := resetReasonPowerOn
  lastReason : U32 := resetReasonPowerOn
  generation : U32 := 0
  notifyCount : U32 := 0
  notifyFailCount : U32 := 0
  ackCount : U32 := 0
  ackTimeoutCount : U32 := 0
  coalesceCount : U32 := 0
  ackTimer : Option Nat := none
  warmPending : Bool := false
  notice : List U8 := []
  deriving DecidableEq, Repr

structure Watchdog where
  timeoutMs : U32 := wdtDefaultTimeoutMs
  control : U32 := 0
  resetCount : U32 := 0
  timer : Option Nat := none
  deriving DecidableEq, Repr

structure Telemetry where
  heartbeat : U32 := 0
  uptimeMs : U64 := 0
  version : U32 := 0
  status : U32 := 0
  deriving DecidableEq, Repr

structure State where
  command : Command := {}
  reset : Reset := {}
  watchdog : Watchdog := {}
  telemetry : Telemetry := {}
  link : Link := {}
  clockNs : Nat := 0
  failed : List Assertion := []
  deriving DecidableEq, Repr

namespace State

@[simps] def setCommand (s : State) (command : Command) : State := { s with command }
@[simps] def setReset (s : State) (reset : Reset) : State := { s with reset }
@[simps] def setWatchdog (s : State) (watchdog : Watchdog) : State := { s with watchdog }
@[simps] def setTelemetry (s : State) (telemetry : Telemetry) : State := { s with telemetry }
@[simps] def setLink (s : State) (link : Link) : State := { s with link }

end State

def Command.setBits (command : Command) (bits : U32) : Command :=
  { command with status := command.status ||| bits }

def Command.clearBits (command : Command) (bits : U32) : Command :=
  { command with status := Library.clearBits command.status bits }

def protocolError (s : State) : State := s.setCommand (s.command.setBits commandProtocolError)

def require (s : State) (assertion : Assertion) (holds : Bool) : State :=
  if holds then s else { s with failed := assertion :: s.failed }

/-- A blocking write sends the whole frame, or fails when the bridge is absent or broken. -/
def chrWriteAll (s : State) (kind : FrameKind) (fetch : Nat) (bytes : List U8) : Bool × State :=
  if s.link.connected && s.link.writable then
    (true, s.setLink { s.link with tx := s.link.tx ++ [⟨kind, fetch, bytes⟩] })
  else (false, s)

/-- Millisecond timers expire on whole milliseconds of the virtual clock. -/
def timerAfterMs (s : State) (delayMs : Nat) : Nat :=
  (s.clockNs / nanosecondsPerMillisecond + delayMs) * nanosecondsPerMillisecond

def watchdogReload (s : State) : State :=
  if hasBits s.watchdog.control wdtEnable then
    s.setWatchdog { s.watchdog with timer := some (timerAfterMs s s.watchdog.timeoutMs.toNat) }
  else s.setWatchdog { s.watchdog with timer := none }

/-- The notice carries the identity of the active command and the tag of a management reset. -/
def resetNotice (s : State) : Completion :=
  let submission := Submission.ofBytes s.command.submission
  { commandId := submission.commandId
    status := statusReset
    errorCode := errReset
    userCookie := submission.userCookie
    deviceTimestamp := BitVec.ofNat 64 (s.clockNs / 1000) ||| managementResetTag }

def notifyReset (s : State) : Bool × State :=
  if !s.command.active then (false, s)
  else
    let notice := (resetNotice s).toBytes
    let written := chrWriteAll s .resetNotice s.command.submissionFetch notice
    if written.1 then
      (true, written.2.setReset { s.reset with notifyCount := satInc s.reset.notifyCount, notice })
    else
      (false, protocolError
        (written.2.setReset { s.reset with notifyFailCount := satInc s.reset.notifyFailCount }))

/-- The end of a reset empties the portal and leaves the counters of its traffic. -/
def Command.clear (command : Command) : Command :=
  { command with
    status := 0
    submission := List.replicate submissionSize 0
    completion := List.replicate completionSize 0
    result := List.replicate completionSize 0
    rx := []
    resultExpected := false
    abortResultPending := false
    active := false }

def Reset.finish (reset : Reset) : Reset :=
  { reset with
    ackTimer := none
    pending := false
    ackExpected := false
    pendingReason := resetReasonPowerOn
    lastReason := reset.pendingReason
    generation := reset.generation + 1
    warmPending := true }

def finishReset (s : State) : State :=
  watchdogReload (((s.setReset s.reset.finish).setCommand s.command.clear).setTelemetry
    { s.telemetry with heartbeat := 0, uptimeMs := 0, version := 0 })

def resetAckTimeout (s : State) : State :=
  let checked := require s .ackTimeoutPending (s.reset.pending && s.reset.ackExpected)
  finishReset (protocolError
    (checked.setReset { s.reset with ackTimeoutCount := satInc s.reset.ackTimeoutCount }))

/-- A request that arrives during a reset is counted, and only a watchdog changes the recorded reason. -/
def Reset.coalesce (reset : Reset) (reason : U32) : Reset :=
  { reset with
    coalesceCount := satInc reset.coalesceCount
    pendingReason := if reason = resetReasonWatchdog then reason else reset.pendingReason }

/-- The notified endpoint has a bounded time to acknowledge, and partial input is dropped. -/
def awaitAck (s : State) : State :=
  (s.setReset { s.reset with
    ackExpected := true, ackTimer := some (timerAfterMs s resetAckTimeoutMs) }).setCommand
    { s.command with rx := [] }

def managementReset (s : State) (reason : U32) : State :=
  if s.reset.pending then s.setReset (s.reset.coalesce reason)
  else
    let stopped := s.setWatchdog { s.watchdog with timer := none }
    let started := stopped.setReset { s.reset with pending := true, pendingReason := reason }
    let notified := notifyReset started
    if notified.1 then awaitAck notified.2 else finishReset notified.2

def watchdogExpired (s : State) : State :=
  managementReset (s.setWatchdog { s.watchdog with resetCount := satInc s.watchdog.resetCount })
    resetReasonWatchdog

end VamsSoc.Mgmt
