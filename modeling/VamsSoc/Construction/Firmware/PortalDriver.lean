/-
This file has the portal driver of the firmware, and a firmware that serves one command at a time with it.
-/

import VamsSoc.Construction.Firmware.Threads
import VamsSoc.Construction.Portal.Machine

namespace VamsSoc.Firmware
open Library Abi

/-- What the bridge does to the portal before the access with this number. -/
abbrev Traffic := Nat → Mgmt.State → Mgmt.State

def noTraffic : Traffic := fun _ portal => portal

/-- The words of a record go to the completion window one by one. -/
def fillWindow (traffic : Traffic) (portal : Mgmt.State) (record : Completion) : Mgmt.State :=
  let filled := (List.range (completionSize / 4)).foldl
    (fun portal index =>
      Mgmt.commandWrite (traffic index portal) (.completion index) (leWord 32 record.toBytes (4 * index))) portal
  traffic (completionSize / 4) filled

/-- A call that is not answered has timed out or found the portal busy. -/
def commandReceive (portal : Mgmt.State) : Option (Submission × Mgmt.State) :=
  if pending portal then some (Submission.ofBytes portal.command.submission, Mgmt.commandWrite portal .fwAck 1)
  else none

def commandComplete (traffic : Traffic) (portal : Mgmt.State) (completion : Completion) : Option Mgmt.State :=
  if completionPending portal then none
  else some (Mgmt.commandWrite (fillWindow traffic portal completion) .fwComplete 1)

def commandResultReceive (portal : Mgmt.State) : Option (Completion × Mgmt.State) :=
  if resultPending portal then some (takeResult portal) else none

/-- Where the firmware is with its only command. -/
inductive Phase where
  | idle
  | waiting
  | captured
  | answering (completion : Completion)
  | running
  | aborting
  | finishing
  deriving DecidableEq, Repr

/-- The commands are numbered. The portal keeps the bytes of a result, and the origin is the command that they were sent
for. -/
structure Service where
  portal : Mgmt.State
  phase : Phase := .idle
  number : Nat := 0
  submission : Submission := {}
  authorized : Bool := false
  incoming : List U8 := []
  origin : Nat := 0
  returned : List (Nat × Nat) := []
  deriving DecidableEq, Repr

inductive ServiceEvent where
  | announce (bytes : List U8)
  | deliver (count : Nat)
  | capture
  | fill (completion : Completion)
  | ring
  | result (bytes : List U8)
  | poll
  | request (record : Completion)
  | abort
  deriving DecidableEq, Repr

namespace Service

/-- The answer of a payload that is granted makes it run. -/
def granted (s : Service) (completion : Completion) : Bool :=
  completion.status == statusSuccess && isPayloadOpcode s.submission.opcode

/-- The status check of `vams_command_complete` and its copy; the firmware answers a new command, or ends a running one
with what it likes. -/
def fill (s : Service) (completion : Completion) : Option Service :=
  if completionPending s.portal then none
  else
    let portal := Mgmt.copyCompletion s.portal completion
    match s.phase with
    | .captured => some { s with portal, phase := .answering completion }
    | .running => some { s with portal, phase := .finishing }
    | _ => none

def ring (s : Service) : Option Service :=
  let portal := Mgmt.commandWrite s.portal .fwComplete 1
  match s.phase with
  | .answering completion =>
      if s.granted completion then some { s with portal, phase := .running, authorized := true }
      else some { s with portal, phase := .idle }
  | .finishing => some { s with portal, phase := .idle }
  | _ => none

/-- A frame that the portal keeps as a result becomes the origin of what the next poll returns. -/
def result (s : Service) (bytes : List U8) : Service :=
  let portal := Mgmt.receive s.portal bytes 0
  { s with portal, origin := if resultPending portal && !resultPending s.portal then s.number else s.origin }

/-- The endpoint sends a submission after the end of the last one, and results between the authorization of a command
and the next submission. -/
def step : EventMachine Service ServiceEvent
  | s, .announce bytes =>
      if s.phase = .idle ∧ bytes.length = submissionSize then
        some { s with phase := .waiting, number := s.number + 1, authorized := false, incoming := bytes }
      else none
  | s, .deliver count =>
      if s.phase = .waiting ∧ 0 < count ∧ count ≤ s.incoming.length ∧ count ≤ Mgmt.canReceive s.portal then
        some { s with
          portal := Mgmt.receive s.portal (s.incoming.take count) s.number, incoming := s.incoming.drop count }
      else none
  | s, .capture =>
      if s.phase = .waiting then
        (commandReceive s.portal).map fun taken => { s with portal := taken.2, phase := .captured, submission := taken.1 }
      else none
  | s, .fill completion => s.fill completion
  | s, .ring => s.ring
  | s, .result bytes =>
      if s.authorized = true ∧ bytes.length = completionSize ∧ completionSize ≤ Mgmt.canReceive s.portal then
        some (s.result bytes)
      else none
  | s, .poll =>
      if s.phase = .running then
        (commandResultReceive s.portal).map fun taken =>
          { s with portal := taken.2, returned := (s.number, s.origin) :: s.returned }
      else none
  | s, .request record =>
      if s.phase = .running ∧ resultPending s.portal = false then
        some { s with portal := Mgmt.copyCompletion s.portal record, phase := .aborting }
      else none
  | s, .abort =>
      if s.phase = .aborting then some { s with portal := Mgmt.commandWrite s.portal .fwAbort 1, phase := .running }
      else none

def start (dropAbortResult : Bool) : Service := { portal := Mgmt.powerOn dropAbortResult true }

end Service
end VamsSoc.Firmware
