/-
This file has the calls of `vams_command_receive`, one access of the portal at a time, among the accesses of the
others.
-/

import VamsSoc.Construction.Firmware.PortalDriver

namespace VamsSoc.Firmware
open Library Abi

def commandWords : Nat := submissionSize / 4

/-- A read of the submission window; a pending reset does not refuse reads. -/
def submissionWord (portal : Mgmt.State) (index : Nat) : U32 := leWord 32 portal.command.submission (4 * index)

/-- The next access of a call is a read of the status, a read of a word, or the acknowledgment. -/
inductive Call where
  | between
  | polling
  | reading (words : List U32)
  deriving DecidableEq, Repr

/-- Two lists go along with the portal, oldest first: the window at each time that H2F_PENDING was set, and the records
that calls have returned. -/
structure Capture where
  portal : Mgmt.State
  call : Call := .between
  announced : List (List U8) := []
  returned : List (List U8) := []
  deriving DecidableEq, Repr

/-- The firmware runs on to its next access, and a poll that finds nothing may find its deadline expired. -/
inductive Access where
  | firmware (expired : Bool)
  | portal (event : Mgmt.Event)
  deriving DecidableEq, Repr

/-- The producers, the completion writes and the rest of the firmware do all but acknowledge a submission or reset the
portal. -/
def fromOthers : Mgmt.Event → Bool
  | .command .fwAck _ => false
  | .command (.submission index) _ => index < commandWords
  | event => (Mgmt.requested event).isNone

namespace Capture

def see (s : Capture) (portal : Mgmt.State) : Capture :=
  { s with
    portal
    announced :=
      if pending portal && !pending s.portal then s.announced ++ [portal.command.submission] else s.announced }

/-- The copy to the caller is made before the acknowledgment, which ends the call with success. -/
def receive (s : Capture) (expired : Bool) : Capture :=
  match s.call with
  | .between => { s with call := .polling }
  | .polling =>
      if pending s.portal then { s with call := .reading [] }
      else if expired then { s with call := .between }
      else s
  | .reading words =>
      if words.length < commandWords then
        { s with call := .reading (words ++ [submissionWord s.portal words.length]) }
      else
        { s.see (Mgmt.commandWrite s.portal .fwAck 1) with
          call := .between, returned := s.returned ++ [words.flatMap (leBytes 4)] }

def step : EventMachine Capture Access
  | s, .firmware expired => some (s.receive expired)
  | s, .portal event => if fromOthers event then (Mgmt.step s.portal event).map s.see else none

def start (link : Abi.Link) (dropAbortResult : Bool) : Capture :=
  { portal := { command := { dropAbortResult }, link } }

end Capture
end VamsSoc.Firmware
