/-
This file has the command check of the firmware and the life of a command object.
-/

import VamsSoc.Construction.Abi.Records
import VamsSoc.Library.Masks

namespace VamsSoc.Firmware
open Library Abi

def maxTimeoutMs : U32 := 60000
def maxTransferSize : U32 := 0x01000000
def defaultTimeoutMs : U32 := 30000

def rangeOverflows (address : U64) (length : U32) : Bool :=
  BitVec.allOnes 64 - (length.setWidth 64 - 1) < address

def rangesOverlap (first second : U64) (length : U32) : Bool :=
  let firstEnd := first + length.setWidth 64 - 1
  let secondEnd := second + length.setWidth 64 - 1
  first ≤ secondEnd && second ≤ firstEnd

/-- The first check that a descriptor fails gives its error; the source returns from there. -/
def validateCommand (submission : Submission) : U16 :=
  let opcode := submission.opcode
  let length := submission.length
  let source := submission.sourceDma
  let destination := submission.destinationDma
  if submission.version ≠ descVersion1 then errUnsupportedVersion
  else if opcode ≠ opNop ∧ opcode ≠ opMemCopy ∧ opcode ≠ opMemFill ∧ opcode ≠ opCrc32 ∧
      opcode ≠ opVectorAdd then errInvalidOpcode
  else if (opcode = opCrc32 ∧ clearBits submission.flags subFVerifyCrc ≠ 0) ∨
      (opcode ≠ opCrc32 ∧ submission.flags ≠ 0) then errInvalidFlags
  else if (opcode ≠ opCrc32 ∨ submission.flags &&& subFVerifyCrc = 0) ∧ submission.expectedCrc ≠ 0 then
    errReservedNonzero
  else if submission.reserved0 ≠ 0 ∨ submission.reserved1 ≠ 0 ∨ submission.reserved2 ≠ 0 then
    errReservedNonzero
  else if maxTimeoutMs < submission.timeoutMs then errInvalidTimeout
  else if opcode = opNop ∧ length ≠ 0 then errInvalidLength
  else if opcode = opNop ∧ (source ≠ 0 ∨ destination ≠ 0) then errInvalidAddress
  else if opcode = opMemCopy ∧ (length = 0 ∨ maxTransferSize < length) then errInvalidLength
  else if opcode = opMemCopy ∧ (rangeOverflows source length ∨ rangeOverflows destination length) then
    errAddressOverflow
  else if opcode = opMemCopy ∧ (source = 0 ∨ destination = 0 ∨ rangesOverlap source destination length) then
    errInvalidAddress
  else if opcode = opMemFill ∧ (length = 0 ∨ maxTransferSize < length) then errInvalidLength
  else if opcode = opMemFill ∧ rangeOverflows destination length then errAddressOverflow
  else if opcode = opMemFill ∧ (source = 0 ∨ destination = 0) then errInvalidAddress
  else if opcode = opCrc32 ∧ (length = 0 ∨ maxTransferSize < length) then errInvalidLength
  else if opcode = opCrc32 ∧ rangeOverflows source length then errAddressOverflow
  else if opcode = opCrc32 ∧ (source = 0 ∨ destination ≠ 0) then errInvalidAddress
  else if opcode = opVectorAdd ∧ (length < 4 ∨ maxTransferSize < length ∨ length &&& 3 ≠ 0) then
    errInvalidLength
  else if opcode = opVectorAdd ∧ (source = 0 ∨ destination = 0) then errInvalidAddress
  else if opcode = opVectorAdd ∧ (source ||| destination) &&& 3 ≠ 0 then errInvalidAlignment
  else if opcode = opVectorAdd ∧ (rangeOverflows source length ∨ rangeOverflows destination length) then
    errAddressOverflow
  else if opcode = opVectorAdd ∧ rangesOverlap source destination length then errInvalidAddress
  else errNone

/-- The uptime of the firmware is a signed 64-bit count of milliseconds. -/
abbrev Uptime := Nat

def timestamp (uptime : Uptime) : U64 := BitVec.ofNat 64 uptime

def commandExecute (submission : Submission) (now : Uptime) : Completion :=
  let error := validateCommand submission
  { commandId := submission.commandId
    status := if error = errNone then statusSuccess else statusInvalid
    errorCode := error
    userCookie := submission.userCookie
    deviceTimestamp := timestamp now }

def isPayloadOpcode (opcode : U8) : Bool :=
  opcode == opMemCopy || opcode == opMemFill || opcode == opCrc32 || opcode == opVectorAdd

inductive CommandState where
  | free | submitted | validating | queued | running | aborting | completed | completedError | cancelled
  deriving DecidableEq, Repr

/-- The fetch number follows the submission and is not part of the firmware. -/
structure CommandObject where
  submission : Submission := {}
  completion : Completion := {}
  capturedAtMs : Nat := 0
  deadlineMs : Nat := 0
  generation : U32 := 0
  sequence : U32 := 0
  state : CommandState := .free
  publicationCount : Nat := 0
  fetch : Nat := 0
  deriving DecidableEq, Repr

namespace CommandObject

/-- A transition has to start where the caller expects it. -/
def transition (command : CommandObject) (expected next : CommandState) : Bool × CommandObject :=
  (command.state == expected, { command with state := next })

def capture (command : CommandObject) (generation sequence : U32) (now : Uptime) : Bool × CommandObject :=
  let timeoutMs := if command.submission.timeoutMs = 0 then defaultTimeoutMs else command.submission.timeoutMs
  { command with
    generation, sequence, capturedAtMs := now, deadlineMs := now + timeoutMs.toNat
    publicationCount := 0 }.transition .free .submitted

def deadlineExpired (command : CommandObject) (now : Uptime) : Bool := command.deadlineMs ≤ now

/-- An earlier deadline comes first, and the earlier capture breaks a tie. -/
def precedes (first second : CommandObject) : Bool :=
  first.deadlineMs < second.deadlineMs ||
    (first.deadlineMs == second.deadlineMs && first.sequence < second.sequence)

/-- The firmware overwrites the outcome of a completion and keeps its identity. -/
def settle (command : CommandObject) (status errorCode : U16) (now : Uptime) : CommandObject :=
  { command with
    completion := { command.completion with
      status, errorCode, bytesProcessed := 0, resultCrc := 0, deviceTimestamp := timestamp now } }

def timeout (command : CommandObject) (now : Uptime) : Bool × CommandObject :=
  (command.settle statusTimedOut errTimeout now).transition .aborting .completedError

def cancel (command : CommandObject) (now : Uptime) : Bool × CommandObject :=
  (command.settle statusReset errReset now).transition .queued .cancelled

def beginAbort (command : CommandObject) (now : Uptime) : Bool × CommandObject :=
  (command.settle statusTimedOut errTimeout now).transition .running .aborting

def runs (command : CommandObject) : Bool := command.state == .running || command.state == .aborting

def escalate (command : CommandObject) (now : Uptime) : Bool × CommandObject :=
  (command.runs, { command.settle statusFailed errEngine now with state := .completedError })

/-- A result of another command is refused. -/
def applyResult (command : CommandObject) (result : Completion) : Option CommandObject :=
  if result.identity ≠ command.submission.identity then none
  else
    some { command with
      completion := result
      state := if result.status = statusSuccess then .completed else .completedError }

def terminal (command : CommandObject) : Bool :=
  command.state == .completed || command.state == .completedError || command.state == .cancelled

def markPublished (command : CommandObject) : Bool × CommandObject :=
  (command.terminal && command.publicationCount == 0, { command with publicationCount := 1 })

end CommandObject
end VamsSoc.Firmware
