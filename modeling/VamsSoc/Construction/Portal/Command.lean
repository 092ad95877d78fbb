/-
This file has the command window of the portal and the frames that it takes from the endpoint.
-/

import VamsSoc.Construction.Portal.State

namespace VamsSoc.Mgmt
open Library Abi

def canReceive (s : State) : Nat :=
  if s.reset.ackExpected then completionSize - s.command.rx.length
  else if s.command.resultExpected then
    if hasBits s.command.status commandResultPending then 0 else completionSize - s.command.rx.length
  else if hasBits s.command.status commandH2fPending then 0
  else submissionSize - s.command.rx.length

/-- The length of the next frame is inferred from what the portal waits for. -/
def expectedSize (s : State) : Nat :=
  if s.reset.ackExpected || s.command.resultExpected then completionSize else submissionSize

/-- The acknowledgment has to repeat the identity and the codes of the notice. -/
def receiveAck (s : State) (ack : Completion) : State :=
  let valid := ack.identity == (Submission.ofBytes s.command.submission).identity &&
    ack.status == statusReset && ack.errorCode == errReset
  let emptied := s.setCommand { s.command with rx := [] }
  if valid then
    finishReset (emptied.setReset { s.reset with ackCount := satInc s.reset.ackCount })
  else
    finishReset (protocolError
      (emptied.setReset { s.reset with notifyFailCount := satInc s.reset.notifyFailCount }))

def receiveResult (s : State) (bytes : List U8) : State :=
  if s.command.abortResultPending && s.command.dropAbortResult then
    s.setCommand { s.command with rx := [], abortResultPending := false, dropAbortResult := false }
  else
    s.setCommand { s.command with
      result := bytes
      rx := []
      abortResultPending := false
      status := s.command.status ||| commandResultPending
      resultCount := satInc s.command.resultCount }

def receiveSubmission (s : State) (bytes : List U8) (fetch : Nat) : State :=
  s.setCommand { s.command with
    submission := bytes
    submissionFetch := fetch
    rx := []
    status := s.command.status ||| commandH2fPending
    submitCount := satInc s.command.submitCount
    active := true }

/-- The bytes of a frame may arrive in pieces; the last piece decides what the frame was. -/
def receive (s : State) (bytes : List U8) (fetch : Nat) : State :=
  let received := s.command.rx ++ bytes
  let roomy := require s .receiveRoom (received.length ≤ expectedSize s)
  if received.length ≠ expectedSize s then roomy.setCommand { s.command with rx := received }
  else if s.reset.ackExpected then receiveAck roomy (Completion.ofBytes received)
  else if s.command.resultExpected then receiveResult roomy received
  else receiveSubmission roomy received fetch

/-- The registers of the command window; a word of a window is named by its index. -/
inductive CommandRegister where
  | status | hostSubmit | fwAck | fwComplete | hostAck | resultAck | fwAbort
  | submission (index : Nat)
  | completion (index : Nat)
  | unmapped
  deriving DecidableEq, Repr

def CommandRegister.ofOffset (offset : Nat) : CommandRegister :=
  if 0x100 ≤ offset ∧ offset < 0x100 + submissionSize then .submission ((offset - 0x100) / 4)
  else if 0x200 ≤ offset ∧ offset < 0x200 + completionSize then .completion ((offset - 0x200) / 4)
  else if offset = 0x00 then .status
  else if offset = 0x04 then .hostSubmit
  else if offset = 0x08 then .fwAck
  else if offset = 0x0c then .fwComplete
  else if offset = 0x10 then .hostAck
  else if offset = 0x1c then .resultAck
  else if offset = 0x24 then .fwAbort
  else .unmapped

/-- One word of a window is overwritten. -/
def setWord (bytes : List U8) (index : Nat) (word : U32) : List U8 :=
  bytes.take (4 * index) ++ leBytes 4 word ++ bytes.drop (4 * index + 4)

def writeSubmission (s : State) (index : Nat) (word : U32) : State :=
  if hasBits s.command.status commandH2fPending then
    s.setCommand (s.command.setBits commandH2fOverflow)
  else s.setCommand { s.command with submission := setWord s.command.submission index word }

def writeCompletion (s : State) (index : Nat) (word : U32) : State :=
  if hasBits s.command.status commandF2hPending then
    s.setCommand (s.command.setBits commandF2hOverflow)
  else s.setCommand { s.command with completion := setWord s.command.completion index word }

def hostSubmit (s : State) (value : U32) : State :=
  if value != 1 || hasBits s.command.status commandH2fPending then
    s.setCommand (s.command.setBits commandH2fOverflow)
  else
    s.setCommand { s.command with
      status := s.command.status ||| commandH2fPending
      submitCount := satInc s.command.submitCount
      active := true }

def fwAck (s : State) (value : U32) : State :=
  if value != 1 || !hasBits s.command.status commandH2fPending then protocolError s
  else s.setCommand (s.command.clearBits commandH2fPending)

/-- A sent answer ends the command, or leaves the portal waiting for the engine result of a payload. -/
def Command.answered (command : Command) : Command :=
  let cleared := command.clearBits commandF2hPending
  let status := (Completion.ofBytes command.completion).status
  let opcode := (Submission.ofBytes command.submission).opcode
  if command.resultExpected then { cleared with resultExpected := false, active := false }
  else if status = statusSuccess ∧ opMemCopy ≤ opcode ∧ opcode ≤ opVectorAdd then
    { cleared with resultExpected := true }
  else { cleared with active := false }

def fwComplete (s : State) (value : U32) : State :=
  if value != 1 || hasBits s.command.status (commandH2fPending ||| commandF2hPending) then
    s.setCommand (s.command.setBits commandF2hOverflow)
  else
    let pending := s.setCommand { s.command with
      status := s.command.status ||| commandF2hPending
      completeCount := satInc s.command.completeCount }
    if !s.link.connected then pending
    else
      let written := chrWriteAll pending .answer s.command.completionFetch s.command.completion
      if written.1 then written.2.setCommand written.2.command.answered else protocolError written.2

def resultAck (s : State) (value : U32) : State :=
  if value != 1 || !hasBits s.command.status commandResultPending then protocolError s
  else s.setCommand (s.command.clearBits commandResultPending)

def fwAbort (s : State) (value : U32) : State :=
  if value != 1 || !s.command.resultExpected || hasBits s.command.status commandResultPending then
    protocolError s
  else
    let counted := s.setCommand { s.command with
      abortCount := satInc s.command.abortCount, abortResultPending := true }
    let written := chrWriteAll counted .abort s.command.completionFetch s.command.completion
    if written.1 then written.2
    else protocolError (written.2.setCommand { written.2.command with abortResultPending := false })

def hostAck (s : State) (value : U32) : State :=
  if value != 1 || !hasBits s.command.status commandF2hPending then protocolError s
  else s.setCommand { s.command.clearBits commandF2hPending with active := false }

def writeStatus (s : State) (value : U32) : State :=
  s.setCommand (s.command.clearBits
    (value &&& (commandH2fOverflow ||| commandF2hOverflow ||| commandProtocolError)))

/-- A pending reset refuses every write. -/
def commandWrite (s : State) (register : CommandRegister) (value : U32) : State :=
  if s.reset.pending then protocolError s
  else
    match register with
    | .submission index => writeSubmission s index value
    | .completion index => writeCompletion s index value
    | .hostSubmit => hostSubmit s value
    | .fwAck => fwAck s value
    | .fwComplete => fwComplete s value
    | .resultAck => resultAck s value
    | .fwAbort => fwAbort s value
    | .hostAck => hostAck s value
    | .status => writeStatus s value
    | .unmapped => protocolError s

/-- The firmware writes a record into the completion window word by word. -/
def copyCompletion (s : State) (completion : Completion) : State :=
  (List.range (completionSize / 4)).foldl
    (fun s index => commandWrite s (.completion index) (leWord 32 completion.toBytes (4 * index))) s

end VamsSoc.Mgmt
