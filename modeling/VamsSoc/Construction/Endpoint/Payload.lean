/-
This file has the endpoint's own descriptor check and the payload operations of the engine.
-/

import VamsSoc.Construction.Endpoint.Primitives

namespace VamsSoc.Pcie
open Library Abi

variable {σ : Type}

def rangeOverflows (address : U64) (length : U32) : Bool :=
  BitVec.allOnes 64 - (length.setWidth 64 - 1) < address

def rangesOverlap (first second : U64) (length : U32) : Bool :=
  let firstEnd := first + length.setWidth 64 - 1
  let secondEnd := second + length.setWidth 64 - 1
  first ≤ secondEnd && second ≤ firstEnd

/-- Each payload operation has its own length and address rules, in the order the source checks them. -/
def validateRanges (submission : Submission) : U16 :=
  let length := submission.length
  let source := submission.sourceDma
  let destination := submission.destinationDma
  if submission.opcode = opNop then
    if length ≠ 0 then errInvalidLength
    else if source ≠ 0 ∨ destination ≠ 0 then errInvalidAddress
    else errNone
  else if submission.opcode = opMemCopy then
    if length = 0 ∨ maxTransfer < length then errInvalidLength
    else if rangeOverflows source length ∨ rangeOverflows destination length then errAddressOverflow
    else if source = 0 ∨ destination = 0 ∨ rangesOverlap source destination length then
      errInvalidAddress
    else errNone
  else if submission.opcode = opMemFill then
    if length = 0 ∨ maxTransfer < length then errInvalidLength
    else if rangeOverflows destination length then errAddressOverflow
    else if source = 0 ∨ destination = 0 then errInvalidAddress
    else errNone
  else if submission.opcode = opCrc32 then
    if length = 0 ∨ maxTransfer < length then errInvalidLength
    else if rangeOverflows source length then errAddressOverflow
    else if source = 0 ∨ destination ≠ 0 then errInvalidAddress
    else errNone
  else if submission.opcode = opVectorAdd then
    if length < 4 ∨ maxTransfer < length ∨ length &&& 3 ≠ 0 then errInvalidLength
    else if source = 0 ∨ destination = 0 then errInvalidAddress
    else if (source ||| destination) &&& 3 ≠ 0 then errInvalidAlignment
    else if rangeOverflows source length ∨ rangeOverflows destination length then errAddressOverflow
    else if rangesOverlap source destination length then errInvalidAddress
    else errNone
  else errNone

def validateCommand (submission : Submission) : U16 :=
  let opcode := submission.opcode
  if submission.version ≠ descVersion1 then errUnsupportedVersion
  else if opcode ≠ opNop ∧ opcode ≠ opMemCopy ∧ opcode ≠ opMemFill ∧ opcode ≠ opCrc32 ∧
      opcode ≠ opVectorAdd then errInvalidOpcode
  else if (opcode = opCrc32 ∧ clearBits submission.flags subFVerifyCrc ≠ 0) ∨
      (opcode ≠ opCrc32 ∧ submission.flags ≠ 0) then errInvalidFlags
  else if (opcode ≠ opCrc32 ∨ ¬hasBits submission.flags subFVerifyCrc) ∧
      submission.expectedCrc ≠ 0 then errReservedNonzero
  else if submission.reserved0 ≠ 0 ∨ submission.reserved1 ≠ 0 ∨ submission.reserved2 ≠ 0 then
    errReservedNonzero
  else if 60000 < submission.timeoutMs then errInvalidTimeout
  else validateRanges submission

def isPayloadOpcode (opcode : U8) : Bool :=
  opcode == opMemCopy || opcode == opMemFill || opcode == opCrc32 || opcode == opVectorAdd

def completeDmaError (completion : Completion) (error : U16) : Completion :=
  { completion with status := statusFailed, errorCode := error, bytesProcessed := 0, resultCrc := 0 }

/-- One byte goes through the reflected CRC-32 register bit by bit. -/
def crc32Byte (crc : U32) (byte : U8) : U32 :=
  (List.range 8).foldl
    (fun crc _ => (crc >>> 1) ^^^ (0xedb88320 &&& (0 - (crc &&& 1)))) (crc ^^^ byte.setWidth 32)

def crc32Update (crc : U32) (buffer : List U8) : U32 := buffer.foldl crc32Byte crc

/-- The destination words of a chunk become the little-endian sums. -/
def addWords (source destination : List U8) (chunkSize : Nat) : List U8 :=
  (List.range (chunkSize / 4)).flatMap fun index =>
    leBytes 4 (leWord 32 source (4 * index) + leWord 32 destination (4 * index))

/-- An injected fault or a failed transfer ends the payload with its error. -/
def payloadRead (host : Host σ) (s : State σ) (address : U64) (count : Nat) :
    Except U16 (List U8) × State σ :=
  let fault := faultTrigger s faultDmaRead
  if fault.1 then (.error errDmaRead, fault.2)
  else
    let read := dmaRead host fault.2 address count
    match read.1 with
    | none => (.error errDmaRead, read.2)
    | some bytes => (.ok bytes, read.2)

def payloadWrite (host : Host σ) (s : State σ) (address : U64) (bytes : List U8) :
    Except U16 Unit × State σ :=
  let fault := faultTrigger s faultDmaWrite
  if fault.1 then (.error errDmaWrite, fault.2)
  else
    let write := dmaWrite host fault.2 address bytes
    if write.1 then (.ok (), write.2) else (.error errDmaWrite, write.2)

/-- This is one pass of the chunk loop; a CRC command returns its register. -/
def payloadChunk (host : Host σ) (submission : Submission) (fill : U8) (s : State σ)
    (offset chunkSize : Nat) (crc : U32) : Except U16 U32 × State σ :=
  let source := submission.sourceDma + BitVec.ofNat 64 offset
  let destination := submission.destinationDma + BitVec.ofNat 64 offset
  let store (s : State σ) (bytes : List U8) : Except U16 U32 × State σ :=
    let write := payloadWrite host s destination bytes
    (write.1.map fun _ => crc, write.2)
  if submission.opcode = opMemFill then store s (List.replicate chunkSize fill)
  else
    let read := payloadRead host s source chunkSize
    match read.1 with
    | .error error => (.error error, read.2)
    | .ok buffer =>
      if submission.opcode = opCrc32 then (.ok (crc32Update crc buffer), read.2)
      else if submission.opcode = opVectorAdd then
        let target := payloadRead host read.2 destination chunkSize
        match target.1 with
        | .error error => (.error error, target.2)
        | .ok words => store target.2 (addWords buffer words chunkSize)
      else store read.2 buffer

/-- The loop covers the length in chunks; its fuel is the number of chunks. -/
def payloadLoop (host : Host σ) (submission : Submission) (fill : U8) :
    Nat → State σ → Nat → U32 → Except U16 U32 × State σ
  | 0, s, _, crc => (.ok crc, s)
  | fuel + 1, s, offset, crc =>
    let length := submission.length.toNat
    if offset < length then
      let chunkSize := min (length - offset) dmaChunkSize
      let chunk := payloadChunk host submission fill s offset chunkSize crc
      match chunk.1 with
      | .error error => (.error error, chunk.2)
      | .ok crc => payloadLoop host submission fill fuel chunk.2 (offset + chunkSize) crc
    else (.ok crc, s)

/-- The fill byte is read once, and only a vector addition needs a second buffer. -/
def payloadPrepare (host : Host σ) (submission : Submission) (s : State σ) : Except U16 U8 × State σ :=
  if submission.opcode = opMemFill then
    let read := payloadRead host s submission.sourceDma 1
    (read.1.map fun bytes => bytes.headD 0, read.2)
  else if submission.opcode = opVectorAdd then
    let second := tryMalloc host s (min submission.length.toNat dmaChunkSize)
    if second.1 then (.ok 0, second.2) else (.error errEngine, second.2)
  else (.ok 0, s)

def payloadTransfer (host : Host σ) (submission : Submission) (s : State σ) : Except U16 U32 × State σ :=
  let prepared := payloadPrepare host submission s
  match prepared.1 with
  | .error error => (.error error, prepared.2)
  | .ok fill =>
    payloadLoop host submission fill (submission.length.toNat / dmaChunkSize + 1) prepared.2 0
      (BitVec.allOnes 32)

def payloadSuccess (submission : Submission) (completion : Completion) (crc : U32) : Completion :=
  if submission.opcode = opCrc32 then
    if hasBits submission.flags subFVerifyCrc && ~~~crc != submission.expectedCrc then
      { completion with
        resultCrc := ~~~crc, status := statusFailed, errorCode := errCrcMismatch, bytesProcessed := 0 }
    else { completion with resultCrc := ~~~crc, bytesProcessed := submission.length }
  else { completion with bytesProcessed := submission.length }

def executePayload (host : Host σ) (s : State σ) (submission : Submission) (completion : Completion) :
    Completion × State σ :=
  if completion.status ≠ statusSuccess ∨ ¬isPayloadOpcode submission.opcode then (completion, s)
  else if validateCommand submission ≠ errNone then (completeDmaError completion errEngine, s)
  else
    let buffer := tryMalloc host s (min submission.length.toNat dmaChunkSize)
    if !buffer.1 then (completeDmaError completion errEngine, buffer.2)
    else
      let transfer := payloadTransfer host submission buffer.2
      match transfer.1 with
      | .error error => (completeDmaError completion error, transfer.2)
      | .ok crc => (payloadSuccess submission completion crc, transfer.2)

end VamsSoc.Pcie
