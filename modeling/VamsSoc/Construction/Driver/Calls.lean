/-
This file has the calls that user space makes on an open file.
-/

import VamsSoc.Construction.Driver.Functions

namespace VamsSoc.Driver
open Library Abi

structure InfoInput where
  size : U32
  version : U32
  reserved : U32
  deriving DecidableEq, Repr

structure NopInput where
  size : U32
  version : U32
  flags : U32
  timeoutMs : U32
  userCookie : U64
  reserved : U64
  deriving DecidableEq, Repr

structure RegisterInput where
  size : U32
  version : U32
  flags : U32
  handle : U32
  userAddress : U64
  length : U64
  reserved : U64
  deriving DecidableEq, Repr

structure UnregisterInput where
  size : U32
  version : U32
  handle : U32
  flags : U32
  reserved : U64
  deriving DecidableEq, Repr

structure SubmitInput where
  size : U32
  version : U32
  opcode : U16
  flags : U16
  sourceHandle : U32
  destinationHandle : U32
  length : U32
  timeoutMs : U32
  sourceOffset : U64
  destinationOffset : U64
  userCookie : U64
  expectedCrc : U32
  commandId : U32
  deriving DecidableEq, Repr

structure WaitInput where
  size : U32
  version : U32
  commandId : U32
  flags : U32
  timeoutMs : U32
  driverStatus : U32
  status : U16
  errorCode : U16
  bytesProcessed : U32
  resultCrc : U32
  reserved0 : U32
  userCookie : U64
  deviceTimestamp : U64
  reserved1 : U64
  deriving DecidableEq, Repr

/-- The sum of two words, or nothing when it does not fit. -/
def checkAdd (first second : U64) : Option U64 :=
  if first.toNat + second.toNat < 2 ^ 64 then some (first + second) else none

def fileOpen : Code (Option Errno) := do
  match ← call .allocFile with
  | none => return some .enomem
  | some file =>
      call (.lock .submit)
      if (← call .fields).removing then
        call (.unlock .submit)
        call (.discard (.file file))
        return some .enodev
      else
        call .getDevice
        call (.publishFile file)
        call (.unlock .submit)
        return none

def releaseRequests (file : Nat) : Nat → Nat → Code Unit
  | 0, _ => return ()
  | fuel + 1, bound => do
      match ← call (.next (.requests file) bound) with
      | none => return ()
      | some (commandId, _) =>
          match ← xaErase (.requests file) commandId with
          | none => releaseRequests file fuel (commandId.toNat + 1)
          | some request =>
              requestPut request
              releaseRequests file fuel (commandId.toNat + 1)

def releaseMappings (file : Nat) : Nat → Nat → Code Unit
  | 0, _ => return ()
  | fuel + 1, bound => do
      match ← call (.next (.mappings file) bound) with
      | none => return ()
      | some (handle, _) =>
          let mapping ← xaErase (.mappings file) handle
          mappingPut mapping
          releaseMappings file fuel (handle.toNat + 1)

def fileRelease (file : Nat) : Code Unit := do
  call (.lock (.file file))
  call (.setClosing file)
  releaseRequests file indexLimit 0
  releaseMappings file indexLimit 0
  call (.unlock (.file file))
  if ← call (.put (.file file)) then fileReleaseRefs file

def RegisterInput.valid (input : RegisterInput) : Bool :=
  input.size = 40 ∧ input.version = uapiVersion ∧ input.handle = 0 ∧ input.flags ≠ 0 ∧
    clearBits input.flags (bufferRead ||| bufferWrite) = 0 ∧ input.length ≠ 0 ∧ input.length ≤ maxTransfer ∧
    input.reserved = 0

/-- The pages are pinned and mapped, and the handle gets the only reference. -/
def registerLocked (file : Nat) (input : RegisterInput) : Code (Option Errno) := do
  if (← call (.readClosing file)) || (← call .fields).removing then return some .enodev
  else
    match ← call (.mapPages file input.userAddress input.length input.flags) with
    | .error error => return some error
    | .ok mapping =>
        match ← call (.alloc (.mappings file) mapping) with
        | .error error =>
            call (.discard (.mapping mapping))
            return some error
        | .ok handle =>
            if ← call (.copyToUser (.handle handle)) then return none
            else
              let _ ← xaErase (.mappings file) handle
              mappingPut (some mapping)
              return some .efault

def ioctlBufferRegister (file : Nat) (input : RegisterInput) : Code (Option Errno) := do
  if !(← call .copyFromUser) then return some .efault
  else if !input.valid then return some .einval
  else if checkAdd input.userAddress input.length = none then return some .efault
  else if !(← call .inspect) then return some .efault
  else
    call (.lock (.file file))
    call (.lock .submit)
    let result ← registerLocked file input
    call (.unlock .submit)
    call (.unlock (.file file))
    return result

def UnregisterInput.valid (input : UnregisterInput) : Bool :=
  input.size = 24 ∧ input.version = uapiVersion ∧ input.handle ≠ 0 ∧ input.flags = 0 ∧ input.reserved = 0

/-- Only a mapping that nothing else refers to leaves the table. -/
def unregisterLocked (file : Nat) (handle : U32) : Code (Except Errno Nat) := do
  match ← call (.load (.mappings file) handle) with
  | none => return .error .enoent
  | some mapping =>
      if (← call (.readRefs (.mapping mapping))) ≠ 1 then return .error .ebusy
      else
        let _ ← xaErase (.mappings file) handle
        return .ok mapping

def ioctlBufferUnregister (file : Nat) (input : UnregisterInput) : Code (Option Errno) := do
  if !(← call .copyFromUser) then return some .efault
  else if !input.valid then return some .einval
  else
    call (.lock (.file file))
    let result ← unregisterLocked file input.handle
    call (.unlock (.file file))
    match result with
    | .error error => return some error
    | .ok mapping =>
        mappingPut (some mapping)
        return none

/-- The checks of a lookup give the address of the range in the mapping. -/
def Mapping.range (mapping : Mapping) (offset : U64) (length required : U32) (last : U64) : Except Errno U64 :=
  if mapping.flags &&& required ≠ required then .error .eacces
  else if mapping.length < last then .error .erange
  else
    match checkAdd mapping.dmaAddr offset with
    | none => .error .eoverflow
    | some address =>
        if address = 0 ∨ checkAdd address (length.setWidth 64) = none then .error .eoverflow else .ok address

def mappingLookupLocked (file : Nat) (handle : U32) (offset : U64) (length required : U32) :
    Code (Except Errno (Nat × U64)) := do
  match checkAdd offset (length.setWidth 64) with
  | none => return .error .einval
  | some last =>
      if handle = 0 then return .error .einval
      else
        match ← call (.load (.mappings file) handle) with
        | none => return .error .enoent
        | some mapping =>
            match (← call (.readMapping mapping)).range offset length required last with
            | .error error => return .error error
            | .ok address =>
                call (.get (.mapping mapping))
                return .ok (mapping, address)

/-- What an opcode reads and writes. -/
structure Access where
  source : U32 := 0
  destination : U32 := 0
  sourceLength : U32 := 0
  deriving DecidableEq, Repr

def SubmitInput.wellFormed (input : SubmitInput) : Bool :=
  input.size = 64 ∧ input.version = uapiVersion ∧ input.commandId = 0 ∧ input.timeoutMs ≤ maxTimeoutMs ∧
    input.length.setWidth 64 ≤ maxTransfer ∧ clearBits input.flags 1 = 0 ∧
    (input.opcode = opCrc32.setWidth 16 ∨ input.flags = 0) ∧
    ((input.flags ≠ 0 ∧ input.opcode = opCrc32.setWidth 16) ∨ input.expectedCrc = 0)

/-- The switch over the opcode; an opcode that it rejects has no access. -/
def SubmitInput.access (input : SubmitInput) : Option Access :=
  if input.opcode = opNop.setWidth 16 then
    if input.sourceHandle = 0 ∧ input.destinationHandle = 0 ∧ input.sourceOffset = 0 ∧ input.destinationOffset = 0 ∧
        input.length = 0 then some {} else none
  else if input.opcode = opMemCopy.setWidth 16 then
    if input.length ≠ 0 ∧ input.sourceHandle ≠ 0 ∧ input.destinationHandle ≠ 0 then
      some { source := bufferRead, destination := bufferWrite, sourceLength := input.length } else none
  else if input.opcode = opMemFill.setWidth 16 then
    if input.length ≠ 0 ∧ input.sourceHandle ≠ 0 ∧ input.destinationHandle ≠ 0 then
      some { source := bufferRead, destination := bufferWrite, sourceLength := 1 } else none
  else if input.opcode = opCrc32.setWidth 16 then
    if input.length ≠ 0 ∧ input.sourceHandle ≠ 0 ∧ input.destinationHandle = 0 ∧ input.destinationOffset = 0 then
      some { source := bufferRead, sourceLength := input.length } else none
  else if input.opcode = opVectorAdd.setWidth 16 then
    if 4 ≤ input.length ∧ input.length &&& 3 = 0 ∧ input.sourceHandle ≠ 0 ∧ input.destinationHandle ≠ 0 then
      some { source := bufferRead, destination := bufferRead ||| bufferWrite, sourceLength := input.length } else none
  else none

/-- The ranges of a fill may overlap; the sums of the source wrap around. -/
def SubmitInput.overlaps (input : SubmitInput) (source destination : U64) : Bool :=
  source ≠ 0 ∧ destination ≠ 0 ∧ input.opcode ≠ opMemFill.setWidth 16 ∧
    source < destination + input.length.setWidth 64 ∧ destination < source + input.length.setWidth 64

def SubmitInput.descriptor (input : SubmitInput) (sourceDma destinationDma : U64) : Submission where
  version := descVersion1
  opcode := input.opcode.setWidth 8
  flags := input.flags.setWidth 8
  sourceDma := sourceDma
  destinationDma := destinationDma
  length := input.length
  timeoutMs := input.timeoutMs
  userCookie := input.userCookie
  expectedCrc := input.expectedCrc

/-- A side without an access has no mapping and the address zero. -/
def lookupSide (file : Nat) (access handle : U32) (offset : U64) (length : U32) :
    Code (Except Errno (Option Nat × U64)) := do
  if access = 0 then return .ok (none, 0)
  else
    match ← mappingLookupLocked file handle offset length access with
    | .error error => return .error error
    | .ok (mapping, address) => return .ok (some mapping, address)

/-- The request takes over the references to its mappings. A copy to user space that fails takes the request out of the
table of the file again. -/
def submitRequest (file : Nat) (input : SubmitInput) (source destination : Option Nat × U64) :
    Code (Option Errno) := do
  match ← call (.allocRequest (some file)) with
  | none =>
      mappingPut destination.1
      mappingPut source.1
      return some .enomem
  | some request =>
      call (.setMappings request source.1 destination.1)
      match ← submit request (input.descriptor source.2 destination.2) with
      | some error =>
          requestPut request
          return some error
      | none =>
          let commandId := (← call (.readRequest request)).commandId
          if ← call (.copyToUser (.commandId commandId)) then return none
          else
            let _ ← xaErase (.requests file) commandId
            if ← call (.completionDone request) then call (.decCompleted file)
            requestPut request
            return some .efault

def submitIoctlLocked (file : Nat) (input : SubmitInput) (access : Access) : Code (Option Errno) := do
  if ← call (.readClosing file) then return some .enodev
  else
    match ← lookupSide file access.source input.sourceHandle input.sourceOffset access.sourceLength with
    | .error error => return some error
    | .ok source =>
        match ← lookupSide file access.destination input.destinationHandle input.destinationOffset input.length with
        | .error error =>
            mappingPut source.1
            return some error
        | .ok destination =>
            if input.overlaps source.2 destination.2 then
              mappingPut destination.1
              mappingPut source.1
              return some .einval
            else submitRequest file input source destination

def ioctlSubmit (file : Nat) (input : SubmitInput) : Code (Option Errno) := do
  if !(← call .copyFromUser) then return some .efault
  else if !input.wellFormed then return some .einval
  else
    match input.access with
    | none => return some .einval
    | some access =>
        call (.lock (.file file))
        let result ← submitIoctlLocked file input access
        call (.unlock (.file file))
        return result

def WaitInput.valid (input : WaitInput) : Bool :=
  input.size = 64 ∧ input.version = uapiVersion ∧ input.commandId ≠ 0 ∧ input.flags = 0 ∧
    input.timeoutMs ≤ maxTimeoutMs ∧ input.driverStatus = 0 ∧ input.status = 0 ∧ input.errorCode = 0 ∧
    input.bytesProcessed = 0 ∧ input.resultCrc = 0 ∧ input.reserved0 = 0 ∧ input.userCookie = 0 ∧
    input.deviceTimestamp = 0 ∧ input.reserved1 = 0

def Request.waitOutput (request : Request) : WaitOutput where
  driverStatus := request.driverStatus
  status := request.result.status
  errorCode := request.result.errorCode
  bytesProcessed := request.result.bytesProcessed
  resultCrc := request.result.resultCrc
  userCookie := request.result.userCookie
  deviceTimestamp := request.result.deviceTimestamp

def findRequest (file : Nat) (commandId : U32) : Code (Option Nat) := do
  call (.lock (.file file))
  let found ← call (.load (.requests file) commandId)
  if let some request := found then call (.get (.request request))
  call (.unlock (.file file))
  return found

/-- A wait without a timeout only looks at the completion. -/
def awaitRequest (request : Nat) (timeoutMs : U32) : Code (Option Errno) := do
  if timeoutMs = 0 then
    if ← call (.completionDone request) then return none else return some .eagain
  else call (.waitForCompletion request)

/-- The waiter that still finds its request in the table takes it out. -/
def reapRequest (file : Nat) (commandId : U32) (request : Nat) (output : WaitOutput) : Code (Option Errno) := do
  if (← call (.load (.requests file) commandId)) ≠ some request then return some .ealready
  else if !(← call (.copyToUser (.wait output))) then return some .efault
  else
    let _ ← xaErase (.requests file) commandId
    call (.decCompleted file)
    requestPut request
    return none

def waitRequest (file : Nat) (commandId timeoutMs : U32) (request : Nat) : Code (Option Errno) := do
  match ← awaitRequest request timeoutMs with
  | some error => return some error
  | none =>
      let output := (← call (.readRequest request)).waitOutput
      call (.lock (.file file))
      let result ← reapRequest file commandId request output
      call (.unlock (.file file))
      return result

def ioctlWait (file : Nat) (input : WaitInput) : Code (Option Errno) := do
  if !(← call .copyFromUser) then return some .efault
  else if !input.valid then return some .einval
  else
    match ← findRequest file input.commandId with
    | none => return some .enoent
    | some request =>
        let result ← waitRequest file input.commandId input.timeoutMs request
        requestPut request
        call (.answerWait request result)
        return result

def InfoInput.valid (input : InfoInput) : Bool :=
  input.size = 32 ∧ input.version = uapiVersion ∧ input.reserved = 0

def Fields.info (fields : Fields) : InfoOutput where
  hwIfVersion := fields.hwIfVersion
  fwVersion := fields.fwVersion
  capabilities := fields.capabilities &&& capKnown
  queueDepth := if fields.queuesReady then Driver.queueDepth else 0
  resetGeneration := fields.resetGeneration

/-- The fields that the lock does not protect are read one after the other. -/
def ioctlInfo (input : InfoInput) : Code (Option Errno) := do
  if !(← call .copyFromUser) then return some .efault
  else if !input.valid then return some .einval
  else
    call (.lock .submit)
    let fields ← call .fields
    if fields.removing then
      call (.unlock .submit)
      return some .enodev
    else
      let resetGeneration := (← call .fields).resetGeneration
      call (.unlock .submit)
      if ← call (.copyToUser (.info { fields.info with resetGeneration })) then return none
      else return some .efault

def NopInput.valid (input : NopInput) : Bool :=
  input.size = 56 ∧ input.version = uapiVersion ∧ input.flags = 0 ∧ input.reserved = 0 ∧
    input.timeoutMs ≤ maxTimeoutMs

def Request.nopOutput (request : Request) : NopOutput where
  commandId := request.commandId
  status := request.result.status
  errorCode := request.result.errorCode
  bytesProcessed := request.result.bytesProcessed
  resultCrc := request.result.resultCrc
  deviceTimestamp := request.result.deviceTimestamp

def runNop (request : Nat) (input : NopInput) : Code (Option Errno) := do
  match ← submitNop request input.userCookie input.timeoutMs with
  | some error => return some error
  | none =>
      match ← call (.waitForCompletion request) with
      | some error => return some error
      | none =>
          let record ← call (.readRequest request)
          if record.driverStatus ≠ none then return record.driverStatus
          else if ← call (.copyToUser (.nop record.nopOutput)) then return none
          else return some .efault

def ioctlNop (input : NopInput) : Code (Option Errno) := do
  if !(← call .copyFromUser) then return some .efault
  else if !input.valid then return some .einval
  else
    match ← call (.allocRequest none) with
    | none => return some .enomem
    | some request =>
        let result ← runNop request input
        requestPut request
        return result

structure PollMask where
  readable : Bool := false
  writable : Bool := false
  error : Bool := false
  hangup : Bool := false
  deriving DecidableEq, Repr

/-- A file is readable when `completed_requests` is positive, whatever else the mask says. -/
def poll (file : Nat) : Code PollMask := do
  let readable : Bool := 0 < (← call (.readCompleted file))
  if (← call (.readClosing file)) || (← call .fields).removing then
    return { readable, error := true, hangup := true }
  else if !(← call .fields).queuesReady then return { readable, error := true }
  else
    let sqHead ← call (.readl .sqHead)
    let nextTail := ((← call .fields).sqTail + 1) &&& (queueDepth - 1)
    return { readable, writable := sqHead < queueDepth ∧ nextTail ≠ sqHead }

/-- The calls that user space can make on an open file. -/
inductive Call where
  | info (input : InfoInput)
  | nop (input : NopInput)
  | register (input : RegisterInput)
  | unregister (input : UnregisterInput)
  | submit (input : SubmitInput)
  | wait (input : WaitInput)
  | poll
  deriving DecidableEq, Repr

def Call.code (file : Nat) : Call → Code Unit
  | .info input => do let _ ← ioctlInfo input
  | .nop input => do let _ ← ioctlNop input
  | .register input => do let _ ← ioctlBufferRegister file input
  | .unregister input => do let _ ← ioctlBufferUnregister file input
  | .submit input => do let _ ← ioctlSubmit file input
  | .wait input => do let _ ← ioctlWait file input
  | .poll => do let _ ← Driver.poll file

def Call.task : Call → Task
  | .nop _ | .submit _ => .submission
  | .info _ | .register _ | .unregister _ | .wait _ | .poll => .file

end VamsSoc.Driver
