/-
This file has the functions of the driver as programs over shared memory.
-/

import VamsSoc.Construction.Driver.Operations

namespace VamsSoc.Driver
open Library Abi

abbrev Code := Program Op Reply

def call (op : Op) : Code (Reply op) := Program.call op

def uapiVersion : U32 := 1
def maxTransfer : U64 := 16 * 1024 * 1024
def maxTimeoutMs : U32 := 60000
def resetReasonHostDevice : U32 := 1
def resetReasonHostQueue : U32 := 2
def intrAsync : U32 := Pcie.intrError ||| Pcie.intrFwEvent ||| Pcie.intrResetDone
def intrAll : U32 := Pcie.intrCq ||| intrAsync
def capDma : U32 := 0x01
def capMsix : U32 := 0x02
def capCqWatermark : U32 := 0x80
def capKnown : U32 := 0xff
def statusFatal : U32 := 0x20
def cqWatermarkHigh : U32 := 12
def cqWatermarkLow : U32 := 8

/-- An xarray index has 32 bits here, so a walk over one ends after this many steps. -/
def indexLimit : Nat := 2 ^ 32

def maskInterrupts : Code Unit := do
  call (.writel .intrMask intrAll)
  let _ ← call (.readl .intrMask)

def deviceRelease : Code Unit := do
  let fields ← call .fields
  if fields.instanceNumber then call (.release .instanceNumber)
  if fields.miscName then call (.release .miscName)
  call (.release .pciDevice)
  call .freeDevice

def devicePut : Code Unit := do
  if ← call .putDevice then deviceRelease

def fileReleaseRefs (file : Nat) : Code Unit := do
  devicePut
  call (.free (.file file))

/-- The release function of the count that reached zero. -/
def releaseObject : Option Object → Code Unit
  | some (.mapping mapping) => call (.free (.mapping mapping))
  | some (.file file) => fileReleaseRefs file
  | some (.request _) => pure ()
  | none => pure ()

def mappingPut : Option Nat → Code Unit
  | none => pure ()
  | some mapping => do
      if ← call (.put (.mapping mapping)) then call (.free (.mapping mapping))

def requestPut (request : Nat) : Code Unit := do
  if ← call (.put (.request request)) then
    releaseObject (← call (.putReference (.source request)))
    releaseObject (← call (.putReference (.destination request)))
    releaseObject (← call (.putReference (.owner request)))
    call (.free (.request request))

/-- The xarray of the device takes its inner lock for each change; the ones of a file are under the file lock. -/
def xaErase (index : Index) (key : U32) : Code (Option Nat) :=
  if index = .device then do
    call (.lock .xa)
    let value ← call (.erase .device key)
    call (.unlock .xa)
    return value
  else call (.erase index key)

def xaInsert (index : Index) (key : U32) (value : Nat) : Code (Option Errno) :=
  if index = .device then do
    call (.lock .xa)
    let error ← call (.insert .device key value)
    call (.unlock .xa)
    return error
  else call (.insert index key value)

/-- The synchronization for the processor reads the links of the request. -/
def requestSyncForCpu (request : Nat) : Code Unit := do
  let _ ← call (.readRequest request)

def requestSyncForDevice (request : Nat) : Code Unit := do
  let _ ← call (.readRequest request)

/-- The drain and the cancellation end a request in the same way. -/
def retireRequest (request : Nat) : Code Unit := do
  requestSyncForCpu request
  call (.completeAll request)
  if ← call (.ownerOpen request) then call (.incCompleted request)
  call .decPending
  requestPut request

def finishRequest (completion : Completion) : Code Bool := do
  match ← xaErase .device completion.commandId with
  | none => return false
  | some request =>
      call (.setRequest request (.result completion))
      call (.setRequest request (.driverStatus none))
      retireRequest request
      return true

/-- The head moves around the ring, so it meets the tail before the fuel ends, as long as no one else writes it meanwhile;
of the other functions only `configureQueues` does. -/
def drainLoop : Nat → U32 → Code Nat
  | 0, _ => return 0
  | fuel + 1, tail => do
      let head := (← call .fields).cqHead
      if head = tail then return 0
      else
        let completion ← call (.loadCompletion head)
        call (.assign (.cqHead ((head + 1) &&& (queueDepth - 1))))
        let fields ← call .fields
        if fields.nopTestPending = true ∧ completion.commandId = fields.nopTestCommandId then
          call (.assign (.nopTestResult completion))
          call (.assign (.nopTestPending false))
          call (.assign (.nopTest true))
        else
          let _ ← finishRequest completion
        let drained ← drainLoop fuel tail
        return drained + 1

def drainCq : Code Nat := do
  if !(← call .fields).queuesReady then return 0
  else
    call (.lock .cq)
    let tail ← call (.readl .cqTail)
    if queueDepth ≤ tail then
      call (.unlock .cq)
      return 0
    else
      let drained ← drainLoop queueDepth.toNat tail
      if drained ≠ 0 then call (.writel .cqDoorbell (← call .fields).cqHead)
      call (.unlock .cq)
      return drained

def observeReset : Code Unit := do
  let generation ← call (.readl .resetGeneration)
  if generation = (← call .fields).resetGeneration then return ()
  else
    let reason ← call (.readl .lastResetReason)
    call (.lock .reset)
    if generation ≠ (← call .fields).resetGeneration then
      call (.assign (.resetReason reason))
      call (.assign (.resetGeneration generation))
      call (.schedule .reset)
    call (.unlock .reset)

def cqPollWork : Code Unit := do
  if (← call .fields).removing then return ()
  else
    observeReset
    let _ ← drainCq
    if 0 < (← call .readPending) then call (.schedule .cqPoll)

/-- A request of the current generation is left alone when only stale ones are cancelled. -/
def skipsRequest (staleOnly : Bool) (request : Nat) : Code Bool := do
  if staleOnly then
    let generation ← call (.readGeneration request)
    return generation = (← call .fields).resetGeneration
  else return false

def cancelLoop (status : Errno) (staleOnly : Bool) : Nat → Nat → Code Unit
  | 0, _ => return ()
  | fuel + 1, bound => do
      match ← call (.next .device bound) with
      | none => return ()
      | some (commandId, request) =>
          if ← skipsRequest staleOnly request then cancelLoop status staleOnly fuel (commandId.toNat + 1)
          else
            match ← xaErase .device commandId with
            | none => cancelLoop status staleOnly fuel (commandId.toNat + 1)
            | some request =>
                call (.setRequest request (.driverStatus (some status)))
                retireRequest request
                cancelLoop status staleOnly fuel (commandId.toNat + 1)

def cancelRequests (status : Errno) (staleOnly : Bool) : Code Unit := cancelLoop status staleOnly indexLimit 0

/-- The two tests of the reason read it twice. -/
def resetByHost : Code Bool := do
  if (← call .fields).resetReason = resetReasonHostDevice then return true
  else return (← call .fields).resetReason = resetReasonHostQueue

def resetWork : Code Unit := do
  call (.lock .submit)
  if !(← call .fields).removing then
    if ← resetByHost then call (.assign (.queuesReady false))
    cancelRequests .ecanceled true
  call (.unlock .submit)

def disableQueues : Code Unit := do
  if (← call .fields).queuesReady then
    call (.writel .deviceControl Pcie.controlQuiesce)
    call (.writel .sqControl Pcie.queueResetBit)
    let _ ← call (.readl .deviceStatus)
    call (.assign (.queuesReady false))

def lowerHalf (address : U64) : U32 := address.setWidth 32
def upperHalf (address : U64) : U32 := (address >>> 32).setWidth 32

/-- The writes that set up both queues, up to the checks of their status. -/
def enableQueues : Code Unit := do
  let fields ← call .fields
  call (.writel .cqBaseLo (lowerHalf fields.cqDma))
  call (.writel .cqBaseHi (upperHalf fields.cqDma))
  call (.writel .cqDepth queueDepth)
  if hasBits fields.capabilities capCqWatermark then
    call (.writel .cqWatermark ((cqWatermarkHigh <<< 16) ||| cqWatermarkLow))
  call (.writel .sqBaseLo (lowerHalf fields.sqDma))
  call (.writel .sqBaseHi (upperHalf fields.sqDma))
  call (.writel .sqDepth queueDepth)
  call (.writel .cqControl Pcie.queueEnable)
  call (.writel .sqControl Pcie.queueEnable)
  call (.assign (.queuesReady true))

def queuesStarted : Code Bool := do
  if !hasBits (← call (.readl .cqStatus)) Pcie.queueStatusEnabled then return false
  else if !hasBits (← call (.readl .sqStatus)) Pcie.queueStatusEnabled then return false
  else
    call (.assign (.sqTail 0))
    call (.assign (.cqHead 0))
    call (.writel .deviceControl Pcie.controlEnable)
    return hasBits (← call (.readl .deviceStatus)) Pcie.statusQueuesReady

def configureQueues : Code (Option Errno) := do
  enableQueues
  if ← queuesStarted then return none
  else
    disableQueues
    return some .eio

def cqIrq : Code Unit := do
  let pending := (← call (.readl .intrStatus)) &&& Pcie.intrCq
  if pending = 0 then return ()
  else
    let _ ← drainCq
    call (.writel .intrStatus pending)
    call (.assign (.cqTest true))

def asyncIrq : Code Unit := do
  let pending := (← call (.readl .intrStatus)) &&& intrAsync
  if pending = 0 then return ()
  else
    if hasBits pending Pcie.intrError then
      let _ ← call (.readl .errorStatus)
      let _ ← call (.readl .lastFatal)
    if hasBits pending Pcie.intrResetDone then observeReset
    call (.writel .intrStatus pending)
    call (.assign (.asyncTest true))

/-- The file of a request, when it has one, lists the request under its command ID. -/
def listRequest (owner : Option Nat) (commandId : U32) (request : Nat) : Code (Option Errno) :=
  match owner with
  | some file => xaInsert (.requests file) commandId request
  | none => return none

def unlistRequest (owner : Option Nat) (commandId : U32) : Code Unit :=
  match owner with
  | some file => do
      let _ ← xaErase (.requests file) commandId
  | none => return ()

def trackLoop (request : Nat) : Nat → Code (Option Errno)
  | 0 => return some .enospc
  | attempts + 1 => do
      let commandId ← call .incNextCommandId
      if commandId = 0 then trackLoop request attempts
      else
        call (.setRequest request (.commandId commandId))
        let owner := (← call (.readRequest request)).owner
        match ← listRequest owner commandId request with
        | some .ebusy => trackLoop request attempts
        | some error => return some error
        | none =>
            call (.get (.request request))
            match ← xaInsert .device commandId request with
            | none => return none
            | some error =>
                requestPut request
                unlistRequest owner commandId
                if error = .ebusy then trackLoop request attempts else return some error

def trackRequest (request : Nat) : Code (Option Errno) := trackLoop request (queueDepth.toNat * 2)

/-- The doorbell is written under the lock that orders it against a new generation. -/
def publishRequest (request : Nat) (descriptor : Submission) (nextTail : U32) : Code Unit := do
  let slot := (← call .fields).sqTail
  let commandId := (← call (.readRequest request)).commandId
  call (.storeSubmission slot { descriptor with commandId })
  requestSyncForDevice request
  call (.lock .reset)
  let generation := (← call .fields).resetGeneration
  call (.setRequest request (.resetGeneration generation))
  call .incPending
  call (.assign (.sqTail nextTail))
  call (.writel .sqDoorbell (← call .fields).sqTail)
  call (.unlock .reset)
  if 0 < (← call .readPending) then call (.schedule .cqPoll)

def submitLocked (request : Nat) (descriptor : Submission) : Code (Option Errno) := do
  if (← call .fields).removing then return some .enodev
  else if !(← call .fields).queuesReady then return some .eopnotsupp
  else
    let _ ← drainCq
    let sqHead ← call (.readl .sqHead)
    if queueDepth ≤ sqHead then return some .eio
    else
      let nextTail := ((← call .fields).sqTail + 1) &&& (queueDepth - 1)
      if nextTail = sqHead then return some .eagain
      else
        match ← trackRequest request with
        | some error => return some error
        | none =>
            publishRequest request descriptor nextTail
            return none

def submit (request : Nat) (descriptor : Submission) : Code (Option Errno) := do
  call (.lock .submit)
  let result ← submitLocked request descriptor
  call (.unlock .submit)
  return result

def submitNop (request : Nat) (userCookie : U64) (timeoutMs : U32) : Code (Option Errno) :=
  submit request { version := descVersion1, opcode := opNop, timeoutMs, userCookie }

end VamsSoc.Driver
