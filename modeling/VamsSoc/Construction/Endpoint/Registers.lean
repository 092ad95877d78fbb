/-
This file has the BAR0 registers, with one function for each register that accepts a write.
-/

import VamsSoc.Construction.Endpoint.Bridge

namespace VamsSoc.Pcie
open Library Abi

variable {σ : Type}

inductive Register where
  | deviceId | hwIfVersion | fwVersion | descVersion | capabilities | maxTransfer | queueLimits
  | deviceStatus | deviceControl | errorStatus | resetGeneration | lastFatal
  | sqBaseLo | sqBaseHi | sqDepth | sqHead | sqTail | sqDoorbell | sqControl | sqStatus
  | cqBaseLo | cqBaseHi | cqDepth | cqHead | cqTail | cqDoorbell | cqControl | cqStatus
  | cqWatermark | cqHighWater | cqBackpressureCount
  | intrStatus | intrMask | intrForce | intrCoalesce
  | engineStatus | engineControl | engineCommandId | engineError | engineEpoch
  | resetRequest | lastResetReason | resetStatus | resetAckTimeoutCount
  | faultControl | faultArg | faultStatus | faultCount | debugLock
  | checkpointControl | checkpointStatus | checkpointRelease
  deriving DecidableEq, Repr

def Register.offset : Register → Nat
  | .deviceId => 0x000 | .hwIfVersion => 0x004 | .fwVersion => 0x008 | .descVersion => 0x00c
  | .capabilities => 0x010 | .maxTransfer => 0x014 | .queueLimits => 0x018 | .deviceStatus => 0x01c
  | .deviceControl => 0x020 | .errorStatus => 0x024 | .resetGeneration => 0x028 | .lastFatal => 0x02c
  | .sqBaseLo => 0x100 | .sqBaseHi => 0x104 | .sqDepth => 0x108 | .sqHead => 0x10c
  | .sqTail => 0x110 | .sqDoorbell => 0x114 | .sqControl => 0x118 | .sqStatus => 0x11c
  | .cqBaseLo => 0x200 | .cqBaseHi => 0x204 | .cqDepth => 0x208 | .cqHead => 0x20c
  | .cqTail => 0x210 | .cqDoorbell => 0x214 | .cqControl => 0x218 | .cqStatus => 0x21c
  | .cqWatermark => 0x220 | .cqHighWater => 0x224 | .cqBackpressureCount => 0x228
  | .intrStatus => 0x300 | .intrMask => 0x304 | .intrForce => 0x308 | .intrCoalesce => 0x30c
  | .engineStatus => 0x500 | .engineControl => 0x504 | .engineCommandId => 0x508
  | .engineError => 0x50c | .engineEpoch => 0x510
  | .resetRequest => 0x60c | .lastResetReason => 0x610 | .resetStatus => 0x614
  | .resetAckTimeoutCount => 0x618
  | .faultControl => 0xf00 | .faultArg => 0xf04 | .faultStatus => 0xf08 | .faultCount => 0xf0c
  | .debugLock => 0xf10 | .checkpointControl => 0xf14 | .checkpointStatus => 0xf18
  | .checkpointRelease => 0xf1c

def Register.all : List Register :=
  [.deviceId, .hwIfVersion, .fwVersion, .descVersion, .capabilities, .maxTransfer, .queueLimits,
    .deviceStatus, .deviceControl, .errorStatus, .resetGeneration, .lastFatal,
    .sqBaseLo, .sqBaseHi, .sqDepth, .sqHead, .sqTail, .sqDoorbell, .sqControl, .sqStatus,
    .cqBaseLo, .cqBaseHi, .cqDepth, .cqHead, .cqTail, .cqDoorbell, .cqControl, .cqStatus,
    .cqWatermark, .cqHighWater, .cqBackpressureCount, .intrStatus, .intrMask, .intrForce, .intrCoalesce,
    .engineStatus, .engineControl, .engineCommandId, .engineError, .engineEpoch,
    .resetRequest, .lastResetReason, .resetStatus, .resetAckTimeoutCount,
    .faultControl, .faultArg, .faultStatus, .faultCount, .debugLock,
    .checkpointControl, .checkpointStatus, .checkpointRelease]

/-- The `switch` of the source finds the register of an offset. -/
def Register.ofOffset (offset : Nat) : Option Register := all.find? fun register => register.offset == offset

/-- This is the value that a read of each register returns. -/
def readValue (s : State σ) : Register → U32
  | .deviceId => 0x11001b36
  | .hwIfVersion => 0x00010000
  | .fwVersion => 0
  | .descVersion => 1
  | .capabilities => 0xb3 ||| if s.device.debugEnabled then 0x40 else 0
  | .maxTransfer => Pcie.maxTransfer
  | .queueLimits => 0x04000010
  | .deviceStatus => s.device.status
  | .deviceControl => s.device.control
  | .errorStatus => s.signals.errorStatus
  | .resetGeneration => s.device.resetGeneration
  | .lastFatal => s.device.lastFatal
  | .sqBaseLo => s.sq.baseLo
  | .sqBaseHi => (s.sq.base >>> 32).setWidth 32
  | .sqDepth => s.sq.depth
  | .sqHead => s.sq.head
  | .sqTail => s.sq.tail
  | .sqControl => s.sq.control
  | .sqStatus => s.sq.status
  | .cqBaseLo => s.cq.baseLo
  | .cqBaseHi => (s.cq.base >>> 32).setWidth 32
  | .cqDepth => s.cq.depth
  | .cqHead => s.cq.head
  | .cqTail => s.cq.tail
  | .cqControl => s.cq.control
  | .cqStatus => s.cq.status
  | .cqWatermark => (s.cq.watermarkHigh <<< 16) ||| s.cq.watermarkLow
  | .cqHighWater => s.cq.highWater
  | .cqBackpressureCount => s.cq.backpressureCount
  | .intrStatus => s.signals.intrStatus
  | .intrMask => s.signals.intrMask
  | .intrCoalesce => s.signals.intrCoalesce
  | .engineStatus =>
    (if s.engine.inflight then engineStatusBusy else 0) |||
      (if s.engine.hung then engineStatusHung else 0) |||
      (if s.engine.error ≠ 0 then engineStatusError else 0)
  | .engineCommandId => if s.engine.inflight then s.bridge.submission.commandId else 0
  | .engineError => s.engine.error
  | .engineEpoch => s.engine.epoch
  | .lastResetReason => s.device.lastResetReason
  | .resetAckTimeoutCount => s.device.resetAckTimeoutCount
  | .faultControl => s.signals.fault.control
  | .faultArg => s.signals.fault.arg
  | .faultStatus => s.signals.fault.status
  | .faultCount => s.signals.fault.count
  | .debugLock => if s.device.debugLock then 1 else 0
  | .checkpointControl => s.checkpoint.control
  | .checkpointStatus => s.checkpoint.status
  | .sqDoorbell | .cqDoorbell | .intrForce | .engineControl | .resetRequest | .resetStatus
  | .checkpointRelease => 0

/-- A read of a wrong size or offset returns ones; a read of the status register checks the state. -/
def bar0Read (s : State σ) (offset size : Nat) : U64 × State σ :=
  if size ≠ 4 ∨ offset % 4 ≠ 0 then (BitVec.allOnes 64, setError s errorIllegalMmio)
  else if Register.faultControl.offset ≤ offset ∧ ¬s.device.debugEnabled then
    (0xffffffff, setError s errorIllegalMmio)
  else
    match Register.ofOffset offset with
    | none => (0xffffffff, setError s errorIllegalMmio)
    | some .deviceStatus => (s.device.status.setWidth 64, checkInvariants s)
    | some register => ((readValue s register).setWidth 64, s)

/-- The registers that the source lists as read-only; the acknowledgment timeout count is not in its list. -/
def Register.readOnly : Register → Bool
  | .deviceId | .hwIfVersion | .fwVersion | .descVersion | .capabilities | .maxTransfer | .queueLimits
  | .deviceStatus | .resetGeneration | .lastFatal | .sqHead | .sqTail | .sqStatus | .cqHead | .cqTail
  | .cqStatus | .cqHighWater | .cqBackpressureCount | .engineStatus | .engineControl
  | .engineCommandId | .engineError | .engineEpoch | .lastResetReason | .resetStatus | .faultCount
  | .checkpointStatus => true
  | _ => false

def writeRo (s : State σ) : State σ := setError s errorRoWrite

/-- Undefined bits of a write are reported, and the defined bits still take effect. -/
def reportReserved (s : State σ) (value defined : U32) : State σ :=
  if clearBits value defined ≠ 0 then setError s errorReservedWrite else s

def enableDevice (host : Host σ) (s : State σ) (value : U32) : State σ :=
  if !hasBits s.sq.control queueEnable || !hasBits s.cq.control queueEnable || !s.busMaster then
    setError s errorBadConfig
  else processSq host (s.setControl (controlEnable ||| (value &&& controlQuiesce)))

def writeDeviceControl (host : Host σ) (s : State σ) (value : U32) : State σ :=
  let reported := reportReserved s value controlDefined
  if hasBits value controlReset then deviceReset reported
  else if hasBits value controlEnable then enableDevice host reported value
  else reported.setControl (value &&& controlQuiesce)

def writeSqBaseLo (s : State σ) (value : U32) : State σ :=
  if hasBits s.sq.control queueEnable then setError s errorBadConfig
  else s.setSq { s.sq with baseLo := value }

def writeSqBaseHi (s : State σ) (value : U32) : State σ :=
  let base := (value.setWidth 64 <<< 32) ||| s.sq.baseLo.setWidth 64
  if hasBits s.sq.control queueEnable || hasBits base 63 then setError s errorBadConfig
  else s.setSq { s.sq with base }

def writeSqDepth (s : State σ) (value : U32) : State σ :=
  if hasBits s.sq.control queueEnable || (value != 0 && !validDepth value) then setError s errorBadConfig
  else s.setSq { s.sq with depth := value }

/-- An invalid doorbell marks the queue and reports the error. -/
def rejectSqDoorbell (s : State σ) : State σ :=
  setError (s.setSq s.sq.markError) errorQueue

def writeSqDoorbell (host : Host σ) (s : State σ) (value : U32) : State σ :=
  if !hasBits s.sq.control queueEnable || s.sq.depth ≤ value then rejectSqDoorbell s
  else
    let advance := (value - s.sq.tail) &&& (s.sq.depth - 1)
    let available := (s.sq.head - s.sq.tail - 1) &&& (s.sq.depth - 1)
    if available < advance then rejectSqDoorbell s
    else processSq host (s.setSq { s.sq with tail := value })

def enableSq (s : State σ) (value : U32) : State σ :=
  if hasBits value queueEnable && (s.sq.base == 0 || !validDepth s.sq.depth) then setError s errorBadConfig
  else updateQueueReady (s.setSq { s.sq with control := value &&& queueEnable })

def writeSqControl (s : State σ) (value : U32) : State σ :=
  let reported := reportReserved s value queueControlDefined
  if hasBits value queueResetBit then queueReset reported else enableSq reported value

def writeCqBaseLo (s : State σ) (value : U32) : State σ :=
  if hasBits s.cq.control queueEnable then setError s errorBadConfig
  else s.setCq { s.cq with baseLo := value }

def writeCqBaseHi (s : State σ) (value : U32) : State σ :=
  let base := (value.setWidth 64 <<< 32) ||| s.cq.baseLo.setWidth 64
  if hasBits s.cq.control queueEnable || hasBits base 63 then setError s errorBadConfig
  else s.setCq { s.cq with base }

def writeCqDepth (s : State σ) (value : U32) : State σ :=
  if hasBits s.cq.control queueEnable ||
      (value != 0 && (!validDepth value || (s.cq.watermarkHigh != 0 && value ≤ s.cq.watermarkHigh))) then
    setError s errorBadConfig
  else s.setCq { s.cq with depth := value }

def rejectCqDoorbell (s : State σ) : State σ :=
  setError (s.setCq s.cq.markError) errorQueue

def CompletionQueue.consume (queue : CompletionQueue) (head : U32) : CompletionQueue := { queue with head }

def writeCqDoorbell (host : Host σ) (s : State σ) (value : U32) : State σ :=
  if !hasBits s.cq.control queueEnable || s.cq.depth ≤ value then rejectCqDoorbell s
  else
    let advance := (value - s.cq.head) &&& (s.cq.depth - 1)
    let produced := (s.cq.tail - s.cq.head) &&& (s.cq.depth - 1)
    if produced < advance then rejectCqDoorbell s
    else processSq host (s.setCq (s.cq.consume value).updateBackpressure)

/-- An enabled queue without a watermark gets the widest one. -/
def CompletionQueue.enable (queue : CompletionQueue) (control : U32) : CompletionQueue :=
  let enabled := { queue with control }
  if control != 0 && queue.watermarkHigh == 0 then
    { enabled with watermarkHigh := queue.depth - 1, watermarkLow := queue.depth - 1 - 1 }
  else enabled

def enableCq (s : State σ) (value : U32) : State σ :=
  if hasBits value queueEnable && (s.cq.base == 0 || !validDepth s.cq.depth) then setError s errorBadConfig
  else updateQueueReady (s.setCq (s.cq.enable (value &&& queueEnable)).updateBackpressure)

def writeCqControl (s : State σ) (value : U32) : State σ :=
  let reported := reportReserved s value queueControlDefined
  if hasBits value queueResetBit then queueReset reported else enableCq reported value

def writeCqWatermark (s : State σ) (value : U32) : State σ :=
  let high := value >>> 16
  let low := value &&& 0xffff
  if hasBits s.cq.control queueEnable || high == 0 || high ≤ low || queueMaxDepth ≤ high ||
      (s.cq.depth != 0 && s.cq.depth ≤ high) then setError s errorBadConfig
  else s.setCq { s.cq with watermarkHigh := high, watermarkLow := low }

def writeErrorStatus (s : State σ) (value : U32) : State σ :=
  let cleared := s.setSignals { s.signals with
    errorStatus := clearBits s.signals.errorStatus (value &&& errorDefined) }
  reportReserved cleared value errorDefined

def writeIntrStatus (s : State σ) (value : U32) : State σ :=
  let cleared := s.setSignals
    (s.signals.setLevel (clearBits s.signals.intrStatus (value &&& intrDefined)) s.signals.intrMask)
  let reported := reportReserved cleared value intrDefined
  if hasBits value intrCq && s.cq.head != s.cq.tail then raiseInterrupt reported intrCq else reported

def Signals.setMask (signals : Signals) (oldMask mask : U32) : Signals :=
  (signals.setLevel signals.intrStatus mask).notify (clearBits (signals.intrStatus &&& oldMask) mask)

def writeIntrMask (s : State σ) (value : U32) : State σ :=
  let reported := reportReserved s value intrDefined
  reported.setSignals (reported.signals.setMask s.signals.intrMask (value &&& intrDefined))

def writeIntrForce (s : State σ) (value : U32) : State σ :=
  if s.device.debugLock then setError s errorBadConfig
  else raiseInterrupt (reportReserved s value intrDefined) (value &&& intrDefined)

def writeIntrCoalesce (s : State σ) (value : U32) : State σ :=
  if value ≠ 1 then setError s errorBadConfig
  else s.setSignals { s.signals with intrCoalesce := value }

def writeResetRequest (host : Host σ) (s : State σ) (value : U32) : State σ :=
  if value ≠ resetRequestEngine then setError s errorBadConfig else engineReset host s

def setFault (s : State σ) (fault : Fault) : State σ := s.setSignals { s.signals with fault }

def armFault (s : State σ) (fault : U32) : State σ :=
  if fault = 0 then s
  else if s.device.debugLock || s.signals.fault.control != 0 || !isPowerOf2 fault then
    setError s errorBadConfig
  else
    checkInvariants (setFault s { s.signals.fault with
      control := fault
      remaining := if s.signals.fault.arg ≠ 0 then s.signals.fault.arg else 1 })

def writeFaultControl (s : State σ) (value : U32) : State σ :=
  armFault (reportReserved s value faultDefined) (value &&& faultDefined)

def writeFaultArg (s : State σ) (value : U32) : State σ :=
  if s.device.debugLock || s.signals.fault.control != 0 then setError s errorBadConfig
  else setFault s { s.signals.fault with arg := value }

def writeFaultStatus (s : State σ) (value : U32) : State σ :=
  reportReserved (setFault s { s.signals.fault with
    status := clearBits s.signals.fault.status (value &&& faultDefined) }) value faultDefined

def lockDebug (s : State σ) : State σ :=
  { s with
    device := { s.device with debugLock := true }
    signals := { s.signals with fault := { s.signals.fault with control := 0, remaining := 0 } }
    checkpoint := { s.checkpoint with control := checkpointNone } }

def writeDebugLock (s : State σ) (value : U32) : State σ :=
  let reported := reportReserved s value 1
  if hasBits value 1 && s.checkpoint.status != checkpointNone then setError reported errorBadConfig
  else if hasBits value 1 then lockDebug reported
  else reported

def writeCheckpointControl (s : State σ) (value : U32) : State σ :=
  if s.device.debugLock || s.checkpoint.control != 0 || s.checkpoint.status != 0 ||
      value < checkpointEngineStart || checkpointCqPublish < value then setError s errorBadConfig
  else checkInvariants (s.setCheckpoint { s.checkpoint with control := value })

def writeCheckpointRelease (host : Host σ) (s : State σ) (value : U32) : State σ :=
  if value != 1 || s.checkpoint.status == checkpointNone then setError s errorBadConfig
  else checkpointRelease host s

def writeRegister (host : Host σ) (s : State σ) (register : Register) (value : U32) : State σ :=
  match register with
  | .deviceControl => writeDeviceControl host s value
  | .sqBaseLo => writeSqBaseLo s value
  | .sqBaseHi => writeSqBaseHi s value
  | .sqDepth => writeSqDepth s value
  | .sqDoorbell => writeSqDoorbell host s value
  | .sqControl => writeSqControl s value
  | .cqBaseLo => writeCqBaseLo s value
  | .cqBaseHi => writeCqBaseHi s value
  | .cqDepth => writeCqDepth s value
  | .cqDoorbell => writeCqDoorbell host s value
  | .cqControl => writeCqControl s value
  | .cqWatermark => writeCqWatermark s value
  | .errorStatus => writeErrorStatus s value
  | .intrStatus => writeIntrStatus s value
  | .intrMask => writeIntrMask s value
  | .intrForce => writeIntrForce s value
  | .intrCoalesce => writeIntrCoalesce s value
  | .resetRequest => writeResetRequest host s value
  | .faultControl => writeFaultControl s value
  | .faultArg => writeFaultArg s value
  | .faultStatus => writeFaultStatus s value
  | .debugLock => writeDebugLock s value
  | .checkpointControl => writeCheckpointControl s value
  | .checkpointRelease => writeCheckpointRelease host s value
  -- The default case of the source takes the acknowledgment timeout count too.
  | _ => if register.readOnly then writeRo s else setError s errorIllegalMmio

def bar0Write (host : Host σ) (s : State σ) (offset : Nat) (value : U32) (size : Nat) : State σ :=
  if size ≠ 4 ∨ offset % 4 ≠ 0 then setError s errorIllegalMmio
  else if Register.faultControl.offset ≤ offset ∧ ¬s.device.debugEnabled then setError s errorIllegalMmio
  else if Register.sqBaseLo.offset ≤ offset ∧ offset ≤ Register.cqBackpressureCount.offset ∧
      hasBits s.device.status statusResetting then setError s errorBadConfig
  else
    match Register.ofOffset offset with
    | none => setError s errorIllegalMmio
    | some register => writeRegister host s register value

end VamsSoc.Pcie
