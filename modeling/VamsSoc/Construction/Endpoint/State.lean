/-
This file has the registers of the PCIe endpoint and the effects that a run of it leaves behind.
-/

import VamsSoc.Construction.Abi.Records
import VamsSoc.Library.Masks

namespace VamsSoc.Pcie
open Library Abi

def statusReady : U32 := 0x01
def statusQueuesReady : U32 := 0x04
def statusEngineBusy : U32 := 0x08
def statusResetting : U32 := 0x10
def controlEnable : U32 := 0x1
def controlReset : U32 := 0x2
def controlQuiesce : U32 := 0x4
def controlDefined : U32 := controlEnable ||| controlReset ||| controlQuiesce

def errorIllegalMmio : U32 := 0x001
def errorReservedWrite : U32 := 0x002
def errorRoWrite : U32 := 0x004
def errorBadConfig : U32 := 0x008
def errorDma : U32 := 0x010
def errorQueue : U32 := 0x020
def errorFw : U32 := 0x040
def errorFatal : U32 := 0x200
def errorDefined : U32 := 0x3ff

def intrCq : U32 := 0x1
def intrError : U32 := 0x2
def intrFwEvent : U32 := 0x4
def intrResetDone : U32 := 0x8
def intrDefined : U32 := 0xf

def queueEnable : U32 := 0x1
def queueResetBit : U32 := 0x2
def queueControlDefined : U32 := queueEnable ||| queueResetBit
def queueStatusEnabled : U32 := 0x01
def queueStatusEmpty : U32 := 0x02
def queueStatusFull : U32 := 0x04
def queueStatusBackpressure : U32 := 0x08
def queueStatusError : U32 := 0x10
def queueMinDepth : U32 := 16
def queueMaxDepth : U32 := 1024

def engineStatusBusy : U32 := 0x1
def engineStatusHung : U32 := 0x4
def engineStatusError : U32 := 0x8
def engineErrorDmaRead : U32 := 0x1
def engineErrorDmaWrite : U32 := 0x2
def engineErrorTimeout : U32 := 0x4
def engineErrorAbortFailed : U32 := 0x8

def resetRequestEngine : U32 := 0x2
def resetReasonPowerOn : U32 := 0
def resetReasonDevice : U32 := 1
def resetReasonQueue : U32 := 2
def resetReasonEngine : U32 := 3

def faultDmaTimeout : U32 := 0x01
def faultDropCqInterrupt : U32 := 0x02
def faultEngineHang : U32 := 0x04
def faultDmaRead : U32 := 0x08
def faultDmaWrite : U32 := 0x10
def faultResetActive : U32 := 0x20
def faultDefined : U32 := 0x3f

def checkpointNone : U32 := 0
def checkpointEngineStart : U32 := 1
def checkpointCqPublish : U32 := 2

def managementResetTag : U64 := 0x8000000000000000
def nanosecondsPerMillisecond : Nat := 1000000
def deviceResetDelayMs : Nat := 1
def firmwareResetAckTimeoutMs : Nat := 100
def engineExecutionNs : Nat := 20 * nanosecondsPerMillisecond
def defaultTimeoutMs : U32 := 30000
def maxTransfer : U32 := 0x01000000
def dmaChunkSize : Nat := 64 * 1024

/-- Each `g_assert` of the endpoint has a name; the ones of `vams_pcie_check_invariants` come first. -/
inductive Assertion where
  | sqDepthMinimum | sqDepthMaximum | sqDepthPowerOf2 | sqHeadInside | sqTailInside
  | cqDepthMinimum | cqDepthMaximum | cqDepthPowerOf2 | cqHeadInside | cqTailInside
  | watermarkHighInside | watermarkOrdered | backpressureConfigured
  | bridgeNotDiscarding | bridgeNotRunning | discardNotRunning | finalInflight | controlPosition
  | busyMatchesEngine | engineGeneration | engineEpoch | deadlinePositive | finishPositive | hungRuns
  | faultPowerOf2 | faultDefined | faultArmed | checkpointControlRange | checkpointStatusRange
  | checkpointExclusive
  | faultRemaining | publishRoom | reportBridgeIdle | reportNotDiscarding | ackTimeoutDiscarding
  | completeRunning | scheduleIdle | schedulePayload | checkpointReached | releaseRunning
  | releaseNotHung | releasePublish | receiveControlRoom | receiveExpected | receiveCompletionRoom
  deriving DecidableEq, Repr

/-- The interrupt block leaves behind what it sends, and the status and mask registers each time one is assigned. -/
inductive MsixEvent where
  | notified (vector : Nat)
  | clearedPending (vector : Nat)
  | level (status mask : U32)
  | dropped
  deriving DecidableEq, Repr

structure Fault where
  control : U32 := 0
  arg : U32 := 0
  remaining : U32 := 0
  status : U32 := 0
  count : U32 := 0
  deriving DecidableEq, Repr

/-- The error, interrupt, and fault registers change together, and no other register changes with them. -/
structure Signals where
  errorStatus : U32 := 0
  intrStatus : U32 := 0
  intrMask : U32 := intrDefined
  intrCoalesce : U32 := 1
  fault : Fault := {}
  msix : List MsixEvent := []
  failed : List Assertion := []
  deriving DecidableEq, Repr

structure SubmissionQueue where
  base : U64 := 0
  baseLo : U32 := 0
  depth : U32 := 0
  head : U32 := 0
  tail : U32 := 0
  control : U32 := 0
  error : Bool := false
  deriving DecidableEq, Repr

structure CompletionQueue where
  base : U64 := 0
  baseLo : U32 := 0
  depth : U32 := 0
  head : U32 := 0
  tail : U32 := 0
  control : U32 := 0
  error : Bool := false
  watermarkHigh : U32 := 0
  watermarkLow : U32 := 0
  highWater : U32 := 0
  backpressureCount : U32 := 0
  backpressure : Bool := false
  deriving DecidableEq, Repr

/-- The bytes that have arrived of a frame are kept as a list; its length is the position in the buffer. -/
structure Bridge where
  submission : Abi.Submission := {}
  completion : Abi.Completion := {}
  completionRx : List U8 := []
  controlRx : List U8 := []
  inflight : Bool := false
  waitingFinal : Bool := false
  discardCompletion : Bool := false
  firmwareAckTimer : Option Nat := none
  deriving DecidableEq, Repr

structure Engine where
  commandDeadlineNs : Nat := 0
  finishNs : Nat := 0
  generation : U32 := 0
  epoch : U32 := 0
  activeEpoch : U32 := 0
  error : U32 := 0
  inflight : Bool := false
  hung : Bool := false
  timer : Option Nat := none
  deriving DecidableEq, Repr

structure Checkpoint where
  control : U32 := checkpointNone
  status : U32 := checkpointNone
  deriving DecidableEq, Repr

inductive DmaAccess where
  | read (address : U64) (count : Nat)
  | write (address : U64) (bytes : List U8)
  deriving DecidableEq, Repr

/-- A call that publishes a completion is recorded with the queue registers that it saw. -/
inductive CommandEvent where
  | fetched (generation : U32) (submission : Abi.Submission)
  | engineStarted (submission : Abi.Submission)
  | publish (generation : U32) (queue : CompletionQueue) (completion : Abi.Completion) (written : Bool)
  deriving DecidableEq, Repr

/-- The registers of the whole device keep the reset timer that ends a device reset. -/
structure Device where
  status : U32 := statusReady
  control : U32 := 0
  resetGeneration : U32 := 0
  lastFatal : U32 := 0
  lastResetReason : U32 := resetReasonPowerOn
  resetAckTimeoutCount : U32 := 0
  debugEnabled : Bool := false
  debugLock : Bool := false
  resetTimer : Option Nat := none
  deriving DecidableEq, Repr

/-- A run leaves its descriptors, completions, and bus accesses behind, the newest first. -/
structure History where
  fetches : Nat := 0
  accesses : List DmaAccess := []
  commands : List CommandEvent := []
  deriving DecidableEq, Repr

/-- The endpoint state is joined with the part of its surroundings that it reads. -/
structure State (σ : Type) where
  device : Device := {}
  signals : Signals := {}
  sq : SubmissionQueue := {}
  cq : CompletionQueue := {}
  bridge : Bridge := {}
  engine : Engine := {}
  checkpoint : Checkpoint := {}
  link : Link := {}
  clockNs : Nat := 0
  busMaster : Bool := false
  memory : σ
  history : History := {}
  deriving DecidableEq, Repr

namespace State
variable {σ : Type}

@[simps] def setDevice (s : State σ) (device : Device) : State σ := { s with device }
@[simps] def setSignals (s : State σ) (signals : Signals) : State σ := { s with signals }
@[simps] def setSq (s : State σ) (sq : SubmissionQueue) : State σ := { s with sq }
@[simps] def setCq (s : State σ) (cq : CompletionQueue) : State σ := { s with cq }
@[simps] def setBridge (s : State σ) (bridge : Bridge) : State σ := { s with bridge }
@[simps] def setEngine (s : State σ) (engine : Engine) : State σ := { s with engine }
@[simps] def setCheckpoint (s : State σ) (checkpoint : Checkpoint) : State σ := { s with checkpoint }
@[simps] def setLink (s : State σ) (link : Link) : State σ := { s with link }
@[simps] def setMemory (s : State σ) (memory : σ) : State σ := { s with memory }
@[simps] def setHistory (s : State σ) (history : History) : State σ := { s with history }

/-- The source writes the status register with `|=` and `&= ~`. -/
def setStatus (s : State σ) (status : U32) : State σ := s.setDevice { s.device with status }
def setControl (s : State σ) (control : U32) : State σ := s.setDevice { s.device with control }

/-- A command event and a bus access are recorded as they happen. -/
def record (s : State σ) (event : CommandEvent) : State σ :=
  s.setHistory { s.history with commands := event :: s.history.commands }
def recordAccess (s : State σ) (access : DmaAccess) : State σ :=
  s.setHistory { s.history with accesses := access :: s.history.accesses }

end State

/-- The host side answers each bus access and each buffer request; a read that succeeds fills its buffer.
An access goes to memory, never to the registers of the endpoint itself. -/
structure Host (σ : Type) where
  read : σ → U64 → Nat → Option (List U8) × σ
  write : σ → U64 → List U8 → Bool × σ
  allocate : σ → Nat → Bool × σ
  fills : ∀ (memory : σ) (address : U64) (count : Nat) (bytes : List U8),
    (read memory address count).1 = some bytes → bytes.length = count

end VamsSoc.Pcie
