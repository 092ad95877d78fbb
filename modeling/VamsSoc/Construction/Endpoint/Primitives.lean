/-
This file has the faults, interrupts, queue occupancy, and bus accesses that the other endpoint functions call.
-/

import VamsSoc.Construction.Endpoint.State

namespace VamsSoc.Pcie
open Library Abi

variable {σ : Type}

/-- A failed assertion is recorded. The source aborts there, and what the model does after it says nothing. -/
def Signals.require (signals : Signals) (assertion : Assertion) (holds : Bool) : Signals :=
  if holds then signals else { signals with failed := assertion :: signals.failed }

def Signals.faultTrigger (signals : Signals) (fault : U32) : Bool × Signals :=
  if signals.fault.control ≠ fault then (false, signals)
  else
    let checked := signals.require .faultRemaining (signals.fault.remaining != 0)
    let remaining := signals.fault.remaining - 1
    if remaining ≠ 0 then (false, { checked with fault.remaining := remaining })
    else
      (true, { checked with
        fault.remaining := remaining
        fault.control := 0
        fault.status := signals.fault.status ||| fault
        fault.count := satInc signals.fault.count })

def Signals.notify (signals : Signals) (pending : U32) : Signals :=
  let deliver := clearBits pending signals.intrMask
  let first := if hasBits deliver intrCq then [MsixEvent.notified 0] else []
  let second :=
    if hasBits deliver (intrError ||| intrFwEvent ||| intrResetDone) then [MsixEvent.notified 1] else []
  { signals with msix := second ++ first ++ signals.msix }

def Signals.log (signals : Signals) (event : MsixEvent) : Signals := { signals with msix := event :: signals.msix }

/-- Every assignment to the status or the mask register is recorded. -/
def Signals.setLevel (signals : Signals) (status mask : U32) : Signals :=
  { signals with intrStatus := status, intrMask := mask, msix := .level status mask :: signals.msix }

def Signals.raiseInterrupt (signals : Signals) (sources : U32) : Signals :=
  let newlyPending := clearBits sources signals.intrStatus
  let raised := signals.setLevel (signals.intrStatus ||| sources) signals.intrMask
  if hasBits newlyPending intrCq then
    let triggered := raised.faultTrigger faultDropCqInterrupt
    if triggered.1 then (triggered.2.log .dropped).notify (clearBits newlyPending intrCq)
    else triggered.2.notify newlyPending
  else raised.notify newlyPending

def Signals.setError (signals : Signals) (error : U32) : Signals :=
  { signals with errorStatus := signals.errorStatus ||| error }.raiseInterrupt intrError

def validDepth (depth : U32) : Bool :=
  queueMinDepth ≤ depth && depth ≤ queueMaxDepth && isPowerOf2 depth

def CompletionQueue.full (queue : CompletionQueue) : Bool :=
  queue.depth != 0 && (queue.tail + 1) &&& (queue.depth - 1) == queue.head

def CompletionQueue.occupancy (queue : CompletionQueue) : U32 :=
  if queue.depth = 0 then 0 else (queue.tail - queue.head) &&& (queue.depth - 1)

def CompletionQueue.updateBackpressure (queue : CompletionQueue) : CompletionQueue :=
  let occupancy := queue.occupancy
  let marked := { queue with
    highWater := if queue.highWater < occupancy then occupancy else queue.highWater }
  if !hasBits queue.control queueEnable || queue.watermarkHigh == 0 then
    { marked with backpressure := false }
  else if !queue.backpressure && queue.watermarkHigh ≤ occupancy then
    { marked with backpressure := true, backpressureCount := satInc queue.backpressureCount }
  else if queue.backpressure && occupancy ≤ queue.watermarkLow then
    { marked with backpressure := false }
  else marked

def SubmissionQueue.markError (queue : SubmissionQueue) : SubmissionQueue := { queue with error := true }

def CompletionQueue.markError (queue : CompletionQueue) : CompletionQueue := { queue with error := true }

def SubmissionQueue.status (queue : SubmissionQueue) : U32 :=
  let enabled :=
    if hasBits queue.control queueEnable then
      queueStatusEnabled |||
        (if queue.head = queue.tail then queueStatusEmpty else 0) |||
        (if (queue.tail + 1) &&& (queue.depth - 1) = queue.head then queueStatusFull else 0)
    else 0
  enabled ||| (if queue.error then queueStatusError else 0)

def CompletionQueue.status (queue : CompletionQueue) : U32 :=
  let enabled :=
    if hasBits queue.control queueEnable then
      queueStatusEnabled |||
        (if queue.head = queue.tail then queueStatusEmpty else 0) |||
        (if queue.full then queueStatusFull else 0) |||
        (if queue.backpressure then queueStatusBackpressure else 0)
    else 0
  enabled ||| (if queue.error then queueStatusError else 0)

/-- The source asserts these geometry conditions of a submission queue with a depth. -/
def SubmissionQueue.assertions (queue : SubmissionQueue) : List (Assertion × Bool) :=
  if queue.depth = 0 then []
  else
    [(.sqDepthMinimum, queueMinDepth ≤ queue.depth), (.sqDepthMaximum, queue.depth ≤ queueMaxDepth),
      (.sqDepthPowerOf2, queue.depth &&& (queue.depth - 1) == 0),
      (.sqHeadInside, queue.head < queue.depth), (.sqTailInside, queue.tail < queue.depth)]

def CompletionQueue.assertions (queue : CompletionQueue) : List (Assertion × Bool) :=
  let geometry : List (Assertion × Bool) :=
    [(.cqDepthMinimum, queueMinDepth ≤ queue.depth), (.cqDepthMaximum, queue.depth ≤ queueMaxDepth),
      (.cqDepthPowerOf2, queue.depth &&& (queue.depth - 1) == 0),
      (.cqHeadInside, queue.head < queue.depth), (.cqTailInside, queue.tail < queue.depth)]
  let watermark : List (Assertion × Bool) :=
    [(.watermarkHighInside, queue.watermarkHigh < queue.depth),
      (.watermarkOrdered, queue.watermarkLow < queue.watermarkHigh)]
  if queue.depth = 0 then []
  else if queue.watermarkHigh = 0 then geometry
  else geometry ++ watermark

def ownershipAssertions (s : State σ) : List (Assertion × Bool) :=
  let bridge : List (Assertion × Bool) :=
    [(.backpressureConfigured,
        !s.cq.backpressure || (hasBits s.cq.control queueEnable && s.cq.watermarkHigh != 0)),
      (.bridgeNotDiscarding, !(s.bridge.inflight && s.bridge.discardCompletion)),
      (.bridgeNotRunning, !(s.bridge.inflight && s.engine.inflight)),
      (.discardNotRunning, !(s.bridge.discardCompletion && s.engine.inflight)),
      (.finalInflight, !s.bridge.waitingFinal || s.bridge.inflight),
      (.controlPosition, s.bridge.controlRx.length ≤ completionSize),
      (.busyMatchesEngine, hasBits s.device.status statusEngineBusy == s.engine.inflight)]
  let running : List (Assertion × Bool) :=
    [(.engineGeneration, s.engine.generation == s.device.resetGeneration),
      (.engineEpoch, s.engine.activeEpoch == s.engine.epoch),
      (.deadlinePositive, 0 < s.engine.commandDeadlineNs), (.finishPositive, 0 < s.engine.finishNs)]
  let debug : List (Assertion × Bool) :=
    [(.hungRuns, !s.engine.hung || s.engine.inflight),
      (.faultPowerOf2, s.signals.fault.control == 0 || isPowerOf2 s.signals.fault.control),
      (.faultDefined, clearBits s.signals.fault.control faultDefined == 0),
      (.faultArmed, (s.signals.fault.control != 0) == (s.signals.fault.remaining != 0)),
      (.checkpointControlRange, s.checkpoint.control ≤ checkpointCqPublish),
      (.checkpointStatusRange, s.checkpoint.status ≤ checkpointCqPublish),
      (.checkpointExclusive, s.checkpoint.control == 0 || s.checkpoint.status == 0)]
  bridge ++ (if s.engine.inflight then running else []) ++ debug

/-- These are the assertions of `vams_pcie_check_invariants` that the state does not meet. -/
def violations (s : State σ) : List Assertion :=
  ((s.sq.assertions ++ s.cq.assertions ++ ownershipAssertions s).filter (!·.2)).map (·.1)

def checkInvariants (s : State σ) : State σ :=
  s.setSignals { s.signals with failed := violations s ++ s.signals.failed }

def require (s : State σ) (assertion : Assertion) (holds : Bool) : State σ :=
  s.setSignals (s.signals.require assertion holds)

def raiseInterrupt (s : State σ) (sources : U32) : State σ :=
  s.setSignals (s.signals.raiseInterrupt sources)

def setError (s : State σ) (error : U32) : State σ := s.setSignals (s.signals.setError error)

def faultTrigger (s : State σ) (fault : U32) : Bool × State σ :=
  ((s.signals.faultTrigger fault).1, s.setSignals (s.signals.faultTrigger fault).2)

def checkpointHit (s : State σ) (checkpoint : U32) : Bool × State σ :=
  if s.checkpoint.control ≠ checkpoint then (false, s)
  else (true, s.setCheckpoint ⟨checkpointNone, checkpoint⟩)

def updateQueueReady (s : State σ) : State σ :=
  if hasBits s.sq.control queueEnable && hasBits s.cq.control queueEnable then
    s.setStatus (s.device.status ||| statusQueuesReady)
  else
    (s.setStatus (clearBits s.device.status statusQueuesReady)).setControl
      (clearBits s.device.control controlEnable)

/-- The virtual clock is read in milliseconds and in microseconds. -/
def clockMs (s : State σ) : Nat := s.clockNs / nanosecondsPerMillisecond
def clockUs (s : State σ) : U64 := BitVec.ofNat 64 (s.clockNs / 1000)

def dmaRead (host : Host σ) (s : State σ) (address : U64) (count : Nat) : Option (List U8) × State σ :=
  ((host.read s.memory address count).1,
    (s.setMemory (host.read s.memory address count).2).recordAccess (.read address count))

def dmaWrite (host : Host σ) (s : State σ) (address : U64) (bytes : List U8) : Bool × State σ :=
  ((host.write s.memory address bytes).1,
    (s.setMemory (host.write s.memory address bytes).2).recordAccess (.write address bytes))

def tryMalloc (host : Host σ) (s : State σ) (size : Nat) : Bool × State σ :=
  ((host.allocate s.memory size).1, s.setMemory (host.allocate s.memory size).2)

/-- A blocking write sends the whole frame, or fails when the bridge has broken. -/
def chrWriteAll (s : State σ) (kind : FrameKind) (bytes : List U8) : Bool × State σ :=
  if s.link.writable then
    (true, s.setLink { s.link with tx := s.link.tx ++ [⟨kind, s.history.fetches, bytes⟩] })
  else (false, s)

end VamsSoc.Pcie
