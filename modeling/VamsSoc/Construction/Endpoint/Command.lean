/-
This file has the command path of the endpoint from the running engine to the published completion.
-/

import VamsSoc.Construction.Endpoint.Payload

namespace VamsSoc.Pcie
open Library Abi

variable {σ : Type}

def Bridge.cancelRequest (bridge : Bridge) : Bridge :=
  if bridge.inflight then
    { bridge with discardCompletion := true, inflight := false, waitingFinal := false }
  else bridge

def cancelBridgeRequest (s : State σ) : State σ := s.setBridge s.bridge.cancelRequest

/-- The engine stops before a reset reads or reports its command. -/
def stopEngine (s : State σ) : State σ :=
  { s with
    engine := { s.engine with timer := none, inflight := false, hung := false }
    bridge := { s.bridge with controlRx := [] }
    checkpoint := { s.checkpoint with status := checkpointNone }
    device := { s.device with status := clearBits s.device.status statusEngineBusy } }

def cancelEngine (s : State σ) : State σ := checkInvariants (stopEngine s)

def CompletionQueue.advance (queue : CompletionQueue) : CompletionQueue :=
  { queue with tail := (queue.tail + 1) &&& (queue.depth - 1) }

def publishCompletion (host : Host σ) (s : State σ) (completion : Completion) : Bool × State σ :=
  let address := s.cq.base + s.cq.tail.setWidth 64 * BitVec.ofNat 64 completionSize
  let checked := require (checkInvariants s) .publishRoom (!s.cq.full)
  let write := dmaWrite host checked address completion.toBytes
  let logged := write.2.record (.publish s.device.resetGeneration s.cq completion write.1)
  if write.1 then
    (true, checkInvariants (raiseInterrupt (logged.setCq s.cq.advance.updateBackpressure) intrCq))
  else (false, setError (logged.setCq s.cq.markError) (errorDma ||| errorQueue))

/-- The result waits for the firmware's final answer, or for the answer that a reset discards. -/
def Bridge.awaitFirmware (bridge : Bridge) (discard : Bool) : Bridge :=
  { bridge with inflight := !discard, waitingFinal := !discard, discardCompletion := discard }

def Bridge.release (bridge : Bridge) : Bridge :=
  { bridge with inflight := false, waitingFinal := false, discardCompletion := false }

/-- Only a discarded answer is timed. -/
def armFirmwareAck (s : State σ) (discard : Bool) : State σ :=
  if discard then
    s.setBridge { s.bridge with
      firmwareAckTimer := some ((clockMs s + firmwareResetAckTimeoutMs) * nanosecondsPerMillisecond) }
  else s

def reportEngineResult (s : State σ) (completion : Completion) (discard : Bool) : Bool × State σ :=
  let checked := require (require s .reportBridgeIdle (!s.bridge.inflight)) .reportNotDiscarding
    (!s.bridge.discardCompletion)
  if !s.link.connected then (false, setError checked (errorDma ||| errorQueue))
  else
    let waiting := checked.setBridge (s.bridge.awaitFirmware discard)
    let written := chrWriteAll waiting .engineResult completion.toBytes
    if written.1 then (true, checkInvariants (armFirmwareAck written.2 discard))
    else (false, setError (written.2.setBridge s.bridge.release) (errorDma ||| errorQueue))

/-- A reset overwrites the result of the running command and keeps its identity. -/
def resetResult (s : State σ) (errorCode : U16) : Completion :=
  { s.bridge.completion with
    status := statusReset, errorCode := errorCode, bytesProcessed := 0, resultCrc := 0
    deviceTimestamp := clockUs s }

def storeCompletion (s : State σ) (completion : Completion) : State σ :=
  s.setBridge { s.bridge with completion }

def abortEngineToFirmware (s : State σ) (errorCode : U16) : State σ :=
  let completion := resetResult s errorCode
  (reportEngineResult (storeCompletion (cancelEngine s) completion) completion true).2

/-- A queue reset and a device reset both take the command in flight away first. -/
def cancelCommand (s : State σ) (errorCode : U16) : State σ :=
  if s.engine.inflight then abortEngineToFirmware (cancelBridgeRequest s) errorCode
  else cancelEngine (cancelBridgeRequest s)

/-- A queue reset keeps the bases and the depths of the queues. -/
def clearQueues (s : State σ) : State σ :=
  { s with
    device := { s.device with
      control := clearBits s.device.control controlEnable
      status := clearBits s.device.status statusQueuesReady
      resetGeneration := s.device.resetGeneration + 1
      lastResetReason := resetReasonQueue }
    sq := { s.sq with head := 0, tail := 0, control := 0, error := false }
    cq := { s.cq with
      head := 0, tail := 0, control := 0, error := false, watermarkHigh := 0, watermarkLow := 0
      backpressure := false }
    signals := (s.signals.setLevel (clearBits s.signals.intrStatus intrCq) s.signals.intrMask).log (.clearedPending 0)
    engine := { s.engine with epoch := s.engine.epoch + 1 } }

def queueReset (s : State σ) : State σ := checkInvariants (clearQueues (cancelCommand s errQueueReset))

def commandDeadlineNs (s : State σ) (submission : Submission) : Nat :=
  let timeoutMs := if submission.timeoutMs = 0 then defaultTimeoutMs else submission.timeoutMs
  s.clockNs + timeoutMs.toNat * nanosecondsPerMillisecond

/-- The engine timer ends at the deadline or at the finish, whichever comes first. -/
def armEngine (s : State σ) : State σ :=
  s.setEngine { s.engine with
    timer := some (max (min s.engine.commandDeadlineNs s.engine.finishNs) s.clockNs) }

def startEngine (s : State σ) (forceTimeout hung : Bool) : State σ :=
  { s with
    engine := { s.engine with
      finishNs := if forceTimeout then s.engine.commandDeadlineNs + 1 else s.clockNs + engineExecutionNs
      generation := s.device.resetGeneration
      activeEpoch := s.engine.epoch
      inflight := true
      hung := hung
      error := if hung then s.engine.error ||| engineErrorAbortFailed else s.engine.error }
    device := { s.device with status := s.device.status ||| statusEngineBusy }
    history := { s.history with commands := .engineStarted s.bridge.submission :: s.history.commands } }

/-- A hung engine and a paused one wait without a timer. -/
def armUnlessPaused (s : State σ) : State σ :=
  if s.engine.hung then s
  else
    let paused := checkpointHit s checkpointEngineStart
    if paused.1 then paused.2 else armEngine paused.2

def scheduleEngine (s : State σ) : State σ :=
  let checked := require (require s .scheduleIdle (!s.engine.inflight)) .schedulePayload
    (isPayloadOpcode s.bridge.submission.opcode)
  let timeout := faultTrigger checked faultDmaTimeout
  let hang := faultTrigger timeout.2 faultEngineHang
  let started := armUnlessPaused (startEngine hang.2 timeout.1 hang.1)
  let reset := faultTrigger (checkInvariants started) faultResetActive
  if reset.1 then queueReset reset.2 else reset.2

/-- The endpoint hands a result to the firmware, and publishes it itself when the bridge is gone. -/
def handEngineResult (host : Host σ) (s : State σ) (completion : Completion) : Bool × State σ :=
  let reported := reportEngineResult s completion false
  if reported.1 then reported else (false, (publishCompletion host reported.2 completion).2)

def markEngineError (s : State σ) (error : U32) : State σ :=
  s.setEngine { s.engine with error := s.engine.error ||| error }

def engineErrorOf (errorCode : U16) : U32 :=
  if errorCode = errDmaRead then engineErrorDmaRead
  else if errorCode = errDmaWrite then engineErrorDmaWrite
  else 0

def timedOutResult (completion : Completion) : Completion :=
  { completion with
    status := statusTimedOut, errorCode := errTimeout, bytesProcessed := 0, resultCrc := 0 }

def finishPayload (host : Host σ) (s : State σ) : State σ :=
  if s.engine.commandDeadlineNs < s.engine.finishNs then
    markEngineError (storeCompletion s (timedOutResult s.bridge.completion)) engineErrorTimeout
  else
    let executed := executePayload host s s.bridge.submission s.bridge.completion
    markEngineError (storeCompletion executed.2 executed.1) (engineErrorOf executed.1.errorCode)

/-- The finished engine leaves a pause at the checkpoint alone. -/
def finishEngine (s : State σ) : State σ :=
  { s with
    engine := { s.engine with inflight := false, hung := false }
    bridge := { s.bridge with controlRx := [] }
    device := { s.device with status := clearBits s.device.status statusEngineBusy } }

def engineComplete (host : Host σ) (s : State σ) : State σ :=
  let checked := require (checkInvariants s) .completeRunning s.engine.inflight
  let idle := checkInvariants (finishEngine checked)
  if idle.engine.generation ≠ idle.device.resetGeneration then idle
  else
    let finished := finishPayload host idle
    if finished.engine.generation ≠ finished.device.resetGeneration ∨
        finished.engine.activeEpoch ≠ finished.engine.epoch then finished
    else
      let paused := checkpointHit finished checkpointCqPublish
      if paused.1 then checkInvariants paused.2
      else (handEngineResult host paused.2 paused.2.bridge.completion).2

end VamsSoc.Pcie
