/-
This file has the fetch loop, the frames that arrive over the command bridge, and the callers of both.
-/

import VamsSoc.Construction.Endpoint.Command

namespace VamsSoc.Pcie
open Library Abi

variable {σ : Type}

/-- The loop condition of `vams_pcie_process_sq`. -/
def sqReady (s : State σ) : Bool :=
  s.sq.head != s.sq.tail && !s.cq.full && !s.cq.backpressure && !s.bridge.inflight &&
    !s.bridge.discardCompletion && !s.engine.inflight

def SubmissionQueue.advance (queue : SubmissionQueue) : SubmissionQueue :=
  { queue with head := (queue.head + 1) &&& (queue.depth - 1) }

/-- The accepted descriptor and its deadline stay with the endpoint until its completion. -/
def holdSubmission (s : State σ) (submission : Submission) : State σ :=
  { s with
    bridge := { s.bridge with submission }
    engine := { s.engine with commandDeadlineNs := commandDeadlineNs s submission } }

def Bridge.awaitAuthorization (bridge : Bridge) : Bridge :=
  { bridge with inflight := true, waitingFinal := false }

/-- A connected bridge takes the descriptor to the firmware, and the loop ends. -/
def forwardSubmission (s : State σ) (submission : Submission) : State σ :=
  let held := holdSubmission s submission
  let written := chrWriteAll (held.setBridge held.bridge.awaitAuthorization) .submission submission.toBytes
  if written.1 then checkInvariants (written.2.setSq s.sq.advance)
  else
    let idle := written.2.setBridge { written.2.bridge with inflight := false }
    setError (idle.setSq s.sq.markError) (errorDma ||| errorQueue)

/-- This is the answer of an endpoint without firmware. -/
def standaloneCompletion (s : State σ) (submission : Submission) : Completion :=
  let errorCode := validateCommand submission
  { commandId := submission.commandId
    status := if errorCode = errNone then statusSuccess else statusInvalid
    errorCode := errorCode
    userCookie := submission.userCookie
    deviceTimestamp := clockUs s }

/-- A standalone endpoint runs or answers the descriptor itself; the flag says whether the loop goes on. -/
def dispatchStandalone (host : Host σ) (s : State σ) (submission : Submission) : Bool × State σ :=
  let advanced := s.setSq s.sq.advance
  let completion := standaloneCompletion s submission
  if validateCommand submission = errNone ∧ isPayloadOpcode submission.opcode then
    (false, scheduleEngine (storeCompletion (holdSubmission advanced submission) completion))
  else publishCompletion host advanced completion

/-- A descriptor counts as fetched once its 64 bytes have been read. -/
def countFetch (s : State σ) (submission : Submission) : State σ :=
  s.setHistory { s.history with
    fetches := s.history.fetches + 1
    commands := .fetched s.device.resetGeneration submission :: s.history.commands }

/-- This is one pass of the fetch loop. -/
def fetchSubmission (host : Host σ) (s : State σ) : Bool × State σ :=
  let address := s.sq.base + s.sq.head.setWidth 64 * BitVec.ofNat 64 submissionSize
  let read := dmaRead host s address submissionSize
  match read.1 with
  | none => (false, setError (read.2.setSq s.sq.markError) (errorDma ||| errorQueue))
  | some bytes =>
    let submission := Submission.ofBytes bytes
    let fetched := countFetch read.2 submission
    if s.link.connected then (false, forwardSubmission fetched submission)
    else dispatchStandalone host fetched submission

def fetchLoop (host : Host σ) : Nat → State σ → State σ
  | 0, s => s
  | fuel + 1, s =>
    if sqReady s then
      let fetched := fetchSubmission host s
      if fetched.1 then fetchLoop host fuel fetched.2 else fetched.2
    else s

/-- The device fetches while it is enabled, not quiesced, a bus master, and not paused. -/
def mayFetch (s : State σ) : Bool :=
  hasBits s.device.control controlEnable && !hasBits s.device.control controlQuiesce && s.busMaster &&
    s.checkpoint.status == checkpointNone

/-- A queue whose indices are inside its depth holds fewer descriptors than the fuel. -/
def processSq (host : Host σ) (s : State σ) : State σ :=
  if mayFetch s then fetchLoop host s.sq.depth.toNat (checkInvariants s) else checkInvariants s

def firmwareAckTimeout (host : Host σ) (s : State σ) : State σ :=
  let checked := require s .ackTimeoutDiscarding s.bridge.discardCompletion
  let released := checked.setBridge { s.bridge with discardCompletion := false, completionRx := [] }
  let counted := released.setDevice { s.device with
    resetAckTimeoutCount := satInc s.device.resetAckTimeoutCount }
  processSq host (checkInvariants (setError counted (errorFw ||| errorQueue)))

/-- An engine reset forgets the engine error and moves to the next epoch. -/
def advanceEpoch (s : State σ) : State σ :=
  { s with
    engine := { s.engine with epoch := s.engine.epoch + 1, error := 0 }
    device := { s.device with lastResetReason := resetReasonEngine } }

def engineReset (host : Host σ) (s : State σ) : State σ :=
  let idle := advanceEpoch (stopEngine s)
  if s.engine.inflight then
    let completion := resetResult s errReset
    let handed := handEngineResult host (storeCompletion idle completion) completion
    if handed.1 then checkInvariants handed.2 else handed.2
  else processSq host (checkInvariants idle)

def checkpointRelease (host : Host σ) (s : State σ) : State σ :=
  let checkpoint := s.checkpoint.status
  let checked := require s .checkpointReached (checkpoint != checkpointNone)
  let released := checked.setCheckpoint { s.checkpoint with status := checkpointNone }
  if checkpoint = checkpointEngineStart then
    let running := require (require released .releaseRunning s.engine.inflight) .releaseNotHung
      (!s.engine.hung)
    checkInvariants (armEngine running)
  else
    let publishing := require released .releasePublish (checkpoint == checkpointCqPublish)
    if s.engine.generation ≠ s.device.resetGeneration ∨ s.engine.activeEpoch ≠ s.engine.epoch then
      publishing
    else
      let handed := handEngineResult host publishing s.bridge.completion
      if handed.1 then checkInvariants handed.2 else handed.2

def bridgeCanReceive (s : State σ) : Nat :=
  if s.engine.inflight then completionSize - s.bridge.controlRx.length
  else if !s.bridge.inflight && !s.bridge.discardCompletion then 0
  else completionSize - s.bridge.completionRx.length

def ackManagementReset (s : State σ) (completion : Completion) : State σ :=
  let written := chrWriteAll s .resetAcknowledgment completion.toBytes
  if written.1 then written.2 else setError written.2 (errorFw ||| errorQueue)

def isManagementReset (completion : Completion) : Bool :=
  completion.status == statusReset && completion.errorCode == errReset &&
    hasBits completion.deviceTimestamp managementResetTag

def untag (completion : Completion) : Completion :=
  { completion with deviceTimestamp := clearBits completion.deviceTimestamp managementResetTag }

/-- A firmware request stops the engine and moves to the next epoch. -/
def stopForFirmware (s : State σ) : State σ :=
  let cancelled := cancelEngine s
  cancelled.setEngine { cancelled.engine with epoch := cancelled.engine.epoch + 1 }

/-- A reset request of the firmware publishes at once and never waits for a final answer. -/
def acceptFirmwareReset (host : Host σ) (s : State σ) (request : Completion) : State σ :=
  let recorded := storeCompletion (stopForFirmware s) (untag request)
  let published := (publishCompletion host recorded (untag request)).2
  if isManagementReset request then ackManagementReset published request else published

/-- A request that is not a firmware abort fails the running command under its own identity. -/
def rejectedResult (s : State σ) : Completion :=
  { completeDmaError s.bridge.completion errEngine with
    commandId := s.bridge.submission.commandId, userCookie := s.bridge.submission.userCookie }

/-- The running command times out on a firmware abort, and fails on any other control frame. -/
def abortByFirmware (host : Host σ) (s : State σ) (request : Completion) (valid : Bool) : State σ :=
  let stopped := stopForFirmware s
  let answer := if valid then request else rejectedResult s
  let completion := { answer with deviceTimestamp := clockUs s }
  let marked := if valid then markEngineError stopped engineErrorTimeout else setError stopped errorQueue
  let reported := reportEngineResult (storeCompletion marked completion) completion false
  if reported.1 then reported.2
  else
    let failed := completeDmaError completion errEngine
    (publishCompletion host (storeCompletion reported.2 failed) failed).2

/-- A whole control frame reached a running engine. -/
def receiveControl (host : Host σ) (s : State σ) (request : Completion) : State σ :=
  let valid := request.identity == s.bridge.submission.identity
  if valid && request.status == statusReset && request.errorCode == errReset then
    acceptFirmwareReset host s request
  else
    abortByFirmware host s request
      (valid && request.status == statusTimedOut && request.errorCode == errTimeout)

/-- The answer leaves no descriptor in flight before it is looked at. -/
def takeAnswer (s : State σ) (completion : Completion) : State σ :=
  s.setBridge { s.bridge with completion, inflight := false, waitingFinal := false }

/-- A whole frame answered the descriptor, or the result, that was in flight. -/
def receiveAnswer (host : Host σ) (s : State σ) (completion : Completion) : State σ :=
  let answered := takeAnswer s completion
  if !s.bridge.waitingFinal && completion.status == statusSuccess &&
      isPayloadOpcode s.bridge.submission.opcode then scheduleEngine answered
  else if isManagementReset completion then
    let recorded := storeCompletion answered (untag completion)
    let published := (publishCompletion host recorded (untag completion)).2
    processSq host (ackManagementReset published completion)
  else processSq host (publishCompletion host answered completion).2

/-- The frame that a reset disowned is dropped. -/
def receiveDiscarded (host : Host σ) (s : State σ) (completion : Completion) : State σ :=
  processSq host (checkInvariants (s.setBridge { s.bridge with
    completion, discardCompletion := false, firmwareAckTimer := none }))

def bridgeReceive (host : Host σ) (s : State σ) (bytes : List U8) : State σ :=
  let checked := checkInvariants s
  if s.engine.inflight then
    let received := s.bridge.controlRx ++ bytes
    let roomy := require checked .receiveControlRoom (received.length ≤ completionSize)
    let stored := roomy.setBridge { s.bridge with controlRx := received }
    if received.length ≠ completionSize then stored
    else receiveControl host stored (Completion.ofBytes received)
  else
    let received := s.bridge.completionRx ++ bytes
    let expected := require checked .receiveExpected (s.bridge.inflight || s.bridge.discardCompletion)
    let roomy := require expected .receiveCompletionRoom (received.length ≤ completionSize)
    if received.length ≠ completionSize then roomy.setBridge { s.bridge with completionRx := received }
    else
      let emptied := roomy.setBridge { s.bridge with completionRx := [] }
      if s.bridge.discardCompletion then receiveDiscarded host emptied (Completion.ofBytes received)
      else receiveAnswer host emptied (Completion.ofBytes received)

def Bridge.close (bridge : Bridge) : Bridge :=
  { bridge with
    inflight := false, waitingFinal := false, discardCompletion := false
    completionRx := [], controlRx := [], firmwareAckTimer := none }

def closedCompletion (s : State σ) : Completion where
  commandId := s.bridge.submission.commandId
  status := statusFailed
  errorCode := errEngine
  userCookie := s.bridge.submission.userCookie
  deviceTimestamp := clockUs s

/-- The closing bridge fails the command in flight. -/
def bridgeClosed (host : Host σ) (s : State σ) : State σ :=
  if s.bridge.inflight || s.bridge.discardCompletion || s.engine.inflight then
    let idle := setError ((cancelEngine s).setBridge s.bridge.close) (errorDma ||| errorQueue)
    let published :=
      if !s.bridge.discardCompletion && s.cq.depth != 0 && !s.cq.full then
        (publishCompletion host idle (closedCompletion s)).2
      else idle
    processSq host (checkInvariants published)
  else s

def resetComplete (s : State σ) : State σ := raiseInterrupt (s.setStatus statusReady) intrResetDone

/-- A device reset keeps the fault counters and the highest occupancy. -/
def clearDevice (s : State σ) : State σ :=
  { s with
    engine := { s.engine with epoch := s.engine.epoch + 1, error := 0, hung := false }
    checkpoint := {}
    device := { s.device with
      lastResetReason := resetReasonDevice
      control := 0
      status := statusResetting
      resetGeneration := s.device.resetGeneration + 1
      resetTimer := some ((clockMs s + deviceResetDelayMs) * nanosecondsPerMillisecond) }
    signals := ({ s.signals with
      errorStatus := s.signals.errorStatus &&& errorFatal
      intrCoalesce := 1
      fault := { s.signals.fault with control := 0, arg := 0, remaining := 0 } }.setLevel 0 intrDefined).log
      (.clearedPending 0) |>.log (.clearedPending 1)
    sq := {}
    cq := { highWater := s.cq.highWater, backpressureCount := s.cq.backpressureCount } }

def deviceReset (s : State σ) : State σ :=
  if hasBits s.device.status statusResetting then setError s errorBadConfig
  else checkInvariants (clearDevice (cancelCommand s errReset))

end VamsSoc.Pcie
