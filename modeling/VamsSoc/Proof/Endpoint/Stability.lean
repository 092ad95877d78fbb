/-
This file says once what the steps of the endpoint are made of. A property that survives each part survives every
event.
-/

import VamsSoc.Proof.Endpoint.Turns

namespace VamsSoc.Pcie
open Library Abi

variable {σ : Type}

/-- A frame has the size of the record that its kind says. -/
def Whole (frame : Frame) : Prop :=
  frame.bytes.length = if frame.kind = .submission then submissionSize else completionSize

/-- A change inside the endpoint shows in no interrupt, no configuration, and no frame. -/
structure Inside (s next : State σ) : Prop where
  signals : next.signals = s.signals
  cq : next.cq = s.cq
  base : next.sq.base = s.sq.base
  depth : next.sq.depth = s.sq.depth
  enabled : next.sq.control = s.sq.control
  control : next.device.control = s.device.control
  resetTimer : next.device.resetTimer = s.device.resetTimer
  status : clearBits next.device.status statusEngineBusy = clearBits s.device.status statusEngineBusy
  tx : next.link.tx = s.link.tx
  commands : s.history.commands <:+ next.history.commands
  answer : s.bridge.completionRx = [] → next.bridge.completionRx = []
  request : s.bridge.controlRx = [] → next.bridge.controlRx = []
  discard : next.bridge.discardCompletion = true → next.bridge.firmwareAckTimer = none →
    s.bridge.discardCompletion = true ∧ s.bridge.firmwareAckTimer = none

theorem Inside.refl (s : State σ) : Inside s s where
  signals := rfl
  cq := rfl
  base := rfl
  depth := rfl
  enabled := rfl
  control := rfl
  resetTimer := rfl
  status := rfl
  tx := rfl
  commands := List.suffix_rfl
  answer := id
  request := id
  discard discards unarmed := ⟨discards, unarmed⟩

/-- The base of a queue is aligned and its depth, if it has one, is valid. -/
def Configured (base : U64) (depth : U32) : Prop :=
  hasBits base 63 = false ∧ (depth = 0 ∨ validDepth depth = true)

/-- The property survives each part that a step from the origin is made of. A queue is enabled as the origin has it. -/
structure Stable (host : Host σ) (origin : State σ) (property : State σ → Prop) : Prop where
  inside : ∀ s next, Inside s next → property s → property next
  failed : ∀ s failed, property s → property (s.setSignals { s.signals with failed := failed ++ s.signals.failed })
  errorStatus : ∀ s errorStatus, property s → property (s.setSignals { s.signals with errorStatus })
  coalesce : ∀ s intrCoalesce, property s → property (s.setSignals { s.signals with intrCoalesce })
  fault : ∀ s fault, fault.count = s.signals.fault.count → property s → property (setFault s fault)
  trigger : ∀ s fault, property s → property (faultTrigger s fault).2
  raise : ∀ s sources, property s → property (raiseInterrupt s sources)
  acknowledge : ∀ s value, property s → property (writeIntrStatus s value)
  mask : ∀ s value, property s → property (writeIntrMask s value)
  publish : ∀ s completion, property s → property (publishCompletion host s completion).2
  send : ∀ s kind bytes, Whole ⟨kind, s.history.fetches, bytes⟩ → kind ≠ .resetAcknowledgment → property s →
    property (chrWriteAll s kind bytes).2
  clearQueues : ∀ s, property s → property (clearQueues s)
  clearDevice : ∀ s, property s → property (clearDevice s)
  resetDone : ∀ s, s.device.resetTimer ≠ none → property s →
    property (s.setDevice { s.device with status := statusReady, resetTimer := none })
  control : ∀ s control, (hasBits control controlEnable = true →
      hasBits s.sq.control queueEnable = true ∧ hasBits s.cq.control queueEnable = true) →
    property s → property (s.setControl control)
  sqConfigure : ∀ s sq, hasBits s.sq.control queueEnable = false → sq.control = s.sq.control →
    (Configured s.sq.base s.sq.depth → Configured sq.base sq.depth) → property s → property (s.setSq sq)
  sqEnable : ∀ s control, s.sq = origin.sq → s.cq = origin.cq → hasBits s.device.status statusResetting = false →
    (hasBits control queueEnable = true → s.sq.base ≠ 0 ∧ validDepth s.sq.depth = true) →
    property s → property (updateQueueReady (s.setSq { s.sq with control }))
  cqMark : ∀ s, property s → property (s.setCq s.cq.markError)
  cqConfigure : ∀ s cq, hasBits s.cq.control queueEnable = false → cq.control = s.cq.control → cq.head = s.cq.head →
    cq.tail = s.cq.tail → (Configured s.cq.base s.cq.depth → Configured cq.base cq.depth) →
    property s → property (s.setCq cq)
  cqConsume : ∀ s value, value < s.cq.depth →
    (value - s.cq.head) &&& (s.cq.depth - 1) ≤ (s.cq.tail - s.cq.head) &&& (s.cq.depth - 1) →
    property s → property (checkInvariants (s.setCq (s.cq.consume value).updateBackpressure))
  cqEnable : ∀ s control, s.sq = origin.sq → s.cq = origin.cq → hasBits s.device.status statusResetting = false →
    (hasBits control queueEnable = true → s.cq.base ≠ 0 ∧ validDepth s.cq.depth = true) →
    property s → property (updateQueueReady (s.setCq (s.cq.enable control).updateBackpressure))

namespace Stable

variable {host : Host σ} {property : State σ → Prop} {origin s : State σ}

section
variable (stable : Stable host origin property) (holds : property s)
include stable holds

theorem change (next : State σ) (inside : Inside s next) :
    property next := stable.inside s next inside holds

theorem setError (error : U32) : property (setError s error) :=
  stable.raise _ intrError (stable.errorStatus s (s.signals.errorStatus ||| error) holds)

theorem require (assertion : Assertion) (met : Bool) :
    property (require s assertion met) := by
  cases met with
  | true => exact holds
  | false => exact stable.failed s [assertion] holds

theorem checkInvariants : property (checkInvariants s) :=
  stable.failed s _ holds

theorem checkpointHit (checkpoint : U32) :
    property (checkpointHit s checkpoint).2 := by
  unfold Pcie.checkpointHit
  split
  · exact holds
  · exact stable.inside s _ { Inside.refl s with } holds

/-- A result that the firmware is going to answer leaves nothing to discard. -/
theorem reportEngineResult (completion : Completion) (discard : Bool) :
    property (reportEngineResult s completion discard).2 := by
  unfold Pcie.reportEngineResult
  dsimp only
  generalize checks : Pcie.require (Pcie.require s .reportBridgeIdle (!s.bridge.inflight)) .reportNotDiscarding
    (!s.bridge.discardCompletion) = checked
  have bridge : checked.bridge = s.bridge := checks ▸ rfl
  have held : property checked := checks ▸ stable.require (stable.require holds _ _) _ _
  have waits (timer : Option Nat) (timed : discard = true → timer ≠ none) : property
      (checked.setBridge { s.bridge.awaitFirmware discard with firmwareAckTimer := timer }) := by
    refine stable.inside checked _ { Inside.refl checked with answer := ?_, request := ?_, discard := ?_ } held
    · exact bridge ▸ id
    · exact bridge ▸ id
    · exact fun discards unarmed => absurd unarmed (timed discards)
  have sent (waiting : State σ) (waited : property waiting) :
      property (chrWriteAll waiting .engineResult completion.toBytes).2 :=
    stable.send waiting .engineResult _ completion.length_toBytes (by decide) waited
  split
  · exact stable.setError held _
  · by_cases writable : checked.link.writable
    · have writes (b : Bridge) := chrWriteAll_writable (s := checked.setBridge b) writable .engineResult completion.toBytes
      rw [writes, if_pos rfl]
      cases discard with
      | false =>
          have whole := sent _ (waits s.bridge.firmwareAckTimer nofun)
          rw [writes] at whole
          exact stable.checkInvariants whole
      | true =>
          -- The frame and the timer are independent, so the timer may be armed first.
          have whole (timer : Nat) := sent _ (waits (some timer) fun _ => Option.some_ne_none timer)
          simp only [writes] at whole
          exact stable.checkInvariants (whole _)
    · have refused (b : Bridge) : chrWriteAll (checked.setBridge b) .engineResult completion.toBytes =
          (false, checked.setBridge b) := if_neg writable
      rw [refused, if_neg Bool.false_ne_true]
      have released : property (checked.setBridge s.bridge.release) := by
        refine stable.inside checked _ { Inside.refl checked with answer := ?_, request := ?_, discard := ?_ } held
        · exact bridge ▸ id
        · exact bridge ▸ id
        · exact fun discards => absurd discards Bool.false_ne_true
      exact stable.setError released _

theorem handEngineResult (completion : Completion) :
    property (handEngineResult host s completion).2 := by
  have reported := stable.reportEngineResult holds completion false
  unfold Pcie.handEngineResult
  dsimp only
  split
  · exact reported
  · exact stable.publish _ completion reported

theorem cancelEngine : property (cancelEngine s) :=
  stable.checkInvariants (stable.inside s _
    { Inside.refl s with request := fun _ => rfl, status := clearBits_cleared _ _ } holds)

theorem storeCompletion (completion : Completion) :
    property (storeCompletion s completion) := stable.inside s _ { Inside.refl s with } holds

/-- A command in flight on the bridge is cancelled only where the property allows it. -/
theorem cancelCommand (errorCode : U16)
    (cancels : s.bridge.inflight = true → property (cancelBridgeRequest s)) : property (cancelCommand s errorCode) := by
  have cancelled : property (cancelBridgeRequest s) := by
    by_cases inflight : s.bridge.inflight
    · exact cancels inflight
    · have same : cancelBridgeRequest s = s := by
        rw [cancelBridgeRequest, Bridge.cancelRequest, if_neg inflight]
        rfl
      rw [same]
      exact holds
  unfold Pcie.cancelCommand
  split
  · exact stable.reportEngineResult (stable.storeCompletion (stable.cancelEngine cancelled) _) _ true
  · exact stable.cancelEngine cancelled

theorem queueReset (cancels : s.bridge.inflight = true → property (cancelBridgeRequest s)) : property (queueReset s) :=
  stable.checkInvariants (stable.clearQueues _ (stable.cancelCommand holds errQueueReset cancels))

theorem deviceReset (cancels : s.bridge.inflight = true → property (cancelBridgeRequest s)) : property (deviceReset s) := by
  unfold Pcie.deviceReset
  split
  · exact stable.setError holds _
  · exact stable.checkInvariants (stable.clearDevice _ (stable.cancelCommand holds errReset cancels))

theorem armUnlessPaused : property (armUnlessPaused s) := by
  have paused := stable.checkpointHit holds checkpointEngineStart
  unfold Pcie.armUnlessPaused
  dsimp only
  split
  · exact holds
  · split
    · exact paused
    · exact stable.change paused _ { Inside.refl _ with }

end

theorem bridge_armUnlessPaused (s : State σ) : (Pcie.armUnlessPaused s).bridge = s.bridge := by
  unfold Pcie.armUnlessPaused Pcie.checkpointHit
  dsimp only
  split
  · rfl
  · split <;> split <;> rfl

section
variable (stable : Stable host origin property) (holds : property s)
include stable holds

/-- An injected reset meets the engine that has just started. -/
theorem injectReset (free : s.bridge.inflight = false) :
    property (if (Pcie.faultTrigger s faultResetActive).1 then Pcie.queueReset (Pcie.faultTrigger s faultResetActive).2
      else (Pcie.faultTrigger s faultResetActive).2) := by
  have triggered := stable.trigger s faultResetActive holds
  split
  · exact stable.queueReset triggered fun inflight => absurd (free.symm.trans inflight) Bool.false_ne_true
  · exact triggered

/-- The engine starts with nothing in flight on the bridge, so an injected reset cancels no request. -/
theorem scheduleEngine (free : s.bridge.inflight = false) :
    property (scheduleEngine s) := by
  have armed (t : State σ) (held : property t) (idle : t.bridge.inflight = false) (forceTimeout hung : Bool) :
      property (Pcie.checkInvariants (Pcie.armUnlessPaused (startEngine t forceTimeout hung))) ∧
        (Pcie.checkInvariants (Pcie.armUnlessPaused (startEngine t forceTimeout hung))).bridge.inflight = false := by
    have started : property (startEngine t forceTimeout hung) := stable.change held _
      { Inside.refl t with status := clearBits_set _ _, commands := List.suffix_cons _ _ }
    have bridge := bridge_armUnlessPaused (startEngine t forceTimeout hung)
    exact ⟨stable.checkInvariants (stable.armUnlessPaused started), (congrArg Bridge.inflight bridge).trans idle⟩
  have required := stable.require (stable.require holds .scheduleIdle (!s.engine.inflight)) .schedulePayload
    (isPayloadOpcode s.bridge.submission.opcode)
  have readied := stable.trigger _ faultEngineHang (stable.trigger _ faultDmaTimeout required)
  have ready := armed _ readied free
  unfold Pcie.scheduleEngine
  exact stable.injectReset (ready _ _).1 (ready _ _).2

theorem forwardSubmission (submission : Submission) :
    property (forwardSubmission s submission) := by
  unfold Pcie.forwardSubmission
  dsimp only
  generalize waits : (holdSubmission s submission).setBridge (holdSubmission s submission).bridge.awaitAuthorization =
    waiting
  have waited : property waiting := waits ▸ stable.change holds _ { Inside.refl s with }
  have sq : waiting.sq = s.sq := waits ▸ rfl
  have moved (queue : SubmissionQueue) (base : queue.base = s.sq.base) (depth : queue.depth = s.sq.depth)
      (control : queue.control = s.sq.control) : property (waiting.setSq queue) :=
    stable.change waited _ { Inside.refl waiting with
      base := base.trans (congrArg _ sq.symm), depth := depth.trans (congrArg _ sq.symm),
      enabled := control.trans (congrArg _ sq.symm) }
  by_cases writable : waiting.link.writable
  · have sent := stable.send _ .submission _ submission.length_toBytes (by decide) (moved s.sq.advance rfl rfl rfl)
    rw [chrWriteAll_writable (by exact writable)] at sent
    rw [chrWriteAll_writable writable, if_pos rfl]
    exact stable.checkInvariants sent
  · rw [chrWriteAll, if_neg writable, if_neg Bool.false_ne_true]
    have marked := moved s.sq.markError rfl rfl rfl
    exact stable.setError (stable.change marked _ (by exact { Inside.refl _ with })) _

theorem dispatchStandalone (free : s.bridge.inflight = false)
    (submission : Submission) : property (dispatchStandalone host s submission).2 := by
  have advanced : property (s.setSq s.sq.advance) := stable.change holds _ { Inside.refl s with }
  unfold Pcie.dispatchStandalone
  dsimp only
  split
  · refine stable.scheduleEngine ?_ free
    exact stable.storeCompletion (stable.change advanced _ (by exact { Inside.refl _ with })) _
  · exact stable.publish _ _ advanced

theorem dmaRead (address : U64) (count : Nat) :
    property (dmaRead host s address count).2 := stable.change holds _ { Inside.refl s with }

theorem fetchSubmission (free : s.bridge.inflight = false) :
    property (fetchSubmission host s).2 := by
  have read := stable.dmaRead holds (s.sq.base + s.sq.head.setWidth 64 * BitVec.ofNat 64 submissionSize) submissionSize
  unfold Pcie.fetchSubmission
  dsimp only
  split
  · exact stable.setError (stable.change read _ (by exact { Inside.refl _ with })) _
  · next bytes found =>
      have counted : property (countFetch (Pcie.dmaRead host s _ submissionSize).2 (Submission.ofBytes bytes)) :=
        stable.change read _ (by exact { Inside.refl _ with commands := List.suffix_cons _ _ })
      split
      · exact stable.forwardSubmission counted _
      · exact stable.dispatchStandalone counted free _

theorem fetchLoop (fuel : Nat) : property (fetchLoop host fuel s) := by
  induction fuel generalizing s with
  | zero => exact holds
  | succ fuel ih =>
      unfold Pcie.fetchLoop
      dsimp only
      split
      · next ready =>
          have fetched := stable.fetchSubmission holds (idle_of_sqReady ready).1
          split
          · exact ih fetched
          · exact fetched
      · exact holds

end

/-- The state is checked first, whether the device may fetch or not. -/
theorem processSq (stable : Stable host origin property) (checked : property (Pcie.checkInvariants s)) :
    property (processSq host s) := by
  unfold Pcie.processSq
  split
  · exact stable.fetchLoop checked _
  · exact checked

section
variable (stable : Stable host origin property) (holds : property s)
include stable holds

theorem serviceSq : property (Pcie.processSq host s) :=
  stable.processSq (stable.checkInvariants holds)

theorem engineReset : property (engineReset host s) := by
  have stopped : property (advanceEpoch (stopEngine s)) := stable.change holds _
    { Inside.refl s with request := fun _ => rfl, status := clearBits_cleared _ _ }
  unfold Pcie.engineReset
  dsimp only
  split
  · have handed := stable.handEngineResult (stable.storeCompletion stopped (resetResult s errReset)) (resetResult s errReset)
    split
    · exact stable.checkInvariants handed
    · exact handed
  · exact stable.serviceSq (stable.checkInvariants stopped)

theorem checkpointRelease : property (checkpointRelease host s) := by
  have checked := stable.require holds .checkpointReached (s.checkpoint.status != checkpointNone)
  have released : property ((Pcie.require s .checkpointReached (s.checkpoint.status != checkpointNone)).setCheckpoint
      { s.checkpoint with status := checkpointNone }) := stable.change checked _ { Inside.refl _ with }
  unfold Pcie.checkpointRelease
  dsimp only
  split
  · have running := stable.require (stable.require released .releaseRunning s.engine.inflight) .releaseNotHung
      (!s.engine.hung)
    exact stable.checkInvariants (stable.change running _ (by exact { Inside.refl _ with }))
  · have publishing := stable.require released .releasePublish (s.checkpoint.status == checkpointCqPublish)
    have handed := stable.handEngineResult publishing s.bridge.completion
    split
    · exact publishing
    · split
      · exact stable.checkInvariants handed
      · exact handed

theorem finishPayload : property (finishPayload host s) := by
  have bus : BusStable host property :=
    ⟨fun s fault _ => stable.trigger s fault, fun _ _ _ held => stable.dmaRead held _ _,
      fun s _ _ held => stable.change held _ { Inside.refl s with }, fun s _ held => stable.change held _ { Inside.refl s with }⟩
  have executed := bus.executePayload holds s.bridge.submission s.bridge.completion
  unfold Pcie.finishPayload
  split
  · exact stable.change (stable.storeCompletion holds _) _ (by exact { Inside.refl _ with })
  · exact stable.change (stable.storeCompletion executed _) _ (by exact { Inside.refl _ with })

theorem engineComplete : property (engineComplete host s) := by
  have running := stable.require (stable.checkInvariants holds) .completeRunning s.engine.inflight
  have stopped : property (finishEngine (Pcie.require (Pcie.checkInvariants s) .completeRunning s.engine.inflight)) :=
    stable.change running _ (by exact { Inside.refl _ with request := fun _ => rfl, status := clearBits_cleared _ _ })
  have idle := stable.checkInvariants stopped
  have finished := stable.finishPayload idle
  have paused := stable.checkpointHit finished checkpointCqPublish
  unfold Pcie.engineComplete
  dsimp only
  split
  · exact idle
  · split
    · exact finished
    · split
      · exact stable.checkInvariants paused
      · exact stable.handEngineResult paused _

theorem firmwareAckTimeout :
    property (firmwareAckTimeout host (s.setBridge { s.bridge with firmwareAckTimer := none })) := by
  have checked := stable.require holds .ackTimeoutDiscarding s.bridge.discardCompletion
  have released : property ((Pcie.require s .ackTimeoutDiscarding s.bridge.discardCompletion).setBridge
      { s.bridge with firmwareAckTimer := none, discardCompletion := false, completionRx := [] }) :=
    stable.change checked _ { Inside.refl _ with
      answer := fun _ => rfl, discard := fun discards => absurd discards Bool.false_ne_true }
  unfold Pcie.firmwareAckTimeout
  refine stable.serviceSq (stable.checkInvariants (stable.setError (stable.change released _ ?_) _))
  exact { Inside.refl _ with }

theorem bridgeClosed : property (bridgeClosed host s) := by
  unfold Pcie.bridgeClosed
  split
  · dsimp only
    have closed := stable.setError (stable.change (stable.cancelEngine holds) ((Pcie.cancelEngine s).setBridge
      s.bridge.close) { Inside.refl _ with
        answer := fun _ => rfl, request := fun _ => rfl, discard := fun discards => absurd discards Bool.false_ne_true })
      (errorDma ||| errorQueue)
    split
    · exact stable.serviceSq (stable.checkInvariants (stable.publish _ _ closed))
    · exact stable.serviceSq (stable.checkInvariants closed)
  · exact holds

theorem reportReserved (value defined : U32) :
    property (reportReserved s value defined) := by
  unfold Pcie.reportReserved
  split
  · exact stable.setError holds _
  · exact holds

end

/-- Reporting reserved bits leaves the bridge and the queues alone. -/
theorem reserved_parts (s : State σ) (value defined : U32) :
    (Pcie.reportReserved s value defined).bridge = s.bridge ∧ (Pcie.reportReserved s value defined).device = s.device ∧
      (Pcie.reportReserved s value defined).sq = s.sq ∧ (Pcie.reportReserved s value defined).cq = s.cq := by
  unfold Pcie.reportReserved
  split <;> exact ⟨rfl, rfl, rfl, rfl⟩

section
variable (stable : Stable host origin property) (holds : property s)
include stable holds

theorem writeDeviceControl (value : U32)
    (cancels : hasBits value controlReset = true → ∀ t : State σ, t.bridge = s.bridge → property t →
      t.bridge.inflight = true → property (cancelBridgeRequest t)) : property (writeDeviceControl host s value) := by
  have reported := stable.reportReserved holds value controlDefined
  have quiesced : hasBits (value &&& controlQuiesce) controlEnable = false := by
    rw [hasBits, BitVec.and_assoc]
    simp [controlQuiesce, controlEnable]
  unfold Pcie.writeDeviceControl
  dsimp only
  split
  · next resets =>
      exact stable.deviceReset reported (cancels resets _ (reserved_parts s value controlDefined).1 reported)
  · split
    · unfold enableDevice
      split
      · exact stable.setError reported _
      · next enabled =>
          simp only [Bool.or_eq_true, Bool.not_eq_true', not_or, Bool.not_eq_false] at enabled
          exact stable.serviceSq (stable.control _ _ (fun _ => enabled.1) reported)
    · exact stable.control _ _ (fun enables => absurd (quiesced.symm.trans enables) Bool.false_ne_true) reported

theorem writeSqBase (value : U32) :
    property (writeSqBaseLo s value) ∧ property (writeSqBaseHi s value) := by
  constructor
  · unfold writeSqBaseLo
    split
    · exact stable.setError holds _
    · exact stable.change holds _ { Inside.refl s with }
  · unfold writeSqBaseHi
    dsimp only
    split
    · exact stable.setError holds _
    · next accepted =>
        simp only [Bool.or_eq_true, not_or, Bool.not_eq_true] at accepted
        exact stable.sqConfigure s _ accepted.1 rfl (fun configured => ⟨accepted.2, configured.2⟩) holds

theorem writeSqDepth (value : U32) :
    property (writeSqDepth s value) := by
  unfold Pcie.writeSqDepth
  split
  · exact stable.setError holds _
  · next accepted =>
      simp only [Bool.or_eq_true, Bool.and_eq_true, not_or, not_and, Bool.not_eq_true, bne_iff_ne,
        Bool.not_eq_false'] at accepted
      refine stable.sqConfigure s _ accepted.1 rfl (fun configured => ⟨configured.1, ?_⟩) holds
      by_cases none : value = 0
      · exact .inl none
      · exact .inr (accepted.2 none)

theorem writeSqDoorbell (value : U32) :
    property (writeSqDoorbell host s value) := by
  have rejected : property (rejectSqDoorbell s) :=
    stable.setError (stable.change holds _ (by exact { Inside.refl s with })) _
  unfold Pcie.writeSqDoorbell
  dsimp only
  split
  · exact rejected
  · split
    · exact rejected
    · exact stable.serviceSq (stable.change holds _ (by exact { Inside.refl s with }))

end

theorem writeSqControl (stable : Stable host s property) (holds : property s) (value : U32)
    (ready : hasBits s.device.status statusResetting = false)
    (cancels : hasBits value queueResetBit = true → ∀ t : State σ, t.bridge = s.bridge → property t →
      t.bridge.inflight = true → property (cancelBridgeRequest t)) : property (writeSqControl s value) := by
  have reported := stable.reportReserved holds value queueControlDefined
  obtain ⟨bridge, device, sq, cq⟩ := reserved_parts s value queueControlDefined
  unfold Pcie.writeSqControl
  dsimp only
  split
  · next resets => exact stable.queueReset reported (cancels resets _ bridge reported)
  · unfold enableSq
    split
    · exact stable.setError reported _
    · next accepted =>
        simp only [Bool.and_eq_true, Bool.or_eq_true, beq_iff_eq, Bool.not_eq_true', not_and, not_or,
          Bool.not_eq_false] at accepted
        refine stable.sqEnable _ _ sq cq (by rw [device]; exact ready) (fun enables => ?_) reported
        rw [hasBits_masked] at enables
        exact accepted enables

section
variable (stable : Stable host origin property) (holds : property s)
include stable holds

theorem writeCqBase (value : U32) :
    property (writeCqBaseLo s value) ∧ property (writeCqBaseHi s value) := by
  constructor
  · unfold writeCqBaseLo
    split
    · exact stable.setError holds _
    · next disabled => exact stable.cqConfigure s _ (by simpa using disabled) rfl rfl rfl id holds
  · unfold writeCqBaseHi
    dsimp only
    split
    · exact stable.setError holds _
    · next accepted =>
        simp only [Bool.or_eq_true, not_or, Bool.not_eq_true] at accepted
        exact stable.cqConfigure s _ accepted.1 rfl rfl rfl (fun configured => ⟨accepted.2, configured.2⟩) holds

theorem writeCqDepth (value : U32) :
    property (writeCqDepth s value) := by
  unfold Pcie.writeCqDepth
  split
  · exact stable.setError holds _
  · next accepted =>
      simp only [Bool.or_eq_true, Bool.and_eq_true, not_or, not_and, Bool.not_eq_true, bne_iff_ne,
        Bool.not_eq_false'] at accepted
      refine stable.cqConfigure s _ accepted.1 rfl rfl rfl (fun configured => ⟨configured.1, ?_⟩) holds
      by_cases none : value = 0
      · exact .inl none
      · exact .inr (accepted.2 none).1

theorem writeCqWatermark (value : U32) :
    property (writeCqWatermark s value) := by
  unfold Pcie.writeCqWatermark
  dsimp only
  split
  · exact stable.setError holds _
  · next accepted =>
      simp only [Bool.or_eq_true, not_or, Bool.not_eq_true] at accepted
      exact stable.cqConfigure s _ accepted.1.1.1.1 rfl rfl rfl id holds

theorem writeCqDoorbell (value : U32) :
    property (writeCqDoorbell host s value) := by
  have rejected : property (rejectCqDoorbell s) := stable.setError (stable.cqMark s holds) _
  unfold Pcie.writeCqDoorbell
  dsimp only
  split
  · exact rejected
  · next inside =>
      simp only [Bool.or_eq_true, decide_eq_true_eq, not_or] at inside
      split
      · exact rejected
      · next produced =>
          exact stable.processSq (stable.cqConsume s value (BitVec.not_le.mp inside.2) (BitVec.not_lt.mp produced) holds)

end

theorem writeCqControl (stable : Stable host s property) (holds : property s) (value : U32)
    (ready : hasBits s.device.status statusResetting = false)
    (cancels : hasBits value queueResetBit = true → ∀ t : State σ, t.bridge = s.bridge → property t →
      t.bridge.inflight = true → property (cancelBridgeRequest t)) : property (writeCqControl s value) := by
  have reported := stable.reportReserved holds value queueControlDefined
  obtain ⟨bridge, device, sq, cq⟩ := reserved_parts s value queueControlDefined
  unfold Pcie.writeCqControl
  dsimp only
  split
  · next resets => exact stable.queueReset reported (cancels resets _ bridge reported)
  · unfold enableCq
    split
    · exact stable.setError reported _
    · next accepted =>
        simp only [Bool.and_eq_true, Bool.or_eq_true, beq_iff_eq, Bool.not_eq_true', not_and, not_or,
          Bool.not_eq_false] at accepted
        refine stable.cqEnable _ _ sq cq (by rw [device]; exact ready) (fun enables => ?_) reported
        rw [hasBits_masked] at enables
        exact accepted enables

theorem writeIntr (stable : Stable host origin property) (holds : property s) (value : U32) :
    property (writeErrorStatus s value) ∧ property (writeIntrForce s value) ∧ property (writeIntrCoalesce s value) := by
  refine ⟨stable.reportReserved (stable.errorStatus s _ holds) _ _, ?_, ?_⟩
  · unfold writeIntrForce
    split
    · exact stable.setError holds _
    · exact stable.raise _ _ (stable.reportReserved holds _ _)
  · unfold writeIntrCoalesce
    split
    · exact stable.setError holds _
    · exact stable.coalesce s value holds

theorem writeDebug (stable : Stable host origin property) (holds : property s) (value : U32) :
    property (writeFaultControl s value) ∧ property (writeFaultArg s value) ∧ property (writeFaultStatus s value) ∧
      property (writeDebugLock s value) ∧ property (writeCheckpointControl s value) ∧
      property (writeCheckpointRelease host s value) := by
  refine ⟨?_, ?_, ?_, ?_, ?_, ?_⟩
  · have reported := stable.reportReserved holds value faultDefined
    unfold writeFaultControl armFault
    split
    · exact reported
    · split
      · exact stable.setError reported _
      · exact stable.checkInvariants (stable.fault _ _ rfl reported)
  · unfold writeFaultArg
    split
    · exact stable.setError holds _
    · exact stable.fault s _ rfl holds
  · exact stable.reportReserved (stable.fault s _ (by rfl) holds) _ _
  · have reported := stable.reportReserved holds value 1
    unfold writeDebugLock
    dsimp only
    split
    · exact stable.setError reported _
    · split
      · exact stable.change (stable.fault _ { (Pcie.reportReserved s value 1).signals.fault with
          control := 0, remaining := 0 } rfl reported) _ (by exact { Inside.refl _ with })
      · exact reported
  · unfold writeCheckpointControl
    split
    · exact stable.setError holds _
    · exact stable.checkInvariants (stable.change holds _ (by exact { Inside.refl s with }))
  · unfold writeCheckpointRelease
    split
    · exact stable.setError holds _
    · exact stable.checkpointRelease holds

theorem writeRegister (stable : Stable host s property) (holds : property s) (register : Register) (value : U32)
    (ready : register = .sqControl ∨ register = .cqControl → hasBits s.device.status statusResetting = false)
    (cancels : cancelsCommand register value = true → ∀ t : State σ, t.bridge = s.bridge → property t →
      t.bridge.inflight = true → property (cancelBridgeRequest t)) : property (writeRegister host s register value) := by
  cases register with
  | deviceControl => exact stable.writeDeviceControl holds value cancels
  | sqBaseLo => exact (stable.writeSqBase holds value).1
  | sqBaseHi => exact (stable.writeSqBase holds value).2
  | sqDepth => exact stable.writeSqDepth holds value
  | sqDoorbell => exact stable.writeSqDoorbell holds value
  | sqControl => exact stable.writeSqControl holds value (ready (.inl rfl)) cancels
  | cqBaseLo => exact (stable.writeCqBase holds value).1
  | cqBaseHi => exact (stable.writeCqBase holds value).2
  | cqDepth => exact stable.writeCqDepth holds value
  | cqDoorbell => exact stable.writeCqDoorbell holds value
  | cqControl => exact stable.writeCqControl holds value (ready (.inr rfl)) cancels
  | cqWatermark => exact stable.writeCqWatermark holds value
  | errorStatus => exact (stable.writeIntr holds value).1
  | intrStatus => exact stable.acknowledge s value holds
  | intrMask => exact stable.mask s value holds
  | intrForce => exact (stable.writeIntr holds value).2.1
  | intrCoalesce => exact (stable.writeIntr holds value).2.2
  | resetRequest =>
      unfold Pcie.writeRegister writeResetRequest
      dsimp only
      split
      · exact stable.setError holds _
      · exact stable.engineReset holds
  | faultControl => exact (stable.writeDebug holds value).1
  | faultArg => exact (stable.writeDebug holds value).2.1
  | faultStatus => exact (stable.writeDebug holds value).2.2.1
  | debugLock => exact (stable.writeDebug holds value).2.2.2.1
  | checkpointControl => exact (stable.writeDebug holds value).2.2.2.2.1
  | checkpointRelease => exact (stable.writeDebug holds value).2.2.2.2.2
  | _ => exact stable.setError holds _

theorem bar0Write (stable : Stable host s property) (holds : property s) (offset : Nat) (value : U32) (size : Nat)
    (cancels : hostCancels (.write offset value size) = true → ∀ t : State σ, t.bridge = s.bridge → property t →
      t.bridge.inflight = true → property (cancelBridgeRequest t)) : property (bar0Write host s offset value size) := by
  unfold Pcie.bar0Write
  split_ifs with malformed hidden resetting
  · exact stable.setError holds _
  · exact stable.setError holds _
  · exact stable.setError holds _
  · split
    · exact stable.setError holds _
    next register found =>
      obtain rfl := Register.offset_of_ofOffset found
      have ready (inside : Register.sqBaseLo.offset ≤ register.offset ∧
          register.offset ≤ Register.cqBackpressureCount.offset) :
          hasBits s.device.status statusResetting = false := by
        by_contra busy
        exact resetting ⟨inside.1, inside.2, by simpa using busy⟩
      refine stable.writeRegister holds register value ?_ fun asked => cancels ?_
      · rintro (rfl | rfl)
        · exact ready (by decide)
        · exact ready (by decide)
      · rw [hostCancels, found]
        exact asked

theorem bar0Read (stable : Stable host origin property) (holds : property s) (offset size : Nat) :
    property (bar0Read s offset size).2 := by
  unfold Pcie.bar0Read
  split_ifs
  · exact stable.setError holds _
  · exact stable.setError holds _
  · split
    · exact stable.setError holds _
    · exact stable.checkInvariants holds
    · exact holds

/-- Every event but a frame is made of the parts. A reset of the host may cancel a request on the bridge. -/
theorem step (stable : Stable host s property) (holds : property s) {next : State σ} {event : Event}
    (stepped : step host s event = some next) (inside : ∀ bytes, event ≠ .receive bytes)
    (cancels : hostCancels event = true → ∀ t : State σ, t.bridge = s.bridge → property t →
      t.bridge.inflight = true → property (cancelBridgeRequest t)) : property next := by
  cases event with
  | write offset value size =>
      obtain rfl := Option.some.inj stepped
      exact stable.bar0Write holds offset value size cancels
  | read offset size =>
      obtain rfl := Option.some.inj stepped
      exact stable.bar0Read holds offset size
  | engineTimer =>
      obtain ⟨-, rfl⟩ := EventMachine.guarded stepped
      exact stable.engineComplete (stable.change holds _ (by exact { Inside.refl s with }))
  | resetTimer =>
      obtain ⟨fired, rfl⟩ := EventMachine.guarded stepped
      have armed : s.device.resetTimer ≠ none := by
        intro none
        rw [none] at fired
        exact absurd fired Bool.false_ne_true
      exact stable.raise _ intrResetDone (stable.resetDone s armed holds)
  | firmwareAckTimer =>
      obtain ⟨-, rfl⟩ := EventMachine.guarded stepped
      exact stable.firmwareAckTimeout holds
  | receive bytes => exact absurd rfl (inside bytes)
  | closed =>
      obtain rfl := Option.some.inj stepped
      exact stable.bridgeClosed holds
  | link writable =>
      obtain rfl := Option.some.inj stepped
      exact stable.change holds _ (by exact { Inside.refl s with })
  | busMaster enabled =>
      obtain rfl := Option.some.inj stepped
      exact stable.change holds _ (by exact { Inside.refl s with })
  | tick nowNs =>
      obtain ⟨-, rfl⟩ := EventMachine.guarded stepped
      exact stable.change holds _ (by exact { Inside.refl s with })

theorem stopForFirmware (stable : Stable host origin property) (holds : property s) : property (stopForFirmware s) :=
  stable.change (stable.cancelEngine holds) _ (by exact { Inside.refl _ with })

theorem ackManagementReset (stable : Stable host origin property) (completion : Completion)
    (echoed : property (chrWriteAll s .resetAcknowledgment completion.toBytes).2) :
    property (ackManagementReset s completion) := by
  unfold Pcie.ackManagementReset
  dsimp only
  split
  · exact echoed
  · exact stable.setError echoed _

section
variable (stable : Stable host origin property) (holds : property s)
include stable holds

theorem acceptFirmwareReset (request : Completion)
    (echo : isManagementReset request = true → ∀ t, property t →
      property (chrWriteAll t .resetAcknowledgment request.toBytes).2) : property (acceptFirmwareReset host s request) := by
  have published := stable.publish _ (untag request)
    (stable.storeCompletion (stable.stopForFirmware holds) (untag request))
  unfold Pcie.acceptFirmwareReset
  dsimp only
  split
  · next tagged => exact stable.ackManagementReset request (echo tagged _ published)
  · exact published

/-- The endpoint answers the aborted command itself when its result does not reach the firmware. -/
theorem reportOrFail (completion : Completion) :
    property
      (if (Pcie.reportEngineResult (Pcie.storeCompletion s completion) completion false).1 then
        (Pcie.reportEngineResult (Pcie.storeCompletion s completion) completion false).2
      else
        (publishCompletion host (Pcie.storeCompletion
          (Pcie.reportEngineResult (Pcie.storeCompletion s completion) completion false).2
          (completeDmaError completion errEngine)) (completeDmaError completion errEngine)).2) := by
  have reported := stable.reportEngineResult (stable.storeCompletion holds completion) completion false
  split
  · exact reported
  · exact stable.publish _ _ (stable.storeCompletion reported _)

theorem abortByFirmware (request : Completion) (valid : Bool) :
    property (abortByFirmware host s request valid) := by
  have stopped := stable.stopForFirmware holds
  refine stable.reportOrFail ?_ _
  split
  · exact stable.change stopped _ (by exact { Inside.refl _ with })
  · exact stable.setError stopped _

theorem receiveControl (request : Completion)
    (echo : isManagementReset request = true → ∀ t, property t →
      property (chrWriteAll t .resetAcknowledgment request.toBytes).2) : property (receiveControl host s request) := by
  unfold Pcie.receiveControl
  dsimp only
  split
  · exact stable.acceptFirmwareReset holds request echo
  · exact stable.abortByFirmware holds request _

theorem receiveAnswer (completion : Completion)
    (echo : isManagementReset completion = true → ∀ t, property t →
      property (chrWriteAll t .resetAcknowledgment completion.toBytes).2) :
    property (receiveAnswer host s completion) := by
  have answered : property (takeAnswer s completion) := stable.change holds _ { Inside.refl s with }
  unfold Pcie.receiveAnswer
  dsimp only
  split
  · exact stable.scheduleEngine answered rfl
  · split
    · next tagged =>
        have published := stable.publish _ (untag completion) (stable.storeCompletion answered (untag completion))
        exact stable.serviceSq (stable.ackManagementReset completion (echo tagged _ published))
    · exact stable.serviceSq (stable.publish _ completion answered)

theorem receiveDiscarded (completion : Completion) :
    property (receiveDiscarded host s completion) :=
  stable.serviceSq (stable.checkInvariants (stable.change holds _ (by
    exact { Inside.refl s with discard := fun discards => absurd discards Bool.false_ne_true })))

/-- A frame is a step like the others, up to the echo of a management reset and the bytes of an unfinished frame. -/
theorem bridgeReceive (bytes : List U8)
    (echo : ∀ completion t, isManagementReset completion = true → property t →
      property (chrWriteAll t .resetAcknowledgment completion.toBytes).2)
    (pieces : ∀ t, property t → ∀ bridge, bridge.discardCompletion = t.bridge.discardCompletion →
      bridge.firmwareAckTimer = t.bridge.firmwareAckTimer → property (t.setBridge bridge)) :
    property (bridgeReceive host s bytes) := by
  have checked := stable.checkInvariants holds
  unfold Pcie.bridgeReceive
  dsimp only
  split
  · have roomy := stable.require checked .receiveControlRoom ((s.bridge.controlRx ++ bytes).length ≤ completionSize)
    have stored := pieces _ roomy { s.bridge with controlRx := s.bridge.controlRx ++ bytes } rfl rfl
    split
    · exact stored
    · exact stable.receiveControl stored _ fun tagged t => echo _ t tagged
  · have expected := stable.require checked .receiveExpected (s.bridge.inflight || s.bridge.discardCompletion)
    have roomy := stable.require expected .receiveCompletionRoom ((s.bridge.completionRx ++ bytes).length ≤ completionSize)
    split
    · exact pieces _ roomy { s.bridge with completionRx := s.bridge.completionRx ++ bytes } rfl rfl
    · have emptied := pieces _ roomy { s.bridge with completionRx := [] } rfl rfl
      split
      · exact stable.receiveDiscarded emptied _
      · exact stable.receiveAnswer emptied _ fun tagged t => echo _ t tagged

end

/-- Every event keeps a property that also survives echoes and unfinished frames. -/
theorem always (stable : Stable host s property)
    (echo : ∀ completion t, isManagementReset completion = true → property t →
      property (chrWriteAll t .resetAcknowledgment completion.toBytes).2)
    (pieces : ∀ t, property t → ∀ bridge, bridge.discardCompletion = t.bridge.discardCompletion →
      bridge.firmwareAckTimer = t.bridge.firmwareAckTimer → property (t.setBridge bridge))
    {next : State σ} {event : Event} (holds : property s) (stepped : Pcie.step host s event = some next)
    (cancels : hostCancels event = true → ∀ t : State σ, t.bridge = s.bridge → property t →
      t.bridge.inflight = true → property (cancelBridgeRequest t)) : property next := by
  cases event with
  | receive bytes =>
      obtain ⟨-, rfl⟩ := EventMachine.guarded stepped
      exact stable.bridgeReceive holds bytes echo pieces
  | _ => exact stable.step holds stepped (fun _ => nofun) cancels

end Stable

end VamsSoc.Pcie
