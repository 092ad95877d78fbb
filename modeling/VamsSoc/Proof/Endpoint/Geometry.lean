/-
This file follows the ring indices of the endpoint through every event.
-/

import VamsSoc.Construction.Endpoint.Machine
import VamsSoc.Proof.Endpoint.PayloadFrame

namespace VamsSoc.Pcie
open Library Abi

variable {σ : Type}

/-- The assertions of `vams_pcie_check_invariants` about the geometry of the rings. -/
def Assertion.geometry : Assertion → Bool
  | .sqDepthMinimum | .sqDepthMaximum | .sqDepthPowerOf2 | .sqHeadInside | .sqTailInside
  | .cqDepthMinimum | .cqDepthMaximum | .cqDepthPowerOf2 | .cqHeadInside | .cqTailInside
  | .watermarkHighInside | .watermarkOrdered => true
  | _ => false

/-- The rings are well formed, and no geometry assertion has failed on the way. -/
structure QueueGeometry (s : State σ) : Prop where
  sq : s.sq.depth ≠ 0 → isPowerOf2 s.sq.depth ∧ s.sq.head < s.sq.depth ∧ s.sq.tail < s.sq.depth
  cq : s.cq.depth ≠ 0 → isPowerOf2 s.cq.depth ∧ s.cq.head < s.cq.depth ∧ s.cq.tail < s.cq.depth ∧
    (s.cq.watermarkHigh ≠ 0 → s.cq.watermarkLow < s.cq.watermarkHigh ∧ s.cq.watermarkHigh < s.cq.depth)
  unaborted : ∀ assertion ∈ s.signals.failed, assertion.geometry = false

structure SubmissionQueue.Geometry (queue : SubmissionQueue) : Prop where
  valid : queue.depth ≠ 0 → validDepth queue.depth
  head : queue.depth ≠ 0 → queue.head < queue.depth
  tail : queue.depth ≠ 0 → queue.tail < queue.depth

/-- A configured watermark is ordered even while the queue has no depth. -/
structure CompletionQueue.Geometry (queue : CompletionQueue) : Prop where
  valid : queue.depth ≠ 0 → validDepth queue.depth
  head : queue.depth ≠ 0 → queue.head < queue.depth
  tail : queue.depth ≠ 0 → queue.tail < queue.depth
  ordered : queue.watermarkHigh ≠ 0 → queue.watermarkLow < queue.watermarkHigh
  inside : queue.depth ≠ 0 → queue.watermarkHigh ≠ 0 → queue.watermarkHigh < queue.depth

def Signals.Clean (signals : Signals) : Prop :=
  ∀ assertion ∈ signals.failed, assertion.geometry = false

/-- This is the invariant that carries the geometry through a step. -/
structure Sound (s : State σ) : Prop where
  sq : s.sq.Geometry
  cq : s.cq.Geometry
  signals : s.signals.Clean

theorem Signals.Clean.require {signals : Signals} (clean : signals.Clean) (assertion : Assertion)
    (holds : Bool) (other : assertion.geometry = false) : (signals.require assertion holds).Clean := by
  unfold Signals.require
  split
  · exact clean
  · simpa [Signals.Clean, other] using clean

theorem Signals.Clean.faultTrigger {signals : Signals} (clean : signals.Clean) (fault : U32) :
    (signals.faultTrigger fault).2.Clean := by
  unfold Signals.faultTrigger
  have checked := clean.require .faultRemaining (signals.fault.remaining != 0) rfl
  dsimp only
  split
  · exact clean
  · split <;> exact checked

theorem Signals.Clean.raiseInterrupt {signals : Signals} (clean : signals.Clean) (sources : U32) :
    (signals.raiseInterrupt sources).Clean := by
  unfold Signals.raiseInterrupt
  dsimp only
  split
  · have raised : (signals.setLevel (signals.intrStatus ||| sources) signals.intrMask).Clean := clean
    have triggered := raised.faultTrigger faultDropCqInterrupt
    split <;> exact triggered
  · exact clean

theorem Signals.Clean.setError {signals : Signals} (clean : signals.Clean) (error : U32) :
    (signals.setError error).Clean := by
  have marked : Signals.Clean { signals with errorStatus := signals.errorStatus ||| error } := clean
  exact marked.raiseInterrupt intrError

theorem SubmissionQueue.Geometry.assertions {queue : SubmissionQueue} (geometry : queue.Geometry)
    (check : Assertion × Bool) (listed : check ∈ queue.assertions) : check.2 = true := by
  unfold SubmissionQueue.assertions at listed
  split at listed
  · simp at listed
  next nonzero =>
    have valid := geometry.valid nonzero
    have head := geometry.head nonzero
    have tail := geometry.tail nonzero
    simp only [validDepth, isPowerOf2, Bool.and_eq_true, decide_eq_true_eq] at valid
    simp only [List.mem_cons, List.not_mem_nil, or_false] at listed
    rcases listed with rfl | rfl | rfl | rfl | rfl <;> simp_all

theorem CompletionQueue.Geometry.assertions {queue : CompletionQueue} (geometry : queue.Geometry)
    (check : Assertion × Bool) (listed : check ∈ queue.assertions) : check.2 = true := by
  unfold CompletionQueue.assertions at listed
  dsimp only at listed
  split at listed
  · simp at listed
  next nonzero =>
    have valid := geometry.valid nonzero
    have head := geometry.head nonzero
    have tail := geometry.tail nonzero
    simp only [validDepth, isPowerOf2, Bool.and_eq_true, decide_eq_true_eq] at valid
    split at listed
    · simp only [List.mem_cons, List.not_mem_nil, or_false] at listed
      rcases listed with rfl | rfl | rfl | rfl | rfl <;> simp_all
    next configured =>
      have ordered := geometry.ordered configured
      have inside := geometry.inside nonzero configured
      simp only [List.mem_append, List.mem_cons, List.not_mem_nil, or_false] at listed
      rcases listed with (rfl | rfl | rfl | rfl | rfl) | rfl | rfl <;> simp_all

theorem ownershipAssertions_geometry (s : State σ) (check : Assertion × Bool)
    (listed : check ∈ ownershipAssertions s) : check.1.geometry = false := by
  unfold ownershipAssertions at listed
  dsimp only at listed
  split at listed
  all_goals
    simp only [List.mem_append, List.mem_cons, List.not_mem_nil, or_false] at listed
    casesm* _ ∨ _ <;> subst check <;> rfl

section
variable {s : State σ} (sound : Sound s)
include sound

/-- A well-formed state fails no geometry assertion. -/
theorem Sound.violations :
    ∀ assertion ∈ violations s, assertion.geometry = false := by
  intro assertion violated
  simp only [Pcie.violations, List.mem_map, List.mem_filter, List.mem_append] at violated
  obtain ⟨check, ⟨(listed | listed) | listed, fails⟩, rfl⟩ := violated
  · simp [sound.sq.assertions check listed] at fails
  · simp [sound.cq.assertions check listed] at fails
  · exact ownershipAssertions_geometry s check listed

theorem Sound.checkInvariants : Sound (checkInvariants s) where
  sq := sound.sq
  cq := sound.cq
  signals := by
    intro assertion failed
    rcases List.mem_append.mp failed with violated | before
    · exact sound.violations assertion violated
    · exact sound.signals assertion before

theorem Sound.require (assertion : Assertion) (holds : Bool)
    (other : assertion.geometry = false) : Sound (require s assertion holds) :=
  ⟨sound.sq, sound.cq, sound.signals.require assertion holds other⟩

theorem Sound.raiseInterrupt (sources : U32) :
    Sound (raiseInterrupt s sources) :=
  ⟨sound.sq, sound.cq, sound.signals.raiseInterrupt sources⟩

theorem Sound.setError (error : U32) : Sound (setError s error) :=
  ⟨sound.sq, sound.cq, sound.signals.setError error⟩

theorem Sound.faultTrigger (fault : U32) : Sound (faultTrigger s fault).2 :=
  ⟨sound.sq, sound.cq, sound.signals.faultTrigger fault⟩

theorem Sound.checkpointHit (checkpoint : U32) :
    Sound (checkpointHit s checkpoint).2 := by
  unfold Pcie.checkpointHit
  split
  · exact sound
  · exact ⟨sound.sq, sound.cq, sound.signals⟩

theorem Sound.updateQueueReady : Sound (updateQueueReady s) := by
  unfold Pcie.updateQueueReady
  split <;> exact ⟨sound.sq, sound.cq, sound.signals⟩

theorem Sound.chrWriteAll (kind : FrameKind) (bytes : List U8) :
    Sound (chrWriteAll s kind bytes).2 := by
  unfold Pcie.chrWriteAll
  split
  · exact ⟨sound.sq, sound.cq, sound.signals⟩
  · exact sound

theorem Sound.dmaRead (host : Host σ) (address : U64) (count : Nat) :
    Sound (dmaRead host s address count).2 :=
  ⟨sound.sq, sound.cq, sound.signals⟩

theorem Sound.dmaWrite (host : Host σ) (address : U64) (bytes : List U8) :
    Sound (dmaWrite host s address bytes).2 :=
  ⟨sound.sq, sound.cq, sound.signals⟩

theorem Sound.setBridge (bridge : Bridge) : Sound (s.setBridge bridge) :=
  ⟨sound.sq, sound.cq, sound.signals⟩

theorem Sound.setEngine (engine : Engine) : Sound (s.setEngine engine) :=
  ⟨sound.sq, sound.cq, sound.signals⟩

theorem Sound.setDevice (device : Device) : Sound (s.setDevice device) :=
  ⟨sound.sq, sound.cq, sound.signals⟩

theorem Sound.record (event : CommandEvent) : Sound (s.record event) :=
  ⟨sound.sq, sound.cq, sound.signals⟩

theorem Sound.setSq {sq : SubmissionQueue} (geometry : sq.Geometry) :
    Sound (s.setSq sq) :=
  ⟨geometry, sound.cq, sound.signals⟩

theorem Sound.setCq {cq : CompletionQueue} (geometry : cq.Geometry) :
    Sound (s.setCq cq) :=
  ⟨sound.sq, geometry, sound.signals⟩

end

theorem CompletionQueue.Geometry.updateBackpressure {queue : CompletionQueue} (geometry : queue.Geometry) :
    queue.updateBackpressure.Geometry := by
  obtain ⟨valid, head, tail, ordered, inside⟩ := geometry
  unfold CompletionQueue.updateBackpressure
  dsimp only
  split_ifs <;> exact ⟨valid, head, tail, ordered, inside⟩

/-- A masked index of a nonzero depth is inside it, whatever it was before. -/
theorem CompletionQueue.Geometry.advance {queue : CompletionQueue} (geometry : queue.Geometry) :
    queue.advance.Geometry :=
  { geometry with tail := fun nonzero => and_pred_lt _ _ nonzero }

theorem SubmissionQueue.Geometry.advance {queue : SubmissionQueue} (geometry : queue.Geometry) :
    queue.advance.Geometry :=
  { geometry with head := fun nonzero => and_pred_lt _ _ nonzero }

theorem SubmissionQueue.Geometry.markError {queue : SubmissionQueue} (geometry : queue.Geometry) :
    queue.markError.Geometry := { geometry with }

theorem CompletionQueue.Geometry.markError {queue : CompletionQueue} (geometry : queue.Geometry) :
    queue.markError.Geometry := { geometry with }

section
variable {s : State σ} (sound : Sound s)
include sound

theorem Sound.publishCompletion (host : Host σ) (completion : Completion) :
    Sound (publishCompletion host s completion).2 := by
  have logged := ((sound.checkInvariants.require .publishRoom (!s.cq.full) rfl).dmaWrite host
    (s.cq.base + s.cq.tail.setWidth 64 * BitVec.ofNat 64 completionSize) completion.toBytes).record
  unfold Pcie.publishCompletion
  dsimp only
  split
  · exact (((logged _).setCq sound.cq.advance.updateBackpressure).raiseInterrupt intrCq).checkInvariants
  · exact ((logged _).setCq sound.cq.markError).setError _

theorem Sound.reportEngineResult (completion : Completion) (discard : Bool) :
    Sound (reportEngineResult s completion discard).2 := by
  have checked := (sound.require .reportBridgeIdle (!s.bridge.inflight) rfl).require .reportNotDiscarding
    (!s.bridge.discardCompletion) rfl
  have written := (checked.setBridge (s.bridge.awaitFirmware discard)).chrWriteAll .engineResult
    completion.toBytes
  unfold Pcie.reportEngineResult armFirmwareAck
  dsimp only
  split_ifs
  · exact checked.setError _
  · exact (written.setBridge _).checkInvariants
  · exact written.checkInvariants
  · exact (written.setBridge _).setError _

theorem Sound.cancelEngine : Sound (cancelEngine s) :=
  Sound.checkInvariants ⟨sound.sq, sound.cq, sound.signals⟩

theorem Sound.abortEngineToFirmware (errorCode : U16) :
    Sound (abortEngineToFirmware s errorCode) :=
  (sound.cancelEngine.setBridge _).reportEngineResult _ true

theorem Sound.cancelCommand (errorCode : U16) :
    Sound (cancelCommand s errorCode) := by
  have cancelled : Sound (cancelBridgeRequest s) := sound.setBridge _
  unfold Pcie.cancelCommand
  split
  · exact cancelled.abortEngineToFirmware errorCode
  · exact cancelled.cancelEngine

/-- Zeroed indices are inside every depth. -/
theorem Sound.queueReset : Sound (queueReset s) := by
  have cancelled := sound.cancelCommand errQueueReset
  have inside {depth : U32} (nonzero : depth ≠ 0) : 0 < depth := by bv_omega
  have cleared : Sound (clearQueues (Pcie.cancelCommand s errQueueReset)) := {
    sq := ⟨cancelled.sq.valid, inside, inside⟩
    cq := ⟨cancelled.cq.valid, inside, inside, absurd rfl, fun _ => absurd rfl⟩
    signals := cancelled.signals }
  exact cleared.checkInvariants

theorem Sound.deviceReset : Sound (deviceReset s) := by
  have cancelled := sound.cancelCommand errReset
  have cleared : Sound (clearDevice (Pcie.cancelCommand s errReset)) := {
    sq := ⟨absurd rfl, absurd rfl, absurd rfl⟩
    cq := ⟨absurd rfl, absurd rfl, absurd rfl, absurd rfl, absurd rfl⟩
    signals := cancelled.signals }
  unfold Pcie.deviceReset
  split
  · exact sound.setError _
  · exact cleared.checkInvariants

theorem Sound.startEngine (forceTimeout hung : Bool) :
    Sound (startEngine s forceTimeout hung) :=
  ⟨sound.sq, sound.cq, sound.signals⟩

theorem Sound.armUnlessPaused : Sound (armUnlessPaused s) := by
  have paused := sound.checkpointHit checkpointEngineStart
  unfold Pcie.armUnlessPaused
  dsimp only
  split_ifs
  · exact sound
  · exact paused
  · exact paused.setEngine _

theorem Sound.scheduleEngine : Sound (scheduleEngine s) := by
  have checked := (sound.require .scheduleIdle (!s.engine.inflight) rfl).require .schedulePayload
    (isPayloadOpcode s.bridge.submission.opcode) rfl
  have started := (checked.faultTrigger faultDmaTimeout).faultTrigger faultEngineHang |>.startEngine
  unfold Pcie.scheduleEngine
  dsimp only
  split
  · exact ((started _ _).armUnlessPaused.checkInvariants.faultTrigger _).queueReset
  · exact (started _ _).armUnlessPaused.checkInvariants.faultTrigger _

theorem Sound.handEngineResult (host : Host σ) (completion : Completion) :
    Sound (handEngineResult host s completion).2 := by
  have reported := sound.reportEngineResult completion false
  unfold Pcie.handEngineResult
  dsimp only
  split
  · exact reported
  · exact reported.publishCompletion host completion

end

theorem Sound.busStable (host : Host σ) : BusStable host (fun s => Sound s) where
  fault _ fault _ sound := sound.faultTrigger fault
  read _ address count sound := sound.dmaRead host address count
  write _ address bytes sound := sound.dmaWrite host address bytes
  allocate _ _ sound := ⟨sound.sq, sound.cq, sound.signals⟩

section
variable {s : State σ} (sound : Sound s)
include sound

theorem Sound.executePayload (host : Host σ) (submission : Submission)
    (completion : Completion) : Sound (executePayload host s submission completion).2 :=
  (Sound.busStable host).executePayload sound submission completion

theorem Sound.engineComplete (host : Host σ) :
    Sound (engineComplete host s) := by
  have checked := sound.checkInvariants.require .completeRunning s.engine.inflight rfl
  have idle : Sound (Pcie.checkInvariants (finishEngine (Pcie.require (Pcie.checkInvariants s)
      .completeRunning s.engine.inflight))) :=
    Sound.checkInvariants ⟨checked.sq, checked.cq, checked.signals⟩
  have finished {s : State σ} (sound : Sound s) : Sound (finishPayload host s) := by
    unfold finishPayload
    dsimp only
    split
    · exact (sound.setBridge _).setEngine _
    · exact ((sound.executePayload host _ _).setBridge _).setEngine _
  unfold Pcie.engineComplete
  dsimp only
  split_ifs
  · exact idle
  · exact finished idle
  · exact ((finished idle).checkpointHit _).checkInvariants
  · exact ((finished idle).checkpointHit _).handEngineResult host _

theorem Sound.setHistory (history : History) : Sound (s.setHistory history) :=
  ⟨sound.sq, sound.cq, sound.signals⟩

theorem Sound.holdSubmission (submission : Submission) :
    Sound (holdSubmission s submission) :=
  ⟨sound.sq, sound.cq, sound.signals⟩

theorem Sound.forwardSubmission (submission : Submission) :
    Sound (forwardSubmission s submission) := by
  have written := ((sound.holdSubmission submission).setBridge
    (Pcie.holdSubmission s submission).bridge.awaitAuthorization).chrWriteAll .submission
    submission.toBytes
  unfold Pcie.forwardSubmission
  dsimp only
  split
  · exact (written.setSq sound.sq.advance).checkInvariants
  · exact ((written.setBridge _).setSq sound.sq.markError).setError _

theorem Sound.dispatchStandalone (host : Host σ) (submission : Submission) :
    Sound (dispatchStandalone host s submission).2 := by
  have advanced := sound.setSq sound.sq.advance
  unfold Pcie.dispatchStandalone
  dsimp only
  split
  · exact ((advanced.holdSubmission submission).setBridge _).scheduleEngine
  · exact advanced.publishCompletion host _

theorem Sound.fetchSubmission (host : Host σ) :
    Sound (fetchSubmission host s).2 := by
  have read := sound.dmaRead host (s.sq.base + s.sq.head.setWidth 64 * BitVec.ofNat 64 submissionSize)
    submissionSize
  unfold Pcie.fetchSubmission
  dsimp only
  split
  · exact (read.setSq sound.sq.markError).setError _
  · split
    · exact (read.setHistory _).forwardSubmission _
    · exact (read.setHistory _).dispatchStandalone host _

/-- The fetch loop keeps what one pass keeps. -/
theorem Sound.fetchLoop (host : Host σ) (fuel : Nat) :
    Sound (fetchLoop host fuel s) := by
  induction fuel generalizing s with
  | zero => exact sound
  | succ fuel ih =>
      have fetched := sound.fetchSubmission host
      unfold Pcie.fetchLoop
      dsimp only
      split_ifs
      · exact ih fetched
      · exact fetched
      · exact sound

theorem Sound.processSq (host : Host σ) : Sound (processSq host s) := by
  unfold Pcie.processSq
  split
  · exact sound.checkInvariants.fetchLoop host _
  · exact sound.checkInvariants

theorem Sound.firmwareAckTimeout (host : Host σ) :
    Sound (firmwareAckTimeout host s) := by
  have checked := sound.require .ackTimeoutDiscarding s.bridge.discardCompletion rfl
  exact (((checked.setBridge _).setDevice _).setError _).checkInvariants.processSq host

theorem Sound.engineReset (host : Host σ) : Sound (engineReset host s) := by
  have idle : Sound (advanceEpoch (stopEngine s)) := ⟨sound.sq, sound.cq, sound.signals⟩
  unfold Pcie.engineReset
  dsimp only
  split_ifs
  · exact ((idle.setBridge _).handEngineResult host _).checkInvariants
  · exact (idle.setBridge _).handEngineResult host _
  · exact idle.checkInvariants.processSq host

theorem Sound.checkpointRelease (host : Host σ) :
    Sound (checkpointRelease host s) := by
  have checked := sound.require .checkpointReached (s.checkpoint.status != checkpointNone) rfl
  have released : Sound ((Pcie.require s .checkpointReached (s.checkpoint.status != checkpointNone)).setCheckpoint
      { s.checkpoint with status := checkpointNone }) := ⟨checked.sq, checked.cq, checked.signals⟩
  have publishing := released.require .releasePublish (s.checkpoint.status == checkpointCqPublish) rfl
  unfold Pcie.checkpointRelease
  dsimp only
  split_ifs
  · exact (((released.require .releaseRunning _ rfl).require .releaseNotHung _ rfl).setEngine _).checkInvariants
  · exact publishing
  · exact (publishing.handEngineResult host _).checkInvariants
  · exact publishing.handEngineResult host _

theorem Sound.ackManagementReset (completion : Completion) :
    Sound (ackManagementReset s completion) := by
  have written := sound.chrWriteAll .resetAcknowledgment completion.toBytes
  unfold Pcie.ackManagementReset
  dsimp only
  split
  · exact written
  · exact written.setError _

theorem Sound.receiveControl (host : Host σ) (request : Completion) :
    Sound (receiveControl host s request) := by
  have stopped : Sound (stopForFirmware s) := sound.cancelEngine.setEngine _
  have published (bridge : Bridge) := (stopped.setBridge bridge).publishCompletion host (untag request)
  unfold Pcie.receiveControl acceptFirmwareReset abortByFirmware
  dsimp only
  split_ifs
  · exact (published _).ackManagementReset request
  · exact published _
  · exact ((stopped.setEngine _).setBridge _).reportEngineResult _ _
  · exact ((((stopped.setEngine _).setBridge _).reportEngineResult _ _).setBridge _).publishCompletion host _
  · exact ((stopped.setError _).setBridge _).reportEngineResult _ _
  · exact ((((stopped.setError _).setBridge _).reportEngineResult _ _).setBridge _).publishCompletion host _

theorem Sound.receiveAnswer (host : Host σ) (completion : Completion) :
    Sound (receiveAnswer host s completion) := by
  have answered : Sound (takeAnswer s completion) := sound.setBridge _
  unfold Pcie.receiveAnswer
  dsimp only
  split_ifs
  · exact answered.scheduleEngine
  · exact (((answered.setBridge _).publishCompletion host _).ackManagementReset completion).processSq host
  · exact (answered.publishCompletion host completion).processSq host

theorem Sound.bridgeReceive (host : Host σ) (bytes : List U8) :
    Sound (bridgeReceive host s bytes) := by
  have checked := sound.checkInvariants
  unfold Pcie.bridgeReceive receiveDiscarded
  dsimp only
  split_ifs
  · exact (checked.require .receiveControlRoom _ rfl).setBridge _
  · exact ((checked.require .receiveControlRoom _ rfl).setBridge _).receiveControl host _
  · exact ((checked.require .receiveExpected _ rfl).require .receiveCompletionRoom _ rfl).setBridge _
  · exact ((((checked.require .receiveExpected _ rfl).require .receiveCompletionRoom _ rfl).setBridge
      _).setBridge _).checkInvariants.processSq host
  · exact (((checked.require .receiveExpected _ rfl).require .receiveCompletionRoom _ rfl).setBridge
      _).receiveAnswer host _

theorem Sound.bridgeClosed (host : Host σ) : Sound (bridgeClosed host s) := by
  have idle := (sound.cancelEngine.setBridge s.bridge.close).setError (errorDma ||| errorQueue)
  unfold Pcie.bridgeClosed
  dsimp only
  split_ifs
  · exact (idle.publishCompletion host _).checkInvariants.processSq host
  · exact idle.checkInvariants.processSq host
  · exact sound

theorem Sound.reportReserved (value defined : U32) :
    Sound (reportReserved s value defined) := by
  unfold Pcie.reportReserved
  split
  · exact sound.setError _
  · exact sound

theorem Sound.writeDeviceControl (host : Host σ) (value : U32) :
    Sound (writeDeviceControl host s value) := by
  have reported := sound.reportReserved value controlDefined
  unfold Pcie.writeDeviceControl enableDevice
  dsimp only
  split_ifs
  · exact reported.deviceReset
  · exact reported.setError _
  · exact (reported.setDevice _).processSq host
  · exact reported.setDevice _

/-- An accepted doorbell is below the depth. -/
theorem Sound.writeSqDoorbell (host : Host σ) (value : U32) :
    Sound (writeSqDoorbell host s value) := by
  unfold Pcie.writeSqDoorbell rejectSqDoorbell
  dsimp only
  split_ifs with outside advanced
  · exact (sound.setSq sound.sq.markError).setError _
  · exact (sound.setSq sound.sq.markError).setError _
  · simp only [Bool.or_eq_true, decide_eq_true_eq, not_or, BitVec.not_le] at outside
    have rung : SubmissionQueue.Geometry { s.sq with tail := value } :=
      ⟨sound.sq.valid, sound.sq.head, fun _ => outside.2⟩
    exact (sound.setSq rung).processSq host

theorem Sound.writeCqDoorbell (host : Host σ) (value : U32) :
    Sound (writeCqDoorbell host s value) := by
  unfold Pcie.writeCqDoorbell rejectCqDoorbell
  dsimp only
  split_ifs with outside advanced
  · exact (sound.setCq sound.cq.markError).setError _
  · exact (sound.setCq sound.cq.markError).setError _
  · simp only [Bool.or_eq_true, decide_eq_true_eq, not_or, BitVec.not_le] at outside
    have consumed : (s.cq.consume value).Geometry := { sound.cq with head := fun _ => outside.2 }
    exact (sound.setCq consumed.updateBackpressure).processSq host

theorem Sound.writeSqControl (value : U32) :
    Sound (writeSqControl s value) := by
  have reported := sound.reportReserved value queueControlDefined
  unfold Pcie.writeSqControl enableSq
  dsimp only
  split_ifs
  · exact reported.queueReset
  · exact reported.setError _
  · refine Sound.updateQueueReady (reported.setSq ?_)
    exact ⟨reported.sq.valid, reported.sq.head, reported.sq.tail⟩

end

/-- The default watermark is below the depth that an enabled queue must have. -/
theorem CompletionQueue.Geometry.enable {queue : CompletionQueue} (geometry : queue.Geometry) (control : U32)
    (valid : control ≠ 0 → validDepth queue.depth) : (queue.enable control).Geometry := by
  unfold CompletionQueue.enable
  dsimp only
  split_ifs with defaulted
  · simp only [Bool.and_eq_true, bne_iff_ne, ne_eq] at defaulted
    have minimum : 16 ≤ queue.depth := by
      have accepted := valid defaulted.1
      simp only [validDepth, Bool.and_eq_true, decide_eq_true_eq] at accepted
      exact accepted.1.1
    exact { geometry with ordered := fun _ => by bv_omega, inside := fun _ _ => by bv_omega }
  · exact { geometry with }

theorem Sound.writeCqControl {s : State σ} (sound : Sound s) (value : U32) :
    Sound (writeCqControl s value) := by
  have reported := sound.reportReserved value queueControlDefined
  unfold Pcie.writeCqControl enableCq
  dsimp only
  split_ifs with queueReset rejected
  · exact reported.queueReset
  · exact reported.setError _
  · refine (reported.setCq (reported.cq.enable _ fun enabled => ?_).updateBackpressure).updateQueueReady
    simp only [hasBits, Bool.and_eq_true, bne_iff_ne, ne_eq, Bool.or_eq_true, not_and, not_or,
      Bool.not_eq_true, Bool.not_eq_eq_eq_not, Bool.not_true] at rejected
    simpa using (rejected enabled).2

theorem CompletionQueue.Geometry.writeCqWatermark {s : State σ} (geometry : s.cq.Geometry) (value : U32) :
    (writeCqWatermark s value).cq.Geometry := by
  unfold Pcie.writeCqWatermark
  dsimp only
  split_ifs with rejected
  · exact geometry
  · simp only [Bool.or_eq_true, Bool.and_eq_true, beq_iff_eq, bne_iff_ne, decide_eq_true_eq, not_or, not_and,
      BitVec.not_le] at rejected
    obtain ⟨⟨⟨⟨-, -⟩, ordered⟩, -⟩, inside⟩ := rejected
    exact { geometry with ordered := fun _ => ordered, inside := fun depth _ => inside depth }

theorem Sound.writeCqWatermark {s : State σ} (sound : Sound s) (value : U32) :
    Sound (writeCqWatermark s value) := by
  have geometry := sound.cq.writeCqWatermark value
  unfold Pcie.writeCqWatermark at geometry ⊢
  dsimp only at geometry ⊢
  split_ifs at geometry ⊢
  · exact sound.setError _
  · exact sound.setCq geometry

theorem Sound.writeSqBase {s : State σ} (sound : Sound s) (value : U32) :
    Sound (writeSqBaseLo s value) ∧ Sound (writeSqBaseHi s value) := by
  have geometry := sound.sq
  unfold writeSqBaseLo writeSqBaseHi
  dsimp only
  constructor
  all_goals
    split
    · exact sound.setError _
    · exact sound.setSq ⟨geometry.valid, geometry.head, geometry.tail⟩

theorem Sound.writeCqBase {s : State σ} (sound : Sound s) (value : U32) :
    Sound (writeCqBaseLo s value) ∧ Sound (writeCqBaseHi s value) := by
  have geometry := sound.cq
  unfold writeCqBaseLo writeCqBaseHi
  dsimp only
  constructor
  all_goals
    split
    · exact sound.setError _
    · exact sound.setCq ⟨geometry.valid, geometry.head, geometry.tail, geometry.ordered, geometry.inside⟩

/-- A depth write is accepted from a disabled queue, and it leaves the indices as they are. -/
def acceptsSqDepth (s : State σ) (value : U32) : Bool :=
  !hasBits s.sq.control queueEnable && validDepth value

def acceptsCqDepth (s : State σ) (value : U32) : Bool :=
  !hasBits s.cq.control queueEnable && validDepth value &&
    (s.cq.watermarkHigh == 0 || s.cq.watermarkHigh < value)

theorem Sound.writeSqDepth {s : State σ} (sound : Sound s) (value : U32)
    (roomy : acceptsSqDepth s value → s.sq.head < value ∧ s.sq.tail < value) :
    Sound (writeSqDepth s value) := by
  unfold Pcie.writeSqDepth
  split_ifs with rejected
  · exact sound.setError _
  · simp only [Bool.or_eq_true, Bool.and_eq_true, bne_iff_ne, ne_eq, not_or, not_and, Bool.not_eq_true,
      Bool.not_eq_eq_eq_not, Bool.not_true, Bool.not_eq_false] at rejected
    have accepted (nonzero : value ≠ 0) : acceptsSqDepth s value = true := by
      simp [acceptsSqDepth, rejected.1, rejected.2 nonzero]
    exact sound.setSq ⟨rejected.2, fun nonzero => (roomy (accepted nonzero)).1,
      fun nonzero => (roomy (accepted nonzero)).2⟩

theorem CompletionQueue.Geometry.writeCqDepth {s : State σ} (geometry : s.cq.Geometry) (value : U32)
    (roomy : acceptsCqDepth s value → s.cq.head < value ∧ s.cq.tail < value) :
    (writeCqDepth s value).cq.Geometry := by
  unfold Pcie.writeCqDepth
  split_ifs with rejected
  · exact geometry
  · simp only [Bool.or_eq_true, Bool.and_eq_true, bne_iff_ne, ne_eq, not_or, not_and, Bool.not_eq_true,
      Bool.not_eq_eq_eq_not, Bool.not_true, Bool.not_eq_false, decide_eq_true_eq, BitVec.not_le] at rejected
    have accepted (nonzero : value ≠ 0) : acceptsCqDepth s value = true := by
      have above := (rejected.2 nonzero).2
      by_cases configured : s.cq.watermarkHigh = 0
      · simp [acceptsCqDepth, rejected.1, rejected.2 nonzero, configured]
      · simp [acceptsCqDepth, rejected.1, rejected.2 nonzero, above configured]
    exact ⟨fun nonzero => (rejected.2 nonzero).1, fun nonzero => (roomy (accepted nonzero)).1,
      fun nonzero => (roomy (accepted nonzero)).2, geometry.ordered, fun nonzero => (rejected.2 nonzero).2⟩

section
variable {s : State σ} (sound : Sound s)
include sound

theorem Sound.writeCqDepth (value : U32)
    (roomy : acceptsCqDepth s value → s.cq.head < value ∧ s.cq.tail < value) : Sound (writeCqDepth s value) := by
  have geometry := sound.cq.writeCqDepth value roomy
  unfold Pcie.writeCqDepth at geometry ⊢
  split_ifs at geometry ⊢
  · exact sound.setError _
  · exact sound.setCq geometry

theorem Sound.setSignals {signals : Signals}
    (same : signals.failed = s.signals.failed) : Sound (s.setSignals signals) :=
  ⟨sound.sq, sound.cq, by simpa [Signals.Clean, same] using sound.signals⟩

theorem Sound.writeIntr (value : U32) :
    Sound (writeIntrStatus s value) ∧ Sound (writeIntrMask s value) ∧ Sound (writeIntrForce s value) ∧
      Sound (writeIntrCoalesce s value) := by
  have reported := sound.reportReserved value intrDefined
  refine ⟨?_, reported.setSignals rfl, ?_, ?_⟩
  · have cleared : Sound (s.setSignals (s.signals.setLevel
        (clearBits s.signals.intrStatus (value &&& intrDefined)) s.signals.intrMask)) := sound.setSignals rfl
    unfold writeIntrStatus
    dsimp only
    split
    · exact (cleared.reportReserved _ _).raiseInterrupt _
    · exact cleared.reportReserved _ _
  · unfold writeIntrForce
    split
    · exact sound.setError _
    · exact reported.raiseInterrupt _
  · unfold writeIntrCoalesce
    split
    · exact sound.setError _
    · exact sound.setSignals rfl

theorem Sound.writeFault (value : U32) :
    Sound (writeFaultControl s value) ∧ Sound (writeFaultArg s value) ∧ Sound (writeFaultStatus s value) := by
  have reported := sound.reportReserved value faultDefined
  have stored {s : State σ} (sound : Sound s) (fault : Fault) : Sound (setFault s fault) := sound.setSignals rfl
  refine ⟨?_, ?_, (stored sound _).reportReserved _ _⟩
  · unfold writeFaultControl armFault
    split_ifs
    · exact reported
    · exact reported.setError _
    · exact (stored reported _).checkInvariants
    · exact (stored reported _).checkInvariants
  · unfold writeFaultArg
    split
    · exact sound.setError _
    · exact stored sound _

theorem Sound.writeCheckpoint (host : Host σ) (value : U32) :
    Sound (writeDebugLock s value) ∧ Sound (writeCheckpointControl s value) ∧
      Sound (writeCheckpointRelease host s value) := by
  have reported := sound.reportReserved value 1
  refine ⟨?_, ?_, ?_⟩
  · unfold writeDebugLock
    dsimp only
    split_ifs
    · exact reported.setError _
    · exact ⟨reported.sq, reported.cq, reported.signals⟩
    · exact reported
  · unfold writeCheckpointControl
    split
    · exact sound.setError _
    · exact Sound.checkInvariants ⟨sound.sq, sound.cq, sound.signals⟩
  · unfold writeCheckpointRelease
    split
    · exact sound.setError _
    · exact sound.checkpointRelease host

/-- The depth registers are the only ones that can put an index outside its ring. -/
theorem Sound.writeRegister (host : Host σ) (register : Register)
    (value : U32)
    (sqRoomy : register = .sqDepth → acceptsSqDepth s value → s.sq.head < value ∧ s.sq.tail < value)
    (cqRoomy : register = .cqDepth → acceptsCqDepth s value → s.cq.head < value ∧ s.cq.tail < value) :
    Sound (writeRegister host s register value) := by
  cases register with
  | deviceControl => exact sound.writeDeviceControl host value
  | sqBaseLo => exact (sound.writeSqBase value).1
  | sqBaseHi => exact (sound.writeSqBase value).2
  | sqDepth => exact sound.writeSqDepth value (sqRoomy rfl)
  | sqDoorbell => exact sound.writeSqDoorbell host value
  | sqControl => exact sound.writeSqControl value
  | cqBaseLo => exact (sound.writeCqBase value).1
  | cqBaseHi => exact (sound.writeCqBase value).2
  | cqDepth => exact sound.writeCqDepth value (cqRoomy rfl)
  | cqDoorbell => exact sound.writeCqDoorbell host value
  | cqControl => exact sound.writeCqControl value
  | cqWatermark => exact sound.writeCqWatermark value
  | errorStatus =>
      refine Sound.reportReserved (sound.setSignals ?_) value errorDefined
      rfl
  | intrStatus => exact (sound.writeIntr value).1
  | intrMask => exact (sound.writeIntr value).2.1
  | intrForce => exact (sound.writeIntr value).2.2.1
  | intrCoalesce => exact (sound.writeIntr value).2.2.2
  | resetRequest =>
      unfold Pcie.writeRegister writeResetRequest
      dsimp only
      split
      · exact sound.setError _
      · exact sound.engineReset host
  | faultControl => exact (sound.writeFault value).1
  | faultArg => exact (sound.writeFault value).2.1
  | faultStatus => exact (sound.writeFault value).2.2
  | debugLock => exact (sound.writeCheckpoint host value).1
  | checkpointControl => exact (sound.writeCheckpoint host value).2.1
  | checkpointRelease => exact (sound.writeCheckpoint host value).2.2
  | _ => exact sound.setError _

end

def shrinksSq (s : State σ) : Event → Bool
  | .write offset value size =>
    size == 4 && !hasBits s.device.status statusResetting && offset == Register.sqDepth.offset &&
      acceptsSqDepth s value && !(s.sq.head < value && s.sq.tail < value)
  | _ => false

def shrinksCq (s : State σ) : Event → Bool
  | .write offset value size =>
    size == 4 && !hasBits s.device.status statusResetting && offset == Register.cqDepth.offset &&
      acceptsCqDepth s value && !(s.cq.head < value && s.cq.tail < value)
  | _ => false

/-- The host shrinks a ring below one of its indices. -/
def shrinksQueue (s : State σ) (event : Event) : Bool := shrinksSq s event || shrinksCq s event

theorem Register.offset_of_ofOffset {offset : Nat} {register : Register}
    (found : Register.ofOffset offset = some register) : register.offset = offset := by
  simpa using List.find?_some found

theorem Sound.bar0Write {s : State σ} (sound : Sound s) (host : Host σ) (offset : Nat) (value : U32)
    (size : Nat) (keeps : ¬shrinksQueue s (.write offset value size)) :
    Sound (bar0Write host s offset value size) := by
  unfold Pcie.bar0Write
  split_ifs with malformed hidden resetting
  · exact sound.setError _
  · exact sound.setError _
  · exact sound.setError _
  · split
    · exact sound.setError _
    next register found =>
      have placed := Register.offset_of_ofOffset found
      simp only [ne_eq, not_or, not_not] at malformed
      simp only [shrinksQueue, shrinksSq, shrinksCq, Bool.and_eq_true, Bool.or_eq_true, beq_iff_eq, malformed.1,
        true_and, not_and, not_or, and_imp, Bool.not_eq_eq_eq_not, Bool.not_true, Bool.not_eq_false,
        decide_eq_true_eq] at keeps
      apply sound.writeRegister host register value
      · rintro rfl accepts
        rw [← placed] at resetting keeps
        exact keeps.1 (by simpa [Register.offset] using resetting) rfl accepts
      · rintro rfl accepts
        rw [← placed] at resetting keeps
        exact keeps.2 (by simpa [Register.offset] using resetting) rfl accepts

theorem Sound.bar0Read {s : State σ} (sound : Sound s) (offset size : Nat) :
    Sound (bar0Read s offset size).2 := by
  unfold Pcie.bar0Read
  split_ifs
  · exact sound.setError _
  · exact sound.setError _
  · split
    · exact sound.setError _
    · exact sound.checkInvariants
    · exact sound

theorem Sound.powerOn (debugEnabled connected : Bool) (memory : σ) :
    Sound (powerOn debugEnabled connected memory) := by
  have cold : Sound ({ device := { debugEnabled }, link := { connected }, memory } : State σ) := {
    sq := ⟨absurd rfl, absurd rfl, absurd rfl⟩
    cq := ⟨absurd rfl, absurd rfl, absurd rfl, absurd rfl, absurd rfl⟩
    signals := by simp [Signals.Clean] }
  exact Sound.checkInvariants ⟨cold.sq, cold.cq, cold.signals⟩

/-- One event keeps the geometry unless it shrinks a ring below one of its indices. -/
theorem Sound.step {s next : State σ} (sound : Sound s) (host : Host σ) (event : Event)
    (keeps : ¬shrinksQueue s event) (stepped : step host s event = some next) : Sound next := by
  cases event with
  | write offset value size =>
      obtain rfl := Option.some.inj stepped
      exact sound.bar0Write host offset value size keeps
  | read offset size =>
      obtain rfl := Option.some.inj stepped
      exact sound.bar0Read offset size
  | engineTimer =>
      obtain ⟨-, rfl⟩ := EventMachine.guarded stepped
      exact (sound.setEngine _).engineComplete host
  | resetTimer =>
      obtain ⟨-, rfl⟩ := EventMachine.guarded stepped
      exact ((sound.setDevice _).setDevice _).raiseInterrupt _
  | firmwareAckTimer =>
      obtain ⟨-, rfl⟩ := EventMachine.guarded stepped
      exact (sound.setBridge _).firmwareAckTimeout host
  | receive bytes =>
      obtain ⟨-, rfl⟩ := EventMachine.guarded stepped
      exact sound.bridgeReceive host bytes
  | closed =>
      obtain rfl := Option.some.inj stepped
      exact sound.bridgeClosed host
  | link writable =>
      obtain rfl := Option.some.inj stepped
      exact ⟨sound.sq, sound.cq, sound.signals⟩
  | busMaster enabled =>
      obtain rfl := Option.some.inj stepped
      exact ⟨sound.sq, sound.cq, sound.signals⟩
  | tick nowNs =>
      obtain ⟨-, rfl⟩ := EventMachine.guarded stepped
      exact ⟨sound.sq, sound.cq, sound.signals⟩

theorem Sound.queueGeometry {s : State σ} (sound : Sound s) : QueueGeometry s where
  sq nonzero := by
    have valid := sound.sq.valid nonzero
    simp only [validDepth, Bool.and_eq_true] at valid
    exact ⟨valid.2, sound.sq.head nonzero, sound.sq.tail nonzero⟩
  cq nonzero := by
    have valid := sound.cq.valid nonzero
    simp only [validDepth, Bool.and_eq_true] at valid
    exact ⟨valid.2, sound.cq.head nonzero, sound.cq.tail nonzero,
      fun configured => ⟨sound.cq.ordered configured, sound.cq.inside nonzero configured⟩⟩
  unaborted := sound.signals

theorem validDepth_ne_zero {depth : U32} (valid : validDepth depth) : depth ≠ 0 := by
  rintro rfl
  simp [validDepth, isPowerOf2] at valid

theorem Register.ofOffset_offset (register : Register) : Register.ofOffset register.offset = some register := by
  cases register <;> rfl

/-- Outside the debug block, a whole-word write reaches its register unless the device is resetting. -/
theorem bar0Write_register (host : Host σ) (s : State σ) (register : Register) (value : U32)
    (plain : register.offset < Register.faultControl.offset)
    (working : hasBits s.device.status statusResetting = false) :
    bar0Write host s register.offset value 4 = writeRegister host s register value := by
  have aligned : register.offset % 4 = 0 := by cases register <;> rfl
  simp [bar0Write, aligned, Nat.not_le.mpr plain, working, Register.ofOffset_offset]

theorem writeSqDepth_accepted {s : State σ} {value : U32} (accepts : acceptsSqDepth s value) :
    writeSqDepth s value = s.setSq { s.sq with depth := value } := by
  simp only [acceptsSqDepth, Bool.and_eq_true, Bool.not_eq_eq_eq_not, Bool.not_true] at accepts
  simp [writeSqDepth, accepts]

theorem writeCqDepth_accepted {s : State σ} {value : U32} (accepts : acceptsCqDepth s value) :
    writeCqDepth s value = s.setCq { s.cq with depth := value } := by
  simp only [acceptsCqDepth, Bool.and_eq_true, Bool.not_eq_eq_eq_not, Bool.not_true, Bool.or_eq_true,
    beq_iff_eq, decide_eq_true_eq] at accepts
  obtain ⟨⟨disabled, valid⟩, unset | above⟩ := accepts
  · simp [writeCqDepth, disabled, valid, unset]
  · simp [writeCqDepth, disabled, valid, BitVec.not_le.mpr above]

/-- A shrinking write leaves the index outside the new depth. -/
theorem not_queueGeometry_of_shrinks (host : Host σ) (s : State σ) (offset : Nat) (value : U32) (size : Nat)
    (shrinks : shrinksQueue s (.write offset value size)) :
    ¬QueueGeometry (bar0Write host s offset value size) := by
  intro geometry
  simp only [shrinksQueue, shrinksSq, shrinksCq, Bool.and_eq_true, Bool.or_eq_true, beq_iff_eq,
    Bool.not_eq_eq_eq_not, Bool.not_true, Bool.and_eq_false_iff, decide_eq_false_iff_not] at shrinks
  obtain ⟨⟨⟨⟨rfl, working⟩, rfl⟩, accepts⟩, outside⟩ | ⟨⟨⟨⟨rfl, working⟩, rfl⟩, accepts⟩, outside⟩ := shrinks
  · have nonzero : value ≠ 0 := validDepth_ne_zero (Bool.and_eq_true_iff.mp accepts).2
    rw [bar0Write_register host s .sqDepth value (by decide) working] at geometry
    have inside := geometry.sq
    simp only [writeRegister, writeSqDepth_accepted accepts, State.setSq_sq] at inside
    obtain ⟨-, head, tail⟩ := inside nonzero
    exact outside.elim (absurd head) (absurd tail)
  · have nonzero : value ≠ 0 :=
      validDepth_ne_zero (Bool.and_eq_true_iff.mp (Bool.and_eq_true_iff.mp accepts).1).2
    rw [bar0Write_register host s .cqDepth value (by decide) working] at geometry
    have inside := geometry.cq
    simp only [writeRegister, writeCqDepth_accepted accepts, State.setCq_cq] at inside
    obtain ⟨-, head, tail, -⟩ := inside nonzero
    exact outside.elim (absurd head) (absurd tail)

/-- The rings of a run from a cold reset stay well formed exactly when no accepted depth write shrinks one
below its head or its tail. -/
theorem queueGeometry_iff_no_shrinking_write (host : Host σ) (debugEnabled connected : Bool) (memory : σ)
    (events : List Event) :
    (step host).Always QueueGeometry (powerOn debugEnabled connected memory) events ↔
      (step host).Meets (fun s event => ¬shrinksQueue s event) (powerOn debugEnabled connected memory)
        events := by
  refine EventMachine.always_iff_meets (fun _ sound => sound.queueGeometry)
    (fun _ event _ sound keeps stepped => sound.step host event keeps stepped) ?_ ?_
    (Sound.powerOn debugEnabled connected memory)
  · intro s event next _ stepped geometry
    cases event with
    | write offset value size =>
        obtain rfl := Option.some.inj stepped
        exact fun shrinks => not_queueGeometry_of_shrinks host s offset value size shrinks geometry
    | _ => simp [shrinksQueue, shrinksSq, shrinksCq]
  · intro s event refused
    cases event with
    | write offset value size => cases refused
    | _ => simp [shrinksQueue, shrinksSq, shrinksCq]

/-- The host rings a deep queue, disables it, and enters a smaller depth. -/
def shrinkingWrites : List Event :=
  [Register.sqBaseLo.write 0x1000, Register.sqBaseHi.write 0, Register.sqDepth.write 32,
    Register.sqControl.write queueEnable, Register.sqDoorbell.write 20, Register.sqControl.write 0,
    Register.sqDepth.write 16, .read Register.deviceStatus.offset 4]

/-- Seven register writes put the tail outside its ring, and the next status read fails the assertion. -/
theorem shrinking_writes_abort :
    ∃ final, (step zeroHost).run (powerOn false true ()) shrinkingWrites = some final ∧
      final.sq.depth = 16 ∧ final.sq.tail = 20 ∧ final.signals.failed = [.sqTailInside] ∧
      ¬QueueGeometry final := by
  have reached : ((step zeroHost).run (powerOn false true ()) shrinkingWrites).map
      (fun s => (s.sq.depth, s.sq.tail, s.signals.failed)) = some (16, 20, [.sqTailInside]) := by decide
  obtain ⟨final, ran, seen⟩ := Option.map_eq_some_iff.mp reached
  simp only [Prod.mk.injEq] at seen
  obtain ⟨depth, tail, failed⟩ := seen
  refine ⟨final, ran, depth, tail, failed, fun geometry => ?_⟩
  simpa [failed, Assertion.geometry] using geometry.unaborted .sqTailInside

end VamsSoc.Pcie
