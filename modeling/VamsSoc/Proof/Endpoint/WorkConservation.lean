/-
This file shows when a descriptor waits although the endpoint could fetch it.
-/

import VamsSoc.Proof.Endpoint.Publication
import VamsSoc.Proof.Endpoint.View

namespace VamsSoc.Pcie
open Library Abi

variable {σ : Type}

/-- The endpoint is free to fetch a descriptor. -/
structure Available (s : State σ) : Prop where
  enabled : hasBits s.device.control controlEnable = true
  active : hasBits s.device.control controlQuiesce = false
  unpaused : s.checkpoint.status = checkpointNone
  inflight : s.bridge.inflight = false
  kept : s.bridge.discardCompletion = false
  stopped : s.engine.inflight = false
  room : s.cq.full = false
  unthrottled : s.cq.backpressure = false

instance (s : State σ) : Decidable (Available s) :=
  decidable_of_iff (hasBits s.device.control controlEnable = true ∧ hasBits s.device.control controlQuiesce = false ∧
      s.checkpoint.status = checkpointNone ∧ s.bridge.inflight = false ∧ s.bridge.discardCompletion = false ∧
        s.engine.inflight = false ∧ s.cq.full = false ∧ s.cq.backpressure = false)
    ⟨fun ⟨enabled, active, unpaused, inflight, kept, stopped, room, unthrottled⟩ =>
      { enabled, active, unpaused, inflight, kept, stopped, room, unthrottled },
    fun available => ⟨available.enabled, available.active, available.unpaused, available.inflight, available.kept,
      available.stopped, available.room, available.unthrottled⟩⟩

/-- No descriptor waits for an endpoint that is free to fetch it. -/
def Drained (s : State σ) : Prop := Available s → s.sq.head = s.sq.tail

/-- Every bus transfer succeeds. -/
structure Host.Reliable (host : Host σ) : Prop where
  read : ∀ memory address count, (host.read memory address count).1 ≠ none
  write : ∀ memory address bytes, (host.write memory address bytes).1 = true

/-- The device has what the fetch loop needs. -/
structure Fetchable (s : State σ) : Prop where
  writable : s.link.connected = true → s.link.writable = true
  powered : hasBits s.device.control controlEnable = true → s.busMaster = true
  depth : hasBits s.device.control controlEnable = true → validDepth s.sq.depth = true
  head : hasBits s.device.control controlEnable = true → s.sq.head < s.sq.depth
  tail : hasBits s.device.control controlEnable = true → s.sq.tail < s.sq.depth

namespace Drained
variable {s : State σ}

theorem of_inflight (inflight : s.bridge.inflight = true) : Drained s :=
  fun available => absurd (inflight.symm.trans available.inflight) (by decide)

theorem of_running (running : s.engine.inflight = true) : Drained s :=
  fun available => absurd (running.symm.trans available.stopped) (by decide)

theorem of_disabled (disabled : hasBits s.device.control controlEnable = false) : Drained s :=
  fun available => absurd (available.enabled.symm.trans disabled) (by decide)

theorem of_empty (empty : s.sq.head = s.sq.tail) : Drained s := fun _ => empty

theorem setSignals (drained : Drained s) (signals : Signals) : Drained (s.setSignals signals) :=
  fun available => drained { available with }

theorem reportReserved (drained : Drained s) (value defined : U32) : Drained (reportReserved s value defined) := by
  unfold Pcie.reportReserved
  split
  · exact drained.setSignals _
  · exact drained

end Drained

/-- The number of descriptors that wait. -/
def SubmissionQueue.pending (queue : SubmissionQueue) : Nat := ((queue.tail - queue.head) &&& (queue.depth - 1)).toNat

theorem disabled_queueReset (s : State σ) : hasBits (queueReset s).device.control controlEnable = false :=
  hasBits_cleared _ _

theorem inflight_armUnlessPaused {s : State σ} (running : s.engine.inflight = true) :
    (armUnlessPaused s).engine.inflight = true := by
  unfold armUnlessPaused checkpointHit
  split
  · exact running
  · split <;> exact running

/-- A scheduled command runs unless an injected reset disabled the device. -/
theorem drained_scheduleEngine (s : State σ) : Drained (scheduleEngine s) := by
  have started (t : State σ) (forceTimeout hung : Bool) : Drained (armUnlessPaused (startEngine t forceTimeout hung)) :=
    .of_running (inflight_armUnlessPaused rfl)
  unfold scheduleEngine
  dsimp only
  split
  · exact .of_disabled (disabled_queueReset _)
  · exact ((started _ _ _).setSignals _).setSignals _

/-- A whole frame is sent, so the bridge has the descriptor. -/
theorem drained_forwardSubmission {s : State σ} (writable : s.link.writable = true) (submission : Submission) :
    Drained (forwardSubmission s submission) := by
  refine .of_inflight ?_
  unfold forwardSubmission
  dsimp only
  rw [chrWriteAll_writable (by exact writable), if_pos rfl]
  rfl

/-- The completion of a standalone endpoint is written, and only its queue moves. -/
theorem publishCompletion_reliable {host : Host σ} (reliable : host.Reliable) (s : State σ) (completion : Completion) :
    (publishCompletion host s completion).1 = true ∧ (publishCompletion host s completion).2.sq = s.sq ∧
      (publishCompletion host s completion).2.link = s.link := by
  unfold publishCompletion
  dsimp only
  rw [if_pos (by exact reliable.write _ _ _)]
  exact ⟨rfl, rfl, rfl⟩

/-- One pass ends the loop with a busy endpoint, or goes on with one descriptor less. -/
theorem fetchSubmission_reliable {host : Host σ} (reliable : host.Reliable) {s : State σ}
    (writable : s.link.connected = true → s.link.writable = true) :
    ((fetchSubmission host s).1 = false ∧ Drained (fetchSubmission host s).2) ∨
      ((fetchSubmission host s).1 = true ∧ (fetchSubmission host s).2.sq = s.sq.advance ∧
        (fetchSubmission host s).2.link = s.link) := by
  unfold fetchSubmission
  dsimp only
  split
  next failed => exact absurd failed (reliable.read _ _ _)
  next bytes _ =>
    split
    next connected => exact .inl ⟨rfl, drained_forwardSubmission (by exact writable connected) _⟩
    · unfold dispatchStandalone
      dsimp only
      split
      · exact .inl ⟨rfl, drained_scheduleEngine _⟩
      · have published (t : State σ) (completion : Completion) := publishCompletion_reliable reliable t completion
        exact .inr ⟨(published _ _).1, (published _ _).2.1, (published _ _).2.2⟩

/-- The fuel of the loop covers what waits, so the loop stops only when it may not or need not go on. -/
theorem drained_fetchLoop {host : Host σ} (reliable : host.Reliable) {s : State σ}
    (writable : s.link.connected = true → s.link.writable = true) (power : isPowerOf2 s.sq.depth = true)
    (head : s.sq.head < s.sq.depth) (tail : s.sq.tail < s.sq.depth) (fuel : Nat) (enough : s.sq.pending ≤ fuel) :
    Drained (fetchLoop host fuel s) := by
  induction fuel generalizing s with
  | zero => exact .of_empty (eq_of_distance_zero power head tail (Nat.le_zero.mp enough))
  | succ fuel ih =>
      unfold fetchLoop
      dsimp only
      split
      next ready =>
        have waiting : s.sq.head ≠ s.sq.tail := by
          simp only [sqReady, Bool.and_eq_true, bne_iff_ne] at ready
          exact ready.1.1.1.1.1
        rcases fetchSubmission_reliable reliable writable with ⟨stops, drained⟩ | ⟨continues, sq, still⟩
        · rw [if_neg (by rw [stops]; exact Bool.false_ne_true)]
          exact drained
        · rw [if_pos continues]
          have fewer : s.sq.advance.pending + 1 = s.sq.pending := distance_next power head tail waiting
          refine ih ?_ ?_ ?_ ?_ ?_
          · rw [still]
            exact writable
          · rw [sq]
            exact power
          · rw [sq]
            exact and_pred_lt _ _ (ne_zero_of_isPowerOf2 power)
          · rw [sq]
            exact tail
          · rw [sq]
            omega
      next stops =>
        intro available
        by_contra waiting
        refine stops ?_
        simp [sqReady, waiting, available.room, available.unthrottled, available.inflight, available.kept,
          available.stopped]

/-- The fetch loop leaves nothing that it could fetch. -/
theorem Fetchable.drained_processSq {host : Host σ} (reliable : host.Reliable) {s : State σ} (fetchable : Fetchable s) :
    Drained (processSq host s) := by
  unfold processSq
  split
  next may =>
    simp only [mayFetch, Bool.and_eq_true] at may
    have enabled := may.1.1.1
    have valid := fetchable.depth enabled
    simp only [validDepth, Bool.and_eq_true] at valid
    refine drained_fetchLoop reliable ?_ ?_ ?_ ?_ _ ?_
    · exact fetchable.writable
    · exact valid.2
    · exact fetchable.head enabled
    · exact fetchable.tail enabled
    · exact Nat.le_of_lt (distance_lt valid.2 _ _)
  next may =>
    intro available
    refine absurd ?_ may
    have enabled : hasBits s.device.control controlEnable = true := available.enabled
    have active : hasBits s.device.control controlQuiesce = false := available.active
    have unpaused : s.checkpoint.status = checkpointNone := available.unpaused
    simp [mayFetch, enabled, active, unpaused, fetchable.powered enabled]

namespace Fetchable
variable {s : State σ}

theorem setSignals (fetchable : Fetchable s) (signals : Signals) : Fetchable (s.setSignals signals) :=
  { fetchable with }

theorem setBridge (fetchable : Fetchable s) (bridge : Bridge) : Fetchable (s.setBridge bridge) := { fetchable with }

theorem setCq (fetchable : Fetchable s) (cq : CompletionQueue) : Fetchable (s.setCq cq) := { fetchable with }

theorem record (fetchable : Fetchable s) (event : CommandEvent) : Fetchable (s.record event) := { fetchable with }

theorem dmaWrite (fetchable : Fetchable s) (host : Host σ) (address : U64) (bytes : List U8) :
    Fetchable (dmaWrite host s address bytes).2 := { fetchable with }

theorem publishCompletion (fetchable : Fetchable s) (host : Host σ) (completion : Completion) :
    Fetchable (publishCompletion host s completion).2 := by
  have checked : Fetchable (require (checkInvariants s) .publishRoom (!s.cq.full)) :=
    (fetchable.setSignals _).setSignals _
  have written := checked.dmaWrite host
    (s.cq.base + s.cq.tail.setWidth 64 * BitVec.ofNat 64 completionSize) completion.toBytes
  unfold Pcie.publishCompletion
  dsimp only
  split_ifs
  · exact (((written.record _).setCq _).setSignals _).setSignals _
  · exact ((written.record _).setCq _).setSignals _

theorem chrWriteAll (fetchable : Fetchable s) (kind : FrameKind) (bytes : List U8) :
    Fetchable (chrWriteAll s kind bytes).2 := by
  unfold Pcie.chrWriteAll
  split
  · exact { fetchable with }
  · exact fetchable

theorem ackManagementReset (fetchable : Fetchable s) (completion : Completion) :
    Fetchable (ackManagementReset s completion) := by
  have written := fetchable.chrWriteAll .resetAcknowledgment completion.toBytes
  unfold Pcie.ackManagementReset
  dsimp only
  split
  · exact written
  · exact written.setSignals _

theorem stopEngine (fetchable : Fetchable s) : Fetchable (stopEngine s) := { fetchable with }

theorem firmwareAckTimeout (fetchable : Fetchable s) {host : Host σ} (reliable : host.Reliable) :
    Drained (firmwareAckTimeout host s) := by
  have counted : Fetchable (s.setDevice { s.device with
      resetAckTimeoutCount := satInc s.device.resetAckTimeoutCount }) := { fetchable with }
  exact Fetchable.drained_processSq reliable { counted with }

theorem receiveDiscarded (fetchable : Fetchable s) {host : Host σ} (reliable : host.Reliable)
    (completion : Completion) : Drained (receiveDiscarded host s completion) :=
  ((fetchable.setBridge _).setSignals _).drained_processSq reliable

theorem bridgeClosed (fetchable : Fetchable s) (drained : Drained s) {host : Host σ} (reliable : host.Reliable) :
    Drained (bridgeClosed host s) := by
  have idle := ((fetchable.stopEngine.setSignals (checkInvariants (Pcie.stopEngine s)).signals).setBridge
    s.bridge.close).setSignals (setError ((cancelEngine s).setBridge s.bridge.close) (errorDma ||| errorQueue)).signals
  unfold Pcie.bridgeClosed
  dsimp only
  split_ifs
  · exact ((idle.publishCompletion host _).setSignals _).drained_processSq reliable
  · exact (idle.setSignals _).drained_processSq reliable
  · exact drained

end Fetchable

theorem sq_publishCompletion (host : Host σ) (s : State σ) (completion : Completion) :
    (publishCompletion host s completion).2.sq = s.sq := by
  unfold publishCompletion
  dsimp only
  split_ifs <;> rfl

theorem sq_ackManagementReset (s : State σ) (completion : Completion) : (ackManagementReset s completion).sq = s.sq := by
  have written := sq_chrWriteAll s .resetAcknowledgment completion.toBytes
  unfold ackManagementReset
  dsimp only
  split <;> exact written

theorem sq_reportEngineResult (s : State σ) (completion : Completion) (discard : Bool) :
    (reportEngineResult s completion discard).2.sq = s.sq := by
  unfold reportEngineResult armFirmwareAck chrWriteAll
  dsimp only
  split_ifs <;> rfl

/-- A connected bridge takes a result. -/
theorem inflight_reportEngineResult {s : State σ} (completion : Completion) (connected : s.link.connected = true)
    (writable : s.link.writable = true) :
    (reportEngineResult s completion false).1 = true ∧
      (reportEngineResult s completion false).2.bridge.inflight = true := by
  unfold reportEngineResult
  dsimp only
  rw [if_neg (by simp [connected]), chrWriteAll_writable (by exact writable), if_pos rfl]
  exact ⟨rfl, rfl⟩

/-- The endpoint does not come back to the submission queue after it handed a result to the host. -/
theorem drained_handEngineResult {s : State σ} (host : Host σ) (completion : Completion)
    (settled : s.link.connected = true ∧ s.link.writable = true ∨ s.sq.head = s.sq.tail) :
    Drained (handEngineResult host s completion).2 := by
  unfold handEngineResult
  dsimp only
  rcases settled with ⟨connected, writable⟩ | empty
  · obtain ⟨taken, inflight⟩ := inflight_reportEngineResult completion connected writable
    rw [if_pos taken]
    exact .of_inflight inflight
  · refine .of_empty ?_
    split
    · rw [sq_reportEngineResult]
      exact empty
    · rw [sq_publishCompletion, sq_reportEngineResult]
      exact empty

theorem Drained.of_paused {s : State σ} (paused : s.checkpoint.status ≠ checkpointNone) : Drained s :=
  fun available => absurd available.unpaused paused

theorem Drained.of_discarding {s : State σ} (discards : s.bridge.discardCompletion = true) : Drained s :=
  fun available => absurd (discards.symm.trans available.kept) (by decide)

/-- A result goes to the firmware, or no descriptor waits for the endpoint. -/
def Settled (s : State σ) : Prop := s.link.connected = true ∧ s.link.writable = true ∨ s.sq.head = s.sq.tail

theorem drained_engineReset {s : State σ} {host : Host σ} (reliable : host.Reliable) (fetchable : Fetchable s)
    (settled : s.engine.inflight = true → Settled s) : Drained (engineReset host s) := by
  unfold engineReset
  dsimp only
  split
  next running =>
    have handed := drained_handEngineResult (s := storeCompletion (advanceEpoch (stopEngine s)) (resetResult s errReset))
      host (resetResult s errReset) (settled running)
    split
    · exact handed.setSignals _
    · exact handed
  · have stopped := fetchable.stopEngine
    have advanced : Fetchable (advanceEpoch (stopEngine s)) := { stopped with }
    exact (advanced.setSignals _).drained_processSq reliable

theorem drained_checkpointRelease {s : State σ} (custody : Custody False s) (host : Host σ)
    (reached : s.checkpoint.status ≠ checkpointNone)
    (settled : s.checkpoint.status = checkpointCqPublish → Settled s) : Drained (checkpointRelease host s) := by
  unfold checkpointRelease
  dsimp only
  split
  next atStart => exact .of_running (custody.owner.start atStart).1
  next notStart =>
    have atPublish : s.checkpoint.status = checkpointCqPublish := by
      have range := custody.owner.statusRange
      simp only [checkpointNone, checkpointEngineStart, checkpointCqPublish] at reached notStart range ⊢
      bv_omega
    obtain ⟨generation, epoch⟩ := custody.owner.paused atPublish
    rw [if_neg (by rw [not_or, not_not, not_not]; exact ⟨generation, epoch⟩)]
    have handed (t : State σ) (same : t.sq = s.sq ∧ t.link = s.link) :
        Drained (handEngineResult host t s.bridge.completion).2 := by
      refine drained_handEngineResult host s.bridge.completion ?_
      rw [same.1, same.2]
      exact settled atPublish
    split
    · exact (handed _ (by exact ⟨rfl, rfl⟩)).setSignals _
    · exact handed _ (by exact ⟨rfl, rfl⟩)

/-- The payload leaves the registers alone that decide who publishes its result. -/
structure PayloadFrame (before after : State σ) : Prop where
  engine : after.engine.generation = before.engine.generation ∧ after.engine.activeEpoch = before.engine.activeEpoch ∧
    after.engine.epoch = before.engine.epoch
  device : after.device = before.device
  checkpoint : after.checkpoint = before.checkpoint
  sq : after.sq = before.sq
  link : after.link = before.link

theorem payloadFrame_finishPayload (host : Host σ) (s : State σ) : PayloadFrame s (finishPayload host s) := by
  have stable : BusStable host (PayloadFrame s) := {
    fault := fun _ _ _ frame => { frame with }
    read := fun _ _ _ frame => { frame with }
    write := fun _ _ _ frame => { frame with }
    allocate := fun _ _ frame => { frame with } }
  have executed := stable.executePayload ⟨⟨rfl, rfl, rfl⟩, rfl, rfl, rfl, rfl⟩ s.bridge.submission s.bridge.completion
  unfold finishPayload
  split
  · exact ⟨⟨rfl, rfl, rfl⟩, rfl, rfl, rfl, rfl⟩
  · exact { executed with }

theorem drained_engineComplete {s : State σ} (host : Host σ)
    (current : s.engine.generation = s.device.resetGeneration ∧ s.engine.activeEpoch = s.engine.epoch)
    (settled : s.checkpoint.control ≠ checkpointCqPublish → Settled s) : Drained (engineComplete host s) := by
  obtain ⟨⟨generation, active, epoch⟩, device, checkpoint, sq, link⟩ := payloadFrame_finishPayload host
    (checkInvariants (finishEngine (require (checkInvariants s) .completeRunning s.engine.inflight)))
  unfold engineComplete
  dsimp only
  rw [if_neg (by exact not_not.mpr current.1), if_neg (by
    rw [not_or, not_not, not_not, generation, active, epoch, device]
    exact current)]
  have handed (completion : Completion) (missed : s.checkpoint.control ≠ checkpointCqPublish) : Drained
      (handEngineResult host (finishPayload host (checkInvariants (finishEngine
        (require (checkInvariants s) .completeRunning s.engine.inflight)))) completion).2 := by
    refine drained_handEngineResult host completion ?_
    rw [sq, link]
    exact settled missed
  unfold checkpointHit
  split
  next missed =>
    rw [checkpoint] at missed
    exact handed _ missed
  · exact Drained.of_paused (show checkpointCqPublish ≠ checkpointNone by decide)

/-- A whole control frame ends the command at the firmware, or leaves its result to it. -/
theorem drained_receiveControl {s : State σ} (host : Host σ) (request : Completion)
    (connected : s.link.connected = true) (writable : s.link.writable = true)
    (empty : request.identity = s.bridge.submission.identity → request.status = statusReset →
      request.errorCode = errReset → s.sq.head = s.sq.tail) : Drained (receiveControl host s request) := by
  unfold receiveControl
  dsimp only
  split
  next accepted =>
    simp only [Bool.and_eq_true, beq_iff_eq] at accepted
    refine .of_empty ?_
    unfold acceptFirmwareReset
    dsimp only
    split
    · rw [sq_ackManagementReset, sq_publishCompletion]
      exact empty accepted.1.1 accepted.1.2 accepted.2
    · rw [sq_publishCompletion]
      exact empty accepted.1.1 accepted.1.2 accepted.2
  · unfold abortByFirmware
    dsimp only
    have hand (t : State σ) (completion failed : Completion) (same : t.link = s.link) :
        Drained (if (reportEngineResult t completion false).1 then (reportEngineResult t completion false).2
          else (publishCompletion host (storeCompletion (reportEngineResult t completion false).2 failed) failed).2) := by
      obtain ⟨taken, inflight⟩ := inflight_reportEngineResult completion (by rw [same]; exact connected)
        (by rw [same]; exact writable)
      rw [if_pos taken]
      exact .of_inflight inflight
    refine hand _ _ _ ?_
    split_ifs <;> rfl

/-- An answer to a bridged descriptor lets the next one go. -/
theorem Fetchable.receiveAnswer {s : State σ} (fetchable : Fetchable s) {host : Host σ} (reliable : host.Reliable)
    (completion : Completion) : Drained (receiveAnswer host s completion) := by
  have answered : Fetchable (takeAnswer s completion) := fetchable.setBridge _
  unfold Pcie.receiveAnswer
  dsimp only
  split_ifs
  · exact drained_scheduleEngine _
  · exact (((answered.setBridge _).publishCompletion host _).ackManagementReset _).drained_processSq reliable
  · exact (answered.publishCompletion host completion).drained_processSq reliable

/-- A frame from the connected bridge leaves nothing that could be fetched. -/
theorem Fetchable.bridgeReceive {s : State σ} (fetchable : Fetchable s) {host : Host σ} (reliable : host.Reliable)
    (bytes : List U8) (connected : s.link.connected = true)
    (expects : s.engine.inflight = false → s.bridge.inflight = true ∨ s.bridge.discardCompletion = true)
    (empty : s.engine.inflight = true → (s.bridge.controlRx ++ bytes).length = completionSize →
      (Completion.ofBytes (s.bridge.controlRx ++ bytes)).identity = s.bridge.submission.identity →
      (Completion.ofBytes (s.bridge.controlRx ++ bytes)).status = statusReset →
      (Completion.ofBytes (s.bridge.controlRx ++ bytes)).errorCode = errReset → s.sq.head = s.sq.tail) :
    Drained (bridgeReceive host s bytes) := by
  have writable := fetchable.writable connected
  unfold Pcie.bridgeReceive
  dsimp only
  split
  next running =>
    split
    · exact .of_running running
    next whole =>
      refine drained_receiveControl host _ ?_ ?_ ?_
      · exact connected
      · exact writable
      · exact empty running (not_not.mp whole)
  next halted =>
    have waits := expects (by simpa using halted)
    split
    · rcases waits with inflight | discards
      · exact .of_inflight inflight
      · exact .of_discarding discards
    · have emptied (t : State σ) (same : Fetchable t) : Fetchable (t.setBridge { s.bridge with completionRx := [] }) :=
        same.setBridge _
      split
      · exact (emptied _ (((fetchable.setSignals _).setSignals _).setSignals _)).receiveDiscarded reliable _
      · exact (emptied _ (((fetchable.setSignals _).setSignals _).setSignals _)).receiveAnswer reliable _

/-- A throttled queue that is enabled again stays throttled. -/
theorem CompletionQueue.Throttling.enable {queue : CompletionQueue} (throttling : queue.Throttling) {control : U32}
    (on : hasBits control queueEnable = true) (throttled : queue.backpressure = true) :
    (queue.enable control).updateBackpressure.backpressure = true := by
  have configured : (queue.watermarkHigh == 0) = false := beq_eq_false_iff_ne.mpr (throttling.configured throttled).2
  have above := throttling.above throttled
  have same : queue.enable control = { queue with control } := if_neg (by rw [configured, Bool.and_false]; decide)
  rw [same]
  unfold CompletionQueue.updateBackpressure
  dsimp only
  rw [if_neg (by rw [on, configured]; decide), if_neg (by simp [throttled]), if_neg]
  · exact throttled
  · simp only [throttled, Bool.true_and, decide_eq_true_eq, BitVec.not_le]
    exact above

/-- The bridge takes frames when it is connected, and the enabled device is a bus master. -/
structure Supplied (s : State σ) : Prop where
  writable : s.link.connected = true → s.link.writable = true
  powered : hasBits s.device.control controlEnable = true → s.busMaster = true

/-- This is the invariant of work conservation. -/
structure Conserved (s : State σ) : Prop where
  custody : Custody False s
  sound : Sound s
  drained : Drained s

namespace Conserved
variable {s : State σ}

theorem fetchable (conserved : Conserved s) (supplied : Supplied s) : Fetchable s := by
  have valid (enabled : hasBits s.device.control controlEnable = true) : validDepth s.sq.depth = true :=
    conserved.custody.queues.sqDepth (conserved.custody.queues.enabled enabled).1
  exact {
    writable := supplied.writable
    powered := supplied.powered
    depth := valid
    head := fun enabled => conserved.sound.sq.head (validDepth_ne_zero (valid enabled))
    tail := fun enabled => conserved.sound.sq.tail (validDepth_ne_zero (valid enabled)) }

theorem setError (conserved : Conserved s) (error : U32) : Conserved (setError s error) :=
  ⟨conserved.custody.setError error, conserved.sound.setError error, conserved.drained.setSignals _⟩

theorem reportReserved (conserved : Conserved s) (value defined : U32) : Conserved (reportReserved s value defined) := by
  unfold Pcie.reportReserved
  split
  · exact conserved.setError _
  · exact conserved

theorem supplied_reportReserved (supplied : Supplied s) (value defined : U32) :
    Supplied (Pcie.reportReserved s value defined) := by
  unfold Pcie.reportReserved
  split
  · exact { supplied with }
  · exact supplied

section
variable (conserved : Conserved s)
include conserved

theorem enableDevice (supplied : Supplied s) {host : Host σ} (reliable : host.Reliable)
    (value : U32) : Drained (enableDevice host s value) := by
  unfold Pcie.enableDevice
  split
  · exact conserved.drained.setSignals _
  next ready =>
    simp only [Bool.or_eq_true, Bool.not_eq_true', not_or, Bool.not_eq_false] at ready
    obtain ⟨⟨sq, -⟩, master⟩ := ready
    have valid := conserved.custody.queues.sqDepth sq
    have nonzero := validDepth_ne_zero valid
    refine Fetchable.drained_processSq reliable ?_
    exact ⟨supplied.writable, fun _ => master, fun _ => valid, fun _ => conserved.sound.sq.head nonzero,
      fun _ => conserved.sound.sq.tail nonzero⟩

theorem writeDeviceControl (supplied : Supplied s) {host : Host σ}
    (reliable : host.Reliable) (value : U32) : Drained (writeDeviceControl host s value) := by
  have reported := conserved.reportReserved value controlDefined
  unfold Pcie.writeDeviceControl
  dsimp only
  split_ifs
  · unfold deviceReset
    split
    · exact reported.drained.setSignals _
    · exact .of_disabled (hasBits_zero _)
  · exact reported.enableDevice (supplied_reportReserved supplied value controlDefined) reliable value
  · refine .of_disabled ?_
    show hasBits (value &&& controlQuiesce) controlEnable = false
    rw [hasBits, BitVec.and_assoc, show controlQuiesce &&& controlEnable = 0 by decide]
    simp

theorem writeSqDoorbell (supplied : Supplied s) {host : Host σ} (reliable : host.Reliable)
    (value : U32) : Drained (writeSqDoorbell host s value) := by
  have rejected : Drained (rejectSqDoorbell s) := fun available => conserved.drained { available with }
  have fetchable := conserved.fetchable supplied
  unfold Pcie.writeSqDoorbell
  dsimp only
  split_ifs with outside
  · exact rejected
  · exact rejected
  · simp only [Bool.or_eq_true, decide_eq_true_eq, not_or, BitVec.not_le] at outside
    exact Fetchable.drained_processSq reliable { fetchable with tail := fun _ => outside.2 }

theorem enableSq (value : U32) : Drained (enableSq s value) := by
  unfold Pcie.enableSq updateQueueReady
  split
  · exact conserved.drained.setSignals _
  · split
    · exact fun available => conserved.drained { available with }
    · exact .of_disabled (hasBits_cleared _ _)

/-- A queue that is enabled already stays throttled. -/
theorem enableCq (value : U32) : Drained (enableCq s value) := by
  unfold Pcie.enableCq updateQueueReady
  split
  · exact conserved.drained.setSignals _
  · split
    next both =>
      intro available
      simp only [State.setCq_sq, State.setCq_cq, CompletionQueue.control_updateBackpressure, s.cq.control_enable,
        Bool.and_eq_true] at both
      have room : s.cq.full = false := by
        rw [← s.cq.full_enable (value &&& queueEnable), ← CompletionQueue.full_updateBackpressure]
        exact available.room
      have unthrottled : s.cq.backpressure = false := by
        by_contra throttled
        have still := conserved.custody.queues.throttling.enable both.2 (by simpa using throttled)
        exact absurd (still.symm.trans available.unthrottled) (by decide)
      exact conserved.drained { available with room, unthrottled }
    · exact .of_disabled (hasBits_cleared _ _)

theorem writeQueueControl (value : U32) :
    Drained (writeSqControl s value) ∧ Drained (writeCqControl s value) := by
  have reported := conserved.reportReserved value queueControlDefined
  unfold writeSqControl writeCqControl
  dsimp only
  constructor
  · split
    · exact .of_disabled (disabled_queueReset _)
    · exact reported.enableSq value
  · split
    · exact .of_disabled (disabled_queueReset _)
    · exact reported.enableCq value

theorem writeSq (value : U32) :
    Drained (writeSqBaseLo s value) ∧ Drained (writeSqBaseHi s value) ∧ Drained (writeSqDepth s value) := by
  unfold writeSqBaseLo writeSqBaseHi writeSqDepth
  dsimp only
  refine ⟨?_, ?_, ?_⟩
  all_goals
    split
    · exact conserved.drained.setSignals _
    · exact fun available => conserved.drained { available with }

/-- A disabled completion queue has disabled the device. -/
theorem of_disabled (disabled : hasBits s.cq.control queueEnable = false)
    (cq : CompletionQueue) : Drained (s.setCq cq) := by
  refine .of_disabled (Bool.eq_false_iff.mpr fun enabled => ?_)
  exact absurd ((conserved.custody.queues.enabled enabled).2.symm.trans disabled) (by decide)

theorem writeCq (value : U32) :
    Drained (writeCqBaseLo s value) ∧ Drained (writeCqBaseHi s value) ∧ Drained (writeCqDepth s value) ∧
      Drained (writeCqWatermark s value) := by
  unfold writeCqBaseLo writeCqBaseHi writeCqDepth writeCqWatermark
  dsimp only
  refine ⟨?_, ?_, ?_, ?_⟩
  all_goals
    split
    · exact conserved.drained.setSignals _
    next accepted =>
      simp only [Bool.or_eq_true, not_or, Bool.not_eq_true] at accepted
      exact conserved.of_disabled (by simp_all) _

theorem writeCqDoorbell (supplied : Supplied s) {host : Host σ} (reliable : host.Reliable)
    (value : U32) : Drained (writeCqDoorbell host s value) := by
  have rejected : Drained (rejectCqDoorbell s) := fun available => conserved.drained { available with }
  unfold Pcie.writeCqDoorbell
  dsimp only
  split_ifs
  · exact rejected
  · exact rejected
  · exact ((conserved.fetchable supplied).setCq _).drained_processSq reliable

theorem writeIntr (value : U32) :
    Drained (writeErrorStatus s value) ∧ Drained (writeIntrStatus s value) ∧ Drained (writeIntrMask s value) ∧
      Drained (writeIntrForce s value) ∧ Drained (writeIntrCoalesce s value) := by
  refine ⟨(conserved.drained.setSignals _).reportReserved _ _, ?_, (conserved.drained.reportReserved _ _).setSignals _,
    ?_, ?_⟩
  · unfold writeIntrStatus
    dsimp only
    split
    · exact ((conserved.drained.setSignals _).reportReserved _ _).setSignals _
    · exact (conserved.drained.setSignals _).reportReserved _ _
  · unfold writeIntrForce
    split
    · exact conserved.drained.setSignals _
    · exact (conserved.drained.reportReserved _ _).setSignals _
  · unfold writeIntrCoalesce
    split <;> exact conserved.drained.setSignals _

theorem writeDebug (value : U32) :
    Drained (writeFaultControl s value) ∧ Drained (writeFaultArg s value) ∧ Drained (writeFaultStatus s value) ∧
      Drained (writeDebugLock s value) ∧ Drained (writeCheckpointControl s value) := by
  refine ⟨?_, ?_, (conserved.drained.setSignals _).reportReserved _ _, ?_, ?_⟩
  · have reported := conserved.drained.reportReserved value faultDefined
    unfold writeFaultControl armFault
    split_ifs
    · exact reported
    · exact reported.setSignals _
    · exact (reported.setSignals _).setSignals _
    · exact (reported.setSignals _).setSignals _
  · unfold writeFaultArg
    split <;> exact conserved.drained.setSignals _
  · have reported := conserved.drained.reportReserved value 1
    unfold writeDebugLock
    dsimp only
    split_ifs
    · exact reported.setSignals _
    · exact fun available => reported { available with }
    · exact reported
  · unfold writeCheckpointControl
    split
    · exact conserved.drained.setSignals _
    · exact fun available => conserved.drained { available with }

end

end Conserved

/-- The endpoint publishes a completion in this step and does not come back to the descriptors that wait. -/
def stalls (s : State σ) : Event → Bool
  | .engineTimer =>
      s.sq.head != s.sq.tail && !s.link.connected && s.checkpoint.control != checkpointCqPublish
  | .write offset value size =>
      s.sq.head != s.sq.tail && !s.link.connected && size == 4 &&
        ((offset == Register.resetRequest.offset && value == resetRequestEngine && s.engine.inflight) ||
          (offset == Register.checkpointRelease.offset && value == 1 && s.checkpoint.status == checkpointCqPublish))
  | .receive bytes =>
      let request := Completion.ofBytes (s.bridge.controlRx ++ bytes)
      s.sq.head != s.sq.tail && s.engine.inflight && (s.bridge.controlRx ++ bytes).length == completionSize &&
        request.identity == s.bridge.submission.identity && request.status == statusReset &&
        request.errorCode == errReset
  | _ => false

/-- Frames come from a connected bridge. -/
def wired (s : State σ) : Event → Bool
  | .receive _ => s.link.connected
  | _ => true

/-- The surroundings serve the endpoint in this step, and the step comes back to the descriptors that wait. -/
structure Serviced (s : State σ) (event : Event) : Prop where
  supplied : Supplied s
  wired : wired s event = true
  depth : shrinksQueue s event = false
  returns : stalls s event = false

instance (s : State σ) (event : Event) : Decidable (Serviced s event) :=
  decidable_of_iff (((s.link.connected = true → s.link.writable = true) ∧
      (hasBits s.device.control controlEnable = true → s.busMaster = true)) ∧
        wired s event = true ∧ shrinksQueue s event = false ∧ stalls s event = false)
    ⟨fun all => ⟨⟨all.1.1, all.1.2⟩, all.2.1, all.2.2.1, all.2.2.2⟩,
      fun serviced => ⟨⟨serviced.supplied.writable, serviced.supplied.powered⟩, serviced.wired, serviced.depth,
        serviced.returns⟩⟩

namespace Conserved
variable {s : State σ}

theorem writeRegister (conserved : Conserved s) (supplied : Supplied s) {host : Host σ} (reliable : host.Reliable)
    (register : Register) (value : U32)
    (engine : register = .resetRequest → value = resetRequestEngine → s.engine.inflight = true → Settled s)
    (release : register = .checkpointRelease → value = 1 → s.checkpoint.status = checkpointCqPublish → Settled s) :
    Drained (writeRegister host s register value) := by
  cases register with
  | deviceControl => exact conserved.writeDeviceControl supplied reliable value
  | sqBaseLo => exact (conserved.writeSq value).1
  | sqBaseHi => exact (conserved.writeSq value).2.1
  | sqDepth => exact (conserved.writeSq value).2.2
  | sqDoorbell => exact conserved.writeSqDoorbell supplied reliable value
  | sqControl => exact (conserved.writeQueueControl value).1
  | cqBaseLo => exact (conserved.writeCq value).1
  | cqBaseHi => exact (conserved.writeCq value).2.1
  | cqDepth => exact (conserved.writeCq value).2.2.1
  | cqWatermark => exact (conserved.writeCq value).2.2.2
  | cqDoorbell => exact conserved.writeCqDoorbell supplied reliable value
  | cqControl => exact (conserved.writeQueueControl value).2
  | errorStatus => exact (conserved.writeIntr value).1
  | intrStatus => exact (conserved.writeIntr value).2.1
  | intrMask => exact (conserved.writeIntr value).2.2.1
  | intrForce => exact (conserved.writeIntr value).2.2.2.1
  | intrCoalesce => exact (conserved.writeIntr value).2.2.2.2
  | resetRequest =>
      unfold Pcie.writeRegister writeResetRequest
      dsimp only
      split
      · exact conserved.drained.setSignals _
      next asked =>
        exact drained_engineReset reliable (conserved.fetchable supplied) (engine rfl (not_not.mp asked))
  | faultControl => exact (conserved.writeDebug value).1
  | faultArg => exact (conserved.writeDebug value).2.1
  | faultStatus => exact (conserved.writeDebug value).2.2.1
  | debugLock => exact (conserved.writeDebug value).2.2.2.1
  | checkpointControl => exact (conserved.writeDebug value).2.2.2.2
  | checkpointRelease =>
      unfold Pcie.writeRegister writeCheckpointRelease
      dsimp only
      split
      · exact conserved.drained.setSignals _
      next accepted =>
        simp only [Bool.or_eq_true, bne_iff_ne, beq_iff_eq, not_or, not_not] at accepted
        exact drained_checkpointRelease conserved.custody host accepted.2 (release rfl accepted.1)
  | _ => exact conserved.drained.setSignals _

/-- A standalone endpoint may publish only while no descriptor waits. -/
theorem settled_of_returns (supplied : Supplied s) (returns : s.sq.head ≠ s.sq.tail → s.link.connected = true) :
    Settled s := by
  by_cases empty : s.sq.head = s.sq.tail
  · exact .inr empty
  · exact .inl ⟨returns empty, supplied.writable (returns empty)⟩

theorem bar0Write (conserved : Conserved s) {host : Host σ} (reliable : host.Reliable) (offset : Nat) (value : U32)
    (size : Nat) (serviced : Serviced s (.write offset value size)) :
    Drained (bar0Write host s offset value size) := by
  have returns := serviced.returns
  unfold Pcie.bar0Write
  split_ifs with malformed
  · exact conserved.drained.setSignals _
  · exact conserved.drained.setSignals _
  · exact conserved.drained.setSignals _
  · split
    · exact conserved.drained.setSignals _
    next register found =>
      obtain rfl := Register.offset_of_ofOffset found
      simp only [ne_eq, not_or, not_not] at malformed
      obtain ⟨rfl, -⟩ := malformed
      refine conserved.writeRegister serviced.supplied reliable register value ?_ ?_
      · rintro rfl rfl running
        refine settled_of_returns serviced.supplied fun waiting => ?_
        simpa [stalls, waiting, running] using returns
      · rintro rfl rfl paused
        refine settled_of_returns serviced.supplied fun waiting => ?_
        simpa [stalls, waiting, paused] using returns

theorem bar0Read (conserved : Conserved s) (offset size : Nat) : Drained (bar0Read s offset size).2 := by
  unfold Pcie.bar0Read
  split_ifs
  · exact conserved.drained.setSignals _
  · exact conserved.drained.setSignals _
  · split
    · exact conserved.drained.setSignals _
    · exact conserved.drained.setSignals _
    · exact conserved.drained

/-- One event leaves nothing that could be fetched. -/
theorem drained_step {next : State σ} (conserved : Conserved s) {host : Host σ} (reliable : host.Reliable)
    (event : Event) (serviced : Serviced s event) (stepped : step host s event = some next) : Drained next := by
  have fetchable := conserved.fetchable serviced.supplied
  have returns := serviced.returns
  have connected := serviced.wired
  cases event with
  | write offset value size =>
      obtain rfl := Option.some.inj stepped
      exact conserved.bar0Write reliable offset value size serviced
  | read offset size =>
      obtain rfl := Option.some.inj stepped
      exact conserved.bar0Read offset size
  | engineTimer =>
      obtain ⟨fires, rfl⟩ := EventMachine.guarded stepped
      have armed : s.engine.timer ≠ none := by
        intro none
        simp [expired, none] at fires
      obtain ⟨generation, epoch, -⟩ := conserved.custody.owner.current (conserved.custody.owner.timer armed).1
      refine drained_engineComplete host ⟨generation, epoch⟩ fun missed => ?_
      refine settled_of_returns { serviced.supplied with } fun waiting => ?_
      have away : s.checkpoint.control ≠ checkpointCqPublish := missed
      have behind : s.sq.head ≠ s.sq.tail := waiting
      simpa [stalls, behind, away] using returns
  | resetTimer =>
      obtain ⟨-, rfl⟩ := EventMachine.guarded stepped
      exact fun available => conserved.drained { available with }
  | firmwareAckTimer =>
      obtain ⟨-, rfl⟩ := EventMachine.guarded stepped
      exact (fetchable.setBridge _).firmwareAckTimeout reliable
  | receive bytes =>
      obtain ⟨⟨some, fits⟩, rfl⟩ := EventMachine.guarded stepped
      refine fetchable.bridgeReceive reliable bytes connected ?_ ?_
      · intro halted
        by_contra idle
        simp only [not_or, Bool.not_eq_true] at idle
        rw [bridgeCanReceive, if_neg (by simp [halted]), if_pos (by simp [idle])] at fits
        exact some (List.length_eq_zero_iff.mp (Nat.le_zero.mp fits))
      · intro running whole identity status errorCode
        by_contra waiting
        simp [stalls, waiting, running, identity, status, errorCode] at returns
        exact returns (by simpa using whole)
  | closed =>
      obtain rfl := Option.some.inj stepped
      exact fetchable.bridgeClosed conserved.drained reliable
  | link writable =>
      obtain rfl := Option.some.inj stepped
      exact fun available => conserved.drained { available with }
  | busMaster enabled =>
      obtain rfl := Option.some.inj stepped
      exact fun available => conserved.drained { available with }
  | tick nowNs =>
      obtain ⟨-, rfl⟩ := EventMachine.guarded stepped
      exact fun available => conserved.drained { available with }

end Conserved

/-- Work is conserved as long as no step publishes past the descriptors that wait. -/
theorem drained_of_serviced {host : Host σ} (reliable : host.Reliable) (debugEnabled connected : Bool) (memory : σ)
    (events : List Event) (serviced : (step host).Meets Serviced (powerOn debugEnabled connected memory) events) :
    (step host).Always Drained (powerOn debugEnabled connected memory) events := by
  have start : Drained (powerOn debugEnabled connected memory) := .of_empty rfl
  have always : (step host).Always Conserved (powerOn debugEnabled connected memory) events := by
    refine EventMachine.always_of_meets ?_ ⟨Custody.powerOn False debugEnabled connected memory,
      Sound.powerOn debugEnabled connected memory, start⟩ serviced
    intro state event next conserved serviced stepped
    refine ⟨conserved.custody.step host event nofun stepped, ?_, ?_⟩
    · exact conserved.sound.step host event (by rw [serviced.depth]; exact Bool.false_ne_true) stepped
    · exact conserved.drained_step reliable event serviced stepped
  exact always.mono fun _ conserved => conserved.drained

/-- The answered descriptors of a bridged endpoint are all fetched. -/
theorem answered_descriptors_are_fetched :
    (step zeroHost).Meets Serviced (powerOn false true ()) (enableQueues 16 3 ++ [answerFrame, answerFrame]) ∧
      (step zeroHost).Always Drained (powerOn false true ()) (enableQueues 16 3 ++ [answerFrame, answerFrame]) := by
  have reliable : zeroHost.Reliable := ⟨fun _ _ _ => nofun, fun _ _ _ => rfl⟩
  have serviced : (step zeroHost).Meets Serviced (powerOn false true ())
      (enableQueues 16 3 ++ [answerFrame, answerFrame]) := by decide +kernel
  exact ⟨serviced, drained_of_serviced reliable false true () _ serviced⟩

/-- Both descriptors of the host ask for the same fill. -/
def fillDescriptor : Submission where
  version := descVersion1
  opcode := opMemFill
  commandId := 1
  userCookie := 0x11
  length := 4
  sourceDma := 0x8000
  destinationDma := 0x9000

def fillHost : Host Unit := ringHost fillDescriptor fillDescriptor

/-- A standalone engine finishes the first of two fills. -/
def standaloneFill : List Event := enableQueues 16 2 ++ [.tick engineExecutionNs, .engineTimer]

/-- The firmware authorizes the first of two fills and resets it while it runs. -/
def bridgedReset : List Event :=
  enableQueues 16 2 ++ [.receive ({ commandId := 1, userCookie := 0x11 } : Completion).toBytes,
    .receive ({ commandId := 1, userCookie := 0x11, status := statusReset, errorCode := errReset } : Completion).toBytes]

/-- The second descriptor is not fetched in either run, although nothing keeps the endpoint from it. -/
theorem published_fills_leave_descriptors :
    (∃ final, (step fillHost).run (powerOn false false ()) standaloneFill = some final ∧
      Available final ∧ final.sq.head = 1 ∧ final.sq.tail = 2) ∧
    ∃ final, (step fillHost).run (powerOn false true ()) bridgedReset = some final ∧
      Available final ∧ final.sq.head = 1 ∧ final.sq.tail = 2 := by
  have standalone : ((step fillHost).run (powerOn false false ()) standaloneFill).map
      (fun s => (decide (Available s), s.sq.head, s.sq.tail)) = some (true, 1, 2) := by decide +kernel
  have bridged : ((step fillHost).run (powerOn false true ()) bridgedReset).map
      (fun s => (decide (Available s), s.sq.head, s.sq.tail)) = some (true, 1, 2) := by decide +kernel
  obtain ⟨first, firstRan, firstSeen⟩ := Option.map_eq_some_iff.mp standalone
  obtain ⟨second, secondRan, secondSeen⟩ := Option.map_eq_some_iff.mp bridged
  simp only [Prod.mk.injEq, decide_eq_true_eq] at firstSeen secondSeen
  exact ⟨⟨first, firstRan, firstSeen⟩, ⟨second, secondRan, secondSeen⟩⟩

end VamsSoc.Pcie
