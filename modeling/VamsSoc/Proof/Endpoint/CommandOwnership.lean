/-
This file takes the ownership of the command through the frames, the timers, and the registers of the endpoint.
-/

import VamsSoc.Proof.Endpoint.Custody

namespace VamsSoc.Pcie
open Library Abi

variable {σ : Type}

namespace CompletionQueue
variable (queue : CompletionQueue) (control : U32)

theorem control_enable : (queue.enable control).control = control := by
  unfold enable
  dsimp only
  split_ifs <;> rfl

theorem depth_enable : (queue.enable control).depth = queue.depth := by
  unfold enable
  dsimp only
  split_ifs <;> rfl

/-- The default watermark of an enabled queue is ordered. -/
theorem ordered_enable (ordered : queue.watermarkHigh ≠ 0 → queue.watermarkLow < queue.watermarkHigh)
    (valid : control ≠ 0 → validDepth queue.depth = true) :
    (queue.enable control).watermarkHigh ≠ 0 →
      (queue.enable control).watermarkLow < (queue.enable control).watermarkHigh := by
  unfold enable
  dsimp only
  split
  next defaulted =>
    simp only [Bool.and_eq_true, bne_iff_ne, ne_eq] at defaulted
    have accepted := valid defaulted.1
    simp only [validDepth, queueMinDepth, Bool.and_eq_true, decide_eq_true_eq] at accepted
    have minimum := accepted.1.1
    intro _
    dsimp only
    bv_omega
  · exact ordered

theorem full_enable : (queue.enable control).full = queue.full := by
  unfold enable
  dsimp only
  split_ifs <;> rfl

end CompletionQueue

namespace Custody
variable {guarded : Prop} {s : State σ}

section
variable (custody : Custody guarded s)
include custody

/-- The endpoint stops waiting for the answer that a reset disowned. -/
theorem dropDiscarded (completion : Completion) (received : List U8)
    (room : received.length ≤ completionSize) :
    Custody guarded (s.setBridge { s.bridge with
      completion, completionRx := received, discardCompletion := false, firmwareAckTimer := none }) := by
  refine { custody with owner := ?_ }
  exact { custody.owner with
    inflight := fun held => ⟨rfl, (custody.owner.inflight held).2⟩
    discard := nofun
    ackTimer := fun timed => absurd rfl timed
    answerRoom := room
    publish := fun paused => ⟨(custody.owner.publish paused).1, rfl, (custody.owner.publish paused).2.2⟩ }

/-- The other registers of the device say nothing about the command. -/
theorem setDevice (device : Device) (status : device.status = s.device.status)
    (control : device.control = s.device.control) (generation : device.resetGeneration = s.device.resetGeneration)
    (timer : device.resetTimer = s.device.resetTimer) : Custody guarded (s.setDevice device) where
  clock := custody.clock
  owner := { custody.owner with
    busy := by rw [State.setDevice_device, status]; exact custody.owner.busy
    current := by rw [State.setDevice_device, generation]; exact custody.owner.current
    paused := by rw [State.setDevice_device, generation]; exact custody.owner.paused }
  resetting armed := by
    rw [State.setDevice_device] at armed ⊢
    have resetting := custody.resetting (timer ▸ armed)
    exact { resetting with
      stopped := by rw [control]; exact resetting.stopped
      status := by rw [status]; exact resetting.status }
  queues := { custody.queues with enabled := by rw [State.setDevice_device, control]; exact custody.queues.enabled }
  signals := custody.signals
  logged := custody.logged
  room := custody.room
  geometry := custody.geometry

theorem firmwareAckTimeout (host : Host σ)
    (discards : s.bridge.discardCompletion = true) :
    Custody guarded (firmwareAckTimeout host (s.setBridge { s.bridge with firmwareAckTimer := none })) := by
  have untimed : Custody guarded (s.setBridge { s.bridge with firmwareAckTimer := none }) :=
    { custody with owner := { custody.owner with ackTimer := fun timed => absurd rfl timed } }
  have checked := untimed.require .ackTimeoutDiscarding s.bridge.discardCompletion (.inl discards)
  have dropped := checked.dropDiscarded s.bridge.completion [] (Nat.zero_le _)
  have counted := dropped.setDevice { s.device with
    resetAckTimeoutCount := satInc s.device.resetAckTimeoutCount } rfl rfl rfl rfl
  exact ((counted.setError _).checkInvariants).processSq host

/-- The next epoch starts while the engine is idle. -/
theorem setEpoch (stopped : s.engine.inflight = false)
    (unpaused : s.checkpoint.status = checkpointNone) (epoch error : U32) :
    Custody guarded (s.setEngine { s.engine with epoch, error }) := by
  refine { custody with owner := ?_ }
  exact { custody.owner with
    current := fun running => absurd (running.symm.trans stopped) (by decide)
    paused := fun paused => absurd (unpaused.symm.trans paused) (by decide) }

theorem advanceEpoch (stopped : s.engine.inflight = false)
    (unpaused : s.checkpoint.status = checkpointNone) : Custody guarded (advanceEpoch s) :=
  (custody.setEpoch stopped unpaused (s.engine.epoch + 1) 0).setDevice { s.device with lastResetReason := resetReasonEngine }
    rfl rfl rfl rfl

/-- The engine that ran leaves a command to hand over. -/
theorem handover_of_running (running : s.engine.inflight = true) :
    s.bridge.inflight = false ∧ s.bridge.discardCompletion = false ∧ InTime s.engine.commandDeadlineNs ∧
      s.device.resetTimer = none ∧ (guarded → s.cq.Open) := by
  have owes : owed s.bridge s.engine s.checkpoint = true := by simp [owed, running]
  obtain ⟨inflight, kept⟩ := custody.idle_of_running running
  refine ⟨inflight, kept, custody.owner.deadline owes, ?_, fun guard => custody.room guard owes⟩
  by_contra armed
  exact absurd (owes.symm.trans (custody.resetting armed).free) (by decide)

theorem engineReset (host : Host σ) : Custody guarded (engineReset host s) := by
  have idle := custody.stopEngine.advanceEpoch rfl rfl
  unfold Pcie.engineReset
  dsimp only
  split
  next running =>
    obtain ⟨inflight, kept, deadline, free, room⟩ := custody.handover_of_running running
    have handed := (idle.storeCompletion (resetResult s errReset)).handEngineResult host (resetResult s errReset)
      ⟨inflight, kept, rfl, rfl, free, room⟩ deadline
    split
    · exact handed.checkInvariants
    · exact handed
  · exact idle.checkInvariants.processSq host

/-- A released command leaves its checkpoint, and nothing more is owed for it. -/
theorem releaseCheckpoint :
    Custody guarded (s.setCheckpoint { s.checkpoint with status := checkpointNone }) := by
  have fewer (owes : owed s.bridge s.engine { s.checkpoint with status := checkpointNone } = true) :
      owed s.bridge s.engine s.checkpoint = true := by
    have either : s.bridge.inflight = true ∨ s.engine.inflight = true := by
      simpa [owed, checkpointNone, checkpointCqPublish] using owes
    rcases either with held | running
    · simp [owed, held]
    · simp [owed, running]
  refine { custody with owner := ?_, resetting := ?_, room := fun guard owes => custody.room guard (fewer owes) }
  · exact { custody.owner with
      deadline := fun owes => custody.owner.deadline (fewer owes)
      timer := fun armed => ⟨(custody.owner.timer armed).1, (custody.owner.timer armed).2.1, rfl⟩
      statusRange := show checkpointNone ≤ checkpointCqPublish by decide
      exclusive := .inr rfl
      start := fun paused => absurd paused (show checkpointNone ≠ checkpointEngineStart by decide)
      publish := fun paused => absurd paused (show checkpointNone ≠ checkpointCqPublish by decide)
      paused := fun paused => absurd paused (show checkpointNone ≠ checkpointCqPublish by decide) }
  · intro armed
    have resetting := custody.resetting armed
    refine { resetting with free := Bool.eq_false_iff.mpr fun owes => ?_ }
    exact absurd ((fewer owes).symm.trans resetting.free) (by decide)

theorem checkpointRelease (host : Host σ) (reached : s.checkpoint.status ≠ checkpointNone) :
    Custody guarded (checkpointRelease host s) := by
  have owner := custody.owner
  have released := custody.releaseCheckpoint.require .checkpointReached (s.checkpoint.status != checkpointNone)
    (.inl (bne_iff_ne.mpr reached))
  unfold Pcie.checkpointRelease
  dsimp only
  split
  next atStart =>
    obtain ⟨running, runs⟩ := owner.start atStart
    have checked := (released.require .releaseRunning s.engine.inflight (.inl running)).require .releaseNotHung
      (!s.engine.hung) (.inl (by simp [runs]))
    exact (checked.armEngine running runs rfl).checkInvariants
  next notStart =>
    have atPublish : s.checkpoint.status = checkpointCqPublish := by
      have range := owner.statusRange
      simp only [checkpointNone, checkpointEngineStart, checkpointCqPublish] at reached notStart range ⊢
      bv_omega
    have owes : owed s.bridge s.engine s.checkpoint = true := by simp [owed, atPublish]
    obtain ⟨inflight, kept, stopped⟩ := owner.publish atPublish
    have free : s.device.resetTimer = none := by
      by_contra armed
      exact absurd (owes.symm.trans (custody.resetting armed).free) (by decide)
    have publishing := released.require .releasePublish (s.checkpoint.status == checkpointCqPublish)
      (.inl (beq_iff_eq.mpr atPublish))
    have handed := publishing.handEngineResult host s.bridge.completion
      ⟨inflight, kept, stopped, rfl, free, fun guard => custody.room guard owes⟩ (owner.deadline owes)
    split
    · exact publishing
    · split
      · exact handed.checkInvariants
      · exact handed

theorem ackManagementReset (completion : Completion) :
    Custody guarded (ackManagementReset s completion) := by
  have written := custody.chrWriteAll .resetAcknowledgment completion.toBytes
  unfold Pcie.ackManagementReset
  dsimp only
  split
  · exact written
  · exact written.setError _

theorem stopForFirmware : Custody guarded (stopForFirmware s) :=
  custody.cancelEngine.setEpoch rfl rfl _ _

/-- A reset of the firmware publishes the completion that the engine owed. -/
theorem acceptFirmwareReset (host : Host σ) (request : Completion)
    (running : s.engine.inflight = true) : Custody guarded (acceptFirmwareReset host s request) := by
  obtain ⟨inflight, -, -, -, room⟩ := custody.handover_of_running running
  have unowed : owed (Pcie.stopForFirmware s).bridge (Pcie.stopForFirmware s).engine
      (Pcie.stopForFirmware s).checkpoint = false := by
    simp [owed, Pcie.stopForFirmware, Pcie.cancelEngine, Pcie.stopEngine, Pcie.checkInvariants, inflight,
      checkpointNone, checkpointCqPublish]
  have published := (custody.stopForFirmware.storeCompletion (untag request)).publishCompletion host (untag request)
    unowed room
  unfold Pcie.acceptFirmwareReset
  dsimp only
  split
  · exact published.ackManagementReset request
  · exact published

/-- An abort leaves the result of the running command to the firmware, or to the host when the bridge is gone. -/
theorem abortByFirmware (host : Host σ) (request : Completion) (valid : Bool)
    (running : s.engine.inflight = true) : Custody guarded (abortByFirmware host s request valid) := by
  obtain ⟨inflight, kept, deadline, free, room⟩ := custody.handover_of_running running
  have stopped := custody.stopForFirmware
  have handover : Handover guarded (Pcie.stopForFirmware s) := ⟨inflight, kept, rfl, rfl, free, room⟩
  have hand {t : State σ} (custody : Custody guarded t) (handover : Handover guarded t)
      (deadline : InTime t.engine.commandDeadlineNs) (completion failed : Completion) :
      Custody guarded (if (Pcie.reportEngineResult t completion false).1 then
        (Pcie.reportEngineResult t completion false).2
      else (Pcie.publishCompletion host (Pcie.storeCompletion (Pcie.reportEngineResult t completion false).2 failed)
        failed).2) := by
    have reported := custody.reportHandover completion handover deadline
    split
    · exact reported
    next refused =>
      obtain ⟨unowed, room⟩ := refused_reportEngineResult handover completion refused
      exact (reported.storeCompletion failed).publishCompletion host failed unowed room
  unfold Pcie.abortByFirmware
  dsimp only
  refine hand ?_ ?_ ?_ _ _
  · cases valid with
    | true => exact (stopped.markEngineError _).storeCompletion _
    | false => exact (stopped.setError _).storeCompletion _
  · cases valid with
    | true => exact { handover with }
    | false => exact { handover with }
  · cases valid with
    | true => exact deadline
    | false => exact deadline

theorem receiveControl (host : Host σ) (request : Completion)
    (running : s.engine.inflight = true) : Custody guarded (receiveControl host s request) := by
  unfold Pcie.receiveControl
  dsimp only
  split
  · exact custody.acceptFirmwareReset host request running
  · exact custody.abortByFirmware host request _ running

/-- A command with the bridge pauses at no checkpoint. -/
theorem unpaused_of_inflight (inflight : s.bridge.inflight = true) :
    s.checkpoint.status = checkpointNone := by
  have owner := custody.owner
  have range := owner.statusRange
  have notStart : s.checkpoint.status ≠ checkpointEngineStart := by
    intro paused
    exact absurd ((owner.inflight inflight).2.symm.trans (owner.start paused).1) (by decide)
  have notPublish : s.checkpoint.status ≠ checkpointCqPublish := by
    intro paused
    exact absurd (inflight.symm.trans (owner.publish paused).1) (by decide)
  simp only [checkpointNone, checkpointEngineStart, checkpointCqPublish] at range notStart notPublish ⊢
  bv_omega

/-- The answer takes the command from the bridge. -/
theorem takeAnswer (completion : Completion) (inflight : s.bridge.inflight = true) :
    Custody guarded (takeAnswer s completion) ∧ Handover guarded (Pcie.takeAnswer s completion) := by
  have owner := custody.owner
  have owes : owed s.bridge s.engine s.checkpoint = true := by simp [owed, inflight]
  have unpaused := custody.unpaused_of_inflight inflight
  obtain ⟨kept, stopped⟩ := owner.inflight inflight
  have free : s.device.resetTimer = none := by
    by_contra armed
    exact absurd (owes.symm.trans (custody.resetting armed).free) (by decide)
  refine ⟨?_, ⟨rfl, kept, stopped, unpaused, free, fun guard => custody.room guard owes⟩⟩
  refine { custody with
    owner := ?_
    resetting := fun armed => absurd free armed
    room := fun guard _ => custody.room guard owes }
  exact { owner with
    inflight := by rintro ⟨⟩
    final := by rintro ⟨⟩
    deadline := fun _ => owner.deadline owes
    publish := fun paused => absurd (unpaused.symm.trans paused) (by decide) }

theorem receiveAnswer (host : Host σ) (completion : Completion)
    (inflight : s.bridge.inflight = true) : Custody guarded (receiveAnswer host s completion) := by
  obtain ⟨answered, handover⟩ := custody.takeAnswer completion inflight
  have deadline : InTime s.engine.commandDeadlineNs := custody.owner.deadline (by simp [owed, inflight])
  unfold Pcie.receiveAnswer
  dsimp only
  split_ifs with authorized tagged
  · simp only [Bool.and_eq_true] at authorized
    exact answered.scheduleEngine handover deadline authorized.2
  · have published := (answered.storeCompletion (untag completion)).publishCompletion host (untag completion)
      handover.unowed handover.room
    exact (published.ackManagementReset completion).processSq host
  · exact (answered.publishCompletion host completion handover.unowed handover.room).processSq host

theorem receiveDiscarded (host : Host σ) (completion : Completion) :
    Custody guarded (receiveDiscarded host s completion) :=
  (custody.dropDiscarded completion s.bridge.completionRx custody.owner.answerRoom).checkInvariants.processSq host

theorem setControlRx {received : List U8} (room : received.length ≤ completionSize) :
    Custody guarded (s.setBridge { s.bridge with controlRx := received }) :=
  { custody with owner := { custody.owner with controlRoom := room } }

theorem setCompletionRx {received : List U8} (room : received.length ≤ completionSize) :
    Custody guarded (s.setBridge { s.bridge with completionRx := received }) :=
  { custody with owner := { custody.owner with answerRoom := room } }

/-- The bridge brings no more bytes than the frame still needs. -/
theorem bridgeReceive (host : Host σ) (bytes : List U8) (some : bytes ≠ [])
    (fits : bytes.length ≤ bridgeCanReceive s) : Custody guarded (bridgeReceive host s bytes) := by
  have checked := custody.checkInvariants
  have positive : 0 < bytes.length := List.length_pos_of_ne_nil some
  unfold bridgeCanReceive at fits
  unfold Pcie.bridgeReceive
  dsimp only
  split
  next running =>
    rw [if_pos running] at fits
    have room : (s.bridge.controlRx ++ bytes).length ≤ completionSize := by
      have position := custody.owner.controlRoom
      rw [List.length_append]
      omega
    have stored := (checked.require .receiveControlRoom ((s.bridge.controlRx ++ bytes).length ≤ completionSize)
      (.inl (decide_eq_true room))).setControlRx room
    split
    · exact stored
    · exact stored.receiveControl host _ running
  next halted =>
    rw [if_neg halted] at fits
    have expects : (s.bridge.inflight || s.bridge.discardCompletion) = true := by
      by_contra idle
      rw [if_pos (by simpa using idle)] at fits
      omega
    rw [if_neg (by rw [← Bool.not_or, expects]; decide)] at fits
    have room : (s.bridge.completionRx ++ bytes).length ≤ completionSize := by
      have position := custody.owner.answerRoom
      rw [List.length_append]
      omega
    have roomy := (checked.require .receiveExpected (s.bridge.inflight || s.bridge.discardCompletion)
      (.inl expects)).require .receiveCompletionRoom ((s.bridge.completionRx ++ bytes).length ≤ completionSize)
      (.inl (decide_eq_true room))
    have emptied := roomy.setCompletionRx (by exact Nat.zero_le _ : ([] : List U8).length ≤ completionSize)
    split_ifs with more discards
    · exact roomy.setCompletionRx room
    · exact emptied.receiveDiscarded host _
    · have inflight : s.bridge.inflight = true := by simpa [discards] using expects
      exact emptied.receiveAnswer host _ inflight

/-- The closed bridge has nothing any more. -/
theorem close : Custody guarded ((Pcie.cancelEngine s).setBridge s.bridge.close) := by
  have cancelled := custody.cancelEngine
  have unowed : owed s.bridge.close (Pcie.cancelEngine s).engine (Pcie.cancelEngine s).checkpoint = false := rfl
  refine { cancelled with owner := ?_, resetting := ?_, room := ?_ }
  · exact { cancelled.owner with
      inflight := nofun
      discard := nofun
      final := nofun
      ackTimer := fun timed => absurd rfl timed
      controlRoom := Nat.zero_le _
      answerRoom := Nat.zero_le _
      deadline := fun owes => absurd (owes.symm.trans unowed) (by decide)
      publish := fun _ => ⟨rfl, rfl, rfl⟩ }
  · exact fun armed => { cancelled.resetting armed with free := unowed }
  · exact fun _ owes => absurd (owes.symm.trans unowed) (by decide)

theorem bridgeClosed (host : Host σ) : Custody guarded (bridgeClosed host s) := by
  have idle := custody.close.setError (errorDma ||| errorQueue)
  unfold Pcie.bridgeClosed
  dsimp only
  split_ifs with busy room
  · have unowed : owed s.bridge.close (Pcie.cancelEngine s).engine (Pcie.cancelEngine s).checkpoint = false := rfl
    refine (idle.publishCompletion host _ unowed ?_).checkInvariants.processSq host
    simp only [Bool.and_eq_true, Bool.not_eq_true'] at room
    have owes : owed s.bridge s.engine s.checkpoint = true := by
      rw [room.1.1, Bool.or_false, Bool.or_eq_true] at busy
      rcases busy with held | running
      · simp [owed, held]
      · simp [owed, running]
    exact fun guard => custody.room guard owes
  · exact idle.checkInvariants.processSq host
  · exact custody

/-- The end of a device reset finds nobody with a command. -/
theorem resetComplete (armed : s.device.resetTimer ≠ none) :
    Custody guarded (resetComplete (s.setDevice { s.device with resetTimer := none })) := by
  have resetting := custody.resetting armed
  have stopped : s.engine.inflight = false := by
    have free := resetting.free
    simp only [owed, Bool.or_eq_false_iff] at free
    exact free.1.2
  have ready : Custody guarded (s.setDevice { s.device with resetTimer := none, status := statusReady }) := by
    refine { custody with
      owner := { custody.owner with
        busy := (show hasBits statusReady statusEngineBusy = false by decide).trans stopped.symm }
      resetting := fun timed => absurd rfl timed
      queues := { custody.queues with } }
  exact ready.raiseInterrupt _

theorem reportReserved (value defined : U32) :
    Custody guarded (reportReserved s value defined) := by
  unfold Pcie.reportReserved
  split
  · exact custody.setError _
  · exact custody

/-- Both queues decide whether the device stays enabled. -/
theorem configure (sq : SubmissionQueue) (cq : CompletionQueue)
    (free : s.device.resetTimer = none)
    (sqDepth : hasBits sq.control queueEnable = true → validDepth sq.depth = true)
    (depth : hasBits cq.control queueEnable = true → validDepth cq.depth = true)
    (throttling : cq.Throttling)
    (room : guarded → owed s.bridge s.engine s.checkpoint = true → cq.Open) (geometry : guarded → cq.Geometry) :
    Custody guarded (updateQueueReady ((s.setSq sq).setCq cq)) := by
  unfold updateQueueReady State.setStatus State.setControl
  split
  next both =>
    simp only [State.setCq_sq, State.setCq_cq, State.setSq_sq, Bool.and_eq_true] at both
    refine { custody with
      owner := { custody.owner with busy := ?_ }
      resetting := fun armed => absurd free armed
      queues := ⟨fun _ => both, sqDepth, depth, throttling⟩
      room := room
      geometry := geometry }
    exact (hasBits_or _ (by decide)).trans custody.owner.busy
  · refine { custody with
      owner := { custody.owner with busy := ?_ }
      resetting := fun armed => absurd free armed
      queues := ⟨fun enabled => ?_, sqDepth, depth, throttling⟩
      room := room
      geometry := geometry }
    · exact (hasBits_clearBits _ (by decide)).trans custody.owner.busy
    · exact absurd (enabled.symm.trans (hasBits_cleared _ _)) (by decide)

theorem enableDevice (host : Host σ) (value : U32) :
    Custody guarded (enableDevice host s value) := by
  unfold Pcie.enableDevice
  split
  · exact custody.setError _
  next ready =>
    simp only [Bool.or_eq_true, Bool.not_eq_true', not_or, Bool.not_eq_false] at ready
    obtain ⟨⟨sq, cq⟩, -⟩ := ready
    refine Custody.processSq ?_ host
    refine { custody with
      owner := { custody.owner with }
      resetting := fun armed => absurd ((custody.resetting armed).sq.symm.trans sq) (by decide)
      queues := { custody.queues with enabled := fun _ => ⟨sq, cq⟩ } }

theorem writeDeviceControl (host : Host σ) (value : U32) :
    Custody guarded (writeDeviceControl host s value) := by
  have reported := custody.reportReserved value controlDefined
  unfold Pcie.writeDeviceControl
  dsimp only
  split_ifs
  · exact reported.deviceReset
  · exact reported.enableDevice host value
  · have disabled : hasBits (value &&& controlQuiesce) controlEnable = false := by
      rw [hasBits, BitVec.and_assoc, show controlQuiesce &&& controlEnable = 0 by decide]
      simp
    refine { reported with
      owner := { reported.owner with }
      resetting := fun armed => { reported.resetting armed with stopped := disabled }
      queues := { reported.queues with enabled := fun enabled => absurd (enabled.symm.trans disabled) (by decide) } }

/-- The registers of a disabled completion queue move only while no completion is owed. -/
theorem reconfigure (cq : CompletionQueue) (control : cq.control = s.cq.control)
    (backpressure : cq.backpressure = s.cq.backpressure) (disabled : hasBits s.cq.control queueEnable = false)
    (ordered : cq.watermarkHigh ≠ 0 → cq.watermarkLow < cq.watermarkHigh) (geometry : guarded → cq.Geometry) :
    Custody guarded (s.setCq cq) := by
  have queues := custody.queues
  have off : hasBits cq.control queueEnable = false := by rw [control]; exact disabled
  have unthrottled : cq.backpressure ≠ true := by
    intro throttled
    exact absurd ((queues.throttling.configured (backpressure ▸ throttled)).1.symm.trans disabled) (by decide)
  refine { custody with
    resetting := fun armed => { custody.resetting armed with cq := off }
    queues := ⟨?_, queues.sqDepth, fun enabled => absurd (enabled.symm.trans off) (by decide), ordered,
      fun throttled => absurd throttled unthrottled, fun throttled => absurd throttled unthrottled⟩
    room := ?_
    geometry := geometry }
  · intro enabled
    exact absurd ((queues.enabled enabled).2.symm.trans disabled) (by decide)
  · intro guard owes
    exact absurd ((custody.room guard owes).enabled.symm.trans disabled) (by decide)

theorem writeSqBase (value : U32) :
    Custody guarded (writeSqBaseLo s value) ∧ Custody guarded (writeSqBaseHi s value) := by
  unfold writeSqBaseLo writeSqBaseHi
  dsimp only
  constructor
  all_goals
    split
    · exact custody.setError _
    · exact custody.setSq _ (by rfl) custody.queues.sqDepth

theorem writeSqDepth (value : U32) : Custody guarded (writeSqDepth s value) := by
  unfold Pcie.writeSqDepth
  split
  · exact custody.setError _
  next accepted =>
    simp only [Bool.or_eq_true, not_or, Bool.not_eq_true] at accepted
    exact custody.setSq { s.sq with depth := value } rfl fun enabled =>
      absurd (enabled.symm.trans accepted.1) (by decide)

theorem writeSqDoorbell (host : Host σ) (value : U32) :
    Custody guarded (writeSqDoorbell host s value) := by
  have rejected := (custody.setSq s.sq.markError rfl custody.queues.sqDepth).setError errorQueue
  unfold Pcie.writeSqDoorbell rejectSqDoorbell
  dsimp only
  split_ifs
  · exact rejected
  · exact rejected
  · exact (custody.setSq { s.sq with tail := value } rfl custody.queues.sqDepth).processSq host

theorem enableSq (value : U32) (free : s.device.resetTimer = none) :
    Custody guarded (enableSq s value) := by
  unfold Pcie.enableSq
  split
  · exact custody.setError _
  next accepted =>
    refine custody.configure { s.sq with control := value &&& queueEnable } s.cq free (fun enabled => ?_)
      custody.queues.depth custody.queues.throttling custody.room custody.geometry
    have on : hasBits value queueEnable = true := (hasBits_masked value queueEnable).symm.trans enabled
    simp only [on, Bool.true_and, Bool.or_eq_true, not_or, Bool.not_eq_true', Bool.not_eq_false] at accepted
    exact accepted.2

theorem writeSqControl (value : U32) (free : s.device.resetTimer = none) :
    Custody guarded (writeSqControl s value) := by
  have reported := custody.reportReserved value queueControlDefined
  unfold Pcie.writeSqControl
  dsimp only
  split
  · exact reported.queueReset
  · unfold Pcie.reportReserved
    split
    · exact (custody.setError _).enableSq value free
    · exact custody.enableSq value free

theorem writeCqBase (value : U32) :
    Custody guarded (writeCqBaseLo s value) ∧ Custody guarded (writeCqBaseHi s value) := by
  unfold writeCqBaseLo writeCqBaseHi
  dsimp only
  constructor
  · split
    · exact custody.setError _
    next disabled =>
      exact custody.reconfigure { s.cq with baseLo := value } rfl rfl (by simpa using disabled)
        custody.queues.throttling.ordered fun guard => { custody.geometry guard with }
  · split
    · exact custody.setError _
    next accepted =>
      simp only [Bool.or_eq_true, not_or, Bool.not_eq_true] at accepted
      exact custody.reconfigure _ (by rfl) (by rfl) accepted.1 custody.queues.throttling.ordered fun guard =>
        { custody.geometry guard with }

theorem writeCqDepth (value : U32)
    (roomy : guarded → acceptsCqDepth s value → s.cq.head < value ∧ s.cq.tail < value) :
    Custody guarded (writeCqDepth s value) := by
  have geometry (guard : guarded) := (custody.geometry guard).writeCqDepth value (roomy guard)
  unfold Pcie.writeCqDepth at geometry ⊢
  split_ifs at geometry ⊢ with rejected
  · exact custody.setError _
  · simp only [Bool.or_eq_true, not_or, Bool.not_eq_true] at rejected
    exact custody.reconfigure { s.cq with depth := value } rfl rfl rejected.1 custody.queues.throttling.ordered geometry

theorem writeCqWatermark (value : U32) :
    Custody guarded (writeCqWatermark s value) := by
  have geometry (guard : guarded) := (custody.geometry guard).writeCqWatermark value
  unfold Pcie.writeCqWatermark at geometry ⊢
  dsimp only at geometry ⊢
  split_ifs at geometry ⊢ with rejected
  · exact custody.setError _
  · simp only [Bool.or_eq_true, not_or, Bool.not_eq_true, decide_eq_false_iff_not, BitVec.not_le] at rejected
    exact custody.reconfigure { s.cq with watermarkHigh := value >>> 16, watermarkLow := value &&& 0xffff } rfl rfl
      rejected.1.1.1.1 (fun _ => rejected.1.1.2) geometry

/-- The host consumes completions, which takes no place away from the one that is owed. -/
theorem writeCqDoorbell (host : Host σ) (value : U32) :
    Custody guarded (writeCqDoorbell host s value) := by
  have rejected : Custody guarded (Pcie.setError (s.setCq s.cq.markError) errorQueue) := by
    have marked : Custody guarded (s.setCq s.cq.markError) := custody.setCq rfl rfl { custody.queues.throttling with }
      (fun guard owes => { custody.room guard owes with }) fun guard => (custody.geometry guard).markError
    exact marked.setError _
  unfold Pcie.writeCqDoorbell rejectCqDoorbell
  dsimp only
  split_ifs with outside produced
  · exact rejected
  · exact rejected
  · simp only [Bool.or_eq_true, decide_eq_true_eq, not_or, BitVec.not_le] at outside
    rw [BitVec.not_lt] at produced
    refine Custody.processSq (custody.setCq ?_ ?_ ?_ ?_ ?_) host
    · exact (s.cq.consume value).control_updateBackpressure
    · exact (s.cq.consume value).depth_updateBackpressure
    · exact (s.cq.consume value).throttling_updateBackpressure custody.queues.throttling.ordered
    · intro guard owes
      have before := custody.room guard owes
      have geometry := custody.geometry guard
      have valid := custody.queues.depth before.enabled
      have nonzero := validDepth_ne_zero valid
      have room := before.room
      simp only [validDepth, Bool.and_eq_true] at valid
      refine ⟨?_, ?_⟩
      · rw [CompletionQueue.control_updateBackpressure]
        exact before.enabled
      · rw [CompletionQueue.full_updateBackpressure]
        simp only [CompletionQueue.full, CompletionQueue.consume, Bool.and_eq_false_iff, bne_eq_false_iff_eq,
          beq_eq_false_iff_ne] at room ⊢
        refine .inr (room_of_consumed valid.2 (geometry.head nonzero) (geometry.tail nonzero) outside.2 ?_ produced)
        exact room.resolve_left nonzero
    · intro guard
      have consumed : (s.cq.consume value).Geometry := { custody.geometry guard with head := fun _ => outside.2 }
      exact consumed.updateBackpressure

/-- The completion queue stays enabled while a completion is owed. -/
theorem enableCq (value : U32) (free : s.device.resetTimer = none)
    (kept : guarded → owed s.bridge s.engine s.checkpoint = true → hasBits value queueEnable = true) :
    Custody guarded (enableCq s value) := by
  have same := hasBits_masked value queueEnable
  unfold Pcie.enableCq
  split
  · exact custody.setError _
  next accepted =>
    have valid (enabled : hasBits value queueEnable = true) : validDepth s.cq.depth = true := by
      simp only [enabled, Bool.true_and, Bool.or_eq_true, not_or, Bool.not_eq_true', Bool.not_eq_false] at accepted
      exact accepted.2
    have control : (s.cq.enable (value &&& queueEnable)).updateBackpressure.control = value &&& queueEnable :=
      (CompletionQueue.control_updateBackpressure _).trans (s.cq.control_enable _)
    have depth : (s.cq.enable (value &&& queueEnable)).updateBackpressure.depth = s.cq.depth :=
      (CompletionQueue.depth_updateBackpressure _).trans (s.cq.depth_enable _)
    have ordered := s.cq.ordered_enable (value &&& queueEnable) custody.queues.throttling.ordered fun some =>
      valid (bne_iff_ne.mpr some)
    refine custody.configure s.sq _ free custody.queues.sqDepth ?_
      (CompletionQueue.throttling_updateBackpressure _ ordered) ?_ ?_
    · intro enabled
      rw [control, same] at enabled
      rw [depth]
      exact valid enabled
    · intro guard owes
      refine ⟨?_, ?_⟩
      · rw [control, same]
        exact kept guard owes
      · rw [CompletionQueue.full_updateBackpressure, CompletionQueue.full_enable]
        exact (custody.room guard owes).room
    · intro guard
      refine ((custody.geometry guard).enable _ fun some => ?_).updateBackpressure
      exact valid (bne_iff_ne.mpr some)

theorem writeCqControl (value : U32) (free : s.device.resetTimer = none)
    (kept : guarded → owed s.bridge s.engine s.checkpoint = true → hasBits value queueResetBit = false →
      hasBits value queueEnable = true) : Custody guarded (writeCqControl s value) := by
  have reported := custody.reportReserved value queueControlDefined
  unfold Pcie.writeCqControl
  dsimp only
  split
  · exact reported.queueReset
  next plain =>
    have enabled (guard : guarded) (owes : owed s.bridge s.engine s.checkpoint = true) :=
      kept guard owes (Bool.eq_false_iff.mpr plain)
    unfold Pcie.reportReserved
    split
    · exact (custody.setError _).enableCq value free enabled
    · exact custody.enableCq value free enabled

theorem writeErrorStatus (value : U32) : Custody guarded (writeErrorStatus s value) := by
  have cleared : Custody guarded (s.setSignals { s.signals with
      errorStatus := clearBits s.signals.errorStatus (value &&& errorDefined) }) :=
    custody.setSignals { custody.signals with }
  exact cleared.reportReserved value errorDefined

theorem writeIntr (value : U32) :
    Custody guarded (writeIntrStatus s value) ∧ Custody guarded (writeIntrMask s value) ∧
      Custody guarded (writeIntrForce s value) ∧ Custody guarded (writeIntrCoalesce s value) := by
  have reported := custody.reportReserved value intrDefined
  refine ⟨?_, ?_, ?_, ?_⟩
  · have cleared : Custody guarded (s.setSignals (s.signals.setLevel
        (clearBits s.signals.intrStatus (value &&& intrDefined)) s.signals.intrMask)) :=
      custody.setSignals { custody.signals with }
    unfold writeIntrStatus
    dsimp only
    split
    · exact (cleared.reportReserved value intrDefined).raiseInterrupt _
    · exact cleared.reportReserved value intrDefined
  · exact reported.setSignals { reported.signals with }
  · unfold writeIntrForce
    split
    · exact custody.setError _
    · exact reported.raiseInterrupt _
  · unfold writeIntrCoalesce
    split
    · exact custody.setError _
    · exact custody.setSignals { custody.signals with }

/-- An armed fault is a defined one, and its count starts above zero. -/
theorem armFault (value : U32) :
    Custody guarded (armFault s (value &&& faultDefined)) := by
  unfold Pcie.armFault
  split
  · exact custody
  next some =>
    split
    · exact custody.setError _
    next accepted =>
      simp only [Bool.or_eq_true, not_or, Bool.not_eq_true', Bool.not_eq_false] at accepted
      have counts : (if s.signals.fault.arg ≠ 0 then s.signals.fault.arg else 1) ≠ 0 := by
        split
        next configured => exact configured
        · decide
      have defined : clearBits (value &&& faultDefined) faultDefined = 0 := by
        simp [clearBits, BitVec.and_assoc]
      refine Custody.checkInvariants (custody.setSignals ?_)
      exact ⟨⟨fun _ => counts, fun _ => some⟩, fun _ => accepted.2, defined, custody.signals.clean⟩

theorem writeFault (value : U32) :
    Custody guarded (writeFaultControl s value) ∧ Custody guarded (writeFaultArg s value) ∧
      Custody guarded (writeFaultStatus s value) := by
  refine ⟨(custody.reportReserved value faultDefined).armFault value, ?_, ?_⟩
  · unfold writeFaultArg
    split
    · exact custody.setError _
    · exact custody.setSignals { custody.signals with }
  · have cleared : Custody guarded (setFault s { s.signals.fault with
        status := clearBits s.signals.fault.status (value &&& faultDefined) }) :=
      custody.setSignals { custody.signals with }
    exact cleared.reportReserved value faultDefined

theorem lockDebug : Custody guarded (lockDebug s) where
  clock := custody.clock
  owner := { custody.owner with
    controlRange := show checkpointNone ≤ checkpointCqPublish by decide
    exclusive := .inl rfl }
  resetting armed := { custody.resetting armed with }
  queues := { custody.queues with }
  signals := ⟨⟨absurd rfl, absurd rfl⟩, absurd rfl, show clearBits (0 : U32) faultDefined = 0 by decide,
    custody.signals.clean⟩
  logged := custody.logged
  room := custody.room
  geometry := custody.geometry

theorem writeDebugLock (value : U32) : Custody guarded (writeDebugLock s value) := by
  have reported := custody.reportReserved value 1
  unfold Pcie.writeDebugLock
  dsimp only
  split_ifs
  · exact reported.setError _
  · exact reported.lockDebug
  · exact reported

theorem writeCheckpointControl (value : U32) :
    Custody guarded (writeCheckpointControl s value) := by
  unfold Pcie.writeCheckpointControl
  split
  · exact custody.setError _
  next accepted =>
    simp only [Bool.or_eq_true, decide_eq_true_eq, not_or, bne_iff_ne, not_not, BitVec.not_lt] at accepted
    obtain ⟨⟨⟨⟨-, -⟩, unpaused⟩, -⟩, range⟩ := accepted
    refine Custody.checkInvariants { custody with owner := ?_ }
    exact { custody.owner with controlRange := range, exclusive := .inr unpaused }

theorem writeCheckpointRelease (host : Host σ) (value : U32) :
    Custody guarded (writeCheckpointRelease host s value) := by
  unfold Pcie.writeCheckpointRelease
  split
  · exact custody.setError _
  next accepted =>
    simp only [Bool.or_eq_true, bne_iff_ne, beq_iff_eq, not_or, not_not] at accepted
    exact custody.checkpointRelease host accepted.2

end

end Custody

/-- The host takes the completion queue away from a completion that is still owed. -/
def disablesOwed (s : State σ) : Event → Bool
  | .write offset value size =>
      offset == Register.cqControl.offset && size == 4 && !hasBits s.device.status statusResetting &&
        !hasBits value queueResetBit && !hasBits value queueEnable && owed s.bridge s.engine s.checkpoint
  | _ => false

/-- The host keeps the completion queue for a completion that is owed, and its indices inside a new depth. -/
structure KeepsCq (s : State σ) (event : Event) : Prop where
  enabled : disablesOwed s event = false
  depth : shrinksCq s event = false

instance (s : State σ) (event : Event) : Decidable (KeepsCq s event) :=
  decidable_of_iff (disablesOwed s event = false ∧ shrinksCq s event = false)
    ⟨fun both => ⟨both.1, both.2⟩, fun keeps => ⟨keeps.enabled, keeps.depth⟩⟩

namespace Custody
variable {guarded : Prop} {s : State σ}

/-- The control registers of the queues are closed to the host during a device reset. -/
theorem writeRegister (custody : Custody guarded s) (host : Host σ) (register : Register) (value : U32)
    (free : register = .sqControl ∨ register = .cqControl → hasBits s.device.status statusResetting = false)
    (roomy : guarded → register = .cqDepth → acceptsCqDepth s value → s.cq.head < value ∧ s.cq.tail < value)
    (kept : guarded → register = .cqControl → owed s.bridge s.engine s.checkpoint = true →
      hasBits value queueResetBit = false → hasBits value queueEnable = true) :
    Custody guarded (writeRegister host s register value) := by
  have unarmed (queue : register = .sqControl ∨ register = .cqControl) : s.device.resetTimer = none := by
    by_contra armed
    exact absurd ((custody.resetting armed).status.symm.trans (free queue)) (by decide)
  cases register with
  | deviceControl => exact custody.writeDeviceControl host value
  | sqBaseLo => exact (custody.writeSqBase value).1
  | sqBaseHi => exact (custody.writeSqBase value).2
  | sqDepth => exact custody.writeSqDepth value
  | sqDoorbell => exact custody.writeSqDoorbell host value
  | sqControl => exact custody.writeSqControl value (unarmed (.inl rfl))
  | cqBaseLo => exact (custody.writeCqBase value).1
  | cqBaseHi => exact (custody.writeCqBase value).2
  | cqDepth => exact custody.writeCqDepth value fun guard => roomy guard rfl
  | cqDoorbell => exact custody.writeCqDoorbell host value
  | cqControl => exact custody.writeCqControl value (unarmed (.inr rfl)) fun guard => kept guard rfl
  | cqWatermark => exact custody.writeCqWatermark value
  | errorStatus => exact custody.writeErrorStatus value
  | intrStatus => exact (custody.writeIntr value).1
  | intrMask => exact (custody.writeIntr value).2.1
  | intrForce => exact (custody.writeIntr value).2.2.1
  | intrCoalesce => exact (custody.writeIntr value).2.2.2
  | resetRequest =>
      unfold Pcie.writeRegister writeResetRequest
      dsimp only
      split
      · exact custody.setError _
      · exact custody.engineReset host
  | faultControl => exact (custody.writeFault value).1
  | faultArg => exact (custody.writeFault value).2.1
  | faultStatus => exact (custody.writeFault value).2.2
  | debugLock => exact custody.writeDebugLock value
  | checkpointControl => exact custody.writeCheckpointControl value
  | checkpointRelease => exact custody.writeCheckpointRelease host value
  | _ => exact custody.setError _

theorem bar0Write (custody : Custody guarded s) (host : Host σ) (offset : Nat) (value : U32) (size : Nat)
    (keeps : guarded → KeepsCq s (.write offset value size)) :
    Custody guarded (bar0Write host s offset value size) := by
  unfold Pcie.bar0Write
  split_ifs with malformed hidden resetting
  · exact custody.setError _
  · exact custody.setError _
  · exact custody.setError _
  · split
    · exact custody.setError _
    next register found =>
      obtain rfl := Register.offset_of_ofOffset found
      simp only [ne_eq, not_or, not_not] at malformed
      obtain ⟨rfl, -⟩ := malformed
      have ready (inside : Register.sqBaseLo.offset ≤ register.offset ∧
          register.offset ≤ Register.cqBackpressureCount.offset) :
          hasBits s.device.status statusResetting = false := by
        by_contra busy
        exact resetting ⟨inside.1, inside.2, by simpa using busy⟩
      refine custody.writeRegister host register value ?_ ?_ ?_
      · rintro (rfl | rfl)
        · exact ready (by decide)
        · exact ready (by decide)
      · rintro guard rfl accepts
        have depth := (keeps guard).depth
        simpa [shrinksCq, ready (by decide), accepts, Register.offset] using depth
      · rintro guard rfl owes plain
        have enabled := (keeps guard).enabled
        simpa [disablesOwed, ready (by decide), owes, plain] using enabled

theorem bar0Read (custody : Custody guarded s) (offset size : Nat) : Custody guarded (bar0Read s offset size).2 := by
  unfold Pcie.bar0Read
  split_ifs
  · exact custody.setError _
  · exact custody.setError _
  · split
    · exact custody.setError _
    · exact custody.checkInvariants
    · exact custody

theorem powerOn (guarded : Prop) (debugEnabled connected : Bool) (memory : σ) :
    Custody guarded (powerOn debugEnabled connected memory) := by
  have idle : owed {} {} {} = false := by decide
  have cold : Custody guarded ({ device := { debugEnabled }, link := { connected }, memory } : State σ) := {
    clock := show 0 < clockLimitNs by decide
    owner := {
      inflight := nofun
      discard := nofun
      final := nofun
      ackTimer := absurd rfl
      controlRoom := Nat.zero_le _
      answerRoom := Nat.zero_le _
      busy := show hasBits statusReady statusEngineBusy = false by decide
      current := nofun
      deadline := fun owes => absurd (owes.symm.trans idle) (by decide)
      hung := nofun
      timer := absurd rfl
      controlRange := show checkpointNone ≤ checkpointCqPublish by decide
      statusRange := show checkpointNone ≤ checkpointCqPublish by decide
      exclusive := .inl rfl
      start := fun paused => absurd paused (show checkpointNone ≠ checkpointEngineStart by decide)
      publish := fun paused => absurd paused (show checkpointNone ≠ checkpointCqPublish by decide)
      paused := fun paused => absurd paused (show checkpointNone ≠ checkpointCqPublish by decide) }
    resetting := absurd rfl
    queues := ⟨fun enabled => absurd (enabled.symm.trans (hasBits_zero _)) (by decide),
      fun enabled => absurd (enabled.symm.trans (hasBits_zero _)) (by decide),
      fun enabled => absurd (enabled.symm.trans (hasBits_zero _)) (by decide), ⟨absurd rfl, nofun, nofun⟩⟩
    signals := ⟨⟨absurd rfl, absurd rfl⟩, absurd rfl, show clearBits (0 : U32) faultDefined = 0 by decide, nofun⟩
    logged := fun _ => nofun
    room := fun _ owes => absurd (owes.symm.trans idle) (by decide)
    geometry := fun _ => ⟨absurd rfl, absurd rfl, absurd rfl, absurd rfl, absurd rfl⟩ }
  exact Custody.checkInvariants { cold with owner := { cold.owner with } }

/-- One event keeps the ownership of the command. -/
theorem step {next : State σ} (custody : Custody guarded s) (host : Host σ) (event : Event)
    (keeps : guarded → KeepsCq s event) (stepped : step host s event = some next) : Custody guarded next := by
  cases event with
  | write offset value size =>
      obtain rfl := Option.some.inj stepped
      exact custody.bar0Write host offset value size keeps
  | read offset size =>
      obtain rfl := Option.some.inj stepped
      exact custody.bar0Read offset size
  | engineTimer =>
      obtain ⟨fires, rfl⟩ := EventMachine.guarded stepped
      have armed : s.engine.timer ≠ none := by
        intro none
        simp [expired, none] at fires
      obtain ⟨running, -, unpaused⟩ := custody.owner.timer armed
      have fired : Custody guarded (s.setEngine { s.engine with timer := none }) :=
        { custody with owner := { custody.owner with timer := absurd rfl } }
      exact fired.engineComplete host running rfl unpaused
  | resetTimer =>
      obtain ⟨fires, rfl⟩ := EventMachine.guarded stepped
      refine custody.resetComplete fun none => ?_
      simp [expired, none] at fires
  | firmwareAckTimer =>
      obtain ⟨fires, rfl⟩ := EventMachine.guarded stepped
      refine custody.firmwareAckTimeout host (custody.owner.ackTimer fun none => ?_)
      simp [expired, none] at fires
  | receive bytes =>
      obtain ⟨⟨some, fits⟩, rfl⟩ := EventMachine.guarded stepped
      exact custody.bridgeReceive host bytes some fits
  | closed =>
      obtain rfl := Option.some.inj stepped
      exact custody.bridgeClosed host
  | link writable =>
      obtain rfl := Option.some.inj stepped
      exact custody.setLink _
  | busMaster enabled =>
      obtain rfl := Option.some.inj stepped
      exact { custody with }
  | tick nowNs =>
      obtain ⟨⟨-, below⟩, rfl⟩ := EventMachine.guarded stepped
      exact { custody with clock := below }

end Custody

/-- At most one owner has the command, and the registers that describe it agree. -/
structure CommandOwnership (s : State σ) : Prop where
  notDiscarding : ¬(s.bridge.inflight = true ∧ s.bridge.discardCompletion = true)
  notRunning : ¬(s.bridge.inflight = true ∧ s.engine.inflight = true)
  discardNotRunning : ¬(s.bridge.discardCompletion = true ∧ s.engine.inflight = true)
  final : s.bridge.waitingFinal = true → s.bridge.inflight = true
  busy : hasBits s.device.status statusEngineBusy = s.engine.inflight
  current : s.engine.inflight = true →
    s.engine.generation = s.device.resetGeneration ∧ s.engine.activeEpoch = s.engine.epoch
  deadlines : s.engine.inflight = true →
    (0 < s.engine.commandDeadlineNs ∧ s.engine.commandDeadlineNs < timeLimitNs) ∧
      0 < s.engine.finishNs ∧ s.engine.finishNs < timeLimitNs
  hung : s.engine.hung = true → s.engine.inflight = true
  armed : s.signals.fault.control ≠ 0 ↔ s.signals.fault.remaining ≠ 0
  checkpoint : s.checkpoint.control = 0 ∨ s.checkpoint.status = 0
  unaborted : ∀ assertion ∈ s.signals.failed, assertion.geometry = true ∨ assertion = .publishRoom

theorem Custody.commandOwnership {guarded : Prop} {s : State σ} (custody : Custody guarded s) : CommandOwnership s where
  notDiscarding := by
    rintro ⟨inflight, discards⟩
    exact absurd (discards.symm.trans (custody.owner.inflight inflight).1) (by decide)
  notRunning := by
    rintro ⟨inflight, running⟩
    exact absurd (running.symm.trans (custody.owner.inflight inflight).2) (by decide)
  discardNotRunning := by
    rintro ⟨discards, running⟩
    exact absurd (running.symm.trans (custody.owner.discard discards)) (by decide)
  final := custody.owner.final
  busy := custody.owner.busy
  current running := ⟨(custody.owner.current running).1, (custody.owner.current running).2.1⟩
  deadlines running := by
    obtain ⟨positive, below⟩ := custody.owner.deadline (by simp [owed, running])
    exact ⟨⟨positive, Nat.lt_of_succ_lt below⟩, (custody.owner.current running).2.2⟩
  hung := custody.owner.hung
  armed := custody.signals.armed
  checkpoint := custody.owner.exclusive
  unaborted assertion failed := (custody.signals.clean assertion failed).imp_right And.left

/-- Whatever the host, the bus, the timers, and the bridge do, one owner at most has the command. -/
theorem commandOwnership_always (host : Host σ) (debugEnabled connected : Bool) (memory : σ) (events : List Event) :
    (step host).Always CommandOwnership (powerOn debugEnabled connected memory) events := by
  refine (EventMachine.always_of_meets ?_ (Custody.powerOn False debugEnabled connected memory)
    (EventMachine.meets_of_forall (fun _ _ _ => trivial) _)).mono fun _ custody => custody.commandOwnership
  intro state event next custody _ stepped
  exact custody.step host event nofun stepped

end VamsSoc.Pcie
