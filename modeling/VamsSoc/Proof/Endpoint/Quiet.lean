/-
This file shows that a register write other than a reset touches the command protocol only by a fetch.
-/

import VamsSoc.Proof.Endpoint.View
import VamsSoc.Proof.Endpoint.Geometry

namespace VamsSoc.Pcie
open Library Abi

variable {σ : Type}

/-- A calm endpoint whose running engine is the one that its timer belongs to. -/
structure Steady (s : State σ) : Prop where
  calm : Calm s
  engaged : Engaged s

/-- The second state differs from the first at most by one fetched descriptor. -/
structure Polls (before after : State σ) : Prop where
  steady : Steady after
  view : view after = view before ∨
    ((view before).Idle ∧ ∃ submission, view after = (view before).fetch submission)

theorem Steady.of_parts {s t : State σ} (steady : Steady s) (calm : Calm t) (engine : t.engine = s.engine)
    (device : t.device = s.device) : Steady t where
  calm := calm
  engaged := ⟨by rw [engine]; exact steady.engaged.armed, by
    rw [engine, device]
    exact steady.engaged.current⟩

theorem Steady.setError {s : State σ} (steady : Steady s) (error : U32) : Steady (setError s error) :=
  steady.of_parts (steady.calm.setError error) rfl rfl

theorem Steady.raiseInterrupt {s : State σ} (steady : Steady s) (sources : U32) :
    Steady (raiseInterrupt s sources) := steady.of_parts (steady.calm.raiseInterrupt sources) rfl rfl

theorem Steady.checkInvariants {s : State σ} (steady : Steady s) : Steady (checkInvariants s) :=
  steady.of_parts steady.calm.checkInvariants rfl rfl

theorem Steady.setSq {s : State σ} (steady : Steady s) (sq : SubmissionQueue) : Steady (s.setSq sq) :=
  steady.of_parts (steady.calm.setSq sq) rfl rfl

theorem Steady.setCq {s : State σ} (steady : Steady s) (cq : CompletionQueue) : Steady (s.setCq cq) :=
  steady.of_parts (steady.calm.setCq cq) rfl rfl

theorem Steady.setControl {s : State σ} (steady : Steady s) (control : U32) : Steady (s.setControl control) where
  calm := steady.calm.of_parts rfl rfl rfl rfl
  engaged := ⟨steady.engaged.armed, steady.engaged.current⟩

theorem Steady.setSignals {s : State σ} (steady : Steady s) {signals : Signals}
    (same : signals.fault.control = s.signals.fault.control) : Steady (s.setSignals signals) :=
  steady.of_parts (steady.calm.of_parts rfl rfl same rfl) rfl rfl

theorem Steady.reportReserved {s : State σ} (steady : Steady s) (value defined : U32) :
    Steady (reportReserved s value defined) := by
  unfold Pcie.reportReserved
  split
  · exact steady.setError _
  · exact steady

@[simp] theorem view_reportReserved (s : State σ) (value defined : U32) :
    view (reportReserved s value defined) = view s := by
  unfold reportReserved
  split <;> rfl

theorem Polls.same {s t : State σ} (steady : Steady t) (same : Pcie.view t = Pcie.view s) : Polls s t :=
  ⟨steady, .inl same⟩

@[simp] theorem view_setControl (s : State σ) (control : U32) : view (s.setControl control) = view s := rfl
@[simp] theorem view_setStatus (s : State σ) (status : U32) : view (s.setStatus status) = view s := rfl

theorem Steady.setStatus {s : State σ} (steady : Steady s) (status : U32) : Steady (s.setStatus status) where
  calm := steady.calm.of_parts rfl rfl rfl rfl
  engaged := ⟨steady.engaged.armed, steady.engaged.current⟩

theorem Steady.updateQueueReady {s : State σ} (steady : Steady s) : Steady (updateQueueReady s) := by
  unfold Pcie.updateQueueReady
  split
  · exact steady.setStatus _
  · exact (steady.setStatus _).setControl _

@[simp] theorem view_updateQueueReady (s : State σ) : view (updateQueueReady s) = view s := by
  unfold updateQueueReady
  split <;> rfl

theorem Steady.setBridge {s : State σ} (steady : Steady s) (bridge : Bridge) : Steady (s.setBridge bridge) :=
  steady.of_parts (steady.calm.setBridge bridge) rfl rfl

theorem Steady.send {s : State σ} (steady : Steady s) (tx : List Frame) :
    Steady (s.setLink { s.link with tx }) := by
  refine steady.of_parts ?_ rfl rfl
  exact ⟨steady.calm.connected, steady.calm.writable, steady.calm.debug, steady.calm.fault,
    steady.calm.checkpoint⟩

/-- The deadline is arbitrary here, so that its arithmetic never has to be evaluated. -/
theorem Steady.hold {s : State σ} (steady : Steady s) (bridge : Bridge) (commandDeadlineNs : Nat) :
    Steady { s with bridge, engine := { s.engine with commandDeadlineNs } } where
  calm := steady.calm.of_parts rfl rfl rfl rfl
  engaged := ⟨steady.engaged.armed, steady.engaged.current⟩

theorem Steady.forwardSubmission {s : State σ} (steady : Steady s) (submission : Submission) :
    Steady (forwardSubmission s submission) := by
  have held : Steady (holdSubmission s submission) := steady.hold _ _
  have waiting := held.setBridge (holdSubmission s submission).bridge.awaitAuthorization
  unfold Pcie.forwardSubmission
  dsimp only
  rw [chrWriteAll_writable waiting.calm.writable, if_pos rfl]
  exact ((waiting.send _).setSq _).checkInvariants

theorem Steady.fetchSubmission {s : State σ} (steady : Steady s) (host : Host σ) :
    Steady (fetchSubmission host s).2 := by
  have read : Steady (dmaRead host s (s.sq.base + s.sq.head.setWidth 64 * BitVec.ofNat 64 submissionSize)
      submissionSize).2 := steady.of_parts (steady.calm.of_parts rfl rfl rfl rfl) rfl rfl
  unfold Pcie.fetchSubmission
  dsimp only
  split
  · exact (read.setSq _).setError _
  · rw [if_pos steady.calm.connected]
    refine Steady.forwardSubmission ?_ _
    exact read.of_parts (read.calm.of_parts rfl rfl rfl rfl) rfl rfl

/-- The fetch loop of a steady endpoint is a poll. -/
theorem Steady.processSq {s : State σ} (steady : Steady s) (host : Host σ) : Polls s (processSq host s) := by
  refine ⟨?_, view_processSq steady.calm host⟩
  have checked := steady.checkInvariants
  unfold Pcie.processSq
  split_ifs
  · cases s.sq.depth.toNat with
    | zero => exact checked
    | succ fuel =>
        rw [fetchLoop]
        split_ifs
        · dsimp only
          rw [if_neg (by rw [(view_fetchSubmission checked.calm host).1]; decide)]
          exact checked.fetchSubmission host
        · exact checked
  · exact checked

/-- These writes start a reset. -/
def startsReset (register : Register) (value : U32) : Bool :=
  match register with
  | .deviceControl => hasBits value controlReset
  | .sqControl | .cqControl => hasBits value queueResetBit
  | .resetRequest => value == resetRequestEngine
  | _ => false

theorem Polls.of_same {s t u : State σ} (same : Pcie.view t = Pcie.view s) (polls : Polls t u) : Polls s u :=
  ⟨polls.steady, same ▸ polls.view⟩

theorem Polls.error {s t : State σ} (steady : Steady t) (same : Pcie.view t = Pcie.view s) (error : U32) :
    Polls s (setError t error) := .same (steady.setError error) same

theorem Steady.writeDeviceControl {s : State σ} (steady : Steady s) (host : Host σ) {value : U32}
    (keeps : hasBits value controlReset = false) : Polls s (writeDeviceControl host s value) := by
  have reported := steady.reportReserved value controlDefined
  simp only [Pcie.writeDeviceControl, enableDevice, keeps, Bool.false_eq_true, if_false]
  split_ifs
  · exact .error reported (by simp) _
  · exact .of_same (by simp) ((reported.setControl _).processSq host)
  · exact .same (reported.setControl _) (by simp)

theorem Steady.writeDoorbell {s : State σ} (steady : Steady s) (host : Host σ) (value : U32) :
    Polls s (writeSqDoorbell host s value) ∧ Polls s (writeCqDoorbell host s value) := by
  unfold writeSqDoorbell writeCqDoorbell rejectSqDoorbell rejectCqDoorbell
  dsimp only
  constructor
  · split_ifs
    · exact .error (steady.setSq _) (by rfl) _
    · exact .error (steady.setSq _) (by rfl) _
    · exact .of_same (by rfl) ((steady.setSq _).processSq host)
  · split_ifs
    · exact .error (steady.setCq _) (by rfl) _
    · exact .error (steady.setCq _) (by rfl) _
    · exact .of_same (by rfl) ((steady.setCq _).processSq host)

theorem Steady.writeQueueControl {s : State σ} (steady : Steady s) {value : U32}
    (keeps : hasBits value queueResetBit = false) :
    Polls s (writeSqControl s value) ∧ Polls s (writeCqControl s value) := by
  have reported := steady.reportReserved value queueControlDefined
  simp only [writeSqControl, writeCqControl, enableSq, enableCq, keeps, Bool.false_eq_true, if_false]
  constructor
  · split_ifs
    · exact .error reported (by simp) _
    · exact .same (reported.setSq _).updateQueueReady (by simp)
  · split_ifs
    · exact .error reported (by simp) _
    · exact .same (reported.setCq _).updateQueueReady (by simp)

/-- A queue register is stored, or its write is refused. -/
theorem Steady.writeQueue {s : State σ} (steady : Steady s) (value : U32) :
    (Polls s (writeSqBaseLo s value) ∧ Polls s (writeSqBaseHi s value) ∧ Polls s (writeSqDepth s value)) ∧
      Polls s (writeCqBaseLo s value) ∧ Polls s (writeCqBaseHi s value) ∧ Polls s (writeCqDepth s value) ∧
      Polls s (writeCqWatermark s value) := by
  unfold writeSqBaseLo writeSqBaseHi writeSqDepth writeCqBaseLo writeCqBaseHi writeCqDepth writeCqWatermark
  dsimp only
  refine ⟨⟨?_, ?_, ?_⟩, ?_, ?_, ?_, ?_⟩
  all_goals
    split_ifs
    · exact .error steady rfl _
    · first
        | exact .same (steady.setSq _) (by rfl)
        | exact .same (steady.setCq _) (by rfl)

theorem Steady.writeIntr {s : State σ} (steady : Steady s) (value : U32) :
    Polls s (writeErrorStatus s value) ∧ Polls s (writeIntrStatus s value) ∧
      Polls s (writeIntrMask s value) ∧ Polls s (writeIntrForce s value) ∧
      Polls s (writeIntrCoalesce s value) := by
  have reported := steady.reportReserved value intrDefined
  have cleared (signals : Signals) (same : signals.fault.control = s.signals.fault.control) (defined : U32) :=
    (steady.setSignals same).reportReserved value defined
  refine ⟨.same (cleared _ (by rfl) _) (by simp [writeErrorStatus]), ?_, ?_, ?_, ?_⟩
  · unfold writeIntrStatus
    dsimp only
    split
    · exact .same ((cleared _ (by rfl) _).raiseInterrupt _) (by simp)
    · exact .same (cleared _ (by rfl) _) (by simp)
  · exact .same (reported.setSignals (by rfl)) (by simp [writeIntrMask])
  · unfold writeIntrForce
    split
    · exact .error steady rfl _
    · exact .same (reported.raiseInterrupt _) (by simp)
  · unfold writeIntrCoalesce
    split
    · exact .error steady rfl _
    · exact .same (steady.setSignals (by rfl)) (by rfl)

/-- Every write but a reset is a poll; the debug block is out of reach. -/
theorem Steady.writeRegister {s : State σ} (steady : Steady s) (host : Host σ) (register : Register)
    (value : U32) (plain : register.offset < Register.faultControl.offset)
    (keeps : startsReset register value = false) : Polls s (writeRegister host s register value) := by
  cases register with
  | deviceControl => exact steady.writeDeviceControl host keeps
  | sqDoorbell => exact (steady.writeDoorbell host value).1
  | cqDoorbell => exact (steady.writeDoorbell host value).2
  | sqControl => exact (steady.writeQueueControl keeps).1
  | cqControl => exact (steady.writeQueueControl keeps).2
  | sqBaseLo => exact (steady.writeQueue value).1.1
  | sqBaseHi => exact (steady.writeQueue value).1.2.1
  | sqDepth => exact (steady.writeQueue value).1.2.2
  | cqBaseLo => exact (steady.writeQueue value).2.1
  | cqBaseHi => exact (steady.writeQueue value).2.2.1
  | cqDepth => exact (steady.writeQueue value).2.2.2.1
  | cqWatermark => exact (steady.writeQueue value).2.2.2.2
  | errorStatus => exact (steady.writeIntr value).1
  | intrStatus => exact (steady.writeIntr value).2.1
  | intrMask => exact (steady.writeIntr value).2.2.1
  | intrForce => exact (steady.writeIntr value).2.2.2.1
  | intrCoalesce => exact (steady.writeIntr value).2.2.2.2
  | resetRequest =>
      simp only [startsReset, beq_eq_false_iff_ne] at keeps
      rw [Pcie.writeRegister, writeResetRequest, if_pos keeps]
      exact .error steady rfl _
  | faultControl | faultArg | faultStatus | debugLock | checkpointControl | checkpointRelease =>
      exact absurd plain (by decide)
  | _ => exact .error steady rfl _

/-- A write of the host starts a reset. -/
def hostResets : Event → Bool
  | .write offset value _ => (Register.ofOffset offset).any fun register => startsReset register value
  | _ => false

theorem Steady.bar0Write {s : State σ} (steady : Steady s) (host : Host σ) (offset : Nat) (value : U32)
    (size : Nat) (keeps : hostResets (.write offset value size) = false) :
    Polls s (bar0Write host s offset value size) := by
  unfold Pcie.bar0Write
  split_ifs with malformed hidden resetting
  · exact .error steady rfl _
  · exact .error steady rfl _
  · exact .error steady rfl _
  · split
    · exact .error steady rfl _
    next register found =>
      have placed := Register.offset_of_ofOffset found
      simp only [hostResets, found, Option.any_some] at keeps
      refine steady.writeRegister host register value ?_ keeps
      by_contra beyond
      exact hidden ⟨by rw [← placed]; exact Nat.not_lt.mp beyond, by simp [steady.calm.debug]⟩

theorem Steady.bar0Read {s : State σ} (steady : Steady s) (offset size : Nat) :
    Polls s (bar0Read s offset size).2 := by
  unfold Pcie.bar0Read
  split_ifs
  · exact .error steady rfl _
  · exact .error steady rfl _
  · split
    · exact .error steady rfl _
    · exact .same steady.checkInvariants (by rfl)
    · exact .same steady rfl

end VamsSoc.Pcie
