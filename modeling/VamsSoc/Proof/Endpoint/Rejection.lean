/-
This file shows that a rejected register write leaves nothing behind but its report.
-/

import VamsSoc.Proof.Endpoint.Interrupts

namespace VamsSoc.Pcie
open Library Abi

variable {σ : Type}

/-- These errors say that a register write was rejected. -/
def rejectionErrors : U32 := errorIllegalMmio ||| errorRoWrite ||| errorBadConfig

/-- The same state with another error register, interrupt status, and interrupt log. -/
def State.reporting (s : State σ) (errorStatus intrStatus : U32) (msix : List MsixEvent) : State σ :=
  s.setSignals { s.signals with errorStatus, intrStatus, msix }

/-- No rejected write is recorded. -/
def Unrejected (s : State σ) : Prop := hasBits s.signals.errorStatus rejectionErrors = false

/-- A doorbell is invalid if its queue is disabled, the index is out of range, or the advance is too large. -/
def InvalidDoorbell (s : State σ) (value : U32) : Register → Prop
  | .sqDoorbell =>
    hasBits s.sq.control queueEnable = false ∨ s.sq.depth ≤ value ∨
      (s.sq.head - s.sq.tail - 1) &&& (s.sq.depth - 1) < (value - s.sq.tail) &&& (s.sq.depth - 1)
  | .cqDoorbell =>
    hasBits s.cq.control queueEnable = false ∨ s.cq.depth ≤ value ∨
      (s.cq.tail - s.cq.head) &&& (s.cq.depth - 1) < (value - s.cq.head) &&& (s.cq.depth - 1)
  | _ => False

/-- A write is rejected if it records a rejection in a clear error register, or if it is an invalid doorbell. -/
def Rejected (host : Host σ) (s : State σ) (offset : Nat) (value : U32) (size : Nat) : Prop :=
  ¬Unrejected (bar0Write host (s.reporting 0 s.signals.intrStatus s.signals.msix) offset value size) ∨
    ∃ register : Register, offset = register.offset ∧ InvalidDoorbell s value register

/-- The report adds errors, sets the error source, and notifies the host once if the source was clear and unmasked. -/
structure Reported (before after : Signals) : Prop where
  errors : before.errorStatus &&& after.errorStatus = before.errorStatus
  source : after.intrStatus = before.intrStatus ||| intrError
  log : ∃ entries, after.msix = entries ++ before.msix ∧
    (∀ entry ∈ entries, entry = .level (before.intrStatus ||| intrError) before.intrMask ∨ entry = .notified 1) ∧
    entries.count (.notified 1) =
      if hasBits before.intrStatus intrError || hasBits before.intrMask intrError then 0 else 1
  rest : after = { before with
    errorStatus := after.errorStatus, intrStatus := after.intrStatus, msix := after.msix }

/-- Nothing changes but the report and, for a doorbell, the error flag of its queue. -/
structure OnlyReported (s : State σ) (offset : Nat) (next : State σ) : Prop where
  signals : Reported s.signals next.signals
  sq : next.sq = s.sq ∨ offset = Register.sqDoorbell.offset ∧ next.sq = { s.sq with error := true }
  cq : next.cq = s.cq ∨ offset = Register.cqDoorbell.offset ∧ next.cq = { s.cq with error := true }
  rest : next = { s with signals := next.signals, sq := next.sq, cq := next.cq }

/-- The error source is a single bit. -/
theorem hasBits_intrError (word : U32) : hasBits word intrError = word.getLsbD 1 := by
  have single : intrError = BitVec.twoPow 32 1 := by decide
  rw [hasBits, single, BitVec.and_twoPow]
  cases word.getLsbD 1 <;> decide

theorem clearBits_intrError (word : U32) :
    clearBits intrError word = if hasBits word intrError then 0 else intrError := by
  have single : intrError = BitVec.twoPow 32 1 := by decide
  rw [hasBits_intrError, clearBits, BitVec.and_comm, single, BitVec.and_twoPow, BitVec.getLsbD_not]
  cases word.getLsbD 1 <;> rfl

theorem notifications_error (status mask : U32) :
    notifications (clearBits (clearBits intrError status) mask) =
      if hasBits status intrError || hasBits mask intrError then [] else [.notified 1] := by
  rw [clearBits_intrError]
  cases hasBits status intrError with
  | true =>
      have none : clearBits (0 : U32) mask = 0 := BitVec.zero_and
      rw [if_pos rfl, none]
      rfl
  | false =>
      rw [if_neg Bool.false_ne_true, clearBits_intrError]
      cases hasBits mask intrError <;> rfl

/-- An error never touches the completion source, so no fault of its notification is consulted. -/
theorem Signals.setError_eq (signals : Signals) (error : U32) :
    signals.setError error = { signals with
      errorStatus := signals.errorStatus ||| error
      intrStatus := signals.intrStatus ||| intrError
      msix := notifications (clearBits (clearBits intrError signals.intrStatus) signals.intrMask) ++
        .level (signals.intrStatus ||| intrError) signals.intrMask :: signals.msix } := by
  have other : hasBits (clearBits intrError signals.intrStatus) intrCq = false := by
    rw [clearBits_intrError]
    split
    · exact hasBits_zero _
    · rfl
  simp only [Signals.setError, Signals.raiseInterrupt, other]
  rfl

theorem reported_setError (signals : Signals) (error : U32) : Reported signals (signals.setError error) := by
  rw [Signals.setError_eq, notifications_error]
  constructor
  · ext index
    simp only [BitVec.getElem_and, BitVec.getElem_or]
    cases signals.errorStatus[index] <;> rfl
  · rfl
  · refine ⟨(if hasBits signals.intrStatus intrError || hasBits signals.intrMask intrError then []
      else [.notified 1]) ++ [.level (signals.intrStatus ||| intrError) signals.intrMask], by simp, ?_, ?_⟩
    · intro entry listed
      split at listed <;> grind
    · split <;> simp
  · rfl

theorem Reported.trans {first second third : Signals} (before : Reported first second)
    (after : Reported second third) : Reported first third := by
  obtain ⟨earlier, start, levels, once⟩ := before.log
  obtain ⟨later, rest, more, again⟩ := after.log
  have mask : second.intrMask = first.intrMask := by rw [before.rest]
  have twice : second.intrStatus ||| intrError = first.intrStatus ||| intrError := by
    rw [before.source, BitVec.or_assoc, BitVec.or_self]
  have pending : hasBits second.intrStatus intrError = true := by
    rw [before.source]
    exact hasBits_set _ (by decide)
  constructor
  · rw [← before.errors, BitVec.and_assoc, after.errors, before.errors]
  · rw [after.source, twice]
  · refine ⟨later ++ earlier, by rw [rest, start, List.append_assoc], ?_, ?_⟩
    · intro entry listed
      rw [twice, mask] at more
      exact (List.mem_append.mp listed).elim (more entry) (levels entry)
    · rw [List.count_append, again, once, pending, Bool.true_or, if_pos rfl, Nat.zero_add]
  · rw [after.rest, before.rest]

theorem Signals.faultTrigger_errorStatus (signals : Signals) (fault : U32) :
    (signals.faultTrigger fault).2.errorStatus = signals.errorStatus := by
  simp only [Signals.faultTrigger, Signals.require]
  split_ifs <;> rfl

theorem Signals.raiseInterrupt_errorStatus (signals : Signals) (sources : U32) :
    (signals.raiseInterrupt sources).errorStatus = signals.errorStatus := by
  simp only [Signals.raiseInterrupt]
  split_ifs
  · exact Signals.faultTrigger_errorStatus _ _
  · exact Signals.faultTrigger_errorStatus _ _
  · rfl

namespace Unrejected

variable {host : Host σ} {s : State σ}

/-- Only the error register matters. -/
theorem of_errorStatus {next : State σ} (clear : Unrejected s)
    (same : next.signals.errorStatus = s.signals.errorStatus) : Unrejected next := by
  unfold Unrejected
  rw [same]
  exact clear

theorem setError (clear : Unrejected s) {error : U32} (other : error &&& rejectionErrors = 0) :
    Unrejected (setError s error) := by
  unfold Unrejected Pcie.setError
  rw [State.setSignals_signals, Signals.setError_eq]
  exact (hasBits_or _ other).trans clear

theorem require (clear : Unrejected s) (assertion : Assertion) (holds : Bool) :
    Unrejected (require s assertion holds) := by
  cases holds <;> exact clear

theorem raiseInterrupt (clear : Unrejected s) (sources : U32) : Unrejected (raiseInterrupt s sources) :=
  clear.of_errorStatus (Signals.raiseInterrupt_errorStatus _ _)

theorem faultTrigger (clear : Unrejected s) (fault : U32) : Unrejected (faultTrigger s fault).2 :=
  clear.of_errorStatus (Signals.faultTrigger_errorStatus _ _)

theorem checkpointHit (clear : Unrejected s) (checkpoint : U32) : Unrejected (checkpointHit s checkpoint).2 := by
  unfold Pcie.checkpointHit
  split <;> exact clear

theorem chrWriteAll (clear : Unrejected s) (kind : FrameKind) (bytes : List U8) :
    Unrejected (chrWriteAll s kind bytes).2 := by
  unfold Pcie.chrWriteAll
  split <;> exact clear

theorem publishCompletion (clear : Unrejected s) (completion : Completion) :
    Unrejected (publishCompletion host s completion).2 := by
  have checked : Unrejected (Pcie.require (checkInvariants s) .publishRoom (!s.cq.full)) := by
    apply require
    exact clear
  unfold Pcie.publishCompletion
  dsimp only
  split
  · apply raiseInterrupt
    exact checked
  · apply setError _ (by decide)
    exact checked

theorem reportEngineResult (clear : Unrejected s) (completion : Completion) (discard : Bool) :
    Unrejected (reportEngineResult s completion discard).2 := by
  have checked := (clear.require .reportBridgeIdle (!s.bridge.inflight)).require .reportNotDiscarding
    (!s.bridge.discardCompletion)
  unfold Pcie.reportEngineResult
  dsimp only
  generalize Pcie.require (Pcie.require s _ _) _ _ = idle at checked ⊢
  have written : Unrejected (Pcie.chrWriteAll (idle.setBridge (s.bridge.awaitFirmware discard)) .engineResult
      completion.toBytes).2 := by
    apply chrWriteAll
    exact checked
  split_ifs
  · exact checked.setError (by decide)
  · cases discard <;> exact written
  · apply setError _ (by decide)
    exact written

theorem handEngineResult (clear : Unrejected s) (completion : Completion) :
    Unrejected (handEngineResult host s completion).2 := by
  have reported := clear.reportEngineResult completion false
  unfold Pcie.handEngineResult
  dsimp only
  split
  · exact reported
  · exact reported.publishCompletion completion

theorem cancelCommand (clear : Unrejected s) (errorCode : U16) : Unrejected (cancelCommand s errorCode) := by
  unfold Pcie.cancelCommand
  split
  · apply reportEngineResult
    exact clear
  · exact clear

theorem queueReset (clear : Unrejected s) : Unrejected (queueReset s) := clear.cancelCommand errQueueReset

theorem armUnlessPaused (clear : Unrejected s) : Unrejected (armUnlessPaused s) := by
  have paused := clear.checkpointHit checkpointEngineStart
  unfold Pcie.armUnlessPaused
  dsimp only
  split_ifs
  · exact clear
  · exact paused
  · exact paused

theorem scheduleEngine (clear : Unrejected s) : Unrejected (scheduleEngine s) := by
  have checked := (clear.require .scheduleIdle (!s.engine.inflight)).require .schedulePayload
    (isPayloadOpcode s.bridge.submission.opcode)
  have hang := (checked.faultTrigger faultDmaTimeout).faultTrigger faultEngineHang
  unfold Pcie.scheduleEngine
  dsimp only
  generalize started : Pcie.armUnlessPaused _ = running
  have runs : Unrejected running := by
    rw [← started]
    apply armUnlessPaused
    exact hang
  have reset : Unrejected (Pcie.faultTrigger (checkInvariants running) faultResetActive).2 := by
    apply faultTrigger
    exact runs
  split
  · exact reset.queueReset
  · exact reset

theorem forwardSubmission (clear : Unrejected s) (submission : Submission) :
    Unrejected (forwardSubmission s submission) := by
  unfold Pcie.forwardSubmission
  dsimp only
  split
  · apply chrWriteAll
    exact clear
  · apply setError _ (by decide)
    apply chrWriteAll
    exact clear

theorem dispatchStandalone (clear : Unrejected s) (submission : Submission) :
    Unrejected (dispatchStandalone host s submission).2 := by
  unfold Pcie.dispatchStandalone
  dsimp only
  split
  · apply scheduleEngine
    exact clear
  · apply publishCompletion
    exact clear

theorem fetchSubmission (clear : Unrejected s) : Unrejected (fetchSubmission host s).2 := by
  unfold Pcie.fetchSubmission
  dsimp only
  split
  · apply setError _ (by decide)
    exact clear
  · split
    · apply forwardSubmission
      exact clear
    · apply dispatchStandalone
      exact clear

theorem fetchLoop (clear : Unrejected s) (fuel : Nat) : Unrejected (fetchLoop host fuel s) := by
  induction fuel generalizing s with
  | zero => exact clear
  | succ fuel ih =>
      unfold Pcie.fetchLoop
      dsimp only
      split_ifs
      · exact ih clear.fetchSubmission
      · exact clear.fetchSubmission
      · exact clear

theorem processSq (clear : Unrejected s) : Unrejected (processSq host s) := by
  unfold Pcie.processSq
  split
  · apply fetchLoop
    exact clear
  · exact clear

theorem engineReset (clear : Unrejected s) : Unrejected (engineReset host s) := by
  unfold Pcie.engineReset
  dsimp only
  split_ifs
  · apply handEngineResult
    exact clear
  · apply handEngineResult
    exact clear
  · apply processSq
    exact clear

theorem checkpointRelease (clear : Unrejected s) : Unrejected (checkpointRelease host s) := by
  have checked := clear.require .checkpointReached (s.checkpoint.status != checkpointNone)
  unfold Pcie.checkpointRelease
  dsimp only
  split_ifs
  · apply require
    apply require
    exact checked
  · apply require
    exact checked
  · apply handEngineResult
    apply require
    exact checked
  · apply handEngineResult
    apply require
    exact checked

/-- A device reset keeps at most the fatal error. -/
theorem clearDevice (clear : Unrejected s) : Unrejected (clearDevice s) := hasBits_and clear errorFatal

theorem updateQueueReady (clear : Unrejected s) : Unrejected (updateQueueReady s) := by
  unfold Pcie.updateQueueReady
  split <;> exact clear

theorem reportReserved (clear : Unrejected s) (value defined : U32) : Unrejected (reportReserved s value defined) := by
  unfold Pcie.reportReserved
  split
  · exact clear.setError (by decide)
  · exact clear

theorem writeErrorStatus (clear : Unrejected s) (value : U32) : Unrejected (writeErrorStatus s value) := by
  apply reportReserved
  exact hasBits_and clear _

theorem writeIntrStatus (clear : Unrejected s) (value : U32) : Unrejected (writeIntrStatus s value) := by
  unfold Pcie.writeIntrStatus
  dsimp only
  split
  · apply raiseInterrupt
    apply reportReserved
    exact clear
  · apply reportReserved
    exact clear

theorem writeIntrMask (clear : Unrejected s) (value : U32) : Unrejected (writeIntrMask s value) := by
  have reported := clear.reportReserved value intrDefined
  exact reported

end Unrejected

/-- The write reports its rejection and does nothing else, or it is not refused and records no rejection. -/
def Resolved (s : State σ) (offset : Nat) (refused : Prop) (write : State σ → State σ) : Prop :=
  (∀ errors sources log, OnlyReported (s.reporting errors sources log) offset
    (write (s.reporting errors sources log))) ∨
  ¬refused ∧ ∀ errors sources log, Unrejected (s.reporting errors sources log) →
    Unrejected (write (s.reporting errors sources log))

section Resolved

variable {s : State σ} {offset : Nat} {refused : Prop} {write : State σ → State σ}

theorem onlyReported_setError (s : State σ) (offset : Nat) (error : U32) : OnlyReported s offset (setError s error) :=
  ⟨reported_setError s.signals error, .inl rfl, .inl rfl, rfl⟩

theorem resolved_setError (s : State σ) (offset : Nat) (refused : Prop) (error : U32) :
    Resolved s offset refused fun t => setError t error :=
  .inl fun _ _ _ => onlyReported_setError _ _ _

theorem resolved_of_accepted (s : State σ) (offset : Nat) (accept : State σ → State σ)
    (keeps : ∀ t, Unrejected t → Unrejected (accept t)) : Resolved s offset False accept :=
  .inr ⟨id, fun _ _ _ clear => keeps _ clear⟩

/-- A check that does not read the report comes before the rest of the write. -/
theorem Resolved.guarded {accept : State σ → State σ} (resolved : Resolved s offset refused accept)
    (guard : State σ → Prop) [DecidablePred guard] (error : U32)
    (same : ∀ errors sources log, guard (s.reporting errors sources log) ↔ guard s) :
    Resolved s offset refused fun t => if guard t then setError t error else accept t := by
  by_cases fails : guard s
  · refine .inl fun errors sources log => ?_
    simp only [same, fails, if_true]
    exact onlyReported_setError _ _ _
  · simpa only [Resolved, same, fails, if_false] using resolved

theorem resolved_ite (s : State σ) (offset : Nat) (guard : State σ → Prop) [DecidablePred guard] (error : U32)
    (accept : State σ → State σ)
    (same : ∀ errors sources log, guard (s.reporting errors sources log) ↔ guard s)
    (keeps : ∀ t, Unrejected t → Unrejected (accept t)) :
    Resolved s offset False fun t => if guard t then setError t error else accept t :=
  (resolved_of_accepted s offset accept keeps).guarded guard error same

theorem setError_reporting (s : State σ) (errors sources : U32) (log : List MsixEvent) (error : U32) :
    ∃ entries, setError (s.reporting errors sources log) error =
      s.reporting (errors ||| error) (sources ||| intrError) entries :=
  ⟨_, congrArg (State.setSignals _) (Signals.setError_eq _ _)⟩

/-- The report of the undefined bits comes before the checks of some registers. -/
theorem Resolved.reserved (resolved : Resolved s offset False write) (value defined : U32) :
    Resolved s offset False fun t => write (reportReserved t value defined) := by
  unfold reportReserved
  split
  · rcases resolved with rejects | ⟨-, keeps⟩
    · refine .inl fun errors sources log => ?_
      obtain ⟨entries, same⟩ := setError_reporting s errors sources log errorReservedWrite
      have second := rejects (errors ||| errorReservedWrite) (sources ||| intrError) entries
      rw [← same] at second
      exact ⟨(reported_setError _ _).trans second.signals, second.sq, second.cq, second.rest⟩
    · refine .inr ⟨id, fun errors sources log clear => ?_⟩
      obtain ⟨entries, same⟩ := setError_reporting s errors sources log errorReservedWrite
      have reported := clear.setError (show errorReservedWrite &&& rejectionErrors = 0 by decide)
      dsimp only
      rw [same] at reported ⊢
      exact keeps _ _ _ reported
  · exact resolved

theorem resolved_writeDeviceControl (host : Host σ) (s : State σ) (offset : Nat) (value : U32) :
    Resolved s offset False fun t => writeDeviceControl host t value := by
  have resolved : Resolved s offset False fun t =>
      if hasBits value controlReset then deviceReset t
      else if hasBits value controlEnable then enableDevice host t value
      else t.setControl (value &&& controlQuiesce) := by
    split_ifs
    · exact resolved_ite s offset _ _ _ (fun _ _ _ => Iff.rfl) fun t clear => (clear.cancelCommand errReset).clearDevice
    · exact resolved_ite s offset _ _ _ (fun _ _ _ => Iff.rfl) fun t clear => Unrejected.processSq clear
    · exact resolved_of_accepted s offset _ fun t clear => clear
  exact resolved.reserved value controlDefined

theorem resolved_writeSqControl (s : State σ) (offset : Nat) (value : U32) :
    Resolved s offset False fun t => writeSqControl t value := by
  have resolved : Resolved s offset False fun t =>
      if hasBits value queueResetBit then queueReset t else enableSq t value := by
    split_ifs
    · exact resolved_of_accepted s offset _ fun t clear => clear.queueReset
    · refine resolved_ite s offset _ _ _ (fun _ _ _ => Iff.rfl) fun t clear => ?_
      apply Unrejected.updateQueueReady
      exact clear
  exact resolved.reserved value queueControlDefined

theorem resolved_writeCqControl (s : State σ) (offset : Nat) (value : U32) :
    Resolved s offset False fun t => writeCqControl t value := by
  have resolved : Resolved s offset False fun t =>
      if hasBits value queueResetBit then queueReset t else enableCq t value := by
    split_ifs
    · exact resolved_of_accepted s offset _ fun t clear => clear.queueReset
    · refine resolved_ite s offset _ _ _ (fun _ _ _ => Iff.rfl) fun t clear => ?_
      apply Unrejected.updateQueueReady
      exact clear
  exact resolved.reserved value queueControlDefined

theorem resolved_writeFaultControl (s : State σ) (offset : Nat) (value : U32) :
    Resolved s offset False fun t => writeFaultControl t value := by
  have resolved : Resolved s offset False fun t => armFault t (value &&& faultDefined) := by
    unfold armFault
    split
    · exact resolved_of_accepted s offset _ fun t clear => clear
    · exact resolved_ite s offset _ _ _ (fun _ _ _ => Iff.rfl) fun t clear => clear
  exact resolved.reserved value faultDefined

theorem resolved_writeDebugLock (s : State σ) (offset : Nat) (value : U32) :
    Resolved s offset False fun t => writeDebugLock t value := by
  have resolved : Resolved s offset False fun t =>
      if hasBits value 1 && t.checkpoint.status != checkpointNone then setError t errorBadConfig
      else if hasBits value 1 then lockDebug t
      else t := by
    refine resolved_ite s offset _ _ _ (fun _ _ _ => Iff.rfl) fun t clear => ?_
    split <;> exact clear
  have kept (t : State σ) : (reportReserved t value 1).checkpoint = t.checkpoint := by
    unfold reportReserved
    split <;> rfl
  have locked := resolved.reserved value 1
  simp only [kept] at locked
  exact locked

theorem onlyReported_rejectSqDoorbell (s : State σ) : OnlyReported s Register.sqDoorbell.offset (rejectSqDoorbell s) :=
  ⟨reported_setError s.signals errorQueue, .inr ⟨rfl, rfl⟩, .inl rfl, rfl⟩

theorem onlyReported_rejectCqDoorbell (s : State σ) : OnlyReported s Register.cqDoorbell.offset (rejectCqDoorbell s) :=
  ⟨reported_setError s.signals errorQueue, .inl rfl, .inr ⟨rfl, rfl⟩, rfl⟩

theorem writeSqDoorbell_invalid {host : Host σ} {s : State σ} {value : U32}
    (invalid : InvalidDoorbell s value .sqDoorbell) : writeSqDoorbell host s value = rejectSqDoorbell s := by
  unfold writeSqDoorbell
  rcases invalid with disabled | outside | large
  · simp [disabled]
  · simp [outside]
  · simp only [large, if_true, ite_self]

theorem writeCqDoorbell_invalid {host : Host σ} {s : State σ} {value : U32}
    (invalid : InvalidDoorbell s value .cqDoorbell) : writeCqDoorbell host s value = rejectCqDoorbell s := by
  unfold writeCqDoorbell
  rcases invalid with disabled | outside | large
  · simp [disabled]
  · simp [outside]
  · simp only [large, if_true, ite_self]

theorem writeSqDoorbell_valid {host : Host σ} {s : State σ} {value : U32}
    (valid : ¬InvalidDoorbell s value .sqDoorbell) :
    writeSqDoorbell host s value = processSq host (s.setSq { s.sq with tail := value }) := by
  simp only [InvalidDoorbell, not_or, Bool.not_eq_false] at valid
  unfold writeSqDoorbell
  dsimp only
  rw [if_neg (by simp [valid.1, valid.2.1]), if_neg valid.2.2]

theorem writeCqDoorbell_valid {host : Host σ} {s : State σ} {value : U32}
    (valid : ¬InvalidDoorbell s value .cqDoorbell) :
    writeCqDoorbell host s value = processSq host (s.setCq (s.cq.consume value).updateBackpressure) := by
  simp only [InvalidDoorbell, not_or, Bool.not_eq_false] at valid
  unfold writeCqDoorbell
  dsimp only
  rw [if_neg (by simp [valid.1, valid.2.1]), if_neg valid.2.2]

theorem resolved_writeSqDoorbell (host : Host σ) (s : State σ) (value : U32) :
    Resolved s Register.sqDoorbell.offset (InvalidDoorbell s value .sqDoorbell) fun t => writeSqDoorbell host t value := by
  by_cases invalid : InvalidDoorbell s value .sqDoorbell
  · refine .inl fun errors sources log => ?_
    dsimp only
    rw [writeSqDoorbell_invalid (s := s.reporting errors sources log) invalid]
    exact onlyReported_rejectSqDoorbell _
  · refine .inr ⟨invalid, fun errors sources log clear => ?_⟩
    dsimp only
    rw [writeSqDoorbell_valid (s := s.reporting errors sources log) invalid]
    apply Unrejected.processSq
    exact clear

theorem resolved_writeCqDoorbell (host : Host σ) (s : State σ) (value : U32) :
    Resolved s Register.cqDoorbell.offset (InvalidDoorbell s value .cqDoorbell) fun t => writeCqDoorbell host t value := by
  by_cases invalid : InvalidDoorbell s value .cqDoorbell
  · refine .inl fun errors sources log => ?_
    dsimp only
    rw [writeCqDoorbell_invalid (s := s.reporting errors sources log) invalid]
    exact onlyReported_rejectCqDoorbell _
  · refine .inr ⟨invalid, fun errors sources log clear => ?_⟩
    dsimp only
    rw [writeCqDoorbell_valid (s := s.reporting errors sources log) invalid]
    apply Unrejected.processSq
    exact clear

theorem resolved_writeRegister (host : Host σ) (s : State σ) (register : Register) (value : U32) :
    Resolved s register.offset (InvalidDoorbell s value register) fun t => writeRegister host t register value := by
  cases register with
  | deviceControl => exact resolved_writeDeviceControl host s _ value
  | sqControl => exact resolved_writeSqControl s _ value
  | cqControl => exact resolved_writeCqControl s _ value
  | sqDoorbell => exact resolved_writeSqDoorbell host s value
  | cqDoorbell => exact resolved_writeCqDoorbell host s value
  | faultControl => exact resolved_writeFaultControl s _ value
  | debugLock => exact resolved_writeDebugLock s _ value
  | errorStatus => exact resolved_of_accepted s _ _ fun t clear => clear.writeErrorStatus value
  | intrStatus => exact resolved_of_accepted s _ _ fun t clear => clear.writeIntrStatus value
  | intrMask => exact resolved_of_accepted s _ _ fun t clear => clear.writeIntrMask value
  | faultStatus =>
      refine resolved_of_accepted s _ _ fun t clear => ?_
      apply Unrejected.reportReserved
      exact clear
  | resetRequest => exact resolved_ite s _ _ _ _ (fun _ _ _ => Iff.rfl) fun t clear => clear.engineReset
  | checkpointRelease => exact resolved_ite s _ _ _ _ (fun _ _ _ => Iff.rfl) fun t clear => clear.checkpointRelease
  | intrForce =>
      exact resolved_ite s _ _ _ _ (fun _ _ _ => Iff.rfl) fun t clear => (clear.reportReserved value _).raiseInterrupt _
  | sqBaseLo | sqBaseHi | sqDepth | cqBaseLo | cqBaseHi | cqDepth | cqWatermark | intrCoalesce | faultArg
  | checkpointControl => exact resolved_ite s _ _ _ _ (fun _ _ _ => Iff.rfl) fun t clear => clear
  | _ => exact resolved_setError s _ _ _

theorem resolved_bar0Write (host : Host σ) (s : State σ) (offset : Nat) (value : U32) (size : Nat) :
    Resolved s offset (∃ register : Register, offset = register.offset ∧ InvalidDoorbell s value register)
      fun t => bar0Write host t offset value size := by
  apply Resolved.guarded
  · apply Resolved.guarded
    · apply Resolved.guarded
      · cases found : Register.ofOffset offset with
        | none => exact resolved_setError s offset _ _
        | some register =>
            obtain rfl := Register.offset_of_ofOffset found
            rcases resolved_writeRegister host s register value with rejects | ⟨valid, keeps⟩
            · exact .inl rejects
            · refine .inr ⟨?_, keeps⟩
              rintro ⟨other, same, invalid⟩
              rw [same, Register.ofOffset_offset] at found
              exact valid (Option.some.inj found ▸ invalid)
      · exact fun _ _ _ => Iff.rfl
    · exact fun _ _ _ => Iff.rfl
  · exact fun _ _ _ => Iff.rfl

end Resolved

/-- A rejected write changes only the error register, the error source, and the error flag of a queue whose doorbell
was rung. No other register, no timer, no command, and no memory changes, and the bus is not used. -/
theorem onlyReported_of_rejected (host : Host σ) (s : State σ) (offset : Nat) (value : U32) (size : Nat)
    (rejected : Rejected host s offset value size) :
    OnlyReported s offset (bar0Write host s offset value size) := by
  rcases resolved_bar0Write host s offset value size with rejects | ⟨valid, keeps⟩
  · exact rejects s.signals.errorStatus s.signals.intrStatus s.signals.msix
  · rcases rejected with recorded | invalid
    · exact absurd (keeps 0 _ _ (hasBits_zero _)) recorded
    · exact absurd invalid valid

/-- A device that was just powered on rejects a coalescing value and the doorbell of a disabled queue. -/
theorem onlyReported_powerOn :
    Rejected zeroHost (powerOn false false ()) Register.intrCoalesce.offset 2 4 ∧
      OnlyReported (powerOn false false ()) Register.intrCoalesce.offset
        (bar0Write zeroHost (powerOn false false ()) Register.intrCoalesce.offset 2 4) ∧
      OnlyReported (powerOn false false ()) Register.sqDoorbell.offset
        (bar0Write zeroHost (powerOn false false ()) Register.sqDoorbell.offset 1 4) := by
  have coalesce : Rejected zeroHost (powerOn false false ()) Register.intrCoalesce.offset 2 4 := by
    apply Or.inl
    unfold Unrejected
    decide +kernel
  have doorbell : Rejected zeroHost (powerOn false false ()) Register.sqDoorbell.offset 1 4 :=
    .inr ⟨.sqDoorbell, rfl, .inl (by decide)⟩
  exact ⟨coalesce, onlyReported_of_rejected _ _ _ _ _ coalesce, onlyReported_of_rejected _ _ _ _ _ doorbell⟩

end VamsSoc.Pcie
