/-
This file says what one event of a connected endpoint can do to the command protocol.
-/

import VamsSoc.Proof.Endpoint.Quiet

namespace VamsSoc.Pcie
open Library Abi

variable {σ : Type}

namespace View

/-- A reset disowns the descriptor in flight and starts the next generation. -/
def cancel (v : View) : View :=
  { v with
    bridge := { v.bridge.cancelRequest with controlRx := [] }
    running := false
    generation := v.generation + 1 }

/-- A reset of a running engine hands its result over and will discard the final answer. -/
def abandon (v : View) (result : Completion) (expiry : Nat) : View :=
  { v with
    bridge := { v.bridge with
      completion := result, controlRx := [], inflight := false, waitingFinal := false
      discardCompletion := true, firmwareAckTimer := some expiry }
    running := false
    link := { v.link with tx := v.link.tx ++ [⟨.engineResult, v.fetches, result.toBytes⟩] }
    generation := v.generation + 1 }

/-- A result has the time of its authorization, or the time of the endpoint. -/
def Stamped (v : View) (result : Completion) : Prop :=
  result.deviceTimestamp = v.bridge.completion.deviceTimestamp ∨
    result.deviceTimestamp = BitVec.ofNat 64 (v.clockNs / 1000)

end View

/-- These register writes start a queue reset or a device reset. -/
def cancelsCommand (register : Register) (value : U32) : Bool :=
  match register with
  | .deviceControl => hasBits value controlReset
  | .sqControl | .cqControl => hasBits value queueResetBit
  | _ => false

def hostCancels : Event → Bool
  | .write offset value _ => (Register.ofOffset offset).any fun register => cancelsCommand register value
  | _ => false

/-- These are the moves of a connected endpoint, apart from the frames that it receives. -/
inductive Turn (event : Event) (v : View) : View → Prop
  | same : Turn event v v
  | tick (nowNs : Nat) (later : nowNs < clockLimitNs) : Turn event v { v with clockNs := nowNs }
  | fetch (idle : v.Idle) (submission : Submission) : Turn event v (v.fetch submission)
  | report (running : v.running = true) (result : Completion) (stamped : v.Stamped result) :
      Turn event v ((v.stop.store result).report result)
  | cancel (halted : v.running = false) (asked : hostCancels event = true) : Turn event v v.cancel
  | abandon (running : v.running = true) (asked : hostCancels event = true) (result : Completion)
      (stamped : v.Stamped result) (expiry : Nat) : Turn event v (v.abandon result expiry)

/-- The endpoint is steady after the move. -/
structure Turns (event : Event) (before after : State σ) : Prop where
  steady : Steady after
  turn : Turn event (view before) (view after)

theorem Polls.turns {event : Event} {s t : State σ} (polls : Polls s t) : Turns event s t := by
  refine ⟨polls.steady, ?_⟩
  rcases polls.view with same | ⟨idle, submission, fetched⟩
  · rw [same]
    exact .same
  · rw [fetched]
    exact .fetch idle submission

/-- A stopped engine without a timer is engaged to nothing. -/
theorem Steady.halted {s : State σ} (calm : Calm s) (timer : s.engine.timer = none)
    (idle : s.engine.inflight = false) : Steady s where
  calm := calm
  engaged := ⟨by simp [timer], by simp [idle]⟩

theorem Steady.require {s : State σ} (steady : Steady s) (assertion : Assertion) (holds : Bool) :
    Steady (require s assertion holds) := steady.of_parts (steady.calm.require assertion holds) rfl rfl

theorem Steady.armFirmwareAck {s : State σ} (steady : Steady s) (discard : Bool) :
    Steady (armFirmwareAck s discard) := by
  unfold Pcie.armFirmwareAck
  split
  · exact steady.setBridge _
  · exact steady

theorem Steady.reportEngineResult {s : State σ} (steady : Steady s) (result : Completion) (discard : Bool) :
    Steady (reportEngineResult s result discard).2 := by
  have waiting := ((steady.require .reportBridgeIdle (!s.bridge.inflight)).require .reportNotDiscarding
    (!s.bridge.discardCompletion)).setBridge (s.bridge.awaitFirmware discard)
  unfold Pcie.reportEngineResult
  dsimp only
  rw [if_neg (by rw [steady.calm.connected]; decide), chrWriteAll_writable waiting.calm.writable, if_pos rfl]
  exact ((waiting.send _).armFirmwareAck discard).checkInvariants

theorem Steady.handEngineResult {s : State σ} (steady : Steady s) (host : Host σ) (result : Completion) :
    Steady (handEngineResult host s result).2 := by
  unfold Pcie.handEngineResult
  dsimp only
  rw [if_pos (view_reportEngineResult steady.calm result).1]
  exact steady.reportEngineResult result false

theorem Steady.storeCompletion {s : State σ} (steady : Steady s) (completion : Completion) :
    Steady (storeCompletion s completion) := steady.setBridge _

/-- A reset result that will be discarded is timed. -/
theorem view_reportDiscarded {s : State σ} (calm : Calm s) (result : Completion) :
    ∃ expiry, view (reportEngineResult s result true).2 =
      { view s with
        bridge := { s.bridge.awaitFirmware true with firmwareAckTimer := some expiry }
        link := { s.link with tx := s.link.tx ++ [⟨.engineResult, s.history.fetches, result.toBytes⟩] } } := by
  unfold reportEngineResult
  dsimp only
  rw [if_neg (by rw [calm.connected]; decide), chrWriteAll_writable (by exact calm.writable), if_pos rfl,
    armFirmwareAck, if_pos rfl]
  exact ⟨_, rfl⟩

theorem Steady.stopEngine {s : State σ} (steady : Steady s) : Steady (stopEngine s) :=
  .halted steady.calm.stopEngine rfl rfl

theorem Steady.cancelCommand {s : State σ} (steady : Steady s) (errorCode : U16) :
    Steady (cancelCommand s errorCode) := by
  have cancelled : Steady (cancelBridgeRequest s) := steady.setBridge _
  unfold Pcie.cancelCommand abortEngineToFirmware
  split_ifs
  · exact (cancelled.stopEngine.checkInvariants.storeCompletion _).reportEngineResult _ true
  · exact cancelled.stopEngine.checkInvariants

theorem view_cancelCommand_halted {s : State σ} (halted : s.engine.inflight = false) (errorCode : U16) :
    view (cancelCommand s errorCode) =
      { view s with bridge := { s.bridge.cancelRequest with controlRx := [] }, running := false } := by
  unfold cancelCommand
  rw [if_neg (by rw [halted]; decide)]
  rfl

/-- A running engine has no request in flight at the bridge, so only its own result is reported. -/
theorem view_cancelCommand_running {s : State σ} (calm : Calm s) (running : s.engine.inflight = true)
    (errorCode : U16) :
    ∃ result expiry, result.deviceTimestamp = clockUs s ∧
      view (cancelCommand s errorCode) =
        { view s with
          bridge := { s.bridge with
            completion := result, controlRx := [], inflight := false, waitingFinal := false
            discardCompletion := true, firmwareAckTimer := some expiry }
          running := false
          link := { s.link with tx := s.link.tx ++ [⟨.engineResult, s.history.fetches, result.toBytes⟩] } } := by
  have cancelled : Calm (storeCompletion (cancelEngine (cancelBridgeRequest s))
      (resetResult (cancelBridgeRequest s) errorCode)) :=
    ((calm.setBridge s.bridge.cancelRequest).stopEngine.checkInvariants).setBridge _
  obtain ⟨expiry, reported⟩ := view_reportDiscarded cancelled (resetResult (cancelBridgeRequest s) errorCode)
  refine ⟨resetResult (cancelBridgeRequest s) errorCode, expiry, rfl, ?_⟩
  unfold cancelCommand abortEngineToFirmware
  rw [if_pos running]
  dsimp only
  rw [reported]
  unfold cancelBridgeRequest Bridge.cancelRequest
  split <;> rfl

/-- Both host resets cancel the command and start the next generation. -/
theorem turn_of_cancelled {event : Event} {s next : State σ} (calm : Calm s) (errorCode : U16)
    (asked : hostCancels event = true)
    (advanced : view next = { view (cancelCommand s errorCode) with
      generation := (view (cancelCommand s errorCode)).generation + 1 }) :
    Turn event (view s) (view next) := by
  rw [advanced]
  cases running : s.engine.inflight with
  | true =>
      obtain ⟨result, expiry, stamp, cancelled⟩ := view_cancelCommand_running calm running errorCode
      rw [cancelled]
      exact .abandon (by exact running) asked result (by exact .inr stamp) expiry
  | false =>
      rw [view_cancelCommand_halted running errorCode]
      exact .cancel running asked

/-- Whatever was running has stopped. -/
theorem halted_cancelCommand {s : State σ} (calm : Calm s) (errorCode : U16) :
    (cancelCommand s errorCode).engine.timer = none ∧ (cancelCommand s errorCode).engine.inflight = false := by
  have report (t : State σ) (result : Completion) (up : Calm t) :
      (reportEngineResult t result true).2.engine = t.engine := by
    unfold reportEngineResult
    dsimp only
    rw [if_neg (by rw [up.connected]; decide), chrWriteAll_writable (by exact up.writable), if_pos rfl]
    rfl
  unfold cancelCommand abortEngineToFirmware
  split_ifs
  · dsimp only
    rw [report]
    · exact ⟨rfl, rfl⟩
    · exact ((calm.setBridge s.bridge.cancelRequest).stopEngine.checkInvariants).setBridge _
  · exact ⟨rfl, rfl⟩

theorem Steady.queueReset {event : Event} {s : State σ} (steady : Steady s) (asked : hostCancels event = true) :
    Turns event s (queueReset s) where
  steady := by
    have cancelled := (steady.cancelCommand errQueueReset).calm
    obtain ⟨timer, idle⟩ := halted_cancelCommand steady.calm errQueueReset
    exact (Steady.halted (s := clearQueues (Pcie.cancelCommand s errQueueReset))
      (cancelled.of_parts rfl rfl rfl rfl) timer idle).checkInvariants
  turn := turn_of_cancelled steady.calm errQueueReset asked rfl

theorem Steady.deviceReset {event : Event} {s : State σ} (steady : Steady s) (asked : hostCancels event = true) :
    Turns event s (deviceReset s) := by
  unfold Pcie.deviceReset
  split_ifs
  · exact (Polls.error steady rfl _).turns
  · have cancelled := (steady.cancelCommand errReset).calm
    obtain ⟨timer, idle⟩ := halted_cancelCommand steady.calm errReset
    have cleared : Calm (clearDevice (Pcie.cancelCommand s errReset)) :=
      ⟨cancelled.connected, cancelled.writable, cancelled.debug, rfl, rfl⟩
    exact ⟨(Steady.halted cleared timer idle).checkInvariants,
      turn_of_cancelled steady.calm errReset asked rfl⟩

theorem View.stop_of_halted {v : View} (halted : v.running = false) (whole : v.bridge.controlRx = []) :
    v.stop = v := by
  rw [View.stop, ← halted, ← whole]

/-- An engine reset reports the running command, and lets an idle endpoint fetch. -/
theorem Steady.engineReset {event : Event} {s : State σ} (steady : Steady s) (host : Host σ)
    (whole : s.bridge.controlRx = []) :
    Turns event s (engineReset host s) := by
  have idle : Steady (advanceEpoch (Pcie.stopEngine s)) :=
    .halted (steady.calm.stopEngine.of_parts rfl rfl rfl rfl) rfl rfl
  unfold Pcie.engineReset
  split_ifs with running
  · have stored := idle.storeCompletion (resetResult s errReset)
    obtain ⟨handed, reported⟩ := view_handEngineResult stored.calm host (resetResult s errReset)
    dsimp only
    rw [if_pos handed]
    refine ⟨(stored.handEngineResult host _).checkInvariants, ?_⟩
    rw [view_checkInvariants, reported]
    exact .report running (resetResult s errReset) (.inr rfl)
  · have same : view (Pcie.checkInvariants (advanceEpoch (Pcie.stopEngine s))) = view s :=
      View.stop_of_halted (v := view s) (Bool.eq_false_iff.mpr running) whole
    exact (Polls.of_same same (idle.checkInvariants.processSq host)).turns

/-- A report of reserved bits comes before the reset and is not part of the protocol. -/
theorem Turns.of_same {event : Event} {s t u : State σ} (same : view t = view s) (turns : Turns event t u) :
    Turns event s u := ⟨turns.steady, same ▸ turns.turn⟩

theorem Steady.writeReset {event : Event} {s : State σ} (steady : Steady s) (host : Host σ)
    (whole : s.bridge.controlRx = []) (register : Register) (value : U32)
    (starts : startsReset register value = true)
    (asked : cancelsCommand register value = true → hostCancels event = true) :
    Turns event s (Pcie.writeRegister host s register value) := by
  cases register with
  | deviceControl =>
      simp only [Pcie.writeRegister, Pcie.writeDeviceControl]
      rw [if_pos (show hasBits value controlReset = true from starts)]
      exact .of_same (view_reportReserved s value controlDefined)
        ((steady.reportReserved value controlDefined).deviceReset (asked starts))
  | sqControl =>
      simp only [Pcie.writeRegister, writeSqControl]
      rw [if_pos (show hasBits value queueResetBit = true from starts)]
      exact .of_same (view_reportReserved s value queueControlDefined)
        ((steady.reportReserved value queueControlDefined).queueReset (asked starts))
  | cqControl =>
      simp only [Pcie.writeRegister, writeCqControl]
      rw [if_pos (show hasBits value queueResetBit = true from starts)]
      exact .of_same (view_reportReserved s value queueControlDefined)
        ((steady.reportReserved value queueControlDefined).queueReset (asked starts))
  | resetRequest =>
      simp only [startsReset, beq_iff_eq] at starts
      simp only [Pcie.writeRegister, writeResetRequest]
      rw [if_neg (not_not.mpr starts)]
      exact steady.engineReset host whole
  | _ => simp [startsReset] at starts

/-- A register write polls, resets, or hands a result over. -/
theorem Steady.writeTurns {s : State σ} (steady : Steady s) (host : Host σ) (whole : s.bridge.controlRx = [])
    (offset : Nat) (value : U32) (size : Nat) :
    Turns (.write offset value size) s (Pcie.bar0Write host s offset value size) := by
  by_cases keeps : hostResets (.write offset value size) = false
  · exact (steady.bar0Write host offset value size keeps).turns
  · simp only [hostResets, Bool.not_eq_false, Option.any_eq_true] at keeps
    obtain ⟨register, found, starts⟩ := keeps
    have asked (cancels : cancelsCommand register value = true) : hostCancels (.write offset value size) = true := by
      rw [hostCancels, found]
      exact cancels
    unfold Pcie.bar0Write
    split_ifs
    · exact (Polls.error steady rfl _).turns
    · exact (Polls.error steady rfl _).turns
    · exact (Polls.error steady rfl _).turns
    · rw [found]
      exact steady.writeReset host whole register value starts asked

/-- An engine that finishes hands its result over. -/
theorem Steady.engineComplete {event : Event} {s : State σ} (steady : Steady s) (host : Host σ)
    (expired : expired s s.engine.timer = true) :
    Turns event s (engineComplete host (s.setEngine { s.engine with timer := none })) := by
  have running : s.engine.inflight = true := by
    apply steady.engaged.armed
    cases timer : s.engine.timer with
    | none => simp [timer, Pcie.expired] at expired
    | some expiry => rfl
  have current := steady.engaged.current running
  have calm : Calm (s.setEngine { s.engine with timer := none }) := steady.calm.of_parts rfl rfl rfl rfl
  obtain ⟨finished, result, finish, hands⟩ := engineComplete_hands calm host (by exact current)
  have halted : (view finished).running = false := by rw [finish.view]; rfl
  have steady : Steady finished := .halted finish.calm finish.timer halted
  rw [hands]
  refine ⟨steady.handEngineResult host result, ?_⟩
  rw [(view_handEngineResult steady.calm host result).2, finish.view]
  exact .report running result (.inl finish.fills.timestamp)

/-- Every event but a frame is a turn; the bridge stays up, and no acknowledgment times out. -/
theorem Steady.step {event : Event} {s next : State σ} (steady : Steady s) (host : Host σ)
    (whole : s.bridge.controlRx = []) (stepped : step host s event = some next)
    (inside : ∀ bytes, event ≠ .receive bytes) (up : event ≠ .closed ∧ ∀ writable, event ≠ .link writable)
    (timely : event ≠ .firmwareAckTimer) : Turns event s next := by
  cases event with
  | write offset value size =>
      obtain rfl := Option.some.inj stepped
      exact steady.writeTurns host whole offset value size
  | read offset size =>
      obtain rfl := Option.some.inj stepped
      exact (steady.bar0Read offset size).turns
  | engineTimer =>
      obtain ⟨fired, rfl⟩ := EventMachine.guarded stepped
      exact steady.engineComplete host fired
  | resetTimer =>
      obtain ⟨-, rfl⟩ := EventMachine.guarded stepped
      have cleared : Steady (s.setDevice { s.device with resetTimer := none }) :=
        ⟨steady.calm.of_parts rfl rfl rfl rfl, steady.engaged.armed, steady.engaged.current⟩
      exact (Polls.same ((cleared.setStatus statusReady).raiseInterrupt intrResetDone) (by rfl)).turns
  | firmwareAckTimer => exact absurd rfl timely
  | receive bytes => exact absurd rfl (inside bytes)
  | closed => exact absurd rfl up.1
  | link writable => exact absurd rfl (up.2 writable)
  | busMaster enabled =>
      obtain rfl := Option.some.inj stepped
      exact (Polls.same (steady.of_parts (steady.calm.of_parts (by rfl) (by rfl) (by rfl) (by rfl)) (by rfl) (by rfl))
        (by rfl)).turns
  | tick nowNs =>
      obtain ⟨⟨-, later⟩, rfl⟩ := EventMachine.guarded stepped
      exact ⟨steady.of_parts (steady.calm.of_parts rfl rfl rfl rfl) rfl rfl, .tick nowNs later⟩

end VamsSoc.Pcie
