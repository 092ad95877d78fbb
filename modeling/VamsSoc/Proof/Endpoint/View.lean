/-
This file has the part of the endpoint that the command protocol depends on, and what the helpers do to it.
-/

import VamsSoc.Construction.Endpoint.Machine
import VamsSoc.Proof.Endpoint.PayloadFrame

namespace VamsSoc.Pcie
open Library Abi

variable {σ : Type}

/-- Queue registers and interrupts stay outside of the protocol. -/
structure View where
  bridge : Bridge
  running : Bool
  link : Link
  fetches : Nat
  commands : List CommandEvent
  generation : U32
  clockNs : Nat

def view (s : State σ) : View where
  bridge := s.bridge
  running := s.engine.inflight
  link := s.link
  fetches := s.history.fetches
  commands := s.history.commands
  generation := s.device.resetGeneration
  clockNs := s.clockNs

/-- The debug block of a calm endpoint is off and its bridge is up. -/
structure Calm (s : State σ) : Prop where
  connected : s.link.connected = true
  writable : s.link.writable = true
  debug : s.device.debugEnabled = false
  fault : s.signals.fault.control = 0
  checkpoint : s.checkpoint = {}

@[simp] theorem view_setSignals (s : State σ) (signals : Signals) : view (s.setSignals signals) = view s := rfl
@[simp] theorem view_setSq (s : State σ) (sq : SubmissionQueue) : view (s.setSq sq) = view s := rfl
@[simp] theorem view_setCq (s : State σ) (cq : CompletionQueue) : view (s.setCq cq) = view s := rfl
@[simp] theorem view_setMemory (s : State σ) (memory : σ) : view (s.setMemory memory) = view s := rfl
@[simp] theorem view_recordAccess (s : State σ) (access : DmaAccess) : view (s.recordAccess access) = view s := rfl

@[simp] theorem view_checkInvariants (s : State σ) : view (checkInvariants s) = view s := rfl

@[simp] theorem view_require (s : State σ) (assertion : Assertion) (holds : Bool) :
    view (require s assertion holds) = view s := rfl

@[simp] theorem view_setError (s : State σ) (error : U32) : view (setError s error) = view s := rfl

@[simp] theorem view_raiseInterrupt (s : State σ) (sources : U32) : view (raiseInterrupt s sources) = view s := rfl

@[simp] theorem view_faultTrigger (s : State σ) (fault : U32) : view (faultTrigger s fault).2 = view s := rfl

namespace View

/-- Nothing is in flight, so the next descriptor may be fetched. -/
def Idle (v : View) : Prop :=
  v.bridge.inflight = false ∧ v.bridge.discardCompletion = false ∧ v.running = false

def publish (v : View) (queue : CompletionQueue) (completion : Completion) (written : Bool) : View :=
  { v with commands := .publish v.generation queue completion written :: v.commands }

/-- The fetched descriptor is held, sent to the portal, and awaits its authorization. -/
def fetch (v : View) (submission : Submission) : View :=
  { v with
    bridge := { v.bridge with submission, inflight := true, waitingFinal := false }
    link := { v.link with tx := v.link.tx ++ [⟨.submission, v.fetches + 1, submission.toBytes⟩] }
    fetches := v.fetches + 1
    commands := .fetched v.generation submission :: v.commands }

end View

theorem view_publishCompletion (host : Host σ) (s : State σ) (completion : Completion) :
    ∃ written, view (publishCompletion host s completion).2 = (view s).publish s.cq completion written := by
  unfold publishCompletion
  dsimp only
  split_ifs with written
  · exact ⟨true, by rw [← written]; rfl⟩
  · exact ⟨false, by rw [← Bool.eq_false_iff.mpr written]; rfl⟩

theorem chrWriteAll_writable {s : State σ} (writable : s.link.writable = true) (kind : FrameKind)
    (bytes : List U8) :
    chrWriteAll s kind bytes =
      (true, s.setLink { s.link with tx := s.link.tx ++ [⟨kind, s.history.fetches, bytes⟩] }) :=
  if_pos writable

theorem view_forwardSubmission {s : State σ} (writable : s.link.writable = true) (submission : Submission) :
    view (forwardSubmission (countFetch s submission) submission) = (view s).fetch submission := by
  unfold forwardSubmission
  dsimp only
  rw [chrWriteAll_writable (by exact writable)]
  rfl

theorem view_fetchSubmission {s : State σ} (calm : Calm s) (host : Host σ) :
    (fetchSubmission host s).1 = false ∧
      (view (fetchSubmission host s).2 = view s ∨
        ∃ submission, view (fetchSubmission host s).2 = (view s).fetch submission) := by
  unfold fetchSubmission
  dsimp only
  cases read : (dmaRead host s _ submissionSize).1 with
  | none => exact ⟨rfl, .inl rfl⟩
  | some bytes =>
      dsimp only
      rw [if_pos calm.connected]
      have sends : (dmaRead host s (s.sq.base + s.sq.head.setWidth 64 * BitVec.ofNat 64 submissionSize)
          submissionSize).2.link.writable = true := calm.writable
      exact ⟨rfl, .inr ⟨Submission.ofBytes bytes, view_forwardSubmission sends _⟩⟩

theorem idle_of_sqReady {s : State σ} (ready : sqReady s = true) : (view s).Idle := by
  simp only [sqReady, Bool.and_eq_true, Bool.not_eq_true'] at ready
  exact ⟨ready.1.1.2, ready.1.2, ready.2⟩

/-- A connected endpoint fetches at most one descriptor, and only when nothing is in flight. -/
theorem view_processSq {s : State σ} (calm : Calm s) (host : Host σ) :
    view (processSq host s) = view s ∨
      ((view s).Idle ∧ ∃ submission, view (processSq host s) = (view s).fetch submission) := by
  have checked : Calm (checkInvariants s) := ⟨calm.connected, calm.writable, calm.debug, calm.fault, calm.checkpoint⟩
  unfold processSq
  split_ifs with may
  · cases s.sq.depth.toNat with
    | zero => exact .inl rfl
    | succ fuel =>
        rw [fetchLoop]
        split_ifs with ready
        · -- A connected endpoint leaves the loop after its first descriptor.
          dsimp only
          rw [if_neg (by rw [(view_fetchSubmission checked host).1]; decide)]
          rcases (view_fetchSubmission checked host).2 with same | ⟨submission, fetched⟩
          · exact .inl same
          · exact .inr ⟨idle_of_sqReady ready, submission, fetched⟩
        · exact .inl rfl
  · exact .inl rfl

namespace View

/-- The engine runs the held descriptor. -/
def start (v : View) : View :=
  { v with running := true, commands := .engineStarted v.bridge.submission :: v.commands }

/-- The engine is idle again, and a part of a control frame is forgotten. -/
def stop (v : View) : View := { v with bridge := { v.bridge with controlRx := [] }, running := false }

def store (v : View) (completion : Completion) : View := { v with bridge := { v.bridge with completion } }

/-- A result goes to the firmware and waits for the final answer, or for the one that a reset discards. -/
def report (v : View) (result : Completion) : View :=
  { v with
    bridge := v.bridge.awaitFirmware false
    link := { v.link with tx := v.link.tx ++ [⟨.engineResult, v.fetches, result.toBytes⟩] } }

def take (v : View) (completion : Completion) : View :=
  { v with bridge := { v.bridge with completion, inflight := false, waitingFinal := false } }

end View

theorem faultTrigger_disarmed {s : State σ} (disarmed : s.signals.fault.control = 0) {fault : U32}
    (real : fault ≠ 0) : faultTrigger s fault = (false, s) := by
  have other : s.signals.fault.control ≠ fault := by
    rw [disarmed]
    exact real.symm
  simp only [faultTrigger, Signals.faultTrigger, if_pos other]
  rfl

theorem checkpointHit_disarmed {s : State σ} (disarmed : s.checkpoint = {}) {checkpoint : U32}
    (real : checkpoint ≠ checkpointNone) : checkpointHit s checkpoint = (false, s) := by
  have other : s.checkpoint.control ≠ checkpoint := by
    rw [disarmed]
    exact real.symm
  rw [checkpointHit, if_pos other]

theorem Calm.of_parts {s t : State σ} (calm : Calm s) (link : t.link = s.link)
    (debug : t.device.debugEnabled = s.device.debugEnabled)
    (fault : t.signals.fault.control = s.signals.fault.control)
    (checkpoint : t.checkpoint = s.checkpoint) : Calm t :=
  ⟨link ▸ calm.connected, link ▸ calm.writable, debug ▸ calm.debug, fault ▸ calm.fault,
    checkpoint ▸ calm.checkpoint⟩

theorem Calm.require {s : State σ} (calm : Calm s) (assertion : Assertion) (holds : Bool) :
    Calm (require s assertion holds) := by
  refine calm.of_parts rfl rfl ?_ rfl
  cases holds <;> rfl

theorem armUnlessPaused_disarmed {s : State σ} (runs : s.engine.hung = false) (disarmed : s.checkpoint = {}) :
    armUnlessPaused s = armEngine s := by
  rw [armUnlessPaused, runs, checkpointHit_disarmed disarmed (by decide)]
  rfl

/-- Without faults and pauses the engine starts and is timed. -/
theorem scheduleEngine_calm {s : State σ} (calm : Calm s) :
    scheduleEngine s = checkInvariants (armEngine (startEngine (require (require s .scheduleIdle
      (!s.engine.inflight)) .schedulePayload (isPayloadOpcode s.bridge.submission.opcode)) false false)) := by
  unfold scheduleEngine
  have checked := (calm.require .scheduleIdle (!s.engine.inflight)).require .schedulePayload
    (isPayloadOpcode s.bridge.submission.opcode)
  generalize require (require s .scheduleIdle (!s.engine.inflight)) .schedulePayload
    (isPayloadOpcode s.bridge.submission.opcode) = ready at checked
  dsimp only
  rw [faultTrigger_disarmed checked.fault (by decide)]
  dsimp only
  rw [faultTrigger_disarmed checked.fault (by decide)]
  dsimp only
  rw [armUnlessPaused_disarmed rfl (by exact checked.checkpoint),
    faultTrigger_disarmed (by exact checked.fault) (by decide)]
  rfl

theorem view_scheduleEngine {s : State σ} (calm : Calm s) : view (scheduleEngine s) = (view s).start := by
  rw [scheduleEngine_calm calm]
  rfl

theorem view_reportEngineResult {s : State σ} (calm : Calm s) (result : Completion) :
    (reportEngineResult s result false).1 = true ∧
      view (reportEngineResult s result false).2 = (view s).report result := by
  unfold reportEngineResult
  dsimp only
  rw [if_neg (by rw [calm.connected]; decide), chrWriteAll_writable (by exact calm.writable)]
  exact ⟨rfl, rfl⟩

theorem view_handEngineResult {s : State σ} (calm : Calm s) (host : Host σ) (result : Completion) :
    (handEngineResult host s result).1 = true ∧
      view (handEngineResult host s result).2 = (view s).report result := by
  have reported := view_reportEngineResult calm result
  unfold handEngineResult
  dsimp only
  rw [if_pos reported.1]
  exact reported

@[simp] theorem view_stopEngine (s : State σ) : view (stopEngine s) = (view s).stop := rfl
@[simp] theorem view_finishEngine (s : State σ) : view (finishEngine s) = (view s).stop := rfl
@[simp] theorem view_stopForFirmware (s : State σ) : view (stopForFirmware s) = (view s).stop := rfl
@[simp] theorem view_storeCompletion (s : State σ) (completion : Completion) :
    view (storeCompletion s completion) = (view s).store completion := rfl
@[simp] theorem view_markEngineError (s : State σ) (error : U32) : view (markEngineError s error) = view s := rfl

theorem Signals.faultTrigger_disarmed {signals : Signals} (disarmed : signals.fault.control = 0)
    (fault : U32) : (signals.faultTrigger fault).2.fault.control = 0 := by
  have kept (holds : Bool) : (signals.require .faultRemaining holds).fault.control = 0 := by
    cases holds <;> exact disarmed
  unfold Signals.faultTrigger
  dsimp only
  split_ifs
  · exact disarmed
  · exact kept _
  · rfl

theorem Signals.raiseInterrupt_disarmed {signals : Signals} (disarmed : signals.fault.control = 0)
    (sources : U32) : (signals.raiseInterrupt sources).fault.control = 0 := by
  have raised : (signals.setLevel (signals.intrStatus ||| sources) signals.intrMask).fault.control = 0 := disarmed
  have triggered := Signals.faultTrigger_disarmed raised faultDropCqInterrupt
  unfold Signals.raiseInterrupt
  dsimp only
  split
  · split <;> exact triggered
  · exact disarmed

theorem Calm.raiseInterrupt {s : State σ} (calm : Calm s) (sources : U32) : Calm (raiseInterrupt s sources) :=
  calm.of_parts rfl rfl
    ((Signals.raiseInterrupt_disarmed calm.fault sources).trans calm.fault.symm) rfl

theorem Calm.setError {s : State σ} (calm : Calm s) (error : U32) : Calm (setError s error) :=
  calm.of_parts rfl rfl
    ((Signals.raiseInterrupt_disarmed (by exact calm.fault) intrError).trans calm.fault.symm) rfl

theorem Calm.checkInvariants {s : State σ} (calm : Calm s) : Calm (checkInvariants s) :=
  calm.of_parts rfl rfl rfl rfl

theorem Calm.setSq {s : State σ} (calm : Calm s) (sq : SubmissionQueue) : Calm (s.setSq sq) :=
  calm.of_parts rfl rfl rfl rfl

theorem Calm.setCq {s : State σ} (calm : Calm s) (cq : CompletionQueue) : Calm (s.setCq cq) :=
  calm.of_parts rfl rfl rfl rfl

theorem Calm.setBridge {s : State σ} (calm : Calm s) (bridge : Bridge) : Calm (s.setBridge bridge) :=
  calm.of_parts rfl rfl rfl rfl

theorem Calm.record {s : State σ} (calm : Calm s) (event : CommandEvent) : Calm (s.record event) :=
  calm.of_parts rfl rfl rfl rfl

theorem Calm.dmaWrite {s : State σ} (calm : Calm s) (host : Host σ) (address : U64) (bytes : List U8) :
    Calm (dmaWrite host s address bytes).2 := calm.of_parts rfl rfl rfl rfl

theorem Calm.publishCompletion {s : State σ} (calm : Calm s) (host : Host σ) (completion : Completion) :
    Calm (publishCompletion host s completion).2 := by
  have written := (calm.checkInvariants.require .publishRoom (!s.cq.full)).dmaWrite host
    (s.cq.base + s.cq.tail.setWidth 64 * BitVec.ofNat 64 completionSize) completion.toBytes
  unfold Pcie.publishCompletion
  dsimp only
  split_ifs
  · exact (((written.record _).setCq _).raiseInterrupt intrCq).checkInvariants
  · exact ((written.record _).setCq _).setError _

/-- An armed engine timer belongs to a running engine of the current generation and epoch. -/
structure Engaged (s : State σ) : Prop where
  armed : s.engine.timer.isSome = true → s.engine.inflight = true
  current : s.engine.inflight = true →
    s.engine.generation = s.device.resetGeneration ∧ s.engine.activeEpoch = s.engine.epoch

/-- The bus accesses between the two states left the protocol, the device, and the engine alone. -/
structure OnlyBus (before after : State σ) : Prop where
  calm : Calm after
  view : view after = view before
  device : after.device = before.device
  engine : after.engine = before.engine

theorem OnlyBus.refl {s : State σ} (calm : Calm s) : OnlyBus s s := ⟨calm, rfl, rfl, rfl⟩

theorem faultTrigger_calm {s : State σ} (calm : Calm s) (fault : U32) : Calm (faultTrigger s fault).2 :=
  calm.of_parts rfl rfl ((Signals.faultTrigger_disarmed calm.fault fault).trans calm.fault.symm) rfl

theorem OnlyBus.busStable (host : Host σ) (before : State σ) : BusStable host (OnlyBus before) where
  fault _ fault _ only := ⟨faultTrigger_calm only.calm fault, only.view, only.device, only.engine⟩
  read _ _ _ only := ⟨only.calm.of_parts rfl rfl rfl rfl, only.view, only.device, only.engine⟩
  write _ _ _ only := ⟨only.calm.of_parts rfl rfl rfl rfl, only.view, only.device, only.engine⟩
  allocate _ _ only := ⟨only.calm.of_parts rfl rfl rfl rfl, only.view, only.device, only.engine⟩

/-- The finished payload has left a result under the identity of the authorized command. -/
structure Finished (before after : State σ) (result : Completion) : Prop where
  calm : Calm after
  fills : Fills before.bridge.completion result
  stored : after.bridge.completion = result
  view : view after = (view before).store result
  current : before.engine.generation = before.device.resetGeneration ∧
      before.engine.activeEpoch = before.engine.epoch →
    after.engine.generation = after.device.resetGeneration ∧ after.engine.activeEpoch = after.engine.epoch
  timer : after.engine.timer = before.engine.timer

theorem finished_finishPayload {s : State σ} (calm : Calm s) (host : Host σ) :
    ∃ result, Finished s (finishPayload host s) result := by
  unfold finishPayload
  split_ifs
  · exact ⟨timedOutResult s.bridge.completion, calm.of_parts rfl rfl rfl rfl, ⟨rfl, rfl⟩, rfl, rfl, id, rfl⟩
  · have only := (OnlyBus.busStable host s).executePayload (OnlyBus.refl calm) s.bridge.submission
      s.bridge.completion
    refine ⟨_, only.calm.of_parts rfl rfl rfl rfl, fills_executePayload host s _ _, rfl, ?_, ?_, ?_⟩
    · dsimp only
      rw [view_markEngineError, view_storeCompletion, only.view]
    · intro current
      simp only [markEngineError, storeCompletion, State.setEngine_engine, State.setEngine_device,
        State.setBridge_engine, State.setBridge_device, only.engine, only.device]
      exact current
    · simp only [markEngineError, storeCompletion, State.setEngine_engine, State.setBridge_engine, only.engine]

/-- An engine that finishes in its own epoch hands its result to the firmware. -/
theorem engineComplete_hands {s : State σ} (calm : Calm s) (host : Host σ)
    (current : s.engine.generation = s.device.resetGeneration ∧ s.engine.activeEpoch = s.engine.epoch) :
    ∃ finished result, Finished (finishEngine s) finished result ∧
      engineComplete host s = (handEngineResult host finished result).2 := by
  have idle : Calm (checkInvariants (finishEngine
      (require (checkInvariants s) .completeRunning s.engine.inflight))) :=
    (calm.checkInvariants.require .completeRunning s.engine.inflight).of_parts rfl rfl rfl rfl
  obtain ⟨result, finished⟩ := finished_finishPayload idle host
  have still := finished.current current
  refine ⟨_, result, ⟨finished.calm, finished.fills, finished.stored, finished.view, finished.current,
    finished.timer⟩, ?_⟩
  unfold engineComplete
  dsimp only
  rw [if_neg (by exact fun stale => stale current.1),
    if_neg (by rintro (stale | stale) <;> simp_all),
    checkpointHit_disarmed finished.calm.checkpoint (by decide), if_neg Bool.false_ne_true, finished.stored]

/-- Stopping the engine releases a pause, and a calm endpoint has none. -/
theorem Calm.stopEngine {s : State σ} (calm : Calm s) : Calm (stopEngine s) where
  connected := calm.connected
  writable := calm.writable
  debug := calm.debug
  fault := calm.fault
  checkpoint := by
    change { s.checkpoint with status := checkpointNone } = ({} : Checkpoint)
    rw [calm.checkpoint]

end VamsSoc.Pcie
