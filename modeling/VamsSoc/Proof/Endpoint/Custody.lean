/-
This file follows the command in flight through every event: who has it, and where its completion may go.
-/

import VamsSoc.Library.Ring
import VamsSoc.Proof.Endpoint.Geometry

namespace VamsSoc.Pcie
open Library Abi

variable {σ : Type}

/-- A completion is still to be published for the command that the endpoint has. -/
def owed (bridge : Bridge) (engine : Engine) (checkpoint : Checkpoint) : Bool :=
  bridge.inflight || engine.inflight || checkpoint.status == checkpointCqPublish

/-- A deadline and the time after it are positive signed 64-bit times. -/
def InTime (deadlineNs : Nat) : Prop := 0 < deadlineNs ∧ deadlineNs + 1 < timeLimitNs

/-- The flags say who has the command, and at most one of them is set. -/
structure Owner (bridge : Bridge) (engine : Engine) (checkpoint : Checkpoint) (device : Device) : Prop where
  inflight : bridge.inflight = true → bridge.discardCompletion = false ∧ engine.inflight = false
  discard : bridge.discardCompletion = true → engine.inflight = false
  final : bridge.waitingFinal = true → bridge.inflight = true
  ackTimer : bridge.firmwareAckTimer ≠ none → bridge.discardCompletion = true
  controlRoom : bridge.controlRx.length ≤ completionSize
  answerRoom : bridge.completionRx.length ≤ completionSize
  busy : hasBits device.status statusEngineBusy = engine.inflight
  current : engine.inflight = true →
    engine.generation = device.resetGeneration ∧ engine.activeEpoch = engine.epoch ∧
      0 < engine.finishNs ∧ engine.finishNs < timeLimitNs
  deadline : owed bridge engine checkpoint = true → InTime engine.commandDeadlineNs
  hung : engine.hung = true → engine.inflight = true
  timer : engine.timer ≠ none → engine.inflight = true ∧ engine.hung = false ∧ checkpoint.status = checkpointNone
  controlRange : checkpoint.control ≤ checkpointCqPublish
  statusRange : checkpoint.status ≤ checkpointCqPublish
  exclusive : checkpoint.control = 0 ∨ checkpoint.status = 0
  start : checkpoint.status = checkpointEngineStart → engine.inflight = true ∧ engine.hung = false
  publish : checkpoint.status = checkpointCqPublish →
    bridge.inflight = false ∧ bridge.discardCompletion = false ∧ engine.inflight = false
  paused : checkpoint.status = checkpointCqPublish →
    engine.generation = device.resetGeneration ∧ engine.activeEpoch = engine.epoch

/-- A device that is resetting has no command, and its queues stay disabled. -/
structure Resetting (device : Device) (sq : SubmissionQueue) (cq : CompletionQueue) (free : Prop) : Prop where
  free : free
  stopped : hasBits device.control controlEnable = false
  sq : hasBits sq.control queueEnable = false
  cq : hasBits cq.control queueEnable = false
  status : hasBits device.status statusResetting = true

/-- Only an enabled queue above its lower watermark is throttled. -/
structure CompletionQueue.Throttling (queue : CompletionQueue) : Prop where
  ordered : queue.watermarkHigh ≠ 0 → queue.watermarkLow < queue.watermarkHigh
  configured : queue.backpressure = true → hasBits queue.control queueEnable = true ∧ queue.watermarkHigh ≠ 0
  above : queue.backpressure = true → queue.watermarkLow < queue.occupancy

/-- An enabled device has enabled queues, and an enabled queue has a valid depth. -/
structure Queues (device : Device) (sq : SubmissionQueue) (cq : CompletionQueue) : Prop where
  enabled : hasBits device.control controlEnable = true →
    hasBits sq.control queueEnable = true ∧ hasBits cq.control queueEnable = true
  sqDepth : hasBits sq.control queueEnable = true → validDepth sq.depth = true
  depth : hasBits cq.control queueEnable = true → validDepth cq.depth = true
  throttling : cq.Throttling

/-- The queue takes one more completion. -/
structure CompletionQueue.Open (queue : CompletionQueue) : Prop where
  enabled : hasBits queue.control queueEnable = true
  room : queue.full = false

/-- Only the geometry of the rings, or a completion queue that is not guarded, makes these assertions fail. -/
def Assertion.Excused (guarded : Prop) (assertion : Assertion) : Prop :=
  assertion.geometry = true ∨ assertion = .publishRoom ∧ ¬guarded

/-- A fault is armed exactly as long as its count runs, and only excused assertions have failed. -/
structure Signals.Orderly (guarded : Prop) (signals : Signals) : Prop where
  armed : signals.fault.control ≠ 0 ↔ signals.fault.remaining ≠ 0
  power : signals.fault.control ≠ 0 → isPowerOf2 signals.fault.control = true
  defined : clearBits signals.fault.control faultDefined = 0
  clean : ∀ assertion ∈ signals.failed, assertion.Excused guarded

/-- The slots that the host has not consumed. -/
def CompletionQueue.unconsumed (queue : CompletionQueue) : List U32 :=
  (List.range queue.occupancy.toNat).map fun index => (queue.head + BitVec.ofNat 32 index) &&& (queue.depth - 1)

/-- A completion was written to a free slot of an open queue. -/
structure SafeWrite (accesses : List DmaAccess) (queue : CompletionQueue) (completion : Completion) : Prop where
  opened : queue.Open
  inside : queue.tail < queue.depth
  free : queue.tail ∉ queue.unconsumed
  written : .write (queue.base + queue.tail.setWidth 64 * BitVec.ofNat 64 completionSize) completion.toBytes ∈ accesses

def SafePublish (accesses : List DmaAccess) : CommandEvent → Prop
  | .publish _ queue completion _ => SafeWrite accesses queue completion
  | .fetched _ _ | .engineStarted _ => True

def History.Logged (history : History) : Prop := ∀ event ∈ history.commands, SafePublish history.accesses event

/-- This is the invariant of the command in flight; what the queue registers add to it holds while they are guarded. -/
structure Custody (guarded : Prop) (s : State σ) : Prop where
  clock : s.clockNs < clockLimitNs
  owner : Owner s.bridge s.engine s.checkpoint s.device
  resetting : s.device.resetTimer ≠ none →
    Resetting s.device s.sq s.cq (owed s.bridge s.engine s.checkpoint = false)
  queues : Queues s.device s.sq s.cq
  signals : s.signals.Orderly guarded
  logged : guarded → s.history.Logged
  room : guarded → owed s.bridge s.engine s.checkpoint = true → s.cq.Open
  geometry : guarded → s.cq.Geometry

/-- The command has left its owner, and the next one takes it or its completion is published. -/
structure Handover (guarded : Prop) (s : State σ) : Prop where
  inflight : s.bridge.inflight = false
  kept : s.bridge.discardCompletion = false
  stopped : s.engine.inflight = false
  unpaused : s.checkpoint.status = checkpointNone
  free : s.device.resetTimer = none
  room : guarded → s.cq.Open

theorem Handover.unowed {guarded : Prop} {s : State σ} (handover : Handover guarded s) :
    owed s.bridge s.engine s.checkpoint = false := by
  simp [owed, handover.inflight, handover.stopped, handover.unpaused, checkpointNone, checkpointCqPublish]

theorem chrWriteAll_refused {s : State σ} {kind : FrameKind} {bytes : List U8}
    (refused : ¬(chrWriteAll s kind bytes).1 = true) : (chrWriteAll s kind bytes).2 = s := by
  unfold chrWriteAll at refused ⊢
  split_ifs at refused ⊢
  · exact absurd rfl refused
  · rfl

/-- The ring keeps its producer out of the slots that are not consumed. -/
theorem CompletionQueue.Geometry.tail_free {queue : CompletionQueue} (geometry : queue.Geometry)
    (valid : validDepth queue.depth = true) : queue.tail ∉ queue.unconsumed := by
  have nonzero := validDepth_ne_zero valid
  simp only [validDepth, Bool.and_eq_true] at valid
  intro listed
  obtain ⟨index, unconsumed, same⟩ := List.mem_map.mp listed
  rw [List.mem_range, CompletionQueue.occupancy, if_neg nonzero] at unconsumed
  exact tail_ne_of_unconsumed valid.2 (geometry.head nonzero) (geometry.tail nonzero) unconsumed same

namespace Signals.Orderly
variable {guarded : Prop} {signals : Signals}

theorem require (orderly : signals.Orderly guarded) {assertion : Assertion} {holds : Bool}
    (met : holds = true ∨ assertion.Excused guarded) : (signals.require assertion holds).Orderly guarded := by
  unfold Signals.require
  split
  · exact orderly
  next fails =>
    refine ⟨orderly.armed, orderly.power, orderly.defined, ?_⟩
    intro other failed
    rcases List.mem_cons.mp failed with rfl | before
    · exact met.resolve_left fails
    · exact orderly.clean other before

/-- A fault that is armed counts down, and is disarmed when it fires. -/
theorem faultTrigger (orderly : signals.Orderly guarded) {fault : U32} (named : fault ≠ 0) :
    (signals.faultTrigger fault).2.Orderly guarded := by
  unfold Signals.faultTrigger
  split
  · exact orderly
  next same =>
    rw [not_not] at same
    have counts : signals.fault.remaining ≠ 0 := orderly.armed.mp (by rw [same]; exact named)
    have checked : (signals.require .faultRemaining (signals.fault.remaining != 0)) = signals :=
      if_pos (bne_iff_ne.mpr counts)
    dsimp only
    rw [checked]
    split
    next more =>
      exact ⟨⟨fun _ => more, fun _ => by rw [same]; exact named⟩, orderly.power, orderly.defined, orderly.clean⟩
    next fires =>
      rw [not_not] at fires
      refine ⟨⟨fun armed => absurd rfl armed, fun counts => absurd fires counts⟩, fun armed => absurd rfl armed, ?_,
        orderly.clean⟩
      exact (by decide : clearBits (0 : U32) faultDefined = 0)

theorem raiseInterrupt (orderly : signals.Orderly guarded) (sources : U32) :
    (signals.raiseInterrupt sources).Orderly guarded := by
  have raised : (signals.setLevel (signals.intrStatus ||| sources) signals.intrMask).Orderly guarded := { orderly with }
  have triggered := raised.faultTrigger (by decide : faultDropCqInterrupt ≠ 0)
  unfold Signals.raiseInterrupt
  dsimp only
  split
  · split <;> exact { triggered with }
  · exact { raised with }

theorem setError (orderly : signals.Orderly guarded) (error : U32) : (signals.setError error).Orderly guarded := by
  have marked : Signals.Orderly guarded { signals with errorStatus := signals.errorStatus ||| error } := { orderly with }
  exact marked.raiseInterrupt intrError

end Signals.Orderly

theorem sqAssertions_geometry (queue : SubmissionQueue) (check : Assertion × Bool)
    (listed : check ∈ queue.assertions) : check.1.geometry = true := by
  unfold SubmissionQueue.assertions at listed
  split at listed
  · simp at listed
  · simp only [List.mem_cons, List.not_mem_nil, or_false] at listed
    casesm* _ ∨ _ <;> subst check <;> rfl

theorem cqAssertions_geometry (queue : CompletionQueue) (check : Assertion × Bool)
    (listed : check ∈ queue.assertions) : check.1.geometry = true := by
  unfold CompletionQueue.assertions at listed
  dsimp only at listed
  split_ifs at listed
  · simp at listed
  all_goals
    simp only [List.mem_append, List.mem_cons, List.not_mem_nil, or_false] at listed
    casesm* _ ∨ _ <;> subst check <;> rfl

namespace Custody
variable {guarded : Prop} {s : State σ}

section
variable (custody : Custody guarded s)
include custody

theorem setSignals {signals : Signals} (orderly : signals.Orderly guarded) :
    Custody guarded (s.setSignals signals) := { custody with signals := orderly }

/-- The assertions about the command hold in every state of the invariant. -/
theorem ownership (check : Assertion × Bool) (listed : check ∈ ownershipAssertions s) :
    check.2 = true := by
  have implies {first second : Bool} (holds : first = true → second = true) : (!first || second) = true := by
    cases first
    · rfl
    · exact holds rfl
  have excludes {first second : Bool} (holds : first = true → second = false) : (!(first && second)) = true := by
    cases first
    · rfl
    · rw [holds rfl]
      rfl
  have owner := custody.owner
  have throttled := custody.queues.throttling.configured
  obtain ⟨armed, power, defined, -⟩ := custody.signals
  revert check
  simp only [ownershipAssertions, List.forall_mem_append, List.forall_mem_cons]
  refine ⟨⟨⟨?_, ?_, ?_, ?_, ?_, ?_, ?_, nofun⟩, ?_⟩, ?_, ?_, ?_, ?_, ?_, ?_, ?_, nofun⟩
  · refine implies fun pressed => ?_
    obtain ⟨enabled, watermark⟩ := throttled pressed
    rw [enabled, Bool.true_and]
    exact bne_iff_ne.mpr watermark
  · exact excludes fun inflight => (owner.inflight inflight).1
  · exact excludes fun inflight => (owner.inflight inflight).2
  · exact excludes owner.discard
  · exact implies owner.final
  · exact decide_eq_true owner.controlRoom
  · exact beq_iff_eq.mpr owner.busy
  · split_ifs with running
    · obtain ⟨generation, epoch, finish⟩ := owner.current running
      have positive := owner.deadline (by simp [owed, running])
      simp [generation, epoch, finish.1, positive.1]
    · simp
  · exact implies owner.hung
  · by_cases unarmed : s.signals.fault.control = 0
    · simp [unarmed]
    · simp [power unarmed]
  · exact beq_iff_eq.mpr defined
  · refine beq_iff_eq.mpr (Bool.eq_iff_iff.mpr ?_)
    rw [bne_iff_ne, bne_iff_ne]
    exact armed
  · exact decide_eq_true owner.controlRange
  · exact decide_eq_true owner.statusRange
  · rcases owner.exclusive with none | none <;> simp [none]

theorem checkInvariants : Custody guarded (checkInvariants s) := by
  refine custody.setSignals ⟨custody.signals.armed, custody.signals.power, custody.signals.defined, ?_⟩
  intro assertion failed
  rcases List.mem_append.mp failed with violated | before
  · simp only [violations, List.mem_map, List.mem_filter, List.mem_append] at violated
    obtain ⟨check, ⟨(listed | listed) | listed, fails⟩, rfl⟩ := violated
    · exact .inl (sqAssertions_geometry s.sq check listed)
    · exact .inl (cqAssertions_geometry s.cq check listed)
    · simp [custody.ownership check listed] at fails
  · exact custody.signals.clean assertion before

theorem require (assertion : Assertion) (holds : Bool)
    (met : holds = true ∨ assertion.Excused guarded) : Custody guarded (require s assertion holds) :=
  custody.setSignals (custody.signals.require met)

theorem raiseInterrupt (sources : U32) : Custody guarded (raiseInterrupt s sources) :=
  custody.setSignals (custody.signals.raiseInterrupt sources)

theorem setError (error : U32) : Custody guarded (setError s error) :=
  custody.setSignals (custody.signals.setError error)

theorem faultTrigger {fault : U32} (named : fault ≠ 0) :
    Custody guarded (faultTrigger s fault).2 := custody.setSignals (custody.signals.faultTrigger named)

theorem setLink (link : Link) : Custody guarded (s.setLink link) := { custody with }

theorem setMemory (memory : σ) : Custody guarded (s.setMemory memory) := { custody with }

/-- More bus accesses take nothing back. -/
theorem recordAccess (access : DmaAccess) : Custody guarded (s.recordAccess access) := by
  refine { custody with logged := ?_ }
  intro guard event member
  have before := custody.logged guard event member
  cases event with
  | publish => exact { before with written := List.mem_cons_of_mem _ before.written }
  | fetched | engineStarted => trivial

theorem chrWriteAll (kind : FrameKind) (bytes : List U8) :
    Custody guarded (chrWriteAll s kind bytes).2 := by
  unfold Pcie.chrWriteAll
  split
  · exact custody.setLink _
  · exact custody

end

theorem busStable (host : Host σ) : BusStable host (fun s => Custody guarded s) where
  fault _ _ named custody := custody.faultTrigger named
  read _ _ _ custody := (custody.setMemory _).recordAccess _
  write _ _ _ custody := (custody.setMemory _).recordAccess _
  allocate _ _ custody := custody.setMemory _

section
variable (custody : Custody guarded s)
include custody

theorem dmaRead (host : Host σ) (address : U64) (count : Nat) :
    Custody guarded (dmaRead host s address count).2 := (busStable host).read s address count custody

theorem dmaWrite (host : Host σ) (address : U64) (bytes : List U8) :
    Custody guarded (dmaWrite host s address bytes).2 := (busStable host).write s address bytes custody

theorem storeCompletion (completion : Completion) :
    Custody guarded (storeCompletion s completion) := { custody with owner := { custody.owner with } }

theorem markEngineError (error : U32) : Custody guarded (markEngineError s error) :=
  { custody with owner := { custody.owner with } }

/-- The command in flight is given up, and a reset will discard its answer. -/
theorem cancelBridgeRequest : Custody guarded (cancelBridgeRequest s) := by
  have owner := custody.owner
  unfold Pcie.cancelBridgeRequest Bridge.cancelRequest
  split
  next inflight =>
    obtain ⟨kept, stopped⟩ := owner.inflight inflight
    have unpaused : s.checkpoint.status ≠ checkpointCqPublish := by
      intro paused
      simp [(owner.publish paused).1] at inflight
    have unowed (bridge : Bridge) (given : bridge.inflight = false) : owed bridge s.engine s.checkpoint = false := by
      simp [owed, given, stopped, unpaused]
    refine { custody with owner := ?_, resetting := ?_, room := ?_ }
    · exact { owner with
        inflight := nofun
        discard := fun _ => stopped
        final := nofun
        ackTimer := fun _ => rfl
        deadline := fun owes => absurd (owes.symm.trans (unowed _ rfl)) (by decide)
        publish := fun paused => absurd paused unpaused }
    · intro armed
      have free := (custody.resetting armed).free
      simp [owed, inflight] at free
    · intro _ owes
      exact absurd (owes.symm.trans (unowed _ rfl)) (by decide)
  · exact custody

/-- The endpoint gives up what its engine runs, and leaves what the bridge has. -/
theorem stopEngine : Custody guarded (stopEngine s) := by
  have owner := custody.owner
  have fewer (owes : owed { s.bridge with controlRx := [] } { s.engine with inflight := false }
      { s.checkpoint with status := checkpointNone } = true) : owed s.bridge s.engine s.checkpoint = true := by
    have inflight : s.bridge.inflight = true := by simpa [owed, checkpointNone, checkpointCqPublish] using owes
    simp [owed, inflight]
  refine { custody with owner := ?_, resetting := ?_, queues := { custody.queues with }, room := ?_ }
  · exact {
      inflight := fun inflight => ⟨(owner.inflight inflight).1, rfl⟩
      discard := fun _ => rfl
      final := owner.final
      ackTimer := owner.ackTimer
      controlRoom := Nat.zero_le _
      answerRoom := owner.answerRoom
      busy := hasBits_cleared _ _
      current := nofun
      deadline := fun owes => owner.deadline (fewer owes)
      hung := nofun
      timer := fun armed => absurd rfl armed
      controlRange := owner.controlRange
      statusRange := show checkpointNone ≤ checkpointCqPublish by decide
      exclusive := .inr rfl
      start := fun paused => absurd paused (show checkpointNone ≠ checkpointEngineStart by decide)
      publish := fun paused => absurd paused (show checkpointNone ≠ checkpointCqPublish by decide)
      paused := fun paused => absurd paused (show checkpointNone ≠ checkpointCqPublish by decide) }
  · intro armed
    obtain ⟨free, stopped, sq, cq, status⟩ := custody.resetting armed
    refine ⟨Bool.eq_false_iff.mpr fun owes => ?_, stopped, sq, cq, ?_⟩
    · exact absurd ((fewer owes).symm.trans free) (by decide)
    · rw [← status]
      exact hasBits_clearBits _ (by decide)
  · exact fun guard owes => custody.room guard (fewer owes)

theorem cancelEngine : Custody guarded (cancelEngine s) :=
  custody.stopEngine.checkInvariants

theorem record (event : CommandEvent)
    (safe : guarded → SafePublish s.history.accesses event) : Custody guarded (s.record event) := by
  refine { custody with logged := ?_ }
  intro guard other member
  rcases List.mem_cons.mp member with rfl | before
  · exact safe guard
  · exact custody.logged guard other before

/-- The queue registers may move while a completion that is owed keeps its place. -/
theorem setCq {cq : CompletionQueue} (control : cq.control = s.cq.control) (depth : cq.depth = s.cq.depth)
    (throttling : cq.Throttling) (room : guarded → owed s.bridge s.engine s.checkpoint = true → cq.Open)
    (geometry : guarded → cq.Geometry) : Custody guarded (s.setCq cq) := by
  have queues := custody.queues
  refine { custody with
    resetting := ?_
    queues := ⟨?_, queues.sqDepth, ?_, throttling⟩
    room := room
    geometry := geometry }
  · intro armed
    have resetting := custody.resetting armed
    exact { resetting with cq := by rw [State.setCq_cq, control]; exact resetting.cq }
  · rw [State.setCq_cq, control]
    exact queues.enabled
  · rw [State.setCq_cq, control, depth]
    exact queues.depth

end

end Custody

namespace CompletionQueue
variable (queue : CompletionQueue)

@[simp] theorem control_updateBackpressure : queue.updateBackpressure.control = queue.control := by
  unfold updateBackpressure
  dsimp only
  split_ifs <;> rfl

@[simp] theorem depth_updateBackpressure : queue.updateBackpressure.depth = queue.depth := by
  unfold updateBackpressure
  dsimp only
  split_ifs <;> rfl

@[simp] theorem full_updateBackpressure : queue.updateBackpressure.full = queue.full := by
  unfold updateBackpressure
  dsimp only
  split_ifs <;> rfl

/-- The update leaves a queue throttled only above the lower watermark. -/
theorem throttling_updateBackpressure (ordered : queue.watermarkHigh ≠ 0 → queue.watermarkLow < queue.watermarkHigh) :
    queue.updateBackpressure.Throttling := by
  unfold updateBackpressure
  dsimp only
  generalize (if queue.highWater < queue.occupancy then queue.occupancy else queue.highWater) = highWater
  split
  · exact ⟨ordered, nofun, nofun⟩
  next on =>
    simp only [Bool.or_eq_true, Bool.not_eq_true', beq_iff_eq, not_or, Bool.not_eq_false] at on
    split
    next raises =>
      simp only [Bool.and_eq_true, decide_eq_true_eq] at raises
      have above : queue.watermarkLow < queue.occupancy := by
        have low := ordered on.2
        bv_omega
      exact ⟨ordered, fun _ => on, fun _ => above⟩
    · split
      · exact ⟨ordered, nofun, nofun⟩
      next stays =>
        simp only [Bool.and_eq_true, decide_eq_true_eq, not_and, BitVec.not_le] at stays
        exact ⟨ordered, fun _ => on, stays⟩

end CompletionQueue

namespace Custody
variable {guarded : Prop} {s : State σ}

/-- The completion goes to an open queue, and nothing is owed any more. -/
theorem publishCompletion (custody : Custody guarded s) (host : Host σ) (completion : Completion)
    (unowed : owed s.bridge s.engine s.checkpoint = false) (room : guarded → s.cq.Open) :
    Custody guarded (publishCompletion host s completion).2 := by
  have excused : (!s.cq.full) = true ∨ Assertion.Excused guarded .publishRoom := by
    by_cases guard : guarded
    · exact .inl (by simp [(room guard).room])
    · exact .inr (.inr ⟨rfl, guard⟩)
  have written := (custody.checkInvariants.require .publishRoom (!s.cq.full) excused).dmaWrite host
    (s.cq.base + s.cq.tail.setWidth 64 * BitVec.ofNat 64 completionSize) completion.toBytes
  have free (cq : CompletionQueue) : guarded → owed s.bridge s.engine s.checkpoint = true → cq.Open :=
    fun _ owes => absurd (owes.symm.trans unowed) (by decide)
  have valid (guard : guarded) := custody.queues.depth (room guard).enabled
  have inside (guard : guarded) := (custody.geometry guard).tail (validDepth_ne_zero (valid guard))
  have logged := fun outcome => written.record (.publish s.device.resetGeneration s.cq completion outcome)
    fun guard => ⟨room guard, inside guard, (custody.geometry guard).tail_free (valid guard), List.mem_cons_self⟩
  unfold Pcie.publishCompletion
  dsimp only
  split
  · refine (Custody.raiseInterrupt ?_ intrCq).checkInvariants
    exact (logged _).setCq s.cq.advance.control_updateBackpressure s.cq.advance.depth_updateBackpressure
      (s.cq.advance.throttling_updateBackpressure custody.queues.throttling.ordered) (free _) fun guard =>
        (custody.geometry guard).advance.updateBackpressure
  · refine Custody.setError ?_ _
    exact (logged _).setCq rfl rfl { custody.queues.throttling with } (free _) fun guard =>
      (custody.geometry guard).markError

/-- An idle endpoint may hand its result over to the firmware. -/
theorem awaitFirmware (custody : Custody guarded s) (discard : Bool) (armed : Option Nat)
    (stopped : s.engine.inflight = false) (unpaused : s.checkpoint.status = checkpointNone)
    (deadline : InTime s.engine.commandDeadlineNs) (timed : armed ≠ none → discard = true)
    (free : discard = false → s.device.resetTimer = none) (room : guarded → s.cq.Open) :
    Custody guarded (s.setBridge { s.bridge.awaitFirmware discard with firmwareAckTimer := armed }) := by
  have owner := custody.owner
  refine { custody with owner := ?_, resetting := ?_, room := fun guard _ => room guard }
  · exact { owner with
      inflight := fun inflight => ⟨by simpa [Bridge.awaitFirmware] using inflight, stopped⟩
      discard := fun _ => stopped
      final := id
      ackTimer := timed
      deadline := fun _ => deadline
      publish := fun paused => absurd (unpaused.symm.trans paused) (by decide) }
  · intro resetting
    have before := custody.resetting resetting
    cases discard with
    | false => exact absurd (free rfl) resetting
    | true => exact { before with free := by simp [owed, Bridge.awaitFirmware, stopped, unpaused, checkpointNone,
        checkpointCqPublish] }

/-- The result waits for the firmware when the bridge takes it, and is dropped otherwise. -/
theorem reportEngineResult (custody : Custody guarded s) (completion : Completion) (discard : Bool)
    (idle : s.bridge.inflight = false ∧ s.bridge.discardCompletion = false) (stopped : s.engine.inflight = false)
    (unpaused : s.checkpoint.status = checkpointNone) (deadline : InTime s.engine.commandDeadlineNs)
    (free : discard = false → s.device.resetTimer = none) (room : guarded → s.cq.Open) :
    Custody guarded (reportEngineResult s completion discard).2 := by
  have checked := (custody.require .reportBridgeIdle (!s.bridge.inflight) (.inl (by simp [idle.1]))).require
    .reportNotDiscarding (!s.bridge.discardCompletion) (.inl (by simp [idle.2]))
  have untimed : s.bridge.firmwareAckTimer = none := by
    by_contra timed
    exact absurd ((custody.owner.ackTimer timed).symm.trans idle.2) (by decide)
  have unowed : owed s.bridge.release s.engine s.checkpoint = false := by
    simp [owed, Bridge.release, stopped, unpaused, checkpointNone, checkpointCqPublish]
  have waiting (armed : Option Nat) (timed : armed ≠ none → discard = true) :=
    checked.awaitFirmware discard armed stopped unpaused deadline timed free room
  unfold Pcie.reportEngineResult Pcie.chrWriteAll
  dsimp only
  split_ifs with apart writable sent sent
  · exact checked.setError _
  · refine Custody.checkInvariants ?_
    unfold armFirmwareAck
    split
    · exact (waiting _ fun _ => ‹_›).setLink _
    · exact (waiting _ fun timed => absurd untimed timed).setLink _
  · exact absurd rfl sent
  · exact absurd sent (by decide)
  · refine Custody.setError ?_ _
    refine { custody with owner := ?_, resetting := ?_, signals := checked.signals, room := ?_ }
    · exact { custody.owner with
        inflight := nofun
        discard := nofun
        final := nofun
        ackTimer := fun timed => absurd untimed timed
        deadline := fun _ => deadline
        publish := fun _ => ⟨rfl, rfl, stopped⟩ }
    · intro resetting
      exact { custody.resetting resetting with free := unowed }
    · exact fun guard _ => room guard

theorem reportHandover (custody : Custody guarded s) (completion : Completion) (handover : Handover guarded s)
    (deadline : InTime s.engine.commandDeadlineNs) : Custody guarded (Pcie.reportEngineResult s completion false).2 :=
  custody.reportEngineResult completion false ⟨handover.inflight, handover.kept⟩ handover.stopped handover.unpaused
    deadline (fun _ => handover.free) handover.room

/-- A result that the bridge did not take leaves the endpoint without a command. -/
theorem refused_reportEngineResult (handover : Handover guarded s) (completion : Completion)
    (refused : ¬(Pcie.reportEngineResult s completion false).1 = true) :
    owed (Pcie.reportEngineResult s completion false).2.bridge (Pcie.reportEngineResult s completion false).2.engine
        (Pcie.reportEngineResult s completion false).2.checkpoint = false ∧
      (guarded → (Pcie.reportEngineResult s completion false).2.cq.Open) := by
  have unowed : owed s.bridge.release s.engine s.checkpoint = false := by
    simp [owed, Bridge.release, handover.stopped, handover.unpaused, checkpointNone, checkpointCqPublish]
  unfold Pcie.reportEngineResult at refused ⊢
  dsimp only at refused ⊢
  split_ifs at refused ⊢ with apart sent
  · exact ⟨handover.unowed, handover.room⟩
  · exact absurd rfl refused
  · rw [chrWriteAll_refused sent]
    exact ⟨unowed, handover.room⟩

/-- The result goes to the firmware, or to the host when the bridge does not take it. -/
theorem handEngineResult (custody : Custody guarded s) (host : Host σ) (completion : Completion)
    (handover : Handover guarded s) (deadline : InTime s.engine.commandDeadlineNs) :
    Custody guarded (handEngineResult host s completion).2 := by
  have reported := custody.reportHandover completion handover deadline
  unfold Pcie.handEngineResult
  dsimp only
  split
  · exact reported
  next refused =>
    obtain ⟨unowed, room⟩ := refused_reportEngineResult handover completion refused
    exact reported.publishCompletion host completion unowed room

/-- A running engine leaves nothing to the bridge. -/
theorem idle_of_running (custody : Custody guarded s) (running : s.engine.inflight = true) :
    s.bridge.inflight = false ∧ s.bridge.discardCompletion = false := by
  have owner := custody.owner
  refine ⟨Bool.eq_false_iff.mpr fun held => ?_, Bool.eq_false_iff.mpr fun dropped => ?_⟩
  · exact absurd ((owner.inflight held).2.symm.trans running) (by decide)
  · exact absurd ((owner.discard dropped).symm.trans running) (by decide)

/-- A reset takes the command away from whoever has it. -/
theorem cancelCommand (custody : Custody guarded s) (errorCode : U16) :
    Custody guarded (cancelCommand s errorCode) := by
  have cancelled := custody.cancelBridgeRequest
  unfold Pcie.cancelCommand
  split
  next running =>
    have owes : owed s.bridge s.engine s.checkpoint = true := by simp [owed, running]
    have idle := custody.idle_of_running running
    have same : s.bridge.cancelRequest = s.bridge := if_neg (by simp [idle.1])
    refine (cancelled.cancelEngine.storeCompletion _).reportEngineResult _ true ?_ rfl rfl ?_ nofun ?_
    · show s.bridge.cancelRequest.inflight = false ∧ s.bridge.cancelRequest.discardCompletion = false
      rw [same]
      exact idle
    · exact custody.owner.deadline owes
    · exact fun guard => custody.room guard owes
  · exact cancelled.cancelEngine

end Custody

/-- Nobody has a command. -/
structure Vacant (s : State σ) : Prop where
  inflight : s.bridge.inflight = false
  stopped : s.engine.inflight = false
  hung : s.engine.hung = false
  timer : s.engine.timer = none
  unpaused : s.checkpoint.status = checkpointNone

theorem Vacant.unowed {s : State σ} (vacant : Vacant s) : owed s.bridge s.engine s.checkpoint = false := by
  simp [owed, vacant.inflight, vacant.stopped, vacant.unpaused, checkpointNone, checkpointCqPublish]

theorem vacant_reportDiscarded {s : State σ} (vacant : Vacant s) (completion : Completion) :
    Vacant (reportEngineResult s completion true).2 := by
  unfold reportEngineResult chrWriteAll
  dsimp only
  split_ifs
  · exact { vacant with }
  all_goals exact ⟨rfl, vacant.stopped, vacant.hung, vacant.timer, vacant.unpaused⟩

/-- Whatever was in flight was taken away. -/
theorem vacant_cancelCommand (s : State σ) (errorCode : U16) : Vacant (cancelCommand s errorCode) := by
  have given : s.bridge.cancelRequest.inflight = false := by
    unfold Bridge.cancelRequest
    split
    · rfl
    next idle => simpa using idle
  unfold cancelCommand
  split
  · exact vacant_reportDiscarded ⟨given, rfl, rfl, rfl, rfl⟩ _
  · exact ⟨given, rfl, rfl, rfl, rfl⟩

namespace Custody
variable {guarded : Prop} {s : State σ}

/-- The flags of a vacant endpoint say little about its device and its epoch. -/
theorem vacate {device : Device} {engine : Engine} {checkpoint : Checkpoint} (custody : Custody guarded s)
    (vacant : Vacant s) (busy : hasBits device.status statusEngineBusy = false)
    (stopped : engine.inflight = false ∧ engine.hung = false ∧ engine.timer = none)
    (unpaused : checkpoint.status = checkpointNone) (range : checkpoint.control ≤ checkpointCqPublish) :
    Owner s.bridge engine checkpoint device := by
  have unowed : owed s.bridge engine checkpoint = false := by
    simp [owed, vacant.inflight, stopped.1, unpaused, checkpointNone, checkpointCqPublish]
  exact { custody.owner with
    inflight := fun inflight => absurd (inflight.symm.trans vacant.inflight) (by decide)
    discard := fun _ => stopped.1
    busy := busy.trans stopped.1.symm
    current := fun running => absurd (running.symm.trans stopped.1) (by decide)
    deadline := fun owes => absurd (owes.symm.trans unowed) (by decide)
    hung := fun hung => absurd (hung.symm.trans stopped.2.1) (by decide)
    timer := fun armed => absurd stopped.2.2 armed
    controlRange := range
    statusRange := by rw [unpaused]; decide
    exclusive := .inr unpaused
    start := fun paused => absurd (unpaused.symm.trans paused) (by decide)
    publish := fun paused => absurd (unpaused.symm.trans paused) (by decide)
    paused := fun paused => absurd (unpaused.symm.trans paused) (by decide) }

section
variable (custody : Custody guarded s)
include custody

/-- The cleared rings are empty and disabled. -/
theorem clearQueues (vacant : Vacant s) : Custody guarded (clearQueues s) where
  clock := custody.clock
  owner := by
    refine custody.vacate vacant ?_ ⟨vacant.stopped, vacant.hung, vacant.timer⟩ vacant.unpaused
      custody.owner.controlRange
    exact (hasBits_clearBits _ (by decide)).trans (custody.owner.busy.trans vacant.stopped)
  resetting armed := by
    have resetting := custody.resetting armed
    refine ⟨vacant.unowed, hasBits_cleared _ _, hasBits_zero _, hasBits_zero _, ?_⟩
    exact (hasBits_clearBits _ (by decide)).trans resetting.status
  queues := by
    refine ⟨fun enabled => ?_, fun enabled => ?_, fun enabled => ?_, ⟨absurd rfl, nofun, nofun⟩⟩
    · exact absurd (enabled.symm.trans (hasBits_cleared _ _)) (by decide)
    · exact absurd (enabled.symm.trans (hasBits_zero _)) (by decide)
    · exact absurd (enabled.symm.trans (hasBits_zero _)) (by decide)
  signals := { custody.signals with }
  logged := custody.logged
  room _ owes := absurd (owes.symm.trans vacant.unowed) (by decide)
  geometry guard := by
    have geometry := custody.geometry guard
    have positive (nonzero : s.cq.depth ≠ 0) : 0 < s.cq.depth := by bv_omega
    exact ⟨geometry.valid, positive, positive, fun configured => absurd rfl configured,
      fun _ configured => absurd rfl configured⟩

theorem queueReset : Custody guarded (queueReset s) :=
  ((custody.cancelCommand errQueueReset).clearQueues (vacant_cancelCommand s errQueueReset)).checkInvariants

theorem clearDevice (vacant : Vacant s) : Custody guarded (clearDevice s) where
  clock := custody.clock
  owner := custody.vacate vacant (show hasBits statusResetting statusEngineBusy = false by decide)
    ⟨vacant.stopped, rfl, vacant.timer⟩ rfl (show (0 : U32) ≤ checkpointCqPublish by decide)
  resetting _ := by
    refine ⟨?_, hasBits_zero _, hasBits_zero _, hasBits_zero _, show hasBits statusResetting statusResetting = true by decide⟩
    simp [Pcie.clearDevice, owed, vacant.inflight, vacant.stopped, checkpointNone, checkpointCqPublish]
  queues := ⟨fun enabled => absurd (enabled.symm.trans (hasBits_zero _)) (by decide),
    fun enabled => absurd (enabled.symm.trans (hasBits_zero _)) (by decide),
    fun enabled => absurd (enabled.symm.trans (hasBits_zero _)) (by decide), ⟨absurd rfl, nofun, nofun⟩⟩
  signals := ⟨⟨fun armed => absurd rfl armed, fun counts => absurd rfl counts⟩, fun armed => absurd rfl armed,
    show clearBits (0 : U32) faultDefined = 0 by decide, custody.signals.clean⟩
  logged := custody.logged
  room _ owes := by
    simp [Pcie.clearDevice, owed, vacant.inflight, vacant.stopped, checkpointNone, checkpointCqPublish] at owes
  geometry _ := ⟨fun nonzero => absurd rfl nonzero, fun nonzero => absurd rfl nonzero,
    fun nonzero => absurd rfl nonzero, fun configured => absurd rfl configured, fun nonzero => absurd rfl nonzero⟩

theorem deviceReset : Custody guarded (deviceReset s) := by
  unfold Pcie.deviceReset
  split
  · exact custody.setError _
  · exact ((custody.cancelCommand errReset).clearDevice (vacant_cancelCommand s errReset)).checkInvariants

theorem startEngine (handover : Handover guarded s)
    (deadline : InTime s.engine.commandDeadlineNs) (forceTimeout hung : Bool) :
    Custody guarded (startEngine s forceTimeout hung) := by
  have owner := custody.owner
  have untimed : s.engine.timer = none := by
    by_contra armed
    exact absurd ((owner.timer armed).1.symm.trans handover.stopped) (by decide)
  have unpaused (paused : U32) (reached : paused ≠ checkpointNone) : s.checkpoint.status ≠ paused :=
    fun status => reached (status.symm.trans handover.unpaused)
  have finish : 0 < s.clockNs + engineExecutionNs ∧ s.clockNs + engineExecutionNs < timeLimitNs := by
    have clock := custody.clock
    unfold clockLimitNs timeLimitNs at clock
    unfold timeLimitNs engineExecutionNs nanosecondsPerMillisecond
    omega
  refine { custody with owner := ?_, resetting := ?_, queues := { custody.queues with }, logged := ?_, room := ?_ }
  · exact { owner with
      inflight := fun held => absurd (held.symm.trans handover.inflight) (by decide)
      discard := fun dropped => absurd (dropped.symm.trans handover.kept) (by decide)
      busy := hasBits_set _ (by decide)
      current := by
        refine fun _ => ⟨rfl, rfl, ?_⟩
        unfold Pcie.startEngine
        dsimp only
        split
        · exact ⟨Nat.succ_pos _, deadline.2⟩
        · exact finish
      deadline := fun _ => deadline
      hung := fun _ => rfl
      timer := fun armed => absurd untimed armed
      start := fun status => absurd status (unpaused _ (by decide))
      publish := fun status => absurd status (unpaused _ (by decide))
      paused := fun _ => ⟨rfl, rfl⟩ }
  · exact fun armed => absurd handover.free armed
  · intro guard event member
    rcases List.mem_cons.mp member with rfl | before
    · trivial
    · exact custody.logged guard event before
  · exact fun guard _ => handover.room guard

/-- The paused engine waits without a timer. -/
theorem pauseStart (running : s.engine.inflight = true) (runs : s.engine.hung = false)
    (untimed : s.engine.timer = none) :
    Custody guarded (s.setCheckpoint ⟨checkpointNone, checkpointEngineStart⟩) := by
  have owes : owed s.bridge s.engine s.checkpoint = true := by simp [owed, running]
  refine { custody with owner := ?_, resetting := ?_, room := fun guard _ => custody.room guard owes }
  · exact { custody.owner with
      deadline := fun _ => custody.owner.deadline owes
      timer := fun armed => absurd untimed armed
      controlRange := show checkpointNone ≤ checkpointCqPublish by decide
      statusRange := show checkpointEngineStart ≤ checkpointCqPublish by decide
      exclusive := .inl rfl
      start := fun _ => ⟨running, runs⟩
      publish := fun paused => absurd paused (show checkpointEngineStart ≠ checkpointCqPublish by decide)
      paused := fun paused => absurd paused (show checkpointEngineStart ≠ checkpointCqPublish by decide) }
  · exact fun armed => absurd (owes.symm.trans (custody.resetting armed).free) (by decide)

/-- The finished command waits for its release, and its completion stays owed. -/
theorem pausePublish (handover : Handover guarded s)
    (deadline : InTime s.engine.commandDeadlineNs)
    (current : s.engine.generation = s.device.resetGeneration ∧ s.engine.activeEpoch = s.engine.epoch) :
    Custody guarded (s.setCheckpoint ⟨checkpointNone, checkpointCqPublish⟩) := by
  refine { custody with
    owner := ?_
    resetting := fun armed => absurd handover.free armed
    room := fun guard _ => handover.room guard }
  exact { custody.owner with
    deadline := fun _ => deadline
    timer := fun armed => absurd ((custody.owner.timer armed).1.symm.trans handover.stopped) (by decide)
    controlRange := show checkpointNone ≤ checkpointCqPublish by decide
    statusRange := show checkpointCqPublish ≤ checkpointCqPublish by decide
    exclusive := .inl rfl
    start := fun paused => absurd paused (show checkpointCqPublish ≠ checkpointEngineStart by decide)
    publish := fun _ => ⟨handover.inflight, handover.kept, handover.stopped⟩
    paused := fun _ => current }

theorem armEngine (running : s.engine.inflight = true) (runs : s.engine.hung = false)
    (unpaused : s.checkpoint.status = checkpointNone) : Custody guarded (armEngine s) :=
  { custody with owner := { custody.owner with timer := fun _ => ⟨running, runs, unpaused⟩ } }

theorem armUnlessPaused (running : s.engine.inflight = true)
    (unpaused : s.checkpoint.status = checkpointNone) (untimed : s.engine.timer = none) :
    Custody guarded (armUnlessPaused s) := by
  unfold Pcie.armUnlessPaused
  split
  · exact custody
  next hung =>
    have runs : s.engine.hung = false := by simpa using hung
    unfold checkpointHit
    split
    · exact custody.armEngine running runs unpaused
    · exact custody.pauseStart running runs untimed

/-- The engine takes the command, and an injected reset may take it away again. -/
theorem scheduleEngine (handover : Handover guarded s)
    (deadline : InTime s.engine.commandDeadlineNs) (payload : isPayloadOpcode s.bridge.submission.opcode = true) :
    Custody guarded (scheduleEngine s) := by
  have untimed : s.engine.timer = none := by
    by_contra armed
    exact absurd ((custody.owner.timer armed).1.symm.trans handover.stopped) (by decide)
  have checked := (custody.require .scheduleIdle (!s.engine.inflight) (.inl (by simp [handover.stopped]))).require
    .schedulePayload (isPayloadOpcode s.bridge.submission.opcode) (.inl payload)
  have injected := (checked.faultTrigger (by decide : faultDmaTimeout ≠ 0)).faultTrigger
    (by decide : faultEngineHang ≠ 0)
  have started (forceTimeout hung : Bool) :=
    (injected.startEngine { handover with } deadline forceTimeout hung).armUnlessPaused rfl handover.unpaused untimed
  unfold Pcie.scheduleEngine
  dsimp only
  have reset (forceTimeout hung : Bool) :=
    (started forceTimeout hung).checkInvariants.faultTrigger (by decide : faultResetActive ≠ 0)
  split
  · exact (reset _ _).queueReset
  · exact reset _ _

end

end Custody

/-- What happened between the two states left the command and the device alone. -/
structure SameCommand (before after : State σ) : Prop where
  bridge : after.bridge = before.bridge
  engine : after.engine = before.engine
  checkpoint : after.checkpoint = before.checkpoint
  device : after.device = before.device

theorem SameCommand.setSignals {s t : State σ} (same : SameCommand s t) (signals : Signals) :
    SameCommand s (t.setSignals signals) := { same with }

theorem SameCommand.setCq {s t : State σ} (same : SameCommand s t) (cq : CompletionQueue) :
    SameCommand s (t.setCq cq) := { same with }

theorem SameCommand.record {s t : State σ} (same : SameCommand s t) (event : CommandEvent) :
    SameCommand s (t.record event) := { same with }

theorem SameCommand.dmaWrite {s t : State σ} (same : SameCommand s t) (host : Host σ) (address : U64)
    (bytes : List U8) : SameCommand s (dmaWrite host t address bytes).2 := { same with }

theorem sameCommand_publishCompletion (host : Host σ) (s : State σ) (completion : Completion) :
    SameCommand s (publishCompletion host s completion).2 := by
  have checked : SameCommand s (require (checkInvariants s) .publishRoom (!s.cq.full)) := ⟨rfl, rfl, rfl, rfl⟩
  have written := checked.dmaWrite host
    (s.cq.base + s.cq.tail.setWidth 64 * BitVec.ofNat 64 completionSize) completion.toBytes
  unfold publishCompletion
  dsimp only
  split_ifs
  · exact (((written.record _).setCq _).setSignals _).setSignals _
  · exact ((written.record _).setCq _).setSignals _

/-- The bus accesses of the engine leave the completion queue alone too. -/
structure OnlyBuses (before after : State σ) : Prop extends SameCommand before after where
  cq : after.cq = before.cq

theorem OnlyBuses.busStable (host : Host σ) (before : State σ) : BusStable host (OnlyBuses before) where
  fault _ _ _ same := { same with }
  read _ _ _ same := { same with }
  write _ _ _ same := { same with }
  allocate _ _ same := { same with }

/-- The timer has fired, so finishing the engine stops it. -/
theorem finishEngine_eq_stopEngine {s : State σ} (untimed : s.engine.timer = none)
    (unpaused : s.checkpoint.status = checkpointNone) : finishEngine s = stopEngine s := by
  obtain ⟨device, signals, sq, cq, bridge, ⟨_, _, _, _, _, _, _, _, _⟩, ⟨_, _⟩, link, clockNs, busMaster, memory,
    history⟩ := s
  obtain rfl := untimed
  obtain rfl := unpaused
  rfl

namespace Custody
variable {guarded : Prop} {s : State σ}

theorem finishPayload (custody : Custody guarded s) (host : Host σ) : Custody guarded (finishPayload host s) := by
  have executed := (busStable host).executePayload custody s.bridge.submission s.bridge.completion
  unfold Pcie.finishPayload
  split
  · exact (custody.storeCompletion _).markEngineError _
  · exact (executed.storeCompletion _).markEngineError _

/-- A finished payload can still be handed over. -/
theorem handover_finishPayload (handover : Handover guarded s) (deadline : InTime s.engine.commandDeadlineNs)
    (host : Host σ) : Handover guarded (Pcie.finishPayload host s) ∧
      InTime (Pcie.finishPayload host s).engine.commandDeadlineNs := by
  have same := (OnlyBuses.busStable host s).executePayload ⟨⟨rfl, rfl, rfl, rfl⟩, rfl⟩ s.bridge.submission
    s.bridge.completion
  unfold Pcie.finishPayload
  split
  · exact ⟨{ handover with }, deadline⟩
  · refine ⟨?_, (congrArg Engine.commandDeadlineNs same.engine).symm ▸ deadline⟩
    exact {
      inflight := (congrArg Bridge.inflight same.bridge).trans handover.inflight
      kept := (congrArg Bridge.discardCompletion same.bridge).trans handover.kept
      stopped := (congrArg Engine.inflight same.engine).trans handover.stopped
      unpaused := (congrArg Checkpoint.status same.checkpoint).trans handover.unpaused
      free := (congrArg Device.resetTimer same.device).trans handover.free
      room := fun guard => same.cq.symm ▸ handover.room guard }

/-- The finished command leaves the engine. -/
theorem handover_finishEngine (custody : Custody guarded s) (running : s.engine.inflight = true)
    (unpaused : s.checkpoint.status = checkpointNone) : Handover guarded (finishEngine s) := by
  have owes : owed s.bridge s.engine s.checkpoint = true := by simp [owed, running]
  have idle := custody.idle_of_running running
  have free : s.device.resetTimer = none := by
    by_contra armed
    exact absurd (owes.symm.trans (custody.resetting armed).free) (by decide)
  exact ⟨idle.1, idle.2, rfl, unpaused, free, fun guard => custody.room guard owes⟩

theorem engineComplete (custody : Custody guarded s) (host : Host σ) (running : s.engine.inflight = true)
    (untimed : s.engine.timer = none) (unpaused : s.checkpoint.status = checkpointNone) :
    Custody guarded (engineComplete host s) := by
  have checked := custody.checkInvariants.require .completeRunning s.engine.inflight (.inl running)
  have idle := checked.stopEngine
  rw [← finishEngine_eq_stopEngine (by exact untimed) (by exact unpaused)] at idle
  have finished := idle.checkInvariants.finishPayload host
  obtain ⟨handover, deadline⟩ := handover_finishPayload (s := Pcie.checkInvariants (Pcie.finishEngine
    (Pcie.require (Pcie.checkInvariants s) .completeRunning s.engine.inflight)))
    { checked.handover_finishEngine running unpaused with } (custody.owner.deadline (by simp [owed, running])) host
  unfold Pcie.engineComplete Pcie.checkpointHit
  dsimp only
  split
  · exact idle.checkInvariants
  · split
    · exact finished
    next current =>
      rw [not_or, not_not, not_not] at current
      split
      · exact finished.handEngineResult host _ handover deadline
      · exact (finished.pausePublish handover deadline current).checkInvariants

end Custody

/-- A timeout has 32 bits, so the clock leaves room for it. -/
theorem inTime_commandDeadlineNs {s : State σ} (clock : s.clockNs < clockLimitNs) (submission : Submission) :
    InTime (commandDeadlineNs s submission) := by
  have inTime (timeoutMs : U32) (positive : 0 < timeoutMs.toNat) :
      InTime (s.clockNs + timeoutMs.toNat * nanosecondsPerMillisecond) := by
    have small := timeoutMs.isLt
    unfold clockLimitNs timeLimitNs at clock
    unfold InTime timeLimitNs nanosecondsPerMillisecond
    omega
  unfold commandDeadlineNs
  dsimp only
  split
  · exact inTime _ (by decide)
  · exact inTime _ (by bv_omega)

theorem deadline_hold (s : State σ) (submission : Submission) {deadline : Nat} (inTime : InTime deadline) :
    InTime ({ s with
      bridge := { s.bridge with submission }
      engine := { s.engine with commandDeadlineNs := deadline } } : State σ).engine.commandDeadlineNs := inTime

theorem Handover.hold {guarded : Prop} {s : State σ} (handover : Handover guarded s) (submission : Submission)
    (deadline : Nat) : Handover guarded { s with
      bridge := { s.bridge with submission }
      engine := { s.engine with commandDeadlineNs := deadline } } := { handover with }

theorem deadline_holdSubmission {s : State σ} (clock : s.clockNs < clockLimitNs) (submission : Submission) :
    InTime (holdSubmission s submission).engine.commandDeadlineNs :=
  deadline_hold s submission (inTime_commandDeadlineNs clock submission)

@[simp] theorem sq_chrWriteAll (s : State σ) (kind : FrameKind) (bytes : List U8) :
    (chrWriteAll s kind bytes).2.sq = s.sq := by
  unfold chrWriteAll
  split <;> rfl

/-- The device may fetch: it is enabled, and no command pauses at a checkpoint. -/
structure Fetching (s : State σ) : Prop where
  enabled : hasBits s.device.control controlEnable = true
  unpaused : s.checkpoint.status = checkpointNone

/-- The loop goes on only after it published a completion itself. -/
theorem fetching_fetchSubmission {s : State σ} (fetching : Fetching s) (host : Host σ)
    (continues : (fetchSubmission host s).1 = true) : Fetching (fetchSubmission host s).2 := by
  unfold fetchSubmission at continues ⊢
  dsimp only at continues ⊢
  split at continues
  · exact absurd continues Bool.false_ne_true
  next bytes read =>
    unfold dispatchStandalone at continues ⊢
    dsimp only at continues ⊢
    split_ifs at continues ⊢
    have same (t : State σ) (completion : Completion) := sameCommand_publishCompletion host t completion
    constructor
    · rw [(same _ _).device]
      exact fetching.enabled
    · rw [(same _ _).checkpoint]
      exact fetching.unpaused

namespace Custody
variable {guarded : Prop} {s : State σ}

section
variable (custody : Custody guarded s)
include custody

theorem setSq (sq : SubmissionQueue) (control : sq.control = s.sq.control)
    (depth : hasBits sq.control queueEnable = true → validDepth sq.depth = true) :
    Custody guarded (s.setSq sq) := by
  have queues := custody.queues
  refine { custody with resetting := ?_, queues := ⟨?_, depth, queues.depth, queues.throttling⟩ }
  · intro armed
    have resetting := custody.resetting armed
    exact { resetting with sq := by rw [State.setSq_sq, control]; exact resetting.sq }
  · rw [State.setSq_sq, control]
    exact queues.enabled

/-- The fetch loop takes a descriptor only when nobody has a command and the completion has a place. -/
theorem handover_of_ready (fetching : Fetching s) (ready : sqReady s = true) :
    Handover guarded s := by
  simp only [sqReady, Bool.and_eq_true, Bool.not_eq_true'] at ready
  obtain ⟨⟨⟨⟨⟨-, notFull⟩, -⟩, inflight⟩, kept⟩, stopped⟩ := ready
  refine ⟨inflight, kept, stopped, fetching.unpaused, ?_, fun _ => ?_⟩
  · by_contra armed
    exact absurd ((custody.resetting armed).stopped.symm.trans fetching.enabled) (by decide)
  · exact ⟨(custody.queues.enabled fetching.enabled).2, notFull⟩

theorem countFetch (submission : Submission) :
    Custody guarded (countFetch s submission) := by
  refine { custody with logged := ?_ }
  intro guard event member
  rcases List.mem_cons.mp member with rfl | before
  · trivial
  · exact custody.logged guard event before

/-- The deadline is arbitrary here, so that its arithmetic never has to be evaluated. -/
theorem hold (submission : Submission) {deadline : Nat} (inTime : InTime deadline) :
    Custody guarded { s with
      bridge := { s.bridge with submission }
      engine := { s.engine with commandDeadlineNs := deadline } } :=
  { custody with owner := { custody.owner with deadline := fun _ => inTime } }

theorem holdSubmission (submission : Submission) :
    Custody guarded (holdSubmission s submission) :=
  custody.hold submission (inTime_commandDeadlineNs custody.clock submission)

/-- The firmware gets the descriptor, and its completion is owed from then on. -/
theorem awaitAuthorization (handover : Handover guarded s)
    (deadline : InTime s.engine.commandDeadlineNs) : Custody guarded (s.setBridge s.bridge.awaitAuthorization) := by
  refine { custody with
    owner := ?_
    resetting := fun armed => absurd handover.free armed
    room := fun guard _ => handover.room guard }
  exact { custody.owner with
    inflight := fun _ => ⟨handover.kept, handover.stopped⟩
    final := nofun
    deadline := fun _ => deadline
    publish := fun paused => absurd (handover.unpaused.symm.trans paused) (by decide) }

/-- A broken bridge leaves the descriptor with nobody. -/
theorem refuseAuthorization (handover : Handover guarded s)
    (deadline : InTime s.engine.commandDeadlineNs) :
    Custody guarded (s.setBridge { s.bridge.awaitAuthorization with inflight := false }) := by
  refine { custody with
    owner := ?_
    resetting := fun armed => absurd handover.free armed
    room := fun guard _ => handover.room guard }
  exact { custody.owner with
    inflight := nofun
    final := nofun
    deadline := fun _ => deadline
    publish := fun paused => absurd (handover.unpaused.symm.trans paused) (by decide) }

theorem forwardSubmission (submission : Submission) (handover : Handover guarded s) :
    Custody guarded (forwardSubmission s submission) := by
  have held := custody.holdSubmission submission
  have inTime := deadline_holdSubmission custody.clock submission
  have handed : Handover guarded (Pcie.holdSubmission s submission) := handover.hold submission _
  unfold Pcie.forwardSubmission
  dsimp only
  split_ifs with sent
  · refine Custody.checkInvariants (Custody.setSq ?_ s.sq.advance ?_ custody.queues.sqDepth)
    · exact (held.awaitAuthorization handed inTime).chrWriteAll _ _
    · rw [sq_chrWriteAll]
      rfl
  · rw [chrWriteAll_refused sent]
    exact ((held.refuseAuthorization handed inTime).setSq s.sq.markError rfl custody.queues.sqDepth).setError _

/-- A standalone endpoint runs the descriptor, or publishes its answer at once. -/
theorem dispatchStandalone (host : Host σ) (submission : Submission)
    (handover : Handover guarded s) : Custody guarded (dispatchStandalone host s submission).2 := by
  have advanced : Custody guarded (s.setSq s.sq.advance) := custody.setSq s.sq.advance rfl custody.queues.sqDepth
  have held := (advanced.holdSubmission submission).storeCompletion (standaloneCompletion s submission)
  have inTime := deadline_holdSubmission custody.clock submission
  have ready : Handover guarded (s.setSq s.sq.advance) := { handover with }
  have handed : Handover guarded (Pcie.holdSubmission (s.setSq s.sq.advance) submission) := ready.hold submission _
  unfold Pcie.dispatchStandalone
  dsimp only
  split
  next accepted => exact held.scheduleEngine { handed with } inTime accepted.2
  · exact advanced.publishCompletion host _ handover.unowed handover.room

/-- The loop takes one descriptor to its owner. -/
theorem fetchSubmission (host : Host σ) (fetching : Fetching s)
    (ready : sqReady s = true) : Custody guarded (fetchSubmission host s).2 := by
  have read := custody.dmaRead host (s.sq.base + s.sq.head.setWidth 64 * BitVec.ofNat 64 submissionSize) submissionSize
  have counted (submission : Submission) := read.countFetch submission
  have handover := custody.handover_of_ready fetching ready
  unfold Pcie.fetchSubmission
  dsimp only
  split
  · exact (read.setSq s.sq.markError rfl custody.queues.sqDepth).setError _
  next bytes _ =>
    split_ifs
    · exact (counted _).forwardSubmission _ { handover with }
    · exact (counted _).dispatchStandalone host _ { handover with }

/-- What one pass keeps, the loop keeps. -/
theorem fetchLoop (host : Host σ) (fetching : Fetching s) (fuel : Nat) :
    Custody guarded (fetchLoop host fuel s) := by
  induction fuel generalizing s with
  | zero => exact custody
  | succ fuel ih =>
      unfold Pcie.fetchLoop
      dsimp only
      split_ifs with ready continues
      · exact ih (custody.fetchSubmission host fetching ready) (fetching_fetchSubmission fetching host continues)
      · exact custody.fetchSubmission host fetching ready
      · exact custody

theorem processSq (host : Host σ) : Custody guarded (processSq host s) := by
  unfold Pcie.processSq
  split
  next may =>
    simp only [mayFetch, Bool.and_eq_true, beq_iff_eq] at may
    exact custody.checkInvariants.fetchLoop host ⟨may.1.1.1, may.2⟩ _
  · exact custody.checkInvariants

end

end Custody
end VamsSoc.Pcie
