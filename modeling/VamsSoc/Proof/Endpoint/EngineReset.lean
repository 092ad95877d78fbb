/-
This file has what an engine reset of the host keeps, what it hands on, and the command that it loses.
-/

import VamsSoc.Proof.Endpoint.Publication
import VamsSoc.Proof.Endpoint.Stages

namespace VamsSoc.Pcie
open Library Abi

variable {σ : Type}

/-- The engine runs a command, or has paused before its result was handed on. -/
def EngineHolds (s : State σ) : Prop := s.engine.inflight = true ∨ s.checkpoint.status = checkpointCqPublish

/-- An engine reset ends with a look for the next descriptor, unless a command was running. -/
def resetBeforeDispatch (host : Host σ) (s : State σ) : State σ :=
  if s.engine.inflight then engineReset host s else checkInvariants (advanceEpoch (stopEngine s))

def CompletionQueue.configuration (queue : CompletionQueue) : U64 × U32 × U32 × U32 × U32 × U32 :=
  (queue.base, queue.baseLo, queue.depth, queue.control, queue.watermarkHigh, queue.watermarkLow)

/-- One result and no other goes to the firmware, or is written to the completion queue. -/
def HandsOn (s next : State σ) (result : Completion) : Prop :=
  next.link.tx = s.link.tx ++ [⟨.engineResult, s.history.fetches, result.toBytes⟩] ∧
      next.history.commands = s.history.commands ∨
    next.link.tx = s.link.tx ∧
      next.history.commands = .publish s.device.resetGeneration s.cq result true :: s.history.commands

/-- The result of a command that was reset, under its own identity. -/
structure ResetResult (submission : Submission) (result : Completion) : Prop where
  status : result.status = statusReset
  errorCode : result.errorCode = errReset
  identity : result.identity = submission.identity

/-- Until another descriptor is fetched, no timer is armed and no checkpoint can be released. -/
def Retired (fetches : Nat) (s : State σ) : Prop :=
  s.history.fetches = fetches → s.engine.timer = none ∧ s.checkpoint.status = checkpointNone

/-- An engine reset keeps the generation and the queues, starts an epoch, and answers the command once for all. -/
structure CleanEngineReset (host : Host σ) (s : State σ) : Prop where
  dispatch : engineReset host s =
    if s.engine.inflight then resetBeforeDispatch host s else processSq host (resetBeforeDispatch host s)
  generation : (resetBeforeDispatch host s).device.resetGeneration = s.device.resetGeneration
  sq : (resetBeforeDispatch host s).sq = s.sq
  cq : (resetBeforeDispatch host s).cq.configuration = s.cq.configuration
  epoch : (resetBeforeDispatch host s).engine.epoch = s.engine.epoch + 1
  answered : EngineHolds s →
    ∃ result, ResetResult s.bridge.submission result ∧ HandsOn s (resetBeforeDispatch host s) result
  retired : EngineHolds s → ∀ events, (step host).Always (Retired s.history.fetches) (engineReset host s) events

/-- The slot that the next completion is written to. -/
def nextSlot (queue : CompletionQueue) : U64 := queue.base + queue.tail.setWidth 64 * BitVec.ofNat 64 completionSize

/-- The command did not pause before its publication, has the identity of its descriptor, and the firmware or the bus
takes its result. -/
def Answerable (host : Host σ) (s : State σ) : Prop :=
  s.checkpoint.status ≠ checkpointCqPublish ∧
    (s.engine.inflight = true →
      s.bridge.completion.identity = s.bridge.submission.identity ∧
        ((s.link.connected && s.link.writable) = true ∨
          (host.write s.memory (nextSlot s.cq) (resetResult s errReset).toBytes).1 = true))

theorem publishCompletion_traces (host : Host σ) (s : State σ) (completion : Completion) :
    (publishCompletion host s completion).2.link = s.link ∧
      (publishCompletion host s completion).2.history.commands = .publish s.device.resetGeneration s.cq completion
        (host.write s.memory (nextSlot s.cq) completion.toBytes).1 :: s.history.commands ∧
      (publishCompletion host s completion).2.history.fetches = s.history.fetches := by
  unfold publishCompletion
  dsimp only
  split <;> simp only [checkInvariants, raiseInterrupt, setError, require, dmaWrite, State.record, State.recordAccess,
    State.setSignals, State.setCq, State.setMemory, State.setHistory, nextSlot, and_self]

/-- A result that is handed on shows in one place. -/
theorem handEngineResult_traces (host : Host σ) (s : State σ) (completion : Completion) :
    ((handEngineResult host s completion).2.link.tx, (handEngineResult host s completion).2.history.commands) =
      if s.link.connected && s.link.writable then
        (s.link.tx ++ [⟨.engineResult, s.history.fetches, completion.toBytes⟩], s.history.commands)
      else
        (s.link.tx, .publish s.device.resetGeneration s.cq completion
          (host.write s.memory (nextSlot s.cq) completion.toBytes).1 :: s.history.commands) := by
  have reported := reportEngineResult_eq s completion
  unfold handEngineResult
  dsimp only
  by_cases takes : (s.link.connected && s.link.writable) = true
  · rw [if_pos takes] at reported ⊢
    obtain ⟨signals, same⟩ := reported
    rw [same, if_pos rfl]
  · rw [if_neg takes] at reported ⊢
    obtain ⟨signals, bridge, -, same⟩ := reported
    obtain ⟨link, commands, -⟩ := publishCompletion_traces host { s with signals, bridge } completion
    rw [same, if_neg Bool.false_ne_true, link, commands]

/-- The device, the queue configurations, and the engine are no part of what is handed on. -/
structure Untouched (s next : State σ) : Prop where
  device : next.device = s.device
  sq : next.sq = s.sq
  cq : next.cq.configuration = s.cq.configuration
  engine : next.engine = s.engine
  fetches : next.history.fetches = s.history.fetches

theorem Untouched.setSignals {s t : State σ} (same : Untouched s t) (signals : Signals) :
    Untouched s (t.setSignals signals) := { same with }

theorem Untouched.record {s t : State σ} (same : Untouched s t) (event : CommandEvent) : Untouched s (t.record event) :=
  { same with }

theorem Untouched.setCq {s t : State σ} (same : Untouched s t) {cq : CompletionQueue}
    (kept : cq.configuration = s.cq.configuration) : Untouched s (t.setCq cq) := { same with cq := kept }

theorem configuration_updateBackpressure (queue : CompletionQueue) :
    queue.updateBackpressure.configuration = queue.configuration := by
  unfold CompletionQueue.updateBackpressure
  dsimp only
  split_ifs <;> rfl

theorem untouched_publishCompletion (host : Host σ) (s : State σ) (completion : Completion) :
    Untouched s (publishCompletion host s completion).2 := by
  have written : Untouched s ((dmaWrite host (require (checkInvariants s) .publishRoom (!s.cq.full)) (nextSlot s.cq)
      completion.toBytes).2) := ⟨rfl, rfl, rfl, rfl, rfl⟩
  unfold publishCompletion
  dsimp only
  split
  · exact (((written.record _).setCq (configuration_updateBackpressure s.cq.advance)).setSignals _).setSignals _
  · exact ((written.record _).setCq (show s.cq.markError.configuration = _ from rfl)).setSignals _

theorem untouched_reportEngineResult (s : State σ) (completion : Completion) :
    Untouched s (reportEngineResult s completion false).2 := by
  have reported := reportEngineResult_eq s completion
  split_ifs at reported
  · obtain ⟨signals, same⟩ := reported
    rw [same]
    exact ⟨rfl, rfl, rfl, rfl, rfl⟩
  · obtain ⟨signals, bridge, -, same⟩ := reported
    rw [same]
    exact ⟨rfl, rfl, rfl, rfl, rfl⟩

theorem untouched_handEngineResult (host : Host σ) (s : State σ) (completion : Completion) :
    Untouched s (handEngineResult host s completion).2 := by
  have reported := untouched_reportEngineResult s completion
  have published := untouched_publishCompletion host (reportEngineResult s completion false).2 completion
  unfold handEngineResult
  dsimp only
  split
  · exact reported
  · exact ⟨published.device.trans reported.device, published.sq.trans reported.sq, published.cq.trans reported.cq,
      published.engine.trans reported.engine, published.fetches.trans reported.fetches⟩

theorem resetBeforeDispatch_traces {s : State σ} (running : s.engine.inflight = true) (host : Host σ) :
    ((resetBeforeDispatch host s).link.tx, (resetBeforeDispatch host s).history.commands) =
      if s.link.connected && s.link.writable then
        (s.link.tx ++ [⟨.engineResult, s.history.fetches, (resetResult s errReset).toBytes⟩], s.history.commands)
      else
        (s.link.tx, .publish s.device.resetGeneration s.cq (resetResult s errReset)
          (host.write s.memory (nextSlot s.cq) (resetResult s errReset).toBytes).1 :: s.history.commands) := by
  have traces := handEngineResult_traces host (storeCompletion (advanceEpoch (stopEngine s)) (resetResult s errReset))
    (resetResult s errReset)
  unfold resetBeforeDispatch engineReset
  dsimp only
  rw [if_pos running, if_pos running]
  split <;> exact traces

/-- The reset keeps the generation and the queues and starts an epoch, whether or not a command was running. -/
theorem untouched_resetBeforeDispatch (host : Host σ) (s : State σ) :
    Untouched (advanceEpoch (stopEngine s)) (resetBeforeDispatch host s) := by
  have handed := untouched_handEngineResult host (storeCompletion (advanceEpoch (stopEngine s)) (resetResult s errReset))
    (resetResult s errReset)
  unfold resetBeforeDispatch engineReset
  dsimp only
  split
  · split <;> exact { handed with }
  · exact ⟨rfl, rfl, rfl, rfl, rfl⟩

theorem engineReset_dispatch (host : Host σ) (s : State σ) : engineReset host s =
    if s.engine.inflight then resetBeforeDispatch host s else processSq host (resetBeforeDispatch host s) := by
  unfold resetBeforeDispatch engineReset
  dsimp only
  split <;> rfl

/-- A command with one stage left runs in no engine and pauses at no checkpoint. -/
theorem Owner.rests {s : State σ} (owner : Owner s.bridge s.engine s.checkpoint s.device) (few : stages s ≤ 1) :
    s.engine.timer = none ∧ s.checkpoint.status = checkpointNone := by
  have idle : s.engine.inflight = false ∧ s.checkpoint.status ≠ checkpointCqPublish := by
    unfold stages stagesLeft at few
    split_ifs at few with inflight final busy
    · refine ⟨(owner.inflight inflight).2, fun paused => ?_⟩
      exact absurd (inflight.symm.trans (owner.publish paused).1) (by decide)
    · omega
    · omega
    · simpa using busy
  constructor
  · by_contra armed
    exact absurd (idle.1.symm.trans (owner.timer armed).1) (by decide)
  · by_contra reached
    by_cases atStart : s.checkpoint.status = checkpointEngineStart
    · exact absurd (idle.1.symm.trans (owner.start atStart).1) (by decide)
    · exact idle.2 (owner.at_publish reached atStart)

/-- The descriptor of that number is not executed any more, unless a later one was fetched. -/
def Executed (fetches : Nat) (left : Nat) (s : State σ) : Prop :=
  fetches ≤ s.history.fetches ∧ (s.history.fetches = fetches → left ≤ 1)

theorem executed_metered (host : Host σ) (origin : State σ) (fetches : Nat) :
    Metered host origin (Executed fetches) where
  fewer s j k fewer executed := ⟨executed.1, fun same => Nat.le_trans fewer (executed.2 same)⟩
  beside s next k beside executed := by
    unfold Executed
    rw [beside.fetches]
    exact executed
  fetched s submission _ executed := by
    have later : fetches < (countFetch s submission).history.fetches := Nat.lt_succ_of_le executed.1
    exact ⟨Nat.le_of_lt later, fun same => absurd same (Nat.ne_of_gt later)⟩
  published s completion k _ executed := by
    unfold Executed
    rw [(publishCompletion_traces host s completion).2.2]
    exact ⟨executed.1, fun _ => Nat.zero_le 1⟩
  marked _ _ executed := executed
  configured _ _ _ _ _ executed := executed
  enabled _ _ _ _ executed := executed
  clearQueues _ executed := executed
  clearDevice _ executed := executed

theorem executed_consumed {fetches left : Nat} {s : State σ} (executed : Executed fetches left s) (event : Event) :
    Executed fetches left (consumed s event) := by
  unfold consumed
  split <;> exact executed

/-- A reset takes the command from the engine. -/
theorem executed_engineReset {s : State σ} (owner : Owner s.bridge s.engine s.checkpoint s.device) (holds : EngineHolds s)
    (host : Host σ) : Executed s.history.fetches (stages (engineReset host s)) (engineReset host s) := by
  have metered := executed_metered host s s.history.fetches
  have free : s.bridge.inflight = false := holds.elim owner.free_of_running fun paused => (owner.publish paused).1
  have still (t : State σ) (bridge : t.bridge.inflight = s.bridge.inflight) (engine : t.engine.inflight = false)
      (checkpoint : t.checkpoint.status = checkpointNone) : stages t = 0 :=
    stages_eq_zero (bridge.trans free) engine (by rw [checkpoint]; decide)
  unfold engineReset
  dsimp only
  split
  · have stopped : Executed s.history.fetches 1 (storeCompletion (advanceEpoch (stopEngine s)) (resetResult s errReset)) :=
      ⟨Nat.le_refl _, fun _ => Nat.le_refl 1⟩
    have handed := metered.handEngineResult stopped Nat.one_pos (still _ rfl rfl rfl) (resetResult s errReset)
    split <;> exact handed
  · apply metered.processSq
    have idle : stages (checkInvariants (advanceEpoch (stopEngine s))) = 0 := still _ rfl rfl rfl
    exact ⟨Nat.le_refl _, fun _ => idle ▸ Nat.zero_le 1⟩

theorem retired_engineReset {s : State σ} (custody : Custody False s) (holds : EngineHolds s) (host : Host σ)
    (events : List Event) : (step host).Always (Retired s.history.fetches) (engineReset host s) events := by
  have kept (u : State σ) (event : Event) (next : State σ)
      (holds : Custody False u ∧ Executed s.history.fetches (stages u) u) (stepped : step host u event = some next) :
      Custody False next ∧ Executed s.history.fetches (stages next) next := by
    refine ⟨holds.1.step host event nofun stepped, ?_⟩
    exact (executed_metered host u _).step holds.1 (executed_consumed holds.2 event) stepped
  have start := And.intro (custody.engineReset host) (executed_engineReset custody.owner holds host)
  refine (EventMachine.always_of_step kept start events).mono fun u both same => ?_
  exact both.1.owner.rests (both.2.2 same)

theorem resetResult_of_identity {s : State σ} (named : s.bridge.completion.identity = s.bridge.submission.identity) :
    ResetResult s.bridge.submission (resetResult s errReset) :=
  ⟨rfl, rfl, named⟩

/-- The result that was handed on is the reset result of the command, so its identity and its write are known. -/
theorem answerable_of_handsOn {s : State σ} (running : s.engine.inflight = true) {host : Host σ} {result : Completion}
    (reset : ResetResult s.bridge.submission result) (handed : HandsOn s (resetBeforeDispatch host s) result) :
    s.bridge.completion.identity = s.bridge.submission.identity ∧
      ((s.link.connected && s.link.writable) = true ∨
        (host.write s.memory (nextSlot s.cq) (resetResult s errReset).toBytes).1 = true) := by
  have traces := resetBeforeDispatch_traces running host
  have named (same : resetResult s errReset = result) : s.bridge.completion.identity = s.bridge.submission.identity := by
    rw [← reset.identity, ← same]
    rfl
  split_ifs at traces with takes
  · obtain ⟨tx, commands⟩ := Prod.mk.inj traces
    rcases handed with ⟨sent, -⟩ | ⟨-, published⟩
    · have frame := List.append_cancel_left (tx.symm.trans sent)
      have bytes := congrArg Completion.ofBytes (Frame.mk.inj (List.singleton_inj.mp frame)).2.2
      rw [Completion.ofBytes_toBytes, Completion.ofBytes_toBytes] at bytes
      exact ⟨named bytes, .inl takes⟩
    · exact absurd (commands.symm.trans published) (List.cons_ne_self _ _).symm
  · obtain ⟨tx, commands⟩ := Prod.mk.inj traces
    rcases handed with ⟨sent, -⟩ | ⟨-, published⟩
    · exact absurd (tx.symm.trans sent) (by simp)
    · obtain ⟨event, -⟩ := List.cons.inj (commands.symm.trans published)
      obtain ⟨-, -, same, written⟩ := CommandEvent.publish.inj event
      exact ⟨named same, .inr written⟩

theorem handsOn_of_answerable {s : State σ} (running : s.engine.inflight = true) {host : Host σ}
    (takes : (s.link.connected && s.link.writable) = true ∨
      (host.write s.memory (nextSlot s.cq) (resetResult s errReset).toBytes).1 = true) :
    HandsOn s (resetBeforeDispatch host s) (resetResult s errReset) := by
  have traces := resetBeforeDispatch_traces running host
  split_ifs at traces with sends
  · exact .inl (Prod.mk.inj traces)
  · have written := takes.resolve_left sends
    rw [written] at traces
    exact .inr (Prod.mk.inj traces)

/-- The reset forgets a command that paused before its publication. -/
theorem lost_of_paused {s : State σ} (custody : Custody False s) (paused : s.checkpoint.status = checkpointCqPublish)
    (host : Host σ) (result : Completion) : ¬HandsOn s (resetBeforeDispatch host s) result := by
  have idle : resetBeforeDispatch host s = checkInvariants (advanceEpoch (stopEngine s)) :=
    if_neg (by simp [(custody.owner.publish paused).2.2])
  rw [idle]
  rintro (⟨sent, -⟩ | ⟨-, published⟩)
  · exact absurd sent (by simp [checkInvariants, advanceEpoch, stopEngine])
  · exact absurd published (List.cons_ne_self _ _).symm

/-- In every run of the endpoint, an engine reset is clean exactly when the command can be answered. -/
theorem cleanEngineReset_iff_answerable (host : Host σ) (debugEnabled connected : Bool) (memory : σ)
    (events : List Event) (s : State σ)
    (reached : (step host).run (powerOn debugEnabled connected memory) events = some s) :
    CleanEngineReset host s ↔ Answerable host s := by
  have custody := custody_of_run host debugEnabled connected memory reached
  have untouched := untouched_resetBeforeDispatch host s
  constructor
  · intro clean
    constructor
    · intro paused
      obtain ⟨result, -, handed⟩ := clean.answered (.inr paused)
      exact lost_of_paused custody paused host result handed
    · intro running
      obtain ⟨result, reset, handed⟩ := clean.answered (.inl running)
      exact answerable_of_handsOn running reset handed
  · rintro ⟨unpaused, answerable⟩
    have runs (holds : EngineHolds s) : s.engine.inflight = true := holds.resolve_right unpaused
    exact {
      dispatch := engineReset_dispatch host s
      generation := by rw [untouched.device]; rfl
      sq := untouched.sq
      cq := untouched.cq
      epoch := by rw [untouched.engine]; rfl
      answered := fun holds => ⟨resetResult s errReset, resetResult_of_identity (answerable (runs holds)).1,
        handsOn_of_answerable (runs holds) (answerable (runs holds)).2⟩
      retired := fun holds events => retired_engineReset custody holds host events }

instance (host : Host σ) (s : State σ) : Decidable (Answerable host s) :=
  inferInstanceAs (Decidable (_ ∧ (_ → _ ∧ (_ ∨ _))))

/-- A checksum of four bytes. -/
def checksumDescriptor : Submission where
  version := descVersion1
  opcode := opCrc32
  commandId := 7
  sourceDma := 0x4000
  length := 4
  userCookie := 9

def checksumHost : Host Unit := ringHost checksumDescriptor checksumDescriptor

/-- The engine of an endpoint without firmware runs the command. -/
def checksumRunning : List Event := enableQueues 16 1

/-- The command pauses after its execution. -/
def checksumPaused : List Event :=
  Register.checkpointControl.write checkpointCqPublish :: checksumRunning ++ [.tick engineExecutionNs, .engineTimer]

/-- The reset of a running command is clean. -/
theorem checksum_reset_answered :
    ∃ s, (step checksumHost).run (powerOn true false ()) checksumRunning = some s ∧ s.engine.inflight = true ∧
      CleanEngineReset checksumHost s := by
  have reached : ((step checksumHost).run (powerOn true false ()) checksumRunning).map
      (fun s => (s.engine.inflight, decide (Answerable checksumHost s))) = some (true, true) := by decide +kernel
  obtain ⟨s, ran, seen⟩ := Option.map_eq_some_iff.mp reached
  obtain ⟨running, answerable⟩ := Prod.mk.inj seen
  refine ⟨s, ran, running, ?_⟩
  exact (cleanEngineReset_iff_answerable checksumHost true false () _ s ran).mpr (of_decide_eq_true answerable)

/-- The reset of a command that paused before its publication leaves no result at all. -/
theorem paused_command_lost :
    ∃ s, (step checksumHost).run (powerOn true false ()) checksumPaused = some s ∧ EngineHolds s ∧
      (resetBeforeDispatch checksumHost s).link.tx = s.link.tx ∧
      (resetBeforeDispatch checksumHost s).history.commands = s.history.commands ∧
      ¬CleanEngineReset checksumHost s := by
  have reached : ((step checksumHost).run (powerOn true false ()) checksumPaused).map
      (fun s => decide (s.checkpoint.status = checkpointCqPublish)) = some true := by decide +kernel
  obtain ⟨s, ran, seen⟩ := Option.map_eq_some_iff.mp reached
  have paused : s.checkpoint.status = checkpointCqPublish := of_decide_eq_true seen
  have custody := custody_of_run checksumHost true false () ran
  have idle : resetBeforeDispatch checksumHost s = checkInvariants (advanceEpoch (stopEngine s)) :=
    if_neg (by simp [(custody.owner.publish paused).2.2])
  refine ⟨s, ran, .inr paused, by rw [idle]; rfl, by rw [idle]; rfl, fun clean => ?_⟩
  obtain ⟨result, -, handed⟩ := clean.answered (.inr paused)
  exact lost_of_paused custody paused checksumHost result handed

end VamsSoc.Pcie
