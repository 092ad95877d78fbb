/-
This file follows the command in flight through its stages. What survives each part of a step, with so many stages
left, survives the step.
-/

import VamsSoc.Proof.Endpoint.CommandOwnership

namespace VamsSoc.Pcie
open Library Abi

variable {σ : Type}

/-- Every state that a run reaches has at most one owner of the command. -/
theorem custody_of_run (host : Host σ) (debugEnabled connected : Bool) (memory : σ) {events : List Event} {s : State σ}
    (reached : (step host).run (powerOn debugEnabled connected memory) events = some s) : Custody False s := by
  have meets : (step host).Meets (fun _ _ => True) (powerOn debugEnabled connected memory) events :=
    EventMachine.meets_of_forall (fun _ _ _ => trivial) _
  apply EventMachine.run_invariant _ (Custody.powerOn False debugEnabled connected memory) meets reached
  intro state event next custody _ stepped
  exact custody.step host event nofun stepped

/-- A command has its authorization, its execution, and its final answer before it. -/
def stagesLeft (bridge : Bridge) (engine : Engine) (checkpoint : Checkpoint) : Nat :=
  if bridge.inflight then (if bridge.waitingFinal then 1 else 3)
  else if engine.inflight || checkpoint.status == checkpointCqPublish then 2
  else 0

def stages (s : State σ) : Nat := stagesLeft s.bridge s.engine s.checkpoint

/-- The change leaves the completion queue alone, and no descriptor and no completion is recorded. -/
structure Beside (s next : State σ) : Prop where
  cq : next.cq = s.cq
  fetches : next.history.fetches = s.history.fetches
  commands : ∃ started, next.history.commands = started ++ s.history.commands ∧
    ∀ event ∈ started, ∃ submission, event = .engineStarted submission

/-- The property survives each part of a step from the origin, for a command with at most so many stages left. -/
structure Metered (host : Host σ) (origin : State σ) (property : Nat → State σ → Prop) : Prop where
  fewer : ∀ s j k, j ≤ k → property k s → property j s
  beside : ∀ s next k, Beside s next → property k s → property k next
  fetched : ∀ s submission, sqReady s = true → property 0 s → property 3 (countFetch s submission)
  published : ∀ s completion k, 0 < k → property k s → property 0 (publishCompletion host s completion).2
  marked : ∀ s k, property k s → property k (s.setCq s.cq.markError)
  configured : ∀ s cq k, hasBits s.cq.control queueEnable = false → cq.control = s.cq.control → property k s →
    property k (s.setCq cq)
  enabled : ∀ s control k, s.cq = origin.cq → property k s →
    property k (s.setCq (s.cq.enable control).updateBackpressure)
  clearQueues : ∀ s, property 0 s → property 0 (clearQueues s)
  clearDevice : ∀ s, property 0 s → property 0 (clearDevice s)

theorem Beside.of_history {s next : State σ} (cq : next.cq = s.cq) (fetches : next.history.fetches = s.history.fetches)
    (commands : next.history.commands = s.history.commands) : Beside s next :=
  ⟨cq, fetches, [], commands, nofun⟩

theorem Beside.refl (s : State σ) : Beside s s := .of_history rfl rfl rfl

theorem Beside.trans {s t u : State σ} (first : Beside s t) (second : Beside t u) : Beside s u := by
  obtain ⟨early, before, onlyEarly⟩ := first.commands
  obtain ⟨late, after, onlyLate⟩ := second.commands
  refine ⟨second.cq.trans first.cq, second.fetches.trans first.fetches, late ++ early, ?_, ?_⟩
  · rw [after, before, List.append_assoc]
  · intro event listed
    exact (List.mem_append.mp listed).elim (onlyLate event) (onlyEarly event)

/-- A part that keeps the queue and the history is beside. -/
theorem Beside.then {s t u : State σ} (first : Beside s t) (cq : u.cq = t.cq) (history : u.history = t.history) :
    Beside s u :=
  first.trans (.of_history cq (by rw [history]) (by rw [history]))

theorem beside_reportEngineResult (s : State σ) (completion : Completion) (discard : Bool) :
    Beside s (reportEngineResult s completion discard).2 := by
  unfold reportEngineResult chrWriteAll
  cases discard <;> dsimp only <;> split_ifs <;> exact .of_history rfl rfl rfl

theorem beside_cancelCommand (s : State σ) (errorCode : U16) : Beside s (cancelCommand s errorCode) := by
  unfold cancelCommand
  split
  · apply Beside.trans _ (beside_reportEngineResult _ _ _)
    exact .of_history rfl rfl rfl
  · exact .of_history rfl rfl rfl

theorem beside_finishPayload (host : Host σ) (s : State σ) : Beside s (finishPayload host s) := by
  have bus : BusStable host (Beside s) := {
    fault := fun _ _ _ same => same.then rfl rfl
    read := fun _ _ _ same => same.trans (.of_history rfl rfl rfl)
    write := fun _ _ _ same => same.trans (.of_history rfl rfl rfl)
    allocate := fun _ _ same => same.then rfl rfl }
  unfold finishPayload
  split
  · exact .of_history rfl rfl rfl
  · exact (bus.executePayload (Beside.refl s) s.bridge.submission s.bridge.completion).then rfl rfl

theorem beside_armUnlessPaused (s : State σ) : Beside s (armUnlessPaused s) := by
  unfold armUnlessPaused checkpointHit
  dsimp only
  split_ifs <;> exact .of_history rfl rfl rfl

theorem beside_forwardSubmission (s : State σ) (submission : Submission) : Beside s (forwardSubmission s submission) := by
  unfold forwardSubmission chrWriteAll
  dsimp only
  split_ifs <;> exact .of_history rfl rfl rfl

/-- The fetch loop needs both owners idle. -/
theorem idle_of_ready {s : State σ} (ready : sqReady s = true) :
    s.bridge.inflight = false ∧ s.engine.inflight = false := by
  simp only [sqReady, Bool.and_eq_true, Bool.not_eq_true'] at ready
  exact ⟨ready.1.1.2, ready.2⟩

theorem Owner.free_of_running {bridge : Bridge} {engine : Engine} {checkpoint : Checkpoint} {device : Device}
    (owner : Owner bridge engine checkpoint device) (running : engine.inflight = true) : bridge.inflight = false := by
  by_contra inflight
  exact absurd ((owner.inflight (by simpa using inflight)).2.symm.trans running) (by decide)

theorem Owner.at_publish {bridge : Bridge} {engine : Engine} {checkpoint : Checkpoint} {device : Device}
    (owner : Owner bridge engine checkpoint device) (reached : checkpoint.status ≠ checkpointNone)
    (notStart : checkpoint.status ≠ checkpointEngineStart) : checkpoint.status = checkpointCqPublish := by
  have range := owner.statusRange
  simp only [checkpointNone, checkpointEngineStart, checkpointCqPublish] at reached notStart range ⊢
  bv_omega

theorem stages_le (s : State σ) : stages s ≤ 3 := by
  unfold stages stagesLeft
  split_ifs <;> omega

theorem stages_eq_zero {s : State σ} (free : s.bridge.inflight = false) (stopped : s.engine.inflight = false)
    (unpaused : s.checkpoint.status ≠ checkpointCqPublish) : stages s = 0 := by
  simp [stages, stagesLeft, free, stopped, unpaused]

theorem stages_stopEngine_le (s : State σ) : stages (stopEngine s) ≤ stages s := by
  unfold stages stagesLeft stopEngine
  dsimp only
  split_ifs <;> simp_all [checkpointNone, checkpointCqPublish]

theorem stages_of_running {s : State σ} (free : s.bridge.inflight = false) (running : s.engine.inflight = true) :
    stages s = 2 := by
  simp [stages, stagesLeft, free, running]

theorem stages_of_paused {s : State σ} (free : s.bridge.inflight = false) :
    stages (s.setCheckpoint ⟨checkpointNone, checkpointCqPublish⟩) = 2 := by
  simp [stages, stagesLeft, free]

theorem Handover.stages {guarded : Prop} {s : State σ} (handover : Handover guarded s) : stages s = 0 :=
  stages_eq_zero handover.inflight handover.stopped (by rw [handover.unpaused]; decide)

/-- A publication moves nobody's flags. -/
theorem stages_publishCompletion (host : Host σ) (s : State σ) (completion : Completion) :
    stages (publishCompletion host s completion).2 = stages s := by
  have same := sameCommand_publishCompletion host s completion
  unfold stages
  rw [same.bridge, same.engine, same.checkpoint]

/-- The bridge takes the result and waits for the final answer, or it refuses and has nothing. -/
theorem reportEngineResult_eq (s : State σ) (completion : Completion) :
    if s.link.connected && s.link.writable then
      ∃ signals, reportEngineResult s completion false = (true, { s with
        signals
        bridge := s.bridge.awaitFirmware false
        link.tx := s.link.tx ++ [⟨.engineResult, s.history.fetches, completion.toBytes⟩] })
    else
      ∃ signals bridge, (bridge = s.bridge ∨ bridge = s.bridge.release) ∧
        reportEngineResult s completion false = (false, { s with signals, bridge }) := by
  obtain ⟨signals, checked⟩ : ∃ signals, require (require s .reportBridgeIdle (!s.bridge.inflight)) .reportNotDiscarding
      (!s.bridge.discardCompletion) = s.setSignals signals := ⟨_, rfl⟩
  unfold reportEngineResult chrWriteAll
  dsimp only
  rw [checked]
  cases connected : s.link.connected with
  | false => exact ⟨_, s.bridge, .inl rfl, rfl⟩
  | true =>
      cases writable : s.link.writable with
      | true =>
          simp only [State.setBridge_link, State.setSignals_link, connected, writable, if_true]
          exact ⟨_, rfl⟩
      | false =>
          simp only [State.setBridge_link, State.setSignals_link, writable]
          exact ⟨_, _, .inr rfl, rfl⟩

/-- The bridge keeps the command until its final answer, or gives it back. -/
theorem stages_reportEngineResult {s : State σ} (free : stages s = 0) (completion : Completion) :
    stages (reportEngineResult s completion false).2 =
      if (reportEngineResult s completion false).1 then 1 else 0 := by
  have owner : s.bridge.inflight = false ∧ (s.engine.inflight || s.checkpoint.status == checkpointCqPublish) = false := by
    unfold stages stagesLeft at free
    split_ifs at free with inflight final busy
    exact ⟨by simpa using inflight, by simpa using busy⟩
  have reported := reportEngineResult_eq s completion
  split_ifs at reported
  · obtain ⟨signals, same⟩ := reported
    rw [same]
    rfl
  · obtain ⟨signals, bridge, kept | released, same⟩ := reported
    · rw [same, kept]
      exact free
    · rw [same, released]
      simp [stages, stagesLeft, Bridge.release, owner.2]

/-- The change also moves nobody's flags. -/
structure Unmoved (s next : State σ) : Prop extends Beside s next where
  stages : stages next = stages s

theorem Unmoved.of_parts {s next : State σ} (cq : next.cq = s.cq) (history : next.history = s.history)
    (bridge : (next.bridge.inflight, next.bridge.waitingFinal) = (s.bridge.inflight, s.bridge.waitingFinal))
    (engine : next.engine.inflight = s.engine.inflight) (checkpoint : next.checkpoint.status = s.checkpoint.status) :
    Unmoved s next := by
  obtain ⟨inflight, final⟩ := Prod.mk.inj bridge
  refine ⟨.of_history cq (by rw [history]) (by rw [history]), ?_⟩
  simp only [Pcie.stages, stagesLeft, inflight, final, engine, checkpoint]

namespace Metered

variable {host : Host σ} {origin s : State σ} {property : Nat → State σ → Prop} {k : Nat}

section
variable (metered : Metered host origin property)
include metered

theorem settle (holds : property k s) (left : stages s ≤ k) :
    property (stages s) s :=
  metered.fewer s _ k left holds

theorem keep (holds : property k s) {next : State σ}
    (beside : Beside s next) : property k next :=
  metered.beside s next k beside holds

/-- A part beside the queue and the history leaves at most as many stages as the command has. -/
theorem aside (holds : property k s) {next : State σ} (beside : Beside s next)
    (left : stages next ≤ k) : property (stages next) next :=
  metered.settle (metered.beside s next k beside holds) left

theorem unmoved (holds : property (stages s) s) {next : State σ}
    (unmoved : Unmoved s next) : property (stages next) next :=
  metered.aside holds unmoved.toBeside (Nat.le_of_eq unmoved.stages)

/-- The command that nobody has is reported to the firmware, or published. -/
theorem handEngineResult (holds : property k s) (held : 0 < k)
    (free : stages s = 0) (completion : Completion) :
    property (stages (handEngineResult host s completion).2) (handEngineResult host s completion).2 := by
  have reported := metered.beside s _ k (beside_reportEngineResult s completion false) holds
  have left := stages_reportEngineResult free completion
  unfold Pcie.handEngineResult
  dsimp only
  split
  next sent =>
    rw [if_pos sent] at left
    exact metered.settle reported (by omega)
  next refused =>
    rw [if_neg refused] at left
    have published := metered.published _ completion k held reported
    apply metered.settle published
    rw [stages_publishCompletion, left]

/-- Whoever has the command loses it. -/
theorem cancelCommand (holds : property k s) (errorCode : U16) :
    property 0 (cancelCommand s errorCode) :=
  metered.fewer _ 0 k (Nat.zero_le k) (metered.beside s _ k (beside_cancelCommand s errorCode) holds)

theorem queueReset (holds : property k s) :
    property (stages (queueReset s)) (queueReset s) := by
  have cleared := metered.clearQueues _ (metered.cancelCommand holds errQueueReset)
  have vacant := vacant_cancelCommand s errQueueReset
  have checked : Beside (Pcie.clearQueues (Pcie.cancelCommand s errQueueReset)) (Pcie.queueReset s) :=
    .of_history rfl rfl rfl
  apply metered.aside cleared checked
  apply Nat.le_of_eq
  apply stages_eq_zero vacant.inflight vacant.stopped
  show (Pcie.cancelCommand s errQueueReset).checkpoint.status ≠ checkpointCqPublish
  rw [vacant.unpaused]
  decide

theorem deviceReset (holds : property (stages s) s) :
    property (stages (deviceReset s)) (deviceReset s) := by
  unfold Pcie.deviceReset
  split
  · exact metered.aside holds (.of_history rfl rfl rfl) (Nat.le_refl _)
  · have cleared := metered.clearDevice _ (metered.cancelCommand holds errReset)
    have vacant := vacant_cancelCommand s errReset
    have free : stages (Pcie.checkInvariants (Pcie.clearDevice (Pcie.cancelCommand s errReset))) = 0 :=
      stages_eq_zero vacant.inflight vacant.stopped (show checkpointNone ≠ checkpointCqPublish by decide)
    exact metered.aside cleared (.of_history rfl rfl rfl) (Nat.le_of_eq free)

/-- A command that was just authorized starts, and an injected reset may take it away again. -/
theorem scheduleEngine (holds : property 3 s) :
    property (stages (scheduleEngine s)) (scheduleEngine s) := by
  unfold Pcie.scheduleEngine
  dsimp only
  generalize hangs : Pcie.faultTrigger (Pcie.faultTrigger (Pcie.require (Pcie.require s _ _) _ _) _).2 _ = hang
  have kept : Beside s hang.2 := hangs ▸ .of_history rfl rfl rfl
  generalize starts : armUnlessPaused _ = started
  have running : Beside s started := by
    rw [← starts]
    apply Beside.trans _ (beside_armUnlessPaused _)
    apply kept.trans
    refine ⟨rfl, rfl, [.engineStarted hang.2.bridge.submission], rfl, ?_⟩
    intro event listed
    exact ⟨_, List.mem_singleton.mp listed⟩
  have injected : Beside s (Pcie.faultTrigger (checkInvariants started) faultResetActive).2 := running.then rfl rfl
  split
  · exact metered.queueReset (metered.beside s _ 3 injected holds)
  · exact metered.aside holds injected (stages_le _)

/-- The loop takes a descriptor while nobody has a command. -/
theorem fetchSubmission (holds : property 0 s) (ready : sqReady s = true)
    (unpaused : s.checkpoint.status = checkpointNone) :
    property (stages (fetchSubmission host s).2) (fetchSubmission host s).2 := by
  have idle := idle_of_ready ready
  have free (t : State σ) (bridge : t.bridge = s.bridge) (engine : t.engine = s.engine)
      (checkpoint : t.checkpoint = s.checkpoint) : stages t = 0 :=
    stages_eq_zero (by rw [bridge]; exact idle.1) (by rw [engine]; exact idle.2)
      (by rw [checkpoint, unpaused]; decide)
  unfold Pcie.fetchSubmission
  dsimp only
  split
  · exact metered.aside holds (.of_history rfl rfl rfl) (Nat.le_of_eq (free _ rfl rfl rfl))
  next bytes read =>
    have fetched : property 3 (countFetch (dmaRead host s (s.sq.base + s.sq.head.setWidth 64 *
        BitVec.ofNat 64 submissionSize) submissionSize).2 (Submission.ofBytes bytes)) :=
      metered.fetched _ _ ready (metered.beside s _ 0 (.of_history rfl rfl rfl) holds)
    split
    · apply metered.aside fetched _ (stages_le _)
      apply beside_forwardSubmission
    · unfold dispatchStandalone
      dsimp only
      split
      · apply metered.scheduleEngine
        exact metered.keep fetched (.of_history rfl rfl rfl)
      · apply metered.settle
        · apply metered.published _ _ 3 (by decide)
          exact metered.keep fetched (.of_history rfl rfl rfl)
        · rw [stages_publishCompletion]
          exact Nat.le_of_eq (free _ rfl rfl rfl)

theorem fetchLoop (holds : property (stages s) s) (fetching : Fetching s)
    (fuel : Nat) : property (stages (fetchLoop host fuel s)) (fetchLoop host fuel s) := by
  induction fuel generalizing s with
  | zero => exact holds
  | succ fuel ih =>
      unfold Pcie.fetchLoop
      dsimp only
      split_ifs with ready continues
      · have fetched := metered.fetchSubmission (metered.fewer s 0 _ (Nat.zero_le _) holds) ready fetching.unpaused
        exact ih fetched (fetching_fetchSubmission fetching host continues)
      · exact metered.fetchSubmission (metered.fewer s 0 _ (Nat.zero_le _) holds) ready fetching.unpaused
      · exact holds

theorem processSq (holds : property (stages s) s) :
    property (stages (processSq host s)) (processSq host s) := by
  have checked : property (stages (checkInvariants s)) (checkInvariants s) :=
    metered.aside holds (.of_history rfl rfl rfl) (Nat.le_refl _)
  unfold Pcie.processSq
  split
  next may =>
    simp only [mayFetch, Bool.and_eq_true, beq_iff_eq] at may
    exact metered.fetchLoop checked ⟨may.1.1.1, may.2⟩ _
  · exact checked

theorem engineReset (owner : Owner s.bridge s.engine s.checkpoint s.device)
    (holds : property (stages s) s) : property (stages (engineReset host s)) (engineReset host s) := by
  unfold Pcie.engineReset
  dsimp only
  split
  next running =>
    have free := owner.free_of_running running
    have stopped : property 2 (storeCompletion (advanceEpoch (stopEngine s)) (resetResult s errReset)) :=
      metered.beside s _ 2 (.of_history rfl rfl rfl) (stages_of_running free running ▸ holds)
    have handed := metered.handEngineResult stopped (by decide)
      (stages_eq_zero free rfl (show checkpointNone ≠ checkpointCqPublish by decide)) (resetResult s errReset)
    split
    · exact metered.aside handed (.of_history rfl rfl rfl) (Nat.le_refl _)
    · exact handed
  · apply metered.processSq
    refine metered.aside holds (.of_history rfl rfl rfl) ?_
    exact stages_stopEngine_le s

theorem checkpointRelease (owner : Owner s.bridge s.engine s.checkpoint s.device)
    (reached : s.checkpoint.status ≠ checkpointNone) (holds : property (stages s) s) :
    property (stages (checkpointRelease host s)) (checkpointRelease host s) := by
  unfold Pcie.checkpointRelease
  dsimp only
  split
  next atStart =>
    have running := (owner.start atStart).1
    have free := owner.free_of_running running
    refine metered.aside holds (.of_history rfl rfl rfl) ?_
    rw [stages_of_running free running]
    exact Nat.le_of_eq (stages_of_running free running)
  next notStart =>
    have atPublish := owner.at_publish reached notStart
    obtain ⟨free, -, stopped⟩ := owner.publish atPublish
    have left : stages s = 2 := by simp [stages, stagesLeft, free, atPublish]
    have paused : property 2 s := left ▸ holds
    generalize released : Pcie.require (State.setCheckpoint _ _) .releasePublish _ = publishing
    have held : property 2 publishing := released ▸ metered.keep paused (.of_history rfl rfl rfl)
    have still : stages publishing = 0 :=
      released ▸ stages_eq_zero free stopped (show checkpointNone ≠ checkpointCqPublish by decide)
    have handed := metered.handEngineResult held (by decide) still s.bridge.completion
    split_ifs
    · exact metered.settle held (by rw [still]; decide)
    · exact metered.aside handed (.of_history rfl rfl rfl) (Nat.le_refl _)
    · exact handed

/-- The timer has fired for the running command. -/
theorem engineComplete (custody : Custody False s)
    (running : s.engine.inflight = true) (unpaused : s.checkpoint.status = checkpointNone)
    (holds : property (stages s) s) : property (stages (engineComplete host s)) (engineComplete host s) := by
  have free := custody.owner.free_of_running running
  have executing : property 2 s := stages_of_running free running ▸ holds
  have left := (custody.checkInvariants.require .completeRunning s.engine.inflight (.inl running)).handover_finishEngine
    running unpaused
  unfold Pcie.engineComplete Pcie.checkpointHit
  dsimp only
  generalize finishes : Pcie.checkInvariants (finishEngine _) = idle
  have stopped : property 2 idle := finishes ▸ metered.keep executing (.of_history rfl rfl rfl)
  have deadline : InTime idle.engine.commandDeadlineNs := finishes ▸ custody.owner.deadline (by simp [owed, running])
  have handover : Handover False idle := finishes ▸ { left with }
  obtain ⟨finished, -⟩ := Custody.handover_finishPayload handover deadline host
  have executed := metered.keep stopped (beside_finishPayload host idle)
  split
  · exact metered.settle stopped (by rw [handover.stages]; decide)
  · split
    · exact metered.settle executed (by rw [finished.stages]; decide)
    · split
      · exact metered.handEngineResult executed (by decide) finished.stages _
      · refine metered.aside executed (.of_history rfl rfl rfl) ?_
        exact Nat.le_of_eq (stages_of_paused finished.inflight)

theorem firmwareAckTimeout (holds : property (stages s) s) :
    property (stages (firmwareAckTimeout host s)) (firmwareAckTimeout host s) := by
  apply metered.processSq
  exact metered.aside holds (.of_history rfl rfl rfl) (Nat.le_refl _)

theorem ackManagementReset (holds : property (stages s) s)
    (completion : Completion) :
    property (stages (ackManagementReset s completion)) (ackManagementReset s completion) := by
  unfold Pcie.ackManagementReset Pcie.chrWriteAll
  dsimp only
  split_ifs <;> exact metered.aside holds (.of_history rfl rfl rfl) (Nat.le_refl _)

/-- The result goes to the firmware, or a failure is published in its place. -/
theorem reportOrFail (holds : property k s) (held : 0 < k)
    (free : stages s = 0) (completion failed : Completion) :
    property (stages (if (Pcie.reportEngineResult s completion false).1 then
        (Pcie.reportEngineResult s completion false).2
      else (Pcie.publishCompletion host (storeCompletion (Pcie.reportEngineResult s completion false).2 failed) failed).2))
      (if (Pcie.reportEngineResult s completion false).1 then (Pcie.reportEngineResult s completion false).2
      else (Pcie.publishCompletion host (storeCompletion (Pcie.reportEngineResult s completion false).2 failed) failed).2) := by
  have reported := metered.keep holds (beside_reportEngineResult s completion false)
  have left := stages_reportEngineResult free completion
  split
  next sent => exact metered.settle reported (by rw [left, if_pos sent]; exact held)
  next refused =>
    rw [if_neg refused] at left
    have stored : property k (storeCompletion (Pcie.reportEngineResult s completion false).2 failed) :=
      metered.keep reported (.of_history rfl rfl rfl)
    apply metered.settle (metered.published _ failed k held stored)
    rw [stages_publishCompletion]
    exact Nat.le_of_eq left

theorem abortByFirmware (executing : property 2 s)
    (free : s.bridge.inflight = false) (request : Completion) (valid : Bool) :
    property (stages (abortByFirmware host s request valid)) (abortByFirmware host s request valid) := by
  have unpaused : checkpointNone ≠ checkpointCqPublish := by decide
  unfold Pcie.abortByFirmware
  dsimp only
  refine metered.reportOrFail (k := 2) ?_ (by decide) ?_ _ _
  · cases valid with
    | true => exact metered.keep executing (.of_history rfl rfl rfl)
    | false => exact metered.keep executing (.of_history rfl rfl rfl)
  · cases valid with
    | true => exact stages_eq_zero free rfl unpaused
    | false => exact stages_eq_zero free rfl unpaused

theorem receiveControl (owner : Owner s.bridge s.engine s.checkpoint s.device)
    (running : s.engine.inflight = true) (holds : property (stages s) s) (request : Completion) :
    property (stages (receiveControl host s request)) (receiveControl host s request) := by
  have free := owner.free_of_running running
  have executing : property 2 s := stages_of_running free running ▸ holds
  have unpaused : checkpointNone ≠ checkpointCqPublish := by decide
  unfold Pcie.receiveControl
  dsimp only
  split
  · have stopped : property 2 (storeCompletion (stopForFirmware s) (untag request)) :=
      metered.keep executing (.of_history rfl rfl rfl)
    have published := metered.published _ (untag request) 2 (by decide) stopped
    have left : stages (Pcie.publishCompletion host (storeCompletion (stopForFirmware s) (untag request))
        (untag request)).2 = 0 := by
      rw [stages_publishCompletion]
      exact stages_eq_zero free rfl unpaused
    have settled := metered.settle published (Nat.le_of_eq left)
    unfold acceptFirmwareReset
    dsimp only
    split
    · exact metered.ackManagementReset settled request
    · exact settled
  · exact metered.abortByFirmware executing free request _

theorem receiveAnswer (owner : Owner s.bridge s.engine s.checkpoint s.device)
    (inflight : s.bridge.inflight = true) (holds : property (stages s) s) (completion : Completion) :
    property (stages (receiveAnswer host s completion)) (receiveAnswer host s completion) := by
  have still : stages (takeAnswer s completion) = 0 := by
    refine stages_eq_zero rfl (owner.inflight inflight).2 fun paused => ?_
    exact absurd (inflight.symm.trans (owner.publish paused).1) (by decide)
  have answered : property (stages s) (takeAnswer s completion) := metered.keep holds (.of_history rfl rfl rfl)
  have owes : 0 < stages s := by
    simp only [stages, stagesLeft, inflight, if_true]
    split <;> decide
  have publishes (t : State σ) (result : Completion) (beside : Beside (takeAnswer s completion) t)
      (left : stages t = stages (takeAnswer s completion)) :
      property (stages (Pcie.publishCompletion host t result).2) (Pcie.publishCompletion host t result).2 := by
    apply metered.settle (metered.published _ _ _ owes (metered.keep answered beside))
    rw [stages_publishCompletion, left]
    exact Nat.le_of_eq still
  unfold Pcie.receiveAnswer
  dsimp only
  split_ifs with authorized tagged
  · simp only [Bool.and_eq_true, Bool.not_eq_true'] at authorized
    apply metered.scheduleEngine
    have left : stages s = 3 := by simp [stages, stagesLeft, inflight, authorized.1.1]
    exact left ▸ answered
  · apply metered.processSq
    apply metered.ackManagementReset
    exact publishes _ _ (.of_history rfl rfl rfl) rfl
  · apply metered.processSq
    exact publishes _ _ (Beside.refl _) rfl

theorem bridgeReceive (custody : Custody False s) (bytes : List U8)
    (some : bytes ≠ []) (fits : bytes.length ≤ bridgeCanReceive s) (holds : property (stages s) s) :
    property (stages (bridgeReceive host s bytes)) (bridgeReceive host s bytes) := by
  have positive : 0 < bytes.length := List.length_pos_of_ne_nil some
  unfold bridgeCanReceive at fits
  unfold Pcie.bridgeReceive
  dsimp only
  split
  next running =>
    rw [if_pos running] at fits
    generalize stores : State.setBridge _ { s.bridge with controlRx := s.bridge.controlRx ++ bytes } = stored
    have unmoved : Unmoved s stored := stores ▸ .of_parts rfl rfl rfl rfl rfl
    have held := metered.unmoved holds unmoved
    split
    · exact held
    · have owner : Owner stored.bridge stored.engine stored.checkpoint stored.device := by
        rw [← stores]
        refine { custody.owner with controlRoom := ?_ }
        have position := custody.owner.controlRoom
        show (s.bridge.controlRx ++ bytes).length ≤ completionSize
        rw [List.length_append]
        omega
      exact metered.receiveControl owner (stores ▸ running) held _
  next halted =>
    rw [if_neg halted] at fits
    have expects : (s.bridge.inflight || s.bridge.discardCompletion) = true := by
      by_contra idle
      rw [if_pos (by simpa using idle)] at fits
      omega
    generalize stores : State.setBridge _ { s.bridge with completionRx := [] } = emptied
    have unmoved : Unmoved s emptied := stores ▸ .of_parts rfl rfl rfl rfl rfl
    have held := metered.unmoved holds unmoved
    split_ifs with more discards
    · exact metered.unmoved holds (.of_parts rfl rfl rfl rfl rfl)
    · apply metered.processSq
      exact metered.unmoved held (.of_parts rfl rfl rfl rfl rfl)
    · have inflight : s.bridge.inflight = true := by simpa [discards] using expects
      have owner : Owner emptied.bridge emptied.engine emptied.checkpoint emptied.device :=
        stores ▸ { custody.owner with answerRoom := Nat.zero_le _ }
      exact metered.receiveAnswer owner (stores ▸ inflight) held _

theorem bridgeClosed (holds : property (stages s) s) :
    property (stages (bridgeClosed host s)) (bridgeClosed host s) := by
  unfold Pcie.bridgeClosed
  dsimp only
  split_ifs with busy room
  · simp only [Bool.and_eq_true, Bool.not_eq_true'] at room
    have owes : 0 < stages s := by
      rw [room.1.1, Bool.or_false, Bool.or_eq_true] at busy
      unfold stages stagesLeft
      rcases busy with held | running
      · rw [if_pos held]
        split <;> decide
      · rw [running]
        split_ifs <;> simp_all
    apply metered.processSq
    have closed : property (stages s) (Pcie.setError ((Pcie.cancelEngine s).setBridge s.bridge.close)
        (errorDma ||| errorQueue)) := metered.keep holds (.of_history rfl rfl rfl)
    have published := metered.published _ (closedCompletion s) _ owes closed
    have left := stages_publishCompletion host (Pcie.setError ((Pcie.cancelEngine s).setBridge s.bridge.close)
      (errorDma ||| errorQueue)) (closedCompletion s)
    exact metered.aside published (.of_history rfl rfl rfl) (Nat.le_of_eq left)
  · apply metered.processSq
    exact metered.aside holds (.of_history rfl rfl rfl) (Nat.zero_le _)
  · exact holds

end

end Metered

theorem unmoved_reportReserved (s : State σ) (value defined : U32) : Unmoved s (reportReserved s value defined) := by
  unfold reportReserved
  split <;> exact .of_parts rfl rfl rfl rfl rfl

theorem unmoved_writeSqConfiguration (s : State σ) (value : U32) :
    Unmoved s (writeSqBaseLo s value) ∧ Unmoved s (writeSqBaseHi s value) ∧ Unmoved s (writeSqDepth s value) := by
  unfold writeSqBaseLo writeSqBaseHi writeSqDepth
  dsimp only
  refine ⟨?_, ?_, ?_⟩ <;> split <;> exact .of_parts rfl rfl rfl rfl rfl

theorem unmoved_enableSq (s : State σ) (value : U32) : Unmoved s (enableSq s value) := by
  unfold enableSq updateQueueReady
  split_ifs <;> exact .of_parts rfl rfl rfl rfl rfl

theorem unmoved_writeIntr (s : State σ) (value : U32) :
    Unmoved s (writeErrorStatus s value) ∧ Unmoved s (writeIntrStatus s value) ∧ Unmoved s (writeIntrMask s value) ∧
      Unmoved s (writeIntrForce s value) ∧ Unmoved s (writeIntrCoalesce s value) := by
  unfold writeErrorStatus writeIntrStatus writeIntrMask writeIntrForce writeIntrCoalesce reportReserved
  dsimp only
  refine ⟨?_, ?_, ?_, ?_, ?_⟩ <;> split_ifs <;> exact .of_parts rfl rfl rfl rfl rfl

theorem unmoved_writeDebug (s : State σ) (value : U32) :
    Unmoved s (writeFaultControl s value) ∧ Unmoved s (writeFaultArg s value) ∧ Unmoved s (writeFaultStatus s value) ∧
      Unmoved s (writeDebugLock s value) ∧ Unmoved s (writeCheckpointControl s value) := by
  unfold writeFaultControl writeFaultArg writeFaultStatus writeDebugLock writeCheckpointControl armFault reportReserved
  dsimp only
  refine ⟨?_, ?_, ?_, ?_, ?_⟩ <;> split_ifs <;> exact .of_parts rfl rfl rfl rfl rfl

/-- The queue is enabled, the index is inside it, and no more is consumed than was produced. -/
def acceptsCqDoorbell (s : State σ) (value : U32) : Bool :=
  hasBits s.cq.control queueEnable && decide (value < s.cq.depth) &&
    decide ((value - s.cq.head) &&& (s.cq.depth - 1) ≤ (s.cq.tail - s.cq.head) &&& (s.cq.depth - 1))

/-- The host consumes completions with an accepted doorbell. -/
def consumption (s : State σ) : Event → Option U32
  | .write offset value size =>
    if size = 4 ∧ offset = Register.cqDoorbell.offset ∧ hasBits s.device.status statusResetting = false ∧
        acceptsCqDoorbell s value then some value
    else none
  | _ => none

/-- The doorbell moves the head before anything else happens in its step. -/
def consumed (s : State σ) (event : Event) : State σ :=
  match consumption s event with
  | some value => s.setCq (s.cq.consume value).updateBackpressure
  | none => s

theorem writeCqDoorbell_eq (host : Host σ) (s : State σ) (value : U32) :
    writeCqDoorbell host s value =
      if acceptsCqDoorbell s value then processSq host (s.setCq (s.cq.consume value).updateBackpressure)
      else rejectCqDoorbell s := by
  unfold writeCqDoorbell acceptsCqDoorbell
  dsimp only
  generalize (value - s.cq.head) &&& (s.cq.depth - 1) = advance
  generalize (s.cq.tail - s.cq.head) &&& (s.cq.depth - 1) = produced
  cases hasBits s.cq.control queueEnable with
  | false => rfl
  | true =>
      by_cases inside : value < s.cq.depth
      · by_cases few : advance ≤ produced
        · simp [BitVec.not_le.mpr inside, BitVec.not_lt.mpr few, inside, few]
        · simp [BitVec.not_le.mpr inside, BitVec.not_le.mp few, inside, few]
      · simp [BitVec.not_lt.mp inside, inside]

namespace Metered

variable {host : Host σ} {origin s : State σ} {property : Nat → State σ → Prop} {k : Nat}

section
variable (metered : Metered host origin property)
include metered

theorem writeDeviceControl (holds : property (stages s) s) (value : U32) :
    property (stages (writeDeviceControl host s value)) (writeDeviceControl host s value) := by
  have reported := metered.unmoved holds (unmoved_reportReserved s value controlDefined)
  unfold Pcie.writeDeviceControl enableDevice
  dsimp only
  split_ifs
  · exact metered.deviceReset reported
  · exact metered.unmoved reported (.of_parts rfl rfl rfl rfl rfl)
  · apply metered.processSq
    exact metered.unmoved reported (.of_parts rfl rfl rfl rfl rfl)
  · exact metered.unmoved reported (.of_parts rfl rfl rfl rfl rfl)

theorem writeSqControl (holds : property (stages s) s) (value : U32) :
    property (stages (writeSqControl s value)) (writeSqControl s value) := by
  have reported := metered.unmoved holds (unmoved_reportReserved s value queueControlDefined)
  unfold Pcie.writeSqControl
  dsimp only
  split
  · exact metered.queueReset reported
  · exact metered.unmoved reported (unmoved_enableSq _ value)

theorem writeSqDoorbell (holds : property (stages s) s) (value : U32) :
    property (stages (writeSqDoorbell host s value)) (writeSqDoorbell host s value) := by
  unfold Pcie.writeSqDoorbell rejectSqDoorbell
  dsimp only
  split_ifs
  · exact metered.unmoved holds (.of_parts rfl rfl rfl rfl rfl)
  · exact metered.unmoved holds (.of_parts rfl rfl rfl rfl rfl)
  · apply metered.processSq
    exact metered.unmoved holds (.of_parts rfl rfl rfl rfl rfl)

/-- The registers of the completion queue are written while it is disabled. -/
theorem writeCqConfiguration (holds : property (stages s) s) (value : U32) :
    property (stages (writeCqBaseLo s value)) (writeCqBaseLo s value) ∧
      property (stages (writeCqBaseHi s value)) (writeCqBaseHi s value) ∧
      property (stages (writeCqDepth s value)) (writeCqDepth s value) ∧
      property (stages (writeCqWatermark s value)) (writeCqWatermark s value) := by
  have rejected : property (stages (setError s errorBadConfig)) (setError s errorBadConfig) :=
    metered.unmoved holds (.of_parts rfl rfl rfl rfl rfl)
  unfold writeCqBaseLo writeCqBaseHi writeCqDepth writeCqWatermark
  dsimp only
  refine ⟨?_, ?_, ?_, ?_⟩
  all_goals
    split
    · exact rejected
    next accepted =>
      have disabled : hasBits s.cq.control queueEnable = false := by
        by_contra enabled
        exact accepted (by simp [Bool.not_eq_false _ ▸ enabled])
      exact metered.configured s _ _ disabled rfl holds

end

theorem writeCqControl (metered : Metered host s property) (holds : property (stages s) s) (value : U32) :
    property (stages (writeCqControl s value)) (writeCqControl s value) := by
  have reported := metered.unmoved holds (unmoved_reportReserved s value queueControlDefined)
  have same : (reportReserved s value queueControlDefined).cq = s.cq :=
    (unmoved_reportReserved s value queueControlDefined).cq
  unfold Pcie.writeCqControl enableCq
  dsimp only
  split_ifs
  · exact metered.queueReset reported
  · exact metered.unmoved reported (.of_parts rfl rfl rfl rfl rfl)
  · have enabled := metered.enabled _ (value &&& queueEnable) _ same reported
    unfold updateQueueReady
    split_ifs
    · exact metered.aside enabled (.of_history rfl rfl rfl) (Nat.le_refl _)
    · exact metered.aside enabled (.of_history rfl rfl rfl) (Nat.le_refl _)

theorem writeRegister (metered : Metered host s property) (custody : Custody False s)
    (holds : property (stages s) s) (register : Register) (other : register ≠ .cqDoorbell) (value : U32) :
    property (stages (writeRegister host s register value)) (writeRegister host s register value) := by
  have rejected (error : U32) : property (stages (setError s error)) (setError s error) :=
    metered.unmoved holds (.of_parts rfl rfl rfl rfl rfl)
  cases register with
  | deviceControl => exact metered.writeDeviceControl holds value
  | sqBaseLo => exact metered.unmoved holds (unmoved_writeSqConfiguration s value).1
  | sqBaseHi => exact metered.unmoved holds (unmoved_writeSqConfiguration s value).2.1
  | sqDepth => exact metered.unmoved holds (unmoved_writeSqConfiguration s value).2.2
  | sqDoorbell => exact metered.writeSqDoorbell holds value
  | sqControl => exact metered.writeSqControl holds value
  | cqBaseLo => exact (metered.writeCqConfiguration holds value).1
  | cqBaseHi => exact (metered.writeCqConfiguration holds value).2.1
  | cqDepth => exact (metered.writeCqConfiguration holds value).2.2.1
  | cqWatermark => exact (metered.writeCqConfiguration holds value).2.2.2
  | cqDoorbell => exact absurd rfl other
  | cqControl => exact metered.writeCqControl holds value
  | errorStatus => exact metered.unmoved holds (unmoved_writeIntr s value).1
  | intrStatus => exact metered.unmoved holds (unmoved_writeIntr s value).2.1
  | intrMask => exact metered.unmoved holds (unmoved_writeIntr s value).2.2.1
  | intrForce => exact metered.unmoved holds (unmoved_writeIntr s value).2.2.2.1
  | intrCoalesce => exact metered.unmoved holds (unmoved_writeIntr s value).2.2.2.2
  | resetRequest =>
      unfold Pcie.writeRegister writeResetRequest
      dsimp only
      split
      · exact rejected errorBadConfig
      · exact metered.engineReset custody.owner holds
  | faultControl => exact metered.unmoved holds (unmoved_writeDebug s value).1
  | faultArg => exact metered.unmoved holds (unmoved_writeDebug s value).2.1
  | faultStatus => exact metered.unmoved holds (unmoved_writeDebug s value).2.2.1
  | debugLock => exact metered.unmoved holds (unmoved_writeDebug s value).2.2.2.1
  | checkpointControl => exact metered.unmoved holds (unmoved_writeDebug s value).2.2.2.2
  | checkpointRelease =>
      unfold Pcie.writeRegister writeCheckpointRelease
      dsimp only
      split
      · exact rejected errorBadConfig
      next accepted =>
        have reached : s.checkpoint.status ≠ checkpointNone := by
          intro unreached
          exact accepted (by simp [unreached])
        exact metered.checkpointRelease custody.owner reached holds
  | _ => exact rejected _

theorem bar0Write (metered : Metered host s property) (custody : Custody False s) (offset : Nat) (value : U32)
    (size : Nat) (holds : property (stages s) (consumed s (.write offset value size))) :
    property (stages (bar0Write host s offset value size)) (bar0Write host s offset value size) := by
  cases rings : consumption s (.write offset value size) with
  | some head =>
      rw [consumed, rings] at holds
      obtain ⟨⟨rfl, rfl, working, accepts⟩, same⟩ := Option.ite_none_right_eq_some.mp rings
      obtain rfl := Option.some.inj same
      rw [bar0Write_register host s .cqDoorbell value (by decide) working]
      change property (stages (writeCqDoorbell host s value)) (writeCqDoorbell host s value)
      rw [writeCqDoorbell_eq, if_pos accepts]
      exact metered.processSq holds
  | none =>
      rw [consumed, rings] at holds
      have rejected (error : U32) : property (stages (setError s error)) (setError s error) :=
        metered.unmoved holds (.of_parts rfl rfl rfl rfl rfl)
      unfold Pcie.bar0Write
      split_ifs with malformed hidden resetting
      · exact rejected errorIllegalMmio
      · exact rejected errorIllegalMmio
      · exact rejected errorBadConfig
      · split
        · exact rejected errorIllegalMmio
        next register found =>
          obtain rfl := Register.offset_of_ofOffset found
          by_cases doorbell : register = .cqDoorbell
          · subst doorbell
            have refused : acceptsCqDoorbell s value = false := by
              simp only [ne_eq, not_or, not_not] at malformed
              have working : hasBits s.device.status statusResetting = false := by
                simpa [Register.offset] using resetting
              simpa [consumption, malformed.1, working] using rings
            change property (stages (writeCqDoorbell host s value)) (writeCqDoorbell host s value)
            rw [writeCqDoorbell_eq, refused]
            exact metered.aside (metered.marked s _ holds) (.of_history rfl rfl rfl) (Nat.le_refl _)
          · exact metered.writeRegister custody holds register doorbell value

theorem step (metered : Metered host s property) (custody : Custody False s) {event : Event} {next : State σ}
    (holds : property (stages s) (consumed s event)) (stepped : Pcie.step host s event = some next) :
    property (stages next) next := by
  cases event with
  | write offset value size =>
      obtain rfl := Option.some.inj stepped
      exact metered.bar0Write custody offset value size holds
  | read offset size =>
      obtain rfl := Option.some.inj stepped
      refine metered.unmoved holds ?_
      unfold bar0Read
      split_ifs
      · exact .of_parts rfl rfl rfl rfl rfl
      · exact .of_parts rfl rfl rfl rfl rfl
      · split <;> exact .of_parts rfl rfl rfl rfl rfl
  | engineTimer =>
      obtain ⟨fires, rfl⟩ := EventMachine.guarded stepped
      have armed : s.engine.timer ≠ none := by
        intro none
        simp [expired, none] at fires
      obtain ⟨running, -, unpaused⟩ := custody.owner.timer armed
      have fired : Custody False (s.setEngine { s.engine with timer := none }) :=
        { custody with owner := { custody.owner with timer := absurd rfl } }
      apply metered.engineComplete fired running unpaused
      exact metered.unmoved holds (.of_parts rfl rfl rfl rfl rfl)
  | resetTimer =>
      obtain ⟨-, rfl⟩ := EventMachine.guarded stepped
      exact metered.unmoved holds (.of_parts rfl rfl rfl rfl rfl)
  | firmwareAckTimer =>
      obtain ⟨-, rfl⟩ := EventMachine.guarded stepped
      apply metered.firmwareAckTimeout
      exact metered.unmoved holds (.of_parts rfl rfl rfl rfl rfl)
  | receive bytes =>
      obtain ⟨⟨some, fits⟩, rfl⟩ := EventMachine.guarded stepped
      exact metered.bridgeReceive custody bytes some fits holds
  | closed =>
      obtain rfl := Option.some.inj stepped
      exact metered.bridgeClosed holds
  | link writable =>
      obtain rfl := Option.some.inj stepped
      exact metered.unmoved holds (.of_parts rfl rfl rfl rfl rfl)
  | busMaster enabled =>
      obtain rfl := Option.some.inj stepped
      exact metered.unmoved holds (.of_parts rfl rfl rfl rfl rfl)
  | tick nowNs =>
      obtain ⟨-, rfl⟩ := EventMachine.guarded stepped
      exact metered.unmoved holds (.of_parts rfl rfl rfl rfl rfl)

end Metered

end VamsSoc.Pcie
