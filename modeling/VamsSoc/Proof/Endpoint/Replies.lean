/-
This file says what a whole frame from the portal does to a connected endpoint.
-/

import VamsSoc.Proof.Endpoint.Turns

namespace VamsSoc.Pcie
open Library Abi

variable {σ : Type}

/-- The frame authorizes the payload that waits for it. -/
def View.granted (v : View) (completion : Completion) : Bool :=
  !v.bridge.waitingFinal && completion.status == statusSuccess && isPayloadOpcode v.bridge.submission.opcode

/-- The frame asks for a reset of the running command. -/
def View.asksReset (v : View) (request : Completion) : Bool :=
  request.identity == v.bridge.submission.identity && request.status == statusReset &&
    request.errorCode == errReset

/-- The frame that a reset disowned is dropped. -/
def View.discard (v : View) (completion : Completion) : View :=
  { v with bridge := { v.bridge with completion, discardCompletion := false, firmwareAckTimer := none } }

/-- A frame is a control frame, an answer, or one that is discarded. -/
inductive Reply (v : View) (completion : Completion) : View → Prop
  | start (halted : v.running = false) (kept : v.bridge.discardCompletion = false)
      (granted : v.granted completion = true) : Reply v completion (v.take completion).start
  | publish (halted : v.running = false) (kept : v.bridge.discardCompletion = false)
      (refused : v.granted completion = false) (queue : CompletionQueue) (written : Bool) :
      Reply v completion ((v.take completion).publish queue completion written)
  | publishFetch (halted : v.running = false) (kept : v.bridge.discardCompletion = false)
      (refused : v.granted completion = false) (queue : CompletionQueue) (written : Bool)
      (submission : Submission) :
      Reply v completion (((v.take completion).publish queue completion written).fetch submission)
  | stop (running : v.running = true) (result : Completion) (stamped : v.Stamped result) :
      Reply v completion ((v.stop.store result).report result)
  | reset (running : v.running = true) (asks : v.asksReset completion = true) (queue : CompletionQueue)
      (written : Bool) :
      Reply v completion ((v.stop.store (untag completion)).publish queue (untag completion) written)
  | discard (halted : v.running = false) (dropped : v.bridge.discardCompletion = true) :
      Reply v completion (v.discard completion)
  | discardFetch (halted : v.running = false) (dropped : v.bridge.discardCompletion = true)
      (submission : Submission) : Reply v completion ((v.discard completion).fetch submission)

/-- The endpoint is steady after the frame. -/
structure Replies (completion : Completion) (before after : State σ) : Prop where
  steady : Steady after
  reply : Reply (view before) completion (view after)

theorem Steady.publishCompletion {s : State σ} (steady : Steady s) (host : Host σ) (completion : Completion) :
    Steady (publishCompletion host s completion).2 := by
  refine steady.of_parts (steady.calm.publishCompletion host completion) ?_ ?_
  · unfold Pcie.publishCompletion
    dsimp only
    split_ifs <;> rfl
  · unfold Pcie.publishCompletion
    dsimp only
    split_ifs <;> rfl

/-- The started engine belongs to the generation and the epoch that it was started in. -/
theorem Steady.scheduleEngine {s : State σ} (steady : Steady s) : Steady (scheduleEngine s) := by
  have checked := (steady.require .scheduleIdle (!s.engine.inflight)).require .schedulePayload
    (isPayloadOpcode s.bridge.submission.opcode)
  rw [scheduleEngine_calm steady.calm]
  refine Steady.checkInvariants ⟨checked.calm.of_parts rfl rfl rfl rfl, fun _ => rfl, fun _ => ⟨rfl, rfl⟩⟩

/-- An answer starts the engine, or is published. -/
theorem Steady.receiveAnswer {s : State σ} (steady : Steady s) (host : Host σ) {completion : Completion}
    (ordinary : isManagementReset completion = false) (halted : s.engine.inflight = false)
    (kept : s.bridge.discardCompletion = false) : Replies completion s (receiveAnswer host s completion) := by
  have taken : Steady (takeAnswer s completion) := steady.setBridge _
  unfold Pcie.receiveAnswer
  dsimp only
  split_ifs with grant reset
  · refine ⟨taken.scheduleEngine, ?_⟩
    rw [view_scheduleEngine taken.calm]
    exact .start halted kept grant
  · exact absurd reset (by rw [ordinary]; decide)
  · have refused : (view s).granted completion = false := Bool.eq_false_iff.mpr grant
    have polls := (taken.publishCompletion host completion).processSq host
    obtain ⟨written, published⟩ := view_publishCompletion host (takeAnswer s completion) completion
    refine ⟨polls.steady, ?_⟩
    rcases polls.view with same | ⟨-, submission, fetched⟩
    · rw [same, published]
      exact .publish halted kept refused _ written
    · rw [fetched, published]
      exact .publishFetch halted kept refused _ written submission

theorem Steady.receiveDiscarded {s : State σ} (steady : Steady s) (host : Host σ) (completion : Completion)
    (halted : s.engine.inflight = false) (dropped : s.bridge.discardCompletion = true) :
    Replies completion s (receiveDiscarded host s completion) := by
  have released := (steady.setBridge { s.bridge with
    completion, discardCompletion := false, firmwareAckTimer := none }).checkInvariants
  have polls := released.processSq host
  refine ⟨polls.steady, ?_⟩
  rcases polls.view with same | ⟨-, submission, fetched⟩
  · rw [Pcie.receiveDiscarded, same]
    exact .discard halted dropped
  · rw [Pcie.receiveDiscarded, fetched]
    exact .discardFetch halted dropped submission

theorem Steady.stopForFirmware {s : State σ} (steady : Steady s) : Steady (stopForFirmware s) :=
  .halted (steady.calm.stopEngine.of_parts rfl rfl rfl rfl) rfl rfl

theorem Steady.markEngineError {s : State σ} (steady : Steady s) (error : U32) :
    Steady (markEngineError s error) :=
  ⟨steady.calm.of_parts rfl rfl rfl rfl, steady.engaged.armed, steady.engaged.current⟩

/-- Any control frame but a reset stops the engine, and the result has the time of the endpoint. -/
theorem Steady.abortByFirmware {s : State σ} (steady : Steady s) (host : Host σ) (request : Completion)
    (valid : Bool) (running : s.engine.inflight = true) {completion : Completion} :
    Replies completion s (abortByFirmware host s request valid) := by
  have stopped := steady.stopForFirmware
  unfold Pcie.abortByFirmware
  dsimp only
  generalize stamped : { (if valid = true then request else rejectedResult s) with deviceTimestamp := clockUs s } =
    result
  have marked : Steady (Pcie.storeCompletion (if valid = true then
      Pcie.markEngineError (Pcie.stopForFirmware s) engineErrorTimeout
      else Pcie.setError (Pcie.stopForFirmware s) errorQueue) result) := by
    split
    · exact (stopped.markEngineError _).storeCompletion _
    · exact (stopped.setError _).storeCompletion _
  have same : view (Pcie.storeCompletion (if valid = true then
      Pcie.markEngineError (Pcie.stopForFirmware s) engineErrorTimeout
      else Pcie.setError (Pcie.stopForFirmware s) errorQueue) result) = ((view s).stop).store result := by
    split <;> rfl
  have reported := view_reportEngineResult marked.calm result
  rw [if_pos reported.1]
  refine ⟨marked.reportEngineResult result false, ?_⟩
  rw [reported.2, same]
  exact .stop running result (.inr (by rw [← stamped]; rfl))

/-- A whole control frame reached a running engine. -/
theorem Steady.receiveControl {s : State σ} (steady : Steady s) (host : Host σ) {request : Completion}
    (ordinary : isManagementReset request = false) (running : s.engine.inflight = true) :
    Replies request s (receiveControl host s request) := by
  unfold Pcie.receiveControl
  dsimp only
  split_ifs with asks
  · have recorded := steady.stopForFirmware.storeCompletion (untag request)
    obtain ⟨written, published⟩ := view_publishCompletion host
      (Pcie.storeCompletion (Pcie.stopForFirmware s) (untag request)) (untag request)
    unfold acceptFirmwareReset
    dsimp only
    rw [if_neg (by rw [ordinary]; decide)]
    refine ⟨recorded.publishCompletion host _, ?_⟩
    rw [published]
    exact .reset (by exact running) (by exact asks) _ written
  · exact steady.abortByFirmware host request _ running

theorem Replies.of_same {completion : Completion} {s t u : State σ} (same : view t = view s)
    (replies : Replies completion t u) : Replies completion s u := ⟨replies.steady, same ▸ replies.reply⟩

/-- The control buffer is emptied before anything is recorded. -/
theorem Reply.of_buffered {v w : View} {completion : Completion} {received : List U8} (running : v.running = true)
    (reply : Reply { v with bridge := { v.bridge with controlRx := received } } completion w) :
    Reply v completion w := by
  cases reply with
  | stop _ result stamped => exact .stop running result stamped
  | reset _ asks queue written => exact .reset running asks queue written
  | start halted | publish halted | publishFetch halted | discard halted | discardFetch halted =>
      exact absurd running (by rw [show v.running = false from halted]; decide)

/-- A frame of 32 bytes that comes in one piece is looked at at once. -/
theorem Steady.bridgeReceive {s : State σ} (steady : Steady s) (host : Host σ) {completion : Completion}
    (ordinary : isManagementReset completion = false) (control : s.bridge.controlRx = [])
    (answer : s.bridge.completionRx = []) : Replies completion s (bridgeReceive host s completion.toBytes) := by
  have size : completion.toBytes.length = completionSize := Completion.length_toBytes completion
  unfold Pcie.bridgeReceive
  dsimp only
  rw [show s.bridge.controlRx ++ completion.toBytes = completion.toBytes by rw [control, List.nil_append],
    show s.bridge.completionRx ++ completion.toBytes = completion.toBytes by rw [answer, List.nil_append],
    if_neg (not_not.mpr size), if_neg (not_not.mpr size), Completion.ofBytes_toBytes]
  have checked := steady.checkInvariants
  split_ifs with running dropped
  · have stored := (checked.require .receiveControlRoom (completion.toBytes.length ≤ completionSize)).setBridge
      { s.bridge with controlRx := completion.toBytes }
    have replies := stored.receiveControl host ordinary running
    exact ⟨replies.steady, replies.reply.of_buffered running⟩
  all_goals
    have emptied := ((checked.require .receiveExpected (s.bridge.inflight || s.bridge.discardCompletion)).require
      .receiveCompletionRoom (completion.toBytes.length ≤ completionSize)).setBridge
        { s.bridge with completionRx := [] }
    have halted : s.engine.inflight = false := Bool.eq_false_iff.mpr running
    have same : ({ s.bridge with completionRx := [] } : Bridge) = s.bridge := by rw [← answer]
  · refine .of_same ?_ (emptied.receiveDiscarded host completion halted dropped)
    exact congrArg (fun bridge => { view s with bridge }) same
  · refine .of_same ?_ (emptied.receiveAnswer host ordinary halted (Bool.eq_false_iff.mpr dropped))
    exact congrArg (fun bridge => { view s with bridge }) same

end VamsSoc.Pcie
