/-
This file says when the handover of a reset to the firmware is bounded by a timer, and shows a reset without one.
-/

import VamsSoc.Proof.Endpoint.Configuration
import VamsSoc.Proof.Endpoint.Publication

namespace VamsSoc.Pcie
open Library Abi

variable {σ : Type}

/-- The answer that is going to be discarded is timed, and the timer expires only while one is. -/
structure BoundedHandover (s : State σ) : Prop where
  timed : s.bridge.discardCompletion = true ↔ s.bridge.firmwareAckTimer ≠ none
  unfailed : .ackTimeoutDiscarding ∉ s.signals.failed

/-- A reset of the host disowns a request that the firmware has not answered. -/
def disownsRequest (s : State σ) : Event → Bool
  | .write offset value size => size == 4 && hostCancels (.write offset value size) && s.bridge.inflight
  | _ => false

/-- An answer is discarded only against the timer. -/
def Expects (bridge : Bridge) : Prop := bridge.discardCompletion = true → bridge.firmwareAckTimer ≠ none

theorem expects_stable (host : Host σ) (origin : State σ) : Stable host origin fun s => Expects s.bridge where
  inside s next inside expects discards unarmed := by
    obtain ⟨discarded, none⟩ := inside.discard discards unarmed
    exact expects discarded none
  failed _ _ := id
  errorStatus _ _ := id
  coalesce _ _ := id
  fault _ _ _ := id
  trigger _ _ := id
  raise _ _ := id
  acknowledge s value expects := by
    have bridge : (writeIntrStatus s value).bridge = s.bridge := by
      unfold writeIntrStatus reportReserved
      dsimp only
      split <;> split <;> rfl
    exact bridge ▸ expects
  mask s value expects := by
    have bridge : (writeIntrMask s value).bridge = s.bridge := by
      unfold writeIntrMask reportReserved
      dsimp only
      split <;> rfl
    exact bridge ▸ expects
  publish s completion expects := by
    obtain ⟨written, published⟩ := view_publishCompletion host s completion
    have bridge : (publishCompletion host s completion).2.bridge = s.bridge := congrArg View.bridge published
    exact bridge ▸ expects
  send s kind bytes _ _ expects := by
    have bridge : (chrWriteAll s kind bytes).2.bridge = s.bridge := by
      unfold chrWriteAll
      split <;> rfl
    exact bridge ▸ expects
  clearQueues _ := id
  clearDevice _ := id
  resetDone _ _ := id
  control _ _ _ := id
  sqConfigure _ _ _ _ _ := id
  sqEnable s control _ _ _ _ expects := by
    have bridge : (updateQueueReady (s.setSq { s.sq with control })).bridge = s.bridge := by
      unfold updateQueueReady
      split <;> rfl
    exact bridge ▸ expects
  cqMark _ := id
  cqConfigure _ _ _ _ _ _ _ := id
  cqConsume _ _ _ _ := id
  cqEnable s control _ _ _ _ expects := by
    have bridge : (updateQueueReady (s.setCq (s.cq.enable control).updateBackpressure)).bridge = s.bridge := by
      unfold updateQueueReady
      split <;> rfl
    exact bridge ▸ expects

/-- What the run keeps as long as no unanswered request is disowned. -/
structure Bounded (s : State σ) : Prop where
  custody : Custody False s
  gates : Gates s.device s.sq s.cq
  expects : Expects s.bridge

theorem Bounded.handover {s : State σ} (bounded : Bounded s) : BoundedHandover s where
  timed := ⟨bounded.expects, bounded.custody.owner.ackTimer⟩
  unfailed failed := by
    rcases bounded.custody.signals.clean _ failed with geometry | ⟨publish, -⟩
    · exact absurd geometry (by decide)
    · exact absurd publish (by decide)

theorem Bounded.step {s next : State σ} (bounded : Bounded s) (host : Host σ) {event : Event}
    (keeps : disownsRequest s event = false) (stepped : step host s event = some next) : Bounded next where
  custody := bounded.custody.step host event nofun stepped
  gates := (bounded.gates.step host stepped).1
  expects := by
    have stable := expects_stable host s
    -- A write of another size reports an error whatever its value is.
    by_cases narrow : ∃ offset value size, event = .write offset value size ∧ size ≠ 4
    · obtain ⟨offset, value, size, rfl, narrow⟩ := narrow
      obtain rfl := Option.some.inj stepped
      rw [bar0Write, if_pos (.inl narrow)]
      exact stable.setError bounded.expects _
    · refine stable.always (fun completion t _ expects => ?_) (fun t expects bridge discard timer => ?_)
        bounded.expects stepped fun asked t bridge _ inflight => ?_
      · have bridge : (chrWriteAll t .resetAcknowledgment completion.toBytes).2.bridge = t.bridge := by
          unfold chrWriteAll
          split <;> rfl
        exact bridge ▸ expects
      · intro discards
        have expected := expects (discard ▸ discards)
        exact timer ▸ expected
      · cases event with
        | write offset value size =>
            have word : size = 4 := by
              by_contra other
              exact narrow ⟨offset, value, size, rfl, other⟩
            have kept : (hostCancels (.write offset value size) && s.bridge.inflight) = false := by
              simpa [disownsRequest, word] using keeps
            rw [asked, ← bridge, inflight] at kept
            exact absurd kept (by decide)
        | _ => exact absurd asked (by simp [hostCancels])

/-- A request that the firmware has not answered is disowned, and no timer bounds its answer. -/
def Disowned (bridge : Bridge) : Prop := bridge.discardCompletion = true ∧ bridge.firmwareAckTimer = none

theorem disowned_cancelCommand {s : State σ} (inflight : s.bridge.inflight = true) (idle : s.engine.inflight = false)
    (unarmed : s.bridge.firmwareAckTimer = none) (errorCode : U16) :
    Disowned (cancelCommand s errorCode).bridge := by
  have cancelled : (cancelCommand s errorCode).bridge = { s.bridge.cancelRequest with controlRx := [] } := by
    rw [cancelCommand, if_neg (by simp [idle])]
    rfl
  rw [cancelled, Bridge.cancelRequest, if_pos inflight]
  exact ⟨rfl, unarmed⟩

theorem reportReserved_kept (s : State σ) (value defined : U32) :
    (reportReserved s value defined).bridge = s.bridge ∧ (reportReserved s value defined).engine = s.engine ∧
      (reportReserved s value defined).device = s.device := by
  unfold reportReserved
  split <;> exact ⟨rfl, rfl, rfl⟩

theorem disowned_of_disownsRequest {s : State σ} (bounded : Bounded s) (host : Host σ) {offset size : Nat}
    {value : U32} (disowns : disownsRequest s (.write offset value size) = true) :
    Disowned (bar0Write host s offset value size).bridge := by
  simp only [disownsRequest, Bool.and_eq_true, beq_iff_eq] at disowns
  obtain ⟨⟨rfl, asked⟩, inflight⟩ := disowns
  obtain ⟨register, found, cancels⟩ := Option.any_eq_true _ _ |>.mp asked
  obtain rfl := Register.offset_of_ofOffset found
  obtain ⟨kept, idle⟩ := bounded.custody.owner.inflight inflight
  have unarmed : s.bridge.firmwareAckTimer = none := by
    by_contra armed
    exact absurd (bounded.custody.owner.ackTimer armed) (by simp [kept])
  have working : hasBits s.device.status statusResetting = false := by
    by_contra resetting
    have free := (bounded.custody.resetting (bounded.gates.timed.mp (by simpa using resetting))).free
    simp [owed, inflight] at free
  have reported (defined : U32) (errorCode : U16) :
      Disowned (cancelCommand (reportReserved s value defined) errorCode).bridge := by
    obtain ⟨bridge, engine, -⟩ := reportReserved_kept s value defined
    exact disowned_cancelCommand (bridge ▸ inflight) (engine ▸ idle) (bridge ▸ unarmed) errorCode
  cases register with
  | deviceControl =>
      have device := (reportReserved_kept s value controlDefined).2.2
      rw [bar0Write_register host s _ value (by decide) working, writeRegister, writeDeviceControl,
        if_pos (show hasBits value controlReset = true from cancels), deviceReset, if_neg (by simp [device, working])]
      exact reported controlDefined errReset
  | sqControl =>
      rw [bar0Write_register host s _ value (by decide) working, writeRegister, writeSqControl,
        if_pos (show hasBits value queueResetBit = true from cancels)]
      exact reported queueControlDefined errQueueReset
  | cqControl =>
      rw [bar0Write_register host s _ value (by decide) working, writeRegister, writeCqControl,
        if_pos (show hasBits value queueResetBit = true from cancels)]
      exact reported queueControlDefined errQueueReset
  | _ => exact absurd cancels (by simp [cancelsCommand])

/-- Every step is bounded exactly if no reset of the host disowns a request that the firmware has not answered. -/
theorem boundedHandover_iff_no_disowned_request (host : Host σ) (debugEnabled connected : Bool) (memory : σ)
    (events : List Event) :
    (step host).Always BoundedHandover (powerOn debugEnabled connected memory) events ↔
      (step host).Meets (fun s event => disownsRequest s event = false) (powerOn debugEnabled connected memory) events := by
  have start : Bounded (powerOn debugEnabled connected memory) :=
    ⟨Custody.powerOn False debugEnabled connected memory, gates_powerOn debugEnabled connected memory, nofun⟩
  refine EventMachine.always_iff_meets (fun _ => Bounded.handover)
    (fun s event next bounded keeps stepped => bounded.step host keeps stepped)
    (fun s event next bounded stepped handover => ?_) (fun s event refused => ?_) start
  · by_contra disowns
    cases event with
    | write offset value size =>
        obtain rfl := Option.some.inj stepped
        obtain ⟨discards, unarmed⟩ := disowned_of_disownsRequest bounded host (by simpa using disowns)
        exact handover.timed.mp discards unarmed
    | _ => exact disowns rfl
  · cases event with
    | write offset value size => nomatch refused
    | _ => rfl

/-- The queue reset of a submission that the firmware has not answered blocks the endpoint for as long as it is
silent. -/
theorem reset_of_unanswered_submission_unbounded :
    ((step zeroHost).run (powerOn false true ()) (enableQueues 16 1 ++
      [Register.sqControl.write queueResetBit] ++ enableQueues 16 1 ++ [.tick 1000000000000])).map (fun s =>
        (s.bridge.discardCompletion, s.bridge.firmwareAckTimer, s.sq.head, s.sq.tail)) =
      some (true, none, 0, 1) := by
  decide +kernel

end VamsSoc.Pcie
