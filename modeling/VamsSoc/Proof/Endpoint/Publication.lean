/-
This file shows where completions are written, and how the host makes a completion go elsewhere.
-/

import VamsSoc.Proof.Endpoint.CommandOwnership

namespace VamsSoc.Pcie
open Library Abi

variable {σ : Type}

/-- Each call that publishes found an open queue and wrote to a free slot of it, and its assertion has held. -/
structure SafePublication (s : State σ) : Prop where
  calls : ∀ generation queue completion written, .publish generation queue completion written ∈ s.history.commands →
    SafeWrite s.history.accesses queue completion
  roomy : .publishRoom ∉ s.signals.failed

theorem Custody.safePublication {s : State σ} (custody : Custody True s) : SafePublication s where
  calls _ _ _ _ published := custody.logged trivial _ published
  roomy failed := by
    rcases custody.signals.clean _ failed with geometry | ⟨-, unguarded⟩
    · exact absurd geometry (by decide)
    · exact unguarded trivial

/-- Completions stay inside the queue as long as the host keeps it for them. -/
theorem safePublication_of_kept_queue (host : Host σ) (debugEnabled connected : Bool) (memory : σ)
    (events : List Event) (keeps : (step host).Meets KeepsCq (powerOn debugEnabled connected memory) events) :
    (step host).Always SafePublication (powerOn debugEnabled connected memory) events := by
  refine (EventMachine.always_of_meets ?_ (Custody.powerOn True debugEnabled connected memory) keeps).mono
    fun _ custody => custody.safePublication
  intro state event next custody kept stepped
  exact custody.step host event (fun _ => kept) stepped

/-- The host enables two queues of this depth and submits descriptors. -/
def enableQueues (depth tail : U32) : List Event :=
  [Register.sqBaseLo.write 0x1000, Register.sqBaseHi.write 0, Register.sqDepth.write depth,
    Register.cqBaseLo.write 0x2000, Register.cqBaseHi.write 0, Register.cqDepth.write depth,
    Register.sqControl.write queueEnable, Register.cqControl.write queueEnable, .busMaster true,
    Register.deviceControl.write controlEnable, Register.sqDoorbell.write tail]

/-- The firmware answers one descriptor. -/
def answerFrame : Event := .receive (List.replicate completionSize 0)

/-- Two answered descriptors leave two safe completions. -/
theorem answered_descriptors_publish_safely :
    (step zeroHost).Meets KeepsCq (powerOn false true ()) (enableQueues 16 2 ++ [answerFrame, answerFrame]) ∧
      (step zeroHost).Always SafePublication (powerOn false true ())
        (enableQueues 16 2 ++ [answerFrame, answerFrame]) := by
  have keeps : (step zeroHost).Meets KeepsCq (powerOn false true ())
      (enableQueues 16 2 ++ [answerFrame, answerFrame]) := by decide +kernel
  exact ⟨keeps, safePublication_of_kept_queue zeroHost false true () _ keeps⟩

/-- The host disables a queue with 15 completions and makes it smaller while the next completion is in flight. -/
def resizedQueue : List Event :=
  enableQueues 32 16 ++ List.replicate 15 answerFrame ++
    [Register.cqControl.write 0, Register.cqWatermark.write 0xf0000, Register.cqDepth.write 16, answerFrame]

/-- The last completion is published to a disabled and full queue, and the assertion fails. -/
theorem resized_queue_overflows :
    ∃ final, (step zeroHost).run (powerOn false true ()) resizedQueue = some final ∧
      final.signals.failed = [.publishRoom] ∧
      ∃ generation queue completion written,
        .publish generation queue completion written ∈ final.history.commands ∧
          hasBits queue.control queueEnable = false ∧ queue.full = true := by
  have reached : ((step zeroHost).run (powerOn false true ()) resizedQueue).map
      (fun s => (s.signals.failed, s.history.commands.any fun event => match event with
        | .publish _ queue _ _ => !hasBits queue.control queueEnable && queue.full
        | _ => false)) = some ([.publishRoom], true) := by decide +kernel
  obtain ⟨final, ran, seen⟩ := Option.map_eq_some_iff.mp reached
  simp only [Prod.mk.injEq, List.any_eq_true] at seen
  obtain ⟨failed, event, published, overflows⟩ := seen
  refine ⟨final, ran, failed, ?_⟩
  cases event with
  | publish generation queue completion written =>
      simp only [Bool.and_eq_true, Bool.not_eq_true'] at overflows
      exact ⟨generation, queue, completion, written, published, overflows⟩
  | fetched | engineStarted => exact absurd overflows Bool.false_ne_true

end VamsSoc.Pcie
