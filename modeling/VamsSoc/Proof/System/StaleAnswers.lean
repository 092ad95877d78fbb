/-
This file follows answers that come after a reset, and answers that start the engine.
-/

import VamsSoc.Proof.System.Ownership

namespace VamsSoc.System
open Library Abi
open Pcie (ringHost RespectsResets fetchedIdentities publishedIdentities Register)

variable {σ : Type}

/-- The host resets its queues and submits the second descriptor. -/
def resubmit : List Event :=
  [Register.sqControl.write Pcie.queueResetBit, Register.sqBaseLo.write 0x1040, Register.sqBaseHi.write 0,
    Register.sqControl.write Pcie.queueEnable, Register.cqControl.write Pcie.queueEnable,
    Register.deviceControl.write Pcie.controlEnable, Register.sqDoorbell.write 1].map .endpoint

/-- The reset comes before the authorization, which is discarded; the abort that follows is not. -/
def lateAbort : List Event :=
  submit 1 ++ authorizeFirst ++ resubmit ++ [.deliverEndpoint 32] ++ abortFirst ++ [.deliverEndpoint 32]

/-- This is the history of generations and identities, with the newest event first. -/
def generations : List Pcie.CommandEvent → List (U32 × U32 × U64)
  | [] => []
  | .fetched generation submission :: rest => (generation, submission.identity) :: generations rest
  | .publish generation _ completion _ :: rest => (generation, completion.identity) :: generations rest
  | .engineStarted _ :: rest => generations rest

/-- The completion of the new generation names the descriptor of the old one. -/
theorem late_abort_crosses_reset :
    ∃ final, (step (ringHost fillCommand nopCommand)).run (powerOn false false ()) lateAbort = some final ∧
      generations final.endpoint.history.commands = [(1, 1, 0x11), (1, 2, 0x22), (0, 1, 0x11)] ∧
      final.endpoint.cq.tail = 1 ∧ unaborted final = true ∧ ¬RespectsResets final.endpoint.history.commands := by
  have reached : ((step (ringHost fillCommand nopCommand)).run (powerOn false false ()) lateAbort).map
      (fun s => (generations s.endpoint.history.commands, s.endpoint.cq.tail, unaborted s,
        decide (RespectsResets s.endpoint.history.commands))) =
      some ([(1, 1, 0x11), (1, 2, 0x22), (0, 1, 0x11)], 1, true, false) := by decide +kernel
  obtain ⟨final, ran, seen⟩ := Option.map_eq_some_iff.mp reached
  simp only [Prod.mk.injEq, decide_eq_false_iff_not] at seen
  exact ⟨final, ran, seen⟩

/-- As long as no answer is cut off, no completion names a descriptor of an earlier generation. -/
theorem respectsResets_of_orderly (host : Pcie.Host σ) (dropAbortResult : Bool) (memory : σ) {events : List Event}
    (meets : (step host).Meets Orderly (powerOn false dropAbortResult memory) events) :
    (step host).Always (fun s => RespectsResets s.endpoint.history.commands)
      (powerOn false dropAbortResult memory) events := by
  refine (related_always host dropAbortResult memory meets).mono ?_
  intro s related
  obtain ⟨a, linked⟩ := related.linked
  exact linked.recorded.owns.respectsResets

/-- The reset stops the engine, its result is acknowledged, and the next generation completes its own command. -/
def resetInTime : List Event :=
  submit 1 ++ authorizeFirst ++ [.deliverEndpoint 32, .thread .recovery] ++ resubmit ++ [.deliverPortal 32] ++
    answerFirst ++ validateNext ++ List.replicate 5 (.thread .scheduler) ++
    List.replicate 4 (.thread .completer) ++ [.deliverEndpoint 32]

theorem reset_in_time_respects_generations :
    (((step (ringHost fillCommand nopCommand)).run (powerOn false false ()) resetInTime).map fun s =>
      generations s.endpoint.history.commands) = some [(1, 2, 0x22), (1, 2, 0x22), (0, 1, 0x11)] ∧
      (step (ringHost fillCommand nopCommand)).Always (fun s => RespectsResets s.endpoint.history.commands)
        (powerOn false false ()) resetInTime :=
  ⟨by decide +kernel, respectsResets_of_orderly _ false () (by decide +kernel)⟩

/-- The firmware refuses this descriptor because of its flags. -/
def refusedFill : Submission := { fillCommand with flags := 1, commandId := 2, userCookie := 0x22 }

/-- The final answer to the first command starts the engine for a descriptor that the firmware never saw. -/
theorem crossing_abort_starts_refused_payload :
    ∃ final, (step (ringHost fillCommand refusedFill)).run (powerOn false false ()) crossingAbort = some final ∧
      final.starts.map (fun start => (start.fetch, start.submission, start.answer.map Frame.fetch)) =
        [(2, refusedFill, some 1), (1, fillCommand, some 1)] ∧
      Firmware.validateCommand refusedFill ≠ errNone ∧
      final.firmware.verdicts = [⟨1, fillCommand, errNone⟩] ∧ unaborted final = true ∧
      ¬∀ start ∈ final.starts, Authorized final.endpoint.history.commands final.firmware.verdicts start := by
  have reached : ((step (ringHost fillCommand refusedFill)).run (powerOn false false ()) crossingAbort).map
      (fun s => (s.starts.map fun start => (start.fetch, start.submission, start.answer.map Frame.fetch),
        s.firmware.verdicts, unaborted s)) =
      some ([(2, refusedFill, some 1), (1, fillCommand, some 1)], [⟨1, fillCommand, errNone⟩], true) := by
    decide +kernel
  obtain ⟨final, ran, seen⟩ := Option.map_eq_some_iff.mp reached
  simp only [Prod.mk.injEq] at seen
  obtain ⟨starts, verdicts, clean⟩ := seen
  refine ⟨final, ran, starts, by decide, verdicts, clean, fun authorized => ?_⟩
  -- The second start has no verdict at all.
  obtain ⟨start, member, same⟩ := List.mem_map.mp (starts ▸ List.mem_cons_self)
  have validated := (authorized start member).validated
  rw [(Prod.mk.inj same).1, verdicts, List.mem_singleton] at validated
  exact absurd (congrArg Firmware.Verdict.fetch validated) (show (2 : Nat) ≠ 1 by decide)

/-- As long as no answer is cut off, every engine start was authorized for its own descriptor. -/
theorem starts_authorized_of_orderly (host : Pcie.Host σ) (dropAbortResult : Bool) (memory : σ)
    {events : List Event} (meets : (step host).Meets Orderly (powerOn false dropAbortResult memory) events) :
    (step host).Always
      (fun s => ∀ start ∈ s.starts, Authorized s.endpoint.history.commands s.firmware.verdicts start)
      (powerOn false dropAbortResult memory) events := by
  refine (related_always host dropAbortResult memory meets).mono ?_
  intro s related
  exact related.authorized

theorem reset_in_time_authorizes :
    (((step (ringHost fillCommand nopCommand)).run (powerOn false false ()) resetInTime).map fun s =>
      s.starts.map Start.submission) = some [fillCommand] ∧
      (step (ringHost fillCommand nopCommand)).Always
        (fun s => ∀ start ∈ s.starts, Authorized s.endpoint.history.commands s.firmware.verdicts start)
        (powerOn false false ()) resetInTime :=
  ⟨by decide +kernel, starts_authorized_of_orderly _ false () (by decide +kernel)⟩

end VamsSoc.System
