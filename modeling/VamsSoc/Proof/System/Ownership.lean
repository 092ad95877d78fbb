/-
This file says which command a completion belongs to, and shows a schedule in which an abort crosses a result.
-/

import VamsSoc.Proof.System.Runs

namespace VamsSoc.System
open Library Abi
open Pcie (ringHost NamesLastFetch AnswersOnce fetchedIdentities publishedIdentities Register)

variable {σ : Type}

structure Owned (s : State σ) : Prop where
  names : NamesLastFetch s.endpoint.history.commands
  once : AnswersOnce s.endpoint.history.commands

/-- The first descriptor fills four bytes and may take twenty milliseconds. -/
def fillCommand : Submission where
  version := descVersion1
  opcode := opMemFill
  commandId := 1
  sourceDma := 0x5a
  destinationDma := 0x3000
  length := 4
  timeoutMs := 20
  userCookie := 0x11

def nopCommand : Submission where
  version := descVersion1
  opcode := opNop
  commandId := 2
  userCookie := 0x22

/-- The host configures both queues and rings the doorbell. -/
def submit (descriptors : U32) : List Event :=
  [Register.sqBaseLo.write 0x1000, Register.sqBaseHi.write 0, Register.sqDepth.write 16,
    Register.sqControl.write Pcie.queueEnable, Register.cqBaseLo.write 0x2000,
    Register.cqBaseHi.write 0, Register.cqDepth.write 16, Register.cqControl.write Pcie.queueEnable,
    .busMaster true, Register.deviceControl.write Pcie.controlEnable, .tick 1000000,
    Register.sqDoorbell.write descriptors].map .endpoint

/-- The firmware takes the next descriptor and validates it. -/
def validateNext : List Event :=
  [.deliverPortal 64, .thread .receiver, .thread .receiver, .thread .validator, .thread .validator]

/-- The firmware authorizes the first command. -/
def authorizeFirst : List Event := validateNext ++ List.replicate 7 (.thread .scheduler)

/-- The firmware waits for the result, and sends an abort at its deadline. -/
def abortFirst : List Event := [.thread .recovery, .uptime 20] ++ List.replicate 4 (.thread .recovery)

/-- The engine finishes while the abort is on its way. -/
def crossAbort : List Event :=
  abortFirst ++ [.endpoint (.tick 21000000), .endpoint .engineTimer, .deliverEndpoint 32, .deliverPortal 32]

/-- The firmware publishes its final answer for the first command. -/
def answerFirst : List Event :=
  List.replicate 3 (.thread .recovery) ++ List.replicate 3 (.thread .completer) ++ [.deliverEndpoint 32]

def crossingAbort : List Event :=
  submit 2 ++ authorizeFirst ++ [.deliverEndpoint 32] ++ crossAbort ++ answerFirst

/-- No assertion of the three programs has failed. -/
def unaborted (s : State σ) : Bool :=
  s.endpoint.signals.failed.isEmpty && s.portal.failed.isEmpty && s.firmware.failed.isEmpty

/-- The abort is taken for the final answer, so the real one is published while the next command is in flight. -/
theorem crossing_abort_publishes_twice :
    ∃ final, (step (ringHost fillCommand nopCommand)).run (powerOn false false ()) crossingAbort = some final ∧
      fetchedIdentities final.endpoint.history.commands = [(2, 0x22), (1, 0x11)] ∧
      publishedIdentities final.endpoint.history.commands = [(1, 0x11), (1, 0x11)] ∧
      final.endpoint.cq.tail = 2 ∧ unaborted final = true ∧ ¬NamesLastFetch final.endpoint.history.commands ∧
      ¬AnswersOnce final.endpoint.history.commands := by
  have reached : ((step (ringHost fillCommand nopCommand)).run (powerOn false false ()) crossingAbort).map
      (fun s => (fetchedIdentities s.endpoint.history.commands,
        publishedIdentities s.endpoint.history.commands, s.endpoint.cq.tail, unaborted s,
        decide (NamesLastFetch s.endpoint.history.commands))) =
      some ([(2, 0x22), (1, 0x11)], [(1, 0x11), (1, 0x11)], 2, true, false) := by decide +kernel
  obtain ⟨final, ran, seen⟩ := Option.map_eq_some_iff.mp reached
  simp only [Prod.mk.injEq, decide_eq_false_iff_not] at seen
  obtain ⟨fetched, published, written, clean, names⟩ := seen
  refine ⟨final, ran, fetched, published, written, clean, names, fun once => ?_⟩
  have distinct := once (by rw [fetched]; decide)
  rw [published] at distinct
  exact absurd distinct (by decide)

/-- The host resets neither its queues nor the device. -/
def unreset : Event → Bool
  | .endpoint event => !Pcie.hostCancels event
  | _ => true

/-- Without a reset nothing waits for an acknowledgment of the firmware. -/
theorem related_of_unreset {host : Pcie.Host σ} {s next : State σ} {event : Event}
    (before : Related s ∧ s.endpoint.bridge.firmwareAckTimer = none) (inside : connected s event = true)
    (plain : unreset event = true) (timely : abortsInTime s event = true) (stepped : step host s event = some next) :
    Related next ∧ next.endpoint.bridge.firmwareAckTimer = none := by
  obtain ⟨related, untimed⟩ := before
  have silent : ∀ inner, event = .endpoint inner → Pcie.hostCancels inner = false := by
    rintro inner rfl
    simpa [unreset] using plain
  have keeps : keepsAnswers s event = true := by
    cases event with
    | endpoint inner => simp [keepsAnswers, silent inner rfl, Related.unfired untimed stepped]
    | _ => rfl
  exact ⟨related.step host inside timely keeps stepped, related.untimed host inside silent untimed stepped⟩

/-- As long as aborts reach a running engine, each completion is the only one of the last descriptor. -/
theorem owned_of_timely_aborts (host : Pcie.Host σ) (dropAbortResult : Bool) (memory : σ) {events : List Event}
    (meets : (step host).Meets
      (fun s event => connected s event = true ∧ unreset event = true ∧ abortsInTime s event = true)
      (powerOn false dropAbortResult memory) events) :
    (step host).Always Owned (powerOn false dropAbortResult memory) events := by
  have always := EventMachine.always_of_meets
    (fun s event next before allowed stepped =>
      related_of_unreset before allowed.1 allowed.2.1 allowed.2.2 stepped)
    ⟨related_powerOn dropAbortResult memory, rfl⟩ meets
  refine always.mono ?_
  rintro s ⟨related, -⟩
  obtain ⟨a, linked⟩ := related.linked
  exact ⟨linked.recorded.owns.namesLastFetch, linked.recorded.owns.answersOnce⟩

/-- This time the abort reaches the engine, and both commands get their own completion. -/
def abortInTime : List Event :=
  submit 2 ++ authorizeFirst ++ [.deliverEndpoint 32] ++ abortFirst ++ [.deliverEndpoint 32, .deliverPortal 32] ++
    answerFirst

theorem abort_in_time_publishes_once :
    (((step (ringHost fillCommand nopCommand)).run (powerOn false false ()) abortInTime).map fun s =>
      (fetchedIdentities s.endpoint.history.commands, publishedIdentities s.endpoint.history.commands)) =
        some ([(2, 0x22), (1, 0x11)], [(1, 0x11)]) ∧
      (step (ringHost fillCommand nopCommand)).Always Owned (powerOn false false ()) abortInTime :=
  ⟨by decide +kernel, owned_of_timely_aborts _ false () (by decide +kernel)⟩

end VamsSoc.System
