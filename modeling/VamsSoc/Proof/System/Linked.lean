/-
This file relates the composed system to the abstract command protocol.
-/

import VamsSoc.Proof.Endpoint.History
import VamsSoc.Proof.Endpoint.Replies
import VamsSoc.Proof.Firmware.Answers
import VamsSoc.Proof.Portal.Exchange
import VamsSoc.Proof.System.Coupling
import VamsSoc.Construction.System.Machine

namespace VamsSoc.System
open Library Abi
open Firmware (Place Answers About tokens Verdict uptimeLimitMs)
open Coupling (Phase Stage Answer)
open Pcie (View)

def Untagged (completion : Completion) : Prop :=
  hasBits completion.deviceTimestamp Pcie.managementResetTag = false

/-- The clocks never reach the bit that tags a management reset. -/
theorem untagged_ofNat {count : Nat} (below : count < 2 ^ 63) :
    hasBits (BitVec.ofNat 64 count) Pcie.managementResetTag = false := by
  have top : (BitVec.ofNat 64 count).getLsbD 63 = false := by
    rw [BitVec.getLsbD_ofNat]
    simp [Nat.testBit_lt_two_pow below]
  have tag : Pcie.managementResetTag = BitVec.twoPow 64 63 := by decide
  rw [hasBits, tag, BitVec.and_twoPow, top]
  rfl

theorem Untagged.ordinary {completion : Completion} (untagged : Untagged completion) :
    Pcie.isManagementReset completion = false := by
  simp [Pcie.isManagementReset, show hasBits completion.deviceTimestamp Pcie.managementResetTag = false from untagged]

/-- The firmware answers such a descriptor with an authorization. -/
def authorizable (submission : Submission) : Bool :=
  Firmware.validateCommand submission == errNone && Firmware.isPayloadOpcode submission.opcode

/-- The frame starts the engine of an endpoint that awaits an authorization. -/
def authorizes (submission : Submission) (completion : Completion) : Bool :=
  completion.status == statusSuccess && Firmware.isPayloadOpcode submission.opcode

/-- The phase is read off the flags of the endpoint; only a reset of a refused command is disowned. -/
def InPhase (v : View) : Phase → Prop
  | .idle => v.Idle
  | .auth =>
      v.running = false ∧ v.bridge.inflight = true ∧ v.bridge.waitingFinal = false ∧
        v.bridge.discardCompletion = false
  | .engine => v.running = true ∧ v.bridge.inflight = false ∧ v.bridge.discardCompletion = false
  | .final =>
      v.running = false ∧ v.bridge.inflight = true ∧ v.bridge.waitingFinal = true ∧
        v.bridge.discardCompletion = false
  | .disowned =>
      v.running = false ∧ v.bridge.inflight = false ∧ v.bridge.discardCompletion = true ∧
        authorizable v.bridge.submission = false
  | .dropping => v.running = false ∧ v.bridge.inflight = false ∧ v.bridge.discardCompletion = true

/-- The endpoint still wants the answer in these phases. -/
def Phase.wanted : Phase → Bool
  | .auth | .engine | .final => true
  | .idle | .disowned | .dropping => false

/-- The history owns its completions, and a wanted command is its last descriptor. -/
structure Recorded (v : View) (phase : Phase) : Prop where
  owns : Pcie.Owns v.commands
  count : v.fetches = (Pcie.numbered v.commands).length
  current : Phase.wanted phase = true →
    Pcie.lastFetched v.commands = some (v.generation, v.bridge.submission) ∧ Pcie.unanswered v.commands = true

def IsResult (frame : Frame) : Prop := ∃ completion : Completion, frame.bytes = completion.toBytes ∧ Untagged completion

/-- At most one result is on its way to the portal; one that came too late fills half of its buffer. -/
def Trailing (tx : List Frame) (rx : List U8) : Prop :=
  (rx = [] ∧ (tx = [] ∨ ∃ late, IsResult late ∧ tx = [late])) ∨ (rx.length = completionSize ∧ tx = [])

/-- This is what the endpoint has sent and the portal has not taken. -/
def Requests (v : View) (rx : List U8) : Phase → Stage → Prop
  | _, .inChannel => ∃ late, v.link.tx = late ++ [⟨.submission, v.fetches, v.bridge.submission.toBytes⟩] ∧
      Trailing late rx
  | .idle, stage | .final, stage | .dropping, stage => Trailing v.link.tx rx ∧ (rx ≠ [] → stage = .quiet)
  | .auth, _ | .engine, _ | .disowned, _ => v.link.tx = [] ∧ rx = []

section Requests
variable {v : View} {rx : List U8} {phase : Phase} {stage : Stage}

theorem Requests.clean (requests : Requests v rx phase stage)
    (busy : phase = .auth ∨ phase = .engine ∨ phase = .disowned) (later : stage ≠ .inChannel) :
    v.link.tx = [] ∧ rx = [] := by
  rcases busy with rfl | rfl | rfl <;> cases stage <;> first | exact requests | exact absurd rfl later

theorem Requests.trailing (requests : Requests v rx phase stage) (ended : phase = .idle ∨ phase = .final ∨ phase = .dropping)
    (later : stage ≠ .inChannel) : Trailing v.link.tx rx ∧ (rx ≠ [] → stage = .quiet) := by
  rcases ended with rfl | rfl | rfl <;> cases stage <;> first | exact requests | exact absurd rfl later

theorem Requests.of_trailing (ended : phase = .idle ∨ phase = .final ∨ phase = .dropping) (later : stage ≠ .inChannel)
    (trailing : Trailing v.link.tx rx) (late : rx ≠ [] → stage = .quiet) : Requests v rx phase stage := by
  rcases ended with rfl | rfl | rfl <;> cases stage <;> first | exact ⟨trailing, late⟩ | exact absurd rfl later

theorem Requests.of_clean (later : stage ≠ .inChannel)
    (empty : v.link.tx = []) (none : rx = []) : Requests v rx phase stage := by
  have trailing : Trailing v.link.tx rx ∧ (rx ≠ [] → stage = .quiet) :=
    ⟨.inl ⟨none, .inl empty⟩, fun some => absurd none some⟩
  cases phase <;> cases stage <;> first | exact trailing | exact ⟨empty, none⟩ | exact absurd rfl later

/-- The result of an engine is the only frame on its way. -/
theorem Requests.of_result (fetch : Nat) {result : Completion}
    (ended : phase = .final ∨ phase = .dropping) (later : stage ≠ .inChannel) (none : rx = []) (untagged : Untagged result)
    (sent : v.link.tx = [⟨.engineResult, fetch, result.toBytes⟩]) : Requests v rx phase stage :=
  .of_trailing (.inr ended) later (.inl ⟨none, .inr ⟨_, ⟨result, rfl, untagged⟩, sent⟩⟩) fun some => absurd none some

end Requests

/-- The firmware has found no fault with the descriptor, and has recorded that. -/
def Cleared (verdicts : List Verdict) (fetch : Nat) (submission : Submission) : Prop :=
  Firmware.validateCommand submission = errNone ∧ ⟨fetch, submission, errNone⟩ ∈ verdicts

/-- The answer does what its name says. -/
def Suits (verdicts : List Verdict) (fetch : Nat) (submission : Submission) (completion : Completion) : Answer → Prop
  | .direct => authorizes submission completion = false
  | .grant => authorizes submission completion = true ∧ Cleared verdicts fetch submission
  | .abort => completion.status = statusTimedOut
  | .final => True

/-- The frame is an answer to the descriptor that was fetched last. -/
structure Carries (verdicts : List Verdict) (number : Nat) (submission : Submission) (frame : Frame)
    (answer : Answer) : Prop where
  fetch : frame.fetch = number
  kind : frame.kind = if answer = .abort then .abort else .answer
  record : ∃ completion : Completion, frame.bytes = completion.toBytes ∧
    completion.identity = submission.identity ∧ Untagged completion ∧
    Suits verdicts number submission completion answer

/-- Before the grant the object has not been authorized. -/
def unansweredPlace : Place → Bool
  | .captured | .judging | .ready | .collected | .selected | .granting _ | .grantRinging | .finishing
  | .completed | .publishing _ _ | .ringing _ => true
  | _ => false

/-- The recovery thread has the granted object, or is about to get it. -/
def runningPlace : Place → Bool
  | .handing | .running | .polling | .aborting | .requesting | .abortRinging | .awaiting _ => true
  | _ => false

/-- The outcome of the granted object is known to the firmware. -/
def settledPlace : Place → Bool
  | .draining | .applying _ | .ending | .completed | .publishing _ _ | .ringing _ => true
  | _ => false

/-- The answer that is about to be rung stands in the completion window. -/
def windowPlace : Place → Bool
  | .grantRinging | .abortRinging | .ringing _ => true
  | _ => false

/-- What is known of the completion of the live object at its place. -/
def Shows (verdicts : List Verdict) (granted : Bool) (fetch : Nat) (submission : Submission)
    (completion : Completion) : Place → Prop
  | .ready | .collected | .selected => completion.status = statusSuccess ∧ Cleared verdicts fetch submission
  | .granting _ | .grantRinging => authorizes submission completion = true ∧ Cleared verdicts fetch submission
  | .requesting | .abortRinging => completion.status = statusTimedOut
  | .applying result => Untagged result
  | .finishing | .completed | .publishing _ _ | .ringing _ => granted = false → authorizes submission completion = false
  | .schedulerParked | .completerParked => False
  | _ => True

/-- What the live object holds at its place. -/
def Holds (verdicts : List Verdict) (granted : Bool) (fetch : Nat) (submission : Submission)
    (command : Firmware.CommandObject) (place : Place) : Prop :=
  if place = .captured ∨ place = .judging then About command fetch submission
  else Answers command fetch submission ∧ Untagged command.completion ∧
    Shows verdicts granted fetch submission command.completion place

/-- The only live object is at the place, about the last descriptor, and copied when it is about to be rung. -/
structure Live (command : Mgmt.Command) (firmware : Firmware.State) (fetch : Nat) (submission : Submission)
    (place : Place) : Prop where
  token : ∃ slot, tokens firmware = [(slot, place)] ∧
    Holds firmware.verdicts command.resultExpected fetch submission (firmware.objects slot) place ∧
    (windowPlace place = true → command.completion = (firmware.objects slot).completion.toBytes ∧
      command.completionFetch = fetch)
  taken : hasBits command.status Mgmt.commandH2fPending = false
  window : command.submission = submission.toBytes

/-- This is what portal and firmware are doing in each stage. -/
def Serves (command : Mgmt.Command) (firmware : Firmware.State) (fetch : Nat) (submission : Submission) : Stage → Prop
  | .quiet | .inChannel =>
      command.resultExpected = false ∧ tokens firmware = [] ∧ hasBits command.status Mgmt.commandH2fPending = false
  | .queued =>
      command.resultExpected = false ∧ tokens firmware = [] ∧ hasBits command.status Mgmt.commandH2fPending = true ∧
        command.submission = submission.toBytes ∧ command.submissionFetch = fetch
  | .unanswered =>
      command.resultExpected = false ∧
        ∃ place, unansweredPlace place = true ∧ Live command firmware fetch submission place
  | .running =>
      command.resultExpected = true ∧
        ∃ place, runningPlace place = true ∧ Live command firmware fetch submission place
  | .aborted =>
      command.resultExpected = true ∧ ∃ deadlineMs, Live command firmware fetch submission (.awaiting deadlineMs)
  | .settled =>
      command.resultExpected = true ∧
        ∃ place, settledPlace place = true ∧ Live command firmware fetch submission place

/-- The parts of the composed system are in the abstract state. -/
structure Linked (v : View) (portal : Mgmt.State) (firmware : Firmware.State) (a : Coupling.State) : Prop where
  phase : InPhase v a.phase
  whole : v.bridge.completionRx = [] ∧ v.bridge.controlRx = []
  clock : v.clockNs < Pcie.clockLimitNs
  uptime : firmware.uptimeMs < uptimeLimitMs
  stamp : Untagged v.bridge.completion
  result : Untagged (Completion.ofBytes portal.command.result)
  recorded : Recorded v a.phase
  requests : Requests v portal.command.rx a.phase a.stage
  answers : List.Forall₂ (Carries firmware.verdicts v.fetches v.bridge.submission) portal.link.tx a.answers
  serves : Serves portal.command firmware v.fetches v.bridge.submission a.stage
  coupled : Coupling.Coupled a

namespace Linked
variable {v : View} {portal : Mgmt.State} {firmware : Firmware.State} {a : Coupling.State}

/-- The results of the endpoint are dated by one of the two clocks. -/
theorem untagged (linked : Linked v portal firmware a) {result : Completion} (stamped : v.Stamped result) :
    Untagged result := by
  rcases stamped with granted | now
  · rw [Untagged, granted]
    exact linked.stamp
  · rw [Untagged, now]
    refine untagged_ofNat ?_
    have clock := linked.clock
    unfold Pcie.clockLimitNs Pcie.timeLimitNs at clock
    omega

theorem idle_phase (linked : Linked v portal firmware a) (idle : v.Idle) : a.phase = .idle := by
  obtain ⟨inflight, discard, running⟩ := idle
  have phase := linked.phase
  cases now : a.phase <;> rw [now] at phase <;> simp_all [InPhase]

theorem engine_phase (linked : Linked v portal firmware a) (running : v.running = true) : a.phase = .engine := by
  have phase := linked.phase
  cases now : a.phase <;> rw [now] at phase <;> simp_all [InPhase, View.Idle]

/-- An idle endpoint has nothing to expect. -/
theorem idle_quiet (linked : Linked v portal firmware a) (idle : a.phase = .idle) :
    a.answers = [] ∧ a.stage = .quiet := by simpa [Coupling.Coupled, idle] using linked.coupled

end Linked
end VamsSoc.System
