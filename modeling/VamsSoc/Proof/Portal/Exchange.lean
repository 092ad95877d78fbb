/-
This file has what each doorbell and each whole frame does to a portal that is not resetting.
-/

import VamsSoc.Proof.Portal.Window

namespace VamsSoc.Mgmt
open Library Abi

/-- The portal is up, not resetting, and has no answer that waits for the host. -/
structure Calm (s : State) : Prop where
  connected : s.link.connected = true
  writable : s.link.writable = true
  working : s.reset.pending = false
  unacked : s.reset.ackExpected = false
  warm : s.reset.warmPending = false
  untimed : s.reset.ackTimer = none
  free : hasBits s.command.status commandF2hPending = false
  window : s.command.completion.length = completionSize

/-- The records of the command and of the result are the same as before. -/
structure SameRecords (before after : Command) : Prop where
  submission : after.submission = before.submission
  submissionFetch : after.submissionFetch = before.submissionFetch
  result : after.result = before.result
  rx : after.rx = before.rx

/-- Only the completion window and the bookkeeping of results have changed. -/
structure Undisturbed (before after : State) : Prop where
  calm : Calm after
  records : SameRecords before.command after.command
  pending : Firmware.pending after = Firmware.pending before
  expects : after.command.resultExpected = before.command.resultExpected

theorem Calm.undisturbed {s : State} (calm : Calm s) : Undisturbed s s :=
  ⟨calm, ⟨rfl, rfl, rfl, rfl⟩, rfl, rfl⟩

theorem Calm.of_parts {s t : State} (calm : Calm s) (link : t.link.connected = s.link.connected ∧
    t.link.writable = s.link.writable) (reset : t.reset = s.reset)
    (free : hasBits t.command.status commandF2hPending = hasBits s.command.status commandF2hPending)
    (window : t.command.completion.length = s.command.completion.length) : Calm t where
  connected := link.1.trans calm.connected
  writable := link.2.trans calm.writable
  working := by rw [reset]; exact calm.working
  unacked := by rw [reset]; exact calm.unacked
  warm := by rw [reset]; exact calm.warm
  untimed := by rw [reset]; exact calm.untimed
  free := free.trans calm.free
  window := window.trans calm.window

/-- An error bit is all that a refused doorbell leaves behind. -/
theorem Calm.protocolError {s : State} (calm : Calm s) :
    Undisturbed s (protocolError s) ∧ (protocolError s).link = s.link := by
  refine ⟨⟨calm.of_parts ⟨rfl, rfl⟩ rfl ?_ rfl, ⟨rfl, rfl, rfl, rfl⟩, ?_, rfl⟩, rfl⟩
  · exact hasBits_or _ (by decide)
  · exact hasBits_or _ (by decide)

theorem Calm.fwAck {s : State} (calm : Calm s) (waiting : Firmware.pending s = true) :
    Calm (commandWrite s .fwAck 1) ∧ (commandWrite s .fwAck 1).link = s.link ∧
      SameRecords s.command (commandWrite s .fwAck 1).command ∧
      Firmware.pending (commandWrite s .fwAck 1) = false ∧
      (commandWrite s .fwAck 1).command.resultExpected = s.command.resultExpected := by
  have acked : commandWrite s .fwAck 1 = s.setCommand (s.command.clearBits commandH2fPending) := by
    have set : hasBits s.command.status commandH2fPending = true := waiting
    simp [commandWrite, calm.working, Mgmt.fwAck, set]
  rw [acked]
  refine ⟨calm.of_parts ⟨rfl, rfl⟩ rfl (hasBits_clearBits _ (by decide)) rfl, rfl, ⟨rfl, rfl, rfl, rfl⟩, ?_, rfl⟩
  simp [Firmware.pending, Command.clearBits, hasBits, Library.clearBits, BitVec.and_assoc]

/-- A taken result clears its bit. -/
theorem Calm.takeResult {s : State} (calm : Calm s) (ready : Firmware.resultPending s = true) :
    Undisturbed s (Firmware.takeResult s).2 ∧ (Firmware.takeResult s).2.link = s.link ∧
      (Firmware.takeResult s).2.command.completion = s.command.completion := by
  have taken : (Firmware.takeResult s).2 = s.setCommand (s.command.clearBits commandResultPending) := by
    have set : hasBits s.command.status commandResultPending = true := ready
    simp [Firmware.takeResult, commandWrite, calm.working, resultAck, set]
  rw [taken]
  refine ⟨⟨calm.of_parts ⟨rfl, rfl⟩ rfl (hasBits_clearBits _ (by decide)) rfl, ⟨rfl, rfl, rfl, rfl⟩, ?_, rfl⟩, rfl, rfl⟩
  exact hasBits_clearBits _ (by decide)

theorem Calm.copyToPortal {s : State} (calm : Calm s) (command : Firmware.CommandObject) :
    Undisturbed s (Firmware.copyToPortal s command) ∧ (Firmware.copyToPortal s command).link = s.link ∧
      (Firmware.copyToPortal s command).command.completion = command.completion.toBytes ∧
      (Firmware.copyToPortal s command).command.completionFetch = command.fetch := by
  unfold Firmware.copyToPortal
  rw [copyCompletion_open calm.working calm.free calm.window]
  refine ⟨⟨calm.of_parts ⟨rfl, rfl⟩ rfl rfl ?_, ⟨rfl, rfl, rfl, rfl⟩, rfl, rfl⟩, rfl, rfl, rfl⟩
  exact (Completion.length_toBytes _).trans calm.window.symm

theorem chrWriteAll_up {s : State} (connected : s.link.connected = true) (writable : s.link.writable = true)
    (kind : FrameKind) (fetch : Nat) (bytes : List U8) :
    chrWriteAll s kind fetch bytes = (true, s.setLink { s.link with tx := s.link.tx ++ [⟨kind, fetch, bytes⟩] }) :=
  if_pos (by rw [connected, writable]; rfl)

/-- An abort is sent, or refused because a result has come or none is expected. -/
theorem Calm.fwAbort {s : State} (calm : Calm s) :
    Undisturbed s (commandWrite s .fwAbort 1) ∧
      ((commandWrite s .fwAbort 1).link.tx = s.link.tx ∨
        (commandWrite s .fwAbort 1).link.tx =
          s.link.tx ++ [⟨.abort, s.command.completionFetch, s.command.completion⟩]) := by
  have opened : commandWrite s .fwAbort 1 = Mgmt.fwAbort s 1 := by simp [commandWrite, calm.working]
  rw [opened]
  unfold Mgmt.fwAbort
  split_ifs with refused
  · exact ⟨calm.protocolError.1, .inl rfl⟩
  · dsimp only
    rw [chrWriteAll_up (by exact calm.connected) (by exact calm.writable), if_pos rfl]
    exact ⟨⟨calm.of_parts ⟨rfl, rfl⟩ rfl rfl rfl, ⟨rfl, rfl, rfl, rfl⟩, rfl, rfl⟩, .inr rfl⟩

/-- The range check of the portal finds the payload opcodes. -/
theorem payload_range (opcode : U8) :
    (opMemCopy ≤ opcode ∧ opcode ≤ opVectorAdd) ↔ Firmware.isPayloadOpcode opcode = true := by
  revert opcode
  decide

/-- A sent answer leaves the records alone and frees the window. -/
theorem Command.answered_eq (command : Command) :
    ∃ active, command.answered = { command.clearBits commandF2hPending with
      resultExpected := !command.resultExpected &&
        (Completion.ofBytes command.completion).status == statusSuccess &&
        Firmware.isPayloadOpcode (Submission.ofBytes command.submission).opcode
      active } := by
  unfold Command.answered
  dsimp only
  split_ifs with expects granted
  · exact ⟨false, by simp [expects]⟩
  · have payload := (payload_range _).mp granted.2
    exact ⟨command.active, by simp [expects, granted.1, payload, Command.clearBits]⟩
  · refine ⟨false, ?_⟩
    have refused : ((Completion.ofBytes command.completion).status == statusSuccess &&
        Firmware.isPayloadOpcode (Submission.ofBytes command.submission).opcode) = false := by
      rw [Bool.eq_false_iff]
      intro both
      simp only [Bool.and_eq_true, beq_iff_eq] at both
      exact granted ⟨both.1, (payload_range _).mpr both.2⟩
    simp [refused, Command.clearBits, expects]

/-- A rung answer goes out, and the portal waits for the result of a granted payload. -/
theorem Calm.fwComplete {s : State} (calm : Calm s) (taken : Firmware.pending s = false) :
    Calm (commandWrite s .fwComplete 1) ∧
      (commandWrite s .fwComplete 1).link.tx =
        s.link.tx ++ [⟨.answer, s.command.completionFetch, s.command.completion⟩] ∧
      SameRecords s.command (commandWrite s .fwComplete 1).command ∧
      Firmware.pending (commandWrite s .fwComplete 1) = false ∧
      (commandWrite s .fwComplete 1).command.resultExpected =
        (!s.command.resultExpected && (Completion.ofBytes s.command.completion).status == statusSuccess &&
          Firmware.isPayloadOpcode (Submission.ofBytes s.command.submission).opcode) := by
  have idle : hasBits s.command.status (commandH2fPending ||| commandF2hPending) = false := by
    rw [hasBits_mask_or, calm.free, Bool.or_false]
    exact taken
  have opened : commandWrite s .fwComplete 1 = Mgmt.fwComplete s 1 := by simp [commandWrite, calm.working]
  rw [opened]
  unfold Mgmt.fwComplete
  rw [if_neg (by simp [idle])]
  dsimp only
  rw [if_neg (by simp [calm.connected]), chrWriteAll_up (by exact calm.connected) (by exact calm.writable),
    if_pos rfl]
  obtain ⟨active, answered⟩ := Command.answered_eq { s.command with
    status := s.command.status ||| commandF2hPending, completeCount := satInc s.command.completeCount }
  refine ⟨⟨calm.connected, calm.writable, calm.working, calm.unacked, calm.warm, calm.untimed, ?_, ?_⟩, rfl, ?_, ?_, ?_⟩
  all_goals simp only [State.setCommand_command, State.setLink_command, answered]
  · simp [Command.clearBits, hasBits, Library.clearBits, BitVec.and_assoc]
  · exact calm.window
  · exact ⟨rfl, rfl, rfl, rfl⟩
  · have cleared := hasBits_clearBits (s.command.status ||| commandF2hPending)
      (show commandF2hPending &&& commandH2fPending = 0 by decide)
    rw [hasBits_or _ (by decide)] at cleared
    exact cleared.trans taken

/-- A whole submission is taken by a portal that waits for one. -/
theorem Calm.receiveSubmission {s : State} (calm : Calm s) (waits : s.command.resultExpected = false)
    (empty : s.command.rx = []) {bytes : List U8} (size : bytes.length = submissionSize) (fetch : Nat) :
    Calm (receive s bytes fetch) ∧ (receive s bytes fetch).link = s.link ∧
      Firmware.pending (receive s bytes fetch) = true ∧
      (receive s bytes fetch).command.resultExpected = false ∧
      (receive s bytes fetch).command.submission = bytes ∧
      (receive s bytes fetch).command.submissionFetch = fetch ∧
      (receive s bytes fetch).command.result = s.command.result ∧
      (receive s bytes fetch).command.rx = [] := by
  have taken : receive s bytes fetch = Mgmt.receiveSubmission s bytes fetch := by
    simp [receive, expectedSize, calm.unacked, waits, empty, size, require]
  rw [taken]
  refine ⟨calm.of_parts ⟨rfl, rfl⟩ rfl (hasBits_or _ (by decide)) rfl, rfl, ?_, waits, rfl, rfl, rfl, rfl⟩
  have set : (s.command.status ||| commandH2fPending) &&& commandH2fPending = commandH2fPending := by
    ext index
    simp only [BitVec.getElem_and, BitVec.getElem_or]
    cases s.command.status[index] <;> cases commandH2fPending[index] <;> rfl
  simp only [Firmware.pending, Mgmt.receiveSubmission, State.setCommand_command, hasBits, set]
  decide

/-- A whole result is stored, or dropped by the fault that the portal was started with. -/
theorem Calm.receiveResult {s : State} (calm : Calm s) (waits : s.command.resultExpected = true)
    (empty : s.command.rx = []) {bytes : List U8} (size : bytes.length = completionSize) (fetch : Nat) :
    Calm (receive s bytes fetch) ∧ (receive s bytes fetch).link = s.link ∧
      Firmware.pending (receive s bytes fetch) = Firmware.pending s ∧
      (receive s bytes fetch).command.resultExpected = true ∧
      (receive s bytes fetch).command.submission = s.command.submission ∧
      (receive s bytes fetch).command.completion = s.command.completion ∧
      (receive s bytes fetch).command.completionFetch = s.command.completionFetch ∧
      ((receive s bytes fetch).command.result = s.command.result ∨
        (receive s bytes fetch).command.result = bytes) ∧
      (receive s bytes fetch).command.rx = [] := by
  have taken : receive s bytes fetch = Mgmt.receiveResult s bytes := by
    simp [receive, expectedSize, calm.unacked, waits, empty, size, require]
  rw [taken]
  unfold Mgmt.receiveResult
  split_ifs
  · exact ⟨calm.of_parts ⟨rfl, rfl⟩ rfl rfl rfl, rfl, rfl, waits, rfl, rfl, rfl, .inl rfl, rfl⟩
  · exact ⟨calm.of_parts ⟨rfl, rfl⟩ rfl (hasBits_or _ (by decide)) rfl, rfl, hasBits_or _ (by decide), waits, rfl,
      rfl, rfl, .inr rfl, rfl⟩

/-- A result that comes too late is taken for the first half of a submission. -/
theorem Calm.receiveLate {s : State} (calm : Calm s) (waits : s.command.resultExpected = false)
    (empty : s.command.rx = []) {bytes : List U8} (size : bytes.length = completionSize) (fetch : Nat) :
    receive s bytes fetch = s.setCommand { s.command with rx := bytes } := by
  simp [receive, expectedSize, calm.unacked, waits, empty, size, require, submissionSize, completionSize]

theorem watchdogReload_same (s : State) :
    (watchdogReload s).command = s.command ∧ (watchdogReload s).link = s.link ∧ (watchdogReload s).reset = s.reset := by
  unfold watchdogReload
  split <;> exact ⟨rfl, rfl, rfl⟩

/-- Nothing but a reset request reaches the command window or the link. -/
theorem controlWrite_same (s : State) {register : ControlRegister} {value : U32}
    (keeps : register = .resetRequest → value ≠ resetRequestMgmt) :
    (controlWrite s register value).command = s.command ∧ (controlWrite s register value).link = s.link ∧
      (controlWrite s register value).reset = s.reset := by
  cases register with
  | resetRequest =>
      simp only [controlWrite, writeResetRequest, if_pos (keeps rfl)]
      exact ⟨rfl, rfl, rfl⟩
  | wdtTimeoutMs =>
      simp only [controlWrite, writeWdtTimeoutMs]
      split <;> exact ⟨rfl, rfl, rfl⟩
  | wdtControl =>
      simp only [controlWrite, writeWdtControl]
      split
      · exact ⟨rfl, rfl, rfl⟩
      · exact watchdogReload_same _
  | wdtPet =>
      simp only [controlWrite, writeWdtPet]
      split
      · exact ⟨rfl, rfl, rfl⟩
      · exact watchdogReload_same _
  | _ => exact ⟨rfl, rfl, rfl⟩

theorem Calm.controlWrite {s : State} (calm : Calm s) {register : ControlRegister} {value : U32}
    (keeps : register = .resetRequest → value ≠ resetRequestMgmt) :
    Calm (controlWrite s register value) ∧ (controlWrite s register value).command = s.command ∧
      (controlWrite s register value).link = s.link := by
  obtain ⟨command, link, reset⟩ := controlWrite_same s keeps
  exact ⟨calm.of_parts (by rw [link]; exact ⟨rfl, rfl⟩) reset (by rw [command]) (by rw [command]), command, link⟩

end VamsSoc.Mgmt
