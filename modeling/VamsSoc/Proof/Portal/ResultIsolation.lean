/-
This file shows when a result that the firmware reads from the portal is the result of its running command.
-/

import VamsSoc.Proof.Portal.Acceptance

namespace VamsSoc.Mgmt
open Library Abi

section Results
variable {s : State}

theorem resultPending_protocolError : Firmware.resultPending (protocolError s) = Firmware.resultPending s :=
  hasBits_or _ (by decide)

theorem Calm.resultPending_fwAck (calm : Calm s) (waiting : Firmware.pending s = true) :
    Firmware.resultPending (commandWrite s .fwAck 1) = Firmware.resultPending s := by
  have set : hasBits s.command.status commandH2fPending = true := waiting
  have acked : commandWrite s .fwAck 1 = s.setCommand (s.command.clearBits commandH2fPending) := by
    simp [commandWrite, calm.working, Mgmt.fwAck, set]
  rw [acked]
  exact hasBits_clearBits _ (by decide)

/-- The final answer of a command leaves the flag of its result alone. -/
theorem Calm.resultPending_fwComplete (calm : Calm s) (taken : Firmware.pending s = false) :
    Firmware.resultPending (commandWrite s .fwComplete 1) = Firmware.resultPending s := by
  have idle : hasBits s.command.status (commandH2fPending ||| commandF2hPending) = false := by
    rw [hasBits_mask_or, calm.free, Bool.or_false]
    exact taken
  have opened : commandWrite s .fwComplete 1 = Mgmt.fwComplete s 1 := by simp [commandWrite, calm.working]
  obtain ⟨active, answered⟩ := Command.answered_eq { s.command with
    status := s.command.status ||| commandF2hPending, completeCount := satInc s.command.completeCount }
  rw [opened, Mgmt.fwComplete, if_neg (by simp [idle])]
  dsimp only
  rw [if_neg (by simp [calm.connected]), chrWriteAll_up (by exact calm.connected) (by exact calm.writable), if_pos rfl]
  simp only [Firmware.resultPending, State.setCommand_command, State.setLink_command, answered]
  have cleared := hasBits_clearBits (s.command.status ||| commandF2hPending)
    (show commandF2hPending &&& commandResultPending = 0 by decide)
  rw [hasBits_or _ (by decide)] at cleared
  exact cleared

theorem Calm.resultPending_fwAbort (calm : Calm s) :
    Firmware.resultPending (commandWrite s .fwAbort 1) = Firmware.resultPending s := by
  have opened : commandWrite s .fwAbort 1 = Mgmt.fwAbort s 1 := by simp [commandWrite, calm.working]
  rw [opened, Mgmt.fwAbort]
  split
  · exact resultPending_protocolError
  · dsimp only
    rw [chrWriteAll_up (by exact calm.connected) (by exact calm.writable), if_pos rfl]
    rfl

theorem Calm.resultPending_takeResult (calm : Calm s) (ready : Firmware.resultPending s = true) :
    Firmware.resultPending (Firmware.takeResult s).2 = false := by
  have set : hasBits s.command.status commandResultPending = true := ready
  have taken : (Firmware.takeResult s).2 = s.setCommand (s.command.clearBits commandResultPending) := by
    simp [Firmware.takeResult, commandWrite, calm.working, resultAck, set]
  rw [taken]
  exact hasBits_cleared _ _

/-- A part of a submission is kept, and the last part brings the whole frame to the firmware. -/
theorem Calm.receivePart (calm : Calm s) (waits : s.command.resultExpected = false) (bytes : List U8) (fetch : Nat) :
    Calm (receive s bytes fetch) ∧ (receive s bytes fetch).command.resultExpected = false ∧
      Firmware.resultPending (receive s bytes fetch) = Firmware.resultPending s ∧
      (((receive s bytes fetch).command.rx = s.command.rx ++ bytes ∧
        Firmware.pending (receive s bytes fetch) = Firmware.pending s) ∨
      ((s.command.rx ++ bytes).length = submissionSize ∧ (receive s bytes fetch).command.rx = [])) := by
  have expected : expectedSize s = submissionSize := by simp [expectedSize, calm.unacked, waits]
  obtain ⟨failed, checked⟩ := Firmware.require_eq s .receiveRoom
    (decide ((s.command.rx ++ bytes).length ≤ submissionSize))
  unfold receive
  dsimp only
  rw [expected, checked, if_neg (by simp [calm.unacked] : ¬s.reset.ackExpected = true),
    if_neg (by simp [waits] : ¬s.command.resultExpected = true)]
  split
  · exact ⟨calm.of_parts ⟨rfl, rfl⟩ rfl rfl rfl, waits, rfl, .inl ⟨rfl, rfl⟩⟩
  next whole =>
    refine ⟨calm.of_parts ⟨rfl, rfl⟩ rfl (hasBits_or _ (by decide)) rfl, waits, hasBits_or _ (by decide), .inr ?_⟩
    exact ⟨not_not.mp whole, rfl⟩

end Results
end VamsSoc.Mgmt

namespace VamsSoc.Firmware
open Library Abi

/-- The phases in which the portal expects the result of the command. -/
def Phase.expects : Phase → Bool
  | .running | .aborting | .finishing => true
  | _ => false

namespace Service

/-- Every returned result was sent for the command that was running. -/
def Isolated (s : Service) : Prop := ∀ pair ∈ s.returned, pair.2 = pair.1

/-- A result comes while the portal expects it, and the firmware has read it before it ends the command. -/
def Timely (s : Service) : ServiceEvent → Prop
  | .result _ => s.portal.command.resultExpected = true
  | .ring => s.phase = .finishing → resultPending s.portal = false
  | _ => True

instance (s : Service) (event : ServiceEvent) : Decidable (s.Timely event) := by
  cases event <;> unfold Timely <;> infer_instance

/-- The bytes that the portal has of the submission that is on its way. -/
def Inbound (s : Service) : Prop :=
  (s.phase = .waiting ∧ pending s.portal = false ∧
    s.portal.command.rx.length + s.incoming.length = submissionSize) ∨
  (s.portal.command.rx = [] ∧ s.incoming = [] ∧ (pending s.portal = true → s.phase = .waiting))

/-- What the service keeps when results come in time. -/
structure Sound (s : Service) : Prop where
  calm : Mgmt.Calm s.portal
  expects : s.portal.command.resultExpected = s.phase.expects
  fresh : resultPending s.portal = true → s.phase.expects = true ∧ s.origin = s.number
  inbound : s.Inbound
  record : ∀ completion, s.phase = .answering completion → s.portal.command.completion = completion.toBytes
  captured : s.phase ≠ .waiting → s.phase.expects = false → s.phase ≠ .idle →
    s.submission = Submission.ofBytes s.portal.command.submission
  isolated : s.Isolated

section Steps
variable {s : Service}

theorem Sound.quiet (sound : Sound s) (busy : s.phase ≠ .waiting) :
    s.portal.command.rx = [] ∧ s.incoming = [] ∧ pending s.portal = false := by
  rcases sound.inbound with ⟨waiting, -⟩ | ⟨empty, none, only⟩
  · exact (busy waiting).elim
  · exact ⟨empty, none, Bool.eq_false_iff.mpr fun set => busy (only set)⟩

theorem Sound.announce (sound : Sound s) (idle : s.phase = .idle) {bytes : List U8}
    (size : bytes.length = submissionSize) :
    Sound { s with phase := .waiting, number := s.number + 1, authorized := false, incoming := bytes } := by
  obtain ⟨empty, -, taken⟩ := sound.quiet (by simp [idle])
  have none : resultPending s.portal = false := by
    by_contra set
    have expected := (sound.fresh (by simpa using set)).1
    simp [idle, Phase.expects] at expected
  refine ⟨sound.calm, ?_, ?_, .inl ⟨rfl, taken, by simp [empty, size]⟩, nofun, fun other => (other rfl).elim, sound.isolated⟩
  · rw [sound.expects, idle]
    rfl
  · intro set
    exact (Bool.false_ne_true (none.symm.trans set)).elim

theorem Sound.deliver (sound : Sound s) (waiting : s.phase = .waiting) {count : Nat} (some : 0 < count)
    (inside : count ≤ s.incoming.length) :
    Sound { s with
      portal := Mgmt.receive s.portal (s.incoming.take count) s.number, incoming := s.incoming.drop count } := by
  have waits : s.portal.command.resultExpected = false := by rw [sound.expects, waiting]; rfl
  obtain ⟨calm, expects, result, part⟩ := sound.calm.receivePart waits (s.incoming.take count) s.number
  have sizes : s.portal.command.rx.length + s.incoming.length = submissionSize ∧ pending s.portal = false := by
    rcases sound.inbound with ⟨-, taken, sizes⟩ | ⟨-, none, -⟩
    · exact ⟨sizes, taken⟩
    · rw [none] at inside
      exact absurd inside (by simp; omega)
  refine ⟨calm, ?_, ?_, ?_, ?_, fun other => (other waiting).elim, sound.isolated⟩
  · rw [expects, waiting]
    rfl
  · intro set
    exact sound.fresh (result.symm.trans set)
  · rcases part with ⟨longer, same⟩ | ⟨whole, empty⟩
    · refine .inl ⟨waiting, same.trans sizes.2, ?_⟩
      change (Mgmt.receive _ _ _).command.rx.length + (s.incoming.drop count).length = _
      rw [longer, List.length_append, List.length_take, List.length_drop]
      omega
    · refine .inr ⟨empty, ?_, fun _ => waiting⟩
      rw [List.length_append, List.length_take] at whole
      exact List.drop_eq_nil_of_le (by omega)
  · intro completion answering
    exact absurd (waiting.symm.trans answering) nofun

theorem Sound.capture (sound : Sound s) (waiting : s.phase = .waiting) (arrived : pending s.portal = true) :
    Sound { s with
      portal := Mgmt.commandWrite s.portal .fwAck 1, phase := .captured
      submission := Submission.ofBytes s.portal.command.submission } := by
  obtain ⟨calm, -, records, taken, expects⟩ := sound.calm.fwAck arrived
  have result := sound.calm.resultPending_fwAck arrived
  have inbound : s.portal.command.rx = [] ∧ s.incoming = [] := by
    rcases sound.inbound with ⟨-, missing, -⟩ | ⟨empty, none, -⟩
    · exact (Bool.false_ne_true (missing.symm.trans arrived)).elim
    · exact ⟨empty, none⟩
  refine ⟨calm, ?_, ?_, .inr ⟨records.rx.trans inbound.1, inbound.2, ?_⟩, nofun, ?_, sound.isolated⟩
  · rw [expects, sound.expects, waiting]
    rfl
  · intro set
    have expected := (sound.fresh (result.symm.trans set)).1
    simp [waiting, Phase.expects] at expected
  · intro set
    exact (Bool.false_ne_true (taken.symm.trans set)).elim
  · intro _ _ _
    change _ = Submission.ofBytes (Mgmt.commandWrite s.portal .fwAck 1).command.submission
    rw [records.submission]

/-- The copy of a record changes the window and nothing else. -/
theorem Sound.copied (sound : Sound s) (busy : s.phase ≠ .waiting) (record : Completion) {phase : Phase}
    (expects : phase.expects = s.phase.expects) (answering : ∀ completion, phase = .answering completion → completion = record)
    (known : s.phase.expects = false → s.submission = Submission.ofBytes s.portal.command.submission) :
    Sound { s with portal := Mgmt.copyCompletion s.portal record, phase } := by
  obtain ⟨empty, none, taken⟩ := sound.quiet busy
  rw [Mgmt.copyCompletion_open sound.calm.working sound.calm.free sound.calm.window]
  refine ⟨sound.calm.of_parts ⟨rfl, rfl⟩ rfl rfl ?_, ?_, ?_, .inr ⟨empty, none, ?_⟩, ?_, ?_, sound.isolated⟩
  · exact (Completion.length_toBytes _).trans sound.calm.window.symm
  · exact sound.expects.trans expects.symm
  · intro set
    obtain ⟨expected, origin⟩ := sound.fresh set
    exact ⟨expects.trans expected, origin⟩
  · intro set
    exact (Bool.false_ne_true (taken.symm.trans set)).elim
  · intro completion here
    rw [answering completion here]
    rfl
  · intro _ none _
    exact known (expects.symm.trans none)

theorem Sound.ring (sound : Sound s) (busy : s.phase ≠ .waiting) {phase : Phase} {authorized : Bool}
    (expects : (Mgmt.commandWrite s.portal .fwComplete 1).command.resultExpected = phase.expects)
    (unread : resultPending s.portal = false) (next : phase = .idle ∨ phase = .running) :
    Sound { s with portal := Mgmt.commandWrite s.portal .fwComplete 1, phase, authorized } := by
  obtain ⟨empty, none, taken⟩ := sound.quiet busy
  obtain ⟨calm, -, records, still, -⟩ := sound.calm.fwComplete taken
  have result := sound.calm.resultPending_fwComplete taken
  refine ⟨calm, expects, ?_, .inr ⟨records.rx.trans empty, none, ?_⟩, ?_, ?_, sound.isolated⟩
  · intro set
    exact (Bool.false_ne_true (unread.symm.trans (result.symm.trans set))).elim
  · intro set
    exact (Bool.false_ne_true (still.symm.trans set)).elim
  · rintro completion here
    rcases next with idle | running
    · exact absurd (idle.symm.trans here) nofun
    · exact absurd (running.symm.trans here) nofun
  · rintro - silent other
    rcases next with idle | running
    · exact (other idle).elim
    · rw [running] at silent
      exact (Bool.false_ne_true silent.symm).elim

theorem Sound.result (sound : Sound s) (timely : s.portal.command.resultExpected = true) {bytes : List U8}
    (size : bytes.length = completionSize) (room : completionSize ≤ Mgmt.canReceive s.portal) :
    Sound (s.result bytes) := by
  have expects : s.phase.expects = true := sound.expects.symm.trans timely
  have busy : s.phase ≠ .waiting := by
    rintro waiting
    rw [waiting] at expects
    exact absurd expects (by decide)
  have unread : resultPending s.portal = false := by
    by_contra set
    have pending : hasBits s.portal.command.status Mgmt.commandResultPending = true := by
      simpa [resultPending] using set
    simp [Mgmt.canReceive, sound.calm.unacked, timely, pending, completionSize] at room
  obtain ⟨empty, none, taken⟩ := sound.quiet busy
  obtain ⟨calm, -, still, expected, submission, completion, -, -, rest⟩ :=
    sound.calm.receiveResult timely empty size 0
  refine ⟨calm, expected.trans expects.symm, ?_, .inr ⟨rest, none, ?_⟩, ?_, ?_, sound.isolated⟩
  · intro set
    have latched : resultPending (Mgmt.receive s.portal bytes 0) = true := set
    refine ⟨expects, ?_⟩
    simp [Service.result, latched, unread]
  · intro set
    exact (Bool.false_ne_true (taken.symm.trans (still.symm.trans set))).elim
  · intro record here
    exact completion.trans (sound.record record here)
  · intro _ silent
    exact (Bool.false_ne_true (silent.symm.trans expects)).elim

theorem Sound.poll (sound : Sound s) (running : s.phase = .running) (ready : resultPending s.portal = true) :
    Sound { s with portal := (takeResult s.portal).2, returned := (s.number, s.origin) :: s.returned } := by
  obtain ⟨empty, none, taken⟩ := sound.quiet (by simp [running])
  obtain ⟨⟨calm, records, same, expects⟩, -, completion⟩ := sound.calm.takeResult ready
  have cleared := sound.calm.resultPending_takeResult ready
  refine ⟨calm, expects.trans sound.expects, ?_, .inr ⟨records.rx.trans empty, none, ?_⟩, ?_, ?_, ?_⟩
  · intro set
    exact (Bool.false_ne_true (cleared.symm.trans set)).elim
  · intro set
    exact (Bool.false_ne_true (taken.symm.trans (same.symm.trans set))).elim
  · intro record here
    exact completion.trans (sound.record record here)
  · rintro - silent
    rw [running] at silent
    exact absurd silent (by decide)
  · intro pair member
    rcases List.mem_cons.mp member with rfl | earlier
    · exact (sound.fresh ready).2
    · exact sound.isolated pair earlier

theorem Sound.abort (sound : Sound s) (aborting : s.phase = .aborting) :
    Sound { s with portal := Mgmt.commandWrite s.portal .fwAbort 1, phase := .running } := by
  obtain ⟨empty, none, taken⟩ := sound.quiet (by simp [aborting])
  obtain ⟨⟨calm, records, same, expects⟩, -⟩ := sound.calm.fwAbort
  have result := sound.calm.resultPending_fwAbort
  refine ⟨calm, ?_, ?_, .inr ⟨records.rx.trans empty, none, ?_⟩, nofun, ?_, sound.isolated⟩
  · rw [expects, sound.expects, aborting]
    rfl
  · intro set
    exact ⟨rfl, (sound.fresh (result.symm.trans set)).2⟩
  · intro set
    exact (Bool.false_ne_true (taken.symm.trans (same.symm.trans set))).elim
  · intro _ silent
    exact (Bool.false_ne_true silent.symm).elim

/-- The fill of an answer, and the fill that ends a running command. -/
theorem Sound.fill (sound : Sound s) {completion : Completion} {next : Service} (filled : s.fill completion = some next) :
    Sound next := by
  unfold Service.fill at filled
  split at filled
  · cases filled
  split at filled
  · next captured =>
      obtain rfl := Option.some.inj filled
      refine sound.copied (by simp [captured]) completion (by rw [captured]; rfl) ?_ fun _ => ?_
      · rintro record ⟨⟩
        rfl
      · exact sound.captured (by simp [captured]) (by rw [captured]; rfl) (by simp [captured])
  · next running =>
      obtain rfl := Option.some.inj filled
      refine sound.copied (by simp [running]) completion (by rw [running]; rfl) nofun fun silent => ?_
      rw [running] at silent
      exact (Bool.false_ne_true silent.symm).elim
  · cases filled

theorem Sound.rung (sound : Sound s) (timely : s.Timely .ring) {next : Service} (rung : s.ring = some next) :
    Sound next := by
  unfold Service.ring at rung
  dsimp only at rung
  split at rung
  · next completion answering =>
      have busy : s.phase ≠ .waiting := by simp [answering]
      have silent : s.portal.command.resultExpected = false := by rw [sound.expects, answering]; rfl
      have unread : resultPending s.portal = false := by
        by_contra set
        have expected := (sound.fresh (by simpa using set)).1
        rw [answering] at expected
        exact Bool.false_ne_true expected
      have known := sound.captured busy (by rw [answering]; rfl) (by simp [answering])
      have expects := (sound.calm.fwComplete (sound.quiet busy).2.2).2.2.2.2
      rw [silent, sound.record completion answering, Completion.ofBytes_toBytes, ← known] at expects
      split at rung
      · next granted =>
          obtain rfl := Option.some.inj rung
          exact sound.ring busy (expects.trans granted) unread (.inr rfl)
      · next refused =>
          obtain rfl := Option.some.inj rung
          exact sound.ring busy (expects.trans (Bool.eq_false_iff.mpr refused)) unread (.inl rfl)
  · next finishing =>
      obtain rfl := Option.some.inj rung
      have busy : s.phase ≠ .waiting := by simp [finishing]
      have expected : s.portal.command.resultExpected = true := by rw [sound.expects, finishing]; rfl
      have expects := (sound.calm.fwComplete (sound.quiet busy).2.2).2.2.2.2
      rw [expected] at expects
      exact sound.ring busy expects (timely finishing) (.inl rfl)
  · cases rung

theorem Sound.step (sound : Sound s) {event : ServiceEvent} (timely : s.Timely event) {next : Service}
    (stepped : Service.step s event = some next) : Sound next := by
  cases event with
  | announce bytes =>
      obtain ⟨⟨idle, size⟩, rfl⟩ := EventMachine.guarded stepped
      exact sound.announce idle size
  | deliver count =>
      obtain ⟨⟨waiting, some, inside, -⟩, rfl⟩ := EventMachine.guarded stepped
      exact sound.deliver waiting some inside
  | capture =>
      obtain ⟨waiting, taken⟩ := Option.ite_none_right_eq_some.mp stepped
      obtain ⟨pair, received, rfl⟩ := Option.map_eq_some_iff.mp taken
      obtain ⟨arrived, rfl⟩ := EventMachine.guarded received
      exact sound.capture waiting arrived
  | fill completion => exact sound.fill stepped
  | ring => exact sound.rung timely stepped
  | result bytes =>
      obtain ⟨⟨-, size, room⟩, rfl⟩ := EventMachine.guarded stepped
      exact sound.result timely size room
  | poll =>
      obtain ⟨running, taken⟩ := Option.ite_none_right_eq_some.mp stepped
      obtain ⟨pair, received, rfl⟩ := Option.map_eq_some_iff.mp taken
      obtain ⟨ready, rfl⟩ := EventMachine.guarded received
      exact sound.poll running ready
  | request record =>
      obtain ⟨⟨running, -⟩, rfl⟩ := EventMachine.guarded stepped
      refine sound.copied (by simp [running]) record (by rw [running]; rfl) nofun fun silent => ?_
      rw [running] at silent
      exact (Bool.false_ne_true silent.symm).elim
  | abort =>
      obtain ⟨aborting, rfl⟩ := EventMachine.guarded stepped
      exact sound.abort aborting

end Steps

theorem sound_start (dropAbortResult : Bool) : Sound (start dropAbortResult) where
  calm := ⟨rfl, rfl, rfl, rfl, rfl, rfl, hasBits_zero _, rfl⟩
  expects := rfl
  fresh set := (Bool.false_ne_true ((hasBits_zero _).symm.trans set)).elim
  inbound := .inr ⟨rfl, rfl, fun set => (Bool.false_ne_true ((hasBits_zero _).symm.trans set)).elim⟩
  record := nofun
  captured _ _ other := (other rfl).elim
  isolated := nofun

/-- In every run whose results come in time, the firmware reads only results of its running command. -/
theorem isolated_of_timely (dropAbortResult : Bool) (events : List ServiceEvent)
    (timely : step.Meets Timely (start dropAbortResult) events) :
    step.Always Isolated (start dropAbortResult) events := by
  have sound : step.Always Sound (start dropAbortResult) events :=
    EventMachine.always_of_meets (fun _ _ _ sound timely stepped => sound.step timely stepped)
      (sound_start dropAbortResult) timely
  exact sound.mono fun _ sound => sound.isolated

/-- A copy of two bytes. -/
def copyBytes (commandId : U32) : List U8 :=
  Submission.toBytes { version := 1, opcode := opMemCopy, commandId, sourceDma := 1, destinationDma := 16, length := 2 }

/-- The firmware takes a command from the bridge and authorizes it. -/
def authorize (commandId : U32) : List ServiceEvent :=
  [.announce (copyBytes commandId), .deliver submissionSize, .capture, .fill { commandId }, .ring]

def engineResult (commandId : U32) : List U8 := Completion.toBytes { commandId, bytesProcessed := 2 }

/-- The result of the first command comes after the firmware has given up, and is read for the second one. -/
def lateResult : List ServiceEvent :=
  authorize 1 ++ [.fill { commandId := 1, status := statusFailed, errorCode := errEngine }, .result (engineResult 1), .ring] ++
    authorize 2 ++ [.poll]

theorem late_result_returned :
    (step.run (start false) lateResult).map (fun s => (s.returned, s.number)) = some ([(2, 1)], 2) := by
  decide +kernel

theorem timely_result_returned :
    step.Meets Timely (start false) (authorize 1 ++ [.result (engineResult 1), .poll, .fill { commandId := 1 }, .ring]) ∧
      step.Always Isolated (start false)
        (authorize 1 ++ [.result (engineResult 1), .poll, .fill { commandId := 1 }, .ring]) :=
  ⟨by decide +kernel, isolated_of_timely false _ (by decide +kernel)⟩

end Service
end VamsSoc.Firmware
