/-
This file shows that the threads and the frames from the endpoint keep the system linked.
-/

import VamsSoc.Proof.System.FirmwareSide

namespace VamsSoc.System
open Library Abi
open Firmware (Place About tokens Tidy uptimeLimitMs)
open Coupling (Phase Stage Answer)
open Pcie (View)

/-- The live object does not see the result window. -/
theorem Live.of_command {command after : Mgmt.Command} {firmware : Firmware.State} {number : Nat}
    {submission : Submission} {place : Place} (live : Live command firmware number submission place)
    (pending : hasBits after.status Mgmt.commandH2fPending = hasBits command.status Mgmt.commandH2fPending)
    (expects : after.resultExpected = command.resultExpected) (same : after.submission = command.submission)
    (completion : after.completion = command.completion)
    (fetch : after.completionFetch = command.completionFetch) : Live after firmware number submission place where
  token := by
    obtain ⟨slot, one, holds, window⟩ := live.token
    refine ⟨slot, one, by rw [expects]; exact holds, ?_⟩
    rw [completion, fetch]
    exact window
  taken := pending.trans live.taken
  window := same.trans live.window

/-- A busy stage has exactly one live object. -/
theorem Serves.one {command : Mgmt.Command} {firmware : Firmware.State} {number : Nat} {submission : Submission}
    {stage : Stage} (serves : Serves command firmware number submission stage) (busy : Stage.busy stage = true) :
    ∃ slot place, tokens firmware = [(slot, place)] := by
  have single {place : Place} (live : Live command firmware number submission place) :
      ∃ slot place, tokens firmware = [(slot, place)] := by
    obtain ⟨slot, one, -⟩ := live.token
    exact ⟨slot, place, one⟩
  cases stage with
  | quiet | inChannel | queued => simp [Stage.busy] at busy
  | unanswered | running | settled =>
      obtain ⟨-, place, -, live⟩ := serves
      exact single live
  | aborted =>
      obtain ⟨-, deadlineMs, live⟩ := serves
      exact single live

theorem Serves.resting {command : Mgmt.Command} {firmware : Firmware.State} {number : Nat} {submission : Submission}
    {stage : Stage} (serves : Serves command firmware number submission stage) (quiet : tokens firmware = []) :
    Stage.busy stage = false := by
  rw [Bool.eq_false_iff]
  intro busy
  obtain ⟨slot, place, one⟩ := serves.one busy
  simp [quiet] at one

namespace Linked
variable {v : View} {portal : Mgmt.State} {firmware : Firmware.State} {a : Coupling.State}

/-- Without a live object the firmware may only move free objects around. -/
theorem unserved (linked : Linked v portal firmware a) (quiet : tokens firmware = []) {next : Firmware.State}
    (still : tokens next = []) (uptime : next.uptimeMs < uptimeLimitMs) (verdicts : next.verdicts = firmware.verdicts) :
    Linked v portal next a where
  phase := linked.phase
  whole := linked.whole
  clock := linked.clock
  uptime := uptime
  stamp := linked.stamp
  result := linked.result
  recorded := linked.recorded
  requests := linked.requests
  answers := by rw [verdicts]; exact linked.answers
  serves := by
    have serves := linked.serves
    cases now : a.stage with
    | quiet | inChannel =>
        rw [now] at serves
        exact ⟨serves.1, still, serves.2.2⟩
    | queued =>
        rw [now] at serves
        exact ⟨serves.1, still, serves.2.2⟩
    | unanswered | running | aborted | settled => exact absurd (serves.resting quiet) (by rw [now]; decide)
  coupled := linked.coupled

/-- The receiver captures the descriptor that was fetched last. -/
theorem capture (linked : Linked v portal firmware a) (calm : Mgmt.Calm portal) (quiet : tokens firmware = [])
    (waiting : Firmware.pending portal = true) {next : Firmware.State} {slot : Firmware.Slot}
    (captured : tokens next = [(slot, .captured)]) (uptime : next.uptimeMs = firmware.uptimeMs)
    (verdicts : next.verdicts = firmware.verdicts)
    (fetch : (next.objects slot).fetch = portal.command.submissionFetch)
    (submission : (next.objects slot).submission = Submission.ofBytes portal.command.submission) :
    Mgmt.Calm (Mgmt.commandWrite portal .fwAck 1) ∧ ∃ b, Linked v (Mgmt.commandWrite portal .fwAck 1) next b := by
  obtain ⟨up, link, records, taken, expects⟩ := calm.fwAck waiting
  have serves := linked.serves
  have queued : a.stage = .queued := by
    cases now : a.stage with
    | quiet | inChannel =>
        rw [now] at serves
        exact absurd waiting (by rw [Firmware.pending, serves.2.2]; decide)
    | queued => rfl
    | unanswered | running | aborted | settled => exact absurd (serves.resting quiet) (by rw [now]; decide)
  rw [queued] at serves
  obtain ⟨ungranted, -, -, bytes, number⟩ := serves
  refine ⟨up, { a with stage := .unanswered }, ?_⟩
  refine linked.server (by rw [queued]; decide) uptime records (by decide)
    (by rw [link, verdicts]; exact linked.answers) ⟨expects.trans ungranted, .captured, rfl, ?_⟩
    (linked.coupled.step .received (if_pos queued))
  refine ⟨⟨slot, captured, ?_, (by rintro ⟨⟩)⟩, taken, records.submission.trans bytes⟩
  have about : About (next.objects slot) v.fetches v.bridge.submission :=
    ⟨fetch.trans number, by rw [submission, bytes, Submission.ofBytes_toBytes]⟩
  simpa [Holds] using about

/-- Every step of a thread leads to another linked state. -/
theorem thread (linked : Linked v portal firmware a) (calm : Mgmt.Calm portal) (tidy : Tidy firmware)
    {thread : Firmware.Thread} {next : Firmware.State} {after : Mgmt.State}
    (stepped : Firmware.threadStep firmware portal thread = some (next, after)) :
    Mgmt.Calm after ∧ Tidy next ∧ firmware.verdicts ⊆ next.verdicts ∧ ∃ b, Linked v after next b := by
  have turn := Firmware.turn_threadStep tidy stepped
  have kept := tidy.turn turn
  cases live : tokens firmware with
  | nil =>
      obtain ⟨uptime, verdicts, rest⟩ := turn.quiet live
      rcases rest with ⟨rfl, still⟩ | ⟨waiting, rfl, slot, captured, fetch, submission⟩
      · exact ⟨calm, kept, by simp [verdicts], a,
          linked.unserved live still (uptime.trans_lt linked.uptime) verdicts⟩
      · obtain ⟨up, linked⟩ := linked.capture calm live waiting captured uptime verdicts fetch submission
        exact ⟨up, kept, by simp [verdicts], linked⟩
  | cons token others =>
      have busy : Stage.busy a.stage = true := by
        by_contra resting
        have serves := linked.serves
        cases now : a.stage <;> rw [now] at resting serves <;> first | exact resting rfl | simp [serves.2.1] at live
      obtain ⟨slot, place, one⟩ := linked.serves.one busy
      obtain ⟨alive, -, -⟩ := linked.serves.live one
      have moves := turn.moves tidy one alive.taken
      obtain ⟨up, linked⟩ := linked.move calm one moves
      exact ⟨up, kept, moves.verdicts, linked⟩

/-- An endpoint that no longer waits for a grant is served, or there is nothing left to serve. -/
theorem quiet_of_ended (linked : Linked v portal firmware a)
    (ended : a.phase = .idle ∨ a.phase = .final ∨ a.phase = .dropping) (ungranted : ¬Stage.granted a.stage = true) :
    a.stage = .quiet := by
  have settled (waits : Coupling.Granted a.answers a.stage ∨ (a.answers = [] ∧ a.stage = .quiet)) :
      a.stage = .quiet := by
    rcases waits with (⟨-, here⟩ | ⟨-, here⟩ | ⟨-, quiet⟩ | ⟨-, quiet⟩) | ⟨-, quiet⟩
    · rcases here with now | now | now <;> simp [now, Stage.granted] at ungranted
    · rcases here with now | now <;> simp [now, Stage.granted] at ungranted
    all_goals exact quiet
  have coupled := linked.coupled
  rcases ended with now | now | now
  · exact (linked.idle_quiet now).2
  · exact settled (by simpa [Coupling.Coupled, now] using coupled)
  · exact settled (by simpa [Coupling.Coupled, now] using coupled)

/-- A result that arrives while it is expected replaces the one in the window, or is dropped. -/
theorem deliverResult (linked : Linked v portal firmware a) (calm : Mgmt.Calm portal) {frame : Frame}
    (result : IsResult frame) (granted : Stage.granted a.stage = true) :
    Mgmt.Calm (Mgmt.receive portal frame.bytes frame.fetch) ∧
      ∃ b, Linked { v with link := { v.link with tx := [] } } (Mgmt.receive portal frame.bytes frame.fetch)
        firmware b := by
  obtain ⟨completion, bytes, untagged⟩ := result
  have busy : a.stage ≠ .quiet ∧ a.stage ≠ .inChannel := by
    cases now : a.stage <;> simp [now, Stage.granted] at granted <;> decide
  have expects : portal.command.resultExpected = true := by
    have serves := linked.serves
    cases now : a.stage <;> rw [now] at serves granted <;> first | exact serves.1 | simp [Stage.granted] at granted
  have size : frame.bytes.length = completionSize := by rw [bytes, Completion.length_toBytes]
  obtain ⟨up, link, pending, waits, submission, window, fetch, stored, rx⟩ :=
    calm.receiveResult expects (linked.rx_empty busy) size frame.fetch
  refine ⟨up, a, ?_⟩
  exact {
    phase := linked.phase
    whole := linked.whole
    clock := linked.clock
    uptime := linked.uptime
    stamp := linked.stamp
    result := by
      rcases stored with same | same
      · rw [same]
        exact linked.result
      · rw [same, bytes, Completion.ofBytes_toBytes]
        exact untagged
    recorded := ⟨linked.recorded.owns, linked.recorded.count, linked.recorded.current⟩
    requests := .of_clean busy.2 rfl rx
    answers := by rw [link]; exact linked.answers
    serves := by
      have busyStage : Stage.busy a.stage = true := by
        cases now : a.stage <;> simp [now, Stage.granted] at granted <;> rfl
      obtain ⟨slot, place, one⟩ := linked.serves.one busyStage
      obtain ⟨live, before, fits⟩ := linked.serves.live one
      exact .of_live (live.of_command pending (waits.trans expects.symm) submission window fetch)
        (waits.trans granted.symm) fits
    coupled := linked.coupled }

/-- A late result fills half of the buffer of a portal that waits for a submission. -/
theorem deliverLate (linked : Linked v portal firmware a) (calm : Mgmt.Calm portal) {frame : Frame}
    {rest : List Frame} (result : IsResult frame) (empty : portal.command.rx = [])
    (idle : a.stage = .quiet ∨ a.stage = .inChannel)
    (requests : Requests { v with link := { v.link with tx := rest } } frame.bytes a.phase a.stage) :
    Mgmt.Calm (Mgmt.receive portal frame.bytes frame.fetch) ∧
      ∃ b, Linked { v with link := { v.link with tx := rest } } (Mgmt.receive portal frame.bytes frame.fetch)
        firmware b := by
  obtain ⟨completion, bytes, -⟩ := result
  have size : frame.bytes.length = completionSize := by rw [bytes, Completion.length_toBytes]
  have serves := linked.serves
  have waits : portal.command.resultExpected = false := by
    rcases idle with now | now <;> rw [now] at serves <;> exact serves.1
  rw [calm.receiveLate waits empty size]
  refine ⟨calm.of_parts ⟨rfl, rfl⟩ rfl rfl rfl, a, ?_⟩
  exact {
    phase := linked.phase
    whole := linked.whole
    clock := linked.clock
    uptime := linked.uptime
    stamp := linked.stamp
    result := linked.result
    recorded := ⟨linked.recorded.owns, linked.recorded.count, linked.recorded.current⟩
    requests := requests
    answers := linked.answers
    serves := by rcases idle with now | now <;> rw [now] at serves ⊢ <;> exact serves
    coupled := linked.coupled }

/-- The submission reaches a portal that waits for it. -/
theorem deliverSubmission (linked : Linked v portal firmware a) (calm : Mgmt.Calm portal) {frame : Frame}
    (sent : frame = ⟨.submission, v.fetches, v.bridge.submission.toBytes⟩) (empty : portal.command.rx = [])
    (inChannel : a.stage = .inChannel) :
    Mgmt.Calm (Mgmt.receive portal frame.bytes frame.fetch) ∧
      ∃ b, Linked { v with link := { v.link with tx := [] } } (Mgmt.receive portal frame.bytes frame.fetch)
        firmware b := by
  subst sent
  have serves := linked.serves
  rw [inChannel] at serves
  obtain ⟨up, link, pending, waits, submission, fetch, result, rx⟩ :=
    calm.receiveSubmission serves.1 empty (Submission.length_toBytes v.bridge.submission) v.fetches
  refine ⟨up, { a with stage := .queued }, ?_⟩
  exact {
    phase := linked.phase
    whole := linked.whole
    clock := linked.clock
    uptime := linked.uptime
    stamp := linked.stamp
    result := by rw [result]; exact linked.result
    recorded := ⟨linked.recorded.owns, linked.recorded.count, linked.recorded.current⟩
    requests := .of_clean (show Stage.queued ≠ .inChannel by decide) rfl rx
    answers := by rw [link]; exact linked.answers
    serves := ⟨waits, serves.2.1, pending, submission, fetch⟩
    coupled := linked.coupled.step .captured (if_pos inChannel) }

/-- Every whole frame that the portal has room for leads to another linked state. -/
theorem deliver (linked : Linked v portal firmware a) (calm : Mgmt.Calm portal) {frame : Frame} {rest : List Frame}
    (head : v.link.tx = frame :: rest) (room : frame.bytes.length ≤ Mgmt.canReceive portal) :
    Mgmt.Calm (Mgmt.receive portal frame.bytes frame.fetch) ∧
      ∃ b, Linked { v with link := { v.link with tx := rest } } (Mgmt.receive portal frame.bytes frame.fetch)
        firmware b := by
  have requests := linked.requests
  by_cases inChannel : a.stage = .inChannel
  · rw [inChannel] at requests
    obtain ⟨late, sent, trailing⟩ := requests
    rw [head] at sent
    rcases trailing with ⟨empty, rfl | ⟨result, isResult, rfl⟩⟩ | ⟨half, rfl⟩
    · obtain ⟨same, rfl⟩ := List.cons.inj sent
      exact linked.deliverSubmission calm same empty inChannel
    · obtain ⟨rfl, rfl⟩ := List.cons.inj sent
      refine linked.deliverLate calm isResult empty (.inr inChannel) ?_
      obtain ⟨completion, bytes, -⟩ := isResult
      rw [inChannel]
      exact ⟨[], rfl, .inr ⟨by rw [bytes, Completion.length_toBytes], rfl⟩⟩
    · -- The second half of the buffer is too small for a submission.
      obtain ⟨rfl, -⟩ := List.cons.inj sent
      have serves := linked.serves
      rw [inChannel] at serves
      simp [Mgmt.canReceive, calm.unacked, serves.1, serves.2.2, half, submissionSize, completionSize] at room
  · have result : ∀ trailing : Trailing v.link.tx portal.command.rx,
        portal.command.rx = [] ∧ IsResult frame ∧ rest = [] := by
      rintro (⟨empty, none | ⟨result, isResult, only⟩⟩ | ⟨-, none⟩)
      · simp [head] at none
      · rw [head] at only
        obtain ⟨rfl, rfl⟩ := List.cons.inj only
        exact ⟨empty, isResult, rfl⟩
      · simp [head] at none
    have ended : a.phase = .idle ∨ a.phase = .final ∨ a.phase = .dropping := by
      cases now : a.phase with
      | auth | engine | disowned =>
          have clean := requests.clean (by rw [now]; decide) inChannel
          simp [head] at clean
      | idle => exact .inl rfl
      | final => exact .inr (.inl rfl)
      | dropping => exact .inr (.inr rfl)
    obtain ⟨empty, isResult, rfl⟩ := result (requests.trailing ended inChannel).1
    by_cases granted : Stage.granted a.stage = true
    · exact linked.deliverResult calm isResult granted
    · have quiet := linked.quiet_of_ended ended granted
      refine linked.deliverLate calm isResult empty (.inl quiet) ?_
      obtain ⟨completion, bytes, -⟩ := isResult
      exact .of_trailing ended inChannel (.inr ⟨by rw [bytes, Completion.length_toBytes], rfl⟩) fun _ => quiet

end Linked
end VamsSoc.System
