/-
This file shows that every step of a firmware thread keeps the system linked.
-/

import VamsSoc.Proof.System.Linked

namespace VamsSoc.System
open Library Abi
open Firmware (Place Answers About tokens Verdict Move Passes Copies Awaits uptimeLimitMs)
open Coupling (Phase Stage Answer)
open Pcie (View)

theorem Cleared.mono {verdicts later : List Verdict} {number : Nat} {submission : Submission}
    (cleared : Cleared verdicts number submission) (subset : verdicts ⊆ later) : Cleared later number submission :=
  ⟨cleared.1, subset cleared.2⟩

theorem Carries.mono {verdicts later : List Verdict} {number : Nat} {submission : Submission} {frame : Frame}
    {answer : Answer} (carries : Carries verdicts number submission frame answer) (subset : verdicts ⊆ later) :
    Carries later number submission frame answer := by
  obtain ⟨completion, bytes, named, untagged, suits⟩ := carries.record
  refine ⟨carries.fetch, carries.kind, completion, bytes, named, untagged, ?_⟩
  cases answer with
  | grant => exact ⟨suits.1, suits.2.mono subset⟩
  | direct | abort | final => exact suits

theorem Shows.mono {verdicts later : List Verdict} {granted : Bool} {number : Nat} {submission : Submission}
    {completion : Completion} {place : Place} (shows : Shows verdicts granted number submission completion place)
    (subset : verdicts ⊆ later) : Shows later granted number submission completion place := by
  cases place with
  | ready | collected | selected | granting | grantRinging => exact ⟨shows.1, shows.2.mono subset⟩
  | _ => exact shows

/-- Every stage but the first two and the last has a live object. -/
def Stage.busy : Stage → Bool
  | .unanswered | .running | .aborted | .settled => true
  | .quiet | .inChannel | .queued => false

/-- Only a granted object is past its authorization. -/
def Stage.granted : Stage → Bool
  | .running | .aborted | .settled => true
  | .quiet | .inChannel | .queued | .unanswered => false

/-- The live object may be here in the stage. -/
def Fits (place : Place) : Stage → Prop
  | .unanswered => unansweredPlace place = true
  | .running => runningPlace place = true
  | .aborted => ∃ deadlineMs, place = .awaiting deadlineMs
  | .settled => settledPlace place = true
  | .quiet | .inChannel | .queued => False

section Live
variable {command : Mgmt.Command} {firmware : Firmware.State} {number : Nat} {submission : Submission}
  {slot : Firmware.Slot} {place : Place} {stage : Stage}

theorem Serves.of_live (live : Live command firmware number submission place)
    (expects : command.resultExpected = Stage.granted stage) (fits : Fits place stage) :
    Serves command firmware number submission stage := by
  cases stage with
  | quiet | inChannel | queued => exact fits.elim
  | unanswered | running | settled => exact ⟨expects, place, fits, live⟩
  | aborted =>
      obtain ⟨deadlineMs, rfl⟩ := fits
      exact ⟨expects, deadlineMs, live⟩

theorem Serves.live (serves : Serves command firmware number submission stage)
    (one : tokens firmware = [(slot, place)]) :
    Live command firmware number submission place ∧ command.resultExpected = Stage.granted stage ∧
      Fits place stage := by
  have same {other : Place} (live : Live command firmware number submission other) : other = place := by
    obtain ⟨held, here, -⟩ := live.token
    rw [one] at here
    exact (Prod.mk.inj (List.cons.inj here).1).2.symm
  cases stage with
  | quiet | inChannel => simp [serves.2.1] at one
  | queued => simp [serves.2.1] at one
  | unanswered | running | settled =>
      obtain ⟨expects, other, fits, live⟩ := serves
      obtain rfl := same live
      exact ⟨live, expects, fits⟩
  | aborted =>
      obtain ⟨expects, deadlineMs, live⟩ := serves
      obtain rfl := same live
      exact ⟨live, expects, deadlineMs, rfl⟩

/-- The live object is the one that the only token names. -/
theorem Live.holds (live : Live command firmware number submission place)
    (one : tokens firmware = [(slot, place)]) :
    Holds firmware.verdicts command.resultExpected number submission (firmware.objects slot) place ∧
      (windowPlace place = true → command.completion = (firmware.objects slot).completion.toBytes ∧
        command.completionFetch = number) := by
  obtain ⟨held, here, holds, window⟩ := live.token
  obtain rfl : slot = held := by
    rw [one] at here
    exact (Prod.mk.inj (List.cons.inj here).1).1
  exact ⟨holds, window⟩

theorem Fits.busy (fits : Fits place stage) :
    stage ≠ .quiet ∧ stage ≠ .inChannel ∧ stage ≠ .queued := by
  cases stage <;> first | exact fits.elim | decide

/-- An object that only an unanswered command can have stays with it. -/
theorem Fits.of_unanswered {next : Place} (fits : Fits place stage)
    (early : runningPlace place = false ∧ settledPlace place = false) (again : unansweredPlace next = true) :
    Fits next stage := by
  cases stage with
  | unanswered => exact again
  | running => exact absurd fits (by simp [Fits, early.1])
  | settled => exact absurd fits (by simp [Fits, early.2])
  | aborted =>
      obtain ⟨deadlineMs, rfl⟩ := fits
      simp [runningPlace] at early
  | quiet | inChannel | queued => exact fits.elim

theorem Fits.granted (fits : Fits place stage)
    (late : unansweredPlace place = false) : Stage.granted stage = true := by
  cases stage with
  | unanswered => exact absurd fits (by simp [Fits, late])
  | running | aborted | settled => rfl
  | quiet | inChannel | queued => exact fits.elim

theorem judged_of_awaits (awaits : Awaits place) : place ≠ .captured ∧ place ≠ .judging := by
  cases awaits <;> exact ⟨nofun, nofun⟩

theorem late_of_awaits (awaits : Awaits place) : unansweredPlace place = false := by
  cases awaits <;> rfl

end Live

namespace Linked
variable {v : View} {portal : Mgmt.State} {firmware : Firmware.State} {a : Coupling.State}
  (linked : Linked v portal firmware a)
include linked

/-- A late result waits in the buffer only while nothing is served. -/
theorem rx_empty (busy : a.stage ≠ .quiet ∧ a.stage ≠ .inChannel) :
    portal.command.rx = [] := by
  have requests := linked.requests
  cases now : a.phase with
  | auth | engine | disowned => exact (requests.clean (by rw [now]; decide) busy.2).2
  | idle | final | dropping =>
      by_contra some
      exact busy.1 ((requests.trailing (by rw [now]; decide) busy.2).2 some)

/-- A move of the firmware keeps what the endpoint has sent. -/
theorem server (busy : a.stage ≠ .quiet ∧ a.stage ≠ .inChannel)
    {after : Mgmt.State} {next : Firmware.State} {stage : Stage} {answers : List Answer}
    (uptime : next.uptimeMs = firmware.uptimeMs) (records : Mgmt.SameRecords portal.command after.command)
    (later : stage ≠ .inChannel)
    (carried : List.Forall₂ (Carries next.verdicts v.fetches v.bridge.submission) after.link.tx answers)
    (serves : Serves after.command next v.fetches v.bridge.submission stage)
    (coupled : Coupling.Coupled { a with stage, answers }) : Linked v after next { a with stage, answers } where
  phase := linked.phase
  whole := linked.whole
  clock := linked.clock
  uptime := by rw [uptime]; exact linked.uptime
  stamp := linked.stamp
  result := by rw [records.result]; exact linked.result
  recorded := linked.recorded
  requests := by
    have empty := linked.rx_empty busy
    have requests := linked.requests
    rw [records.rx, empty]
    rw [empty] at requests
    cases now : a.phase with
    | auth | engine | disowned => exact .of_clean later (requests.clean (by rw [now]; decide) busy.2).1 rfl
    | idle | final | dropping =>
        exact .of_trailing (by decide) later (requests.trailing (by rw [now]; decide) busy.2).1 nofun
  answers := carried
  serves := serves
  coupled := coupled

/-- The object moves on while no frame is sent. -/
theorem proceed {slot : Firmware.Slot} {place target : Place}
    (one : tokens firmware = [(slot, place)]) {next : Firmware.State} {after : Mgmt.State}
    (moved : tokens next = [(slot, target)]) (uptime : next.uptimeMs = firmware.uptimeMs)
    (verdicts : firmware.verdicts ⊆ next.verdicts) (undisturbed : Mgmt.Undisturbed portal after)
    (silent : after.link.tx = portal.link.tx)
    (holds : Holds next.verdicts portal.command.resultExpected v.fetches v.bridge.submission
      (next.objects slot) target)
    (window : windowPlace target = true → after.command.completion = (next.objects slot).completion.toBytes ∧
      after.command.completionFetch = v.fetches)
    {stage : Stage} (fits : Fits target stage) (same : Stage.granted stage = Stage.granted a.stage)
    (coupled : Coupling.Coupled { a with stage }) : Linked v after next { a with stage } := by
  obtain ⟨live, expects, inside⟩ := linked.serves.live one
  have carried : List.Forall₂ (Carries next.verdicts v.fetches v.bridge.submission) after.link.tx a.answers := by
    rw [silent]
    exact linked.answers.imp fun _ _ carries => carries.mono verdicts
  have moving : Live after.command next v.fetches v.bridge.submission target :=
    ⟨⟨slot, moved, by rw [undisturbed.expects]; exact holds, window⟩, undisturbed.pending.trans live.taken,
      undisturbed.records.submission.trans live.window⟩
  refine linked.server ⟨inside.busy.1, inside.busy.2.1⟩ uptime undisturbed.records fits.busy.2.1 carried
    (.of_live moving ?_ fits) coupled
  rw [undisturbed.expects, expects, same]

end Linked

section Objects
variable {verdicts : List Verdict} {granted : Bool} {number : Nat} {submission : Submission}
  {command : Firmware.CommandObject} {place next : Place} {now : Nat}

/-- An object that is passed on still shows what its next place needs. -/
theorem Holds.pass {state : Firmware.CommandState} (passes : Passes state place next)
    (holds : Holds verdicts granted number submission command place) (done : place = .ending → granted = true) :
    Holds verdicts granted number submission command next := by
  cases passes <;> simp_all [Holds, Shows]

/-- The object stays in its stage, apart from one that a result has overtaken. -/
theorem Fits.pass {state : Firmware.CommandState} {place next : Place} {stage : Stage}
    (passes : Passes state place next) (fits : Fits place stage) :
    Fits next stage ∨ (stage = .running ∧ next = .draining) := by
  cases passes <;> cases stage <;> simp_all [Fits, unansweredPlace, runningPlace, settledPlace]

theorem Holds.answers (holds : Holds verdicts granted number submission command place)
    (judged : place ≠ .captured ∧ place ≠ .judging) :
    Answers command number submission ∧ Untagged command.completion ∧
      Shows verdicts granted number submission command.completion place := by
  rw [Holds, if_neg (by rintro (here | here); exacts [judged.1 here, judged.2 here])] at holds
  exact holds

theorem Holds.of_answers (answers : Answers command number submission)
    (untagged : Untagged command.completion) (shows : Shows verdicts granted number submission command.completion place) :
    Holds verdicts granted number submission command place := by
  unfold Holds
  split
  · exact ⟨answers.fetch, answers.submission⟩
  · exact ⟨answers, untagged, shows⟩

theorem untagged_timestamp {now : Nat} (below : now < uptimeLimitMs) {completion : Completion}
    (stamp : completion.deviceTimestamp = Firmware.timestamp now) : Untagged completion := by
  rw [Untagged, stamp]
  exact untagged_ofNat (below.trans (by decide))

theorem validated_of_success {submission : Submission} {now : Nat}
    (success : (Firmware.commandExecute submission now).status = statusSuccess) :
    Firmware.validateCommand submission = errNone := by
  by_contra fault
  simp only [Firmware.commandExecute, if_neg fault] at success
  exact absurd success (by decide)

/-- The judged object answers its descriptor, and is cleared when nothing is wrong with it. -/
theorem Holds.accept (below : now < uptimeLimitMs)
    (holds : Holds verdicts granted number submission command .judging)
    (success : (Firmware.commandExecute command.submission now).status = statusSuccess)
    (recorded : Firmware.verdictOf command ∈ verdicts) :
    Holds verdicts granted number submission (Firmware.judged command now .queued) .ready := by
  have about : About command number submission := by simpa [Holds] using holds
  have answers := Firmware.answers_commandExecute about now
  refine .of_answers ⟨⟨answers.fetch, answers.submission⟩, answers.identity⟩ (untagged_timestamp below rfl)
    ⟨success, ?_, ?_⟩
  · rw [← about.submission]
    exact validated_of_success success
  · rw [Firmware.verdictOf, about.fetch, validated_of_success success, about.submission] at recorded
    exact recorded

theorem Holds.reject (below : now < uptimeLimitMs)
    (holds : Holds verdicts granted number submission command .judging)
    (failure : (Firmware.commandExecute command.submission now).status ≠ statusSuccess) :
    Holds verdicts granted number submission (Firmware.judged command now .completedError) .completed := by
  have about : About command number submission := by simpa [Holds] using holds
  have answers := Firmware.answers_commandExecute about now
  refine .of_answers ⟨⟨answers.fetch, answers.submission⟩, answers.identity⟩ (untagged_timestamp below rfl) fun _ => ?_
  simp [authorizes, Firmware.judged, failure]

/-- A settled outcome does not authorize, because its status is an error. -/
theorem not_authorizes {submission : Submission} {completion : Completion}
    (failure : completion.status ≠ statusSuccess) : authorizes submission completion = false := by
  simp [authorizes, failure]

theorem Holds.mono {later : List Verdict} (holds : Holds verdicts granted number submission command place)
    (subset : verdicts ⊆ later) : Holds later granted number submission command place := by
  unfold Holds at holds ⊢
  split_ifs at holds ⊢ with early
  · exact holds
  · exact ⟨holds.1, holds.2.1, holds.2.2.mono subset⟩

/-- A copied record stays in its stage. -/
theorem Fits.copy {place next : Place} {stage : Stage} (copies : Copies place next) (fits : Fits place stage) :
    Fits next stage := by
  cases copies <;> cases stage <;> simp_all [Fits, unansweredPlace, runningPlace, settledPlace]

theorem Holds.copy (copies : Copies place next)
    (holds : Holds verdicts granted number submission command place) :
    Answers command number submission ∧ Holds verdicts granted number submission command next := by
  cases copies <;> exact ⟨(holds.answers ⟨nofun, nofun⟩).1, by simpa [Holds, Shows] using holds⟩

theorem Holds.cancel (below : now < uptimeLimitMs) (holds : Holds verdicts granted number submission command .selected) :
    Holds verdicts granted number submission (command.cancel now).2 .finishing := by
  obtain ⟨answers, -, -⟩ := holds.answers ⟨nofun, nofun⟩
  exact .of_answers (answers.cancel _) (untagged_timestamp below rfl)
    fun _ => not_authorizes (show statusReset ≠ statusSuccess by decide)

theorem Holds.expire (below : now < uptimeLimitMs) (holds : Holds verdicts granted number submission command .selected) :
    Holds verdicts granted number submission ((command.transition .queued .aborting).2.timeout now).2 .finishing := by
  obtain ⟨answers, -, -⟩ := holds.answers ⟨nofun, nofun⟩
  exact .of_answers ((answers.transition _ _).timeout _) (untagged_timestamp below rfl)
    fun _ => not_authorizes (show statusTimedOut ≠ statusSuccess by decide)

/-- A command without a payload is answered as it was judged, which grants nothing. -/
theorem Holds.answer (holds : Holds verdicts granted number submission command .selected)
    (plain : Firmware.isPayloadOpcode command.submission.opcode = false) :
    Holds verdicts granted number submission
      ((command.transition .queued .running).2.transition .running .completed).2 .finishing := by
  obtain ⟨answers, untagged, -⟩ := holds.answers ⟨nofun, nofun⟩
  refine .of_answers ((answers.transition _ _).transition _ _) untagged fun _ => ?_
  rw [answers.submission] at plain
  simp [authorizes, plain]

theorem Holds.grant {deadlineMs : Nat} (holds : Holds verdicts granted number submission command .selected)
    (payload : Firmware.isPayloadOpcode command.submission.opcode = true) :
    Holds verdicts granted number submission (command.transition .queued .running).2 (.granting deadlineMs) := by
  obtain ⟨answers, untagged, success, cleared⟩ := holds.answers ⟨nofun, nofun⟩
  refine .of_answers (answers.transition _ _) untagged ⟨?_, cleared⟩
  rw [answers.submission] at payload
  simp [authorizes, Firmware.CommandObject.transition, success, payload]

theorem Holds.beginAbort (below : now < uptimeLimitMs)
    (holds : Holds verdicts granted number submission command .aborting) :
    Holds verdicts granted number submission (command.beginAbort now).2 .requesting := by
  obtain ⟨answers, -, -⟩ := holds.answers ⟨nofun, nofun⟩
  exact .of_answers (answers.beginAbort _) (untagged_timestamp below rfl) rfl

theorem Holds.escalate (below : now < uptimeLimitMs) (holds : Holds verdicts granted number submission command place)
    (judged : place ≠ .captured ∧ place ≠ .judging) :
    Holds verdicts granted number submission (command.escalate now).2 .ending :=
  .of_answers ((holds.answers judged).1.escalate _) (untagged_timestamp below rfl) trivial

theorem Holds.applyResult {result : Completion} {applied : Firmware.CommandObject}
    (holds : Holds verdicts granted number submission command (.applying result))
    (accepted : command.applyResult result = some applied) :
    Holds verdicts granted number submission applied .ending := by
  obtain ⟨answers, -, untagged⟩ := holds.answers ⟨nofun, nofun⟩
  refine .of_answers (answers.applyResult accepted) ?_ trivial
  rw [Firmware.completion_applyResult accepted]
  exact untagged

end Objects

/-- A frame that was copied from the live object answers the descriptor. -/
theorem Carries.of_answers {verdicts : List Verdict} {number : Nat} {submission : Submission}
    {command : Firmware.CommandObject} {frame : Frame} {answer : Answer} (answers : Answers command number submission)
    (untagged : Untagged command.completion) (fetch : frame.fetch = number)
    (kind : frame.kind = if answer = .abort then .abort else .answer)
    (bytes : frame.bytes = command.completion.toBytes)
    (suits : Suits verdicts number submission command.completion answer) :
    Carries verdicts number submission frame answer :=
  ⟨fetch, kind, command.completion, bytes, answers.identity, untagged, suits⟩

namespace Linked
variable {v : View} {portal : Mgmt.State} {firmware : Firmware.State} {a : Coupling.State}
  (linked : Linked v portal firmware a)
include linked

/-- The outcome of a granted command may become known at any time. -/
theorem settles (granted : Stage.granted a.stage = true) :
    Coupling.Coupled { a with stage := .settled } := by
  cases now : a.stage with
  | quiet | inChannel | queued | unanswered => simp [now, Stage.granted] at granted
  | running => exact linked.coupled.step .settle (if_pos (.inl now))
  | aborted => exact linked.coupled.step .settle (if_pos (.inr now))
  | settled =>
      have coupled := linked.coupled
      rw [← now]
      exact coupled

/-- The authorization goes out, and the portal waits for the result of the payload. -/
theorem ringGrant (calm : Mgmt.Calm portal) {slot : Firmware.Slot}
    (one : tokens firmware = [(slot, .grantRinging)]) {next : Firmware.State}
    (moved : tokens next = [(slot, .handing)]) (uptime : next.uptimeMs = firmware.uptimeMs)
    (verdicts : firmware.verdicts ⊆ next.verdicts) (same : next.objects slot = firmware.objects slot) :
    Mgmt.Calm (Mgmt.commandWrite portal .fwComplete 1) ∧
      ∃ b, Linked v (Mgmt.commandWrite portal .fwComplete 1) next b := by
  obtain ⟨live, expects, fits⟩ := linked.serves.live one
  obtain ⟨holds, window⟩ := live.holds one
  obtain ⟨copied, number⟩ := window rfl
  obtain ⟨answers, untagged, grants, cleared⟩ := holds.answers ⟨nofun, nofun⟩
  have unanswered : a.stage = .unanswered := by
    cases now : a.stage <;> rw [now] at fits <;> simp_all [Fits, runningPlace, settledPlace]
  rw [unanswered] at expects
  obtain ⟨up, sent, records, taken, waits⟩ := calm.fwComplete live.taken
  refine ⟨up, { a with stage := .running, answers := a.answers ++ [.grant] }, ?_⟩
  have owned : a.phase ≠ .disowned := by
    intro disowned
    have phase := linked.phase
    rw [disowned] at phase
    have payload := grants
    simp only [authorizes, Bool.and_eq_true] at payload
    have accepted : authorizable v.bridge.submission = true := by simp [authorizable, cleared.1, payload.2]
    exact Bool.false_ne_true (phase.2.2.2.symm.trans accepted)
  have carries : Carries next.verdicts v.fetches v.bridge.submission
      ⟨.answer, portal.command.completionFetch, portal.command.completion⟩ .grant :=
    .of_answers answers untagged number rfl copied ⟨grants, cleared.mono verdicts⟩
  have carried : List.Forall₂ (Carries next.verdicts v.fetches v.bridge.submission)
      (Mgmt.commandWrite portal .fwComplete 1).link.tx (a.answers ++ [.grant]) := by
    rw [sent]
    exact List.rel_append (linked.answers.imp fun _ _ carries => carries.mono verdicts) (.cons carries .nil)
  have granted : (Mgmt.commandWrite portal .fwComplete 1).command.resultExpected = true := by
    rw [waits, expects, copied, live.window, Completion.ofBytes_toBytes, Submission.ofBytes_toBytes]
    exact grants
  refine linked.server ⟨by rw [unanswered]; decide, by rw [unanswered]; decide⟩ uptime records (by decide) carried
    (.of_live ⟨⟨slot, moved, ?_, nofun⟩, taken, records.submission.trans live.window⟩ granted rfl)
    (linked.coupled.step .authorize (if_pos ⟨unanswered, owned⟩))
  rw [same]
  exact .of_answers answers untagged trivial

/-- The last answer goes out, and the portal is free again. -/
theorem ringAnswer (calm : Mgmt.Calm portal) {slot : Firmware.Slot}
    {terminalState : Firmware.CommandState} (one : tokens firmware = [(slot, .ringing terminalState)])
    {next : Firmware.State} (gone : tokens next = []) (uptime : next.uptimeMs = firmware.uptimeMs)
    (verdicts : firmware.verdicts ⊆ next.verdicts) :
    Mgmt.Calm (Mgmt.commandWrite portal .fwComplete 1) ∧
      ∃ b, Linked v (Mgmt.commandWrite portal .fwComplete 1) next b := by
  obtain ⟨live, expects, fits⟩ := linked.serves.live one
  obtain ⟨holds, window⟩ := live.holds one
  obtain ⟨copied, number⟩ := window rfl
  obtain ⟨answers, untagged, refused⟩ := holds.answers ⟨nofun, nofun⟩
  obtain ⟨up, sent, records, taken, waits⟩ := calm.fwComplete live.taken
  refine ⟨up, ?_⟩
  have carried {answer : Answer} (kind : answer ≠ .abort)
      (suits : Suits next.verdicts v.fetches v.bridge.submission (firmware.objects slot).completion answer) :
      List.Forall₂ (Carries next.verdicts v.fetches v.bridge.submission)
        (Mgmt.commandWrite portal .fwComplete 1).link.tx (a.answers ++ [answer]) := by
    rw [sent]
    refine List.rel_append (linked.answers.imp fun _ _ carries => carries.mono verdicts) (.cons ?_ .nil)
    exact .of_answers answers untagged number (by rw [if_neg kind]) copied suits
  have ended : (Mgmt.commandWrite portal .fwComplete 1).command.resultExpected = false := by
    rw [waits]
    cases granted : portal.command.resultExpected with
    | true => rfl
    | false =>
        rw [copied, live.window, Completion.ofBytes_toBytes, Submission.ofBytes_toBytes]
        exact refused granted
  have quiet : Serves (Mgmt.commandWrite portal .fwComplete 1).command next v.fetches v.bridge.submission .quiet :=
    ⟨ended, gone, taken⟩
  cases now : a.stage with
  | unanswered =>
      rw [now] at expects
      refine ⟨{ a with stage := .quiet, answers := a.answers ++ [.direct] }, ?_⟩
      exact linked.server (by rw [now]; decide) uptime records (by decide) (carried (by decide) (refused expects)) quiet
        (linked.coupled.step .reject (if_pos now))
  | settled =>
      refine ⟨{ a with stage := .quiet, answers := a.answers ++ [.final] }, ?_⟩
      exact linked.server (by rw [now]; decide) uptime records (by decide) (carried (by decide) trivial) quiet
        (linked.coupled.step .finish (if_pos now))
  | quiet | inChannel | queued | running | aborted =>
      rw [now] at fits
      simp [Fits, runningPlace] at fits

/-- The abort goes out, or is refused because a result has come. -/
theorem ringAbort (calm : Mgmt.Calm portal) {slot : Firmware.Slot}
    (one : tokens firmware = [(slot, .abortRinging)]) {next : Firmware.State} {deadlineMs : Nat}
    (moved : tokens next = [(slot, .awaiting deadlineMs)]) (uptime : next.uptimeMs = firmware.uptimeMs)
    (verdicts : firmware.verdicts ⊆ next.verdicts) (same : next.objects slot = firmware.objects slot) :
    Mgmt.Calm (Mgmt.commandWrite portal .fwAbort 1) ∧
      ∃ b, Linked v (Mgmt.commandWrite portal .fwAbort 1) next b := by
  obtain ⟨live, expects, fits⟩ := linked.serves.live one
  obtain ⟨holds, window⟩ := live.holds one
  obtain ⟨copied, number⟩ := window rfl
  obtain ⟨answers, untagged, timedOut⟩ := holds.answers ⟨nofun, nofun⟩
  have running : a.stage = .running := by
    cases now : a.stage <;> rw [now] at fits <;> simp_all [Fits, unansweredPlace, settledPlace]
  obtain ⟨undisturbed, sent⟩ := calm.fwAbort
  have awaits : Holds next.verdicts portal.command.resultExpected v.fetches v.bridge.submission (next.objects slot)
      (.awaiting deadlineMs) := by
    rw [same]
    exact .of_answers answers untagged trivial
  refine ⟨undisturbed.calm, ?_⟩
  rcases sent with silent | sent
  · refine ⟨{ a with stage := .running }, ?_⟩
    refine linked.proceed one moved uptime verdicts undisturbed silent awaits nofun rfl (by rw [running]) ?_
    rw [← running]
    exact linked.coupled
  · refine ⟨{ a with stage := .aborted, answers := a.answers ++ [.abort] }, ?_⟩
    have carries : Carries next.verdicts v.fetches v.bridge.submission
        ⟨.abort, portal.command.completionFetch, portal.command.completion⟩ .abort :=
      .of_answers answers untagged number rfl copied timedOut
    have carried : List.Forall₂ (Carries next.verdicts v.fetches v.bridge.submission)
        (Mgmt.commandWrite portal .fwAbort 1).link.tx (a.answers ++ [.abort]) := by
      rw [sent]
      exact List.rel_append (linked.answers.imp fun _ _ carries => carries.mono verdicts) (.cons carries .nil)
    rw [running] at expects
    refine linked.server (by rw [running]; decide) uptime undisturbed.records (by decide) carried
      (.of_live ⟨⟨slot, moved, ?_, nofun⟩, undisturbed.pending.trans live.taken,
        undisturbed.records.submission.trans live.window⟩ (undisturbed.expects.trans expects) ⟨deadlineMs, rfl⟩)
      (linked.coupled.step .abort (if_pos running))
    rw [undisturbed.expects]
    exact awaits

section Silent
variable {slot : Firmware.Slot} {place target : Place} (one : tokens firmware = [(slot, place)]) {next : Firmware.State}
  {after : Mgmt.State} (moves : Firmware.Moves slot place firmware portal next after)
  (reached : tokens next = [(slot, target)])
  (quiet : Mgmt.Undisturbed portal after ∧ after.link.tx = portal.link.tx)
  (holds : Holds next.verdicts portal.command.resultExpected v.fetches v.bridge.submission (next.objects slot) target)
include one moves reached quiet holds

/-- A silent move that stays in its stage. -/
theorem stay (window : windowPlace target = true →
      after.command.completion = (next.objects slot).completion.toBytes ∧ after.command.completionFetch = v.fetches)
    (fits : Fits target a.stage) :
    Mgmt.Calm after ∧ ∃ b, Linked v after next b :=
  ⟨quiet.1.calm, _, linked.proceed one reached moves.uptime moves.verdicts quiet.1 quiet.2 holds window fits rfl
    linked.coupled⟩

/-- A silent move that makes the outcome of a granted command known. -/
theorem settle (settled : settledPlace target = true) (unrung : windowPlace target = false)
    (granted : Stage.granted a.stage = true) : Mgmt.Calm after ∧ ∃ b, Linked v after next b :=
  ⟨quiet.1.calm, { a with stage := .settled }, linked.proceed one reached moves.uptime moves.verdicts quiet.1 quiet.2
    holds (by simp [unrung]) settled granted.symm (linked.settles granted)⟩

end Silent

/-- A silent move of an object that has no answer yet. -/
theorem prepare (calm : Mgmt.Calm portal) {slot : Firmware.Slot} {place target : Place}
    (one : tokens firmware = [(slot, place)]) {next : Firmware.State}
    (moves : Firmware.Moves slot place firmware portal next portal) (reached : tokens next = [(slot, target)])
    (holds : Holds next.verdicts portal.command.resultExpected v.fetches v.bridge.submission
      (next.objects slot) target) (early : runningPlace place = false ∧ settledPlace place = false)
    (unrung : windowPlace target = false) (again : unansweredPlace target = true) :
    Mgmt.Calm portal ∧ ∃ b, Linked v portal next b := by
  obtain ⟨-, -, fits⟩ := linked.serves.live one
  exact linked.stay one moves reached ⟨calm.undisturbed, rfl⟩ holds (by simp [unrung]) (fits.of_unanswered early again)

/-- Every move of the only live object leads to another linked state. -/
theorem move (calm : Mgmt.Calm portal) {slot : Firmware.Slot} {place : Place}
    (one : tokens firmware = [(slot, place)]) {next : Firmware.State} {after : Mgmt.State}
    (moves : Firmware.Moves slot place firmware portal next after) :
    Mgmt.Calm after ∧ ∃ b, Linked v after next b := by
  obtain ⟨live, expects, fits⟩ := linked.serves.live one
  obtain ⟨before, window⟩ := live.holds one
  obtain ⟨script, target, moved, move⟩ := moves.moved
  have holds := before.mono moves.verdicts
  have below := linked.uptime
  have still : Mgmt.Undisturbed portal portal ∧ portal.link.tx = portal.link.tx := ⟨calm.undisturbed, rfl⟩
  generalize object : firmware.objects slot = command at move holds window
  generalize result : next.objects slot = changed at move
  cases move with
  | pass passes =>
      have shown := holds.pass passes fun ending => by
        rw [expects]
        subst ending
        cases now : a.stage <;> rw [now] at fits <;> simp_all [Fits, unansweredPlace, runningPlace, Stage.granted]
      rw [← result] at shown
      rcases fits.pass passes with inside | ⟨running, rfl⟩
      · refine linked.stay one moves moved still shown (fun rung => ?_) inside
        rw [result]
        cases passes <;> exact window rung
      · exact linked.settle one moves moved still shown rfl rfl (by rw [running]; rfl)
  | accept _ _ success recorded =>
      exact linked.prepare calm one moves moved (result ▸ holds.accept below success recorded) ⟨rfl, rfl⟩ rfl rfl
  | reject _ _ failure =>
      exact linked.prepare calm one moves moved (result ▸ holds.reject below failure) ⟨rfl, rfl⟩ rfl rfl
  | cancel => exact linked.prepare calm one moves moved (result ▸ holds.cancel below) ⟨rfl, rfl⟩ rfl rfl
  | expire => exact linked.prepare calm one moves moved (result ▸ holds.expire below) ⟨rfl, rfl⟩ rfl rfl
  | answer _ _ plain => exact linked.prepare calm one moves moved (result ▸ holds.answer plain) ⟨rfl, rfl⟩ rfl rfl
  | grant _ _ _ payload => exact linked.prepare calm one moves moved (result ▸ holds.grant payload) ⟨rfl, rfl⟩ rfl rfl
  | copy copies =>
      obtain ⟨answers, shown⟩ := holds.copy copies
      obtain ⟨undisturbed, silent, written, number⟩ := calm.copyToPortal command
      refine linked.stay one moves moved ⟨undisturbed, by rw [silent]⟩ (result ▸ shown) (fun _ => ?_) (fits.copy copies)
      rw [result, written, number]
      exact ⟨rfl, answers.fetch⟩
  | stall _ _ _ busy => exact absurd calm.free (by rw [show hasBits _ _ = true from busy]; decide)
  | ringGrant => exact linked.ringGrant calm one moved moves.uptime moves.verdicts (by rw [result, object])
  | ringAnswer => exact linked.ringAnswer calm one moved moves.uptime moves.verdicts
  | begin =>
      refine linked.stay one moves moved still (result ▸ holds.beginAbort below) (by rintro ⟨⟩) ?_
      cases now : a.stage <;> rw [now] at fits <;> simp_all [Fits, unansweredPlace, runningPlace, settledPlace]
  | ringAbort _ _ deadlineMs =>
      exact linked.ringAbort calm one moved moves.uptime moves.verdicts (by rw [result, object])
  | result awaits _ _ ready =>
      obtain ⟨undisturbed, silent, -⟩ := calm.takeResult ready
      obtain ⟨answers, untagged, -⟩ := holds.answers (judged_of_awaits awaits)
      exact linked.settle one moves moved ⟨undisturbed, by rw [silent]⟩
        (result ▸ .of_answers answers untagged linked.result) rfl rfl (fits.granted (late_of_awaits awaits))
  | escalate awaits =>
      exact linked.settle one moves moved still (result ▸ holds.escalate below (judged_of_awaits awaits)) rfl rfl
        (fits.granted (late_of_awaits awaits))
  | apply _ _ _ _ accepted =>
      exact linked.settle one moves moved still (result ▸ holds.applyResult accepted) rfl rfl (fits.granted rfl)
  | refuse =>
      exact linked.settle one moves moved still
        (result ▸ holds.escalate below ⟨(by rintro ⟨⟩), (by rintro ⟨⟩)⟩) rfl rfl (fits.granted rfl)

end Linked
end VamsSoc.System
