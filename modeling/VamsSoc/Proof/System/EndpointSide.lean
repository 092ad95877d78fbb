/-
This file shows that every move of the endpoint and every frame from the portal keeps the system linked.
-/

import VamsSoc.Proof.System.Linked

namespace VamsSoc.System.Linked
open Library Abi
open Firmware (Verdict)
open Coupling (Phase Stage Answer)
open Pcie (View)

/-- An answer that authorizes was preceded by a recorded verdict without a fault. -/
theorem authorizable_of_grant {verdicts : List Verdict} {number : Nat} {submission : Submission} {frame : Frame}
    (carries : Carries verdicts number submission frame .grant) : authorizable submission = true := by
  obtain ⟨completion, -, -, -, grants, cleared, -⟩ := carries.record
  simp only [authorizes, Bool.and_eq_true] at grants
  simp [authorizable, cleared, grants.2]

theorem carries_completion {verdicts : List Verdict} {number : Nat} {submission : Submission} {frame : Frame}
    {answer : Answer} (carries : Carries verdicts number submission frame answer) {completion : Completion}
    (bytes : frame.bytes = completion.toBytes) :
    completion.identity = submission.identity ∧ Untagged completion ∧
      Suits verdicts number submission completion answer := by
  obtain ⟨record, same, rest⟩ := carries.record
  have equal : Completion.ofBytes completion.toBytes = Completion.ofBytes record.toBytes := by rw [← bytes, same]
  simp only [Completion.ofBytes_toBytes] at equal
  rw [equal]
  exact rest

variable {v : View} {portal : Mgmt.State} {firmware : Firmware.State} {a : Coupling.State}
  (linked : Linked v portal firmware a)
include linked

/-- A fetched descriptor is sent, and nothing else is on its way from the portal. -/
theorem fetch (idle : v.Idle) (submission : Submission) :
    ∃ b, Linked (v.fetch submission) portal firmware b := by
  have phase := linked.idle_phase idle
  obtain ⟨empty, quiet⟩ := linked.idle_quiet phase
  have trailing := linked.requests
  have serves := linked.serves
  have answers := linked.answers
  rw [phase, quiet] at trailing
  rw [quiet] at serves
  rw [empty, List.forall₂_nil_right_iff] at answers
  refine ⟨{ a with phase := .auth, stage := .inChannel }, ?_⟩
  exact {
    phase := ⟨idle.2.2, rfl, rfl, idle.2.1⟩
    whole := linked.whole
    clock := linked.clock
    uptime := linked.uptime
    stamp := linked.stamp
    result := linked.result
    recorded := ⟨linked.recorded.owns, congrArg (· + 1) linked.recorded.count, fun _ => ⟨rfl, rfl⟩⟩
    requests := ⟨v.link.tx, rfl, trailing.1⟩
    answers := by rw [answers, empty]; exact .nil
    serves := serves
    coupled := linked.coupled.step .fetch (if_pos phase) }

/-- A move of the endpoint keeps its descriptor and leaves portal and firmware alone. -/
theorem endpoint {w : View} {b : Coupling.State} {link : Link}
    (same : w.bridge.submission = v.bridge.submission ∧ w.fetches = v.fetches ∧ w.clockNs = v.clockNs)
    (whole : w.bridge.completionRx = [] ∧ w.bridge.controlRx = []) (stamp : Untagged w.bridge.completion)
    (phase : InPhase w b.phase) (recorded : Recorded w b.phase)
    (requests : Requests w portal.command.rx b.phase b.stage)
    (answers : List.Forall₂ (Carries firmware.verdicts v.fetches v.bridge.submission) link.tx b.answers)
    (stage : b.stage = a.stage) (coupled : Coupling.Coupled b) : Linked w (portal.setLink link) firmware b where
  phase := phase
  whole := whole
  clock := by rw [same.2.2]; exact linked.clock
  uptime := linked.uptime
  stamp := stamp
  result := linked.result
  recorded := recorded
  requests := requests
  answers := by rw [same.1, same.2.1]; exact answers
  serves := by rw [same.1, same.2.1, stage]; exact linked.serves
  coupled := coupled

/-- An engine runs only for a command that has been granted. -/
theorem engine_granted (engine : a.phase = .engine) :
    Coupling.Granted a.answers a.stage ∧ a.stage ≠ .inChannel := by
  have granted : Coupling.Granted a.answers a.stage := by simpa [Coupling.Coupled, engine] using linked.coupled
  exact ⟨granted, granted.late.1⟩

/-- The result of a stopped engine goes to the portal, whatever stopped it. -/
theorem report (running : v.running = true) {result : Completion}
    (stamped : v.Stamped result) {link : Link} {answers : List Answer}
    (carried : List.Forall₂ (Carries firmware.verdicts v.fetches v.bridge.submission) link.tx answers)
    (coupled : Coupling.Coupled { a with phase := .final, answers }) :
    Linked ((v.stop.store result).report result) (portal.setLink link) firmware
      { a with phase := .final, answers } := by
  have engine := linked.engine_phase running
  obtain ⟨empty, none⟩ := linked.requests.clean (.inr (.inl engine)) (linked.engine_granted engine).2
  have untagged := linked.untagged stamped
  refine linked.endpoint ⟨rfl, rfl, rfl⟩ ⟨linked.whole.1, rfl⟩ untagged ⟨rfl, rfl, rfl, rfl⟩ ?_ ?_ carried rfl coupled
  · refine ⟨linked.recorded.owns, linked.recorded.count, fun _ => linked.recorded.current ?_⟩
    rw [engine]
    rfl
  · refine .of_result v.fetches (.inl rfl) (linked.engine_granted engine).2 none untagged ?_
    change v.link.tx ++ _ = _
    rw [empty]
    rfl

/-- A reset of a running engine drops the final answer. -/
theorem abandon (running : v.running = true) {result : Completion}
    (stamped : v.Stamped result) (expiry : Nat) :
    Linked (v.abandon result expiry) portal firmware { a with phase := .dropping } := by
  have engine := linked.engine_phase running
  obtain ⟨empty, none⟩ := linked.requests.clean (.inr (.inl engine)) (linked.engine_granted engine).2
  have untagged := linked.untagged stamped
  refine linked.endpoint ⟨rfl, rfl, rfl⟩ ⟨linked.whole.1, rfl⟩ untagged ⟨rfl, rfl, rfl⟩
    ⟨linked.recorded.owns, linked.recorded.count, nofun⟩ ?_ linked.answers rfl
    (linked.coupled.step .drop (by rw [Coupling.step, Coupling.drop, engine]))
  refine .of_result v.fetches (.inr rfl) (linked.engine_granted engine).2 none untagged ?_
  change v.link.tx ++ _ = _
  rw [empty]
  rfl

/-- A reset without a request in flight only starts the next generation. -/
theorem cancel_idle (halted : v.running = false)
    (none : v.bridge.inflight = false) : Linked v.cancel portal firmware a := by
  have same : v.cancel = { v with bridge := { v.bridge with controlRx := [] }, generation := v.generation + 1 } := by
    rw [View.cancel, Pcie.Bridge.cancelRequest, if_neg (by rw [none]; decide), ← halted]
  have unwanted : Phase.wanted a.phase = false := by
    have phase := linked.phase
    cases now : a.phase <;> rw [now] at phase <;> simp_all [InPhase, Phase.wanted]
  rw [same]
  exact linked.endpoint ⟨rfl, rfl, rfl⟩ ⟨linked.whole.1, rfl⟩ linked.stamp linked.phase
    ⟨linked.recorded.owns, linked.recorded.count, fun wanted => by simp [unwanted] at wanted⟩ linked.requests
    linked.answers rfl linked.coupled

/-- A reset disowns the answer to a refused command, or drops a final answer. -/
theorem cancel (halted : v.running = false)
    (allowed : InPhase v .auth → authorizable v.bridge.submission = false) :
    ∃ b, Linked v.cancel portal firmware b := by
  cases inflight : v.bridge.inflight with
  | false => exact ⟨a, linked.cancel_idle halted inflight⟩
  | true =>
      have same : v.cancel =
          { v with
            bridge := { v.bridge with
              controlRx := [], discardCompletion := true, inflight := false, waitingFinal := false }
            generation := v.generation + 1 } := by
        rw [View.cancel, Pcie.Bridge.cancelRequest, if_pos inflight, ← halted]
      have phase := linked.phase
      have requests := linked.requests
      rw [same]
      cases now : a.phase with
      | auth =>
          rw [now] at phase requests
          have refused := allowed phase
          have owned : a.answers.head? ≠ some .grant := by
            intro granted
            have answers := linked.answers
            cases listed : a.answers with
            | nil => simp [listed] at granted
            | cons first more =>
                rw [listed] at answers granted
                obtain ⟨frame, rest, carries, -, -⟩ := List.forall₂_cons_right_iff.mp answers
                obtain rfl : first = .grant := Option.some.inj granted
                exact Bool.false_ne_true (refused.symm.trans (authorizable_of_grant carries))
          refine ⟨{ a with phase := .disowned }, ?_⟩
          refine linked.endpoint ⟨rfl, rfl, rfl⟩ ⟨linked.whole.1, rfl⟩ linked.stamp
            ⟨halted, rfl, rfl, refused⟩ ⟨linked.recorded.owns, linked.recorded.count, nofun⟩ ?_ linked.answers rfl
            (linked.coupled.step .drop (by simp only [Coupling.step, Coupling.drop, now, if_neg owned]))
          cases stage : a.stage <;> rw [stage] at requests <;> exact requests
      | final =>
          rw [now] at phase requests
          refine ⟨{ a with phase := .dropping }, ?_⟩
          refine linked.endpoint ⟨rfl, rfl, rfl⟩ ⟨linked.whole.1, rfl⟩ linked.stamp
            ⟨halted, rfl, rfl⟩ ⟨linked.recorded.owns, linked.recorded.count, nofun⟩ ?_ linked.answers rfl
            (linked.coupled.step .drop (by simp only [Coupling.step, Coupling.drop, now]))
          cases stage : a.stage <;> rw [stage] at requests <;> exact requests
      | idle | engine | disowned | dropping =>
          rw [now] at phase
          simp [InPhase, View.Idle, inflight] at phase

/-- The frame at the head of the channel is the first answer that may come. -/
theorem first {frame : Frame} {rest : List Frame}
    (head : portal.link.tx = frame :: rest) :
    ∃ answer more, a.answers = answer :: more ∧ Carries firmware.verdicts v.fetches v.bridge.submission frame answer ∧
      List.Forall₂ (Carries firmware.verdicts v.fetches v.bridge.submission) rest more := by
  have answers := linked.answers
  rw [head] at answers
  obtain ⟨answer, more, carries, others, listed⟩ := List.forall₂_cons_left_iff.mp answers
  exact ⟨answer, more, listed, carries, others⟩

/-- A frame that ends the command is the last thing that the firmware has to say about it. -/
theorem last {answer : Answer} {more : List Answer}
    (listed : a.answers = answer :: more) (halted : a.phase ≠ .engine) (ends : answer ≠ .abort)
    (refused : a.phase = .auth → answer ≠ .grant) : more = [] ∧ a.stage = .quiet := by
  have coupled := linked.coupled
  have ungranted (waits : Coupling.Ungranted a.answers a.stage) : more = [] ∧ a.stage = .quiet := by
    rcases waits with ⟨empty, -⟩ | ⟨only, quiet⟩
    · simp [listed] at empty
    · rw [listed] at only
      exact ⟨(List.cons.inj only).2, quiet⟩
  have granted (waits : Coupling.Granted a.answers a.stage ∨ (a.answers = [] ∧ a.stage = .quiet)) :
      more = [] ∧ a.stage = .quiet := by
    rw [listed] at waits
    rcases waits with (⟨empty, -⟩ | ⟨only, -⟩ | ⟨only, quiet⟩ | ⟨both, -⟩) | ⟨empty, -⟩
    · simp at empty
    · exact absurd (List.cons.inj only).1 ends
    · exact ⟨(List.cons.inj only).2, quiet⟩
    · exact absurd (List.cons.inj both).1 ends
    · simp at empty
  cases now : a.phase with
  | idle => simp [linked.idle_quiet now] at listed
  | auth =>
      rcases (by simpa [Coupling.Coupled, now] using coupled : _ ∨ _) with waits | ⟨grant, -⟩
      · exact ungranted waits
      · rw [listed] at grant
        exact absurd (Option.some.inj grant) (refused now)
  | engine => exact absurd now halted
  | disowned => exact ungranted (by simpa [Coupling.Coupled, now] using coupled)
  | final => exact granted (by simpa [Coupling.Coupled, now] using coupled)
  | dropping => exact granted (by simpa [Coupling.Coupled, now] using coupled)

/-- The last answer leaves the endpoint idle. -/
theorem ended (halted : a.phase ≠ .engine) (quiet : a.stage = .quiet)
    {w : View} (same : w.bridge.submission = v.bridge.submission ∧ w.fetches = v.fetches ∧ w.clockNs = v.clockNs)
    (kept : w.link = v.link) (whole : w.bridge.completionRx = [] ∧ w.bridge.controlRx = [])
    (stamp : Untagged w.bridge.completion) (idle : w.Idle) (owns : Pcie.Owns w.commands)
    (count : (Pcie.numbered w.commands).length = (Pcie.numbered v.commands).length) :
    Linked w (portal.setLink { portal.link with tx := [] }) firmware { a with phase := .idle, answers := [] } := by
  refine linked.endpoint same whole stamp idle ⟨owns, ?_, nofun⟩ ?_ .nil rfl ⟨rfl, quiet⟩
  · rw [same.2.1, count]
    exact linked.recorded.count
  · have later : a.stage ≠ .inChannel := by rw [quiet]; decide
    have trailing : Trailing v.link.tx portal.command.rx := by
      cases now : a.phase with
      | auth | disowned =>
          have clean := linked.requests.clean (by rw [now]; decide) later
          exact .inl ⟨clean.2, .inl clean.1⟩
      | engine => exact absurd now halted
      | idle | final | dropping => exact (linked.requests.trailing (by rw [now]; decide) later).1
    rw [← kept] at trailing
    exact .of_trailing (.inl rfl) later trailing fun _ => quiet

/-- A published answer names the wanted descriptor. -/
theorem owns_publish (wanted : Phase.wanted a.phase = true)
    {completion : Completion} (named : completion.identity = v.bridge.submission.identity)
    (queue : Pcie.CompletionQueue) (written : Bool) :
    Pcie.Owns (.publish v.generation queue completion written :: v.commands) := by
  obtain ⟨last, waits⟩ := linked.recorded.current wanted
  exact ⟨⟨v.bridge.submission, last, named⟩, waits, linked.recorded.owns⟩

theorem waiting_phase (halted : v.running = false)
    (kept : v.bridge.discardCompletion = false) (some : a.answers ≠ []) :
    a.phase = .auth ∨ a.phase = .final := by
  have phase := linked.phase
  cases now : a.phase with
  | idle => exact absurd (linked.idle_quiet now).1 some
  | auth => exact .inl rfl
  | final => exact .inr rfl
  | engine | disowned | dropping =>
      rw [now] at phase
      simp [InPhase, halted, kept] at phase

theorem dropped_phase (halted : v.running = false)
    (dropped : v.bridge.discardCompletion = true) :
    v.bridge.inflight = false ∧ (a.phase = .disowned ∨ a.phase = .dropping) := by
  have phase := linked.phase
  cases now : a.phase with
  | disowned => rw [now] at phase; exact ⟨phase.2.1, .inl rfl⟩
  | dropping => rw [now] at phase; exact ⟨phase.2.1, .inr rfl⟩
  | idle | auth | engine | final =>
      rw [now] at phase
      simp [InPhase, View.Idle, halted, dropped] at phase

/-- A published answer leaves the endpoint idle. -/
theorem publish {frame : Frame} {rest : List Frame}
    (head : portal.link.tx = frame :: rest) {completion : Completion} (bytes : frame.bytes = completion.toBytes)
    (timely : frame.kind ≠ .abort) (halted : v.running = false) (kept : v.bridge.discardCompletion = false)
    (refused : v.granted completion = false) (queue : Pcie.CompletionQueue) (written : Bool) :
    ∃ b, Linked ((v.take completion).publish queue completion written)
      (portal.setLink { portal.link with tx := rest }) firmware b := by
  obtain ⟨answer, more, listed, carries, others⟩ := linked.first head
  obtain ⟨named, untagged, suits⟩ := carries_completion carries bytes
  have phase := linked.waiting_phase halted kept (by simp [listed])
  have ends : answer ≠ .abort := by
    rintro rfl
    exact timely carries.kind
  have direct : a.phase = .auth → answer ≠ .grant := by
    rintro auth rfl
    have inPhase := linked.phase
    rw [auth] at inPhase
    have grants : authorizes v.bridge.submission completion = true := suits.1
    rw [View.granted, inPhase.2.2.1] at refused
    exact Bool.false_ne_true (refused.symm.trans grants)
  have stopped : a.phase ≠ .engine := by rcases phase with now | now <;> rw [now] <;> decide
  obtain ⟨rfl, quiet⟩ := linked.last listed stopped ends direct
  obtain rfl := List.forall₂_nil_right_iff.mp others
  refine ⟨_, linked.ended stopped quiet ⟨rfl, rfl, rfl⟩ rfl linked.whole untagged ⟨rfl, kept, halted⟩ ?_ rfl⟩
  exact linked.owns_publish (by rcases phase with now | now <;> rw [now] <;> rfl) named queue written

/-- A discarded answer leaves the endpoint idle. -/
theorem discard {frame : Frame} {rest : List Frame}
    (head : portal.link.tx = frame :: rest) {completion : Completion} (bytes : frame.bytes = completion.toBytes)
    (timely : frame.kind ≠ .abort) (halted : v.running = false) (dropped : v.bridge.discardCompletion = true) :
    ∃ b, Linked (v.discard completion) (portal.setLink { portal.link with tx := rest }) firmware b := by
  obtain ⟨answer, more, listed, carries, others⟩ := linked.first head
  obtain ⟨-, untagged, -⟩ := carries_completion carries bytes
  obtain ⟨free, phase⟩ := linked.dropped_phase halted dropped
  have ends : answer ≠ .abort := by
    rintro rfl
    exact timely carries.kind
  have stopped : a.phase ≠ .engine := by rcases phase with now | now <;> rw [now] <;> decide
  have unwanted : a.phase = .auth → answer ≠ .grant := by
    intro auth
    rcases phase with now | now <;> simp [now] at auth
  obtain ⟨rfl, quiet⟩ := linked.last listed stopped ends unwanted
  obtain rfl := List.forall₂_nil_right_iff.mp others
  exact ⟨_, linked.ended stopped quiet ⟨rfl, rfl, rfl⟩ rfl linked.whole untagged ⟨free, rfl, halted⟩
    linked.recorded.owns rfl⟩

/-- An authorization that starts the engine was sent for the descriptor that is about to run. -/
theorem granted {frame : Frame} {rest : List Frame}
    (head : portal.link.tx = frame :: rest) {completion : Completion} (bytes : frame.bytes = completion.toBytes)
    (halted : v.running = false) (kept : v.bridge.discardCompletion = false)
    (granted : v.granted completion = true) :
    a.phase = .auth ∧ ∃ more, a.answers = .grant :: more ∧
      Carries firmware.verdicts v.fetches v.bridge.submission frame .grant ∧
      List.Forall₂ (Carries firmware.verdicts v.fetches v.bridge.submission) rest more := by
  obtain ⟨answer, more, listed, carries, others⟩ := linked.first head
  obtain ⟨-, -, suits⟩ := carries_completion carries bytes
  simp only [View.granted, Bool.and_eq_true, Bool.not_eq_true', beq_iff_eq] at granted
  obtain ⟨⟨waits, success⟩, payload⟩ := granted
  have auth : a.phase = .auth := by
    refine (linked.waiting_phase halted kept (by simp [listed])).resolve_right fun final => ?_
    have phase := linked.phase
    rw [final] at phase
    exact Bool.false_ne_true (waits.symm.trans phase.2.2.1)
  refine ⟨auth, more, ?_⟩
  rcases (by simpa [Coupling.Coupled, auth] using linked.coupled : _ ∨ _) with (⟨empty, -⟩ | ⟨only, -⟩) | ⟨grant, -⟩
  · simp [listed] at empty
  · -- A direct answer never authorizes.
    rw [listed] at only
    obtain rfl : answer = .direct := (List.cons.inj only).1
    have never : authorizes v.bridge.submission completion = false := suits
    rw [authorizes, success] at never
    exact absurd never (by rw [show Firmware.isPayloadOpcode v.bridge.submission.opcode = true from payload]; decide)
  · rw [listed] at grant
    obtain rfl : answer = .grant := Option.some.inj grant
    exact ⟨listed, carries, others⟩

/-- Every frame in its turn leads to another linked state. -/
theorem reply {frame : Frame} {rest : List Frame}
    (head : portal.link.tx = frame :: rest) {completion : Completion} (bytes : frame.bytes = completion.toBytes)
    (timely : frame.kind = .abort → v.running = true) {w : View} (reply : Pcie.Reply v completion w) :
    ∃ b, Linked w (portal.setLink { portal.link with tx := rest }) firmware b := by
  have inTime (halted : v.running = false) : frame.kind ≠ .abort := by
    intro abort
    rw [timely abort] at halted
    exact Bool.false_ne_true halted.symm
  cases reply with
  | start halted kept granted =>
      obtain ⟨auth, more, listed, carries, others⟩ := linked.granted head bytes halted kept granted
      obtain ⟨-, untagged, -⟩ := carries_completion carries bytes
      have coupled := linked.coupled.step .takeGrant (if_pos ⟨auth, by rw [listed]; rfl⟩)
      rw [listed] at coupled
      have later : a.stage ≠ .inChannel := (show Coupling.Granted more a.stage from coupled).late.1
      obtain ⟨empty, none⟩ := linked.requests.clean (.inl auth) later
      have current := linked.recorded.current (by rw [auth]; rfl)
      exact ⟨{ a with phase := .engine, answers := more }, linked.endpoint ⟨rfl, rfl, rfl⟩ linked.whole untagged
        ⟨rfl, rfl, kept⟩ ⟨linked.recorded.owns, linked.recorded.count, fun _ => current⟩ (.of_clean later empty none)
        others rfl coupled⟩
  | publish halted kept refused queue written =>
      exact linked.publish head bytes (inTime halted) halted kept refused queue written
  | publishFetch halted kept refused queue written submission =>
      obtain ⟨b, published⟩ := linked.publish head bytes (inTime halted) halted kept refused queue written
      exact published.fetch ⟨rfl, kept, halted⟩ submission
  | stop running result stamped =>
      obtain ⟨answer, more, listed, carries, others⟩ := linked.first head
      have coupled := linked.coupled.step .takeControl
        (if_pos ⟨linked.engine_phase running, by rw [listed]; exact List.cons_ne_nil _ _⟩)
      rw [listed] at coupled
      exact ⟨_, linked.report running stamped others coupled⟩
  | reset running asks queue written =>
      obtain ⟨answer, more, listed, carries, others⟩ := linked.first head
      obtain ⟨named, untagged, suits⟩ := carries_completion carries bytes
      simp only [View.asksReset, Bool.and_eq_true, beq_iff_eq] at asks
      have engine := linked.engine_phase running
      obtain ⟨granted, later⟩ := linked.engine_granted engine
      have final : answer = .final := by
        have abort : answer ≠ .abort := by
          rintro rfl
          have timedOut : completion.status = statusTimedOut := suits
          rw [asks.1.2] at timedOut
          exact absurd timedOut (by decide)
        rw [listed] at granted
        rcases granted with ⟨empty, -⟩ | ⟨only, -⟩ | ⟨only, -⟩ | ⟨both, -⟩
        · simp at empty
        · exact absurd (List.cons.inj only).1 abort
        · exact (List.cons.inj only).1
        · exact absurd (List.cons.inj both).1 abort
      have coupled := linked.coupled.step .takeReset (if_pos ⟨engine, by rw [listed, final]; rfl⟩)
      rw [listed] at coupled
      obtain ⟨empty, none⟩ := linked.requests.clean (.inr (.inl engine)) later
      have phase := linked.phase
      rw [engine] at phase
      refine ⟨{ a with phase := .idle, answers := more }, linked.endpoint ⟨rfl, rfl, rfl⟩ ⟨linked.whole.1, rfl⟩ ?_
        ⟨phase.2.1, phase.2.2, rfl⟩ ⟨?_, linked.recorded.count, nofun⟩ (.of_clean later empty none) others rfl coupled⟩
      · simp [Untagged, View.publish, View.store, Pcie.untag, hasBits, clearBits, BitVec.and_assoc]
      · exact linked.owns_publish (by rw [engine]; rfl) named queue written
  | discard halted dropped => exact linked.discard head bytes (inTime halted) halted dropped
  | discardFetch halted dropped submission =>
      obtain ⟨b, discarded⟩ := linked.discard head bytes (inTime halted) halted dropped
      have free := (linked.dropped_phase halted dropped).1
      exact discarded.fetch ⟨free, rfl, halted⟩ submission

/-- Every other move of the endpoint leads to another linked state. -/
theorem turn {event : Pcie.Event} {w : View} (turn : Pcie.Turn event v w)
    (allowed : Pcie.hostCancels event = true → InPhase v .auth → authorizable v.bridge.submission = false) :
    ∃ b, Linked w portal firmware b := by
  cases turn with
  | same => exact ⟨a, linked⟩
  | tick nowNs later =>
      exact ⟨a, linked.phase, linked.whole, later, linked.uptime, linked.stamp, linked.result,
        ⟨linked.recorded.owns, linked.recorded.count, linked.recorded.current⟩, linked.requests, linked.answers,
        linked.serves, linked.coupled⟩
  | fetch idle submission => exact linked.fetch idle submission
  | report running result stamped =>
      exact ⟨_, linked.report running stamped linked.answers
        (linked.coupled.step .engineDone (if_pos (linked.engine_phase running)))⟩
  | cancel halted asked => exact linked.cancel halted (allowed asked)
  | abandon running asked result stamped expiry => exact ⟨_, linked.abandon running stamped expiry⟩

end VamsSoc.System.Linked
