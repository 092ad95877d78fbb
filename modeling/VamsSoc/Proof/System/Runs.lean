/-
This file follows the composed system from step to step, as long as nothing that is still wanted is cut off.
-/

import VamsSoc.Proof.System.EndpointSide
import VamsSoc.Proof.System.PortalSide

namespace VamsSoc.System
open Library Abi
open Firmware (Tidy Verdict uptimeLimitMs)

variable {σ : Type}

/-- The reader takes exactly the frame at the head of the channel. -/
def wholeFrame (tx : List Frame) (count : Nat) : Bool := tx.head?.any fun frame => frame.bytes.length == count

/-- The bridge stays up, the portal is not reset, and the channels deliver whole frames. -/
def connected (s : State σ) : Event → Bool
  | .endpoint .closed | .endpoint (.link _) | .watchdogTimer => false
  | .control register value => !(register == .resetRequest && value == Mgmt.resetRequestMgmt)
  | .deliverPortal count => wholeFrame s.endpoint.link.tx count
  | .deliverEndpoint count => wholeFrame s.portal.link.tx count
  | _ => true

/-- An abort of the firmware reaches the endpoint only while its engine runs. -/
def abortsInTime (s : State σ) : Event → Bool
  | .deliverEndpoint _ => !(s.portal.link.tx.head?.any fun frame => frame.kind == .abort) || s.endpoint.engine.inflight
  | _ => true

/-- The endpoint waits for an authorization that the firmware is going to send. -/
def awaitsGrant (endpoint : Pcie.State σ) : Bool :=
  endpoint.bridge.inflight && !endpoint.bridge.waitingFinal && authorizable endpoint.bridge.submission

/-- No reset cuts off an authorization, and the firmware is given the time to acknowledge one. -/
def keepsAnswers (s : State σ) : Event → Bool
  | .endpoint event => event != .firmwareAckTimer && !(Pcie.hostCancels event && awaitsGrant s.endpoint)
  | _ => true

/-- An orderly step leaves the bridge up and cuts off no answer. -/
abbrev Orderly (s : State σ) (event : Event) : Prop :=
  connected s event = true ∧ abortsInTime s event = true ∧ keepsAnswers s event = true

/-- The engine was started by a success frame for the very descriptor, after its validation found no fault. -/
structure Authorized (commands : List Pcie.CommandEvent) (verdicts : List Verdict) (start : Start) : Prop where
  fetched : (start.fetch, start.submission) ∈ Pcie.numbered commands
  validated : ⟨start.fetch, start.submission, errNone⟩ ∈ verdicts
  answered : ∃ frame, start.answer = some frame ∧ frame.kind = .answer ∧ frame.fetch = start.fetch ∧
    (Completion.ofBytes frame.bytes).status = statusSuccess

/-- The composed system is in some state of the command protocol. -/
structure Related (s : State σ) : Prop where
  steady : Pcie.Steady s.endpoint
  calm : Mgmt.Calm s.portal
  tidy : Tidy s.firmware
  aligned : s.portalTaken = 0 ∧ s.endpointTaken = 0
  authorized : ∀ start ∈ s.starts, Authorized s.endpoint.history.commands s.firmware.verdicts start
  linked : ∃ a, Linked (Pcie.view s.endpoint) s.portal s.firmware a

theorem Authorized.mono {commands later : List Pcie.CommandEvent} {verdicts more : List Verdict} {start : Start}
    (authorized : Authorized commands verdicts start) (fetched : Pcie.numbered commands ⊆ Pcie.numbered later)
    (validated : verdicts ⊆ more) : Authorized later more start :=
  ⟨fetched authorized.fetched, validated authorized.validated, authorized.answered⟩

theorem related_powerOn (dropAbortResult : Bool) (memory : σ) :
    Related (powerOn false dropAbortResult memory) where
  steady := .halted ⟨rfl, rfl, rfl, rfl, rfl⟩ rfl rfl
  calm := ⟨rfl, rfl, rfl, rfl, rfl, rfl, show hasBits 0 Mgmt.commandF2hPending = false by decide, rfl⟩
  tidy := ⟨nofun, show (Firmware.owners {}).Nodup by decide⟩
  aligned := ⟨rfl, rfl⟩
  authorized := nofun
  linked := ⟨{}, {
    phase := ⟨rfl, rfl, rfl⟩
    whole := ⟨rfl, rfl⟩
    clock := show 0 < Pcie.clockLimitNs by decide
    uptime := show 0 < uptimeLimitMs by decide
    stamp := show hasBits 0 Pcie.managementResetTag = false by decide
    result := show hasBits (Completion.ofBytes (List.replicate 32 0)).deviceTimestamp Pcie.managementResetTag = false by
      decide
    recorded := ⟨trivial, rfl, nofun⟩
    requests := ⟨.inl ⟨rfl, .inl rfl⟩, fun some => absurd rfl some⟩
    answers := .nil
    serves := ⟨rfl, rfl, show hasBits 0 Mgmt.commandH2fPending = false by decide⟩
    coupled := ⟨rfl, rfl⟩ }⟩

/-- The history grows by events that start no engine. -/
structure Grows (before after : List Pcie.CommandEvent) : Prop where
  numbered : Pcie.numbered before ⊆ Pcie.numbered after
  starts : after.countP isStart = before.countP isStart

theorem Grows.refl (commands : List Pcie.CommandEvent) : Grows commands commands := ⟨List.Subset.refl _, rfl⟩

theorem Grows.cons {before after : List Pcie.CommandEvent} (grows : Grows before after) {event : Pcie.CommandEvent}
    (plain : isStart event = false) : Grows before (event :: after) where
  numbered := by
    cases event with
    | fetched => exact List.subset_cons_of_subset _ grows.numbered
    | engineStarted | publish => exact grows.numbered
  starts := by rw [List.countP_cons_of_neg (by simp [plain]), grows.starts]

theorem turn_grows {event : Pcie.Event} {v w : Pcie.View} (turn : Pcie.Turn event v w) :
    Grows v.commands w.commands := by
  cases turn with
  | fetch idle submission => exact (Grows.refl _).cons rfl
  | same | tick | report | cancel | abandon => exact .refl _

/-- Only an authorization starts the engine. -/
theorem reply_grows {v w : Pcie.View} {completion : Completion} (reply : Pcie.Reply v completion w) :
    Grows v.commands w.commands ∨
      (v.running = false ∧ v.bridge.discardCompletion = false ∧ v.granted completion = true ∧
        w.commands = .engineStarted v.bridge.submission :: v.commands) := by
  cases reply with
  | start halted kept granted => exact .inr ⟨halted, kept, granted, rfl⟩
  | publish | reset => exact .inl ((Grows.refl _).cons rfl)
  | publishFetch => exact .inl (((Grows.refl _).cons rfl).cons rfl)
  | discardFetch => exact .inl ((Grows.refl _).cons rfl)
  | stop | discard => exact .inl (.refl _)

theorem turn_untimed {event : Pcie.Event} {v w : Pcie.View} (turn : Pcie.Turn event v w)
    (plain : Pcie.hostCancels event = false) : w.bridge.firmwareAckTimer = v.bridge.firmwareAckTimer := by
  cases turn with
  | same | tick | fetch | report => rfl
  | cancel _ asked | abandon _ asked => exact absurd (plain.symm.trans asked) Bool.false_ne_true

theorem reply_untimed {v w : Pcie.View} {completion : Completion} (reply : Pcie.Reply v completion w)
    (untimed : v.bridge.firmwareAckTimer = none) : w.bridge.firmwareAckTimer = none := by
  cases reply with
  | start | publish | publishFetch | stop | reset => exact untimed
  | discard | discardFetch => rfl

theorem starts_moveEndpoint {s : State σ} {endpoint : Pcie.State σ} (answer : Option Frame)
    (grows : Grows s.endpoint.history.commands endpoint.history.commands) :
    (moveEndpoint s endpoint answer).starts = s.starts :=
  if_neg (by rw [engineStarts, engineStarts, grows.starts]; exact lt_irrefl _)

theorem endpoint_reboot (s : State σ) : (reboot s).endpoint = s.endpoint := by
  unfold reboot
  split <;> rfl

theorem reboot_calm {s : State σ} (calm : Mgmt.Calm s.portal) : reboot s = s :=
  if_neg (by rw [calm.warm]; decide)

/-- A whole frame at the head of its channel is what the reader gets. -/
theorem whole_frame {tx : List Frame} {count : Nat} (whole : wholeFrame tx count = true)
    (nonempty : ∀ frame ∈ tx, frame.bytes ≠ []) :
    ∃ frame rest, tx = frame :: rest ∧ frame.bytes.length = count ∧
      ((⟨tx, 0⟩ : FrameStream Frame).pending Frame.bytes).take count = frame.bytes ∧
      (⟨tx, 0⟩ : FrameStream Frame).take Frame.bytes count = ⟨rest, 0⟩ ∧
      FrameStream.last? Frame.bytes tx (0 + count) = some frame := by
  cases tx with
  | nil => simp [wholeFrame] at whole
  | cons frame rest =>
      have width : frame.bytes.length = count := by simpa [wholeFrame] using whole
      refine ⟨frame, rest, rfl, width, ?_, ?_, ?_⟩
      · rw [FrameStream.pending, List.drop_zero, List.flatMap_cons, ← width, List.take_left]
      · exact FrameStream.take_frame width fun other inside => nonempty other (List.mem_cons_of_mem frame inside)
      · rw [FrameStream.last?, Nat.zero_add, if_pos width.ge]

/-- The time alone moves no object. -/
theorem Serves.later {command : Mgmt.Command} {firmware : Firmware.State} {number : Nat} {submission : Submission}
    {stage : Coupling.Stage} (serves : Serves command firmware number submission stage) (nowMs : Nat) :
    Serves command { firmware with uptimeMs := nowMs } number submission stage := by
  have later {place : Firmware.Place} (live : Live command firmware number submission place) :
      Live command { firmware with uptimeMs := nowMs } number submission place := ⟨live.token, live.taken, live.window⟩
  cases stage with
  | quiet | inChannel | queued => exact serves
  | unanswered | running | settled =>
      obtain ⟨granted, place, here, live⟩ := serves
      exact ⟨granted, place, here, later live⟩
  | aborted =>
      obtain ⟨granted, deadlineMs, live⟩ := serves
      exact ⟨granted, deadlineMs, later live⟩

namespace Linked
variable {v : Pcie.View} {portal : Mgmt.State} {firmware : Firmware.State} {a : Coupling.State}

theorem answers_nonempty (linked : Linked v portal firmware a) : ∀ frame ∈ portal.link.tx, frame.bytes ≠ [] := by
  have answers := linked.answers
  generalize portal.link.tx = tx, a.answers = expected at answers
  induction answers with
  | nil => simp
  | cons carries others ih =>
      obtain ⟨completion, bytes, -⟩ := carries.record
      refine List.forall_mem_cons.mpr ⟨?_, ih⟩
      rw [bytes, ← List.length_pos_iff, Completion.length_toBytes]
      decide

theorem requests_nonempty (linked : Linked v portal firmware a) : ∀ frame ∈ v.link.tx, frame.bytes ≠ [] := by
  have late {tx : List Frame} {rx : List U8} (trailing : Trailing tx rx) : ∀ frame ∈ tx, frame.bytes ≠ [] := by
    rcases trailing with ⟨-, rfl | ⟨result, ⟨completion, bytes, -⟩, rfl⟩⟩ | ⟨-, rfl⟩
    · simp
    · rw [List.forall_mem_singleton, bytes, ← List.length_pos_iff, Completion.length_toBytes]
      decide
    · simp
  have requests := linked.requests
  by_cases sending : a.stage = .inChannel
  · rw [sending] at requests
    obtain ⟨before, sent, trailing⟩ := requests
    rw [sent, List.forall_mem_append, List.forall_mem_singleton, ← List.length_pos_iff, Submission.length_toBytes]
    exact ⟨late trailing, by decide⟩
  · cases now : a.phase with
    | auth | engine | disowned =>
        rw [(requests.clean (by rw [now]; decide) sending).1]
        simp
    | idle | final | dropping => exact late (requests.trailing (by rw [now]; decide) sending).1

end Linked

namespace Related
variable {s next : State σ}

/-- An event of the endpoint is one turn of it. -/
theorem turns (related : Related s) (host : Pcie.Host σ) {event : Pcie.Event}
    (inside : connected s (.endpoint event) = true) (timely : event ≠ .firmwareAckTimer)
    (stepped : step host s (.endpoint event) = some next) :
    ∃ endpoint, next = moveEndpoint s endpoint none ∧ Pcie.Turns event s.endpoint endpoint := by
  obtain ⟨a, linked⟩ := related.linked
  obtain ⟨outside, stepped⟩ := Option.ite_none_left_eq_some.mp stepped
  obtain ⟨endpoint, moved, rfl⟩ := Option.map_eq_some_iff.mp stepped
  refine ⟨endpoint, rfl, related.steady.step host linked.whole.2 moved ?_ ⟨?_, ?_⟩ timely⟩
  · rintro bytes rfl
    exact outside rfl
  · rintro rfl
    exact Bool.false_ne_true inside
  · rintro writable rfl
    exact Bool.false_ne_true inside

theorem endpointEvent (related : Related s) (host : Pcie.Host σ) {event : Pcie.Event}
    (inside : connected s (.endpoint event) = true) (keeps : keepsAnswers s (.endpoint event) = true)
    (stepped : step host s (.endpoint event) = some next) : Related next := by
  obtain ⟨a, linked⟩ := related.linked
  simp only [keepsAnswers, Bool.and_eq_true, bne_iff_ne] at keeps
  obtain ⟨endpoint, rfl, turns⟩ := related.turns host inside keeps.1 stepped
  have allowed (asked : Pcie.hostCancels event = true) (auth : InPhase (Pcie.view s.endpoint) .auth) :
      authorizable s.endpoint.bridge.submission = false := by
    have waits : s.endpoint.bridge.inflight = true ∧ s.endpoint.bridge.waitingFinal = false := ⟨auth.2.1, auth.2.2.1⟩
    simpa [awaitsGrant, asked, waits] using keeps.2
  have grows : Grows s.endpoint.history.commands endpoint.history.commands := turn_grows turns.turn
  refine ⟨turns.steady, related.calm, related.tidy, related.aligned, ?_, linked.turn turns.turn allowed⟩
  rw [starts_moveEndpoint none grows]
  exact fun start member => (related.authorized start member).mono grows.numbered (List.Subset.refl _)

theorem portalEvent (related : Related s) {portal : Mgmt.State} {firmware : Firmware.State} (calm : Mgmt.Calm portal)
    (tidy : Tidy firmware) (verdicts : s.firmware.verdicts ⊆ firmware.verdicts)
    (linked : ∃ b, Linked (Pcie.view s.endpoint) portal firmware b) :
    Related (reboot { s with portal, firmware }) := by
  rw [reboot_calm (by exact calm)]
  exact ⟨related.steady, calm, tidy, related.aligned,
    fun start member => (related.authorized start member).mono (List.Subset.refl _) verdicts, linked⟩

theorem toPortal (related : Related s) {count : Nat} (whole : connected s (.deliverPortal count) = true)
    (stepped : deliverPortal s count = some next) : Related next := by
  obtain ⟨a, linked⟩ := related.linked
  obtain ⟨frame, rest, head, width, pending, taken, last⟩ := whole_frame whole linked.requests_nonempty
  have stream : s.toPortal = ⟨s.endpoint.link.tx, 0⟩ := by rw [State.toPortal, related.aligned.1]
  unfold deliverPortal at stepped
  dsimp only at stepped
  rw [stream, pending, taken, related.aligned.1, last] at stepped
  obtain ⟨⟨-, -, room⟩, rfl⟩ := EventMachine.guarded stepped
  obtain ⟨calm, b, delivered⟩ := linked.deliver related.calm head (by rw [width]; exact room)
  rw [reboot_calm (by exact calm)]
  exact ⟨related.steady.send rest, calm, related.tidy,
    ⟨rfl, related.aligned.2⟩, related.authorized, b, delivered⟩

/-- The frame that starts the engine authorizes the descriptor that is about to run. -/
theorem authorized_reply (related : Related s) {a : Coupling.State}
    (linked : Linked (Pcie.view s.endpoint) s.portal s.firmware a) {frame : Frame} {rest : List Frame}
    (head : s.portal.link.tx = frame :: rest) {completion : Completion} (bytes : frame.bytes = completion.toBytes)
    {endpoint : Pcie.State σ} (reply : Pcie.Reply (Pcie.view s.endpoint) completion (Pcie.view endpoint)) :
    ∀ start ∈ (moveEndpoint s endpoint (some frame)).starts,
      Authorized endpoint.history.commands s.firmware.verdicts start := by
  intro start member
  rcases reply_grows reply with grows | ⟨halted, kept, granted, started⟩
  · rw [starts_moveEndpoint (some frame) grows] at member
    exact (related.authorized start member).mono grows.numbered (List.Subset.refl _)
  · have grown : endpoint.history.commands =
        .engineStarted s.endpoint.bridge.submission :: s.endpoint.history.commands := started
    have fewer : engineStarts s.endpoint < engineStarts endpoint := by
      rw [engineStarts, engineStarts, grown, List.countP_cons_of_pos rfl]
      exact Nat.lt_succ_self _
    rw [grown]
    rw [moveEndpoint, if_pos fewer] at member
    rcases List.mem_cons.mp member with rfl | before
    · obtain ⟨auth, -, -, carries, -⟩ := linked.granted head bytes halted kept granted
      obtain ⟨-, -, authorizes, cleared⟩ := Linked.carries_completion carries bytes
      obtain ⟨last, -⟩ := linked.recorded.current (by rw [auth]; rfl)
      have success : completion.status = statusSuccess := by
        simp only [System.authorizes, Bool.and_eq_true, beq_iff_eq] at authorizes
        exact authorizes.1
      refine ⟨?_, cleared.2, frame, rfl, carries.kind, carries.fetch, ?_⟩
      · rw [show s.endpoint.history.fetches = _ from linked.recorded.count]
        exact Pcie.mem_numbered_of_lastFetched last
      · rw [bytes, Completion.ofBytes_toBytes, success]
    · exact (related.authorized start before).mono (List.Subset.refl _) (List.Subset.refl _)

/-- A frame that is delivered to the endpoint is one reply to it. -/
theorem replies (related : Related s) (host : Pcie.Host σ) {count : Nat}
    (whole : connected s (.deliverEndpoint count) = true) (stepped : deliverEndpoint host s count = some next) :
    ∃ frame rest completion endpoint, s.portal.link.tx = frame :: rest ∧ frame.bytes = completion.toBytes ∧
      Pcie.Replies completion s.endpoint endpoint ∧
      next = { moveEndpoint s endpoint (some frame) with
        portal := s.portal.setLink { s.portal.link with tx := rest }, endpointTaken := 0 } := by
  obtain ⟨a, linked⟩ := related.linked
  obtain ⟨frame, rest, head, width, pending, taken, last⟩ := whole_frame whole linked.answers_nonempty
  have stream : s.toEndpoint = ⟨s.portal.link.tx, 0⟩ := by rw [State.toEndpoint, related.aligned.2]
  unfold deliverEndpoint at stepped
  dsimp only at stepped
  rw [stream, pending, taken, related.aligned.2, last] at stepped
  obtain ⟨-, stepped⟩ := Option.ite_none_right_eq_some.mp stepped
  obtain ⟨endpoint, received, rfl⟩ := Option.map_eq_some_iff.mp stepped
  obtain ⟨-, rfl⟩ := EventMachine.guarded received
  obtain ⟨answer, more, listed, carries, others⟩ := linked.first head
  obtain ⟨completion, bytes, named, untagged, suits⟩ := carries.record
  refine ⟨frame, rest, completion, _, head, bytes, ?_, rfl⟩
  rw [bytes]
  exact related.steady.bridgeReceive host untagged.ordinary linked.whole.2 linked.whole.1

theorem toEndpoint (related : Related s) (host : Pcie.Host σ) {count : Nat}
    (whole : connected s (.deliverEndpoint count) = true) (timely : abortsInTime s (.deliverEndpoint count) = true)
    (stepped : deliverEndpoint host s count = some next) : Related next := by
  obtain ⟨a, linked⟩ := related.linked
  obtain ⟨frame, rest, completion, endpoint, head, bytes, replies, rfl⟩ := related.replies host whole stepped
  have inTime (abort : frame.kind = .abort) : s.endpoint.engine.inflight = true := by
    simpa [abortsInTime, head, abort] using timely
  exact ⟨replies.steady, related.calm.of_parts ⟨rfl, rfl⟩ rfl rfl rfl, related.tidy, ⟨related.aligned.1, rfl⟩,
    related.authorized_reply linked head bytes replies.reply, linked.reply head bytes inTime replies.reply⟩

theorem controlEvent (related : Related s) {register : Mgmt.ControlRegister} {value : U32}
    (keeps : connected s (.control register value) = true) :
    Related (reboot { s with portal := Mgmt.controlWrite s.portal register value }) := by
  obtain ⟨a, linked⟩ := related.linked
  have plain : register = .resetRequest → value ≠ Mgmt.resetRequestMgmt := by
    rintro rfl rfl
    simp [connected] at keeps
  obtain ⟨calm, command, link⟩ := related.calm.controlWrite plain
  refine related.portalEvent calm related.tidy (List.Subset.refl _) ⟨a, ?_⟩
  exact ⟨linked.phase, linked.whole, linked.clock, linked.uptime, linked.stamp, by rw [command]; exact linked.result,
    linked.recorded, by rw [command]; exact linked.requests, by rw [link]; exact linked.answers,
    by rw [command]; exact linked.serves, linked.coupled⟩

/-- Each step that the conditions allow leads to another state of the protocol. -/
theorem step (related : Related s) (host : Pcie.Host σ) {event : Event} (inside : connected s event = true)
    (timely : abortsInTime s event = true) (keeps : keepsAnswers s event = true)
    (stepped : System.step host s event = some next) : Related next := by
  obtain ⟨a, linked⟩ := related.linked
  cases event with
  | endpoint event => exact related.endpointEvent host inside keeps stepped
  | deliverPortal count => exact related.toPortal inside stepped
  | deliverEndpoint count => exact related.toEndpoint host inside timely stepped
  | thread thread =>
      obtain ⟨⟨firmware, portal⟩, moved, rfl⟩ := Option.map_eq_some_iff.mp stepped
      obtain ⟨calm, tidy, verdicts, linked⟩ := linked.thread related.calm related.tidy moved
      exact related.portalEvent calm tidy verdicts linked
  | control register value =>
      obtain rfl := Option.some.inj stepped
      exact related.controlEvent inside
  | ackTimer =>
      obtain ⟨fired, -⟩ := EventMachine.guarded stepped
      rw [related.calm.untimed] at fired
      exact absurd fired Bool.false_ne_true
  | watchdogTimer => exact absurd inside Bool.false_ne_true
  | portalTick nowNs =>
      obtain ⟨-, rfl⟩ := EventMachine.guarded stepped
      exact ⟨related.steady, related.calm.of_parts ⟨rfl, rfl⟩ rfl rfl rfl, related.tidy, related.aligned,
        related.authorized, a, linked.phase, linked.whole, linked.clock, linked.uptime, linked.stamp, linked.result,
        linked.recorded, linked.requests, linked.answers, linked.serves, linked.coupled⟩
  | uptime nowMs =>
      obtain ⟨⟨-, later⟩, rfl⟩ := EventMachine.guarded stepped
      refine ⟨related.steady, related.calm, ⟨related.tidy.ripe, related.tidy.single⟩, related.aligned,
        related.authorized, a, ?_⟩
      exact ⟨linked.phase, linked.whole, linked.clock, later, linked.stamp, linked.result,
        linked.recorded, linked.requests, linked.answers, linked.serves.later nowMs, linked.coupled⟩

/-- A timer that is not armed does not fire. -/
theorem unfired {host : Pcie.Host σ} {event : Pcie.Event} (untimed : s.endpoint.bridge.firmwareAckTimer = none)
    (stepped : System.step host s (.endpoint event) = some next) : event ≠ .firmwareAckTimer := by
  rintro rfl
  simp [System.step, isReceive, Pcie.step, untimed, Pcie.expired] at stepped

/-- Only a reset arms the timer that waits for the firmware. -/
theorem untimed (related : Related s) (host : Pcie.Host σ) {event : Event} (inside : connected s event = true)
    (plain : ∀ inner, event = .endpoint inner → Pcie.hostCancels inner = false)
    (untimed : s.endpoint.bridge.firmwareAckTimer = none) (stepped : System.step host s event = some next) :
    next.endpoint.bridge.firmwareAckTimer = none := by
  cases event with
  | endpoint event =>
      obtain ⟨endpoint, rfl, turns⟩ := related.turns host inside (unfired untimed stepped) stepped
      exact (turn_untimed turns.turn (plain event rfl)).trans untimed
  | deliverPortal count =>
      obtain ⟨-, rfl⟩ := EventMachine.guarded stepped
      rw [endpoint_reboot]
      exact untimed
  | deliverEndpoint count =>
      obtain ⟨frame, rest, completion, endpoint, -, -, replies, rfl⟩ := related.replies host inside stepped
      exact reply_untimed replies.reply untimed
  | thread thread =>
      obtain ⟨moved, -, rfl⟩ := Option.map_eq_some_iff.mp stepped
      rw [endpoint_reboot]
      exact untimed
  | control register value =>
      obtain rfl := Option.some.inj stepped
      rw [endpoint_reboot]
      exact untimed
  | ackTimer | watchdogTimer =>
      obtain ⟨-, rfl⟩ := EventMachine.guarded stepped
      rw [endpoint_reboot]
      exact untimed
  | portalTick | uptime =>
      obtain ⟨-, rfl⟩ := EventMachine.guarded stepped
      exact untimed

end Related

/-- Every state of an orderly run is a state of the protocol. -/
theorem related_always (host : Pcie.Host σ) (dropAbortResult : Bool) (memory : σ) {events : List Event}
    (meets : (step host).Meets Orderly (powerOn false dropAbortResult memory) events) :
    (step host).Always Related (powerOn false dropAbortResult memory) events :=
  EventMachine.always_of_meets
    (fun _ _ _ related allowed stepped => related.step host allowed.1 allowed.2.1 allowed.2.2 stepped)
    (related_powerOn dropAbortResult memory) meets

end VamsSoc.System
