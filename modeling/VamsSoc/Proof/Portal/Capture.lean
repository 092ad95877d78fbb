/-
This file shows that each submission is captured once, with the bytes that it was announced with.
-/

import VamsSoc.Construction.Firmware.Capture
import VamsSoc.Proof.Portal.Exchange
import VamsSoc.Proof.Portal.Serializer

namespace VamsSoc.Mgmt
open Library Abi
open Firmware (pending)

/-- A window that waits for the firmware keeps its bytes, and no window changes its size. -/
structure Held (s next : State) : Prop where
  waits : pending s = true → pending next = true ∧ next.command.submission = s.command.submission
  sized : s.command.submission.length = submissionSize → next.command.submission.length = submissionSize

theorem Held.of_same {s next : State} (status : pending next = pending s)
    (window : next.command.submission = s.command.submission) : Held s next where
  waits waiting := ⟨status.trans waiting, window⟩
  sized size := window ▸ size

theorem Held.of_command {s next : State} (same : next.command = s.command) : Held s next :=
  .of_same (by rw [pending, same]; rfl) (by rw [same])

theorem Held.trans {s middle next : State} (first : Held s middle) (second : Held middle next) : Held s next where
  waits waiting := by
    obtain ⟨still, same⟩ := first.waits waiting
    obtain ⟨after, again⟩ := second.waits still
    exact ⟨after, again.trans same⟩
  sized size := second.sized (first.sized size)

theorem held_protocolError (s : State) : Held s (protocolError s) :=
  .of_same (hasBits_or _ (by decide)) rfl

theorem length_setWord {bytes : List U8} {index : Nat} {word : U32} (inside : 4 * index + 4 ≤ bytes.length) :
    (setWord bytes index word).length = bytes.length := by
  simp [setWord]
  omega

theorem held_writeSubmission (s : State) {index : Nat} (inside : index < Firmware.commandWords) (word : U32) :
    Held s (writeSubmission s index word) := by
  unfold writeSubmission
  split
  · exact .of_same (hasBits_or _ (by decide)) rfl
  · next clear =>
      refine ⟨fun waiting => absurd waiting clear, fun size => ?_⟩
      have room : 4 * index + 4 ≤ s.command.submission.length := by
        simp only [Firmware.commandWords, submissionSize] at inside size
        omega
      exact (length_setWord room).trans size

theorem held_hostSubmit (s : State) (value : U32) : Held s (hostSubmit s value) := by
  unfold hostSubmit
  split
  · exact .of_same (hasBits_or _ (by decide)) rfl
  · exact ⟨fun waiting => ⟨hasBits_or_of_hasBits waiting _, rfl⟩, id⟩

theorem held_chrWriteAll (s : State) (kind : FrameKind) (fetch : Nat) (bytes : List U8) :
    Held s (chrWriteAll s kind fetch bytes).2 := by
  unfold chrWriteAll
  split <;> exact .of_same rfl rfl

theorem held_answered (s : State) : Held s (s.setCommand s.command.answered) := by
  have cleared : hasBits (Library.clearBits s.command.status commandF2hPending) commandH2fPending =
      hasBits s.command.status commandH2fPending := hasBits_clearBits _ (by decide)
  simp only [Command.answered]
  split
  · exact .of_same cleared rfl
  · split <;> exact .of_same cleared rfl

theorem held_fwComplete (s : State) (value : U32) : Held s (fwComplete s value) := by
  have counted : Held s (s.setCommand { s.command with
      status := s.command.status ||| commandF2hPending
      completeCount := satInc s.command.completeCount }) := .of_same (hasBits_or _ (by decide)) rfl
  unfold fwComplete
  split
  · exact .of_same (hasBits_or _ (by decide)) rfl
  · dsimp only
    split
    · exact counted
    · have sent := counted.trans (held_chrWriteAll _ .answer s.command.completionFetch s.command.completion)
      split
      · exact sent.trans (held_answered _)
      · exact sent.trans (held_protocolError _)

theorem held_fwAbort (s : State) (value : U32) : Held s (fwAbort s value) := by
  have counted : Held s (s.setCommand { s.command with
      abortCount := satInc s.command.abortCount, abortResultPending := true }) := .of_same rfl rfl
  unfold fwAbort
  split
  · exact held_protocolError s
  · dsimp only
    have sent := counted.trans (held_chrWriteAll _ .abort s.command.completionFetch s.command.completion)
    split
    · exact sent
    · have forgotten (t : State) : Held t (t.setCommand { t.command with abortResultPending := false }) :=
        .of_same rfl rfl
      exact (sent.trans (forgotten _)).trans (held_protocolError _)

/-- Of the writes to the command window only the acknowledgment frees a submission. -/
theorem held_commandWrite (s : State) {register : CommandRegister} {value : U32}
    (other : Firmware.fromOthers (.command register value) = true) : Held s (commandWrite s register value) := by
  unfold commandWrite
  split
  · exact held_protocolError s
  · cases register with
    | submission index => exact held_writeSubmission s (of_decide_eq_true other) value
    | completion index =>
        dsimp only [writeCompletion]
        split
        · exact .of_same (hasBits_or _ (by decide)) rfl
        · exact .of_same rfl rfl
    | hostSubmit => exact held_hostSubmit s value
    | fwAck => exact absurd other Bool.false_ne_true
    | fwComplete => exact held_fwComplete s value
    | resultAck =>
        dsimp only [resultAck]
        split
        · exact held_protocolError s
        · exact .of_same (hasBits_clearBits _ (by decide)) rfl
    | fwAbort => exact held_fwAbort s value
    | hostAck =>
        dsimp only [hostAck]
        split
        · exact held_protocolError s
        · exact .of_same (hasBits_clearBits _ (by decide)) rfl
    | status =>
        refine .of_same (hasBits_clearBits _ ?_) rfl
        rw [BitVec.and_assoc]
        simp [commandH2fOverflow, commandF2hOverflow, commandProtocolError, commandH2fPending]
    | unmapped => exact held_protocolError s

theorem held_require (s : State) (assertion : Assertion) (holds : Bool) : Held s (require s assertion holds) := by
  cases holds <;> exact .of_same rfl rfl

theorem held_receiveResult (s : State) (bytes : List U8) : Held s (receiveResult s bytes) := by
  unfold receiveResult
  split
  · exact .of_same rfl rfl
  · exact .of_same (hasBits_or _ (by decide)) rfl

/-- The bridge is asked for no submission while one waits, and a result has a window of its own. -/
theorem held_receive {s : State} (unacked : s.reset.ackExpected = false) {bytes : List U8} (some : bytes ≠ [])
    (room : bytes.length ≤ canReceive s) (fetch : Nat) : Held s (receive s bytes fetch) := by
  have nonempty : 0 < bytes.length := List.length_pos_iff.mpr some
  have roomy := held_require s .receiveRoom ((s.command.rx ++ bytes).length ≤ expectedSize s)
  simp only [receive, unacked, Bool.false_eq_true, if_false]
  split
  · exact .of_same rfl rfl
  · next whole =>
      split
      · exact roomy.trans (held_receiveResult _ _)
      · next submits =>
          refine ⟨fun waiting => ?_, fun _ => ?_⟩
          · have full : canReceive s = 0 := by
              simp only [canReceive, unacked, submits, Bool.false_eq_true, if_false]
              exact if_pos waiting
            omega
          · have size : expectedSize s = submissionSize := by simp [expectedSize, unacked, submits]
            exact (not_not.mp whole).trans size

/-- No reset is under way, and none has left its timer behind. -/
structure Working (s : State) : Prop where
  idle : s.reset.pending = false
  unacked : s.reset.ackExpected = false
  untimed : s.reset.ackTimer.isSome = false

/-- Without a request the portal stays out of a reset. -/
theorem Working.step {s next : State} (working : Working s) {event : Event} (stepped : Mgmt.step s event = some next)
    (silent : requested event = none) : Working next := by
  have effect := effect_step stepped
  rw [silent] at effect
  cases effect with
  | still _ same _ =>
      exact ⟨(congrArg Serial.pending same).trans working.idle,
        (congrArg Serial.ackExpected same).trans working.unacked,
        (congrArg Serial.ackArmed same).trans working.untimed⟩
  | finish _ awaited _ _ => simp [working.unacked, working.untimed] at awaited
  | coalesce reason asked | start reason asked | serve reason asked => exact absurd asked (Option.some_ne_none _).symm

/-- What the others do to the portal leaves a waiting submission alone. -/
theorem Working.held {s next : State} (working : Working s) {event : Event} (stepped : Mgmt.step s event = some next)
    (other : Firmware.fromOthers event = true) (silent : requested event = none) : Held s next := by
  cases event with
  | control register value =>
      obtain rfl := Option.some.inj stepped
      refine .of_command (controlWrite_same s ?_).1
      rintro rfl rfl
      exact absurd silent (Option.some_ne_none _)
  | command register value =>
      obtain rfl := Option.some.inj stepped
      exact held_commandWrite s other
  | receive bytes fetch =>
      obtain ⟨⟨some, room⟩, rfl⟩ := EventMachine.guarded stepped
      exact held_receive working.unacked some room fetch
  | ackTimer =>
      obtain ⟨due, _⟩ := EventMachine.guarded stepped
      exact absurd (expired_isSome due) (by simp [working.untimed])
  | watchdogTimer => exact absurd silent (Option.some_ne_none _)
  | machineReset =>
      obtain ⟨_, rfl⟩ := EventMachine.guarded stepped
      exact .of_command (watchdogReload_same _).1
  | link connected writable =>
      obtain rfl := Option.some.inj stepped
      exact .of_same rfl rfl
  | tick nowNs =>
      obtain ⟨_, rfl⟩ := EventMachine.guarded stepped
      exact .of_same rfl rfl

end VamsSoc.Mgmt

namespace VamsSoc.Firmware.Capture
open Library Abi
variable {s next : Capture}

/-- The submission that waits in the window has not been returned. -/
def waiting (s : Capture) : List (List U8) := if pending s.portal then [s.portal.command.submission] else []

/-- A call that reads has found its submission and has the first words of it. -/
def Follows (portal : Mgmt.State) : Call → Prop
  | .reading words => pending portal = true ∧ words.length ≤ commandWords ∧
      words = (List.range words.length).map (submissionWord portal)
  | _ => True

structure Sound (s : Capture) : Prop where
  working : Mgmt.Working s.portal
  window : s.portal.command.submission.length = submissionSize
  sizes : ∀ bytes ∈ s.announced, bytes.length = submissionSize
  ledger : s.announced = s.returned ++ s.waiting
  follows : Follows s.portal s.call

/-- The accesses that are left until the call, or the next one, returns a submission that waits. -/
def remaining (s : Capture) : Nat :=
  match s.call with
  | .between => commandWords + 3
  | .polling => commandWords + 2
  | .reading words => commandWords + 1 - words.length

theorem fromOthers_silent {event : Mgmt.Event} (other : fromOthers event = true) : Mgmt.requested event = none := by
  cases event with
  | command register value => rfl
  | control register value => exact Option.isNone_iff_eq_none.mp other
  | watchdogTimer => exact absurd other Bool.false_ne_true
  | _ => rfl

theorem Follows.held {portal later : Mgmt.State} {call : Call} (follows : Follows portal call)
    (held : Mgmt.Held portal later) : Follows later call := by
  cases call with
  | between | polling => trivial
  | reading words =>
      obtain ⟨waits, inside, first⟩ := follows
      obtain ⟨still, same⟩ := held.waits waits
      have words_eq : submissionWord later = submissionWord portal := by
        funext index
        simp only [submissionWord, same]
      exact ⟨still, inside, words_eq ▸ first⟩

/-- An access of the others may announce a submission and returns none. -/
theorem Sound.see (sound : Sound s) {portal : Mgmt.State} (working : Mgmt.Working portal)
    (held : Mgmt.Held s.portal portal) : Sound (s.see portal) := by
  have size := held.sized sound.window
  refine ⟨working, size, ?_, ?_, sound.follows.held held⟩
  · intro bytes inside
    simp only [Capture.see] at inside
    split at inside
    · rcases List.mem_append.mp inside with before | new
      · exact sound.sizes bytes before
      · exact List.mem_singleton.mp new ▸ size
    · exact sound.sizes bytes inside
  · have ledger := sound.ledger
    cases waits : pending s.portal with
    | true =>
        obtain ⟨still, same⟩ := held.waits waits
        simpa [Capture.see, Capture.waiting, waits, still, same] using ledger
    | false =>
        cases now : pending portal <;> simpa [Capture.see, Capture.waiting, waits, now] using ledger

/-- The words that a call has read are the bytes of the window. -/
theorem bytes_of_words {portal : Mgmt.State} (size : portal.command.submission.length = submissionSize) :
    ((List.range commandWords).map (submissionWord portal)).flatMap (leBytes 4) = portal.command.submission := by
  have read : ∀ count, 4 * count ≤ submissionSize →
      ((List.range count).map (submissionWord portal)).flatMap (leBytes 4) =
        portal.command.submission.take (4 * count) := by
    intro count
    induction count with
    | zero => simp
    | succ count ih =>
        intro inside
        have word : leBytes 4 (submissionWord portal count) = (portal.command.submission.drop (4 * count)).take 4 :=
          leBytes_leWord rfl (by omega)
        rw [List.range_succ, List.map_append, List.flatMap_append, ih (by omega), List.map_singleton,
          List.flatMap_singleton, word, ← List.take_add]
        rfl
  rw [read commandWords (by decide), List.take_of_length_le]
  rw [size]
  decide

theorem commandWrite_fwAck {portal : Mgmt.State} (working : Mgmt.Working portal) (waits : pending portal = true) :
    Mgmt.commandWrite portal .fwAck 1 =
      portal.setCommand (portal.command.clearBits Mgmt.commandH2fPending) := by
  have waits' : hasBits portal.command.status Mgmt.commandH2fPending = true := waits
  simp [Mgmt.commandWrite, Mgmt.fwAck, working.idle, waits']

/-- A call that has read all its words has the bytes of the submission that waits. -/
theorem Sound.whole (sound : Sound s) {words : List U32} (reading : s.call = .reading words)
    (done : ¬words.length < commandWords) :
    pending s.portal = true ∧ words.flatMap (leBytes 4) = s.portal.command.submission := by
  have follows := sound.follows
  rw [reading] at follows
  obtain ⟨waits, inside, first⟩ := follows
  have count : words.length = commandWords := by omega
  rw [count] at first
  rw [first]
  exact ⟨waits, bytes_of_words sound.window⟩

/-- The acknowledgment returns the window as it was announced. -/
theorem Sound.acknowledge (sound : Sound s) {words : List U32} (reading : s.call = .reading words)
    (done : ¬words.length < commandWords) :
    Sound { s.see (Mgmt.commandWrite s.portal .fwAck 1) with
      call := .between, returned := s.returned ++ [words.flatMap (leBytes 4)] } := by
  obtain ⟨waits, whole⟩ := sound.whole reading done
  rw [commandWrite_fwAck sound.working waits]
  have free : pending (s.portal.setCommand (s.portal.command.clearBits Mgmt.commandH2fPending)) = false :=
    hasBits_cleared _ _
  have ledger := sound.ledger
  refine ⟨⟨sound.working.idle, sound.working.unacked, sound.working.untimed⟩, sound.window, ?_, ?_, trivial⟩
  · simpa only [Capture.see, free, Bool.false_and, Bool.false_eq_true, if_false] using sound.sizes
  · simp only [Capture.waiting, waits, if_true] at ledger
    simp only [Capture.see, Capture.waiting, free, Bool.false_and, Bool.false_eq_true, if_false, List.append_nil, whole]
    exact ledger

theorem Sound.receive (sound : Sound s) (expired : Bool) : Sound (s.receive expired) := by
  unfold Capture.receive
  split
  · exact ⟨sound.working, sound.window, sound.sizes, sound.ledger, trivial⟩
  · split
    · next waits => exact ⟨sound.working, sound.window, sound.sizes, sound.ledger, waits, by decide, rfl⟩
    · split
      · exact ⟨sound.working, sound.window, sound.sizes, sound.ledger, trivial⟩
      · exact sound
  · next words reading =>
      split
      · next more =>
          have follows := sound.follows
          rw [reading] at follows
          obtain ⟨waits, inside, first⟩ := follows
          refine ⟨sound.working, sound.window, sound.sizes, sound.ledger, waits, ?_, ?_⟩
          · simpa using more
          · rw [List.length_append, List.length_singleton, List.range_succ, List.map_append, List.map_singleton,
              ← first]
      · next done => exact sound.acknowledge reading done

theorem Sound.step (sound : Sound s) {access : Access} (stepped : Capture.step s access = some next) :
    Sound next := by
  cases access with
  | firmware expired =>
      obtain rfl := Option.some.inj stepped
      exact sound.receive expired
  | portal event =>
      obtain ⟨other, moved⟩ := Option.ite_none_right_eq_some.mp stepped
      obtain ⟨portal, arrived, rfl⟩ := Option.map_eq_some_iff.mp moved
      have silent := fromOthers_silent other
      exact sound.see (sound.working.step arrived silent) (sound.working.held arrived other silent)

theorem sound_start (link : Link) (dropAbortResult : Bool) : Sound (start link dropAbortResult) where
  working := ⟨rfl, rfl, rfl⟩
  window := List.length_replicate
  sizes := by simp [start]
  ledger := by simp [start, Capture.waiting, pending, hasBits]
  follows := trivial

/-- The returned records are never taken back. -/
theorem returned_step {access : Access} (stepped : Capture.step s access = some next) :
    s.returned <+: next.returned := by
  cases access with
  | firmware expired =>
      obtain rfl := Option.some.inj stepped
      unfold Capture.receive
      split
      · exact List.prefix_rfl
      · split
        · exact List.prefix_rfl
        · split <;> exact List.prefix_rfl
      · split
        · exact List.prefix_rfl
        · exact List.prefix_append _ _
  | portal event =>
      obtain ⟨_, moved⟩ := Option.ite_none_right_eq_some.mp stepped
      obtain ⟨portal, _, rfl⟩ := Option.map_eq_some_iff.mp moved
      exact List.prefix_rfl

theorem returned_run {accesses : List Access} (ran : Capture.step.run s accesses = some next) :
    s.returned <+: next.returned := by
  induction accesses generalizing s with
  | nil =>
      obtain rfl := Option.some.inj ran
      exact List.prefix_rfl
  | cons access rest ih =>
      obtain ⟨middle, stepped, continued⟩ := EventMachine.run_cons_some ran
      exact (returned_step stepped).trans (ih continued)

def Access.ofFirmware : Access → Bool
  | .firmware _ => true
  | .portal _ => false

/-- While a submission waits, each access of the firmware brings its return nearer, or returns it. -/
theorem Sound.nearer (sound : Sound s) (waits : pending s.portal = true) (expired : Bool) :
    (s.receive expired).remaining + 1 = s.remaining ∧ pending (s.receive expired).portal = true ∧
        (s.receive expired).announced = s.announced ∨
      (s.receive expired).returned = s.announced := by
  unfold Capture.receive
  split
  · next between => exact .inl ⟨by simp [remaining, between], waits, rfl⟩
  · next polling =>
      rw [if_pos waits]
      exact .inl ⟨by simp [remaining, polling], waits, rfl⟩
  · next words reading =>
      split
      · next more => exact .inl ⟨by simp [remaining, reading]; omega, waits, rfl⟩
      · next done =>
          have ledger := sound.ledger
          rw [Capture.waiting, if_pos waits] at ledger
          rw [(sound.whole reading done).2]
          exact .inr ledger.symm

theorem Sound.remaining_pos (sound : Sound s) : 0 < s.remaining := by
  have follows := sound.follows
  unfold remaining
  split
  · omega
  · omega
  · next words reading =>
      rw [reading] at follows
      have inside := follows.2.1
      omega

/-- Once the firmware has made the accesses that were left, the submission that waited is returned, whatever the others
have done in between. -/
theorem Sound.returns (sound : Sound s) (waits : pending s.portal = true) {accesses : List Access}
    (ran : Capture.step.run s accesses = some next) (enough : s.remaining ≤ accesses.countP Access.ofFirmware) :
    s.announced <+: next.returned := by
  induction accesses generalizing s with
  | nil =>
      have left := sound.remaining_pos
      rw [List.countP_nil] at enough
      omega
  | cons access rest ih =>
      obtain ⟨middle, stepped, continued⟩ := EventMachine.run_cons_some ran
      have kept := sound.step stepped
      cases access with
      | firmware expired =>
          obtain rfl := Option.some.inj stepped
          rw [List.countP_cons_of_pos rfl] at enough
          rcases sound.nearer waits expired with ⟨closer, still, same⟩ | taken
          · rw [← same]
            exact ih kept still continued (by omega)
          · rw [← taken]
            exact returned_run continued
      | portal event =>
          obtain ⟨other, moved⟩ := Option.ite_none_right_eq_some.mp stepped
          obtain ⟨portal, arrived, rfl⟩ := Option.map_eq_some_iff.mp moved
          rw [List.countP_cons_of_neg Bool.false_ne_true] at enough
          obtain ⟨still, _⟩ := (sound.working.held arrived other (fromOthers_silent other)).waits waits
          have same : (s.see portal).announced = s.announced := by simp [Capture.see, waits]
          rw [← same]
          exact ih kept still continued enough

/-- In every interleaving of the calls with the producers and the completion writes, what the calls return is what was
announced, in order and once each, but for the submission that still waits. That one is returned, with the bytes that it
was announced with, by the call that goes on from there. -/
theorem submissions_captured (link : Link) (dropAbortResult : Bool) (accesses : List Access)
    (ran : step.run (start link dropAbortResult) accesses = some s) :
    s.announced = s.returned ++ s.waiting ∧ (∀ bytes ∈ s.announced, bytes.length = submissionSize) ∧
      ∀ (later : List Access) (next : Capture), step.run s later = some next → pending s.portal = true →
        s.remaining ≤ later.countP Access.ofFirmware → s.announced <+: next.returned := by
  have keeps : ∀ (state : Capture) (access : Access) (after : Capture), Sound state →
      step state access = some after → Sound after := fun _ _ _ sound stepped => sound.step stepped
  have sound := (EventMachine.always_of_step keeps (sound_start link dropAbortResult) accesses).final ran
  exact ⟨sound.ledger, sound.sizes, fun later next continued waits enough => sound.returns waits continued enough⟩

def staged (word : U32) : List Access := [.portal (.command (.submission 0) word), .portal (.command .hostSubmit 1)]

def firmwareRuns (count : Nat) : List Access := List.replicate count (.firmware false)

/-- The producer changes the first word after half of it was read, and submits again while the first submission waits. -/
def hurried : List Access := staged 7 ++ firmwareRuns 10 ++ staged 8 ++ firmwareRuns 9 ++ staged 8

theorem hurried_captured : ∃ s, step.run (start {} false) hurried = some s ∧
    s.returned = [leBytes 4 (7 : U32) ++ List.replicate 60 0] ∧
    s.waiting = [leBytes 4 (8 : U32) ++ List.replicate 60 0] ∧ s.announced = s.returned ++ s.waiting := by
  have ends : (step.run (start {} false) hurried).map (fun s => (s.returned, s.waiting)) =
      some ([leBytes 4 (7 : U32) ++ List.replicate 60 0], [leBytes 4 (8 : U32) ++ List.replicate 60 0]) := by
    decide +kernel
  obtain ⟨s, ran, seen⟩ := Option.map_eq_some_iff.mp ends
  exact ⟨s, ran, congrArg Prod.fst seen, congrArg Prod.snd seen, (submissions_captured {} false hurried ran).1⟩

end VamsSoc.Firmware.Capture
