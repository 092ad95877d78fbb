/-
This file shows that the portal serves all requests for a management reset in groups, one reset for each group.
-/

import VamsSoc.Construction.Portal.Machine

namespace VamsSoc.Mgmt
open Library Abi

/-- A group has the request that started a reset and all those that came while it was pending, newest first. -/
structure Ledger where
  finished : List (List U32) := []
  current : List U32 := []

namespace Ledger

def ask (ledger : Ledger) (request : Option U32) : Ledger :=
  { ledger with current := request.toList ++ ledger.current }

/-- A group ends with the step after which no reset is pending any more. -/
def settle (ledger : Ledger) (pending : Bool) : Ledger :=
  if pending || ledger.current.isEmpty then ledger else ⟨ledger.current :: ledger.finished, []⟩

/-- The requests that did not start their reset. -/
def later (ledger : Ledger) : Nat :=
  (ledger.finished.map fun group => group.length - 1).sum + (ledger.current.length - 1)

end Ledger

/-- The watchdog is the reason of every group that it takes part in. -/
def groupReason (group : List U32) : U32 :=
  if resetReasonWatchdog ∈ group then resetReasonWatchdog else resetReasonFirmware

/-- The portal runs, and the ledger sorts the requests that it is given. -/
def tracked : EventMachine (State × Ledger) Event
  | (s, ledger), event => (step s event).map fun next =>
      (next, (ledger.ask (requested event)).settle next.reset.pending)

/-- The serializer agrees with the ledger of its requests. -/
structure Serialized (s : State) (ledger : Ledger) : Prop where
  expecting : s.reset.ackExpected = s.reset.pending
  timed : s.reset.ackTimer.isSome = s.reset.pending
  grouped : s.reset.pending = !ledger.current.isEmpty
  generation : s.reset.generation = BitVec.ofNat 32 ledger.finished.length
  coalesced : s.reset.coalesceCount.toNat = min (2 ^ 32 - 1) ledger.later
  recorded : s.reset.lastReason = (ledger.finished.head?.map groupReason).getD resetReasonPowerOn
  watched : hasBits s.watchdog.control wdtEnable = true → s.reset.pending = false → s.watchdog.timer.isSome = true

/-- This is what the serializer of the portal keeps for itself. -/
structure Serial where
  pending : Bool
  ackExpected : Bool
  ackArmed : Bool
  generation : U32
  coalesceCount : U32
  pendingReason : U32
  lastReason : U32

def serial (s : State) : Serial where
  pending := s.reset.pending
  ackExpected := s.reset.ackExpected
  ackArmed := s.reset.ackTimer.isSome
  generation := s.reset.generation
  coalesceCount := s.reset.coalesceCount
  pendingReason := s.reset.pendingReason
  lastReason := s.reset.lastReason

namespace Serial

def start (v : Serial) (reason : U32) : Serial :=
  { v with pending := true, ackExpected := true, ackArmed := true, pendingReason := reason }

def finish (v : Serial) : Serial :=
  { v with
    pending := false
    ackExpected := false
    ackArmed := false
    generation := v.generation + 1
    pendingReason := resetReasonPowerOn
    lastReason := v.pendingReason }

def coalesce (v : Serial) (reason : U32) : Serial :=
  { v with
    coalesceCount := satInc v.coalesceCount
    pendingReason := if reason = resetReasonWatchdog then reason else v.pendingReason }

end Serial

/-- An enabled watchdog has its timer armed. -/
def Watched (s : State) : Prop := hasBits s.watchdog.control wdtEnable = true → s.watchdog.timer.isSome = true

/-- A step of the portal leaves the serializer alone, ends a reset, or takes a request in one of three ways. -/
inductive Effect (request : Option U32) (s next : State) : Prop where
  | still (silent : request = none) (same : serial next = serial s) (watches : Watched s → Watched next)
  | finish (silent : request = none) (awaited : s.reset.ackExpected = true ∨ s.reset.ackTimer.isSome = true)
      (ended : serial next = (serial s).finish) (watches : Watched next)
  | coalesce (reason : U32) (asked : request = some reason) (busy : s.reset.pending = true)
      (joined : serial next = (serial s).coalesce reason)
  | start (reason : U32) (asked : request = some reason) (idle : s.reset.pending = false)
      (started : serial next = (serial s).start reason)
  | serve (reason : U32) (asked : request = some reason) (idle : s.reset.pending = false)
      (served : serial next = ((serial s).start reason).finish) (watches : Watched next)

theorem watched_watchdogReload (s : State) : Watched (watchdogReload s) := by
  unfold watchdogReload
  split
  · exact fun _ => rfl
  · next off => exact fun enabled => absurd enabled off

theorem serial_watchdogReload (s : State) : serial (watchdogReload s) = serial s := by
  unfold watchdogReload
  split <;> rfl

theorem serial_finishReset (s : State) : serial (finishReset s) = (serial s).finish := by
  rw [finishReset, serial_watchdogReload]
  rfl

theorem watched_finishReset (s : State) : Watched (finishReset s) := watched_watchdogReload _

/-- The serializer and the watchdog are as before. -/
structure Untouched (s next : State) : Prop where
  serial : serial next = serial s
  watchdog : next.watchdog = s.watchdog

theorem Untouched.effect {s next : State} (untouched : Untouched s next) : Effect none s next := by
  refine .still rfl untouched.serial fun watched => ?_
  rw [Watched, untouched.watchdog]
  exact watched

/-- A notice changes nothing of the serializer but counters that are not in the ledger. -/
theorem untouched_notifyReset (s : State) : Untouched s (notifyReset s).2 := by
  unfold notifyReset chrWriteAll
  split
  · exact ⟨rfl, rfl⟩
  · dsimp only
    split <;> split <;> exact ⟨rfl, rfl⟩

theorem effect_managementReset (s : State) (reason : U32) : Effect (some reason) s (managementReset s reason) := by
  unfold managementReset
  by_cases busy : s.reset.pending
  · rw [if_pos busy]
    exact .coalesce reason rfl busy rfl
  · have idle : s.reset.pending = false := eq_false_of_ne_true busy
    rw [if_neg busy]
    dsimp only
    have notified := untouched_notifyReset ((s.setWatchdog { s.watchdog with timer := none }).setReset
      { s.reset with pending := true, pendingReason := reason })
    split
    · have awaiting : ∀ later : State, serial (awaitAck later) =
          { serial later with ackExpected := true, ackArmed := true } := fun _ => rfl
      refine .start reason rfl idle ?_
      rw [awaiting, notified.serial]
      rfl
    · refine .serve reason rfl idle ?_ (watched_finishReset _)
      rw [serial_finishReset, notified.serial]
      rfl

theorem effect_controlWrite (s : State) (register : ControlRegister) (value : U32) :
    Effect (requested (.control register value)) s (controlWrite s register value) := by
  cases register with
  | wdtTimeoutMs =>
      change Effect none s (writeWdtTimeoutMs s value)
      unfold writeWdtTimeoutMs
      split <;> exact .still rfl rfl id
  | wdtControl =>
      change Effect none s (writeWdtControl s value)
      unfold writeWdtControl
      split
      · exact .still rfl rfl id
      · exact .still rfl (serial_watchdogReload _) fun _ => watched_watchdogReload _
  | wdtPet =>
      change Effect none s (writeWdtPet s value)
      unfold writeWdtPet
      split
      · exact .still rfl rfl id
      · exact .still rfl (serial_watchdogReload s) fun _ => watched_watchdogReload s
  | resetRequest =>
      change Effect (if value = resetRequestMgmt then some resetReasonFirmware else none) s (writeResetRequest s value)
      unfold writeResetRequest
      by_cases asked : value = resetRequestMgmt
      · rw [if_pos asked, if_neg (not_not_intro asked)]
        exact effect_managementReset s resetReasonFirmware
      · rw [if_neg asked, if_pos asked]
        exact .still rfl rfl id
  | fwHeartbeat | fwUptimeLo | fwUptimeHi | fwVersion | status | retention | unmapped =>
      exact .still rfl rfl id

/-- The command window has no access to the serializer. -/
theorem untouched_commandWrite (s : State) (register : CommandRegister) (value : U32) :
    Untouched s (commandWrite s register value) := by
  unfold commandWrite
  split
  · exact ⟨rfl, rfl⟩
  · cases register with
    | submission index => unfold writeSubmission; dsimp only; split <;> exact ⟨rfl, rfl⟩
    | completion index => unfold writeCompletion; dsimp only; split <;> exact ⟨rfl, rfl⟩
    | hostSubmit => unfold hostSubmit; dsimp only; split <;> exact ⟨rfl, rfl⟩
    | fwAck => unfold fwAck; dsimp only; split <;> exact ⟨rfl, rfl⟩
    | resultAck => unfold resultAck; dsimp only; split <;> exact ⟨rfl, rfl⟩
    | hostAck => unfold hostAck; dsimp only; split <;> exact ⟨rfl, rfl⟩
    | status | unmapped => exact ⟨rfl, rfl⟩
    | fwComplete =>
        unfold fwComplete chrWriteAll
        dsimp only
        split
        · exact ⟨rfl, rfl⟩
        · split
          · exact ⟨rfl, rfl⟩
          · split <;> split <;> exact ⟨rfl, rfl⟩
    | fwAbort =>
        unfold fwAbort chrWriteAll
        dsimp only
        split
        · exact ⟨rfl, rfl⟩
        · split <;> split <;> exact ⟨rfl, rfl⟩

theorem untouched_require (s : State) (assertion : Assertion) (holds : Bool) :
    Untouched s (require s assertion holds) := by
  cases holds <;> exact ⟨rfl, rfl⟩

theorem untouched_receiveResult (s : State) (bytes : List U8) : Untouched s (receiveResult s bytes) := by
  unfold receiveResult
  split <;> exact ⟨rfl, rfl⟩

/-- The frame ends the reset, whether it is a valid acknowledgment or not. -/
theorem serial_receiveAck (s : State) (ack : Completion) : serial (receiveAck s ack) = (serial s).finish := by
  unfold receiveAck
  dsimp only
  split <;> rw [serial_finishReset] <;> rfl

theorem watched_receiveAck (s : State) (ack : Completion) : Watched (receiveAck s ack) := by
  unfold receiveAck
  dsimp only
  split <;> exact watched_finishReset _

theorem effect_receive (s : State) (bytes : List U8) (fetch : Nat) : Effect none s (receive s bytes fetch) := by
  unfold receive
  dsimp only
  generalize decide ((s.command.rx ++ bytes).length ≤ expectedSize s) = room
  have roomy := untouched_require s .receiveRoom room
  split
  · exact Untouched.effect ⟨roomy.serial, roomy.watchdog⟩
  · split
    · next expecting =>
        refine .finish rfl (.inl expecting) ?_ (watched_receiveAck _ _)
        rw [serial_receiveAck, roomy.serial]
    · split
      · have stored := untouched_receiveResult (require s .receiveRoom room) (s.command.rx ++ bytes)
        exact Untouched.effect ⟨stored.serial.trans roomy.serial, stored.watchdog.trans roomy.watchdog⟩
      · exact Untouched.effect ⟨roomy.serial, roomy.watchdog⟩

theorem serial_resetAckTimeout (s : State) :
    serial (resetAckTimeout (s.setReset { s.reset with ackTimer := none })) = (serial s).finish := by
  unfold resetAckTimeout
  rw [serial_finishReset]
  rfl

theorem expired_isSome {s : State} {timer : Option Nat} (due : expired s timer = true) : timer.isSome = true := by
  cases timer with
  | none => exact due
  | some expiry => rfl

/-- The fired watchdog is a request like that of the firmware. -/
theorem effect_watchdogExpired (s : State) :
    Effect (some resetReasonWatchdog) s (watchdogExpired (s.setWatchdog { s.watchdog with timer := none })) := by
  have effect := effect_managementReset ((s.setWatchdog { s.watchdog with timer := none }).setWatchdog
    { s.watchdog with timer := none, resetCount := satInc s.watchdog.resetCount }) resetReasonWatchdog
  cases effect with
  | still silent => exact absurd silent (Option.some_ne_none _)
  | finish silent => exact absurd silent (Option.some_ne_none _)
  | coalesce reason asked busy joined => exact .coalesce reason asked busy joined
  | start reason asked idle started => exact .start reason asked idle started
  | serve reason asked idle served watches => exact .serve reason asked idle served watches

theorem effect_step {s next : State} {event : Event} (stepped : step s event = some next) :
    Effect (requested event) s next := by
  cases event with
  | control register value =>
      obtain rfl := Option.some.inj stepped
      exact effect_controlWrite s register value
  | command register value =>
      obtain rfl := Option.some.inj stepped
      exact (untouched_commandWrite s register value).effect
  | receive bytes fetch =>
      obtain ⟨_, rfl⟩ := EventMachine.guarded stepped
      exact effect_receive s bytes fetch
  | ackTimer =>
      obtain ⟨due, rfl⟩ := EventMachine.guarded stepped
      exact .finish rfl (.inr (expired_isSome due)) (serial_resetAckTimeout s) (watched_finishReset _)
  | watchdogTimer =>
      obtain ⟨_, rfl⟩ := EventMachine.guarded stepped
      exact effect_watchdogExpired s
  | machineReset =>
      obtain ⟨_, rfl⟩ := EventMachine.guarded stepped
      exact .still rfl (serial_watchdogReload _) fun _ => watched_watchdogReload _
  | link connected writable =>
      obtain rfl := Option.some.inj stepped
      exact .still rfl rfl id
  | tick nowNs =>
      obtain ⟨_, rfl⟩ := EventMachine.guarded stepped
      exact .still rfl rfl id

/-- What the serializer keeps agrees with the ledger, the reason of an open group included. -/
structure Agrees (v : Serial) (ledger : Ledger) : Prop where
  expecting : v.ackExpected = v.pending
  timed : v.ackArmed = v.pending
  grouped : v.pending = !ledger.current.isEmpty
  generation : v.generation = BitVec.ofNat 32 ledger.finished.length
  coalesced : v.coalesceCount.toNat = min (2 ^ 32 - 1) ledger.later
  pendingReason : v.pending = true → v.pendingReason = groupReason ledger.current
  lastReason : v.lastReason = (ledger.finished.head?.map groupReason).getD resetReasonPowerOn

theorem groupReason_cons (reason : U32) (group : List U32) :
    groupReason (reason :: group) = if reason = resetReasonWatchdog then reason else groupReason group := by
  by_cases watchdog : reason = resetReasonWatchdog
  · rw [if_pos watchdog, groupReason, if_pos (watchdog ▸ List.mem_cons_self), watchdog]
  · have other : resetReasonWatchdog ∈ reason :: group ↔ resetReasonWatchdog ∈ group :=
      ⟨fun inside => (List.mem_cons.mp inside).resolve_left fun same => watchdog same.symm, List.mem_cons_of_mem _⟩
    rw [if_neg watchdog, groupReason, groupReason]
    exact if_congr other rfl rfl

theorem requested_reason {event : Event} {reason : U32} (asked : requested event = some reason) :
    groupReason [reason] = reason := by
  have known : reason = resetReasonFirmware ∨ reason = resetReasonWatchdog := by
    cases event with
    | control register value =>
        cases register with
        | resetRequest =>
            obtain ⟨_, same⟩ := Option.ite_none_right_eq_some.mp asked
            exact .inl (Option.some.inj same).symm
        | _ => exact absurd asked.symm (Option.some_ne_none _)
    | watchdogTimer => exact .inr (Option.some.inj asked).symm
    | _ => exact absurd asked.symm (Option.some_ne_none _)
  rcases known with rfl | rfl <;> decide

namespace Agrees

variable {v : Serial} {ledger : Ledger}

theorem open_group (agrees : Agrees v ledger) (pending : v.pending = true) : ledger.current ≠ [] := by
  intro empty
  have closed := agrees.grouped
  rw [pending, empty] at closed
  exact absurd closed (by decide)

theorem no_group (agrees : Agrees v ledger) (idle : v.pending = false) : ledger.current = [] := by
  have closed := agrees.grouped
  rw [idle] at closed
  simpa using closed

/-- The request of a new reset opens a group of its own. -/
theorem start (agrees : Agrees v ledger) (idle : v.pending = false) {reason : U32} (known : groupReason [reason] = reason) :
    Agrees (v.start reason) { ledger with current := [reason] } where
  expecting := rfl
  timed := rfl
  grouped := rfl
  generation := agrees.generation
  coalesced := by
    have empty := agrees.no_group idle
    have before := agrees.coalesced
    rw [Ledger.later, empty] at before
    exact before
  pendingReason _ := known.symm
  lastReason := agrees.lastReason

/-- A request that joins the group is one of the later ones. -/
theorem coalesce (agrees : Agrees v ledger) (busy : v.pending = true) (reason : U32) :
    Agrees (v.coalesce reason) { ledger with current := reason :: ledger.current } where
  expecting := agrees.expecting
  timed := agrees.timed
  grouped := busy
  generation := agrees.generation
  coalesced := by
    have joined : (⟨ledger.finished, reason :: ledger.current⟩ : Ledger).later = ledger.later + 1 := by
      have nonempty := List.length_pos_iff.mpr (agrees.open_group busy)
      simp only [Ledger.later, List.length_cons]
      omega
    rw [joined]
    calc (satInc v.coalesceCount).toNat
        = min (2 ^ 32 - 1) (min (2 ^ 32 - 1) ledger.later + 1) := by rw [toNat_satInc, agrees.coalesced]
      _ = min (2 ^ 32 - 1) (ledger.later + 1) := by omega
  pendingReason _ := by
    rw [groupReason_cons, ← agrees.pendingReason busy]
    rfl
  lastReason := agrees.lastReason

/-- The end of the reset closes the group with its reason. -/
theorem finish (agrees : Agrees v ledger) (busy : v.pending = true) :
    Agrees v.finish ⟨ledger.current :: ledger.finished, []⟩ where
  expecting := rfl
  timed := rfl
  grouped := rfl
  generation := by
    change v.generation + 1 = BitVec.ofNat 32 (ledger.finished.length + 1)
    rw [agrees.generation, BitVec.ofNat_add]
    rfl
  coalesced := by
    have moved : (⟨ledger.current :: ledger.finished, []⟩ : Ledger).later = ledger.later := by
      simp only [Ledger.later, List.map_cons, List.sum_cons, List.length_nil]
      omega
    rw [moved]
    exact agrees.coalesced
  pendingReason idle := absurd idle Bool.false_ne_true
  lastReason := agrees.pendingReason busy

end Agrees

theorem Ledger.settle_empty {ledger : Ledger} (empty : ledger.current = []) (pending : Bool) :
    ledger.settle pending = ledger := by
  rw [settle, empty, List.isEmpty_nil, Bool.or_true]
  rfl

theorem Ledger.settle_done {ledger : Ledger} (some : ledger.current ≠ []) :
    ledger.settle false = ⟨ledger.current :: ledger.finished, []⟩ := by
  rw [settle, Bool.false_or, if_neg]
  simpa using some

/-- Each kind of step keeps the agreement with the ledger. -/
theorem Effect.agrees {request : Option U32} {s next : State} {ledger : Ledger} (effect : Effect request s next)
    (known : ∀ reason, request = some reason → groupReason [reason] = reason) (agrees : Agrees (serial s) ledger) :
    Agrees (serial next) ((ledger.ask request).settle next.reset.pending) := by
  cases effect with
  | still silent same watches =>
      have pending : next.reset.pending = s.reset.pending := congrArg Serial.pending same
      rw [silent, same, pending]
      change Agrees (serial s) (ledger.settle s.reset.pending)
      cases busy : s.reset.pending with
      | false => rwa [Ledger.settle_empty (agrees.no_group busy)]
      | true => exact agrees
  | finish silent awaited ended watches =>
      have busy : s.reset.pending = true := by
        rcases awaited with expecting | armed
        · exact agrees.expecting.symm.trans expecting
        · exact agrees.timed.symm.trans armed
      have pending : next.reset.pending = false := congrArg Serial.pending ended
      rw [silent, ended, pending]
      change Agrees _ (ledger.settle false)
      rw [Ledger.settle_done (agrees.open_group busy)]
      exact agrees.finish busy
  | coalesce reason asked busy joined =>
      have pending : next.reset.pending = true := (congrArg Serial.pending joined).trans busy
      rw [asked, joined, pending]
      exact agrees.coalesce busy reason
  | start reason asked idle started =>
      have pending : next.reset.pending = true := congrArg Serial.pending started
      have alone : ledger.ask (some reason) = { ledger with current := [reason] } := by
        rw [Ledger.ask, agrees.no_group idle]
        rfl
      rw [asked, started, pending, alone]
      exact agrees.start idle (known reason asked)
  | serve reason asked idle served watches =>
      have pending : next.reset.pending = false := congrArg Serial.pending served
      have alone : ledger.ask (some reason) = { ledger with current := [reason] } := by
        rw [Ledger.ask, agrees.no_group idle]
        rfl
      rw [asked, served, pending, alone, Ledger.settle_done (List.cons_ne_nil reason [])]
      exact (agrees.start idle (known reason asked)).finish rfl

/-- A watchdog is left without a timer only while a reset is pending. -/
theorem Effect.watched {request : Option U32} {s next : State} (effect : Effect request s next)
    (watched : s.reset.pending = false → Watched s) (idle : next.reset.pending = false) : Watched next := by
  cases effect with
  | still silent same watches => exact watches (watched ((congrArg Serial.pending same).symm.trans idle))
  | finish silent awaited ended watches => exact watches
  | serve reason asked idle served watches => exact watches
  | coalesce reason asked busy joined =>
      exact absurd (idle.symm.trans ((congrArg Serial.pending joined).trans busy)) Bool.false_ne_true
  | start reason asked still started =>
      exact absurd (idle.symm.trans (congrArg Serial.pending started)) Bool.false_ne_true

/-- From any cold start, whatever the windows and the bridge hold, the serializer agrees with its requests. -/
theorem serialized_always (command : Command) (telemetry : Telemetry) (link : Link) (clockNs : Nat)
    (events : List Event) :
    tracked.Always (fun state => Serialized state.1 state.2) ({ command, telemetry, link, clockNs }, {}) events := by
  have keeps : ∀ (state : State × Ledger) (event : Event) (next : State × Ledger),
      Agrees (serial state.1) state.2 ∧ (state.1.reset.pending = false → Watched state.1) →
      tracked state event = some next →
      Agrees (serial next.1) next.2 ∧ (next.1.reset.pending = false → Watched next.1) := by
    rintro ⟨s, ledger⟩ event next ⟨agrees, watched⟩ stepped
    obtain ⟨after, moved, rfl⟩ := Option.map_eq_some_iff.mp stepped
    have effect := effect_step moved
    exact ⟨effect.agrees (fun reason => requested_reason) agrees, effect.watched watched⟩
  have start : Agrees (serial { command, telemetry, link, clockNs }) {} :=
    ⟨rfl, rfl, rfl, rfl, rfl, fun pending => absurd pending Bool.false_ne_true, rfl⟩
  have idle : Watched { command, telemetry, link, clockNs } := fun enabled =>
    absurd enabled (show ¬hasBits (0 : U32) wdtEnable = true by decide)
  refine (EventMachine.always_of_step keeps ⟨start, fun _ => idle⟩ events).mono ?_
  rintro ⟨s, ledger⟩ ⟨agrees, watched⟩
  exact {
    expecting := agrees.expecting
    timed := agrees.timed
    grouped := agrees.grouped
    generation := agrees.generation
    coalesced := agrees.coalesced
    recorded := agrees.lastReason
    watched := fun enabled calm => watched calm enabled }

end VamsSoc.Mgmt
