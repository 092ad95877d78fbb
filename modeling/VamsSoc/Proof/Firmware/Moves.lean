/-
This file has one relation for everything that a thread can do with a command object.
-/

import VamsSoc.Construction.Firmware.Machine
import VamsSoc.Proof.Firmware.Place

namespace VamsSoc.Firmware
open Library Abi

/-- The judged object has the verdict as its completion. -/
def judged (command : CommandObject) (now : Uptime) (state : CommandState) : CommandObject :=
  { command with completion := commandExecute command.submission now, state }

def verdictOf (command : CommandObject) : Verdict :=
  ⟨command.fetch, command.submission, validateCommand command.submission⟩

/-- An object is passed on as it is, with its state. -/
inductive Passes (state : CommandState) : Place → Place → Prop
  | rest (place : Place) : Passes state place place
  | judge : Passes state .captured .judging
  | collect : Passes state .ready .collected
  | choose : Passes state .collected .selected
  | hand : Passes state .handing .running
  | finish : Passes state .finishing .completed
  | take : Passes state .running .polling
  | deadline : Passes state .polling .aborting
  | busy : Passes state .requesting .draining
  | complete : Passes state .ending .completed
  | publish (deadlineMs : Nat) : Passes state .completed (.publishing state deadlineMs)

/-- A record is copied to the completion window before it is rung. -/
inductive Copies : Place → Place → Prop
  | grant (deadlineMs : Nat) : Copies (.granting deadlineMs) .grantRinging
  | abort : Copies .requesting .abortRinging
  | answer (terminalState : CommandState) (deadlineMs : Nat) :
      Copies (.publishing terminalState deadlineMs) (.ringing terminalState)

/-- The recovery thread waits for a result in these places. -/
inductive Awaits : Place → Prop
  | polling : Awaits .polling
  | awaiting (deadlineMs : Nat) : Awaits (.awaiting deadlineMs)
  | draining : Awaits .draining

/-- A portal that stays busy stops the thread that waits for it. -/
inductive Stalls : Place → Place → Prop
  | grant (deadlineMs : Nat) : Stalls (.granting deadlineMs) .schedulerParked
  | answer (terminalState : CommandState) (deadlineMs : Nat) :
      Stalls (.publishing terminalState deadlineMs) .completerParked

/-- This is what a thread can do with an object and with the portal, with a record of it. -/
inductive Move (now : Uptime) (verdicts : List Verdict) : Place → CommandObject → Mgmt.State →
    List Activity → Option Place → CommandObject → Mgmt.State → Prop
  | pass {place next : Place} {command : CommandObject} (passes : Passes command.state place next)
      (portal : Mgmt.State) :
      Move now verdicts place command portal [] (some next) command portal
  | accept (command : CommandObject) (portal : Mgmt.State)
      (success : (commandExecute command.submission now).status = statusSuccess)
      (recorded : verdictOf command ∈ verdicts) :
      Move now verdicts .judging command portal
        [.transition { command with state := .validating } .queued, .transition command .validating]
        (some .ready) (judged command now .queued) portal
  | reject (command : CommandObject) (portal : Mgmt.State)
      (failure : (commandExecute command.submission now).status ≠ statusSuccess) :
      Move now verdicts .judging command portal
        [.transition { command with state := .validating } .completedError, .transition command .validating]
        (some .completed) (judged command now .completedError) portal
  | cancel (command : CommandObject) (portal : Mgmt.State) :
      Move now verdicts .selected command portal [.transition command .cancelled] (some .finishing)
        (command.cancel now).2 portal
  | expire (command : CommandObject) (portal : Mgmt.State) :
      Move now verdicts .selected command portal
        [.transition { command with state := .aborting } .completedError, .transition command .aborting]
        (some .finishing) ((command.transition .queued .aborting).2.timeout now).2 portal
  | answer (command : CommandObject) (portal : Mgmt.State)
      (plain : isPayloadOpcode command.submission.opcode = false) :
      Move now verdicts .selected command portal
        [.transition { command with state := .running } .completed, .transition command .running]
        (some .finishing) ((command.transition .queued .running).2.transition .running .completed).2 portal
  | grant (command : CommandObject) (portal : Mgmt.State) (deadlineMs : Nat)
      (payload : isPayloadOpcode command.submission.opcode = true) :
      Move now verdicts .selected command portal [.transition command .running] (some (.granting deadlineMs))
        (command.transition .queued .running).2 portal
  | copy {place next : Place} (copies : Copies place next) (command : CommandObject) (portal : Mgmt.State) :
      Move now verdicts place command portal [.sent command] (some next) command (copyToPortal portal command)
  | stall {place next : Place} (stalls : Stalls place next) (command : CommandObject) (portal : Mgmt.State)
      (busy : completionPending portal = true) :
      Move now verdicts place command portal [] (some next) command (requestOverloadReset portal)
  | ringGrant (command : CommandObject) (portal : Mgmt.State) :
      Move now verdicts .grantRinging command portal [] (some .handing) command
        (Mgmt.commandWrite portal .fwComplete 1)
  | ringAnswer (terminalState : CommandState) (command : CommandObject) (portal : Mgmt.State) :
      Move now verdicts (.ringing terminalState) command portal [] none command
        (Mgmt.commandWrite portal .fwComplete 1)
  | begin (command : CommandObject) (portal : Mgmt.State) :
      Move now verdicts .aborting command portal [.transition command .aborting] (some .requesting)
        (command.beginAbort now).2 portal
  | ringAbort (command : CommandObject) (portal : Mgmt.State) (deadlineMs : Nat) :
      Move now verdicts .abortRinging command portal [] (some (.awaiting deadlineMs)) command
        (Mgmt.commandWrite portal .fwAbort 1)
  | result {place : Place} (awaits : Awaits place) (command : CommandObject) (portal : Mgmt.State)
      (ready : resultPending portal = true) :
      Move now verdicts place command portal [] (some (.applying (takeResult portal).1)) command
        (takeResult portal).2
  | escalate {place : Place} (awaits : Awaits place) (command : CommandObject) (portal : Mgmt.State) :
      Move now verdicts place command portal [.transition command .completedError] (some .ending)
        (command.escalate now).2 portal
  | apply (command applied : CommandObject) (portal : Mgmt.State) (result : Completion)
      (accepted : command.applyResult result = some applied) :
      Move now verdicts (.applying result) command portal [.transition command applied.state] (some .ending)
        applied portal
  | refuse (command : CommandObject) (portal : Mgmt.State) (result : Completion) :
      Move now verdicts (.applying result) command portal [.transition command .completedError] (some .ending)
        (command.escalate now).2 portal

/-- Only a rung answer takes an object away from the live ones. -/
theorem Move.rung {now : Uptime} {verdicts : List Verdict} {place : Place} {command changed : CommandObject}
    {portal after : Mgmt.State} {script : List Activity}
    (move : Move now verdicts place command portal script none changed after) :
    ∃ terminalState, place = .ringing terminalState ∧ changed = command ∧ script = [] := by
  cases move
  exact ⟨_, rfl, rfl, rfl⟩

/-- The state of an object belongs to its place. -/
def Suits (command : CommandObject) : Place → Prop
  | .captured | .judging => command.state = .submitted
  | .ready | .collected | .selected => command.state = .queued
  | .granting _ | .grantRinging | .handing | .schedulerParked | .running | .polling | .aborting =>
    command.state = .running
  | .requesting | .abortRinging | .awaiting _ | .draining => command.state = .aborting
  | .applying _ => command.runs = true
  | .finishing | .ending | .completed | .completerParked => command.terminal = true
  | .publishing terminalState _ | .ringing terminalState =>
    command.terminal = true ∧ command.state = terminalState

/-- A rung object leaves the live ones for the end of the completer. -/
def leaving (slot : Slot) : Place → Option Place → List (Slot × CommandState)
  | .ringing terminalState, none => [(slot, terminalState)]
  | _, _ => []

/-- These parts belong to the receiver, to the end of the completer, and to the clock. -/
structure Kept (s next : State) : Prop where
  free : next.free = s.free
  receiver : next.receiver = s.receiver
  uptime : next.uptimeMs = s.uptimeMs
  verdicts : s.verdicts ⊆ next.verdicts

/-- One step has moved one live object, and has kept the others. -/
structure Shift (slot : Slot) (place : Place) (target : Option Place) (s : State) (portal : Mgmt.State)
    (next : State) (after : Mgmt.State) : Prop where
  moved : ∃ rest, (tokens s).Perm ((slot, place) :: rest) ∧
    (tokens next).Perm (target.toList.map (slot, ·) ++ rest)
  move : ∃ script, next.activity = script.map (slot, ·) ++ s.activity ∧
    Move s.uptimeMs next.verdicts place (s.objects slot) portal script target (next.objects slot) after
  others : ∀ other, other ≠ slot → next.objects other = s.objects other
  ended : next.completer.ended = leaving slot place target ++ s.completer.ended
  ripe : Ripe next
  kept : Kept s next
  calm : Suits (s.objects slot) place → next.failed = s.failed

theorem Ripe.of_same {s next : State} (ripe : Ripe s) (scheduler : next.scheduler = s.scheduler)
    (ready : next.ready = s.ready) : Ripe next := by
  intro choosing
  rw [ready]
  exact ripe (scheduler.symm.trans choosing)

/-- The step has only passed objects on. -/
structure Still (s next : State) : Prop where
  objects : next.objects = s.objects
  ended : next.completer.ended = s.completer.ended
  free : next.free = s.free
  receiver : next.receiver = s.receiver
  uptime : next.uptimeMs = s.uptimeMs
  verdicts : next.verdicts = s.verdicts
  failed : next.failed = s.failed

section Builders
variable {s next : State} {portal after : Mgmt.State} {slot : Slot} {place : Place} {rest : List (Slot × Place)}
  {script : List Activity}

theorem Shift.of_still (target : Place) (held : (tokens s).Perm ((slot, place) :: rest))
    (moved : (tokens next).Perm ((slot, target) :: rest)) (ripe : Ripe next) (still : Still s next)
    (activity : next.activity = script.map (slot, ·) ++ s.activity)
    (move : Move s.uptimeMs s.verdicts place (s.objects slot) portal script (some target) (s.objects slot) after) :
    Shift slot place (some target) s portal next after where
  moved := ⟨rest, held, moved⟩
  move := ⟨script, activity, by rw [still.verdicts, still.objects]; exact move⟩
  others := fun other _ => by rw [still.objects]
  ended := by cases place <;> exact still.ended
  ripe := ripe
  kept := ⟨still.free, still.receiver, still.uptime, by rw [still.verdicts]; exact List.Subset.refl _⟩
  calm := fun _ => still.failed

theorem Shift.of_update (target : Place) {changed : CommandObject} (held : (tokens s).Perm ((slot, place) :: rest))
    (moved : (tokens next).Perm ((slot, target) :: rest)) (ripe : Ripe next) (kept : Kept s next)
    (ended : next.completer.ended = s.completer.ended)
    (objects : next.objects = Function.update s.objects slot changed)
    (activity : next.activity = script.map (slot, ·) ++ s.activity)
    (calm : Suits (s.objects slot) place → next.failed = s.failed)
    (move : Move s.uptimeMs next.verdicts place (s.objects slot) portal script (some target) changed after) :
    Shift slot place (some target) s portal next after where
  moved := ⟨rest, held, moved⟩
  move := ⟨script, activity, by rw [objects, Function.update_self]; exact move⟩
  others := fun other different => by rw [objects, Function.update_of_ne different]
  ended := by cases place <;> exact ended
  ripe := ripe
  kept := kept
  calm := calm

/-- A live object leaves room for itself. -/
theorem Tidy.room (tidy : Tidy s) {token : Slot × Place} (held : (tokens s).Perm (token :: rest)) :
    rest.length < commandPoolSize := by
  have length := held.length_eq
  have bound := tidy.length_tokens
  simp only [List.length_cons] at length
  omega

end Builders

/-- The captured object is new. -/
def received (portal : Mgmt.State) : CommandObject where
  submission := Submission.ofBytes portal.command.submission
  fetch := portal.command.submissionFetch

def captured (s : State) (slot : Slot) (portal : Mgmt.State) : State :=
  ({ s with receiver := .idle, commandSequence := s.commandSequence + 1 }.setObject slot (received portal)).store
    slot .capture ((received portal).capture s.commandGeneration (s.commandSequence + 1) s.uptimeMs)

/-- This is everything that a step of a thread can do. -/
inductive Turn (thread : Thread) (s : State) (portal : Mgmt.State) : State → Mgmt.State → Prop
  | shift {slot : Slot} {place : Place} {target : Option Place} {next : State} {after : Mgmt.State}
      (shift : Shift slot place target s portal next after) : Turn thread s portal next after
  | allocate {slot : Slot} {rest : List Slot} (idle : s.receiver = .idle) (free : s.free = slot :: rest)
      (waiting : pending portal = true) :
      Turn thread s portal ({ s with free := rest, receiver := .allocated slot }.setObject slot {}) portal
  | release {slot : Slot} (held : s.receiver = .allocated slot) (gone : pending portal = false) :
      Turn thread s portal { s with receiver := .idle, free := slot :: s.free } portal
  | capture {slot : Slot} (held : s.receiver = .allocated slot) (waiting : pending portal = true) :
      Turn thread s portal { captured s slot portal with validationQueue := s.validationQueue ++ [slot] }
        (Mgmt.commandWrite portal .fwAck 1)
  | retire {slot : Slot} {terminalState : CommandState} (ends : s.completer = .finishing slot terminalState) :
      Turn thread s portal (retire s slot terminalState) portal
  | overflow {slot : Slot} (runs : thread = .scheduler) (handing : s.scheduler = .handing slot) (full : s.runningQueue ≠ []) :
      Turn thread s portal ({ s with scheduler := .collecting }.require .queuePut false) portal

end VamsSoc.Firmware
