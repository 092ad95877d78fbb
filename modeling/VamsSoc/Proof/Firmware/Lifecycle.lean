/-
This file shows that every command object goes through its states in order, and that its completion agrees with
its state.
-/

import VamsSoc.Proof.Firmware.Pool

namespace VamsSoc.Firmware
open Library Abi

/-- These are the transitions of a command object. -/
inductive Takes : CommandState → CommandState → Prop
  | capture : Takes .free .submitted
  | validate : Takes .submitted .validating
  | accept : Takes .validating .queued
  | reject : Takes .validating .completedError
  | run : Takes .queued .running
  | expire : Takes .queued .aborting
  | cancel : Takes .queued .cancelled
  | complete : Takes .running .completed
  | fail : Takes .running .completedError
  | abort : Takes .running .aborting
  | completeAborted : Takes .aborting .completed
  | failAborted : Takes .aborting .completedError
  | freeCompleted : Takes .completed .free
  | freeFailed : Takes .completedError .free
  | freeCancelled : Takes .cancelled .free

/-- The record of an object is a path of transitions from the free state to its current one. -/
inductive Trail : List Activity → CommandState → Prop
  | start : Trail [] .free
  | transition {log : List Activity} {command : CommandObject} {next : CommandState} (trail : Trail log command.state)
      (takes : Takes command.state next) : Trail (.transition command next :: log) next
  | published {log : List Activity} {state : CommandState} (trail : Trail log state) (command : CommandObject) :
      Trail (.published command :: log) state
  | sent {log : List Activity} {state : CommandState} (trail : Trail log state) (command : CommandObject) :
      Trail (.sent command :: log) state

/-- The descriptor passes its check, and the completion names it. -/
structure Admitted (command : CommandObject) : Prop where
  identity : command.completion.identity = command.submission.identity
  valid : validateCommand command.submission = errNone

/-- The completion of an object agrees with its state. -/
def Coherent (command : CommandObject) : Prop :=
  match command.state with
  | .free | .submitted | .validating => True
  | .queued | .running | .completed => Admitted command ∧ command.completion.status = statusSuccess
  | .aborting => Admitted command
  | .completedError =>
    command.completion.identity = command.submission.identity ∧ command.completion.status ≠ statusSuccess
  | .cancelled => Admitted command ∧ command.completion.status = statusReset

theorem valid_of_success {submission : Submission} {now : Uptime}
    (success : (commandExecute submission now).status = statusSuccess) : validateCommand submission = errNone := by
  by_contra refused
  rw [commandExecute, if_neg refused] at success
  exact absurd success (show statusInvalid ≠ statusSuccess by decide)

section Move
variable {now : Uptime} {verdicts : List Verdict} {place : Place} {target : Option Place}
  {command changed : CommandObject} {portal after : Mgmt.State} {script : List Activity}

/-- A running object of either kind has passed its check. -/
theorem Coherent.admitted (coherent : Coherent command) (runs : command.runs = true) : Admitted command := by
  unfold Coherent at coherent
  cases state : command.state <;> simp [CommandObject.runs, state] at runs coherent
  · exact coherent.1
  · exact coherent

theorem Coherent.queued (coherent : Coherent command) (queued : command.state = .queued) :
    Admitted command ∧ command.completion.status = statusSuccess := by
  rw [Coherent, queued] at coherent
  exact coherent

theorem Coherent.running (coherent : Coherent command) (running : command.state = .running) :
    Admitted command ∧ command.completion.status = statusSuccess := by
  rw [Coherent, running] at coherent
  exact coherent

/-- Every move keeps the completion in agreement with the state. -/
theorem Move.coherent (move : Move now verdicts place command portal script target changed after)
    (suits : Suits command place) (coherent : Coherent command) : Coherent changed := by
  cases move with
  | pass | copy | stall | ringGrant | ringAnswer | ringAbort | result => exact coherent
  | accept _ _ success => exact ⟨⟨rfl, valid_of_success success⟩, success⟩
  | reject _ _ failure => exact ⟨rfl, failure⟩
  | cancel =>
      obtain ⟨admitted, -⟩ := coherent.queued suits
      exact ⟨⟨admitted.identity, admitted.valid⟩, rfl⟩
  | expire =>
      obtain ⟨admitted, -⟩ := coherent.queued suits
      exact ⟨admitted.identity, show statusTimedOut ≠ statusSuccess by decide⟩
  | answer | grant =>
      obtain ⟨admitted, success⟩ := coherent.queued suits
      exact ⟨⟨admitted.identity, admitted.valid⟩, success⟩
  | begin =>
      obtain ⟨admitted, -⟩ := coherent.running suits
      exact ⟨admitted.identity, admitted.valid⟩
  | escalate awaits =>
      have admitted := coherent.admitted (awaits.runs suits)
      exact ⟨admitted.identity, show statusFailed ≠ statusSuccess by decide⟩
  | refuse =>
      have admitted := coherent.admitted suits
      exact ⟨admitted.identity, show statusFailed ≠ statusSuccess by decide⟩
  | apply _ applied _ result accepted =>
      have admitted := coherent.admitted suits
      obtain ⟨same, rfl⟩ := applyResult_eq_some accepted
      by_cases success : result.status = statusSuccess
      · rw [Coherent, if_pos success]
        exact ⟨⟨same, admitted.valid⟩, success⟩
      · rw [Coherent, if_neg success]
        exact ⟨same, success⟩

/-- A running object can end either way. -/
theorem takes_of_runs (runs : command.runs = true) :
    Takes command.state .completed ∧ Takes command.state .completedError := by
  cases state : command.state <;> simp [CommandObject.runs, state] at runs
  · exact ⟨.complete, .fail⟩
  · exact ⟨.completeAborted, .failAborted⟩

/-- Every move takes its object along the transitions. -/
theorem Move.trail (move : Move now verdicts place command portal script target changed after)
    (suits : Suits command place) {log : List Activity} (trail : Trail log command.state) :
    Trail (script ++ log) changed.state := by
  cases move with
  | pass | stall | ringGrant | ringAnswer | ringAbort | result => exact trail
  | copy => exact trail.sent command
  | accept =>
      have submitted : command.state = .submitted := suits
      exact .transition (.transition trail (submitted ▸ .validate)) .accept
  | reject =>
      have submitted : command.state = .submitted := suits
      exact .transition (.transition trail (submitted ▸ .validate)) .reject
  | cancel =>
      have queued : command.state = .queued := suits
      exact .transition trail (queued ▸ .cancel)
  | expire =>
      have queued : command.state = .queued := suits
      exact .transition (.transition trail (queued ▸ .expire)) .failAborted
  | answer =>
      have queued : command.state = .queued := suits
      exact .transition (.transition trail (queued ▸ .run)) .complete
  | grant =>
      have queued : command.state = .queued := suits
      exact .transition trail (queued ▸ .run)
  | begin =>
      have running : command.state = .running := suits
      exact .transition trail (running ▸ .abort)
  | escalate awaits => exact .transition trail (takes_of_runs (awaits.runs suits)).2
  | refuse => exact .transition trail (takes_of_runs suits).2
  | apply _ applied _ result accepted =>
      obtain ⟨-, rfl⟩ := applyResult_eq_some accepted
      refine .transition trail ?_
      split_ifs
      · exact (takes_of_runs suits).1
      · exact (takes_of_runs suits).2

/-- What is recorded of a descriptor that fails its check neither runs nor goes to the portal with success. -/
def Activity.Checked : Activity → Prop
  | .transition command next => next = .running → validateCommand command.submission = errNone
  | .published _ => True
  | .sent command => validateCommand command.submission ≠ errNone → command.completion.status ≠ statusSuccess

/-- A copied object is running, aborting or terminal, and only a terminal one can be invalid. -/
theorem Copies.checked {next : Place} (copies : Copies place next) (suits : Suits command place)
    (coherent : Coherent command) : (Activity.sent command).Checked := by
  intro invalid
  cases copies with
  | grant => exact absurd (coherent.running suits).1.valid invalid
  | abort =>
      rw [Coherent, show command.state = .aborting from suits] at coherent
      exact absurd coherent.valid invalid
  | answer =>
      have terminal : command.terminal = true := suits.1
      unfold Coherent at coherent
      cases state : command.state <;> simp only [state] at coherent <;> simp [CommandObject.terminal, state] at terminal
      · exact absurd coherent.1.valid invalid
      · exact coherent.2
      · exact absurd coherent.1.valid invalid

theorem Move.checked (move : Move now verdicts place command portal script target changed after)
    (suits : Suits command place) (coherent : Coherent command) : ∀ entry ∈ script, entry.Checked := by
  cases move with
  | pass | stall | ringGrant | ringAnswer | ringAbort | result => simp
  | copy copies =>
      simp only [List.mem_singleton, forall_eq]
      exact copies.checked suits coherent
  | answer | grant =>
      have valid := (coherent.queued suits).1.valid
      simp [Activity.Checked, valid]
  | accept | reject | cancel | expire | begin | escalate | refuse => simp [Activity.Checked]
  | apply _ applied _ result accepted =>
      obtain ⟨-, rfl⟩ := applyResult_eq_some accepted
      simp only [List.mem_singleton, forall_eq, Activity.Checked]
      split_ifs <;> exact nofun

end Move

/-- Each object has come to its state along the transitions, with a completion that agrees with it. -/
structure Orderly (s : State) : Prop where
  trail : ∀ slot, Trail (activityOf s slot) (s.objects slot).state
  coherent : ∀ slot, Coherent (s.objects slot)
  checked : ∀ slot entry, (slot, entry) ∈ s.activity → entry.Checked

section Orderly
variable {thread : Thread} {s next : State} {portal after : Mgmt.State} {slot : Slot}

/-- A step that changes one object needs to be checked for that object. -/
theorem Orderly.change (orderly : Orderly s) {script : List Activity}
    (log : next.activity = script.map (slot, ·) ++ s.activity)
    (others : ∀ other, other ≠ slot → next.objects other = s.objects other)
    (trail : Trail (script ++ activityOf s slot) (next.objects slot).state) (coherent : Coherent (next.objects slot))
    (checked : ∀ entry ∈ script, entry.Checked) : Orderly next := by
  refine ⟨fun other => ?_, fun other => ?_, fun other entry among => ?_⟩
  · by_cases same : other = slot
    · rw [same, activityOf_same log]
      exact trail
    · rw [activityOf_other log same, others other same]
      exact orderly.trail other
  · by_cases same : other = slot
    · rw [same]
      exact coherent
    · rw [others other same]
      exact orderly.coherent other
  · rw [log] at among
    obtain now | before := List.mem_append.mp among
    · obtain ⟨recorded, inside, same⟩ := List.mem_map.mp now
      obtain ⟨-, rfl⟩ := Prod.mk.inj same
      exact checked recorded inside
    · exact orderly.checked other entry before

theorem takes_of_terminal {command : CommandObject} (terminal : command.terminal = true) :
    Takes command.state .free := by
  cases state : command.state <;> simp [CommandObject.terminal, state] at terminal
  · exact .freeCompleted
  · exact .freeFailed
  · exact .freeCancelled

theorem Orderly.turn (orderly : Orderly s) (sound : Sound s) (turn : Turn thread s portal next after) :
    Orderly next := by
  cases turn with
  | @shift slot place _ _ _ shift =>
      obtain ⟨rest, held, -⟩ := shift.moved
      obtain ⟨script, log, move⟩ := shift.move
      have suits := (sound.keeps slot).suits place (held.mem_iff.mpr List.mem_cons_self)
      have coherent := orderly.coherent slot
      exact orderly.change log shift.others (move.trail suits (orderly.trail slot)) (move.coherent suits coherent)
        (move.checked suits coherent)
  | @allocate slot rest idle free waiting =>
      have spare := (sound.keeps slot).spare (.inl (by rw [free]; exact List.mem_cons_self))
      have trail := orderly.trail slot
      rw [spare] at trail
      have log : ({ s with free := rest, receiver := .allocated slot } : State).activity =
          ([] : List Activity).map (slot, ·) ++ s.activity := rfl
      refine orderly.change log (fun other different => Function.update_of_ne different ..) ?_ ?_ nofun
      · simpa [State.setObject] using trail
      · simp [State.setObject, Coherent]
  | release | overflow => exact ⟨orderly.trail, orderly.coherent, orderly.checked⟩
  | @capture slot held waiting =>
      have spare := (sound.keeps slot).spare (.inr (by rw [held]; exact List.mem_cons_self))
      have trail := orderly.trail slot
      rw [spare] at trail
      have object : (captured s slot portal).objects slot =
          ((received portal).capture s.commandGeneration (s.commandSequence + 1) s.uptimeMs).2 :=
        Function.update_self ..
      refine orderly.change (activity_captured s slot portal) (fun _ => objects_captured s portal) ?_ ?_ ?_
      · exact congrArg CommandObject.state object ▸ .transition trail .capture
      · rw [object]
        trivial
      · simp [Activity.Checked]
  | @retire slot terminalState ends =>
      obtain ⟨terminal, -⟩ := (sound.keeps slot).ended terminalState (by rw [ends]; exact List.mem_cons_self)
      have object : (retire s slot terminalState).objects slot = {} := Function.update_self ..
      refine orderly.change (activity_retire s slot terminalState) (fun _ => objects_retire s terminalState) ?_ ?_ ?_
      · rw [object]
        exact .transition (.published (orderly.trail slot) _) (takes_of_terminal terminal)
      · rw [object]
        trivial
      · simp [Activity.Checked]

theorem Orderly.step (orderly : Orderly s) (sound : Sound s) {event : Event}
    (stepped : Firmware.step s event = some next) : Orderly next := by
  cases event with
  | thread thread portal =>
      obtain ⟨⟨_, after⟩, ran, rfl⟩ := Option.map_eq_some_iff.mp stepped
      exact orderly.turn sound (turn_threadStep sound.tidy ran)
  | uptime nowMs =>
      obtain ⟨-, rfl⟩ := EventMachine.guarded stepped
      exact ⟨orderly.trail, orderly.coherent, orderly.checked⟩
  | boot portal =>
      obtain rfl := Option.some.inj stepped
      exact ⟨fun _ => .start, fun _ => trivial, nofun⟩

end Orderly

/-- The completion of a terminal object names its descriptor and tells its state. -/
structure Agrees (command : CommandObject) : Prop where
  commandId : command.completion.commandId = command.submission.commandId
  userCookie : command.completion.userCookie = command.submission.userCookie
  completed : command.state = .completed ↔ command.completion.status = statusSuccess
  cancelled : command.state = .cancelled → command.completion.status = statusReset

theorem Coherent.agrees {command : CommandObject} (coherent : Coherent command) (terminal : command.terminal = true) :
    Agrees command := by
  have named (same : command.completion.identity = command.submission.identity) :
      command.completion.commandId = command.submission.commandId ∧
        command.completion.userCookie = command.submission.userCookie := Prod.mk.inj same
  unfold Coherent at coherent
  cases state : command.state <;> simp only [state] at coherent <;> simp [CommandObject.terminal, state] at terminal
  · obtain ⟨admitted, success⟩ := coherent
    exact ⟨(named admitted.identity).1, (named admitted.identity).2, by simp [state, success], by simp [state]⟩
  · obtain ⟨identity, failure⟩ := coherent
    exact ⟨(named identity).1, (named identity).2, by simp [state, failure], by simp [state]⟩
  · obtain ⟨admitted, reset⟩ := coherent
    exact ⟨(named admitted.identity).1, (named admitted.identity).2, by rw [state, reset]; decide, fun _ => reset⟩

/-- Each object takes only the transitions of its life, its completion agrees with its terminal state, and an invalid
descriptor neither runs nor is answered with success. -/
structure LifecycleAgreement (s : State) : Prop where
  trail : ∀ slot, Trail (activityOf s slot) (s.objects slot).state
  agrees : ∀ slot, (s.objects slot).terminal = true → Agrees (s.objects slot)
  running : ∀ slot, (s.objects slot).state = .running → validateCommand (s.objects slot).submission = errNone
  runs : ∀ slot command, (slot, .transition command .running) ∈ s.activity →
    validateCommand command.submission = errNone
  sent : ∀ slot command, (slot, .sent command) ∈ s.activity → validateCommand command.submission ≠ errNone →
    command.completion.status ≠ statusSuccess

theorem lifecycleAgreement_always (events : List Event) : EventMachine.Always step LifecycleAgreement {} events := by
  have always : EventMachine.Always step (fun s => Sound s ∧ Orderly s) {} events := by
    refine EventMachine.always_of_step ?_ ⟨sound_of_start [] nofun 0 [], fun _ => .start, fun _ => trivial, nofun⟩ events
    rintro s event next ⟨sound, orderly⟩ stepped
    exact ⟨sound.step stepped, orderly.step sound stepped⟩
  refine always.mono fun s kept => ⟨kept.2.trail, fun slot => (kept.2.coherent slot).agrees, ?_, ?_, ?_⟩
  · intro slot running
    exact ((kept.2.coherent slot).running running).1.valid
  · intro slot command among
    exact kept.2.checked slot _ among rfl
  · intro slot command among
    exact kept.2.checked slot _ among

end VamsSoc.Firmware
