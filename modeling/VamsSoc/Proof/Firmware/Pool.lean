/-
This file shows that every command object of the pool has one owner, is published once in its life, and never
fails an assertion of the scheduler module.
-/

import VamsSoc.Proof.Firmware.Turns

namespace VamsSoc.Firmware
open Library Abi

/-- This is the record of one object, with the latest entry first. -/
def activityOf (s : State) (slot : Slot) : List Activity :=
  (s.activity.filter (·.1 = slot)).map Prod.snd

/-- These are the publications of an object since it was captured. -/
def publications : List Activity → Nat
  | [] => 0
  | .published _ :: earlier => publications earlier + 1
  | .transition command _ :: earlier => if command.state = .free then 0 else publications earlier
  | .sent _ :: earlier => publications earlier

/-- At no time has an object been published twice since its capture, and each time it was freed it had been
published once. -/
structure PublishedOnce (log : List Activity) : Prop where
  atMost : ∀ earlier, earlier <:+ log → publications earlier ≤ 1
  freed : ∀ command earlier, (.transition command .free :: earlier) <:+ log → publications earlier = 1

theorem PublishedOnce.nil : PublishedOnce [] where
  atMost earlier suffix := by simp [List.suffix_nil.mp suffix, publications]
  freed command earlier suffix := absurd (List.suffix_nil.mp suffix) nofun

theorem PublishedOnce.cons {log : List Activity} {entry : Activity} (once : PublishedOnce log)
    (bound : publications (entry :: log) ≤ 1)
    (free : ∀ command, entry = .transition command .free → publications log = 1) :
    PublishedOnce (entry :: log) where
  atMost earlier suffix := by
    obtain rfl | older := List.suffix_cons_iff.mp suffix
    · exact bound
    · exact once.atMost earlier older
  freed command earlier suffix := by
    obtain same | older := List.suffix_cons_iff.mp suffix
    · obtain ⟨rfl, rfl⟩ := List.cons.inj same
      exact free command rfl
    · exact once.freed command earlier older

/-- The entry is within the life of an object. -/
def Activity.Within : Activity → Prop
  | .transition command next => command.state ≠ .free ∧ next ≠ .free
  | .published _ => False
  | .sent _ => True

theorem publications_within {entry : Activity} (within : entry.Within) (log : List Activity) :
    publications (entry :: log) = publications log := by
  cases entry with
  | transition command next => exact if_neg within.1
  | published => exact within.elim
  | sent => rfl

theorem PublishedOnce.append {log script : List Activity} (once : PublishedOnce log)
    (within : ∀ entry ∈ script, entry.Within) :
    PublishedOnce (script ++ log) ∧ publications (script ++ log) = publications log := by
  induction script with
  | nil => exact ⟨once, rfl⟩
  | cons entry rest ih =>
      obtain ⟨kept, same⟩ := ih fun other among => within other (List.mem_cons_of_mem _ among)
      have inside := within entry List.mem_cons_self
      have counted : publications (entry :: (rest ++ log)) = publications log :=
        (publications_within inside _).trans same
      refine ⟨kept.cons (counted.trans_le (once.atMost log List.suffix_rfl)) ?_, counted⟩
      rintro command rfl
      exact absurd rfl inside.2

section Log
variable {s next : State} {slot : Slot}

theorem activityOf_same {script : List Activity} (log : next.activity = script.map (slot, ·) ++ s.activity) :
    activityOf next slot = script ++ activityOf s slot := by
  simp [activityOf, log, List.filter_map, Function.comp_def]

theorem activityOf_other {script : List Activity} (log : next.activity = script.map (slot, ·) ++ s.activity)
    {other : Slot} (different : other ≠ slot) : activityOf next other = activityOf s other := by
  simp [activityOf, log, List.filter_map, Function.comp_def, different.symm]

end Log

theorem not_free_of_runs {command : CommandObject} (runs : command.runs = true) : command.state ≠ .free := by
  intro free
  simp [CommandObject.runs, free] at runs

/-- An accepted result names the command, and it decides about the terminal state. -/
theorem applyResult_eq_some {command applied : CommandObject} {result : Completion}
    (accepted : command.applyResult result = some applied) :
    result.identity = command.submission.identity ∧ applied = { command with
      completion := result
      state := if result.status = statusSuccess then .completed else .completedError } := by
  obtain ⟨same, applies⟩ := Option.ite_none_left_eq_some.mp accepted
  exact ⟨not_not.mp same, (Option.some.inj applies).symm⟩

theorem terminal_of_applied (command : CommandObject) (result : Completion) :
    ({ command with
      completion := result
      state := if result.status = statusSuccess then .completed else .completedError } :
        CommandObject).terminal = true := by
  by_cases success : result.status = statusSuccess <;> simp [CommandObject.terminal, success]

/-- A moved object suits the place to which it has moved. -/
theorem Move.suits {now : Uptime} {verdicts : List Verdict} {place target : Place} {command changed : CommandObject}
    {portal after : Mgmt.State} {script : List Activity}
    (move : Move now verdicts place command portal script (some target) changed after) (suits : Suits command place) :
    Suits changed target := by
  cases move with
  | pass passes =>
      cases passes with
      | publish => exact ⟨suits, rfl⟩
      | _ => exact suits
  | accept | reject | cancel | expire | answer | grant | begin | escalate | refuse => exact rfl
  | copy copies => cases copies <;> exact suits
  | stall stalls =>
      cases stalls with
      | grant => exact suits
      | answer => exact suits.1
  | ringGrant | ringAbort => exact suits
  | result awaits => exact awaits.runs suits
  | apply _ applied _ result accepted =>
      obtain ⟨-, rfl⟩ := applyResult_eq_some accepted
      exact terminal_of_applied _ _

/-- No move captures, publishes or frees an object. -/
theorem Move.within {now : Uptime} {verdicts : List Verdict} {place : Place} {target : Option Place}
    {command changed : CommandObject} {portal after : Mgmt.State} {script : List Activity}
    (move : Move now verdicts place command portal script target changed after) (suits : Suits command place) :
    ∀ entry ∈ script, entry.Within := by
  cases move with
  | pass | stall | ringGrant | ringAnswer | ringAbort | result => simp
  | copy => simp [Activity.Within]
  | accept | reject =>
      have submitted : command.state = .submitted := suits
      simp [Activity.Within, submitted]
  | cancel | expire | answer | grant =>
      have queued : command.state = .queued := suits
      simp [Activity.Within, queued]
  | begin =>
      have running : command.state = .running := suits
      simp [Activity.Within, running]
  | escalate awaits =>
      have busy := not_free_of_runs (awaits.runs suits)
      simp [Activity.Within, busy]
  | apply _ applied _ result accepted =>
      have busy := not_free_of_runs suits
      obtain ⟨-, rfl⟩ := applyResult_eq_some accepted
      simp only [List.mem_singleton, forall_eq, Activity.Within]
      exact ⟨busy, by split_ifs <;> exact nofun⟩
  | refuse =>
      have busy := not_free_of_runs suits
      simp [Activity.Within, busy]

theorem Move.publicationCount {now : Uptime} {verdicts : List Verdict} {place : Place} {target : Option Place}
    {command changed : CommandObject} {portal after : Mgmt.State} {script : List Activity}
    (move : Move now verdicts place command portal script target changed after) :
    changed.publicationCount = command.publicationCount := by
  cases move with
  | apply _ applied _ result accepted =>
      obtain ⟨-, rfl⟩ := applyResult_eq_some accepted
      rfl
  | _ => rfl

theorem Suits.not_free {command : CommandObject} {place : Place} (suits : Suits command place) :
    command.state ≠ .free := by
  intro free
  cases place <;> simp [Suits, CommandObject.runs, CommandObject.terminal, free] at suits

theorem leaving_eq_singleton {slot other : Slot} {place : Place} {target : Option Place} {terminalState : CommandState}
    (among : (other, terminalState) ∈ leaving slot place target) :
    other = slot ∧ place = .ringing terminalState ∧ target = none := by
  unfold leaving at among
  split at among
  · obtain ⟨rfl, rfl⟩ := Prod.mk.inj (List.mem_singleton.mp among)
    exact ⟨rfl, rfl, rfl⟩
  · simp at among

/-- The object of the slot is in the state that belongs to its owner, and has been published once in each of its
lives. -/
structure Keeps (s : State) (slot : Slot) : Prop where
  suits : ∀ place, (slot, place) ∈ tokens s → Suits (s.objects slot) place
  ended : ∀ terminalState, (slot, terminalState) ∈ s.completer.ended →
    (s.objects slot).terminal = true ∧ (s.objects slot).state = terminalState
  spare : slot ∈ s.free ∨ slot ∈ s.receiver.slots → (s.objects slot).state = .free
  unpublished : (s.objects slot).publicationCount = 0
  published : PublishedOnce (activityOf s slot)
  unreported : (s.objects slot).state ≠ .free → publications (activityOf s slot) = 0

/-- The pool is sound. -/
structure Sound (s : State) : Prop where
  tidy : Tidy s
  whole : s.failed = [] → (owners s).Perm (List.finRange 8)
  keeps : ∀ slot, Keeps s slot
  asserted : ∀ assertion ∈ s.failed, assertion = .queuePut

/-- The slot of a live object belongs to nobody else. -/
structure Alone (slot : Slot) (rest : List (Slot × Place)) (s : State) : Prop where
  free : slot ∉ s.free
  receiver : slot ∉ s.receiver.slots
  rest : ∀ token ∈ rest, token.1 ≠ slot
  ended : ∀ terminalState, (slot, terminalState) ∉ s.completer.ended

section Sound
variable {thread : Thread} {s next : State} {portal after : Mgmt.State} {slot other : Slot}

theorem Tidy.alone {place : Place} {rest : List (Slot × Place)} (tidy : Tidy s)
    (held : (tokens s).Perm ((slot, place) :: rest)) : Alone slot rest s := by
  have single := List.nodup_iff_count_le_one.mp tidy.single slot
  have live := (held.map Prod.fst).count_eq slot
  simp only [List.map_cons, List.count_cons_self] at live
  simp only [owners, List.count_append] at single
  have absent {slots : List Slot} (none : slots.count slot = 0) : slot ∉ slots := List.count_eq_zero.mp none
  refine ⟨absent (by omega), absent (by omega), ?_, ?_⟩
  · rintro token among rfl
    exact absent (show (rest.map Prod.fst).count token.1 = 0 by omega) (List.mem_map_of_mem among)
  · intro terminalState among
    exact absent (show (s.completer.ended.map Prod.fst).count slot = 0 by omega) (List.mem_map_of_mem among)

/-- A slot in the slab, with the receiver or at the end of the completer is not live. -/
theorem Tidy.not_live (tidy : Tidy s)
    (outside : slot ∈ s.free ∨ slot ∈ s.receiver.slots ∨ slot ∈ s.completer.ended.map Prod.fst) (place : Place) :
    (slot, place) ∉ tokens s := by
  intro live
  have alone := tidy.alone (List.perm_cons_erase live)
  rcases outside with free | received | ended
  · exact alone.free free
  · exact alone.receiver received
  · obtain ⟨⟨_, terminalState⟩, among, rfl⟩ := List.mem_map.mp ended
    exact alone.ended terminalState among

/-- The slab, the receiver and the end of the completer have no slot in common. -/
theorem Tidy.disjoint (tidy : Tidy s) :
    (slot ∈ s.receiver.slots → slot ∉ s.free) ∧
      (slot ∈ s.free ∨ slot ∈ s.receiver.slots → ∀ terminalState, (slot, terminalState) ∉ s.completer.ended) := by
  have single := List.nodup_iff_count_le_one.mp tidy.single slot
  simp only [owners, List.count_append] at single
  refine ⟨fun received free => ?_, fun held terminalState ended => ?_⟩
  · have one := List.count_pos_iff.mpr received
    have two := List.count_pos_iff.mpr free
    omega
  · have two : 0 < (s.completer.ended.map Prod.fst).count slot :=
      List.count_pos_iff.mpr (List.mem_map_of_mem (f := Prod.fst) ended)
    rcases held with free | received
    · have one := List.count_pos_iff.mpr free
      omega
    · have one := List.count_pos_iff.mpr received
      omega

/-- A step about another slot keeps this one. -/
theorem Keeps.frame (keeps : Keeps s other) (object : next.objects other = s.objects other)
    (log : activityOf next other = activityOf s other)
    (live : ∀ place, (other, place) ∈ tokens next → (other, place) ∈ tokens s)
    (ended : ∀ terminalState, (other, terminalState) ∈ next.completer.ended →
      (other, terminalState) ∈ s.completer.ended)
    (spare : other ∈ next.free ∨ other ∈ next.receiver.slots → other ∈ s.free ∨ other ∈ s.receiver.slots) :
    Keeps next other where
  suits place among := by rw [object]; exact keeps.suits place (live place among)
  ended terminalState among := by rw [object]; exact keeps.ended terminalState (ended terminalState among)
  spare held := by rw [object]; exact keeps.spare (spare held)
  unpublished := by rw [object]; exact keeps.unpublished
  published := by rw [log]; exact keeps.published
  unreported busy := by
    rw [object] at busy
    rw [log]
    exact keeps.unreported busy

/-- A moved object keeps what it has to. -/
theorem Sound.shift (sound : Sound s) {place : Place} {target : Option Place}
    (shift : Shift slot place target s portal next after) : Sound next := by
  obtain ⟨rest, held, moved⟩ := shift.moved
  obtain ⟨script, log, move⟩ := shift.move
  have alone := sound.tidy.alone held
  have keeps := sound.keeps slot
  have suits : Suits (s.objects slot) place := keeps.suits place (held.mem_iff.mpr List.mem_cons_self)
  have calm := shift.calm suits
  obtain ⟨published, unreported⟩ := keeps.published.append (move.within suits)
  refine ⟨shift.tidy sound.tidy, fun clean => shift.perm_owners.trans (sound.whole (calm ▸ clean)),
    fun other => ?_, by rw [calm]; exact sound.asserted⟩
  by_cases same : other = slot
  · subst same
    rw [← activityOf_same log] at published unreported
    refine ⟨fun there among => ?_, fun terminalState among => ?_, fun spare => ?_, ?_, published, fun _ => ?_⟩
    · obtain here | elsewhere := List.mem_append.mp (moved.mem_iff.mp among)
      · obtain ⟨there', reached, same⟩ := List.mem_map.mp here
        obtain rfl : there' = there := (Prod.mk.inj same).2
        obtain rfl := Option.mem_toList.mp reached
        exact move.suits suits
      · exact absurd rfl (alone.rest _ elsewhere)
    · rw [shift.ended] at among
      obtain here | before := List.mem_append.mp among
      · obtain ⟨-, rfl, rfl⟩ := leaving_eq_singleton here
        obtain ⟨-, -, unchanged, -⟩ := move.rung
        rw [unchanged]
        exact suits
      · exact absurd before (alone.ended terminalState)
    · rw [shift.kept.free, shift.kept.receiver] at spare
      exact absurd spare (not_or.mpr ⟨alone.free, alone.receiver⟩)
    · rw [move.publicationCount]
      exact keeps.unpublished
    · rw [unreported]
      exact keeps.unreported suits.not_free
  · refine (sound.keeps other).frame (shift.others other same) (activityOf_other log same) ?_ ?_ ?_
    · intro there among
      obtain here | elsewhere := List.mem_append.mp (moved.mem_iff.mp among)
      · obtain ⟨_, _, token⟩ := List.mem_map.mp here
        exact absurd (Prod.mk.inj token).1.symm same
      · exact held.mem_iff.mpr (List.mem_cons_of_mem _ elsewhere)
    · intro terminalState among
      rw [shift.ended] at among
      obtain here | before := List.mem_append.mp among
      · exact absurd (leaving_eq_singleton here).1 same
      · exact before
    · rw [shift.kept.free, shift.kept.receiver]
      exact id

/-- The receiver clears the object that it takes from the slab. -/
theorem Keeps.allocate (sound : Sound s) {rest : List Slot} (free : s.free = slot :: rest) :
    Keeps ({ s with free := rest, receiver := .allocated slot }.setObject slot {}) other := by
  have taken : slot ∈ s.free := by rw [free]; exact List.mem_cons_self
  have keeps := sound.keeps slot
  by_cases same : other = slot
  · subst same
    have object : (({ s with free := rest, receiver := .allocated other } : State).setObject other {}).objects other =
        {} := Function.update_self ..
    refine ⟨fun place live => ?_, fun terminalState among => ?_, fun _ => ?_, ?_, keeps.published, fun busy => ?_⟩
    · exact absurd live (sound.tidy.not_live (.inl taken) place)
    · exact absurd among (sound.tidy.disjoint.2 (.inl taken) terminalState)
    · rw [object]
    · rw [object]
    · exact absurd (by rw [object]) busy
  · refine (sound.keeps other).frame (Function.update_of_ne same ..) rfl (fun _ => id) (fun _ => id) ?_
    rintro (among | among)
    · exact .inl (by rw [free]; exact List.mem_cons_of_mem _ among)
    · exact absurd (List.mem_singleton.mp among) same

/-- A captured object begins its life. -/
theorem Keeps.capture (sound : Sound s) (held : s.receiver = .allocated slot) :
    Keeps { captured s slot portal with validationQueue := s.validationQueue ++ [slot] } other := by
  have taken : slot ∈ s.receiver.slots := by rw [held]; exact List.mem_cons_self
  have live := tokens_captured s slot portal
  have log := activity_captured s slot portal
  by_cases same : other = slot
  · subst same
    have object : (captured s other portal).objects other =
        ((received portal).capture s.commandGeneration (s.commandSequence + 1) s.uptimeMs).2 := Function.update_self ..
    refine ⟨fun place among => ?_, fun terminalState among => ?_, fun spare => ?_, ?_, ?_, fun _ => ?_⟩
    · obtain here | before := List.mem_cons.mp (live.mem_iff.mp among)
      · obtain ⟨-, rfl⟩ := Prod.mk.inj here
        exact congrArg CommandObject.state object
      · exact absurd before (sound.tidy.not_live (.inr (.inl taken)) place)
    · exact absurd among (sound.tidy.disjoint.2 (.inr taken) terminalState)
    · obtain free | nobody := spare
      · exact absurd free (sound.tidy.disjoint.1 taken)
      · exact absurd nobody List.not_mem_nil
    · exact congrArg CommandObject.publicationCount object
    · exact activityOf_same log ▸ (sound.keeps other).published.cons (Nat.zero_le _) nofun
    · exact congrArg publications (activityOf_same log)
  · refine (sound.keeps other).frame (objects_captured s portal same) (activityOf_other log same)
      (fun place among => ?_) (fun _ => id) ?_
    · obtain here | before := List.mem_cons.mp (live.mem_iff.mp among)
      · exact absurd (Prod.mk.inj here).1 same
      · exact before
    · rintro (free | nobody)
      · exact .inl free
      · exact absurd nobody List.not_mem_nil

/-- A retired object was published once, and ends its life. -/
theorem Keeps.retire (sound : Sound s) {terminalState : CommandState}
    (ends : s.completer = .finishing slot terminalState) : Keeps (retire s slot terminalState) other := by
  have held : (slot, terminalState) ∈ s.completer.ended := by rw [ends]; exact List.mem_cons_self
  have keeps := sound.keeps slot
  obtain ⟨terminal, state⟩ := keeps.ended terminalState held
  have busy : (s.objects slot).state ≠ .free := by
    intro free
    simp [CommandObject.terminal, free] at terminal
  have log := activity_retire s slot terminalState
  by_cases same : other = slot
  · subst same
    have object : (Firmware.retire s other terminalState).objects other = {} := Function.update_self ..
    have reported : publications (.published (s.objects other) :: activityOf s other) = 1 := by
      rw [publications, keeps.unreported busy]
    refine ⟨fun place among => ?_, fun _ among => ?_, fun _ => ?_, ?_, ?_, fun busy => ?_⟩
    · rw [tokens_retire ends] at among
      exact absurd among (sound.tidy.not_live (.inr (.inr (List.mem_map_of_mem held))) place)
    · exact absurd among List.not_mem_nil
    · rw [object]
    · rw [object]
    · rw [activityOf_same log]
      have marked : PublishedOnce (.published (s.objects other) :: activityOf s other) :=
        keeps.published.cons reported.le nofun
      refine marked.cons (le_of_eq ?_) fun _ _ => reported
      rw [publications, if_neg (by exact busy)]
      exact reported
    · exact absurd (by rw [object]) busy
  · refine (sound.keeps other).frame (objects_retire s terminalState same) (activityOf_other log same)
      (fun place among => ?_) (fun _ among => absurd among List.not_mem_nil) ?_
    · rwa [tokens_retire ends] at among
    · rintro (free | receiver)
      · obtain here | before := List.mem_cons.mp free
        · exact absurd here same
        · exact .inl before
      · exact .inr receiver

/-- No assertion fails when an object is retired. -/
theorem failed_retire (sound : Sound s) {terminalState : CommandState}
    (ends : s.completer = .finishing slot terminalState) : (retire s slot terminalState).failed = s.failed := by
  have held : (slot, terminalState) ∈ s.completer.ended := by rw [ends]; exact List.mem_cons_self
  obtain ⟨terminal, state⟩ := (sound.keeps slot).ended terminalState held
  have unpublished := (sound.keeps slot).unpublished
  simp [retire, State.setObject, State.note, State.require, CommandObject.transition, CommandObject.markPublished,
    terminal, unpublished, state]

/-- Every step keeps the pool sound. -/
theorem Sound.turn (sound : Sound s) (turn : Turn thread s portal next after) : Sound next := by
  have tidy := sound.tidy.turn turn
  have whole (clean : next.failed = []) (failed : next.failed = s.failed) : (owners next).Perm (List.finRange 8) := by
    obtain same | ⟨lost, -⟩ := turn.perm_owners
    · exact same.trans (sound.whole (failed ▸ clean))
    · exact absurd (clean ▸ lost) List.not_mem_nil
  cases turn with
  | shift shift => exact sound.shift shift
  | allocate idle free waiting =>
      exact ⟨tidy, (whole · rfl), fun _ => .allocate sound free, sound.asserted⟩
  | release held gone =>
      refine ⟨tidy, (whole · rfl), fun other => ?_, sound.asserted⟩
      refine (sound.keeps other).frame rfl rfl (fun _ => id) (fun _ => id) ?_
      rintro (free | nobody)
      · obtain here | before := List.mem_cons.mp free
        · exact .inr (by rw [held, here]; exact List.mem_cons_self)
        · exact .inl before
      · exact absurd nobody List.not_mem_nil
  | capture held waiting =>
      exact ⟨tidy, (whole · rfl), fun _ => .capture sound held, sound.asserted⟩
  | retire ends =>
      have failed := failed_retire sound ends
      exact ⟨tidy, (whole · failed), fun _ => .retire sound ends, by rw [failed]; exact sound.asserted⟩
  | @overflow slot _ handing full =>
      have held : (tokens s).Perm ((slot, .handing) :: tokens { s with scheduler := .collecting }) :=
        holds_scheduler (by rw [handing]; rfl)
      refine ⟨tidy, nofun, fun other => ?_, ?_⟩
      · exact (sound.keeps other).frame rfl rfl
          (fun place among => held.mem_iff.mpr (List.mem_cons_of_mem _ among)) (fun _ => id) id
      · intro assertion among
        obtain here | before := List.mem_cons.mp among
        · exact here
        · exact sound.asserted assertion before

theorem sound_of_start (failed : List Assertion) (only : ∀ assertion ∈ failed, assertion = .queuePut)
    (generation : U32) (verdicts : List Verdict) :
    Sound { commandGeneration := generation, verdicts, failed } where
  tidy := ⟨nofun, List.nodup_finRange 8⟩
  whole _ := by rfl
  keeps slot := {
    suits := fun _ live => absurd live List.not_mem_nil
    ended := fun _ among => absurd among List.not_mem_nil
    spare := fun _ => rfl
    unpublished := rfl
    published := .nil
    unreported := fun busy => absurd rfl busy }
  asserted := only

theorem Sound.step (sound : Sound s) {event : Event} (stepped : Firmware.step s event = some next) : Sound next := by
  cases event with
  | thread thread portal =>
      obtain ⟨⟨_, after⟩, ran, rfl⟩ := Option.map_eq_some_iff.mp stepped
      exact sound.turn (turn_threadStep sound.tidy ran)
  | uptime nowMs =>
      obtain ⟨-, rfl⟩ := EventMachine.guarded stepped
      exact ⟨⟨sound.tidy.ripe, sound.tidy.single⟩, sound.whole, fun slot =>
        (sound.keeps slot).frame rfl rfl (fun _ => id) (fun _ => id) id, sound.asserted⟩
  | boot portal =>
      obtain rfl := Option.some.inj stepped
      exact sound_of_start s.failed sound.asserted _ _

end Sound

/-- The scheduler hands a command over while the running queue still has one. -/
def overflows (s : State) : Event → Prop
  | .thread .scheduler _ => (∃ slot, s.scheduler = .handing slot) ∧ s.runningQueue ≠ []
  | _ => False

/-- A step fails a queue put exactly if the running queue overflows. -/
theorem failed_step {s next : State} {event : Event} (sound : Sound s) (stepped : step s event = some next) :
    next.failed = s.failed ∨ (overflows s event ∧ next.failed = .queuePut :: s.failed) := by
  cases event with
  | uptime nowMs =>
      obtain ⟨-, rfl⟩ := EventMachine.guarded stepped
      exact .inl rfl
  | boot portal =>
      obtain rfl := Option.some.inj stepped
      exact .inl rfl
  | thread thread portal =>
      obtain ⟨⟨_, after⟩, ran, rfl⟩ := Option.map_eq_some_iff.mp stepped
      cases turn_threadStep sound.tidy ran with
      | shift shift =>
          obtain ⟨rest, held, -⟩ := shift.moved
          exact .inl (shift.calm ((sound.keeps _).suits _ (held.mem_iff.mpr List.mem_cons_self)))
      | retire ends => exact .inl (failed_retire sound ends)
      | allocate | release | capture => exact .inl rfl
      | overflow runs handing full =>
          subst runs
          exact .inr ⟨⟨⟨_, handing⟩, full⟩, rfl⟩

/-- An overflow fails the put of the scheduler. -/
theorem step_of_overflows {s : State} {event : Event} (full : overflows s event) :
    ∃ next, step s event = some next ∧ .queuePut ∈ next.failed := by
  unfold overflows at full
  split at full
  · obtain ⟨⟨slot, handing⟩, full⟩ := full
    have long : ¬s.runningQueue.length < 1 := by
      have := List.length_pos_of_ne_nil full
      omega
    refine ⟨{ s with scheduler := .collecting }.putRunning slot, ?_, ?_⟩
    · simp [step, threadStep, schedulerStep, handing]
    · rw [State.putRunning, if_neg long]
      exact List.mem_cons_self
  · exact full.elim

/-- Every queue put succeeds exactly as long as the recovery thread has taken each granted command from the running
queue when the scheduler hands over the next one. -/
theorem puts_succeed_iff (events : List Event) :
    EventMachine.Always step (fun s => .queuePut ∉ s.failed) {} events ↔
      EventMachine.Meets step (fun s event => ¬overflows s event) {} events := by
  have keeps : ∀ s event next, Sound s ∧ .queuePut ∉ s.failed → ¬overflows s event → step s event = some next →
      Sound next ∧ .queuePut ∉ next.failed := by
    intro s event next kept fits stepped
    obtain same | ⟨full, -⟩ := failed_step kept.1 stepped
    · exact ⟨kept.1.step stepped, same ▸ kept.2⟩
    · exact absurd full fits
  refine EventMachine.always_iff_meets (fun _ kept => kept.2) keeps ?_ ?_
    ⟨sound_of_start [] nofun 0 [], List.not_mem_nil⟩
  · intro s event next kept stepped clean full
    obtain ⟨_, failing, failed⟩ := step_of_overflows full
    obtain rfl := Option.some.inj (failing.symm.trans stepped)
    exact clean failed
  · intro s event refused full
    obtain ⟨_, failing, -⟩ := step_of_overflows full
    exact nomatch failing.symm.trans refused

/-- This portal always has a fill for the firmware, and never a result. -/
def busyPortal : Mgmt.State where
  command := {
    status := Mgmt.commandH2fPending
    submission := Submission.toBytes {
      version := descVersion1, opcode := opMemFill, commandId := 1, userCookie := 0x11
      length := 4, sourceDma := 0x8000, destinationDma := 0x9000 } }

/-- One fill is captured, judged, granted and handed over. -/
def grantFill : List Event :=
  [.thread .receiver busyPortal, .thread .receiver busyPortal, .thread .validator busyPortal,
    .thread .validator busyPortal] ++ List.replicate 7 (.thread .scheduler busyPortal)

theorem third_grant_overflows :
    (EventMachine.run step {} (grantFill ++ [.thread .recovery busyPortal] ++ grantFill ++ grantFill)).map
      (fun s => (s.runningQueue, s.recovery, s.failed)) = some ([1], .polling 0, [.queuePut]) := by
  decide +kernel

end VamsSoc.Firmware
