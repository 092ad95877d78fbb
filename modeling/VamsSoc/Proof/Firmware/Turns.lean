/-
This file has what a step of a thread does to the pool of command objects.
-/

import VamsSoc.Proof.Firmware.Completer

namespace VamsSoc.Firmware
open Library Abi

/-- A moved object keeps every owner. -/
theorem Shift.perm_owners {s next : State} {portal after : Mgmt.State} {slot : Slot} {place : Place}
    {target : Option Place} (shift : Shift slot place target s portal next after) :
    (owners next).Perm (owners s) := by
  obtain ⟨rest, held, moved⟩ := shift.moved
  have before := (held.map Prod.fst).count_eq
  have after := (moved.map Prod.fst).count_eq
  refine List.perm_iff_count.mpr fun other => ?_
  have one := before other
  have two := after other
  obtain ⟨script, -, move⟩ := shift.move
  have ended := shift.ended
  cases target with
  | some target =>
      have staying : leaving slot place (some target) = [] := by cases place <;> rfl
      rw [staying, List.nil_append] at ended
      simp only [Option.toList, List.map_nil, List.map_cons, List.cons_append, List.nil_append, List.count_cons] at one two
      simp only [owners, shift.kept.free, shift.kept.receiver, ended, List.count_append]
      omega
  | none =>
      obtain ⟨terminalState, rfl, -, -⟩ := move.rung
      simp only [Option.toList, List.map_nil, List.map_cons, List.nil_append, List.count_cons] at one two
      simp only [owners, shift.kept.free, shift.kept.receiver, ended, leaving, List.count_append, List.count_cons,
        List.map_append, List.map_cons, List.map_nil, List.count_nil]
      omega

theorem Shift.tidy {s next : State} {portal after : Mgmt.State} {slot : Slot} {place : Place}
    {target : Option Place} (shift : Shift slot place target s portal next after) (tidy : Tidy s) : Tidy next :=
  ⟨shift.ripe, shift.perm_owners.nodup_iff.mpr tidy.single⟩

theorem tokens_retire {s : State} {slot : Slot} {terminalState : CommandState}
    (ends : s.completer = .finishing slot terminalState) : tokens (retire s slot terminalState) = tokens s := by
  have held : s.completer.tokens = Completer.idle.tokens := by rw [ends]; rfl
  simp only [tokens, held]
  rfl

/-- The captured object is live. -/
theorem tokens_captured (s : State) (slot : Slot) (portal : Mgmt.State) :
    (tokens { captured s slot portal with validationQueue := s.validationQueue ++ [slot] }).Perm
      ((slot, .captured) :: tokens s) := put_validation (captured s slot portal) slot

theorem activity_captured (s : State) (slot : Slot) (portal : Mgmt.State) :
    (captured s slot portal).activity =
      [Activity.transition (received portal) .submitted].map (slot, ·) ++ s.activity := by
  simp [captured, CommandObject.capture, CommandObject.transition, State.setObject]

theorem objects_captured (s : State) {slot other : Slot} (portal : Mgmt.State) (different : other ≠ slot) :
    (captured s slot portal).objects other = s.objects other := by
  simp [captured, State.setObject, Function.update_of_ne different]

theorem activity_retire (s : State) (slot : Slot) (terminalState : CommandState) :
    (retire s slot terminalState).activity =
      [Activity.transition (s.objects slot).markPublished.2 .free, .published (s.objects slot)].map (slot, ·) ++
        s.activity := by
  simp [retire, State.setObject, State.note, State.require, CommandObject.transition]

theorem objects_retire (s : State) {slot other : Slot} (terminalState : CommandState) (different : other ≠ slot) :
    (retire s slot terminalState).objects other = s.objects other := by
  simp [retire, State.setObject, State.note, State.require, Function.update_of_ne different]

/-- A step keeps the owners of all slots, unless the running queue overflows. -/
theorem Turn.perm_owners {thread : Thread} {s next : State} {portal after : Mgmt.State}
    (turn : Turn thread s portal next after) :
    (owners next).Perm (owners s) ∨
      (.queuePut ∈ next.failed ∧ ∃ slot, (owners s).Perm (slot :: owners next)) := by
  cases turn with
  | shift shift => exact .inl shift.perm_owners
  | allocate idle free waiting =>
      left
      simp only [owners, idle, free, State.setObject, Receiver.slots, List.append_nil, List.cons_append,
        List.append_assoc]
      exact List.perm_middle
  | release held gone =>
      left
      simp only [owners, held, Receiver.slots, List.append_nil, List.cons_append, List.append_assoc, List.nil_append]
      exact List.perm_middle.symm
  | @capture slot held waiting =>
      left
      have put := (tokens_captured s slot portal).map Prod.fst
      calc
        owners { captured s slot portal with validationQueue := s.validationQueue ++ [slot] }
        _ = s.free ++ [] ++ (tokens { captured s slot portal with
              validationQueue := s.validationQueue ++ [slot] }).map Prod.fst ++ s.completer.ended.map Prod.fst := rfl
        (_ : List Slot).Perm (s.free ++ [] ++ slot :: (tokens s).map Prod.fst ++ s.completer.ended.map Prod.fst) :=
          (put.append_left _).append_right _
        _ = owners s := by simp [owners, held, Receiver.slots]
  | @retire slot terminalState ends =>
      left
      calc
        owners (Firmware.retire s slot terminalState)
        _ = slot :: s.free ++ s.receiver.slots ++ (tokens (Firmware.retire s slot terminalState)).map Prod.fst ++ [] := rfl
        _ = slot :: (s.free ++ s.receiver.slots ++ (tokens s).map Prod.fst) := by simp [tokens_retire ends]
        (_ : List Slot).Perm (s.free ++ s.receiver.slots ++ (tokens s).map Prod.fst ++ [slot]) :=
          (List.perm_append_singleton ..).symm
        _ = owners s := by rw [owners, ends]; rfl
  | @overflow slot _ handing full =>
      refine .inr ⟨List.mem_cons_self, slot, ?_⟩
      have held : (tokens s).Perm ((slot, .handing) :: tokens { s with scheduler := .collecting }) :=
        holds_scheduler (by rw [handing]; rfl)
      calc
        (owners s).Perm (s.free ++ s.receiver.slots ++
            slot :: (tokens { s with scheduler := .collecting }).map Prod.fst ++ s.completer.ended.map Prod.fst) :=
          ((held.map Prod.fst).append_left _).append_right _
        _ = (s.free ++ s.receiver.slots) ++ slot ::
            ((tokens { s with scheduler := .collecting }).map Prod.fst ++ s.completer.ended.map Prod.fst) := by simp
        (_ : List Slot).Perm (slot :: ((s.free ++ s.receiver.slots) ++
            ((tokens { s with scheduler := .collecting }).map Prod.fst ++ s.completer.ended.map Prod.fst))) := List.perm_middle
        _ = slot :: owners { s with scheduler := .collecting } := by simp [owners]

theorem Turn.ripe {thread : Thread} {s next : State} {portal after : Mgmt.State} (tidy : Tidy s)
    (turn : Turn thread s portal next after) : Ripe next := by
  cases turn with
  | shift shift => exact shift.ripe
  | overflow _ handing full => exact nofun
  | allocate | release | capture | retire => exact tidy.ripe.of_same rfl rfl

/-- No step gives a slot to two owners. -/
theorem Tidy.turn {thread : Thread} {s next : State} {portal after : Mgmt.State} (tidy : Tidy s)
    (turn : Turn thread s portal next after) : Tidy next where
  ripe := turn.ripe tidy
  single := by
    obtain same | ⟨-, slot, lost⟩ := turn.perm_owners
    · exact same.nodup_iff.mpr tidy.single
    · exact (lost.nodup_iff.mp tidy.single).of_cons

section Single
variable {thread : Thread} {s next : State} {portal after : Mgmt.State} {slot : Slot} {place : Place}

/-- One step has moved the only live object. -/
structure Moves (slot : Slot) (place : Place) (s : State) (portal : Mgmt.State) (next : State)
    (after : Mgmt.State) : Prop where
  moved : ∃ script target, tokens next = target.toList.map (slot, ·) ∧
    Move s.uptimeMs next.verdicts place (s.objects slot) portal script target (next.objects slot) after
  tidy : Tidy next
  uptime : next.uptimeMs = s.uptimeMs
  verdicts : s.verdicts ⊆ next.verdicts

/-- A step with one live object and no pending command concerns that object, or an object that is no longer live. -/
theorem Turn.moves (turn : Turn thread s portal next after) (tidy : Tidy s) (one : tokens s = [(slot, place)])
    (taken : pending portal = false) : Moves slot place s portal next after := by
  have kept := tidy.turn turn
  cases turn with
  | @shift _ _ target _ _ shift =>
      obtain ⟨rest, held, moved⟩ := shift.moved
      obtain ⟨script, -, move⟩ := shift.move
      rw [one] at held
      obtain ⟨same, rfl⟩ := List.cons.inj (List.singleton_perm.mp held)
      obtain ⟨rfl, rfl⟩ := Prod.mk.inj same
      refine ⟨⟨script, _, ?_, move⟩, kept, shift.kept.uptime, shift.kept.verdicts⟩
      rw [List.append_nil] at moved
      cases target <;> simpa using moved
  | allocate idle free waiting => simp [taken] at waiting
  | capture held waiting => simp [taken] at waiting
  | release held gone =>
      exact ⟨⟨[], some place, one, .pass (.rest _) _⟩, kept, rfl, List.Subset.refl _⟩
  | @retire freed terminalState ends =>
      have other : slot ≠ freed := by
        rintro rfl
        have single := tidy.single
        rw [owners, one, ends] at single
        simp [Completer.ended, List.nodup_append] at single
      refine ⟨⟨[], some place, (tokens_retire ends).trans one, ?_⟩, kept, rfl, List.Subset.refl _⟩
      rw [objects_retire s terminalState other]
      exact .pass (.rest _) _
  | @overflow lost _ handing full =>
      -- The running queue and the scheduler would have two live objects.
      obtain ⟨first, rest, queue⟩ := List.exists_cons_of_ne_nil full
      have length := congrArg List.length one
      simp only [tokens, handing, queue, Scheduler.tokens, List.length_append, List.length_map, List.length_cons,
        List.length_nil] at length
      omega

/-- A step without live objects captures one, or leaves the portal alone. -/
theorem Turn.quiet (turn : Turn thread s portal next after) (quiet : tokens s = []) :
    next.uptimeMs = s.uptimeMs ∧ next.verdicts = s.verdicts ∧
      ((after = portal ∧ tokens next = []) ∨
        (pending portal = true ∧ after = Mgmt.commandWrite portal .fwAck 1 ∧
          ∃ slot, tokens next = [(slot, .captured)] ∧ (next.objects slot).fetch = portal.command.submissionFetch ∧
            (next.objects slot).submission = Submission.ofBytes portal.command.submission)) := by
  cases turn with
  | shift shift =>
      obtain ⟨rest, held, -⟩ := shift.moved
      rw [quiet] at held
      simp at held
  | allocate | release => exact ⟨rfl, rfl, .inl ⟨rfl, quiet⟩⟩
  | retire ends => exact ⟨rfl, rfl, .inl ⟨rfl, (tokens_retire ends).trans quiet⟩⟩
  | @capture slot held waiting =>
      have live := tokens_captured s slot portal
      rw [quiet] at live
      refine ⟨rfl, rfl, .inr ⟨waiting, rfl, slot, List.perm_singleton.mp live, ?_, ?_⟩⟩
      · simp [captured, received, CommandObject.capture, CommandObject.transition]
      · simp [captured, received, CommandObject.capture, CommandObject.transition]
  | overflow _ handing full =>
      have length := congrArg List.length quiet
      simp [tokens, handing, Scheduler.tokens] at length

end Single
end VamsSoc.Firmware
