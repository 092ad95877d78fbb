/-
This file follows command objects through the recovery thread.
-/

import VamsSoc.Proof.Firmware.Moves

namespace VamsSoc.Firmware
open Library Abi

/-- The recovery thread awaits results only for running objects. -/
theorem Awaits.runs {command : CommandObject} {place : Place} (awaits : Awaits place) (suits : Suits command place) :
    command.runs = true := by
  cases awaits with
  | polling => simp [CommandObject.runs, show command.state = .running from suits]
  | awaiting | draining => simp [CommandObject.runs, show command.state = .aborting from suits]

section
variable {thread : Thread} {s : State} {portal : Mgmt.State} {slot : Slot}

/-- An object whose result does not come is answered as failed. -/
theorem turn_escalated {place : Place} (ripe : Ripe s) (awaits : Awaits place)
    (holds : s.recovery.tokens = [(slot, place)]) : Turn thread s portal (escalated s slot) portal := by
  refine .shift (.of_update .ending (holds_recovery holds) (holds_recovery rfl) (ripe.of_same rfl rfl)
    ⟨rfl, rfl, rfl, List.Subset.refl _⟩ rfl rfl rfl ?_ (.escalate awaits _ portal))
  intro suits
  simp [escalated, CommandObject.escalate, awaits.runs suits]

/-- The result of another command is as good as none. -/
theorem turn_applyOrEscalate {result : Completion} (ripe : Ripe s)
    (holds : s.recovery.tokens = [(slot, .applying result)]) :
    Turn thread s portal (applyOrEscalate s slot result) portal := by
  unfold applyOrEscalate
  cases accepted : (s.objects slot).applyResult result with
  | some applied =>
      refine .shift (.of_update .ending (holds_recovery holds) (holds_recovery rfl) (ripe.of_same rfl rfl)
        ⟨rfl, rfl, rfl, List.Subset.refl _⟩ rfl rfl rfl ?_ (.apply _ _ portal result accepted))
      intro runs
      simp [show (s.objects slot).runs = true from runs]
  | none =>
      dsimp only [escalated, State.store, State.note, State.require, State.setObject]
      refine .shift (.of_update .ending (holds_recovery holds) (holds_recovery rfl) (ripe.of_same rfl rfl)
        ⟨rfl, rfl, rfl, List.Subset.refl _⟩ rfl rfl rfl ?_ (.refuse _ portal result))
      intro runs
      simp [CommandObject.escalate, show (s.objects slot).runs = true from runs]

/-- A result that has come is taken from its window. -/
theorem turn_takeResult {place : Place} (ripe : Ripe s) (awaits : Awaits place)
    (holds : s.recovery.tokens = [(slot, place)]) (ready : resultPending portal = true) :
    Turn thread s portal { s with recovery := .applying slot (takeResult portal).1 } (takeResult portal).2 :=
  .shift (.of_still _ (holds_recovery holds) (holds_recovery rfl) (ripe.of_same rfl rfl)
    ⟨rfl, rfl, rfl, rfl, rfl, rfl, rfl⟩ rfl (.result awaits _ portal ready))

end

/-- One step of the recovery thread moves an object. -/
theorem turn_recoveryStep {s next : State} {portal after : Mgmt.State} (tidy : Tidy s)
    (stepped : recoveryStep s portal = some (next, after)) : Turn .recovery s portal next after := by
  unfold recoveryStep at stepped
  cases pc : s.recovery with
  | idle =>
      cases queue : s.runningQueue with
      | nil => simp [pc, queue] at stepped
      | cons first rest =>
          simp only [pc, queue, Option.some.injEq, Prod.mk.injEq] at stepped
          obtain ⟨rfl, rfl⟩ := stepped
          refine .shift (.of_still .polling (waits_running queue) ?_ (tidy.ripe.of_same rfl rfl)
            ⟨rfl, rfl, rfl, rfl, rfl, rfl, rfl⟩ rfl (.pass .take _))
          refine (holds_recovery rfl).trans (.of_eq ?_)
          simp [tokens, pc]
  | polling held =>
      simp only [pc] at stepped
      split_ifs at stepped with ready late
      · obtain ⟨rfl, rfl⟩ := Prod.mk.inj (Option.some.inj stepped)
        exact turn_takeResult tidy.ripe .polling (by rw [pc]; rfl) ready
      · obtain ⟨rfl, rfl⟩ := Prod.mk.inj (Option.some.inj stepped)
        exact .shift (.of_still .aborting (holds_recovery (by rw [pc]; rfl)) (holds_recovery rfl)
          (tidy.ripe.of_same rfl rfl) ⟨rfl, rfl, rfl, rfl, rfl, rfl, rfl⟩ rfl (.pass .deadline _))
  | aborting held =>
      simp only [pc, Option.some.injEq, Prod.mk.injEq] at stepped
      obtain ⟨rfl, rfl⟩ := stepped
      have token : (tokens s).Perm ((held, .aborting) :: tokens { s with recovery := .idle }) :=
        holds_recovery (by rw [pc]; rfl)
      refine .shift (.of_update .requesting token (holds_recovery rfl) (tidy.ripe.of_same rfl rfl)
        ⟨rfl, rfl, rfl, List.Subset.refl _⟩ rfl rfl rfl ?_ (.begin _ _))
      intro running
      simp [CommandObject.beginAbort, CommandObject.transition, CommandObject.settle,
        show (s.objects held).state = .running from running]
  | requesting held =>
      simp only [pc, Option.some.injEq, requestAbort] at stepped
      split_ifs at stepped with ready
      · obtain ⟨rfl, rfl⟩ := Prod.mk.inj stepped
        exact .shift (.of_still .draining (holds_recovery (by rw [pc]; rfl)) (holds_recovery rfl)
          (tidy.ripe.of_same rfl rfl) ⟨rfl, rfl, rfl, rfl, rfl, rfl, rfl⟩ rfl (.pass .busy _))
      · obtain ⟨rfl, rfl⟩ := Prod.mk.inj stepped
        exact .shift (.of_still .abortRinging (holds_recovery (by rw [pc]; rfl)) (holds_recovery rfl)
          (tidy.ripe.of_same rfl rfl) ⟨rfl, rfl, rfl, rfl, rfl, rfl, rfl⟩ rfl (.copy .abort _ _))
  | ringing held =>
      simp only [pc, Option.some.injEq, Prod.mk.injEq] at stepped
      obtain ⟨rfl, rfl⟩ := stepped
      exact .shift (.of_still _ (holds_recovery (by rw [pc]; rfl)) (holds_recovery rfl)
        (tidy.ripe.of_same rfl rfl) ⟨rfl, rfl, rfl, rfl, rfl, rfl, rfl⟩ rfl (.ringAbort _ _ _))
  | awaiting held deadlineMs =>
      simp only [pc] at stepped
      split_ifs at stepped with ready late
      · obtain ⟨rfl, rfl⟩ := Prod.mk.inj (Option.some.inj stepped)
        exact turn_takeResult tidy.ripe (.awaiting deadlineMs) (by rw [pc]; rfl) ready
      · obtain ⟨rfl, rfl⟩ := Prod.mk.inj (Option.some.inj stepped)
        exact turn_escalated tidy.ripe (.awaiting deadlineMs) (by rw [pc]; rfl)
  | draining held =>
      simp only [pc] at stepped
      split_ifs at stepped with ready
      · obtain ⟨rfl, rfl⟩ := Prod.mk.inj (Option.some.inj stepped)
        exact turn_takeResult tidy.ripe .draining (by rw [pc]; rfl) ready
      · obtain ⟨rfl, rfl⟩ := Prod.mk.inj (Option.some.inj stepped)
        exact turn_escalated tidy.ripe .draining (by rw [pc]; rfl)
  | applying held result =>
      simp only [pc, Option.some.injEq, Prod.mk.injEq] at stepped
      obtain ⟨rfl, rfl⟩ := stepped
      exact turn_applyOrEscalate tidy.ripe (by rw [pc]; rfl)
  | ending held =>
      simp only [pc, Option.some.injEq, Prod.mk.injEq] at stepped
      obtain ⟨rfl, rfl⟩ := stepped
      have token : (tokens s).Perm ((held, .ending) :: tokens { s with recovery := .idle }) :=
        holds_recovery (by rw [pc]; rfl)
      rw [putCompletion_room (by exact tidy.room token)]
      exact .shift (.of_still .completed token (put_completion _ held) (tidy.ripe.of_same rfl rfl)
        ⟨rfl, rfl, rfl, rfl, rfl, rfl, rfl⟩ rfl (.pass .complete _))

end VamsSoc.Firmware
