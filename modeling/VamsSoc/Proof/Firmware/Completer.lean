/-
This file follows command objects into the firmware and out of it.
-/

import VamsSoc.Proof.Firmware.Recovery
import VamsSoc.Proof.Firmware.Scheduler

namespace VamsSoc.Firmware
open Library Abi

/-- One step of the completer moves an object, or frees one that has been answered. -/
theorem turn_completerStep {s next : State} {portal after : Mgmt.State} (tidy : Tidy s)
    (stepped : completerStep s portal = some (next, after)) : Turn .completer s portal next after := by
  unfold completerStep at stepped
  cases pc : s.completer with
  | idle =>
      cases queue : s.completionQueue with
      | nil => simp [pc, queue] at stepped
      | cons first rest =>
          simp only [pc, queue, Option.some.injEq, Prod.mk.injEq] at stepped
          obtain ⟨rfl, rfl⟩ := stepped
          refine .shift (.of_still _ (waits_completion queue) ?_ (tidy.ripe.of_same rfl rfl)
            ⟨rfl, by rw [pc]; rfl, rfl, rfl, rfl, rfl, rfl⟩ rfl (.pass (.publish (s.uptimeMs + completionPublishTimeoutMs)) _))
          refine (holds_completer rfl).trans (.of_eq ?_)
          simp [tokens, pc]
  | publishing held terminalState deadlineMs =>
      have token : (tokens s).Perm ((held, .publishing terminalState deadlineMs) ::
          tokens { s with completer := .idle }) := holds_completer (by rw [pc]; rfl)
      simp only [pc] at stepped
      split_ifs at stepped with busy late
      · obtain ⟨rfl, rfl⟩ := Prod.mk.inj (Option.some.inj stepped)
        exact .shift (.of_still _ token (holds_completer rfl) (tidy.ripe.of_same rfl rfl)
          ⟨rfl, by rw [pc]; rfl, rfl, rfl, rfl, rfl, rfl⟩ rfl (.stall (.answer _ _) _ _ busy))
      · obtain ⟨rfl, rfl⟩ := Prod.mk.inj (Option.some.inj stepped)
        exact .shift (.of_still _ token (holds_completer rfl) (tidy.ripe.of_same rfl rfl)
          ⟨rfl, by rw [pc]; rfl, rfl, rfl, rfl, rfl, rfl⟩ rfl (.copy (.answer _ _) _ _))
  | ringing held terminalState =>
      have token : (tokens s).Perm ((held, .ringing terminalState) :: tokens { s with completer := .idle }) :=
        holds_completer (by rw [pc]; rfl)
      simp only [pc, Option.some.injEq, Prod.mk.injEq] at stepped
      obtain ⟨rfl, rfl⟩ := stepped
      exact .shift {
        moved := ⟨_, token, List.Perm.refl _⟩
        move := ⟨[], rfl, .ringAnswer _ _ _⟩
        others := fun _ _ => rfl
        ended := by rw [pc]; rfl
        ripe := tidy.ripe.of_same rfl rfl
        kept := ⟨rfl, rfl, rfl, List.Subset.refl _⟩
        calm := fun _ => rfl }
  | finishing held terminalState =>
      simp only [pc, Option.some.injEq, Prod.mk.injEq] at stepped
      obtain ⟨rfl, rfl⟩ := stepped
      exact .retire pc
  | parked held => simp [pc] at stepped

/-- There is room for the object that the receiver captures. -/
theorem receiverStep_captured {s : State} {portal : Mgmt.State} {slot : Slot} (tidy : Tidy s)
    (pc : s.receiver = .allocated slot) (waiting : pending portal = true) :
    receiverStep s portal = some ({ captured s slot portal with validationQueue := s.validationQueue ++ [slot] },
      Mgmt.commandWrite portal .fwAck 1) := by
  have room : (tokens s).length < commandPoolSize := by
    have bound := tidy.single.length_le_card.trans_eq (Fintype.card_fin 8)
    simp only [owners, pc, Receiver.slots, List.length_append, List.length_map, List.length_singleton] at bound
    simp only [commandPoolSize]
    omega
  simp only [receiverStep, pc, waiting, if_true]
  rw [putValidation_room (by exact room)]
  rfl

/-- The receiver allocates an object, fills it, or gives it back. -/
theorem turn_receiverStep {s next : State} {portal after : Mgmt.State} (tidy : Tidy s)
    (stepped : receiverStep s portal = some (next, after)) : Turn .receiver s portal next after := by
  cases pc : s.receiver with
  | idle =>
      cases free : s.free with
      | nil => simp [receiverStep, pc, free] at stepped
      | cons first rest =>
          simp only [receiverStep, pc, free] at stepped
          split_ifs at stepped with waiting
          obtain ⟨rfl, rfl⟩ := Prod.mk.inj (Option.some.inj stepped)
          exact .allocate pc free waiting
  | allocated slot =>
      cases waiting : pending portal with
      | true =>
          rw [receiverStep_captured tidy pc waiting] at stepped
          obtain ⟨rfl, rfl⟩ := Prod.mk.inj (Option.some.inj stepped)
          exact .capture pc waiting
      | false =>
          simp only [receiverStep, pc, waiting, Bool.false_eq_true, if_false] at stepped
          obtain ⟨rfl, rfl⟩ := Prod.mk.inj (Option.some.inj stepped)
          exact .release pc waiting

/-- Whatever thread runs, its step is one of the turns. -/
theorem turn_threadStep {s next : State} {portal after : Mgmt.State} (tidy : Tidy s) {thread : Thread}
    (stepped : threadStep s portal thread = some (next, after)) : Turn thread s portal next after := by
  cases thread with
  | receiver => exact turn_receiverStep tidy stepped
  | validator =>
      obtain ⟨validated, judged, same⟩ := Option.map_eq_some_iff.mp stepped
      obtain ⟨rfl, rfl⟩ := Prod.mk.inj same
      exact turn_validatorStep tidy judged portal
  | scheduler => exact turn_schedulerStep tidy stepped
  | recovery => exact turn_recoveryStep tidy stepped
  | completer => exact turn_completerStep tidy stepped

end VamsSoc.Firmware
