/-
This file follows command objects through the validator and the scheduler.
-/

import Mathlib.Data.List.GetD
import VamsSoc.Proof.Firmware.Moves

namespace VamsSoc.Firmware
open Library Abi

/-- The verdict sends an object to the ready queue or straight to the completer. -/
theorem turn_validatorStep {s next : State} (tidy : Tidy s) (stepped : validatorStep s = some next)
    (portal : Mgmt.State) : Turn .validator s portal next portal := by
  unfold validatorStep at stepped
  cases pc : s.validator with
  | idle =>
      rw [pc] at stepped
      cases queue : s.validationQueue with
      | nil => simp [queue] at stepped
      | cons first rest =>
          rw [queue] at stepped
          obtain rfl := Option.some.inj stepped
          refine .shift (.of_still .judging (waits_validation queue) ?_ (tidy.ripe.of_same rfl rfl)
            ⟨rfl, rfl, rfl, rfl, rfl, rfl, rfl⟩ rfl (.pass .judge _))
          refine (holds_validator rfl).trans (.of_eq ?_)
          simp [tokens, pc]
  | holding held =>
      rw [pc] at stepped
      obtain rfl := Option.some.inj stepped
      have token : (tokens s).Perm ((held, .judging) :: tokens { s with validator := .idle }) :=
        holds_validator (by rw [pc]; rfl)
      have room := tidy.room token
      unfold validate
      dsimp only
      split_ifs with rejected
      · rw [putCompletion_room (by exact room)]
        refine .shift (.of_update .completed token (put_completion _ _) (tidy.ripe.of_same rfl rfl)
          ⟨rfl, rfl, rfl, List.subset_cons_self _ _⟩ rfl (Function.update_idem ..) ?_ ?_ (.reject _ portal rejected))
        · simp [CommandObject.transition]
        · intro submitted
          simp [CommandObject.transition, show (s.objects held).state = .submitted from submitted]
      · rw [putReady_room (by exact room)]
        refine .shift (.of_update .ready token (put_ready _ _) (tidy.ripe.of_same rfl rfl)
          ⟨rfl, rfl, rfl, List.subset_cons_self _ _⟩ rfl (Function.update_idem ..) ?_ ?_
          (.accept _ portal (not_not.mp rejected) List.mem_cons_self))
        · simp [CommandObject.transition]
        · intro submitted
          simp [CommandObject.transition, show (s.objects held).state = .submitted from submitted]

/-- The scan stays within the array. -/
theorem schedulerSelect_lt (objects : Slot → CommandObject) {ready : List Slot} (filled : ready ≠ []) :
    schedulerSelect objects ready < ready.length := by
  have scan (indices : List Nat) (within : ∀ index ∈ indices, index < ready.length) (selected : Nat)
      (start : selected < ready.length) : indices.foldl (fun selected index =>
        if (objects (ready.getD index 0)).precedes (objects (ready.getD selected 0)) then index else selected)
        selected < ready.length := by
    induction indices generalizing selected with
    | nil => exact start
    | cons index rest ih =>
        rw [List.foldl_cons]
        apply ih fun other among => within other (List.mem_cons_of_mem _ among)
        split_ifs
        · exact within index List.mem_cons_self
        · exact start
  have positive := List.length_pos_of_ne_nil filled
  apply scan _ _ 0 positive
  intro index among
  rw [List.mem_range'_1] at among
  omega

/-- The removed entry and what is left are the whole array. -/
theorem swapRemove_perm {ready : List Slot} {selected : Nat} (within : selected < ready.length) :
    ready.Perm (ready.getD selected 0 :: swapRemove ready selected) := by
  obtain rfl | ⟨front, last, rfl⟩ := ready.eq_nil_or_concat
  · simp at within
  rw [List.concat_eq_append] at within ⊢
  simp only [List.length_append, List.length_singleton] at within
  rw [swapRemove, List.length_append, List.length_singleton, Nat.add_sub_cancel,
    List.getD_append_right _ _ _ _ le_rfl, Nat.sub_self]
  by_cases earlier : selected < front.length
  · rw [List.getD_append _ _ _ _ earlier, List.set_append_left _ _ earlier, List.dropLast_concat,
      List.getD_eq_getElem _ _ earlier]
    calc
      (front ++ [last]).Perm (last :: front) := List.perm_append_singleton last front
      (last :: front).Perm (last :: front[selected] :: front.eraseIdx selected) :=
        (List.getElem_cons_eraseIdx_perm earlier).symm.cons last
      (last :: front[selected] :: front.eraseIdx selected).Perm (front[selected] :: last :: front.eraseIdx selected) :=
        List.Perm.swap ..
      (front[selected] :: last :: front.eraseIdx selected).Perm (front[selected] :: front.set selected last) :=
        (List.set_perm_cons_eraseIdx earlier last).symm.cons _
  · obtain rfl : selected = front.length := by omega
    rw [List.getD_append_right _ _ _ _ le_rfl, Nat.sub_self, List.set_append_right _ _ le_rfl, Nat.sub_self]
    simp

/-- The chosen object is cancelled, has expired, is answered at once, or is a payload. -/
theorem turn_dispatch {s : State} {slot : Slot} (pc : s.scheduler = .selected slot) (portal : Mgmt.State) :
    Turn .scheduler s portal (dispatch s slot) portal := by
  have token : (tokens s).Perm ((slot, .selected) :: tokens { s with scheduler := .collecting }) :=
    holds_scheduler (by rw [pc]; rfl)
  unfold dispatch
  dsimp only
  split_ifs with stale late payload
  · refine .shift (.of_update .finishing token (holds_scheduler rfl) nofun ⟨rfl, rfl, rfl, List.Subset.refl _⟩
      rfl rfl rfl ?_ (.cancel _ portal))
    intro queued
    simp [CommandObject.cancel, CommandObject.transition, CommandObject.settle,
      show (s.objects slot).state = .queued from queued]
  · refine .shift (.of_update .finishing token (holds_scheduler rfl) nofun ⟨rfl, rfl, rfl, List.Subset.refl _⟩
      rfl (Function.update_idem ..) ?_ ?_ (.expire _ portal))
    · simp [CommandObject.timeout, CommandObject.transition, CommandObject.settle]
    · intro queued
      simp [CommandObject.timeout, CommandObject.transition, CommandObject.settle,
        show (s.objects slot).state = .queued from queued]
  · refine .shift (.of_update (.granting _) token (holds_scheduler rfl) nofun
      ⟨rfl, rfl, rfl, List.Subset.refl _⟩ rfl rfl rfl ?_ (.grant _ portal _ payload))
    intro queued
    simp [CommandObject.transition, show (s.objects slot).state = .queued from queued]
  · refine .shift (.of_update .finishing token (holds_scheduler rfl) nofun ⟨rfl, rfl, rfl, List.Subset.refl _⟩
      rfl (Function.update_idem ..) ?_ ?_ (.answer _ portal (Bool.eq_false_iff.mpr payload)))
    · simp [CommandObject.transition]
    · intro queued
      simp [CommandObject.transition, show (s.objects slot).state = .queued from queued]

/-- One step of the scheduler moves an object, or the running queue has no room for it. -/
theorem turn_schedulerStep {s next : State} {portal after : Mgmt.State} (tidy : Tidy s)
    (stepped : schedulerStep s portal = some (next, after)) : Turn .scheduler s portal next after := by
  have token {held : Slot × Place} (holds : s.scheduler.tokens = [held]) :
      (tokens s).Perm (held :: tokens { s with scheduler := .collecting }) := holds_scheduler holds
  unfold schedulerStep at stepped
  cases pc : s.scheduler with
  | collecting =>
      cases queue : s.readyQueue with
      | cons first rest =>
          simp only [pc, queue] at stepped
          split_ifs at stepped with room
          · obtain ⟨rfl, rfl⟩ := Prod.mk.inj (Option.some.inj stepped)
            refine .shift (.of_still .collected (waits_ready queue) ?_ (by rintro ⟨⟩) ⟨rfl, rfl, rfl, rfl, rfl, rfl, rfl⟩
              rfl (.pass .collect _))
            refine .trans (.of_eq ?_) (put_array { s with readyQueue := rest } first)
            simp [tokens, pc]
          · obtain ⟨rfl, rfl⟩ := Prod.mk.inj (Option.some.inj stepped)
            have filled : s.ready ≠ [] := by
              intro empty
              simp [empty, commandPoolSize] at room
            refine .shift (.of_still .ready (waits_ready queue) ?_ (fun _ => filled)
              ⟨rfl, rfl, rfl, rfl, rfl, rfl, rfl⟩ rfl (.pass (.rest _) _))
            refine .trans (.of_eq ?_) (waits_ready queue)
            simp [tokens, pc, queue, Scheduler.tokens]
      | nil =>
          simp only [pc, queue] at stepped
          split_ifs at stepped with empty
          obtain ⟨rfl, rfl⟩ := Prod.mk.inj (Option.some.inj stepped)
          obtain ⟨first, rest, array⟩ := List.exists_cons_of_ne_nil empty
          have waits := waits_array (List.Perm.of_eq array)
          refine .shift (.of_still .collected waits ?_ (fun _ => empty)
            ⟨rfl, rfl, rfl, rfl, rfl, rfl, rfl⟩ rfl (.pass (.rest _) _))
          refine .trans (.of_eq ?_) waits
          simp [tokens, pc, queue, Scheduler.tokens]
  | choosing =>
      simp only [pc, Option.some.injEq, Prod.mk.injEq] at stepped
      obtain ⟨rfl, rfl⟩ := stepped
      have waits := waits_array (swapRemove_perm (schedulerSelect_lt s.objects (tidy.ripe pc)))
      refine .shift (.of_still .selected waits ?_ (by rintro ⟨⟩) ⟨rfl, rfl, rfl, rfl, rfl, rfl, rfl⟩ rfl
        (.pass .choose _))
      refine (holds_scheduler rfl).trans (.of_eq ?_)
      simp [tokens, pc, Scheduler.tokens]
  | selected held =>
      simp only [pc, Option.some.injEq, Prod.mk.injEq] at stepped
      obtain ⟨rfl, rfl⟩ := stepped
      exact turn_dispatch pc _
  | publishing held deadlineMs =>
      simp only [pc] at stepped
      split_ifs at stepped with busy late
      · obtain ⟨rfl, rfl⟩ := Prod.mk.inj (Option.some.inj stepped)
        exact .shift (.of_still _ (token (by rw [pc]; rfl)) (holds_scheduler rfl) (by rintro ⟨⟩)
          ⟨rfl, rfl, rfl, rfl, rfl, rfl, rfl⟩ rfl (.stall (.grant deadlineMs) _ _ busy))
      · obtain ⟨rfl, rfl⟩ := Prod.mk.inj (Option.some.inj stepped)
        exact .shift (.of_still _ (token (by rw [pc]; rfl)) (holds_scheduler rfl) (by rintro ⟨⟩)
          ⟨rfl, rfl, rfl, rfl, rfl, rfl, rfl⟩ rfl (.copy (.grant deadlineMs) _ _))
  | ringing held =>
      simp only [pc, Option.some.injEq, Prod.mk.injEq] at stepped
      obtain ⟨rfl, rfl⟩ := stepped
      exact .shift (.of_still _ (token (by rw [pc]; rfl)) (holds_scheduler rfl) (by rintro ⟨⟩)
        ⟨rfl, rfl, rfl, rfl, rfl, rfl, rfl⟩ rfl (.ringGrant _ _))
  | handing held =>
      simp only [pc, Option.some.injEq, Prod.mk.injEq] at stepped
      obtain ⟨rfl, rfl⟩ := stepped
      unfold State.putRunning
      split_ifs with room
      · exact .shift (.of_still .running (token (by rw [pc]; rfl)) (put_running _ held) (by rintro ⟨⟩)
          ⟨rfl, rfl, rfl, rfl, rfl, rfl, rfl⟩ rfl (.pass .hand _))
      · refine .overflow rfl pc ?_
        intro empty
        simp [empty] at room
  | finishing held =>
      simp only [pc, Option.some.injEq, Prod.mk.injEq] at stepped
      obtain ⟨rfl, rfl⟩ := stepped
      have waits : (tokens s).Perm ((held, .finishing) :: tokens { s with scheduler := .collecting }) :=
        token (by rw [pc]; rfl)
      rw [putCompletion_room (by exact tidy.room waits)]
      exact .shift (.of_still .completed waits (put_completion _ held) (by rintro ⟨⟩)
        ⟨rfl, rfl, rfl, rfl, rfl, rfl, rfl⟩ rfl (.pass .finish _))
  | parked held => simp [pc] at stepped

end VamsSoc.Firmware
