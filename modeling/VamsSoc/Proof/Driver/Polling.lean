/-
This file shows that the counter of pending requests matches the device table, and that the poll work is scheduled
while there are any.
-/

import VamsSoc.Construction.System.Device
import VamsSoc.Proof.Driver.Threads

namespace VamsSoc.Driver
open Library Abi VamsSoc.System

variable {δ ε : Type} {hw : Hardware δ} {advance : EventMachine δ ε} {s : State δ}

/-- The thread is in the middle of a submission, a drain, the poll work, a cancellation after a reset, or the part of the
removal or of a failed probe that cancels requests. Other functions may have the lock of submissions. -/
def midExecution (resources : List (Resource × Bool)) (thread : DriverThread) : Prop :=
  .submit ∈ thread.own.locks ∧ thread.own.task.submits = true ∨ .cq ∈ thread.own.locks ∨
    thread.program.isDone = false ∧ (thread.own.task = .work .cqPoll ∨
      (.cqIrq, false) ∈ resources ∧ thread.own.task.tearsDown = true)

instance (resources : List (Resource × Bool)) (thread : DriverThread) : Decidable (midExecution resources thread) := by
  unfold midExecution
  infer_instance

section Calm
variable {resources : List (Resource × Bool)} {shares : List Share} {thread : DriverThread} {share : Share}

theorem Fits.running (fits : Fits shares thread share) {part : Share →+ Nat} (none : ∀ task : Task, part task.share = 0)
    (some : 0 < part share) : thread.program.isDone = false := by
  by_contra ended
  rw [fits.rests ((Bool.not_eq_false _).mp ended), none] at some
  omega

theorem Fits.task_eq (fits : Fits shares thread share) {task : Task} (member : task ∈ share.tasks) :
    thread.own.task = task := by
  rw [fits.agrees.task] at member
  exact (Multiset.mem_singleton.mp member).symm

theorem Fits.submits (fits : Fits shares thread share) (submits : share.Submits) : midExecution resources thread := by
  obtain ⟨submit, task, member, sends⟩ := submits
  refine .inl ⟨?_, ?_⟩
  · rw [fits.agrees.locks]
    exact submit
  · rw [fits.task_eq member]
    exact sends

/-- A thread that is not in the middle of one of these functions has nothing to count. -/
theorem Fits.counted (fits : Fits shares thread share) (calm : ¬midExecution resources thread) :
    uncountedPart share = 0 := by
  by_contra some
  exact calm (fits.submits (fits.agrees.proper.uncounted (Nat.pos_of_ne_zero some)))

theorem Fits.polled (fits : Fits shares thread share) (calm : ¬midExecution resources thread) : pollsPart share = 0 := by
  by_contra some
  have positive : 0 < pollsPart share := Nat.pos_of_ne_zero some
  rcases fits.agrees.proper.polls positive with submits | poll
  · exact calm (fits.submits submits)
  · refine calm (.inr (.inr ⟨fits.running (fun _ => rfl) positive, .inl ?_⟩))
    exact fits.task_eq poll

theorem Fits.settled (fits : Fits shares thread share) (freed : 0 < freesPart shares.sum → (.cqIrq, false) ∈ resources)
    (calm : ¬midExecution resources thread) : erasedPart share = 0 := by
  by_contra some
  have positive : 0 < erasedPart share := Nat.pos_of_ne_zero some
  have unsettled : 0 < share.unsettled := by
    change 0 < share.erased + share.retiring.card + share.announcing.card
    change 0 < share.erased at positive
    omega
  rcases fits.agrees.proper.unsettled unsettled with submits | cq | frees
  · exact calm (fits.submits submits)
  · refine calm (.inr (.inl ?_))
    rw [fits.agrees.locks]
    exact cq
  · have released := freed (lt_of_lt_of_le frees (part_le_sum freesPart fits.member))
    obtain ⟨task, member, tears⟩ := fits.agrees.proper.frees frees
    refine calm (.inr (.inr ⟨fits.running (fun _ => rfl) positive, .inr ⟨released, ?_⟩⟩))
    rw [fits.task_eq member]
    exact tears

end Calm

/-- Between these functions the counter is the size of the device table. While that is positive and the device is not
being removed, the poll work is scheduled. -/
theorem pending_matches_requests {hardware : δ} {events : List (Event ε)}
    (ran : (step hw advance).run (initial hardware) events = some s)
    (calm : ∀ thread ∈ s.threads, ¬midExecution s.shared.history.resources thread) :
    s.shared.pendingRequests = (s.shared.tables .device).size ∧
      (0 < (s.shared.tables .device).size → s.shared.fields.removing = false → s.shared.cqPollWork.pending = true) := by
  obtain ⟨shares, pairs, ledger⟩ := (sound_of_run ran).shares
  have uncounted : shares.sum.uncounted = 0 :=
    part_eq_zero uncountedPart pairs fun thread member share fits => fits.counted (calm thread member)
  have erased : shares.sum.erased = 0 :=
    part_eq_zero erasedPart pairs fun thread member share fits => fits.settled ledger.freed (calm thread member)
  have polls : shares.sum.polls = 0 :=
    part_eq_zero pollsPart pairs fun thread member share fits => fits.polled (calm thread member)
  constructor
  · have pending := ledger.pending
    rw [uncounted, erased] at pending
    simpa using pending
  · intro positive working
    rcases ledger.polled positive with removing | scheduled | looking
    · rw [working] at removing
      cases removing
    · exact scheduled
    · omega

/-- A program sends a NOP to the device. -/
def nopCall : Call :=
  .nop { size := 56, version := 1, flags := 0, timeoutMs := 1000, userCookie := 7, reserved := 0 }

/-- The call has submitted its NOP and waits for the completion. -/
def nopWaits : List HostEvent := bringUp ++ [.openFile] ++ performs 1 6 ++ [.call 0 nopCall] ++ performs 2 34

theorem nop_is_polled : ∃ s, hostStep.run (hostStart false false) nopWaits = some s ∧
    s.shared.pendingRequests = 1 ∧ s.shared.cqPollWork.pending = true := by
  have checked : ((hostStep.run (hostStart false false) nopWaits).map fun s =>
      decide (∀ thread ∈ s.threads, ¬midExecution s.shared.history.resources thread) &&
        decide ((s.shared.tables .device).size = 1) && !s.shared.fields.removing) = some true := by
    decide +kernel
  obtain ⟨s, ran, holds⟩ := Option.map_eq_some_iff.mp checked
  simp only [Bool.and_eq_true, decide_eq_true_eq, Bool.not_eq_true'] at holds
  obtain ⟨⟨calm, one⟩, working⟩ := holds
  obtain ⟨pending, scheduled⟩ := pending_matches_requests ran calm
  refine ⟨s, ran, ?_, scheduled (one ▸ Nat.one_pos) working⟩
  rw [pending, one]
  rfl

end VamsSoc.Driver
