/-
This file shows that the counter of a file counts the requests that a wait can reap.
-/

import VamsSoc.Proof.Driver.Lifetimes

namespace VamsSoc.Driver
open Library Abi VamsSoc.System

variable {δ ε : Type} {hw : Hardware δ} {advance : EventMachine δ ε} {s s' : State δ}

/-- The requests of a file that have ended and that nobody has reaped. -/
def Shared.doneEntries (s : Shared δ) (file : Nat) : Nat :=
  (s.tables (.requests file)).entries.countP fun entry => (s.requests entry.2).done

/-- No call runs on the file, and no function in progress has a reference to one of its requests. -/
def State.unused (s : State δ) (file : Nat) : Prop :=
  (s.shared.files file).users = 0 ∧ ∀ thread ∈ s.threads, thread.program.isDone = false →
    ∀ request, .request request ∈ thread.own.refs → (s.shared.requests request).owner ≠ some file

/-- The counter of the file is right, and so is what a poll makes of it. -/
structure Countable (s : Shared δ) (file : Nat) : Prop where
  completed : (s.files file).completed = s.doneEntries file
  readable : 0 < (s.files file).completed ↔ ∃ commandId request,
    (s.tables (.requests file)).lookup commandId = some request ∧ (s.requests request).done = true

/-- The counter of each open file that nobody is using is right. -/
def PollsReady (s : State δ) : Prop :=
  ∀ file, (s.shared.files file).opened = true → s.unused file → Countable s.shared file

/-- A request leaves the table of an open file after the device got it and before it is counted. -/
def reapsEarly (s : State δ) (event : Event ε) : Bool :=
  match s.performed event with
  | some (.erase (.requests file) key) =>
      ((s.shared.tables (.requests file)).lookup key).any (s.shared.earlyReap (.requests file))
  | _ => false

section Counters
variable {shares : List Share}

/-- Nobody announces a request that no function in progress refers to. -/
theorem announcing_unused (pairs : List.Forall₂ (Fits shares) s.threads shares) {request : Nat}
    (unheld : ∀ thread ∈ s.threads, thread.program.isDone = false → .request request ∉ thread.own.refs) :
    shares.sum.announcing.count request = 0 := by
  have held : shares.sum.held.count (.request request) = 0 := by
    rw [held_sum pairs]
    apply List.sum_eq_zero
    intro count member
    obtain ⟨thread, inside, rfl⟩ := List.mem_map.mp member
    split
    · rfl
    · next running => exact Multiset.count_eq_zero_of_notMem (unheld thread inside (Bool.eq_false_of_not_eq_true running))
  by_contra some
  have member := Multiset.count_pos.mp (Nat.pos_of_ne_zero some)
  refine Multiset.count_eq_zero.mp held ?_
  rw [Share.held]
  refine Multiset.mem_add.mpr (.inl (Multiset.mem_add.mpr (.inr (Multiset.mem_map_of_mem _ ?_))))
  exact Multiset.mem_add.mpr (.inr member)

/-- In a file that nobody is using, the requests that have ended are those that are counted. -/
theorem countedEntries_eq (pairs : List.Forall₂ (Fits shares) s.threads shares) (ledger : Ledger s.shared shares.sum)
    {file : Nat} (open_ : (s.shared.files file).closing = false) (unused : s.unused file) :
    s.shared.countedEntries file = s.shared.doneEntries file := by
  apply List.countP_congr
  rintro ⟨commandId, request⟩ listed
  have present : (s.shared.tables (.requests file)).lookup commandId = some request := Table.lookup_eq_some.mpr listed
  have owner : (s.shared.requests request).owner = some file := ledger.belongs _ _ _ present
  have stands := ledger.requests request
  refine ⟨stands.countedDone, fun done => ?_⟩
  have ownerOpen : s.shared.ownerOpen request = true := by simp [Shared.ownerOpen, owner, open_]
  rcases stands.announced done ownerOpen with counted | announcing
  · exact counted
  · have none : (s.shared.standing shares.sum request).announcing = 0 :=
      announcing_unused pairs fun thread inside running member => unused.2 thread inside running request member owner
    omega

theorem doneEntries_pos (shared : Shared δ) (file : Nat) : 0 < shared.doneEntries file ↔ ∃ commandId request,
    (shared.tables (.requests file)).lookup commandId = some request ∧ (shared.requests request).done = true := by
  rw [Shared.doneEntries, List.countP_pos_iff]
  constructor
  · rintro ⟨⟨commandId, request⟩, listed, done⟩
    exact ⟨commandId, request, Table.lookup_eq_some.mpr listed, done⟩
  · rintro ⟨commandId, request, present, done⟩
    exact ⟨(commandId, request), Table.lookup_eq_some.mp present, done⟩

theorem countable_of_sound (sound : s.Sound hw) (onTime : s.shared.history.earlyReaps = []) : PollsReady s := by
  intro file opened unused
  obtain ⟨shares, pairs, ledger⟩ := sound.shares
  have open_ : (s.shared.files file).closing = false := by
    by_contra closing
    have closed := ledger.closing file ((Bool.not_eq_false _).mp closing)
    exact Bool.false_ne_true (closed.symm.trans opened)
  have completed : (s.shared.files file).completed = s.shared.doneEntries file := by
    have counted := ledger.completed onTime file open_
    have users : (s.shared.files file).users = _ + (shares.sum.owed.map Prod.fst).count file := ledger.users file
    rw [unused.1] at users
    rw [countedEntries_eq pairs ledger open_ unused] at counted
    omega
  exact ⟨completed, by rw [completed, doneEntries_pos]⟩

end Counters

theorem onTime_step {event : Event ε} (onTime : s.shared.history.earlyReaps = []) (counted : reapsEarly s event = false)
    (stepped : step hw advance s event = some s') : s'.shared.history.earlyReaps = [] := by
  rcases step_marks stepped with ⟨op, performed, marks⟩ | unmarked
  · rcases marks.earlyReaps with same | ⟨file, key, request, rfl, present, early⟩
    · exact same.trans onTime
    · simp [reapsEarly, performed, present, early] at counted
  · exact unmarked.earlyReaps.trans onTime

/-- While requests are reaped only after they were counted, the counter of a file that nobody is using is right. -/
theorem polls_ready {hardware : δ} {events : List (Event ε)}
    (counted : (step hw advance).Meets (fun s event => reapsEarly s event = false) (initial hardware) events) :
    (step hw advance).Always PollsReady (initial hardware) events := by
  have kept : (step hw advance).Always (fun s => s.Sound hw ∧ s.shared.history.earlyReaps = [])
      (initial hardware) events := by
    refine EventMachine.always_of_meets ?_ ⟨sound_initial hardware, rfl⟩ counted
    rintro s event next ⟨sound, onTime⟩ counted stepped
    exact ⟨sound.step stepped, onTime_step onTime counted stepped⟩
  refine kept.mono ?_
  rintro s ⟨sound, onTime⟩
  exact countable_of_sound sound onTime

/-- A program leaves a NOP with the device. -/
def submitNopCall : Call :=
  .submit {
    size := 64, version := 1, opcode := 0, flags := 0, sourceHandle := 0, destinationHandle := 0, length := 0
    timeoutMs := 100, sourceOffset := 0, destinationOffset := 0, userCookie := 7, expectedCrc := 0, commandId := 0 }

/-- The last operation of this part is the copy of the command ID to user space. -/
def nopSubmitted (copied : Choice) : List HostEvent :=
  bringUp ++ [.openFile] ++ performs 1 6 ++ [.call 0 submitNopCall] ++ performs 2 39 ++ [.run 2 copied]

/-- The call ends, and the interrupt completes the request. -/
def nopCompleted : List HostEvent := nopSubmitted {} ++ performs 2 2 ++ [.interrupt .cq none] ++ performs 3 26

theorem unused_of_idle {s : State δ} {file : Nat} (users : (s.shared.files file).users = 0) (idle : s.idle = true) :
    s.unused file := by
  refine ⟨users, fun thread inside running => ?_⟩
  cases (List.all_eq_true.mp idle thread inside).symm.trans running

theorem completed_nop_is_counted : ∃ s, hostStep.run (hostStart false false) nopCompleted = some s ∧
    (s.shared.files 0).completed = 1 ∧ s.shared.doneEntries 0 = 1 := by
  have counted : hostStep.Meets (fun s event => reapsEarly s event = false) (hostStart false false) nopCompleted := by
    decide +kernel
  have checked : ((hostStep.run (hostStart false false) nopCompleted).map fun s =>
      decide ((s.shared.files 0).opened = true) && decide ((s.shared.files 0).users = 0) &&
        s.idle && decide (s.shared.doneEntries 0 = 1)) = some true := by
    decide +kernel
  obtain ⟨s, ran, holds⟩ := Option.map_eq_some_iff.mp checked
  simp only [Bool.and_eq_true, decide_eq_true_eq] at holds
  obtain ⟨⟨⟨opened, users⟩, idle⟩, one⟩ := holds
  have countable := (polls_ready counted).final ran 0 opened (unused_of_idle users idle)
  exact ⟨s, ran, countable.completed.trans one, one⟩

/-- The copy fails, so the call takes the request out of the table. The interrupt still counts it. -/
def nopAbandoned : List HostEvent :=
  nopSubmitted { error := some .efault } ++ performs 2 5 ++ [.interrupt .cq none] ++ performs 3 30

theorem abandoned_nop_is_counted : ∃ s, hostStep.run (hostStart false false) nopAbandoned = some s ∧ ¬PollsReady s := by
  have checked : ((hostStep.run (hostStart false false) nopAbandoned).map fun s =>
      decide ((s.shared.files 0).opened = true) && decide ((s.shared.files 0).users = 0) &&
        s.idle &&
        decide ((s.shared.files 0).completed ≠ s.shared.doneEntries 0)) = some true := by
    decide +kernel
  obtain ⟨s, ran, holds⟩ := Option.map_eq_some_iff.mp checked
  simp only [Bool.and_eq_true, decide_eq_true_eq] at holds
  obtain ⟨⟨⟨opened, users⟩, idle⟩, wrong⟩ := holds
  exact ⟨s, ran, fun ready => wrong (ready 0 opened (unused_of_idle users idle)).completed⟩

end VamsSoc.Driver
