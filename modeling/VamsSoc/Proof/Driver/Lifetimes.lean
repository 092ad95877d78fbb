/-
This file shows how long requests and mappings live: who counts as an owner, that each is freed once, and when a freed
request can still be read.
-/

import VamsSoc.Proof.Driver.Polling

namespace VamsSoc.Driver
open Library Abi VamsSoc.System

variable {δ ε : Type} {hw : Hardware δ} {advance : EventMachine δ ε}

section Marks

/-- What an operation adds to the history of accesses, of early reaps, and of early closes. -/
structure Marks (op : Op) (s s' : Shared δ) : Prop where
  touched : s'.history.touched = s.history.touched ∨ ∃ access, op.touches = some access ∧
    s.book.freed (.request access.1) ≠ 0 ∧ s'.history.touched = access :: s.history.touched
  earlyReaps : s'.history.earlyReaps = s.history.earlyReaps ∨ ∃ file key request, op = .erase (.requests file) key ∧
    (s.tables (.requests file)).lookup key = some request ∧ s.earlyReap (.requests file) request = true
  earlyCloses : s'.history.earlyCloses = s.history.earlyCloses

variable {s : Shared δ} {op : Op}

theorem marks_of_history {s' : Shared δ} (touched : s'.history.touched = s.history.touched)
    (earlyReaps : s'.history.earlyReaps = s.history.earlyReaps)
    (earlyCloses : s'.history.earlyCloses = s.history.earlyCloses) : Marks op s s' :=
  ⟨.inl touched, .inl earlyReaps, earlyCloses⟩

theorem marks_touch (s : Shared δ) (op : Op) : Marks op s (s.touch op) := by
  unfold Shared.touch
  split
  · exact marks_of_history rfl rfl rfl
  · next access found =>
      split
      · exact marks_of_history rfl rfl rfl
      · next freed => exact ⟨.inr ⟨access, found, freed, rfl⟩, .inl rfl, rfl⟩

/-- Later changes elsewhere keep the marks. -/
theorem Marks.keep {middle s' : Shared δ} (marks : Marks op s middle)
    (touched : s'.history.touched = middle.history.touched)
    (earlyReaps : s'.history.earlyReaps = middle.history.earlyReaps)
    (earlyCloses : s'.history.earlyCloses = middle.history.earlyCloses) : Marks op s s' where
  touched := by
    rw [touched]
    exact marks.touched
  earlyReaps := by
    rw [earlyReaps]
    exact marks.earlyReaps
  earlyCloses := earlyCloses.trans marks.earlyCloses

theorem marks_eraseEntry {index : Index} {key : U32} {request : Nat}
    (present : (s.tables index).lookup key = some request) :
    Marks (.erase index key) s (s.eraseEntry index key request) := by
  unfold Shared.eraseEntry
  dsimp only
  split
  · next early =>
      cases index with
      | requests file => exact ⟨.inl rfl, .inr ⟨file, key, request, rfl, present, early⟩, rfl⟩
      | device => cases early
      | mappings file => cases early
  · exact marks_of_history rfl rfl rfl

theorem marks_setResource (resource : Resource) (acquired : Bool) :
    Marks op s (Shared.setResource hw s resource acquired) := by
  cases resource <;> exact marks_of_history rfl rfl rfl

theorem marks_insertEntry (index : Index) (key : U32) (value : Nat) : Marks op s (s.insertEntry index key value) := by
  unfold Shared.insertEntry
  dsimp only
  split <;> exact marks_of_history rfl rfl rfl

theorem marks_setWork (item : WorkItem) (work : Work) : Marks op s (s.setWork item work) := by
  cases item <;> exact marks_of_history rfl rfl rfl

theorem exec_marks {choice : Choice} {own own' : Own} {reply : Reply op} {s' : Shared δ}
    (executed : exec hw choice s own op = some (reply, s', own')) : Marks op s s' := by
  have plain : Marks op s s := marks_of_history rfl rfl rfl
  cases op with
  | readl register | writel register value | storeSubmission slot submission | assign assignment | unlock lock
  | decCompleted file | publishFile file | setClosing file | leave file | incNextCommandId | incPending | decPending
  | getDevice | putDevice | freeDevice | bind | discard object | answerWait request result =>
      cases executed
      exact marks_of_history rfl rfl rfl
  | loadCompletion slot | fields | load index key | next index bound | readCompleted file | readMapping mapping
  | readRefs object | readClosing file | readPending | inspect | copyFromUser | copyToUser record =>
      cases executed
      exact plain
  | lock lock =>
      simp only [exec] at executed
      split at executed <;> cases executed
      exact marks_of_history rfl rfl rfl
  | insert index key value =>
      simp only [exec] at executed
      split at executed
      · cases executed
        exact plain
      · split at executed <;> cases executed
        · exact plain
        · exact marks_insertEntry index key value
  | alloc index value =>
      simp only [exec] at executed
      split at executed
      · cases executed
        exact plain
      · split at executed <;> cases executed
        exact marks_insertEntry index _ value
  | allocDevice | allocRequest owner | allocFile =>
      simp only [exec] at executed
      split at executed <;> cases executed
      · exact plain
      · exact marks_of_history rfl rfl rfl
  | acquire resource | allocCoherent resource =>
      simp only [exec] at executed
      split at executed <;> cases executed
      · exact plain
      · exact marks_setResource resource true
  | release resource =>
      simp only [exec] at executed
      split at executed <;> cases executed
      exact marks_setResource resource false
  | waitForTest test =>
      simp only [exec] at executed
      split at executed
      · cases executed
        exact marks_of_history rfl rfl rfl
      · split at executed <;> cases executed
        exact plain
  | mapPages file userAddress length flags =>
      simp only [exec] at executed
      split at executed <;> cases executed
      · exact plain
      · exact marks_of_history rfl rfl rfl
  | cancelSync item =>
      simp only [exec] at executed
      split at executed <;> cases executed
      exact marks_setWork item _
  | erase index key =>
      rcases exec_erase executed with ⟨_, rfl, rfl, rfl⟩ | ⟨request, present, rfl, rfl, rfl⟩
      · exact plain
      · exact marks_eraseEntry present
  | get object | put object | setMappings request source destination | setRequest request field
  | readRequest request | readGeneration request | completeAll request | completionDone request | ownerOpen request =>
      cases executed
      exact (marks_touch s _).keep rfl rfl rfl
  | free object =>
      cases executed
      cases object <;> exact (marks_touch s _).keep rfl rfl rfl
  | incCompleted request =>
      cases executed
      refine (marks_touch s _).keep ?_ ?_ ?_ <;> unfold Shared.countCompleted <;> split <;> rfl
  | putReference reference =>
      simp only [exec] at executed
      split at executed <;> cases executed
      · exact marks_touch s _
      · cases reference <;> exact (marks_touch s _).keep rfl rfl rfl
  | waitForCompletion request =>
      simp only [exec] at executed
      split at executed
      · cases executed
        exact marks_touch s _
      · split at executed <;> cases executed
        exact marks_touch s _
  | schedule item | finishWork item =>
      cases executed
      exact marks_setWork item _
  | irqReturn vector =>
      cases executed
      cases vector <;> exact marks_of_history rfl rfl rfl
  | hold resource =>
      cases executed
      exact marks_setResource resource true

/-- An event other than an operation marks at most an early close. -/
structure Unmarked (event : Event ε) (s s' : Shared δ) : Prop where
  touched : s'.history.touched = s.history.touched
  earlyReaps : s'.history.earlyReaps = s.history.earlyReaps
  earlyCloses : s'.history.earlyCloses = s.history.earlyCloses ∨
    ∃ file, event = .close file ∧ s.hasRequest file = true

/-- The operation that an event performs, if it performs one. -/
def State.performed (s : State δ) : Event ε → Option Op
  | .run thread _ =>
      match s.threads[thread]? with
      | some ⟨_, .perform op _⟩ => if s.interrupted thread then none else some op
      | _ => none
  | _ => none

theorem step_marks {s s' : State δ} {event : Event ε} (stepped : step hw advance s event = some s') :
    (∃ op, s.performed event = some op ∧ Marks op s.shared s'.shared) ∨ Unmarked event s.shared s'.shared := by
  cases event with
  | run thread choice =>
      left
      simp only [step] at stepped
      split at stepped
      · next own op next found =>
          split at stepped
          · cases stepped
          · next free =>
              obtain ⟨⟨reply, shared, own'⟩, executed, rfl⟩ := Option.map_eq_some_iff.mp stepped
              refine ⟨op, ?_, exec_marks executed⟩
              simp [State.performed, found, free]
      · cases stepped
  | close file =>
      right
      simp only [step] at stepped
      split at stepped
      · cases stepped
        change Unmarked _ s.shared (s.shared.closeFile file)
        unfold Shared.closeFile
        dsimp only
        split
        · next early => exact ⟨rfl, rfl, .inr ⟨file, rfl, early⟩⟩
        · exact ⟨rfl, rfl, .inl rfl⟩
      · cases stepped
  | hardware event =>
      obtain ⟨hardware, -, rfl⟩ := Option.map_eq_some_iff.mp stepped
      exact .inr ⟨rfl, rfl, .inl rfl⟩
  | interrupt vector victim =>
      right
      simp only [step] at stepped
      split at stepped
      · obtain ⟨hardware, -, rfl⟩ := Option.map_eq_some_iff.mp stepped
        cases vector <;> exact ⟨rfl, rfl, .inl rfl⟩
      · cases stepped
  | work item =>
      right
      simp only [step] at stepped
      split at stepped <;> cases stepped
      cases item <;> exact ⟨rfl, rfl, .inl rfl⟩
  | probe config | openFile | remove | call file request =>
      right
      simp only [step] at stepped
      split at stepped <;> cases stepped
      exact ⟨rfl, rfl, .inl rfl⟩

end Marks

section Counting
variable {s : State δ}

/-- The references to an object that the functions in progress hold. -/
def State.held (s : State δ) (object : Object) : Nat :=
  (s.threads.map fun thread => if thread.program.isDone then 0 else thread.own.refs.count object).sum

/-- What the reference count of an object says in every state. -/
structure Counted (s : State δ) (object : Object) : Prop where
  counted : s.shared.book.refs object = s.shared.entries object + s.shared.linksTo object + s.held object
  once : s.shared.book.freed object ≤ 1
  unused : 0 < s.shared.book.freed object → s.shared.book.allocated object = true ∧ s.shared.book.refs object = 0
  released : s.idle = true → s.shared.book.allocated object = true → s.shared.book.refs object = 0 →
    s.shared.book.freed object = 1

/-- A function that has ended holds nothing, so the shares count what the functions in progress hold. -/
theorem held_sum {shares : List Share} (pairs : List.Forall₂ (Fits shares) s.threads shares) (object : Object) :
    shares.sum.held.count object = s.held object := by
  have part := part_sum ((Multiset.countAddMonoidHom object).comp heldPart)
    (fun thread : DriverThread => if thread.program.isDone then 0 else thread.own.refs.count object) pairs ?_
  · exact part
  · intro thread _ share fits
    change share.held.count object = _
    split
    · next ended =>
        rw [fits.rests ended]
        rfl
    · rw [fits.agrees.refs]

theorem dying_idle {shares : List Share} (pairs : List.Forall₂ (Fits shares) s.threads shares) (idle : s.idle = true) :
    shares.sum.dying = 0 := by
  have part := part_sum (⟨⟨Share.dying, rfl⟩, fun _ _ => rfl⟩ : Share →+ Multiset Object)
    (fun _ : DriverThread => 0) pairs ?_
  · exact part.trans List.sum_map_zero
  · intro thread member share fits
    rw [fits.rests (List.all_eq_true.mp idle thread member)]
    rfl

/-- The reference count of an object is the number of its owners and holders, and it is freed once at zero. -/
theorem counted_of_sound (sound : s.Sound hw) (object : Object) : Counted s object := by
  obtain ⟨shares, pairs, ledger⟩ := sound.shares
  have counted := ledger.balanced.counted object
  have once := ledger.balanced.once object
  constructor
  · rw [counted, held_sum pairs]
    rfl
  · split at once <;> omega
  · intro freed
    split at once
    · next zero => exact zero
    · omega
  · intro idle allocated zero
    rw [if_pos ⟨allocated, zero⟩, dying_idle pairs idle, Multiset.count_zero] at once
    omega

/-- The locks of a share. -/
def locksPart : Share →+ Multiset Lock := ⟨⟨Share.locks, rfl⟩, fun _ _ => Multiset.map_add ..⟩

/-- How often the threads have a lock. -/
def State.holders (s : State δ) (lock : Lock) : Nat := (s.threads.map fun thread => thread.own.locks.count lock).sum

/-- In every run, a lock that is taken has one holder, and a function that has ended on any path has no lock. -/
theorem lock_has_one_holder {hardware : δ} {events : List (Event ε)}
    (ran : (step hw advance).run (initial hardware) events = some s) (lock : Lock) :
    (s.holders lock = if s.shared.locked lock then 1 else 0) ∧
      ∀ thread ∈ s.threads, thread.program.isDone = true → thread.own.locks = 0 := by
  obtain ⟨shares, pairs, ledger⟩ := (sound_of_run ran).shares
  constructor
  · have part := part_sum ((Multiset.countAddMonoidHom lock).comp locksPart)
      (fun thread : DriverThread => thread.own.locks.count lock) pairs ?_
    · exact part.symm.trans (ledger.locks lock)
    · intro thread _ share fits
      rw [fits.agrees.locks]
      rfl
  · intro thread member ended
    obtain ⟨number, found⟩ := List.getElem?_of_mem member
    obtain ⟨share, rest, fits, -⟩ := exists_share pairs found
    rw [fits.agrees.locks, fits.rests ended]
    rfl

/-- A second call drains the completion queue before its own NOP. -/
def secondCallDrains : List HostEvent := nopWaits ++ [.call 0 nopCall] ++ performs 3 7

theorem draining_call_has_lock : ∃ s, hostStep.run (hostStart false false) secondCallDrains = some s ∧
    s.shared.locked .cq = true ∧ s.holders .cq = 1 := by
  have checked : ((hostStep.run (hostStart false false) secondCallDrains).map fun s => s.shared.locked .cq) =
      some true := by
    decide +kernel
  obtain ⟨s, ran, locked⟩ := Option.map_eq_some_iff.mp checked
  have holders := (lock_has_one_holder ran .cq).1
  rw [locked, if_pos rfl] at holders
  exact ⟨s, ran, locked, holders⟩

end Counting

section Mappings
variable {s : State δ}

/-- A program registers a buffer that the device may write. -/
def registerCall : Call :=
  .register { size := 40, version := 1, flags := 3, handle := 0, userAddress := 0x10000, length := 64, reserved := 0 }

/-- The program asks for the checksum of its buffer. -/
def crcCall : Call :=
  .submit {
    size := 64, version := 1, opcode := 3, flags := 0, sourceHandle := 1, destinationHandle := 0, length := 64
    timeoutMs := 100, sourceOffset := 0, destinationOffset := 0, userCookie := 7, expectedCrc := 0, commandId := 0 }

def bufferRegistered : List HostEvent :=
  bringUp ++ [.openFile] ++ performs 1 6 ++ [.call 0 registerCall] ++ performs 2 6 ++
    [.run 2 { address := 0x8000 }, .run 2 { handle := 1 }] ++ performs 2 4

def crcSubmitted : List HostEvent := bufferRegistered ++ [.call 0 crcCall] ++ performs 3 45

end Mappings

section Releases

/-- A file is closed only when no request refers to one of its mappings. -/
def closesUnused (s : State δ) : Event ε → Prop
  | .close file => s.shared.hasRequest file = false
  | _ => True

instance (s : State δ) (event : Event ε) : Decidable (closesUnused s event) := by
  cases event <;> unfold closesUnused <;> infer_instance

/-- No mapping that the device may write was released in an interrupt or under the lock of the completion queue. -/
def ReleasesSleep (s : State δ) : Prop :=
  ∀ release ∈ s.shared.history.releases, release.2 = true →
    hasBits (s.shared.mappings release.1).flags bufferWrite = false

instance (s : State δ) : Decidable (ReleasesSleep s) := by
  unfold ReleasesSleep
  infer_instance

/-- While files are closed only after their requests, the driver can sleep wherever it releases a mapping. -/
theorem releases_sleep {hardware : δ} {events : List (Event ε)}
    (unused : (step hw advance).Meets closesUnused (initial hardware) events) :
    (step hw advance).Always ReleasesSleep (initial hardware) events := by
  have kept : (step hw advance).Always (fun s => s.Sound hw ∧ s.shared.history.earlyCloses = [])
      (initial hardware) events := by
    refine EventMachine.always_of_meets ?_ ⟨sound_initial hardware, rfl⟩ unused
    rintro s event next ⟨sound, onTime⟩ unused stepped
    refine ⟨sound.step stepped, ?_⟩
    rcases step_marks stepped with ⟨op, -, marks⟩ | unmarked
    · exact marks.earlyCloses.trans onTime
    · rcases unmarked.earlyCloses with same | ⟨file, rfl, early⟩
      · exact same.trans onTime
      · exact (Bool.false_ne_true (Eq.symm unused |>.trans early)).elim
  refine kept.mono ?_
  rintro s ⟨sound, onTime⟩ ⟨mapping, atomic⟩ released rfl
  obtain ⟨shares, -, ledger⟩ := sound.shares
  exact (ledger.releases onTime mapping released).elim

/-- The file is closed while no request uses its buffer. -/
def closedUnused : List HostEvent := bufferRegistered ++ [.close 0] ++ performs 3 12

theorem close_releases_mapping : ∃ s, hostStep.run (hostStart false false) closedUnused = some s ∧
    s.shared.history.releases = [(0, false)] ∧ ReleasesSleep s := by
  have unused : hostStep.Meets closesUnused (hostStart false false) closedUnused := by decide +kernel
  have checked : ((hostStep.run (hostStart false false) closedUnused).map fun s =>
      decide (s.shared.history.releases = [(0, false)])) = some true := by
    decide +kernel
  obtain ⟨s, ran, holds⟩ := Option.map_eq_some_iff.mp checked
  exact ⟨s, ran, of_decide_eq_true holds, (releases_sleep unused).final ran⟩

/-- The file is closed while the engine reads the buffer. The interrupt that completes the request then releases it. -/
def closedUnderCrc : List HostEvent :=
  crcSubmitted ++ [.close 0] ++ performs 4 12 ++
    [.hardware (.endpoint (.tick 1000000000)), .hardware (.endpoint .engineTimer), .interrupt .cq none] ++ performs 5 20

theorem interrupt_releases_mapping : ∃ s, hostStep.run (hostStart false false) closedUnderCrc = some s ∧
    ¬ReleasesSleep s := by
  have checked : ((hostStep.run (hostStart false false) closedUnderCrc).map fun s => !decide (ReleasesSleep s)) =
      some true := by
    decide +kernel
  obtain ⟨s, ran, holds⟩ := Option.map_eq_some_iff.mp checked
  exact ⟨s, ran, of_decide_eq_false ((Bool.not_eq_true' _).mp holds)⟩

end Releases

section Files
variable {s : State δ}

/-- What the count of a file says, and when the file is freed. -/
structure FileLifetime (s : State δ) (file : Nat) : Prop where
  counted : s.shared.book.refs (.file file) =
    (if (s.shared.files file).opened then 1 else 0) + s.shared.linksTo (.file file) + s.held (.file file)
  kept : (s.shared.files file).opened = true ∨ (∃ request, (s.shared.requests request).owner = some file) →
    s.shared.book.freed (.file file) = 0
  once : s.shared.book.freed (.file file) ≤ 1
  released : s.idle = true → s.shared.book.allocated (.file file) = true →
    s.shared.book.refs (.file file) = 0 → s.shared.book.freed (.file file) = 1

/-- In every run, a file is freed once, after its descriptor is closed and after the last request of the file. -/
theorem file_outlives_requests {hardware : δ} {events : List (Event ε)}
    (ran : (step hw advance).run (initial hardware) events = some s) (file : Nat) : FileLifetime s file := by
  have sound := sound_of_run ran
  have counted := counted_of_sound sound (.file file)
  obtain ⟨shares, -, ledger⟩ := sound.shares
  refine ⟨counted.counted, fun used => ?_, counted.once, counted.released⟩
  have owned : s.shared.book.refs (.file file) =
      (if (s.shared.files file).opened then 1 else 0) + s.shared.linksTo (.file file) + s.held (.file file) :=
    counted.counted
  by_contra freed
  have zero := (counted.unused (Nat.pos_of_ne_zero freed)).2
  rcases used with opened | ⟨request, owner⟩
  · rw [opened, if_pos rfl] at owned
    omega
  · have links := ledger.linksTo_of_mem (mem_links_owner owner)
    omega

theorem closed_file_is_freed : ∃ s, hostStep.run (hostStart false false) closedUnused = some s ∧
    s.shared.book.freed (.file 0) = 1 ∧ FileLifetime s 0 := by
  have checked : ((hostStep.run (hostStart false false) closedUnused).map fun s =>
      decide (s.shared.book.freed (.file 0) = 1)) = some true := by
    decide +kernel
  obtain ⟨s, ran, holds⟩ := Option.map_eq_some_iff.mp checked
  exact ⟨s, ran, of_decide_eq_true holds, file_outlives_requests ran 0⟩

end Files

section Requests
variable {s s' : State δ} {event : Event ε}

/-- A request that the walk over the device table has found is read only while it is not freed. -/
def readsLive (s : State δ) (event : Event ε) : Prop :=
  ∀ request, s.performed event = some (.readGeneration request) → s.shared.book.freed (.request request) = 0

/-- What the count of a request says, when it is freed, and how many waits it ends. -/
structure RequestLifetime (s : State δ) (request : Nat) : Prop where
  counted : s.shared.book.refs (.request request) =
    (s.shared.tables .device).count request + s.shared.fileEntries request + s.held (.request request)
  tracked : (s.shared.tables .device).count request ≤ 1
  listed : s.shared.fileEntries request ≤ 1
  once : s.shared.book.freed (.request request) ≤ 1
  unused : 0 < s.shared.book.freed (.request request) → s.shared.book.refs (.request request) = 0
  released : s.idle = true → s.shared.book.allocated (.request request) = true →
    s.shared.book.refs (.request request) = 0 → s.shared.book.freed (.request request) = 1
  answered : s.shared.history.waits.count (request, none) ≤ 1

/-- Each request is counted, and no freed one was touched. -/
def RequestsLive (s : State δ) : Prop := s.shared.history.touched = [] ∧ ∀ request, RequestLifetime s request

theorem linksTo_request (shared : Shared δ) (request : Nat) : shared.linksTo (.request request) = 0 := by
  apply Finset.sum_eq_zero
  intro other _
  rw [List.count_eq_zero]
  simp [Request.links]

theorem requestLifetime_of_sound (sound : s.Sound hw) (request : Nat) : RequestLifetime s request := by
  have counted := counted_of_sound sound (.request request)
  obtain ⟨shares, -, ledger⟩ := sound.shares
  have stands := ledger.requests request
  have completion := stands.completion
  have reaping := stands.reaping
  change (s.shared.tables .device).count request + _ + _ ≤ 1 at completion
  change s.shared.history.waits.count (request, none) + _ + s.shared.fileEntries request + _ ≤ 1 at reaping
  exact {
    counted := by
      have owned := counted.counted
      rw [linksTo_request] at owned
      exact owned
    tracked := by omega
    listed := by omega
    once := counted.once
    unused := fun freed => (counted.unused freed).2
    released := counted.released
    answered := by omega }

/-- Only the walk over the device table reads a request without a reference to it. -/
theorem readGeneration_of_touches {op : Op} {request : Nat} (touches : op.touches = some (request, true)) :
    op = .readGeneration request := by
  cases op with
  | readGeneration other => cases touches; rfl
  | get object | put object | free object => cases object <;> cases touches
  | putReference reference => cases reference <;> cases touches
  | _ => cases touches

theorem untouched_step (sound : s.Sound hw) (untouched : s.shared.history.touched = []) (live : readsLive s event)
    (stepped : step hw advance s event = some s') : s'.shared.history.touched = [] := by
  obtain ⟨shares, -, ledger⟩ := (sound.step stepped).shares
  rcases step_marks stepped with ⟨op, performed, marks⟩ | unmarked
  · rcases marks.touched with same | ⟨⟨request, unheld⟩, touches, freed, more⟩
    · exact same.trans untouched
    · have walked : unheld = true := ledger.touched (request, unheld) (more ▸ List.mem_cons_self)
      subst walked
      rw [readGeneration_of_touches touches] at performed
      exact (freed (live request performed)).elim
  · exact unmarked.touched.trans untouched

/-- An event that performs an operation runs its thread. -/
theorem step_of_performed (hw : Hardware δ) (advance : EventMachine δ ε) {op : Op} (performed : s.performed event = some op) :
    ∃ thread choice own next, event = .run thread choice ∧ s.threads[thread]? = some ⟨own, .perform op next⟩ ∧
      step hw advance s event = (exec hw choice s.shared own op).map fun (reply, shared, own) =>
        { s with shared, threads := s.threads.set thread ⟨own, next reply⟩ } := by
  cases event with
  | run thread choice =>
      simp only [State.performed] at performed
      split at performed
      · next own other next found =>
          split at performed
          · cases performed
          · next free =>
              cases performed
              refine ⟨thread, choice, own, next, rfl, found, ?_⟩
              simp only [step, found, free]
              rfl
      · cases performed
  | _ => cases performed

theorem live_of_untouched (stepped : step hw advance s event = some s') (untouched : s'.shared.history.touched = []) :
    readsLive s event := by
  intro request performed
  obtain ⟨thread, choice, own, next, -, -, same⟩ := step_of_performed hw advance performed
  rw [same] at stepped
  cases stepped
  by_contra freed
  change (s.shared.touch (.readGeneration request)).history.touched = [] at untouched
  rw [Shared.touch] at untouched
  simp only [Op.touches, if_neg freed] at untouched
  cases untouched

theorem live_of_refused (refused : step hw advance s event = none) : readsLive s event := by
  intro request performed
  obtain ⟨thread, choice, own, next, -, -, same⟩ := step_of_performed hw advance performed
  rw [same] at refused
  cases refused

/-- In every run, each request is counted, freed once, and ends at most one wait. It is not touched after it was freed
exactly when the walk over the device table reads only requests that are not freed. -/
theorem requests_live_iff (hardware : δ) (events : List (Event ε)) :
    (step hw advance).Always RequestsLive (initial hardware) events ↔
      (step hw advance).Meets readsLive (initial hardware) events := by
  have implies : ∀ s : State δ, s.Sound hw ∧ s.shared.history.touched = [] → RequestsLive s := by
    rintro s ⟨sound, untouched⟩
    exact ⟨untouched, requestLifetime_of_sound sound⟩
  apply EventMachine.always_iff_meets implies
  · rintro s event next ⟨sound, untouched⟩ live stepped
    exact ⟨sound.step stepped, untouched_step sound untouched live stepped⟩
  · rintro s event next ⟨sound, -⟩ stepped later
    exact live_of_untouched stepped later.1
  · exact fun s event => live_of_refused
  · exact ⟨sound_initial hardware, rfl⟩

/-- The reset work has found the request of the waiting NOP. Before it reads the generation, the interrupt completes the
request, and the call frees it. -/
def nopFreedUnderReset : List HostEvent :=
  nopWaits ++ [.interrupt .cq none] ++ performs 3 8 ++
    [.hardware (.tool .deviceControl Pcie.controlReset), .work .cqPoll] ++ performs 4 9 ++ [.work .reset] ++
    performs 5 5 ++ performs 3 17 ++ performs 2 8 ++ performs 5 1

theorem reset_reads_freed_request : ∃ s, hostStep.run (hostStart false false) nopFreedUnderReset = some s ∧
    ¬RequestsLive s := by
  have checked : ((hostStep.run (hostStart false false) nopFreedUnderReset).map fun s =>
      decide (s.shared.history.touched = [(0, true)])) = some true := by
    decide +kernel
  obtain ⟨s, ran, holds⟩ := Option.map_eq_some_iff.mp checked
  refine ⟨s, ran, fun live => ?_⟩
  rw [live.1] at holds
  cases holds

end Requests
end VamsSoc.Driver
