/-
This file has the ledger of all threads along every run of the driver.
-/

import VamsSoc.Construction.Driver.Machine
import VamsSoc.Proof.Driver.ProbeRules

namespace VamsSoc.Driver
open Library Abi

variable {δ ε : Type} {hw : Hardware δ} {advance : EventMachine δ ε}

/-- What a thread has for its task alone. -/
def Task.share (task : Task) : Share := Share.push 0 (.does task)

/-- A thread that has ended has nothing but its task. -/
def Rests (_ : Unit) (share : Share) : Prop := ∃ task : Task, share = task.share

/-- The shares of the threads add up to the ledger. -/
def State.Sound (hw : Hardware δ) (s : State δ) : Prop :=
  Settled (exec hw) discipline (fun result share => ∃ weak, Weakens δ share weak ∧ Rests result weak) s.shared s.threads

section Starting

theorem Ledger.does {s : Shared δ} {h : Share} (ledger : Ledger s h) (task : Task) : Ledger s (task.share + h) := by
  have same : task.share + h = h.push (.does task) := by
    rw [Task.share, Share.push_add, zero_add]
  rw [same]
  exact { ledger with }

theorem agrees_task (task : Task) (own : Own) (same : own.task = task) (context : own.context = task.context)
    (handler : own.context = .interrupt → own.irqsOff = true) (locks : own.locks = 0) (refs : own.refs = 0) :
    Agrees own task.share where
  refs := refs
  locks := locks
  task := by
    rw [same]
    rfl
  context := by rw [context, same]
  interrupts := by simp [locks]
  handler := handler
  proper := ⟨nofun, nofun, nofun, nofun⟩

/-- What a task starts with goes on top of its share. -/
theorem Ledger.starts {s : Shared δ} {h : Share} (task : Task) {token : Token} (ledger : Ledger s (h.push token)) :
    Ledger s (task.share.push token + h) := by
  have done := ledger.does task
  rw [Share.push_add]
  rw [add_comm, Share.push_add, add_comm] at done
  exact done

theorem sleeps_share (task : Task) (process : task.context = .process) : task.share.Sleeps := by
  refine ⟨Multiset.notMem_zero _, ?_⟩
  intro other member
  rw [Multiset.mem_singleton.mp member]
  exact process

/-- A program that ends with its task alone can be a thread. -/
theorem keeps_of_safe {share : Share} {code : Code Unit} (safe : Safe hw Rests share code) :
    Keeps (exec hw) discipline (fun result share => ∃ weak, Weakens δ share weak ∧ Rests result weak) share code := safe

theorem safe_handler (vector : Vector) : Safe hw Rests (Task.interrupt vector).share (handler vector) := by
  have returns : Safe hw Rests (Task.interrupt vector).share (call (.irqReturn vector)) :=
    safe_neutral rfl fun _ => ⟨_, rfl⟩
  cases vector with
  | cq => exact .bind (safe_cqIrq returns)
  | async => exact .bind (safe_asyncIrq returns)

theorem safe_resetWorker : Safe hw Rests (Task.work .reset).share (worker .reset) :=
  .bind (safe_resetWork ⟨_, Multiset.mem_singleton_self _, rfl⟩ (safe_neutral rfl fun _ => ⟨_, rfl⟩))

theorem safe_pollWorker : Safe hw Rests ((Task.work .cqPoll).share.push .polls) (worker .cqPoll) :=
  .bind (safe_cqPollWork (safe_neutral rfl fun _ => ⟨_, rfl⟩))

theorem context_task (request : Call) : request.task.context = .process := by
  cases request <;> rfl

theorem safe_caller (file : Nat) (request : Call) :
    Safe hw Rests (request.task.share.push (.use file)) (caller file request) :=
  .bind (safe_call request (sleeps_share _ (context_task request)) (Multiset.mem_singleton_self _)
    (safe_leave ⟨_, rfl⟩))

theorem safe_opener : Safe hw Rests Task.file.share opener := .bind (safe_fileOpen fun _ => .done ⟨_, rfl⟩)

theorem safe_prober (config : Config) : Safe hw Rests Task.probe.share (prober config) :=
  .bind (safe_probe (Multiset.mem_singleton_self _) fun _ => .done ⟨_, rfl⟩)

end Starting

section Runs
variable {s s' : State δ} {event : Event ε}

/-- A thread that has nothing but its task starts. -/
theorem State.Sound.spawn (sound : s.Sound hw) {shared : Shared δ} (own : Own) {code : Code Unit}
    (context : own.context = own.task.context) (handler : own.context = .interrupt → own.irqsOff = true)
    (locks : own.locks = 0) (refs : own.refs = 0) (safe : Safe hw Rests own.task.share code)
    (kept : ∀ h, Ledger s.shared h → Ledger shared h) : (s.start shared own code).Sound hw := by
  refine Settled.spawn sound (agrees_task own.task own rfl context handler locks refs) (keeps_of_safe safe) ?_
  intro total ledger
  exact (kept total ledger).does own.task

/-- Every event keeps the threads sound. -/
theorem State.Sound.step (sound : s.Sound hw) (stepped : Driver.step hw advance s event = some s') : s'.Sound hw := by
  cases event with
  | probe config =>
      simp only [Driver.step] at stepped
      split at stepped
      · cases stepped
      · cases stepped
        exact sound.spawn { task := .probe } rfl nofun rfl rfl (safe_prober config) fun _ => id
  | run thread choice =>
      simp only [Driver.step] at stepped
      split at stepped
      · next own op next found =>
          split at stepped
          · cases stepped
          · obtain ⟨⟨reply, shared, own'⟩, executed, rfl⟩ := Option.map_eq_some_iff.mp stepped
            exact Settled.run sound found executed
      · cases stepped
  | hardware event =>
      obtain ⟨hardware, -, rfl⟩ := Option.map_eq_some_iff.mp stepped
      exact Settled.change sound fun _ ledger => Ledger.setHardware ledger hardware
  | interrupt vector victim =>
      simp only [Driver.step] at stepped
      split at stepped
      · obtain ⟨hardware, -, rfl⟩ := Option.map_eq_some_iff.mp stepped
        refine sound.spawn _ rfl (fun _ => rfl) rfl rfl (safe_handler vector) fun h ledger => ?_
        have after := ledger.setHardware hardware
        cases vector <;> exact { after with }
      · cases stepped
  | work item =>
      simp only [Driver.step] at stepped
      split at stepped
      · cases stepped
        cases item with
        | reset =>
            refine sound.spawn { task := .work .reset } rfl nofun rfl rfl safe_resetWorker fun h ledger => ?_
            exact ledger.setWork .reset _ nofun
        | cqPoll =>
            have agrees : Agrees { task := .work .cqPoll } ((Task.work .cqPoll).share.push .polls) := by
              refine (agrees_task (.work .cqPoll) { task := .work .cqPoll } rfl rfl nofun rfl rfl).setRefs rfl rfl rfl ?_
              exact ⟨nofun, nofun, fun _ => .inr (Multiset.mem_singleton_self _), nofun⟩
            refine Settled.spawn sound agrees (keeps_of_safe safe_pollWorker) fun total ledger => ?_
            exact (Ledger.start_poll ledger _).starts (.work .cqPoll)
      · cases stepped
  | openFile =>
      simp only [Driver.step] at stepped
      split at stepped
      · cases stepped
        exact sound.spawn {} rfl nofun rfl rfl safe_opener fun _ => id
      · cases stepped
  | call file request =>
      simp only [Driver.step] at stepped
      split at stepped
      · next opened =>
          cases stepped
          have agrees : Agrees { task := request.task } (request.task.share.push (.use file)) :=
            (agrees_task request.task { task := request.task } rfl (context_task request).symm nofun rfl rfl).keep rfl
              ⟨rfl, rfl, rfl, le_rfl, le_rfl, le_rfl⟩
          refine Settled.spawn sound agrees (keeps_of_safe (safe_caller file request)) fun total ledger => ?_
          exact (Ledger.enter ledger opened).starts request.task
      · cases stepped
  | close file =>
      simp only [Driver.step] at stepped
      split at stepped
      · next free =>
          cases stepped
          obtain ⟨opened, unused⟩ := Bool.and_eq_true_iff.mp free
          have agrees : Agrees { refs := {.file file} } (Task.file.share.push (.closes file)) :=
            (agrees_task .file {} rfl rfl nofun rfl rfl).setRefs rfl rfl rfl ⟨nofun, nofun, nofun, nofun⟩
          have safe : Safe hw Rests (Task.file.share.push (.closes file)) (fileRelease file) :=
            safe_fileRelease (sleeps_share .file rfl) ⟨_, rfl⟩
          refine Settled.spawn sound agrees (keeps_of_safe safe) fun total ledger => ?_
          exact (Ledger.close ledger opened (of_decide_eq_true unused)).starts .file
      · cases stepped
  | remove =>
      simp only [Driver.step] at stepped
      split at stepped
      · cases stepped
        have safe : Safe hw Rests Task.remove.share remove := safe_remove ⟨_, Multiset.mem_singleton_self _, rfl⟩ ⟨_, rfl⟩
        exact sound.spawn { task := .remove } rfl nofun rfl rfl safe fun _ ledger => { ledger with }
      · cases stepped

theorem owners_initial (hardware : δ) (object : Object) : (initial hardware).shared.owners object = 0 := by
  cases object <;> rfl

/-- Nothing is known before the first event. -/
theorem ledger_initial (hardware : δ) : Ledger (initial hardware).shared 0 where
  balanced := by
    have none : (initial hardware).shared.owners = fun _ => 0 := by
      funext object
      exact owners_initial hardware object
    rw [none]
    exact .empty
  created _ member := (Multiset.notMem_zero _ member).elim
  belongs := nofun
  named := nofun
  drafts _ member := (Multiset.notMem_zero _ member).elim
  requestNumbers _ := rfl
  mappingNumbers _ := rfl
  fileNumbers _ := rfl
  touched := nofun
  locks _ := rfl
  sights _ member := (Multiset.notMem_zero _ member).elim
  requests request := by
    have blank : (initial hardware).shared.standing 0 request = {} := rfl
    rw [blank]
    constructor <;> simp
  blankRequests _ _ := ⟨rfl, rfl⟩
  blankFiles _ _ := rfl
  pending := rfl
  polled := nofun
  removing := nofun
  freed := nofun
  users _ := rfl
  usersOpened := nofun
  closes _ member := (Multiset.notMem_zero _ member).elim
  closing := nofun
  shut _ member := (Multiset.notMem_zero _ member).elim
  completed _ _ _ := rfl
  owing _ member := (Multiset.notMem_zero _ member).elim
  mapped _ := Nat.zero_le _
  linked := nofun
  closed := nofun
  orphans := nofun
  releases := nofun
  resting := ⟨fun _ member => (Multiset.notMem_zero _ member).elim, nofun⟩

theorem sound_initial (hardware : δ) : (initial hardware).Sound hw := ⟨[], .nil, ledger_initial hardware⟩

/-- Whatever happens, the threads of the driver are sound. -/
theorem sound_of_run {hardware : δ} {events : List (Event ε)}
    (ran : (step hw advance).run (initial hardware) events = some s) : s.Sound hw := by
  have always : (step hw advance).Always (State.Sound hw) (initial hardware) events :=
    EventMachine.always_of_step (fun _ _ _ sound stepped => sound.step stepped) (sound_initial hardware) events
  exact always.final ran

/-- A thread fits its share, and after its end the share is nothing but its task. -/
structure Fits (shares : List Share) (thread : DriverThread) (share : Share) : Prop where
  agrees : Agrees thread.own share
  rests : thread.program.isDone = true → share = thread.own.task.share
  member : share ∈ shares

theorem State.Sound.shares (sound : s.Sound hw) :
    ∃ shares : List Share, List.Forall₂ (Fits shares) s.threads shares ∧ Ledger s.shared shares.sum := by
  obtain ⟨shares, pairs, ledger⟩ := Settled.rested sound
  refine ⟨shares, (forall₂_mem pairs).imp ?_, ledger⟩
  rintro thread share ⟨⟨agrees, rests⟩, member⟩
  refine ⟨agrees, fun ended => ?_, member⟩
  cases program : thread.program with
  | done result =>
      obtain ⟨task, rfl⟩ := rests result program
      have same : {task} = ({thread.own.task} : Multiset Task) := Agrees.task agrees
      rw [Multiset.singleton_inj.mp same]
  | perform op next =>
      rw [program] at ended
      cases ended

/-- What no thread has, all threads together do not have. -/
theorem part_eq_zero (part : Share →+ Nat) {shares : List Share} (pairs : List.Forall₂ (Fits shares) s.threads shares)
    (none : ∀ thread ∈ s.threads, ∀ share, Fits shares thread share → part share = 0) : part shares.sum = 0 := by
  rw [part_sum part (fun _ => 0) pairs none]
  exact List.sum_map_zero

theorem part_le_sum (part : Share →+ Nat) {shares : List Share} {share : Share} (member : share ∈ shares) :
    part share ≤ part shares.sum := by
  rw [map_list_sum]
  exact List.single_le_sum (fun _ _ => Nat.zero_le _) _ (List.mem_map_of_mem member)

end Runs

section Parts

/-- The tokens of one kind that a thread has. -/
def uncountedPart : Share →+ Nat := ⟨⟨Share.uncounted, rfl⟩, fun _ _ => rfl⟩
def erasedPart : Share →+ Nat := ⟨⟨Share.erased, rfl⟩, fun _ _ => rfl⟩
def pollsPart : Share →+ Nat := ⟨⟨Share.polls, rfl⟩, fun _ _ => rfl⟩
def freesPart : Share →+ Nat := ⟨⟨Share.frees, rfl⟩, fun _ _ => rfl⟩
def heldPart : Share →+ Multiset Object := ⟨⟨Share.held, rfl⟩, Share.held_add⟩

end Parts
end VamsSoc.Driver
