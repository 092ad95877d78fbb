/-
This file says where a command object is in the firmware, and where each thread moves it.
-/

import VamsSoc.Construction.Firmware.Threads

namespace VamsSoc.Firmware
open Library Abi

section Store
variable (s : State) (slot : Slot) (assertion : Assertion) (changed : Bool × CommandObject)

@[simp] theorem objects_store : (s.store slot assertion changed).objects = Function.update s.objects slot changed.2 := rfl

@[simp] theorem activity_store : (s.store slot assertion changed).activity =
    (slot, .transition (s.objects slot) changed.2.state) :: s.activity := rfl

@[simp] theorem failed_store : (s.store slot assertion changed).failed =
    bif changed.1 then s.failed else assertion :: s.failed := rfl

end Store

/-- A command object is owned by one queue or by one thread at a time. -/
inductive Place where
  | captured | judging | ready | collected | selected
  | granting (deadlineMs : Nat) | grantRinging | handing | finishing | schedulerParked
  | running | polling | aborting | requesting | abortRinging | awaiting (deadlineMs : Nat) | draining
  | applying (result : Completion) | ending
  | completed | publishing (terminalState : CommandState) (deadlineMs : Nat)
  | ringing (terminalState : CommandState) | completerParked
  deriving DecidableEq, Repr

def Validator.tokens : Validator → List (Slot × Place)
  | .idle => []
  | .holding slot => [(slot, .judging)]

def Scheduler.tokens : Scheduler → List (Slot × Place)
  | .collecting | .choosing => []
  | .selected slot => [(slot, .selected)]
  | .publishing slot deadlineMs => [(slot, .granting deadlineMs)]
  | .ringing slot => [(slot, .grantRinging)]
  | .handing slot => [(slot, .handing)]
  | .finishing slot => [(slot, .finishing)]
  | .parked slot => [(slot, .schedulerParked)]

def Recovery.tokens : Recovery → List (Slot × Place)
  | .idle => []
  | .polling slot => [(slot, .polling)]
  | .aborting slot => [(slot, .aborting)]
  | .requesting slot => [(slot, .requesting)]
  | .ringing slot => [(slot, .abortRinging)]
  | .awaiting slot deadlineMs => [(slot, .awaiting deadlineMs)]
  | .draining slot => [(slot, .draining)]
  | .applying slot result => [(slot, .applying result)]
  | .ending slot => [(slot, .ending)]

/-- An object whose answer has been rung is no longer live. -/
def Completer.tokens : Completer → List (Slot × Place)
  | .idle | .finishing _ _ => []
  | .publishing slot terminalState deadlineMs => [(slot, .publishing terminalState deadlineMs)]
  | .ringing slot terminalState => [(slot, .ringing terminalState)]
  | .parked slot => [(slot, .completerParked)]

/-- These are the live command objects, each with its place. -/
def tokens (s : State) : List (Slot × Place) :=
  s.validationQueue.map (·, .captured) ++ s.validator.tokens ++ s.readyQueue.map (·, .ready) ++
    s.ready.map (·, .collected) ++ s.scheduler.tokens ++ s.runningQueue.map (·, .running) ++
    s.recovery.tokens ++ s.completionQueue.map (·, .completed) ++ s.completer.tokens

/-- The scheduler chooses only from a filled array. -/
def Ripe (s : State) : Prop := s.scheduler = .choosing → s.ready ≠ []

/-- The receiver has an object before it is captured. -/
def Receiver.slots : Receiver → List Slot
  | .idle => []
  | .allocated slot => [slot]

/-- The completer still has an object after it was rung, and remembers its state. -/
def Completer.ended : Completer → List (Slot × CommandState)
  | .finishing slot terminalState => [(slot, terminalState)]
  | _ => []

/-- Every slot is free, allocated, live, or about to be freed. -/
def owners (s : State) : List Slot :=
  s.free ++ s.receiver.slots ++ (tokens s).map Prod.fst ++ s.completer.ended.map Prod.fst

/-- No slot has two owners. -/
structure Tidy (s : State) : Prop where
  ripe : Ripe s
  single : (owners s).Nodup

/-- The live objects of each queue and of each thread. -/
def parts (s : State) : List (List (Slot × Place)) :=
  [s.validationQueue.map (·, .captured), s.validator.tokens, s.readyQueue.map (·, .ready),
    s.ready.map (·, .collected), s.scheduler.tokens, s.runningQueue.map (·, .running), s.recovery.tokens,
    s.completionQueue.map (·, .completed), s.completer.tokens]

theorem tokens_eq_flatten (s : State) : tokens s = (parts s).flatten := by
  simp [tokens, parts]

section Parts
variable {s t : State} {slot : Slot} {token : Slot × Place} {rest : List Slot}

/-- An object leaves one part of the firmware, and the other parts stay as they are. -/
theorem tokens_take (index : Nat) {part left : List (Slot × Place)} (found : (parts s)[index]? = some part)
    (taken : part.Perm (token :: left)) (same : parts t = (parts s).set index left) :
    (tokens s).Perm (token :: tokens t) := by
  obtain ⟨inside, rfl⟩ := List.getElem?_eq_some_iff.mp found
  rw [tokens_eq_flatten, tokens_eq_flatten, same, List.set_eq_take_append_cons_drop, if_pos inside]
  nth_rewrite 1 [← List.take_append_drop index (parts s), List.drop_eq_getElem_cons inside]
  simp only [List.flatten_append, List.flatten_cons]
  exact ((taken.append_right _).append_left _).trans List.perm_middle

theorem holds_validator (holds : s.validator.tokens = [token]) :
    (tokens s).Perm (token :: tokens { s with validator := .idle }) :=
  tokens_take 1 rfl (.of_eq holds) rfl

theorem holds_scheduler (holds : s.scheduler.tokens = [token]) :
    (tokens s).Perm (token :: tokens { s with scheduler := .collecting }) :=
  tokens_take 4 rfl (.of_eq holds) rfl

theorem holds_recovery (holds : s.recovery.tokens = [token]) :
    (tokens s).Perm (token :: tokens { s with recovery := .idle }) :=
  tokens_take 6 rfl (.of_eq holds) rfl

theorem holds_completer (holds : s.completer.tokens = [token]) :
    (tokens s).Perm (token :: tokens { s with completer := .idle }) :=
  tokens_take 8 rfl (.of_eq holds) rfl

theorem waits_validation (queue : s.validationQueue = slot :: rest) :
    (tokens s).Perm ((slot, .captured) :: tokens { s with validationQueue := rest }) :=
  tokens_take 0 rfl (.of_eq (congrArg _ queue)) rfl

theorem waits_ready (queue : s.readyQueue = slot :: rest) :
    (tokens s).Perm ((slot, .ready) :: tokens { s with readyQueue := rest }) :=
  tokens_take 2 rfl (.of_eq (congrArg _ queue)) rfl

theorem waits_running (queue : s.runningQueue = slot :: rest) :
    (tokens s).Perm ((slot, .running) :: tokens { s with runningQueue := rest }) :=
  tokens_take 5 rfl (.of_eq (congrArg _ queue)) rfl

theorem waits_completion (queue : s.completionQueue = slot :: rest) :
    (tokens s).Perm ((slot, .completed) :: tokens { s with completionQueue := rest }) :=
  tokens_take 7 rfl (.of_eq (congrArg _ queue)) rfl

/-- The order within the array does not matter. -/
theorem waits_array (array : s.ready.Perm (slot :: rest)) :
    (tokens s).Perm ((slot, .collected) :: tokens { s with ready := rest }) :=
  tokens_take 3 rfl (array.map _) rfl

end Parts

section Puts
variable (s : State) (slot : Slot)

/-- The last object of a queue is the one that leaves it again. -/
theorem perm_put (queue : List Slot) (place : Place) :
    ((queue ++ [slot]).map (·, place)).Perm ((slot, place) :: queue.map (·, place)) :=
  (List.perm_append_singleton slot queue).map _

theorem put_validation : (tokens { s with validationQueue := s.validationQueue ++ [slot] }).Perm
    ((slot, .captured) :: tokens s) :=
  tokens_take 0 rfl (perm_put ..) rfl

theorem put_ready : (tokens { s with readyQueue := s.readyQueue ++ [slot] }).Perm ((slot, .ready) :: tokens s) :=
  tokens_take 2 rfl (perm_put ..) rfl

theorem put_array : (tokens { s with ready := s.ready ++ [slot] }).Perm ((slot, .collected) :: tokens s) :=
  tokens_take 3 rfl (perm_put ..) rfl

theorem put_running : (tokens { s with runningQueue := s.runningQueue ++ [slot] }).Perm
    ((slot, .running) :: tokens s) :=
  tokens_take 5 rfl (perm_put ..) rfl

theorem put_completion : (tokens { s with completionQueue := s.completionQueue ++ [slot] }).Perm
    ((slot, .completed) :: tokens s) :=
  tokens_take 7 rfl (perm_put ..) rfl

end Puts

section Room
variable {s : State} {slot : Slot}

theorem length_owners (s : State) : (tokens s).length ≤ (owners s).length := by
  simp only [owners, List.length_append, List.length_map]
  omega

/-- A pool of eight slots has at most eight live objects. -/
theorem Tidy.length_tokens (tidy : Tidy s) : (tokens s).length ≤ commandPoolSize :=
  (length_owners s).trans (tidy.single.length_le_card.trans_eq (Fintype.card_fin 8))

/-- A queue has no more objects than are live. -/
theorem room_queue {queue : List Slot} {place : Place} (room : (tokens s).length < commandPoolSize) (index : Nat)
    (found : (parts s)[index]? = some (queue.map (·, place))) : queue.length < commandPoolSize := by
  rw [tokens_eq_flatten] at room
  have fewer := (List.sublist_flatten_of_mem (List.mem_of_getElem? found)).length_le
  rw [List.length_map] at fewer
  exact lt_of_le_of_lt fewer room

theorem putValidation_room (room : (tokens s).length < commandPoolSize) :
    s.putValidation slot = { s with validationQueue := s.validationQueue ++ [slot] } :=
  if_pos (room_queue room 0 rfl)

theorem putReady_room (room : (tokens s).length < commandPoolSize) :
    s.putReady slot = { s with readyQueue := s.readyQueue ++ [slot] } :=
  if_pos (room_queue room 2 rfl)

theorem putCompletion_room (room : (tokens s).length < commandPoolSize) :
    s.putCompletion slot = { s with completionQueue := s.completionQueue ++ [slot] } :=
  if_pos (room_queue room 7 rfl)

end Room
end VamsSoc.Firmware
