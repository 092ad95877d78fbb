/-
This file shows that the scheduler dispatches the commands of its ready array by deadline and acceptance.
-/

import VamsSoc.Proof.Firmware.Pool

namespace VamsSoc.Firmware
open Library Abi

/-! ### The selection -/

/-- The order of the source compares deadlines first and sequence numbers second. -/
def CommandObject.rank (command : CommandObject) : Nat ×ₗ Nat := toLex (command.deadlineMs, command.sequence.toNat)

theorem precedes_iff (first second : CommandObject) : first.precedes second = true ↔ first.rank < second.rank := by
  rw [CommandObject.precedes, Bool.or_eq_true, Bool.and_eq_true, decide_eq_true_iff, decide_eq_true_iff, beq_iff_eq,
    CommandObject.rank, CommandObject.rank, Prod.Lex.toLex_lt_toLex, BitVec.lt_def]

/-- No command of the array comes before the selected one. -/
theorem schedulerSelect_least (objects : Slot → CommandObject) (ready : List Slot) {slot : Slot} (listed : slot ∈ ready) :
    (objects (ready.getD (schedulerSelect objects ready) 0)).rank ≤ (objects slot).rank := by
  have scan (count : Nat) : ∀ index ≤ count,
      (objects (ready.getD ((List.range' 1 count).foldl (fun selected index =>
        if (objects (ready.getD index 0)).precedes (objects (ready.getD selected 0)) then index else selected) 0)
        0)).rank ≤ (objects (ready.getD index 0)).rank := by
    induction count with
    | zero =>
        intro index bound
        obtain rfl : index = 0 := by omega
        exact le_refl _
    | succ count ih =>
        intro index bound
        rw [List.range'_1_concat, List.foldl_append, List.foldl_cons, List.foldl_nil]
        set selected := (List.range' 1 count).foldl (fun selected index =>
          if (objects (ready.getD index 0)).precedes (objects (ready.getD selected 0)) then index else selected) 0
        by_cases before : (objects (ready.getD (1 + count) 0)).precedes (objects (ready.getD selected 0)) = true
        · rw [if_pos before]
          have less := (precedes_iff _ _).mp before
          by_cases last : index = 1 + count
          · rw [last]
          · exact less.le.trans (ih index (by omega))
        · rw [if_neg before]
          by_cases last : index = 1 + count
          · rw [last]
            exact le_of_not_gt fun less => before ((precedes_iff _ _).mpr less)
          · exact ih index (by omega)
  obtain ⟨index, inside, rfl⟩ := List.mem_iff_getElem.mp listed
  have least := scan (ready.length - 1) index (by omega)
  rwa [List.getD_eq_getElem _ _ inside] at least

/-! ### What the scheduler has taken and dispatched -/

/-- The firmware since its boot, with the number of each capture, and with the numbers of the commands that the
scheduler has taken from the ready queue and dispatched, the last one first. -/
structure Watch where
  firmware : State := {}
  captures : Nat := 0
  accepted : Slot → Nat := fun _ => 0
  taken : List Nat := []
  dispatched : List Nat := []

namespace Watch

def note (w : Watch) (next : State) : Event → Watch
  | .boot _ => { firmware := next }
  | .thread .receiver portal =>
      match w.firmware.receiver with
      | .allocated slot =>
          if pending portal then
            { w with
              firmware := next
              captures := w.captures + 1
              accepted := Function.update w.accepted slot (w.captures + 1) }
          else { w with firmware := next }
      | .idle => { w with firmware := next }
  | .thread .scheduler _ =>
      match w.firmware.scheduler, w.firmware.readyQueue with
      | .collecting, slot :: _ =>
          if w.firmware.ready.length < commandPoolSize then
            { w with firmware := next, taken := w.accepted slot :: w.taken }
          else { w with firmware := next }
      | .choosing, _ => { w with firmware := next, dispatched := w.accepted (chosen w.firmware) :: w.dispatched }
      | _, _ => { w with firmware := next }
  | _ => { w with firmware := next }

def step : EventMachine Watch Event := fun w event => (Firmware.step w.firmware event).map fun next => w.note next event

end Watch

/-! ### Commands that wait for their dispatch -/

/-- The command has not left the ready array yet. -/
def Place.waits : Place → Bool
  | .captured | .judging | .ready | .collected => true
  | _ => false

def waiting (s : State) : List Slot := ((tokens s).filter (·.2.waits)).map Prod.fst

theorem waiting_eq (s : State) :
    waiting s = s.validationQueue ++ s.validator.tokens.map Prod.fst ++ s.readyQueue ++ s.ready := by
  have queue (slots : List Slot) {place : Place} (waits : place.waits = true) :
      ((slots.map (·, place)).filter (·.2.waits)).map Prod.fst = slots := by
    simp [List.filter_map, Function.comp_def, waits]
  have gone (slots : List Slot) {place : Place} (left : place.waits = false) :
      ((slots.map (·, place)).filter (·.2.waits)).map Prod.fst = [] := by
    simp [List.filter_map, Function.comp_def, left]
  have validator : (s.validator.tokens.filter (·.2.waits)).map Prod.fst = s.validator.tokens.map Prod.fst := by
    cases s.validator <;> rfl
  have scheduler : (s.scheduler.tokens.filter (·.2.waits)).map Prod.fst = [] := by cases s.scheduler <;> rfl
  have recovery : (s.recovery.tokens.filter (·.2.waits)).map Prod.fst = [] := by cases s.recovery <;> rfl
  have completer : (s.completer.tokens.filter (·.2.waits)).map Prod.fst = [] := by cases s.completer <;> rfl
  simp only [waiting, tokens, List.filter_append, List.map_append, validator, scheduler, recovery, completer,
    List.append_nil]
  rw [queue _ rfl, queue _ rfl, queue _ rfl, gone _ rfl, gone _ rfl, List.append_nil, List.append_nil]

theorem waiting_perm {s : State} {rest : List (Slot × Place)} {slot : Slot} {place : Place}
    (held : (tokens s).Perm ((slot, place) :: rest)) :
    (waiting s).Perm ((bif place.waits then [slot] else []) ++ (rest.filter (·.2.waits)).map Prod.fst) := by
  refine ((held.filter (·.2.waits)).map Prod.fst).trans ?_
  cases waits : place.waits <;> simp [waits]

/-- An object keeps its rank, and it does not come back to wait. -/
theorem Move.waits {now : Uptime} {verdicts : List Verdict} {place : Place} {target : Option Place}
    {command changed : CommandObject} {portal after : Mgmt.State} {script : List Activity}
    (move : Move now verdicts place command portal script target changed after) :
    changed.rank = command.rank ∧ ∀ next ∈ target, next.waits = true → place.waits = true := by
  cases move with
  | pass passes => cases passes <;> simp [Place.waits]
  | copy copies => cases copies <;> simp [Place.waits]
  | stall stalls => cases stalls <;> simp [Place.waits]
  | apply _ applied _ result accepted =>
      obtain ⟨-, rfl⟩ := applyResult_eq_some accepted
      exact ⟨rfl, by simp [Place.waits]⟩
  | _ => exact ⟨rfl, by simp [Place.waits]⟩

theorem live_of_waiting {s : State} {slot : Slot} (waits : slot ∈ waiting s) : ∃ place, (slot, place) ∈ tokens s := by
  obtain ⟨⟨_, place⟩, listed, rfl⟩ := List.mem_map.mp waits
  exact ⟨place, (List.mem_filter.mp listed).1⟩

/-- Some commands have stopped waiting, and the others have kept their rank. -/
def Leaves (s next : State) : Prop :=
  (∃ gone, (waiting s).Perm (gone ++ waiting next)) ∧
    ∀ slot ∈ waiting next, (next.objects slot).rank = (s.objects slot).rank

theorem Leaves.of_same {s next : State} (live : tokens next = tokens s)
    (objects : ∀ slot place, (slot, place) ∈ tokens s → next.objects slot = s.objects slot) : Leaves s next := by
  have same : waiting next = waiting s := by rw [waiting, waiting, live]
  refine ⟨⟨[], by rw [same]; exact List.Perm.refl _⟩, fun slot waits => ?_⟩
  rw [same] at waits
  obtain ⟨place, listed⟩ := live_of_waiting waits
  rw [objects slot place listed]

theorem Shift.leaves {s next : State} {portal after : Mgmt.State} {slot : Slot} {place : Place} {target : Option Place}
    (shift : Shift slot place target s portal next after) : Leaves s next := by
  obtain ⟨rest, held, moved⟩ := shift.moved
  obtain ⟨script, _, move⟩ := shift.move
  obtain ⟨rank, back⟩ := move.waits
  have before := waiting_perm held
  constructor
  · cases target with
    | none =>
        obtain ⟨terminalState, rfl, _⟩ := move.rung
        have after := (moved.filter fun token : Slot × Place => token.2.waits).map Prod.fst
        exact ⟨[], before.trans after.symm⟩
    | some target =>
        have after := waiting_perm moved
        cases stays : target.waits with
        | true =>
            rw [stays] at after
            rw [back target rfl stays] at before
            exact ⟨[], before.trans after.symm⟩
        | false =>
            rw [stays] at after
            exact ⟨_, before.trans (after.symm.append_left _)⟩
  · intro other _
    by_cases same : other = slot
    · rw [same, rank]
    · rw [shift.others other same]

/-- Apart from a capture, a step only takes commands away from those that wait. -/
theorem Turn.leaves {thread : Thread} {s next : State} {portal after : Mgmt.State} (sound : Sound s)
    (turn : Turn thread s portal next after) :
    (∃ slot, s.receiver = .allocated slot ∧ pending portal = true ∧
      next = { captured s slot portal with validationQueue := s.validationQueue ++ [slot] }) ∨ Leaves s next := by
  cases turn with
  | shift shift => exact .inr shift.leaves
  | @allocate slot rest idle free waits =>
      right
      refine Leaves.of_same (by rfl) fun other place live => ?_
      apply Function.update_of_ne
      rintro rfl
      exact sound.tidy.not_live (.inl (by rw [free]; exact List.mem_cons_self)) place live
  | release held gone => exact .inr (.of_same rfl fun _ _ _ => rfl)
  | @capture slot held waits => exact .inl ⟨slot, held, waits, rfl⟩
  | @retire slot terminalState ends =>
      right
      apply Leaves.of_same (tokens_retire ends)
      intro other place live
      apply objects_retire
      rintro rfl
      have ended : other ∈ s.completer.ended.map Prod.fst := by rw [ends]; exact List.mem_cons_self
      exact sound.tidy.not_live (.inr (.inr ended)) place live
  | @overflow slot _ handing full =>
      right
      have held : (tokens s).Perm ((slot, .handing) :: tokens { s with scheduler := .collecting }) :=
        holds_scheduler (by rw [handing]; rfl)
      exact ⟨⟨[], waiting_perm held⟩, fun _ _ => rfl⟩

/-! ### What each thread leaves alone -/

theorem ready_validatorStep {s next : State} (stepped : validatorStep s = some next) :
    next.ready = s.ready ∧ next.commandSequence = s.commandSequence := by
  unfold validatorStep at stepped
  split at stepped
  · split at stepped
    · obtain rfl := Option.some.inj stepped
      exact ⟨rfl, rfl⟩
    · cases stepped
  · obtain rfl := Option.some.inj stepped
    unfold validate State.putCompletion State.putReady
    dsimp only
    split_ifs <;> exact ⟨rfl, rfl⟩

theorem ready_putCompletion (s : State) (slot : Slot) :
    (s.putCompletion slot).ready = s.ready ∧ (s.putCompletion slot).commandSequence = s.commandSequence := by
  unfold State.putCompletion
  split_ifs <;> exact ⟨rfl, rfl⟩

theorem ready_applyOrEscalate (s : State) (slot : Slot) (result : Completion) :
    (applyOrEscalate s slot result).ready = s.ready ∧
      (applyOrEscalate s slot result).commandSequence = s.commandSequence := by
  unfold applyOrEscalate
  split <;> exact ⟨rfl, rfl⟩

theorem ready_requestAbort (s : State) (slot : Slot) (portal : Mgmt.State) :
    (requestAbort s slot portal).1.ready = s.ready ∧
      (requestAbort s slot portal).1.commandSequence = s.commandSequence := by
  unfold requestAbort
  split_ifs <;> exact ⟨rfl, rfl⟩

theorem ready_recoveryStep {s next : State} {portal after : Mgmt.State}
    (stepped : recoveryStep s portal = some (next, after)) :
    next.ready = s.ready ∧ next.commandSequence = s.commandSequence := by
  unfold recoveryStep at stepped
  cases pc : s.recovery with
  | idle =>
      simp only [pc] at stepped
      split at stepped
      · obtain ⟨rfl, rfl⟩ := Prod.mk.inj (Option.some.inj stepped)
        exact ⟨rfl, rfl⟩
      · cases stepped
  | applying slot result =>
      simp only [pc, Option.some.injEq, Prod.mk.injEq] at stepped
      rw [← stepped.1]
      exact ready_applyOrEscalate s slot result
  | requesting slot =>
      simp only [pc, Option.some.injEq] at stepped
      have same : next = (requestAbort s slot portal).1 := by rw [stepped]
      rw [same]
      exact ready_requestAbort s slot portal
  | ending slot =>
      simp only [pc, Option.some.injEq, Prod.mk.injEq] at stepped
      rw [← stepped.1]
      exact ready_putCompletion _ slot
  | aborting slot | ringing slot =>
      simp only [pc, Option.some.injEq, Prod.mk.injEq] at stepped
      rw [← stepped.1]
      exact ⟨rfl, rfl⟩
  | _ =>
      simp only [pc] at stepped
      split_ifs at stepped <;>
        (obtain ⟨rfl, rfl⟩ := Prod.mk.inj (Option.some.inj stepped)
         exact ⟨rfl, rfl⟩)

theorem ready_completerStep {s next : State} {portal after : Mgmt.State}
    (stepped : completerStep s portal = some (next, after)) :
    next.ready = s.ready ∧ next.commandSequence = s.commandSequence := by
  unfold completerStep at stepped
  cases pc : s.completer with
  | idle =>
      simp only [pc] at stepped
      split at stepped
      · obtain ⟨rfl, rfl⟩ := Prod.mk.inj (Option.some.inj stepped)
        exact ⟨rfl, rfl⟩
      · cases stepped
  | publishing slot terminalState deadlineMs =>
      simp only [pc] at stepped
      split_ifs at stepped <;>
        (obtain ⟨rfl, rfl⟩ := Prod.mk.inj (Option.some.inj stepped)
         exact ⟨rfl, rfl⟩)
  | parked slot => simp [pc] at stepped
  | _ =>
      simp only [pc, Option.some.injEq, Prod.mk.injEq] at stepped
      rw [← stepped.1]
      exact ⟨rfl, rfl⟩

theorem ready_receiverStep {s next : State} {portal after : Mgmt.State}
    (stepped : receiverStep s portal = some (next, after)) : next.ready = s.ready := by
  unfold receiverStep at stepped
  cases pc : s.receiver with
  | idle =>
      simp only [pc] at stepped
      split at stepped
      · obtain ⟨_, taken⟩ := Option.ite_none_right_eq_some.mp stepped
        obtain ⟨rfl, rfl⟩ := Prod.mk.inj (Option.some.inj taken)
        rfl
      · cases stepped
  | allocated slot =>
      simp only [pc] at stepped
      split at stepped
      · obtain ⟨rfl, rfl⟩ := Prod.mk.inj (Option.some.inj stepped)
        unfold State.putValidation
        split <;> rfl
      · obtain ⟨rfl, rfl⟩ := Prod.mk.inj (Option.some.inj stepped)
        rfl

/-- Only a capture advances the sequence. -/
theorem sequence_receiverStep {s next : State} {portal after : Mgmt.State}
    (stepped : receiverStep s portal = some (next, after))
    (quiet : ∀ slot, s.receiver = .allocated slot → pending portal = false) :
    next.commandSequence = s.commandSequence := by
  unfold receiverStep at stepped
  cases pc : s.receiver with
  | idle =>
      simp only [pc] at stepped
      split at stepped
      · obtain ⟨_, taken⟩ := Option.ite_none_right_eq_some.mp stepped
        obtain ⟨rfl, rfl⟩ := Prod.mk.inj (Option.some.inj taken)
        rfl
      · cases stepped
  | allocated slot =>
      simp only [pc, quiet slot pc, Bool.false_eq_true, if_false] at stepped
      obtain ⟨rfl, rfl⟩ := Prod.mk.inj (Option.some.inj stepped)
      rfl

theorem ready_dispatch (s : State) (slot : Slot) :
    (dispatch s slot).ready = s.ready ∧ (dispatch s slot).commandSequence = s.commandSequence := by
  unfold dispatch
  dsimp only
  split_ifs <;> exact ⟨rfl, rfl⟩

/-- What the scheduler does to its array. -/
inductive Arrays (s next : State) : Prop
  | take (slot : Slot) (rest : List Slot) (pc : s.scheduler = .collecting) (queue : s.readyQueue = slot :: rest)
      (room : s.ready.length < commandPoolSize) (array : next.ready = s.ready ++ [slot])
  | choose (pc : s.scheduler = .choosing)
      (same : next = { s with
        ready := swapRemove s.ready (schedulerSelect s.objects s.ready), scheduler := .selected (chosen s) })
  | keep (collecting : s.scheduler = .collecting → s.readyQueue ≠ [] → ¬s.ready.length < commandPoolSize)
      (choosing : s.scheduler ≠ .choosing) (array : next.ready = s.ready)

theorem arrays_schedulerStep {s next : State} {portal after : Mgmt.State}
    (stepped : schedulerStep s portal = some (next, after)) :
    Arrays s next ∧ next.commandSequence = s.commandSequence := by
  unfold schedulerStep at stepped
  cases pc : s.scheduler with
  | collecting =>
      cases queue : s.readyQueue with
      | cons first rest =>
          simp only [pc, queue] at stepped
          split_ifs at stepped with room
          · obtain ⟨rfl, rfl⟩ := Prod.mk.inj (Option.some.inj stepped)
            exact ⟨.take first rest pc queue room rfl, rfl⟩
          · obtain ⟨rfl, rfl⟩ := Prod.mk.inj (Option.some.inj stepped)
            exact ⟨.keep (fun _ _ => room) (by simp [pc]) rfl, rfl⟩
      | nil =>
          simp only [pc, queue] at stepped
          split_ifs at stepped with empty
          obtain ⟨rfl, rfl⟩ := Prod.mk.inj (Option.some.inj stepped)
          exact ⟨.keep (fun _ filled => absurd queue filled) (by simp [pc]) rfl, rfl⟩
  | choosing =>
      simp only [pc, Option.some.injEq, Prod.mk.injEq] at stepped
      obtain ⟨rfl, rfl⟩ := stepped
      exact ⟨.choose pc rfl, rfl⟩
  | selected held =>
      simp only [pc, Option.some.injEq, Prod.mk.injEq] at stepped
      obtain ⟨rfl, rfl⟩ := stepped
      obtain ⟨array, sequence⟩ := ready_dispatch s held
      exact ⟨.keep (by simp [pc]) (by simp [pc]) array, sequence⟩
  | publishing held deadlineMs =>
      simp only [pc] at stepped
      split_ifs at stepped <;>
        (obtain ⟨rfl, rfl⟩ := Prod.mk.inj (Option.some.inj stepped)
         exact ⟨.keep (by simp [pc]) (by simp [pc]) rfl, rfl⟩)
  | ringing held =>
      simp only [pc, Option.some.injEq, Prod.mk.injEq] at stepped
      obtain ⟨rfl, rfl⟩ := stepped
      exact ⟨.keep (by simp [pc]) (by simp [pc]) rfl, rfl⟩
  | handing held =>
      simp only [pc, Option.some.injEq, Prod.mk.injEq] at stepped
      obtain ⟨rfl, rfl⟩ := stepped
      unfold State.putRunning
      split_ifs <;> exact ⟨.keep (by simp [pc]) (by simp [pc]) rfl, rfl⟩
  | finishing held =>
      simp only [pc, Option.some.injEq, Prod.mk.injEq] at stepped
      obtain ⟨rfl, rfl⟩ := stepped
      obtain ⟨array, sequence⟩ := ready_putCompletion { s with scheduler := .collecting } held
      exact ⟨.keep (by simp [pc]) (by simp [pc]) array, sequence⟩
  | parked held => simp [pc] at stepped

/-- This is everything that a step can do to the numbers and to the array. -/
inductive Watch.Turned (w : Watch) : Event → Watch → Prop
  | boot (portal : Mgmt.State) : Turned w (.boot portal) { firmware := Firmware.boot w.firmware portal }
  | capture {event : Event} {slot : Slot} {portal : Mgmt.State} {next : State}
      (held : w.firmware.receiver = .allocated slot)
      (same : next = { captured w.firmware slot portal with
        validationQueue := w.firmware.validationQueue ++ [slot] }) :
      Turned w event { w with
        firmware := next
        captures := w.captures + 1
        accepted := Function.update w.accepted slot (w.captures + 1) }
  | take {event : Event} {slot : Slot} {next : State} (leaves : Leaves w.firmware next)
      (sequence : next.commandSequence = w.firmware.commandSequence) (array : next.ready = w.firmware.ready ++ [slot]) :
      Turned w event { w with firmware := next, taken := w.accepted slot :: w.taken }
  | choose {event : Event} {next : State} (pc : w.firmware.scheduler = .choosing)
      (same : next = { w.firmware with
        ready := swapRemove w.firmware.ready (schedulerSelect w.firmware.objects w.firmware.ready)
        scheduler := .selected (chosen w.firmware) }) :
      Turned w event { w with firmware := next, dispatched := w.accepted (chosen w.firmware) :: w.dispatched }
  | keep {event : Event} {next : State} (leaves : Leaves w.firmware next)
      (sequence : next.commandSequence = w.firmware.commandSequence) (array : next.ready = w.firmware.ready) :
      Turned w event { w with firmware := next }

namespace Watch
variable {w : Watch} {next : State}

theorem turned_receiver (sound : Sound w.firmware) {portal after : Mgmt.State}
    (ran : receiverStep w.firmware portal = some (next, after)) :
    Turned w (.thread .receiver portal) (w.note next (.thread .receiver portal)) := by
  have quiet (idle : ∀ slot, w.firmware.receiver = .allocated slot → pending portal = false) :
      Turned w (.thread .receiver portal) { w with firmware := next } := by
    obtain ⟨slot, held, waits, _⟩ | leaves := (turn_receiverStep sound.tidy ran).leaves sound
    · exact absurd waits (by rw [idle slot held]; exact Bool.false_ne_true)
    · exact .keep leaves (sequence_receiverStep ran idle) (ready_receiverStep ran)
  cases pc : w.firmware.receiver with
  | idle =>
      simp only [note, pc]
      exact quiet fun slot held => by simp [pc] at held
  | allocated slot =>
      cases waits : pending portal with
      | false =>
          simp only [note, pc, waits, Bool.false_eq_true, if_false]
          exact quiet fun _ _ => waits
      | true =>
          simp only [note, pc, waits, if_true]
          rw [receiverStep_captured sound.tidy pc waits] at ran
          exact .capture pc (Prod.mk.inj (Option.some.inj ran)).1.symm

/-- A capture would have advanced the sequence. -/
theorem leaves_of_sequence {thread : Thread} {s : State} {portal after : Mgmt.State} (sound : Sound s)
    (turn : Turn thread s portal next after) (sequence : next.commandSequence = s.commandSequence) :
    Leaves s next := by
  obtain ⟨slot, held, waits, same⟩ | leaves := turn.leaves sound
  · rw [same] at sequence
    have bump : s.commandSequence + 1 = s.commandSequence := sequence
    exact absurd bump (by bv_omega)
  · exact leaves

theorem turned_scheduler (sound : Sound w.firmware) {portal after : Mgmt.State}
    (ran : schedulerStep w.firmware portal = some (next, after)) :
    Turned w (.thread .scheduler portal) (w.note next (.thread .scheduler portal)) := by
  obtain ⟨arrays, sequence⟩ := arrays_schedulerStep ran
  have leaves := leaves_of_sequence sound (turn_schedulerStep sound.tidy ran) sequence
  cases arrays with
  | take slot rest pc queue room array =>
      simp only [note, pc, queue, room, if_true]
      exact .take leaves sequence array
  | choose pc same =>
      simp only [note, pc]
      exact .choose pc same
  | keep collecting choosing array =>
      have noted : w.note next (.thread .scheduler portal) = { w with firmware := next } := by
        simp only [note]
        split
        · next slot rest pc queue => rw [if_neg (collecting pc (by rw [queue]; exact List.cons_ne_nil _ _))]
        · next pc => exact absurd pc choosing
        · rfl
      rw [noted]
      exact .keep leaves sequence array

theorem turned_step (sound : Sound w.firmware) {event : Event} {after : Watch}
    (stepped : Watch.step w event = some after) : Turned w event after := by
  obtain ⟨next, ran, rfl⟩ := Option.map_eq_some_iff.mp stepped
  cases event with
  | boot portal =>
      obtain rfl := Option.some.inj ran
      exact .boot portal
  | uptime nowMs =>
      obtain ⟨-, rfl⟩ := EventMachine.guarded ran
      exact .keep (.of_same rfl fun _ _ _ => rfl) rfl rfl
  | thread thread portal =>
      obtain ⟨⟨_, answer⟩, acted, rfl⟩ := Option.map_eq_some_iff.mp ran
      have turn := turn_threadStep sound.tidy acted
      cases thread with
      | receiver => exact turned_receiver sound acted
      | scheduler => exact turned_scheduler sound acted
      | validator =>
          obtain ⟨validated, judged, same⟩ := Option.map_eq_some_iff.mp acted
          obtain ⟨rfl, rfl⟩ := Prod.mk.inj same
          obtain ⟨array, sequence⟩ := ready_validatorStep judged
          exact .keep (leaves_of_sequence sound turn sequence) sequence array
      | recovery =>
          obtain ⟨array, sequence⟩ := ready_recoveryStep acted
          exact .keep (leaves_of_sequence sound turn sequence) sequence array
      | completer =>
          obtain ⟨array, sequence⟩ := ready_completerStep acted
          exact .keep (leaves_of_sequence sound turn sequence) sequence array

end Watch

/-! ### The numbers of the commands -/

/-- Every command that waits or was dispatched has its own number, in the order of the captures. -/
structure Watch.Numbered (w : Watch) : Prop where
  sound : Sound w.firmware
  sequence : w.firmware.commandSequence.toNat = w.captures
  number : ∀ slot ∈ waiting w.firmware, (w.firmware.objects slot).sequence.toNat = w.accepted slot
  single : (w.dispatched ++ (waiting w.firmware).map w.accepted).Nodup
  bounded : ∀ number ∈ w.dispatched ++ (waiting w.firmware).map w.accepted, number ≤ w.captures
  taken : w.taken.Perm (w.dispatched ++ w.firmware.ready.map w.accepted)

namespace Watch.Numbered
variable {w : Watch} {next : State}

theorem start (firmware : State) (sound : Sound firmware) (sequence : firmware.commandSequence = 0)
    (empty : waiting firmware = []) : Numbered { firmware } where
  sound := sound
  sequence := by rw [sequence]; rfl
  number slot waits := by rw [empty] at waits; cases waits
  single := by rw [empty]; exact List.nodup_nil
  bounded number listed := by rw [empty] at listed; cases listed
  taken := by
    have none : firmware.ready = [] := by
      rw [waiting_eq] at empty
      exact (List.append_eq_nil_iff.mp empty).2
    rw [none]
    exact List.Perm.refl _

/-- A step that lets some commands leave without a dispatch. -/
theorem leave (numbered : w.Numbered) (sound : Sound next) (leaves : Leaves w.firmware next)
    (sequence : next.commandSequence = w.firmware.commandSequence) {taken : List Nat}
    (array : taken.Perm (w.dispatched ++ next.ready.map w.accepted)) :
    Numbered { w with firmware := next, taken } := by
  obtain ⟨⟨gone, perm⟩, ranks⟩ := leaves
  have listed : (w.dispatched ++ (waiting w.firmware).map w.accepted).Perm
      (gone.map w.accepted ++ (w.dispatched ++ (waiting next).map w.accepted)) := by
    refine ((perm.map w.accepted).append_left _).trans ?_
    rw [List.map_append, ← List.append_assoc, ← List.append_assoc]
    exact List.perm_append_comm.append_right _
  have among {slot : Slot} (waits : slot ∈ waiting next) : slot ∈ waiting w.firmware :=
    perm.mem_iff.mpr (List.mem_append_right _ waits)
  refine ⟨sound, ?_, fun slot waits => ?_, ?_, fun number waits => ?_, array⟩
  · rw [sequence, numbered.sequence]
  · have same : (next.objects slot).sequence.toNat = (w.firmware.objects slot).sequence.toNat :=
      congrArg (fun rank => (ofLex rank).2) (ranks slot waits)
    rw [same, numbered.number slot (among waits)]
  · exact (List.nodup_append.mp (listed.nodup_iff.mp numbered.single)).2.1
  · exact numbered.bounded number (listed.mem_iff.mpr (List.mem_append_right _ waits))

theorem chosen_perm (sound : Sound w.firmware) (pc : w.firmware.scheduler = .choosing) :
    w.firmware.ready.Perm (chosen w.firmware ::
      swapRemove w.firmware.ready (schedulerSelect w.firmware.objects w.firmware.ready)) :=
  swapRemove_perm (schedulerSelect_lt w.firmware.objects (sound.tidy.ripe pc))

/-- The chosen command moves from the waiting ones to the dispatched ones. -/
theorem choose (numbered : w.Numbered) (sound : Sound next) (pc : w.firmware.scheduler = .choosing)
    (same : next = { w.firmware with
      ready := swapRemove w.firmware.ready (schedulerSelect w.firmware.objects w.firmware.ready)
      scheduler := .selected (chosen w.firmware) }) :
    Numbered { w with firmware := next, dispatched := w.accepted (chosen w.firmware) :: w.dispatched } := by
  have array := chosen_perm numbered.sound pc
  have perm : (waiting w.firmware).Perm (chosen w.firmware :: waiting next) := by
    rw [waiting_eq, waiting_eq, same]
    refine (array.append_left _).trans ?_
    exact List.perm_middle
  have listed : (w.dispatched ++ (waiting w.firmware).map w.accepted).Perm
      (w.accepted (chosen w.firmware) :: w.dispatched ++ (waiting next).map w.accepted) :=
    ((perm.map w.accepted).append_left _).trans List.perm_middle
  refine ⟨sound, ?_, fun slot waits => ?_, ?_, fun number waits => ?_, ?_⟩
  · rw [same]
    exact numbered.sequence
  · have known := numbered.number slot (perm.mem_iff.mpr (List.mem_cons_of_mem _ waits))
    rw [same]
    exact known
  · exact listed.nodup_iff.mp numbered.single
  · exact numbered.bounded number (listed.mem_iff.mpr waits)
  · rw [same]
    exact numbered.taken.trans (((array.map w.accepted).append_left _).trans List.perm_middle)

/-- A captured command gets the next number. -/
theorem capture (numbered : w.Numbered) (sound : Sound next) {slot : Slot} {portal : Mgmt.State}
    (held : w.firmware.receiver = .allocated slot) (few : w.captures + 1 < 2 ^ 32)
    (same : next = { captured w.firmware slot portal with
      validationQueue := w.firmware.validationQueue ++ [slot] }) :
    Numbered { w with
      firmware := next
      captures := w.captures + 1
      accepted := Function.update w.accepted slot (w.captures + 1) } := by
  set accepted := Function.update w.accepted slot (w.captures + 1) with acceptedDef
  have own : accepted slot = w.captures + 1 := Function.update_self ..
  have other {waits : Slot} (listed : waits ∈ waiting w.firmware) : waits ≠ slot := by
    rintro rfl
    obtain ⟨place, live⟩ := live_of_waiting listed
    exact numbered.sound.tidy.not_live (.inr (.inl (by rw [held]; exact List.mem_cons_self))) place live
  have kept {slots : List Slot} (among : ∀ waits ∈ slots, waits ∈ waiting w.firmware) :
      slots.map accepted = slots.map w.accepted := by
    apply List.map_congr_left
    intro waits listed
    exact Function.update_of_ne (other (among waits listed)) _ _
  have perm : (waiting next).Perm (slot :: waiting w.firmware) := by
    rw [same]
    exact waiting_perm (tokens_captured w.firmware slot portal)
  have listed : (w.dispatched ++ (waiting next).map accepted).Perm
      ((w.captures + 1) :: (w.dispatched ++ (waiting w.firmware).map w.accepted)) := by
    refine ((perm.map _).append_left _).trans ?_
    rw [List.map_cons, own, kept fun _ => id]
    exact List.perm_middle
  have sequence : (w.firmware.commandSequence + 1).toNat = w.captures + 1 := by
    rw [BitVec.toNat_add, numbered.sequence]
    exact Nat.mod_eq_of_lt few
  refine ⟨sound, ?_, fun waits among => ?_, ?_, fun number among => ?_, ?_⟩
  · rw [same]
    exact sequence
  · change (next.objects waits).sequence.toNat = accepted waits
    obtain here | before := List.mem_cons.mp (perm.mem_iff.mp among)
    · have object : next.objects slot = ((received portal).capture w.firmware.commandGeneration
          (w.firmware.commandSequence + 1) w.firmware.uptimeMs).2 := by
        rw [same]
        exact Function.update_self ..
      rw [here, object, own]
      exact sequence
    · have object : next.objects waits = w.firmware.objects waits := by
        rw [same]
        exact objects_captured _ _ (other before)
      rw [object, acceptedDef, Function.update_of_ne (other before), numbered.number waits before]
  · rw [listed.nodup_iff, List.nodup_cons]
    refine ⟨fun among => ?_, numbered.single⟩
    have bound := numbered.bounded _ among
    omega
  · obtain rfl | before := List.mem_cons.mp (listed.mem_iff.mp among)
    · exact le_refl _
    · exact Nat.le_succ_of_le (numbered.bounded number before)
  · have array : next.ready = w.firmware.ready := by rw [same]; rfl
    have among : ∀ waits ∈ w.firmware.ready, waits ∈ waiting w.firmware := by
      intro waits listed
      rw [waiting_eq]
      exact List.mem_append_right _ listed
    rw [array, kept among]
    exact numbered.taken

/-- Every step keeps the numbers, as long as the sequence has not wrapped around. -/
theorem step (numbered : w.Numbered) {event : Event} {after : Watch} (stepped : Watch.step w event = some after)
    (few : after.captures < 2 ^ 32) : after.Numbered := by
  have sound : Sound after.firmware := by
    obtain ⟨next, ran, rfl⟩ := Option.map_eq_some_iff.mp stepped
    have same : (w.note next event).firmware = next := by
      unfold Watch.note
      split <;> (try split) <;> (try split_ifs) <;> rfl
    rw [same]
    exact numbered.sound.step ran
  cases turned_step numbered.sound stepped with
  | boot portal => exact start _ sound rfl rfl
  | capture held same => exact numbered.capture sound held few same
  | take leaves sequence array =>
      apply numbered.leave sound leaves sequence
      rw [array, List.map_append, ← List.append_assoc]
      exact (numbered.taken.cons _).trans (List.perm_append_singleton _ _).symm
  | choose pc same => exact numbered.choose sound pc same
  | keep leaves sequence array => exact numbered.leave sound leaves sequence (by rw [array]; exact numbered.taken)

theorem mem_waiting_of_ready {s : State} {slot : Slot} (listed : slot ∈ s.ready) : slot ∈ waiting s := by
  rw [waiting_eq]
  exact List.mem_append_right _ listed

end Watch.Numbered

/-! ### The order of the dispatches -/

namespace Watch

/-- Commands are due by deadline, and by acceptance among those with one deadline. -/
def due (w : Watch) (slot : Slot) : Nat ×ₗ Nat := toLex ((w.firmware.objects slot).deadlineMs, w.accepted slot)

theorem Numbered.due_eq {w : Watch} (numbered : w.Numbered) {slot : Slot} (waits : slot ∈ waiting w.firmware) :
    w.due slot = (w.firmware.objects slot).rank := by
  rw [due, CommandObject.rank, numbered.number slot waits]

/-- A step dispatches the chosen command, or leaves the array and its commands as they are. -/
inductive Effect (w after : Watch) : Prop
  | choose (pc : w.firmware.scheduler = .choosing)
      (dispatched : after.dispatched = w.accepted (chosen w.firmware) :: w.dispatched)
      (array : w.firmware.ready.Perm (chosen w.firmware :: after.firmware.ready))
      (due : ∀ slot, after.due slot = w.due slot)
  | keep (dispatched : after.dispatched = w.dispatched)
      (array : ∀ slot ∈ w.firmware.ready, slot ∈ after.firmware.ready ∧ after.due slot = w.due slot)

/-- This is what one iteration of the scheduler and the whole log have to satisfy. -/
structure EarliestFirst (w : Watch) : Prop where
  least : w.firmware.scheduler = .choosing → chosen w.firmware ∈ w.firmware.ready ∧
    ∀ slot ∈ w.firmware.ready, w.due (chosen w.firmware) ≤ w.due slot
  others : ∀ portal next after, w.firmware.scheduler = .choosing →
    schedulerStep w.firmware portal = some (next, after) →
      next.scheduler = .selected (chosen w.firmware) ∧ w.firmware.ready.Perm (chosen w.firmware :: next.ready)
  kept : w.taken.Perm (w.dispatched ++ w.firmware.ready.map w.accepted)
  once : w.taken.Nodup

theorem Numbered.earliestFirst {w : Watch} (numbered : w.Numbered) : w.EarliestFirst := by
  refine ⟨fun pc => ?_, fun portal next after pc stepped => ?_, numbered.taken, ?_⟩
  · have listed : chosen w.firmware ∈ w.firmware.ready :=
      (chosen_perm numbered.sound pc).mem_iff.mpr List.mem_cons_self
    refine ⟨listed, fun slot among => ?_⟩
    rw [numbered.due_eq (mem_waiting_of_ready listed), numbered.due_eq (mem_waiting_of_ready among)]
    exact schedulerSelect_least w.firmware.objects w.firmware.ready among
  · simp only [schedulerStep, pc, Option.some.injEq, Prod.mk.injEq] at stepped
    rw [← stepped.1]
    exact ⟨rfl, chosen_perm numbered.sound pc⟩
  · rw [numbered.taken.nodup_iff]
    have single := numbered.single
    rw [waiting_eq, List.map_append] at single
    have order : (w.dispatched ++ ((w.firmware.validationQueue ++ w.firmware.validator.tokens.map Prod.fst ++
        w.firmware.readyQueue).map w.accepted ++ w.firmware.ready.map w.accepted)).Perm
        ((w.firmware.validationQueue ++ w.firmware.validator.tokens.map Prod.fst ++
          w.firmware.readyQueue).map w.accepted ++ (w.dispatched ++ w.firmware.ready.map w.accepted)) := by
      rw [← List.append_assoc, ← List.append_assoc]
      exact List.perm_append_comm.append_right _
    exact (List.nodup_append.mp (order.nodup_iff.mp single)).2.1

/-- A step other than a boot has one of these effects. -/
theorem Numbered.effect {w after : Watch} (numbered : w.Numbered) {event : Event}
    (stepped : Watch.step w event = some after) (running : ∀ portal, event ≠ .boot portal) : Effect w after := by
  have later {next : State} (leaves : Leaves w.firmware next) {slot : Slot} (listed : slot ∈ next.ready)
      {taken : List Nat} : due { w with firmware := next, taken } slot = w.due slot := by
    have rank := leaves.2 slot (mem_waiting_of_ready listed)
    have deadline : (next.objects slot).deadlineMs = (w.firmware.objects slot).deadlineMs :=
      congrArg (fun rank => (ofLex rank).1) rank
    rw [due, due, deadline]
  cases turned_step numbered.sound stepped with
  | boot portal => exact absurd rfl (running portal)
  | @capture _ slot portal next held same =>
      refine .keep rfl fun other listed => ?_
      have different : other ≠ slot := by
        rintro rfl
        obtain ⟨place, live⟩ := live_of_waiting (mem_waiting_of_ready listed)
        exact numbered.sound.tidy.not_live (.inr (.inl (by rw [held]; exact List.mem_cons_self))) place live
      have array : next.ready = w.firmware.ready := by rw [same]; rfl
      have object : next.objects other = w.firmware.objects other := by
        rw [same]
        exact objects_captured _ _ different
      refine ⟨by rw [array]; exact listed, ?_⟩
      simp only [due, object, Function.update_of_ne different]
  | @take _ last next leaves sequence array =>
      refine .keep rfl fun slot listed => ?_
      have still := List.mem_append_left [last] listed
      rw [← array] at still
      exact ⟨still, later leaves still⟩
  | choose pc same =>
      refine .choose pc rfl ?_ fun slot => ?_
      · rw [same]
        exact chosen_perm numbered.sound pc
      · rw [due, due, same]
  | keep leaves sequence array =>
      refine .keep rfl fun slot listed => ?_
      have still := listed
      rw [← array] at still
      exact ⟨still, later leaves still⟩

/-- The second number is not dispatched before the first one. -/
inductive Precedes (first second : Nat) (w : Watch) : Prop
  | both {one two : Slot} (oneListed : one ∈ w.firmware.ready) (twoListed : two ∈ w.firmware.ready)
      (oneNumber : w.accepted one = first) (twoNumber : w.accepted two = second) (earlier : w.due one < w.due two)
  | left {two : Slot} (gone : first ∈ w.dispatched) (twoListed : two ∈ w.firmware.ready)
      (twoNumber : w.accepted two = second)
  | done (newer older : List Nat) (log : w.dispatched = newer ++ second :: older) (gone : first ∈ older)

theorem accepted_of_due {w after : Watch} {slot : Slot} (same : after.due slot = w.due slot) :
    after.accepted slot = w.accepted slot :=
  congrArg (fun due => (ofLex due).2) same

/-- One step keeps the order of two commands. -/
theorem Precedes.step {first second : Nat} {w after : Watch} (numbered : w.Numbered) (precedes : Precedes first second w)
    (effect : Effect w after) : Precedes first second after := by
  cases effect with
  | keep dispatched array =>
      cases precedes with
      | both oneListed twoListed oneNumber twoNumber earlier =>
          obtain ⟨oneStays, oneDue⟩ := array _ oneListed
          obtain ⟨twoStays, twoDue⟩ := array _ twoListed
          refine .both oneStays twoStays ?_ ?_ (by rw [oneDue, twoDue]; exact earlier)
          · rw [accepted_of_due oneDue, oneNumber]
          · rw [accepted_of_due twoDue, twoNumber]
      | left gone twoListed twoNumber =>
          obtain ⟨twoStays, twoDue⟩ := array _ twoListed
          exact .left (by rw [dispatched]; exact gone) twoStays (by rw [accepted_of_due twoDue, twoNumber])
      | done newer older log gone => exact .done newer older (dispatched.trans log) gone
  | choose pc dispatched array due =>
      have least := (numbered.earliestFirst.least pc).2
      have stays {slot : Slot} (listed : slot ∈ w.firmware.ready) (other : slot ≠ chosen w.firmware) :
          slot ∈ after.firmware.ready := (List.mem_cons.mp (array.mem_iff.mp listed)).resolve_left other
      cases precedes with
      | @both one two oneListed twoListed oneNumber twoNumber earlier =>
          -- The later command cannot be the one that is chosen.
          have twoStays : two ∈ after.firmware.ready := by
            apply stays twoListed
            rintro rfl
            exact absurd (least one oneListed) (not_le_of_gt earlier)
          have twoAfter : after.accepted two = second := by rw [accepted_of_due (due two), twoNumber]
          by_cases now : one = chosen w.firmware
          · refine .left ?_ twoStays twoAfter
            rw [dispatched, ← now, oneNumber]
            exact List.mem_cons_self
          · refine .both (stays oneListed now) twoStays ?_ twoAfter (by rw [due, due]; exact earlier)
            rw [accepted_of_due (due one), oneNumber]
      | @left two gone twoListed twoNumber =>
          by_cases now : two = chosen w.firmware
          · refine .done [] w.dispatched ?_ gone
            rw [dispatched, ← now, twoNumber]
            rfl
          · refine .left ?_ (stays twoListed now) (by rw [accepted_of_due (due two), twoNumber])
            rw [dispatched]
            exact List.mem_cons_of_mem _ gone
      | done newer older log gone =>
          refine .done (w.accepted (chosen w.firmware) :: newer) older ?_ gone
          rw [dispatched, log]
          rfl

/-- A number in the array has not been dispatched yet. -/
theorem Numbered.not_dispatched {w : Watch} (numbered : w.Numbered) {slot : Slot} (listed : slot ∈ w.firmware.ready) :
    w.accepted slot ∉ w.dispatched := by
  intro gone
  have apart := (List.nodup_append.mp numbered.single).2.2
  exact apart _ gone _ (List.mem_map_of_mem (mem_waiting_of_ready listed)) rfl

theorem Precedes.run {first second : Nat} {w final : Watch} {events : List Event} (numbered : w.Numbered)
    (precedes : Precedes first second w) (few : EventMachine.Always Watch.step (fun w => w.captures < 2 ^ 32) w events)
    (running : ∀ event ∈ events, ∀ portal, event ≠ .boot portal) (ran : EventMachine.run Watch.step w events = some final)
    (gone : second ∈ final.dispatched) :
    ∃ newer older, final.dispatched = newer ++ second :: older ∧ first ∈ older := by
  induction events generalizing w with
  | nil =>
      obtain rfl := Option.some.inj ran
      cases precedes with
      | both _ twoListed _ twoNumber _ =>
          rw [← twoNumber] at gone
          exact absurd gone (numbered.not_dispatched twoListed)
      | left _ twoListed twoNumber =>
          rw [← twoNumber] at gone
          exact absurd gone (numbered.not_dispatched twoListed)
      | done newer older log gone => exact ⟨newer, older, log, gone⟩
  | cons event rest ih =>
      obtain ⟨next, stepped, continued⟩ := EventMachine.run_cons_some ran
      have later := few.2 next stepped
      have effect := numbered.effect stepped (running event List.mem_cons_self)
      apply ih (numbered.step stepped later.start) (precedes.step numbered effect) later _ continued
      intro other listed
      exact running other (List.mem_cons_of_mem _ listed)

theorem numbered_always {events : List Event} {w : Watch} (numbered : w.Numbered)
    (few : EventMachine.Always Watch.step (fun w => w.captures < 2 ^ 32) w events) :
    EventMachine.Always Watch.step Numbered w events := by
  induction events generalizing w with
  | nil => exact numbered
  | cons event rest ih =>
      refine ⟨numbered, fun next stepped => ?_⟩
      have later := few.2 next stepped
      exact ih (numbered.step stepped later.start) later

end Watch

/-- As long as the sequence has not wrapped around, each iteration dispatches the command of the array that is due
first and keeps the others, no command that was taken is lost or dispatched twice, and two commands that have been in
the array together are dispatched in the order in which they are due. -/
theorem earliest_deadline_first (events : List Event)
    (few : EventMachine.Always Watch.step (fun w => w.captures < 2 ^ 32) {} events) :
    EventMachine.Always Watch.step Watch.EarliestFirst {} events ∧
      ∀ before after w final, events = before ++ after → EventMachine.run Watch.step {} before = some w →
        EventMachine.run Watch.step w after = some final → (∀ event ∈ after, ∀ portal, event ≠ .boot portal) →
        ∀ first ∈ w.firmware.ready, ∀ second ∈ w.firmware.ready, w.due first < w.due second →
          w.accepted second ∈ final.dispatched →
          ∃ newer older, final.dispatched = newer ++ w.accepted second :: older ∧ w.accepted first ∈ older := by
  have start : Watch.Numbered {} := .start {} (sound_of_start [] nofun 0 []) rfl rfl
  have numbered := Watch.numbered_always start few
  refine ⟨numbered.mono fun w numbered => numbered.earliestFirst, ?_⟩
  rintro before after w final rfl ran continued running first firstListed second secondListed earlier gone
  have here := (numbered.rest ran).start
  exact Watch.Precedes.run here (.both firstListed secondListed rfl rfl earlier) (few.rest ran) running continued gone

/-- Two captures, their checks, and the first choice between them. -/
def twoCommands : List Event :=
  List.replicate 4 (.thread .receiver busyPortal) ++ List.replicate 4 (.thread .validator busyPortal) ++
    List.replicate 4 (.thread .scheduler busyPortal)

theorem two_commands_in_order :
    EventMachine.Always Watch.step (fun w => w.captures < 2 ^ 32) {} twoCommands ∧
      EventMachine.Always Watch.step Watch.EarliestFirst {} twoCommands ∧
      (EventMachine.run Watch.step {} twoCommands).map (fun w => (w.taken, w.dispatched)) = some ([2, 1], [1]) := by
  have few : EventMachine.Always Watch.step (fun w => w.captures < 2 ^ 32) {} twoCommands := by decide +kernel
  exact ⟨few, (earliest_deadline_first twoCommands few).1, by decide +kernel⟩

end VamsSoc.Firmware
