import Mathlib.Logic.Relation
import Mathlib.Tactic

namespace VamsSoc.Library

/-- A machine answers each event with its next state, or refuses the event in that state. -/
abbrev EventMachine (State Event : Type) := State → Event → Option State

namespace EventMachine
variable {State Event : Type}

/-- A run feeds the events in order and stops when the machine refuses one. -/
def run (machine : EventMachine State Event) : State → List Event → Option State
  | state, [] => some state
  | state, event :: rest => (machine state event).bind fun next => run machine next rest

/-- Each step of the run meets a condition on the state before it and on its event. -/
def Meets (machine : EventMachine State Event) (condition : State → Event → Prop) :
    State → List Event → Prop
  | _, [] => True
  | state, event :: rest =>
      condition state event ∧ ∀ next, machine state event = some next →
        Meets machine condition next rest

@[simp] theorem run_nil (machine : EventMachine State Event) (state : State) :
    machine.run state [] = some state := rfl

theorem run_cons (machine : EventMachine State Event) (state : State) (event : Event)
    (rest : List Event) :
    machine.run state (event :: rest) =
      (machine state event).bind fun next => machine.run next rest := rfl

/-- A guarded step that was taken met its guard. -/
theorem guarded {guard : Prop} [Decidable guard] {state next : State}
    (taken : (if guard then some state else none) = some next) : guard ∧ state = next := by
  obtain ⟨met, same⟩ := Option.ite_none_right_eq_some.mp taken
  exact ⟨met, Option.some.inj same⟩

/-- A nonempty run takes its first step and continues from the state reached there. -/
theorem run_cons_some {machine : EventMachine State Event} {state final : State} {event : Event}
    {rest : List Event} (ran : machine.run state (event :: rest) = some final) :
    ∃ next, machine state event = some next ∧ machine.run next rest = some final := by
  rw [run_cons] at ran
  exact Option.bind_eq_some_iff.mp ran

/-- Two runs compose. -/
theorem run_append (machine : EventMachine State Event) (state : State)
    (first second : List Event) :
    machine.run state (first ++ second) =
      (machine.run state first).bind fun middle => machine.run middle second := by
  induction first generalizing state with
  | nil => rfl
  | cons event rest ih =>
      rw [List.cons_append, run_cons, run_cons, Option.bind_assoc]
      congr 1
      funext next
      exact ih next

/-- What one step keeps under the condition, a run keeps when each step meets the condition. -/
theorem run_invariant {machine : EventMachine State Event} {condition : State → Event → Prop}
    {invariant : State → Prop}
    (step : ∀ state event next, invariant state → condition state event →
      machine state event = some next → invariant next)
    {state final : State} {events : List Event} (start : invariant state)
    (meets : machine.Meets condition state events)
    (ran : machine.run state events = some final) : invariant final := by
  induction events generalizing state with
  | nil =>
      simp only [run_nil, Option.some.injEq] at ran
      exact ran ▸ start
  | cons event rest ih =>
      obtain ⟨next, stepped, continued⟩ := run_cons_some ran
      exact ih (step state event next start meets.1 stepped) (meets.2 next stepped) continued

/-- The property holds at the start of the run and after each of its steps. -/
def Always (machine : EventMachine State Event) (property : State → Prop) :
    State → List Event → Prop
  | state, [] => property state
  | state, event :: rest =>
      property state ∧ ∀ next, machine state event = some next → Always machine property next rest

theorem Always.start {machine : EventMachine State Event} {property : State → Prop}
    {state : State} {events : List Event} (always : machine.Always property state events) :
    property state := by
  cases events with
  | nil => exact always
  | cons event rest => exact always.1

theorem Always.mono {machine : EventMachine State Event} {strong weak : State → Prop}
    (implies : ∀ state, strong state → weak state)
    {state : State} {events : List Event} (always : machine.Always strong state events) :
    machine.Always weak state events := by
  induction events generalizing state with
  | nil => exact implies _ always
  | cons event rest ih =>
      exact ⟨implies _ always.1, fun next stepped => ih (always.2 next stepped)⟩

/-- The rest of a run starts where its first part has ended. -/
theorem Always.rest {machine : EventMachine State Event} {property : State → Prop} {state middle : State}
    {first second : List Event} (always : machine.Always property state (first ++ second))
    (ran : machine.run state first = some middle) : machine.Always property middle second := by
  induction first generalizing state with
  | nil =>
      obtain rfl := Option.some.inj ran
      exact always
  | cons event rest ih =>
      obtain ⟨next, stepped, continued⟩ := run_cons_some ran
      exact ih (always.2 next stepped) continued

theorem Always.final {machine : EventMachine State Event} {property : State → Prop} {state final : State}
    {events : List Event} (always : machine.Always property state events)
    (ran : machine.run state events = some final) : property final := by
  rw [← List.append_nil events] at always
  exact always.rest ran

/-- What holds in every state of a run decides a condition on its steps. -/
theorem Always.meets {machine : EventMachine State Event} {property : State → Prop}
    {condition : State → Event → Prop} (implies : ∀ state event, property state → condition state event)
    {state : State} {events : List Event} (always : machine.Always property state events) :
    machine.Meets condition state events := by
  induction events generalizing state with
  | nil => trivial
  | cons event rest ih =>
      exact ⟨implies state event always.1, fun next stepped => ih (always.2 next stepped)⟩

/-- What one step keeps under the condition holds in every state of the run. -/
theorem always_of_meets {machine : EventMachine State Event} {condition : State → Event → Prop}
    {invariant : State → Prop}
    (step : ∀ state event next, invariant state → condition state event →
      machine state event = some next → invariant next)
    {state : State} {events : List Event} (start : invariant state)
    (meets : machine.Meets condition state events) : machine.Always invariant state events := by
  induction events generalizing state with
  | nil => exact start
  | cons event rest ih =>
      refine ⟨start, fun next stepped => ?_⟩
      exact ih (step state event next start meets.1 stepped) (meets.2 next stepped)

/-- What every step keeps holds in every state of every run. -/
theorem always_of_step {machine : EventMachine State Event} {invariant : State → Prop}
    (step : ∀ state event next, invariant state → machine state event = some next → invariant next)
    {state : State} (start : invariant state) (events : List Event) : machine.Always invariant state events := by
  induction events generalizing state with
  | nil => exact start
  | cons event rest ih => exact ⟨start, fun next stepped => ih (step state event next start stepped)⟩

/-- When the property survives a step exactly under the condition, it survives a run exactly under it. -/
theorem always_iff_meets {machine : EventMachine State Event} {condition : State → Event → Prop}
    {invariant property : State → Prop} (implies : ∀ state, invariant state → property state)
    (step : ∀ state event next, invariant state → condition state event →
      machine state event = some next → invariant next)
    (breaks : ∀ state event next, invariant state → machine state event = some next →
      property next → condition state event)
    (refused : ∀ state event, machine state event = none → condition state event)
    {state : State} {events : List Event} (start : invariant state) :
    machine.Always property state events ↔ machine.Meets condition state events := by
  refine ⟨fun always => ?_, fun meets => (always_of_meets step start meets).mono implies⟩
  induction events generalizing state with
  | nil => trivial
  | cons event rest ih =>
      cases stepped : machine state event with
      | none => exact ⟨refused state event stepped, by simp [stepped]⟩
      | some next =>
          have later := always.2 next stepped
          have met := breaks state event next start stepped later.start
          refine ⟨met, fun other again => ?_⟩
          obtain rfl : next = other := Option.some.inj (stepped.symm.trans again)
          exact ih (step state event next start met stepped) later

/-- A condition on events alone holds along a run exactly when each event meets it. -/
theorem meets_of_forall {machine : EventMachine State Event} {condition : State → Event → Prop}
    {events : List Event} (all : ∀ state, ∀ event ∈ events, condition state event)
    (state : State) : machine.Meets condition state events := by
  induction events generalizing state with
  | nil => trivial
  | cons event rest ih =>
      refine ⟨all state event List.mem_cons_self, fun next _ => ih ?_ next⟩
      exact fun later member inside => all later member (List.mem_cons_of_mem event inside)

/-- The condition is checked step by step when it is decidable in each state. -/
def decidableMeets (machine : EventMachine State Event) (condition : State → Event → Prop)
    [check : ∀ state event, Decidable (condition state event)] :
    ∀ state events, Decidable (machine.Meets condition state events)
  | _, [] => isTrue trivial
  | state, event :: rest =>
      match check state event, stepped : machine state event with
      | isFalse fails, _ => isFalse fun meets => fails meets.1
      | isTrue holds, none => isTrue ⟨holds, by simp [stepped]⟩
      | isTrue holds, some next =>
          match decidableMeets machine condition next rest with
          | isTrue later => isTrue ⟨holds, by simpa [stepped] using later⟩
          | isFalse fails => isFalse fun meets => fails (meets.2 next stepped)

instance (machine : EventMachine State Event) (condition : State → Event → Prop)
    [∀ state event, Decidable (condition state event)] (state : State) (events : List Event) :
    Decidable (machine.Meets condition state events) :=
  decidableMeets machine condition state events

def decidableAlways (machine : EventMachine State Event) (property : State → Prop)
    [check : ∀ state, Decidable (property state)] : ∀ state events, Decidable (machine.Always property state events)
  | state, [] => check state
  | state, event :: rest =>
      match check state, stepped : machine state event with
      | isFalse fails, _ => isFalse fun always => fails always.1
      | isTrue holds, none => isTrue ⟨holds, by simp [stepped]⟩
      | isTrue holds, some next =>
          match decidableAlways machine property next rest with
          | isTrue later => isTrue ⟨holds, by simpa [stepped] using later⟩
          | isFalse fails => isFalse fun always => fails (always.2 next stepped)

instance (machine : EventMachine State Event) (property : State → Prop) [∀ state, Decidable (property state)]
    (state : State) (events : List Event) : Decidable (machine.Always property state events) :=
  decidableAlways machine property state events

end EventMachine
end VamsSoc.Library
