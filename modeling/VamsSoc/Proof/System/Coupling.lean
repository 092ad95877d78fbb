/-
This file has the abstract command protocol: what may be on its way between an endpoint phase and a server stage.
-/

import VamsSoc.Library.EventMachine

namespace VamsSoc.Coupling
open Library

/-- The endpoint awaits an authorization, an engine, or a final answer; a reset disowns the answer that it awaits. -/
inductive Phase where
  | idle | auth | engine | final | disowned | dropping
  deriving DecidableEq, Repr

/-- Portal and firmware together hold at most one command. -/
inductive Stage where
  | quiet | inChannel | queued | unanswered | running | aborted | settled
  deriving DecidableEq, Repr

inductive Answer where
  | direct | grant | abort | final
  deriving DecidableEq, Repr

structure State where
  phase : Phase := .idle
  stage : Stage := .quiet
  answers : List Answer := []
  deriving DecidableEq, Repr

/-- These answers may still come for an authorized payload. -/
def Granted (answers : List Answer) (stage : Stage) : Prop :=
  (answers = [] ∧ (stage = .running ∨ stage = .aborted ∨ stage = .settled)) ∨
    (answers = [.abort] ∧ (stage = .aborted ∨ stage = .settled)) ∨
    (answers = [.final] ∧ stage = .quiet) ∨ (answers = [.abort, .final] ∧ stage = .quiet)

/-- The command has not been answered yet, or its only answer is on its way. -/
def Ungranted (answers : List Answer) (stage : Stage) : Prop :=
  (answers = [] ∧ (stage = .inChannel ∨ stage = .queued ∨ stage = .unanswered)) ∨
    (answers = [.direct] ∧ stage = .quiet)

/-- Every answer on its way is about the descriptor that was fetched last. -/
def Coupled (s : State) : Prop :=
  match s.phase with
  | .idle => s.answers = [] ∧ s.stage = .quiet
  | .auth => Ungranted s.answers s.stage ∨ (s.answers.head? = some .grant ∧ Granted s.answers.tail s.stage)
  | .engine => Granted s.answers s.stage
  | .disowned => Ungranted s.answers s.stage
  -- The final answer of a payload that an early control frame stopped never comes.
  | .final | .dropping => Granted s.answers s.stage ∨ (s.answers = [] ∧ s.stage = .quiet)

/-- Each event is a move of the endpoint, of the server, or of a frame. -/
inductive Event where
  | fetch | captured | received | reject | authorize | abort | settle | finish
  | takeDirect | takeGrant | takeControl | takeReset | takeFinal | engineDone | drop
  deriving DecidableEq, Repr

/-- A reset may disown an answer, but not the authorization of a payload. -/
def drop (s : State) : Option State :=
  match s.phase with
  | .idle | .disowned | .dropping => some s
  | .auth => if s.answers.head? = some .grant then none else some { s with phase := .disowned }
  | .engine | .final => some { s with phase := .dropping }

def step : EventMachine State Event
  | s, .fetch => if s.phase = .idle then some { s with phase := .auth, stage := .inChannel } else none
  | s, .captured => if s.stage = .inChannel then some { s with stage := .queued } else none
  | s, .received => if s.stage = .queued then some { s with stage := .unanswered } else none
  | s, .reject =>
      if s.stage = .unanswered then some { s with stage := .quiet, answers := s.answers ++ [.direct] } else none
  | s, .authorize =>
      if s.stage = .unanswered ∧ s.phase ≠ .disowned then
        some { s with stage := .running, answers := s.answers ++ [.grant] } else none
  | s, .abort =>
      if s.stage = .running then some { s with stage := .aborted, answers := s.answers ++ [.abort] } else none
  | s, .settle =>
      if s.stage = .running ∨ s.stage = .aborted then some { s with stage := .settled } else none
  | s, .finish =>
      if s.stage = .settled then some { s with stage := .quiet, answers := s.answers ++ [.final] } else none
  | s, .takeDirect =>
      if (s.phase = .auth ∨ s.phase = .disowned) ∧ s.answers.head? = some .direct then
        some { s with phase := .idle, answers := s.answers.tail } else none
  | s, .takeGrant =>
      if s.phase = .auth ∧ s.answers.head? = some .grant then
        some { s with phase := .engine, answers := s.answers.tail } else none
  | s, .takeControl =>
      if s.phase = .engine ∧ s.answers ≠ [] then some { s with phase := .final, answers := s.answers.tail } else none
  -- A final answer that comes early and says reset ends the command at once.
  | s, .takeReset =>
      if s.phase = .engine ∧ s.answers.head? = some .final then
        some { s with phase := .idle, answers := s.answers.tail } else none
  -- An abort that reaches a waiting endpoint would be taken for the final answer.
  | s, .takeFinal =>
      if (s.phase = .final ∨ s.phase = .dropping) ∧ s.answers.head? = some .final then
        some { s with phase := .idle, answers := s.answers.tail } else none
  | s, .engineDone => if s.phase = .engine then some { s with phase := .final } else none
  | s, .drop => drop s

theorem Granted.late {answers : List Answer} {stage : Stage} (granted : Granted answers stage) :
    stage ≠ .inChannel ∧ stage ≠ .queued ∧ stage ≠ .unanswered := by
  rcases granted with ⟨-, rfl | rfl | rfl⟩ | ⟨-, rfl | rfl⟩ | ⟨-, rfl⟩ | ⟨-, rfl⟩ <;> decide

/-- Nothing but a submission is on its way while the command has not been answered. -/
theorem Coupled.unanswered {s : State} (coupled : Coupled s)
    (early : s.stage = .inChannel ∨ s.stage = .queued ∨ s.stage = .unanswered) :
    (s.phase = .auth ∨ s.phase = .disowned) ∧ s.answers = [] := by
  have ungranted (answers : List Answer) : ¬Granted answers s.stage := by
    intro granted
    have late := granted.late
    tauto
  have busy : s.stage ≠ .quiet := by
    rintro quiet
    simp [quiet] at early
  obtain ⟨phase, stage, answers⟩ := s
  cases phase with
  | idle => exact absurd coupled.2 busy
  | auth =>
      rcases coupled with (⟨empty, -⟩ | ⟨-, quiet⟩) | ⟨-, rest⟩
      · exact ⟨.inl rfl, empty⟩
      · exact absurd quiet busy
      · exact absurd rest (ungranted _)
  | engine => exact absurd coupled (ungranted _)
  | disowned =>
      rcases coupled with ⟨empty, -⟩ | ⟨-, quiet⟩
      · exact ⟨.inr rfl, empty⟩
      · exact absurd quiet busy
  | final | dropping =>
      rcases coupled with rest | ⟨-, quiet⟩
      · exact absurd rest (ungranted _)
      · exact absurd quiet busy

/-- A payload that runs has been granted, and its grant may still be on its way. -/
theorem Coupled.granted {s : State} (coupled : Coupled s)
    (late : s.stage = .running ∨ s.stage = .aborted ∨ s.stage = .settled) :
    (s.phase = .auth ∧ s.answers.head? = some .grant ∧ Granted s.answers.tail s.stage) ∨
      ((s.phase = .engine ∨ s.phase = .final ∨ s.phase = .dropping) ∧ Granted s.answers s.stage) := by
  have answered : ¬Ungranted s.answers s.stage := by
    rintro (⟨-, early⟩ | ⟨-, quiet⟩)
    · rcases late with here | here | here <;> simp [here] at early
    · rcases late with here | here | here <;> simp [here] at quiet
  have busy : s.stage ≠ .quiet := by
    rintro quiet
    simp [quiet] at late
  obtain ⟨phase, stage, answers⟩ := s
  cases phase with
  | idle => exact absurd coupled.2 busy
  | auth =>
      rcases coupled with early | rest
      · exact absurd early answered
      · exact .inl ⟨rfl, rest⟩
  | engine => exact .inr ⟨.inl rfl, coupled⟩
  | disowned => exact absurd coupled answered
  | final =>
      rcases coupled with rest | ⟨-, quiet⟩
      · exact .inr ⟨.inr (.inl rfl), rest⟩
      · exact absurd quiet busy
  | dropping =>
      rcases coupled with rest | ⟨-, quiet⟩
      · exact .inr ⟨.inr (.inr rfl), rest⟩
      · exact absurd quiet busy

/-- A move of a running payload keeps the coupling when it keeps what may still come for it. -/
theorem Coupled.progress {s : State} (coupled : Coupled s) {stage : Stage} {sent : List Answer}
    (late : s.stage = .running ∨ s.stage = .aborted ∨ s.stage = .settled)
    (keeps : ∀ answers, Granted answers s.stage → Granted (answers ++ sent) stage) :
    Coupled { s with stage, answers := s.answers ++ sent } := by
  rcases coupled.granted late with ⟨auth, head, rest⟩ | ⟨working, rest⟩
  · obtain ⟨phase, now, answers⟩ := s
    obtain rfl : phase = .auth := auth
    cases answers with
    | nil => simp at head
    | cons first more =>
        refine .inr ⟨by simpa using head, ?_⟩
        exact keeps more rest
  · obtain ⟨phase, now, answers⟩ := s
    rcases working with engine | final | dropping
    · obtain rfl : phase = .engine := engine
      exact keeps answers rest
    · obtain rfl : phase = .final := final
      exact .inl (keeps answers rest)
    · obtain rfl : phase = .dropping := dropping
      exact .inl (keeps answers rest)

/-- A move of a command that has not been answered keeps the coupling when the command stays ungranted. -/
theorem Coupled.early {s : State} (coupled : Coupled s) {stage : Stage} {sent : List Answer}
    (early : s.stage = .inChannel ∨ s.stage = .queued ∨ s.stage = .unanswered) (keeps : Ungranted sent stage) :
    Coupled { s with stage, answers := s.answers ++ sent } := by
  obtain ⟨phase, empty⟩ := coupled.unanswered early
  obtain ⟨now, before, answers⟩ := s
  obtain rfl : answers = [] := empty
  rcases phase with auth | disowned
  · obtain rfl : now = .auth := auth
    exact .inl keeps
  · obtain rfl : now = .disowned := disowned
    exact keeps

section Answers
variable {answers : List Answer} {stage : Stage}

theorem Granted.abort (granted : Granted answers .running) : Granted (answers ++ [.abort]) .aborted := by
  rcases granted with ⟨rfl, -⟩ | ⟨-, stage⟩ | ⟨-, stage⟩ | ⟨-, stage⟩
  · exact .inr (.inl ⟨rfl, .inl rfl⟩)
  all_goals simp at stage

theorem Granted.settle (granted : Granted answers stage) (running : stage = .running ∨ stage = .aborted) :
    Granted answers .settled := by
  rcases granted with ⟨rfl, -⟩ | ⟨rfl, -⟩ | ⟨-, quiet⟩ | ⟨-, quiet⟩
  · exact .inl ⟨rfl, .inr (.inr rfl)⟩
  · exact .inr (.inl ⟨rfl, .inr rfl⟩)
  all_goals simp [quiet] at running

theorem Granted.finish (granted : Granted answers .settled) : Granted (answers ++ [.final]) .quiet := by
  rcases granted with ⟨rfl, -⟩ | ⟨rfl, -⟩ | ⟨-, stage⟩ | ⟨-, stage⟩
  · exact .inr (.inr (.inl ⟨rfl, rfl⟩))
  · exact .inr (.inr (.inr ⟨rfl, rfl⟩))
  all_goals simp at stage

/-- Nothing comes after a final answer. -/
theorem Granted.final (granted : Granted answers stage) (head : answers.head? = some .final) :
    answers = [.final] ∧ stage = .quiet := by
  rcases granted with ⟨rfl, -⟩ | ⟨rfl, -⟩ | last | ⟨rfl, -⟩
  · cases head
  · cases head
  · exact last
  · cases head

/-- The first answer leaves what may still come, or was the final one. -/
theorem Granted.tail (granted : Granted answers stage) (some : answers ≠ []) :
    Granted answers.tail stage ∨ (answers.tail = [] ∧ stage = .quiet) := by
  rcases granted with ⟨empty, -⟩ | ⟨rfl, stage⟩ | ⟨rfl, quiet⟩ | ⟨rfl, quiet⟩
  · exact absurd empty some
  · exact .inl (.inl ⟨rfl, .inr stage⟩)
  · exact .inr ⟨rfl, quiet⟩
  · exact .inl (.inr (.inr (.inl ⟨rfl, quiet⟩)))

end Answers

section Events
variable {s next : State}

/-- A direct answer is the only one. -/
theorem Coupled.direct (coupled : Coupled s) (phase : s.phase = .auth ∨ s.phase = .disowned)
    (head : s.answers.head? = some .direct) : s.answers = [.direct] ∧ s.stage = .quiet := by
  have waiting : Ungranted s.answers s.stage := by
    rcases phase with auth | disowned
    · rcases (by simpa [Coupled, auth] using coupled : _ ∨ _) with early | ⟨grant, -⟩
      · exact early
      · simp [grant] at head
    · simpa [Coupled, disowned] using coupled
  rcases waiting with ⟨empty, -⟩ | only
  · simp [empty] at head
  · exact only

/-- The grant of a payload comes before everything else that may come for it. -/
theorem Coupled.grant (coupled : Coupled s) (auth : s.phase = .auth) (head : s.answers.head? = some .grant) :
    Granted s.answers.tail s.stage := by
  rcases (by simpa [Coupled, auth] using coupled : _ ∨ _) with (⟨empty, -⟩ | ⟨only, -⟩) | ⟨-, rest⟩
  · simp [empty] at head
  · simp [only] at head
  · exact rest

theorem Coupled.final (coupled : Coupled s)
    (phase : s.phase = .engine ∨ s.phase = .final ∨ s.phase = .dropping) (head : s.answers.head? = some .final) :
    s.answers = [.final] ∧ s.stage = .quiet := by
  have waiting : Granted s.answers s.stage ∨ (s.answers = [] ∧ s.stage = .quiet) := by
    rcases phase with engine | final | dropping
    · exact .inl (by simpa [Coupled, engine] using coupled)
    · simpa [Coupled, final] using coupled
    · simpa [Coupled, dropping] using coupled
  rcases waiting with rest | ⟨empty, -⟩
  · exact rest.final head
  · simp [empty] at head

theorem Coupled.drop (coupled : Coupled s) (dropped : drop s = some next) : Coupled next := by
  obtain ⟨phase, stage, answers⟩ := s
  cases phase with
  | idle | disowned | dropping | final =>
      obtain rfl := Option.some.inj dropped
      exact coupled
  | auth =>
      obtain ⟨owned, same⟩ := Option.ite_none_left_eq_some.mp dropped
      obtain rfl := Option.some.inj same
      exact coupled.resolve_right fun granted => owned granted.1
  | engine =>
      obtain rfl := Option.some.inj dropped
      exact .inl coupled

/-- Every event keeps the coupling. -/
theorem Coupled.step (coupled : Coupled s) (event : Event) (stepped : step s event = some next) : Coupled next := by
  cases event with
  | fetch =>
      obtain ⟨guard, rfl⟩ := EventMachine.guarded stepped
      have idle : s.answers = [] ∧ s.stage = .quiet := by simpa [Coupled, guard] using coupled
      exact .inl (.inl ⟨idle.1, .inl rfl⟩)
  | captured =>
      obtain ⟨guard, rfl⟩ := EventMachine.guarded stepped
      simpa using coupled.early (.inl guard) (.inl ⟨rfl, .inr (.inl rfl)⟩)
  | received =>
      obtain ⟨guard, rfl⟩ := EventMachine.guarded stepped
      simpa using coupled.early (.inr (.inl guard)) (.inl ⟨rfl, .inr (.inr rfl)⟩)
  | reject =>
      obtain ⟨guard, rfl⟩ := EventMachine.guarded stepped
      exact coupled.early (.inr (.inr guard)) (.inr ⟨rfl, rfl⟩)
  | authorize =>
      obtain ⟨⟨guard, owned⟩, rfl⟩ := EventMachine.guarded stepped
      obtain ⟨phase, empty⟩ := coupled.unanswered (.inr (.inr guard))
      have auth : s.phase = .auth := phase.resolve_right owned
      simp [Coupled, Granted, auth, empty]
  | abort =>
      obtain ⟨guard, rfl⟩ := EventMachine.guarded stepped
      exact coupled.progress (.inl guard) fun answers rest => (guard ▸ rest : Granted answers .running).abort
  | settle =>
      obtain ⟨guard, rfl⟩ := EventMachine.guarded stepped
      have late : s.stage = .running ∨ s.stage = .aborted ∨ s.stage = .settled := by tauto
      have moved : Coupled { s with stage := .settled, answers := s.answers ++ [] } :=
        coupled.progress late fun answers rest => by
          rw [List.append_nil]
          exact rest.settle guard
      simpa using moved
  | finish =>
      obtain ⟨guard, rfl⟩ := EventMachine.guarded stepped
      exact coupled.progress (.inr (.inr guard)) fun answers rest => (guard ▸ rest : Granted answers .settled).finish
  | takeDirect =>
      obtain ⟨⟨phase, head⟩, rfl⟩ := EventMachine.guarded stepped
      obtain ⟨only, quiet⟩ := coupled.direct phase head
      simp [Coupled, only, quiet]
  | takeGrant =>
      obtain ⟨⟨auth, head⟩, rfl⟩ := EventMachine.guarded stepped
      exact coupled.grant auth head
  | takeReset =>
      obtain ⟨⟨engine, head⟩, rfl⟩ := EventMachine.guarded stepped
      obtain ⟨only, quiet⟩ := coupled.final (.inl engine) head
      simp [Coupled, only, quiet]
  | takeControl =>
      obtain ⟨⟨engine, some⟩, rfl⟩ := EventMachine.guarded stepped
      have rest : Granted s.answers s.stage := by simpa [Coupled, engine] using coupled
      exact rest.tail some
  | takeFinal =>
      obtain ⟨⟨phase, head⟩, rfl⟩ := EventMachine.guarded stepped
      obtain ⟨only, quiet⟩ := coupled.final (.inr phase) head
      simp [Coupled, only, quiet]
  | engineDone =>
      obtain ⟨guard, rfl⟩ := EventMachine.guarded stepped
      have rest : Granted s.answers s.stage := by simpa [Coupled, guard] using coupled
      exact .inl rest
  | drop => exact coupled.drop stepped

end Events

end VamsSoc.Coupling
