/-
This file shows that a command object keeps its descriptor, and answers under the identity of it.
-/

import VamsSoc.Proof.Firmware.Turns

namespace VamsSoc.Firmware
open Library Abi

/-- The object is about this fetched descriptor. -/
structure About (command : CommandObject) (number : Nat) (descriptor : Submission) : Prop where
  fetch : command.fetch = number
  submission : command.submission = descriptor

/-- The object is about the descriptor, and its completion names it. -/
structure Answers (command : CommandObject) (number : Nat) (descriptor : Submission) : Prop extends
    About command number descriptor where
  identity : command.completion.identity = descriptor.identity

namespace Answers
variable {command : CommandObject} {fetch : Nat} {submission : Submission}

theorem transition (answers : Answers command fetch submission) (expected next : CommandState) :
    Answers (command.transition expected next).2 fetch submission :=
  ⟨⟨answers.fetch, answers.submission⟩, answers.identity⟩

theorem settle (answers : Answers command fetch submission) (status errorCode : U16) (now : Uptime) :
    Answers (command.settle status errorCode now) fetch submission :=
  ⟨⟨answers.fetch, answers.submission⟩, answers.identity⟩

theorem beginAbort (answers : Answers command fetch submission) (now : Uptime) :
    Answers (command.beginAbort now).2 fetch submission := (answers.settle _ _ now).transition _ _

theorem timeout (answers : Answers command fetch submission) (now : Uptime) :
    Answers (command.timeout now).2 fetch submission := (answers.settle _ _ now).transition _ _

theorem cancel (answers : Answers command fetch submission) (now : Uptime) :
    Answers (command.cancel now).2 fetch submission := (answers.settle _ _ now).transition _ _

theorem escalate (answers : Answers command fetch submission) (now : Uptime) :
    Answers (command.escalate now).2 fetch submission :=
  ⟨⟨answers.fetch, answers.submission⟩, answers.identity⟩

/-- An accepted result names the descriptor, whatever the engine reported. -/
theorem applyResult (answers : Answers command fetch submission) {result : Completion} {applied : CommandObject}
    (accepted : command.applyResult result = some applied) : Answers applied fetch submission := by
  unfold CommandObject.applyResult at accepted
  split at accepted
  · exact absurd accepted (by simp)
  next same =>
    obtain rfl := Option.some.inj accepted
    refine ⟨⟨answers.fetch, answers.submission⟩, ?_⟩
    rw [← answers.submission]
    exact not_not.mp same

end Answers

theorem completion_applyResult {command applied : CommandObject} {result : Completion}
    (accepted : command.applyResult result = some applied) : applied.completion = result := by
  unfold CommandObject.applyResult at accepted
  split at accepted
  · simp at accepted
  · obtain rfl := Option.some.inj accepted
    rfl

theorem answers_commandExecute {command : CommandObject} {fetch : Nat} {submission : Submission}
    (about : About command fetch submission) (now : Uptime) :
    Answers { command with completion := commandExecute command.submission now } fetch submission :=
  ⟨⟨about.fetch, about.submission⟩, by rw [← about.submission]; rfl⟩

end VamsSoc.Firmware
