/-
This file has the runs of a program that no other thread disturbs, and the rules by which all of them meet a
postcondition.
-/

import VamsSoc.Library.Program

namespace VamsSoc.Library
variable {Op : Type} {Reply : Op → Type} {Choice Shared Own α β : Type}

/-- A run that returned has performed operations, each in some shared state. -/
structure Outcome (Op Shared Own α : Type) where
  log : List (Op × Shared)
  result : α
  shared : Shared
  own : Own

def Outcome.after (earlier : List (Op × Shared)) (outcome : Outcome Op Shared Own α) : Outcome Op Shared Own α :=
  { outcome with log := earlier ++ outcome.log }

namespace Program

/-- The surroundings make one choice for each operation. -/
def runAlone (exec : Semantics Op Reply Choice Shared Own) :
    List Choice → Shared → Own → Program Op Reply α → Option (Outcome Op Shared Own α)
  | _, shared, own, .done result => some ⟨[], result, shared, own⟩
  | [], _, _, .perform _ _ => none
  | choice :: choices, shared, own, .perform op next =>
      match exec choice shared own op with
      | none => none
      | some (reply, shared', own') => (runAlone exec choices shared' own' (next reply)).map (.after [(op, shared)])

/-- All runs from the state that return meet the postcondition. -/
def Every (exec : Semantics Op Reply Choice Shared Own) :
    (Outcome Op Shared Own α → Prop) → Program Op Reply α → Shared → Own → Prop
  | post, .done result, shared, own => post ⟨[], result, shared, own⟩
  | post, .perform op next, shared, own => ∀ choice reply shared' own',
      exec choice shared own op = some (reply, shared', own') →
        Every exec (fun outcome => post (outcome.after [(op, shared)])) (next reply) shared' own'

variable {exec : Semantics Op Reply Choice Shared Own} {shared : Shared} {own : Own}

theorem Every.outcome {post : Outcome Op Shared Own α → Prop} {program : Program Op Reply α}
    (every : program.Every exec post shared own) {choices : List Choice} {outcome : Outcome Op Shared Own α}
    (ran : program.runAlone exec choices shared own = some outcome) : post outcome := by
  induction program generalizing choices shared own post outcome with
  | done result =>
      cases choices <;> exact Option.some.inj ran ▸ every
  | perform op next ih =>
      cases choices with
      | nil => cases ran
      | cons choice choices =>
          rw [runAlone] at ran
          split at ran
          · cases ran
          next reply shared' own' executed =>
            obtain ⟨later, continued, rfl⟩ := Option.map_eq_some_iff.mp ran
            exact ih reply (every choice reply shared' own' executed) continued

theorem Every.mono {weak strong : Outcome Op Shared Own α → Prop} {program : Program Op Reply α}
    (every : program.Every exec strong shared own) (implies : ∀ outcome, strong outcome → weak outcome) :
    program.Every exec weak shared own := by
  induction program generalizing shared own weak strong with
  | done result => exact implies _ every
  | perform op next ih =>
      intro choice reply shared' own' executed
      exact ih reply (every choice reply shared' own' executed) fun outcome => implies _

/-- Each outcome comes from the choices that led to it. -/
theorem every_run (program : Program Op Reply α) (shared : Shared) (own : Own) :
    program.Every exec (fun outcome => ∃ choices, program.runAlone exec choices shared own = some outcome) shared own := by
  induction program generalizing shared own with
  | done result => exact ⟨[], rfl⟩
  | perform op next ih =>
      intro choice reply shared' own' executed
      refine (ih reply shared' own').mono fun outcome ⟨choices, ran⟩ => ⟨choice :: choices, ?_⟩
      rw [runAlone, executed]
      dsimp only
      rw [ran]
      rfl

theorem Every.and {first second : Outcome Op Shared Own α → Prop} {program : Program Op Reply α}
    (left : program.Every exec first shared own) (right : program.Every exec second shared own) :
    program.Every exec (fun outcome => first outcome ∧ second outcome) shared own := by
  induction program generalizing shared own first second with
  | done result => exact ⟨left, right⟩
  | perform op next ih =>
      intro choice reply shared' own' executed
      exact ih reply (left choice reply shared' own' executed) (right choice reply shared' own' executed)

/-- The second program goes on where the first one ended. -/
theorem Every.bind {post : Outcome Op Shared Own β → Prop} {program : Program Op Reply α}
    {rest : α → Program Op Reply β}
    (every : program.Every exec (fun first =>
      (rest first.result).Every exec (fun second => post (second.after first.log)) first.shared first.own) shared own) :
    (program >>= rest).Every exec post shared own := by
  induction program generalizing shared own post with
  | done result => exact every
  | perform op next ih =>
      intro choice reply shared' own' executed
      apply ih
      exact every choice reply shared' own' executed

/-- One operation, whatever it replies. -/
theorem Every.call {op : Op} {post : Outcome Op Shared Own β → Prop} {rest : Reply op → Program Op Reply β}
    (every : ∀ choice reply shared' own', exec choice shared own op = some (reply, shared', own') →
      (rest reply).Every exec (fun outcome => post (outcome.after [(op, shared)])) shared' own') :
    (Program.call op >>= rest).Every exec post shared own := every

/-- One operation with one outcome. -/
theorem Every.op {op : Op} {post : Outcome Op Shared Own β → Prop} {rest : Reply op → Program Op Reply β}
    {reply : Reply op} {shared' : Shared} {own' : Own}
    (executed : ∀ choice, exec choice shared own op = some (reply, shared', own'))
    (every : (rest reply).Every exec (fun outcome => post (outcome.after [(op, shared)])) shared' own') :
    (Program.call op >>= rest).Every exec post shared own := by
  intro choice other shared'' own'' happened
  rw [executed choice] at happened
  obtain ⟨rfl, rfl, rfl⟩ : reply = other ∧ shared' = shared'' ∧ own' = own'' := by simpa using happened
  exact every

theorem Every.pure {post : Outcome Op Shared Own α → Prop} {result : α} (holds : post ⟨[], result, shared, own⟩) :
    (pure result : Program Op Reply α).Every exec post shared own := holds

/-- What the allowed operations keep, a program of allowed operations keeps. -/
theorem Ensures.every {possible : (op : Op) → Reply op → Prop} {allowed : Op → Prop} {post : α → Prop}
    {program : Program Op Reply α} (ensures : program.Ensures possible allowed post) (kept : Shared → Prop)
    (keeps : ∀ choice shared own op reply shared' own', kept shared → allowed op →
      exec choice shared own op = some (reply, shared', own') → kept shared' ∧ possible op reply)
    (holds : kept shared) :
    program.Every exec (fun outcome => (∀ entry ∈ outcome.log, allowed entry.1) ∧ kept outcome.shared ∧
      post outcome.result) shared own := by
  induction program generalizing shared own with
  | done result => exact ⟨nofun, holds, ensures⟩
  | perform op next ih =>
      intro choice reply shared' own' executed
      obtain ⟨later, replied⟩ := keeps choice shared own op reply shared' own' holds ensures.1 executed
      refine (ih reply (ensures.2 reply replied) later).mono fun outcome shown => ⟨?_, shown.2⟩
      intro entry listed
      rcases List.mem_cons.mp listed with rfl | listed
      · exact ensures.1
      · exact shown.1 entry listed

end Program
end VamsSoc.Library
