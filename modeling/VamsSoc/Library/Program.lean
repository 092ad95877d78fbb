/-
This file has programs that share a state, one operation at a time, and what they keep whatever the others do.
-/

import Mathlib.Algebra.BigOperators.Group.List.Basic
import Mathlib.Tactic

namespace VamsSoc.Library

/-- A program ends, or performs an operation and goes on with the reply. -/
inductive Program (Op : Type) (Reply : Op → Type) (α : Type) where
  | done (result : α)
  | perform (op : Op) (next : Reply op → Program Op Reply α)

namespace Program
variable {Op : Type} {Reply : Op → Type} {α β : Type}

def bind : Program Op Reply α → (α → Program Op Reply β) → Program Op Reply β
  | .done result, rest => rest result
  | .perform op next, rest => .perform op fun reply => (next reply).bind rest

instance : Monad (Program Op Reply) where
  pure := .done
  bind := bind

def call (op : Op) : Program Op Reply (Reply op) := .perform op .done

def isDone : Program Op Reply α → Bool
  | .done _ => true
  | .perform _ _ => false

end Program

/-- An operation may block; otherwise it replies and changes the shared state and what its thread has of its own. -/
abbrev Semantics (Op : Type) (Reply : Op → Type) (Choice Shared Own : Type) :=
  Choice → Shared → Own → (op : Op) → Option (Reply op × Shared × Own)

/-- A thread has a share of the invariant, and the shares of all threads add up. -/
structure Discipline (Shared Own Share : Type) where
  agrees : Own → Share → Prop
  invariant : Shared → Share → Prop

section Logic
variable {Op : Type} {Reply : Op → Type} {Choice Shared Own Share α β : Type} [AddCommMonoid Share]

/-- Whatever the other threads do between its operations, each operation of the program keeps the invariant. -/
def Keeps (exec : Semantics Op Reply Choice Shared Own) (rule : Discipline Shared Own Share)
    (post : α → Share → Prop) : Share → Program Op Reply α → Prop
  | share, .done result => post result share
  | share, .perform op next => ∀ choice shared own rest reply shared' own',
      rule.agrees own share → rule.invariant shared (share + rest) →
        exec choice shared own op = some (reply, shared', own') →
          ∃ share', rule.agrees own' share' ∧ rule.invariant shared' (share' + rest) ∧
            Keeps exec rule post share' (next reply)

variable {exec : Semantics Op Reply Choice Shared Own} {rule : Discipline Shared Own Share} {share : Share}

theorem Keeps.done {post : α → Share → Prop} {result : α} (holds : post result share) :
    Keeps exec rule post share (pure result : Program Op Reply α) := holds

/-- One operation keeps the invariant when each of its outcomes does. -/
theorem Keeps.call {op : Op} {post : Reply op → Share → Prop}
    (outcomes : ∀ choice shared own rest reply shared' own',
      rule.agrees own share → rule.invariant shared (share + rest) →
        exec choice shared own op = some (reply, shared', own') →
          ∃ share', rule.agrees own' share' ∧ rule.invariant shared' (share' + rest) ∧ post reply share') :
    Keeps exec rule post share (.call op) := outcomes

theorem Keeps.mono {weak strong : α → Share → Prop} {program : Program Op Reply α}
    (implies : ∀ result share, strong result share → weak result share)
    (keeps : Keeps exec rule strong share program) : Keeps exec rule weak share program := by
  induction program generalizing share with
  | done result => exact implies _ _ keeps
  | perform op next ih =>
      intro choice shared own rest reply shared' own' agrees invariant executed
      obtain ⟨share', agreed, kept, later⟩ := keeps choice shared own rest reply shared' own' agrees invariant executed
      exact ⟨share', agreed, kept, ih reply later⟩

/-- The second program starts with what the first one leaves. -/
theorem Keeps.bind {post : β → Share → Prop} {program : Program Op Reply α} {rest : α → Program Op Reply β}
    (keeps : Keeps exec rule (fun result share => Keeps exec rule post share (rest result)) share program) :
    Keeps exec rule post share (program >>= rest) := by
  induction program generalizing share with
  | done result => exact keeps
  | perform op next ih =>
      intro choice shared own others reply shared' own' agrees invariant executed
      obtain ⟨share', agreed, kept, later⟩ := keeps choice shared own others reply shared' own' agrees invariant executed
      exact ⟨share', agreed, kept, ih reply later⟩

/-- A share says less than another one. -/
def Discipline.Weakens (rule : Discipline Shared Own Share) (strong weak : Share) : Prop :=
  ∀ own shared rest, rule.agrees own strong → rule.invariant shared (strong + rest) →
    rule.agrees own weak ∧ rule.invariant shared (weak + rest)

theorem Discipline.Weakens.refl (rule : Discipline Shared Own Share) (share : Share) : rule.Weakens share share :=
  fun _ _ _ agrees invariant => ⟨agrees, invariant⟩

theorem Discipline.Weakens.trans {strong middle weak : Share} (first : rule.Weakens strong middle)
    (second : rule.Weakens middle weak) : rule.Weakens strong weak := by
  intro own shared rest agrees invariant
  obtain ⟨agreed, kept⟩ := first own shared rest agrees invariant
  exact second own shared rest agreed kept

/-- The program keeps the invariant and ends with a share that says what the postcondition asks for. -/
def Secures (exec : Semantics Op Reply Choice Shared Own) (rule : Discipline Shared Own Share)
    (post : α → Share → Prop) : Share → Program Op Reply α → Prop :=
  Keeps exec rule fun result share => ∃ weak, rule.Weakens share weak ∧ post result weak

namespace Secures

theorem done {post : α → Share → Prop} {result : α} (holds : post result share) :
    Secures exec rule post share (pure result : Program Op Reply α) :=
  Keeps.done ⟨share, .refl rule share, holds⟩

theorem call {op : Op} {post : Reply op → Share → Prop}
    (outcomes : ∀ choice shared own rest reply shared' own',
      rule.agrees own share → rule.invariant shared (share + rest) →
        exec choice shared own op = some (reply, shared', own') →
          ∃ share', rule.agrees own' share' ∧ rule.invariant shared' (share' + rest) ∧ post reply share') :
    Secures exec rule post share (.call op) := by
  apply Keeps.call
  intro choice shared own rest reply shared' own' agrees invariant executed
  obtain ⟨share', agreed, kept, holds⟩ := outcomes choice shared own rest reply shared' own' agrees invariant executed
  exact ⟨share', agreed, kept, share', .refl rule share', holds⟩

/-- A program may start from a share that says more. -/
theorem weaken {post : α → Share → Prop} {weak : Share} {program : Program Op Reply α}
    (less : rule.Weakens share weak) (secures : Secures exec rule post weak program) :
    Secures exec rule post share program := by
  cases program with
  | done result =>
      obtain ⟨last, later, holds⟩ := secures
      exact ⟨last, less.trans later, holds⟩
  | perform op next =>
      intro choice shared own rest reply shared' own' agrees invariant executed
      obtain ⟨agreed, kept⟩ := less own shared rest agrees invariant
      exact secures choice shared own rest reply shared' own' agreed kept executed

/-- A program may end with a share that says less. -/
theorem relax {post : α → Share → Prop} {program : Program Op Reply α}
    (secures : Secures exec rule (fun result share => ∃ weak, rule.Weakens share weak ∧ post result weak) share program) :
    Secures exec rule post share program := by
  refine Keeps.mono ?_ secures
  rintro result share ⟨middle, first, last, second, holds⟩
  exact ⟨last, first.trans second, holds⟩

theorem bind {post : β → Share → Prop} {program : Program Op Reply α} {rest : α → Program Op Reply β}
    (secures : Secures exec rule (fun result share => Secures exec rule post share (rest result)) share program) :
    Secures exec rule post share (program >>= rest) := by
  apply Keeps.bind
  refine Keeps.mono ?_ secures
  rintro result share ⟨last, later, holds⟩
  exact Secures.weaken later holds

end Secures
end Logic

structure Thread (Op : Type) (Reply : Op → Type) (Own α : Type) where
  own : Own
  program : Program Op Reply α

section Pool
variable {Op : Type} {Reply : Op → Type} {Choice Shared Own Share α : Type} [AddCommMonoid Share]

/-- Each thread keeps the invariant with its own share, and the shares add up to the invariant. -/
def Settled (exec : Semantics Op Reply Choice Shared Own) (rule : Discipline Shared Own Share)
    (post : α → Share → Prop) (shared : Shared) (threads : List (Thread Op Reply Own α)) : Prop :=
  ∃ shares : List Share,
    List.Forall₂ (fun thread share => rule.agrees thread.own share ∧ Keeps exec rule post share thread.program)
      threads shares ∧ rule.invariant shared shares.sum

/-- A part of the sum of the shares is the sum of what each thread has of it. -/
theorem part_sum {Part : Type} [AddCommMonoid Part] (part : Share →+ Part) (value : Thread Op Reply Own α → Part)
    {related : Thread Op Reply Own α → Share → Prop} {threads : List (Thread Op Reply Own α)} {shares : List Share}
    (pairs : List.Forall₂ related threads shares)
    (same : ∀ thread ∈ threads, ∀ share, related thread share → part share = value thread) :
    part shares.sum = (threads.map value).sum := by
  induction pairs with
  | nil => exact map_zero part
  | @cons thread share threads shares matched pairs ih =>
      rw [List.sum_cons, map_add, List.map_cons, List.sum_cons, same thread (List.mem_cons_self ..) share matched]
      rw [ih fun other member => same other (List.mem_cons_of_mem _ member)]

omit [AddCommMonoid Share] in
/-- Each share is one of those that are added. -/
theorem forall₂_mem {related : Thread Op Reply Own α → Share → Prop} {threads : List (Thread Op Reply Own α)}
    {shares : List Share} (pairs : List.Forall₂ related threads shares) :
    List.Forall₂ (fun thread share => related thread share ∧ share ∈ shares) threads shares := by
  induction pairs with
  | nil => exact .nil
  | @cons thread share threads shares matched pairs ih =>
      refine .cons ⟨matched, List.mem_cons_self ..⟩ (ih.imp ?_)
      rintro other part ⟨fits, member⟩
      exact ⟨fits, List.mem_cons_of_mem _ member⟩

/-- The share of one thread can be taken out of the sum and replaced. -/
theorem exists_share {related : Thread Op Reply Own α → Share → Prop} {threads : List (Thread Op Reply Own α)}
    {shares : List Share} (pairs : List.Forall₂ related threads shares) {index : Nat} {thread : Thread Op Reply Own α}
    (found : threads[index]? = some thread) :
    ∃ share rest, related thread share ∧ shares.sum = share + rest ∧
      ∀ later share', related later share' →
        List.Forall₂ related (threads.set index later) (shares.set index share') ∧
          (shares.set index share').sum = share' + rest := by
  induction pairs generalizing index with
  | nil => simp at found
  | @cons first part threads shares matched pairs ih =>
      cases index with
      | zero =>
          obtain rfl : first = thread := by simpa using found
          refine ⟨part, shares.sum, matched, List.sum_cons, fun later share' fits => ?_⟩
          exact ⟨.cons fits pairs, List.sum_cons⟩
      | succ index =>
          obtain ⟨share, rest, fits, sum, replaced⟩ := ih (by simpa using found)
          refine ⟨share, part + rest, fits, by rw [List.sum_cons, sum, add_left_comm], fun later share' fits' => ?_⟩
          obtain ⟨pairs', sum'⟩ := replaced later share' fits'
          exact ⟨.cons matched pairs', by rw [List.set_cons_succ, List.sum_cons, sum', add_left_comm]⟩

namespace Settled
variable {exec : Semantics Op Reply Choice Shared Own} {rule : Discipline Shared Own Share}
  {post : α → Share → Prop} {shared shared' : Shared} {threads : List (Thread Op Reply Own α)}

/-- An operation of one thread leaves the threads settled. -/
theorem run (settled : Settled exec rule post shared threads) {index : Nat} {own own' : Own} {op : Op}
    {next : Reply op → Program Op Reply α} (found : threads[index]? = some ⟨own, .perform op next⟩) {choice : Choice}
    {reply : Reply op} (executed : exec choice shared own op = some (reply, shared', own')) :
    Settled exec rule post shared' (threads.set index ⟨own', next reply⟩) := by
  obtain ⟨shares, pairs, invariant⟩ := settled
  obtain ⟨share, rest, ⟨agrees, keeps⟩, sum, replaced⟩ := exists_share pairs found
  rw [sum] at invariant
  obtain ⟨share', agreed, kept, later⟩ := keeps choice shared own rest reply shared' own' agrees invariant executed
  obtain ⟨pairs', sum'⟩ := replaced ⟨own', next reply⟩ share' ⟨agreed, later⟩
  exact ⟨shares.set index share', pairs', sum' ▸ kept⟩

/-- A change of the shared state that keeps the invariant leaves the threads settled. -/
theorem change (settled : Settled exec rule post shared threads)
    (keeps : ∀ total, rule.invariant shared total → rule.invariant shared' total) :
    Settled exec rule post shared' threads := by
  obtain ⟨shares, pairs, invariant⟩ := settled
  exact ⟨shares, pairs, keeps _ invariant⟩

/-- A new thread brings its share along. -/
theorem spawn (settled : Settled exec rule post shared threads) {thread : Thread Op Reply Own α} {share : Share}
    (agrees : rule.agrees thread.own share) (keeps : Keeps exec rule post share thread.program)
    (brought : ∀ total, rule.invariant shared total → rule.invariant shared' (share + total)) :
    Settled exec rule post shared' (threads ++ [thread]) := by
  obtain ⟨shares, pairs, invariant⟩ := settled
  refine ⟨shares ++ [share], List.rel_append pairs (.cons ⟨agrees, keeps⟩ .nil), ?_⟩
  rw [List.sum_append, List.sum_singleton, add_comm]
  exact brought _ invariant

/-- A thread that has ended gives up what its postcondition does not ask for. -/
theorem rested (settled : Settled exec rule (fun result share => ∃ weak, rule.Weakens share weak ∧ post result weak)
      shared threads) :
    ∃ shares : List Share, List.Forall₂ (fun thread share => rule.agrees thread.own share ∧
      ∀ result, thread.program = .done result → post result share) threads shares ∧
        rule.invariant shared shares.sum := by
  obtain ⟨shares, pairs, invariant⟩ := settled
  -- The threads before the current one have given up already; what they keep is in the other summand.
  have each : ∀ kept, rule.invariant shared (shares.sum + kept) →
      ∃ later : List Share, List.Forall₂ (fun thread share => rule.agrees thread.own share ∧
        ∀ result, thread.program = .done result → post result share) threads later ∧
          rule.invariant shared (later.sum + kept) := by
    clear invariant
    induction pairs with
    | nil => exact fun kept invariant => ⟨[], .nil, invariant⟩
    | @cons thread part threads shares matched pairs ih =>
        intro kept invariant
        rw [List.sum_cons, add_assoc] at invariant
        obtain ⟨agrees, keeps⟩ := matched
        cases program : thread.program with
        | done result =>
            rw [program] at keeps
            obtain ⟨weak, less, holds⟩ := keeps
            obtain ⟨agreed, weaker⟩ := less _ _ _ agrees invariant
            rw [add_left_comm] at weaker
            obtain ⟨later, rest, final⟩ := ih (weak + kept) weaker
            refine ⟨weak :: later, .cons ⟨agreed, ?_⟩ rest, ?_⟩
            · intro other same
              cases program.symm.trans same
              exact holds
            · rw [List.sum_cons, add_assoc, add_left_comm]
              exact final
        | perform op next =>
            rw [add_left_comm] at invariant
            obtain ⟨later, rest, final⟩ := ih (part + kept) invariant
            refine ⟨part :: later, .cons ⟨agrees, ?_⟩ rest, ?_⟩
            · intro result same
              cases program.symm.trans same
            · rw [List.sum_cons, add_assoc, add_left_comm]
              exact final
  have start : rule.invariant shared (shares.sum + 0) := by rwa [add_zero]
  obtain ⟨later, rest, final⟩ := each 0 start
  exact ⟨later, rest, by rwa [add_zero] at final⟩

end Settled
end Pool

section Performed
variable {Op : Type} {Reply : Op → Type} {Choice Shared Own α β : Type}

/-- For all possible replies the program performs only allowed operations, and its result has the postcondition. -/
def Program.Ensures (possible : (op : Op) → Reply op → Prop) (allowed : Op → Prop) (post : α → Prop) :
    Program Op Reply α → Prop
  | .done result => post result
  | .perform op next => allowed op ∧ ∀ reply, possible op reply → (next reply).Ensures possible allowed post

/-- Other threads may change the shared state between two operations, within some bounds. -/
inductive Program.Performs (exec : Semantics Op Reply Choice Shared Own) (bounds : Shared → Prop) :
    Program Op Reply α → Op → Prop
  | here {op : Op} {next : Reply op → Program Op Reply α} : Performs exec bounds (.perform op next) op
  | later {op target : Op} {next : Reply op → Program Op Reply α} {choice : Choice} {shared shared' : Shared}
      {own own' : Own} {reply : Reply op} (inside : bounds shared)
      (executed : exec choice shared own op = some (reply, shared', own'))
      (rest : Performs exec bounds (next reply) target) : Performs exec bounds (.perform op next) target

section Rules
variable {possible : (op : Op) → Reply op → Prop} {allowed : Op → Prop}

@[simp]
theorem ensures_pure {post : α → Prop} {result : α} :
    (pure result : Program Op Reply α).Ensures possible allowed post ↔ post result := Iff.rfl

@[simp]
theorem ensures_bind {post : β → Prop} {program : Program Op Reply α} {rest : α → Program Op Reply β} :
    (program >>= rest).Ensures possible allowed post ↔
      program.Ensures possible allowed fun result => (rest result).Ensures possible allowed post := by
  induction program with
  | done result => exact Iff.rfl
  | perform op next ih => exact and_congr_right fun _ => forall_congr' fun reply => imp_congr_right fun _ => ih reply

@[simp]
theorem ensures_ite {post : α → Prop} {condition : Prop} [Decidable condition] {first second : Program Op Reply α} :
    (if condition then first else second).Ensures possible allowed post ↔
      if condition then first.Ensures possible allowed post else second.Ensures possible allowed post := by
  split <;> rfl

theorem Program.Ensures.mono {weak strong : α → Prop} {program : Program Op Reply α}
    (ensures : program.Ensures possible allowed strong) (implies : ∀ result, strong result → weak result) :
    program.Ensures possible allowed weak := by
  induction program with
  | done result => exact implies _ ensures
  | perform op next ih => exact ⟨ensures.1, fun reply possible => ih reply (ensures.2 reply possible)⟩

theorem Program.Ensures.op {op : Op} {post : α → Prop} {rest : Reply op → Program Op Reply α} (may : allowed op)
    (replies : ∀ reply, possible op reply → (rest reply).Ensures possible allowed post) :
    (Program.call op >>= rest).Ensures possible allowed post :=
  ensures_bind.mpr ⟨may, replies⟩

theorem Program.Ensures.seq {post : β → Prop} {program : Program Op Reply α} {rest : α → Program Op Reply β}
    (first : program.Ensures possible allowed fun _ => True)
    (second : ∀ result, (rest result).Ensures possible allowed post) :
    (program >>= rest).Ensures possible allowed post :=
  ensures_bind.mpr (first.mono fun result _ => second result)

/-- An operation that a program performs is allowed. -/
theorem Program.Ensures.performed {exec : Semantics Op Reply Choice Shared Own} {bounds : Shared → Prop}
    {post : α → Prop} {program : Program Op Reply α} {target : Op} (ensures : program.Ensures possible allowed post)
    (replies : ∀ choice shared own op reply shared' own', bounds shared →
      exec choice shared own op = some (reply, shared', own') → possible op reply)
    (performs : program.Performs exec bounds target) : allowed target := by
  induction performs with
  | here => exact ensures.1
  | later inside executed _ ih => exact ih (ensures.2 _ (replies _ _ _ _ _ _ _ inside executed))

end Rules
end Performed

section Trace
variable {Op : Type} {Reply : Op → Type} {Choice Shared Own α : Type}

/-- The operations that a program performs when it runs alone and the shared state stays within the bounds. -/
def Program.trace (exec : Semantics Op Reply Choice Shared Own) (bounds : Shared → Prop) [DecidablePred bounds] :
    List Choice → Shared → Own → Program Op Reply α → List Op
  | [], _, _, _ => []
  | _, _, _, .done _ => []
  | choice :: choices, shared, own, .perform op next =>
      op :: if bounds shared then
        match exec choice shared own op with
        | none => []
        | some (reply, shared', own') => Program.trace exec bounds choices shared' own' (next reply)
      else []

theorem performs_of_mem_trace {exec : Semantics Op Reply Choice Shared Own} {bounds : Shared → Prop}
    [DecidablePred bounds] (choices : List Choice) (shared : Shared) (own : Own) {program : Program Op Reply α} {op : Op}
    (member : op ∈ Program.trace exec bounds choices shared own program) : program.Performs exec bounds op := by
  induction choices generalizing shared own program with
  | nil => cases member
  | cons choice choices ih =>
      cases program with
      | done result => cases member
      | perform first next =>
          rcases List.mem_cons.mp member with rfl | rest
          · exact .here
          · split at rest
            · next inside =>
                split at rest
                · cases rest
                · next reply shared' own' executed => exact .later inside executed (ih shared' own' rest)
            · cases rest

end Trace
end VamsSoc.Library
