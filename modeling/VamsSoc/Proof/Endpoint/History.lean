/-
This file says what a history of fetches and completions shows about the owner of each completion.
-/

import VamsSoc.Proof.Endpoint.Publication

namespace VamsSoc.Pcie
open Abi

/-- The history is kept with its newest event first. -/
def lastFetched : List CommandEvent → Option (U32 × Submission)
  | [] => none
  | .fetched generation submission :: _ => some (generation, submission)
  | .engineStarted _ :: rest | .publish _ _ _ _ :: rest => lastFetched rest

def publishedIdentity : CommandEvent → Option (U32 × U64)
  | .publish _ _ completion _ => some completion.identity
  | _ => none

def fetchedIdentity : CommandEvent → Option (U32 × U64)
  | .fetched _ submission => some submission.identity
  | _ => none

def publishedIdentities (commands : List CommandEvent) : List (U32 × U64) := commands.filterMap publishedIdentity
def fetchedIdentities (commands : List CommandEvent) : List (U32 × U64) := commands.filterMap fetchedIdentity

/-- Each published completion names the descriptor that was fetched last before it. -/
def NamesLastFetch : List CommandEvent → Prop
  | [] => True
  | .publish _ _ completion _ :: rest =>
      (lastFetched rest).map (·.2.identity) = some completion.identity ∧ NamesLastFetch rest
  | .fetched _ _ :: rest | .engineStarted _ :: rest => NamesLastFetch rest

instance decidableNamesLastFetch : ∀ commands, Decidable (NamesLastFetch commands)
  | [] => isTrue trivial
  | .publish _ _ _ _ :: rest =>
      have := decidableNamesLastFetch rest
      inferInstanceAs (Decidable (_ ∧ _))
  | .fetched _ _ :: rest => decidableNamesLastFetch rest
  | .engineStarted _ :: rest => decidableNamesLastFetch rest

/-- No descriptor is answered twice, given that the host never repeats an identity. -/
def AnswersOnce (commands : List CommandEvent) : Prop :=
  (fetchedIdentities commands).Nodup → (publishedIdentities commands).Nodup

instance (commands : List CommandEvent) : Decidable (AnswersOnce commands) :=
  inferInstanceAs (Decidable (_ → _))

/-- The completion of a generation names a descriptor of an earlier one. -/
def crossesReset : CommandEvent → CommandEvent → Bool
  | .publish generation _ completion _, .fetched earlier submission =>
      submission.identity == completion.identity && decide (earlier < generation)
  | _, _ => false

/-- No completion names a descriptor of an earlier generation, given that the host never repeats an identity. -/
def RespectsResets (commands : List CommandEvent) : Prop :=
  (fetchedIdentities commands).Nodup →
    ∀ published ∈ commands, ∀ fetched ∈ commands, crossesReset published fetched = false

instance (commands : List CommandEvent) : Decidable (RespectsResets commands) :=
  inferInstanceAs (Decidable (_ → _))

/-- The descriptors are numbered in the order in which they were fetched. -/
def numbered : List CommandEvent → List (Nat × Submission)
  | [] => []
  | .fetched _ submission :: rest => ((numbered rest).length + 1, submission) :: numbered rest
  | .engineStarted _ :: rest | .publish _ _ _ _ :: rest => numbered rest

/-- The descriptor that was fetched last has no completion yet. -/
def unanswered : List CommandEvent → Bool
  | [] | .publish _ _ _ _ :: _ => false
  | .fetched _ _ :: _ => true
  | .engineStarted _ :: rest => unanswered rest

/-- Each completion is the only one of the descriptor that was fetched last, in the same generation. -/
def Owns : List CommandEvent → Prop
  | [] => True
  | .publish generation _ completion _ :: rest =>
      (∃ submission, lastFetched rest = some (generation, submission) ∧
        completion.identity = submission.identity) ∧ unanswered rest = true ∧ Owns rest
  | .fetched _ _ :: rest | .engineStarted _ :: rest => Owns rest

theorem Owns.namesLastFetch {commands : List CommandEvent} (owns : Owns commands) : NamesLastFetch commands := by
  induction commands with
  | nil => trivial
  | cons event rest ih =>
      cases event with
      | fetched generation submission => exact ih owns
      | engineStarted submission => exact ih owns
      | publish generation queue completion written =>
          obtain ⟨⟨submission, last, same⟩, -, earlier⟩ := owns
          refine ⟨?_, ih earlier⟩
          rw [last, same]
          rfl

/-- The completions are those of some of the descriptors, in the same order. -/
theorem Owns.sublist {commands : List CommandEvent} (owns : Owns commands) :
    (publishedIdentities commands).Sublist (fetchedIdentities commands) ∧
      (unanswered commands = true → ∃ generation submission,
        lastFetched commands = some (generation, submission) ∧
          (submission.identity :: publishedIdentities commands).Sublist (fetchedIdentities commands)) := by
  induction commands with
  | nil => exact ⟨.slnil, nofun⟩
  | cons event rest ih =>
      cases event with
      | fetched generation submission =>
          obtain ⟨inside, -⟩ := ih owns
          exact ⟨inside.cons _, fun _ => ⟨generation, submission, rfl, inside.cons_cons _⟩⟩
      | engineStarted submission => exact ih owns
      | publish generation queue completion written =>
          obtain ⟨⟨submission, last, same⟩, waits, earlier⟩ := owns
          obtain ⟨_, owner, again, inside⟩ := (ih earlier).2 waits
          obtain ⟨-, rfl⟩ := Prod.mk.inj (Option.some.inj (last.symm.trans again))
          refine ⟨?_, nofun⟩
          change (completion.identity :: publishedIdentities rest).Sublist (fetchedIdentities rest)
          rw [same]
          exact inside

theorem Owns.answersOnce {commands : List CommandEvent} (owns : Owns commands) : AnswersOnce commands :=
  fun distinct => owns.sublist.1.nodup distinct

theorem mem_of_lastFetched {commands : List CommandEvent} {generation : U32} {submission : Submission}
    (last : lastFetched commands = some (generation, submission)) :
    .fetched generation submission ∈ commands := by
  induction commands with
  | nil => simp [lastFetched] at last
  | cons event rest ih =>
      cases event with
      | fetched other descriptor =>
          obtain ⟨rfl, rfl⟩ := Prod.mk.inj (Option.some.inj last)
          exact List.mem_cons_self
      | engineStarted _ => exact List.mem_cons_of_mem _ (ih last)
      | publish _ _ _ _ => exact List.mem_cons_of_mem _ (ih last)

/-- Two descriptors with one identity are the same fetch. -/
theorem fetched_unique {commands : List CommandEvent} (distinct : (fetchedIdentities commands).Nodup)
    {first second : U32} {one other : Submission} (here : .fetched first one ∈ commands)
    (there : .fetched second other ∈ commands) (same : one.identity = other.identity) : first = second := by
  induction commands with
  | nil => simp at here
  | cons event rest ih =>
      cases event with
      | fetched generation submission =>
          have fresh : submission.identity ∉ fetchedIdentities rest ∧ (fetchedIdentities rest).Nodup := by
            simpa [fetchedIdentities, fetchedIdentity] using distinct
          have listed {g : U32} {d : Submission} (member : .fetched g d ∈ rest) :
              d.identity ∈ fetchedIdentities rest := List.mem_filterMap.mpr ⟨_, member, rfl⟩
          rcases List.mem_cons.mp here with h | h <;> rcases List.mem_cons.mp there with t | t
          · obtain ⟨rfl, rfl⟩ := CommandEvent.fetched.inj h
            obtain ⟨rfl, rfl⟩ := CommandEvent.fetched.inj t
            rfl
          · obtain ⟨rfl, rfl⟩ := CommandEvent.fetched.inj h
            exact absurd (same ▸ listed t) fresh.1
          · obtain ⟨rfl, rfl⟩ := CommandEvent.fetched.inj t
            exact absurd (same ▸ listed h) fresh.1
          · exact ih fresh.2 h t
      | engineStarted submission =>
          exact ih distinct (by simpa using here) (by simpa using there)
      | publish generation queue completion written =>
          exact ih distinct (by simpa using here) (by simpa using there)

/-- A completion belongs to a descriptor of its own generation. -/
theorem Owns.fetched_of_publish {commands : List CommandEvent} (owns : Owns commands) {generation : U32}
    {queue : CompletionQueue} {completion : Completion} {written : Bool}
    (published : .publish generation queue completion written ∈ commands) :
    ∃ submission, .fetched generation submission ∈ commands ∧ completion.identity = submission.identity := by
  induction commands with
  | nil => simp at published
  | cons event rest ih =>
      have older (earlier : Owns rest) (member : .publish generation queue completion written ∈ rest) :
          ∃ submission, .fetched generation submission ∈ event :: rest ∧
            completion.identity = submission.identity := by
        obtain ⟨submission, fetched, same⟩ := ih earlier member
        exact ⟨submission, List.mem_cons_of_mem _ fetched, same⟩
      cases event with
      | fetched _ _ => exact older owns (by simpa using published)
      | engineStarted _ => exact older owns (by simpa using published)
      | publish _ _ _ _ =>
          obtain ⟨⟨submission, last, same⟩, -, earlier⟩ := owns
          rcases List.mem_cons.mp published with here | later
          · obtain ⟨rfl, rfl, rfl, rfl⟩ := CommandEvent.publish.inj here
            exact ⟨submission, List.mem_cons_of_mem _ (mem_of_lastFetched last), same⟩
          · exact older earlier later

theorem Owns.respectsResets {commands : List CommandEvent} (owns : Owns commands) : RespectsResets commands := by
  intro distinct published inside fetched earlier
  cases published with
  | publish generation queue completion written =>
      cases fetched with
      | fetched before submission =>
          obtain ⟨owner, member, same⟩ := owns.fetched_of_publish inside
          by_cases named : submission.identity = completion.identity
          · have current := fetched_unique distinct earlier member (named.trans same)
            simp [crossesReset, current]
          · simp [crossesReset, named]
      | engineStarted | publish => rfl
  | fetched | engineStarted => rfl

/-- The descriptor that was fetched last has the highest number. -/
theorem mem_numbered_of_lastFetched {commands : List CommandEvent} {generation : U32} {submission : Submission}
    (last : lastFetched commands = some (generation, submission)) :
    ((numbered commands).length, submission) ∈ numbered commands := by
  induction commands with
  | nil => simp [lastFetched] at last
  | cons event rest ih =>
      cases event with
      | fetched other descriptor =>
          obtain ⟨-, rfl⟩ := Prod.mk.inj (Option.some.inj last)
          exact List.mem_cons_self
      | engineStarted _ => exact ih last
      | publish _ _ _ _ => exact ih last

end VamsSoc.Pcie
