/-
This file has the rules for the operations on requests, on the counters, and on the work of the driver.
-/

import VamsSoc.Proof.Driver.Rules

namespace VamsSoc.Driver
open Library Abi

variable {δ : Type} {hw : Hardware δ} {share : Share}

section Drafts

theorem Ledger.opened_of_use {s : Shared δ} {h : Share} (ledger : Ledger s h) {file : Nat} (member : file ∈ h.uses) :
    (s.files file).opened = true := by
  apply ledger.usersOpened
  rw [ledger.users, Share.users]
  have present := Multiset.count_pos.mpr member
  omega

/-- A request is allocated for an open file, or for none. -/
theorem safe_allocRequest {owner : Option Nat} {post : Option Nat → Share → Prop}
    (uses : ∀ file, owner = some file → file ∈ share.uses) (fails : post none share)
    (given : ∀ request, post (some request) (Ledger.Drafted share request owner)) :
    Safe hw post share (call (.allocRequest owner)) := by
  apply safe_op
  intro choice s own rest reply s' own' agrees ledger executed
  simp only [exec] at executed
  split at executed
  · cases executed
    exact ⟨share, agrees, ledger, fails⟩
  · cases executed
    refine ⟨_, ?_, ?_, given s.requestCount⟩
    · refine agrees.take ?_ ⟨rfl, rfl, rfl, le_rfl, le_rfl, le_rfl⟩
      exact Share.held_draft ..
    · rw [Ledger.Drafted, Share.push_add, Share.push_add, Share.push_add]
      apply ledger.newRequest
      intro file same
      exact ledger.opened_of_use (Multiset.mem_add.mpr (.inl (uses file same)))

/-- A thread that gives its mappings away keeps the rest. -/
theorem giveMappings_eq {held : Multiset Object} {own : Own} (source destination : Option Nat)
    (refs : own.refs = (destination.toList.map Object.mapping : List Object) +
      ((source.toList.map Object.mapping : List Object) + held)) :
    (own.giveMapping source).giveMapping destination = { own with refs := held } := by
  cases source with
  | none =>
      cases destination with
      | none =>
          have same : own.refs = held := by simpa using refs
          rw [← same]
          rfl
      | some second => simp [Own.giveMapping, Own.give, refs]
  | some first =>
      cases destination with
      | none => simp [Own.giveMapping, Own.give, refs]
      | some second => simp [Own.giveMapping, Own.give, refs]

theorem Ledger.mapped_add (h rest : Share) (mapping : Option Nat) :
    Ledger.Mapped h mapping + rest = Ledger.Mapped (h + rest) mapping := by
  cases mapping with
  | none => rw [Ledger.mapped_none, Ledger.mapped_none]
  | some number => rw [Ledger.mapped_some, Ledger.mapped_some, Share.push_add]

/-- The thread sees the entry of a mapping in the table of a file that it uses. -/
def Share.SeesMapping (share : Share) (mapping : Nat) : Prop :=
  ∃ file ∈ share.uses, ∃ holding ∈ share.holdings, ∃ sight ∈ holding.sights,
    sight.index = .mappings file ∧ sight.value = mapping

theorem Share.SeesMapping.add {mapping : Nat} (sees : share.SeesMapping mapping) (rest : Share) :
    (share + rest).SeesMapping mapping := by
  obtain ⟨file, used, holding, inside, seen⟩ := sees
  exact ⟨file, Multiset.mem_add.mpr (.inl used), holding, Multiset.mem_add.mpr (.inl inside), seen⟩

theorem Ledger.listed_mapping {s : Shared δ} (ledger : Ledger s share) {mapping : Nat}
    (sees : share.SeesMapping mapping) :
    0 < (s.tables (.mappings (s.mappings mapping).file)).count mapping ∧
      (s.files (s.mappings mapping).file).opened = true := by
  obtain ⟨file, used, holding, inside, sight, seen, index, rfl⟩ := sees
  have present := (ledger.sights holding inside sight seen).1.1
  rw [index] at present
  have owner : (s.mappings sight.value).file = file := ledger.belongs _ _ _ present
  rw [owner]
  exact ⟨Table.count_pos.mpr ⟨_, present⟩, ledger.opened_of_use used⟩

/-- A request takes over the references to its mappings. -/
theorem safe_setMappings {request : Nat} {source destination : Option Nat} {post : Unit → Share → Prop}
    (guards : share.Guards request)
    (sees : ∀ mapping, source = some mapping ∨ destination = some mapping → share.SeesMapping mapping)
    (next : post () share) :
    Safe hw post ((Ledger.Mapped (Ledger.Mapped share source) destination).push (.bare request))
      (call (.setMappings request source destination)) := by
  apply safe_op
  intro choice s own rest reply s' own' agrees ledger executed
  rw [Share.push_add, Ledger.mapped_add, Ledger.mapped_add] at ledger
  have kept : (Ledger.Mapped (Ledger.Mapped (share + rest) source) destination).Guards request := by
    refine (guards.add rest).imp_left fun member => ?_
    rw [Ledger.held_mapped, Ledger.held_mapped]
    exact Multiset.mem_add.mpr (.inr (Multiset.mem_add.mpr (.inr member)))
  have live : 0 < s.book.refs (.request request) := ledger.guarded kept
  have untouched : s.touch (.setMappings request source destination) = s := ledger.touch_live rfl live
  simp only [exec, untouched] at executed
  cases executed
  refine ⟨share, ?_, ?_, next⟩
  · have held := agrees.refs
    change own.refs = (Ledger.Mapped (Ledger.Mapped share source) destination).held at held
    rw [Ledger.held_mapped, Ledger.held_mapped] at held
    rw [giveMappings_eq source destination held]
    have within : share.Within ((Ledger.Mapped (Ledger.Mapped share source) destination).push (.bare request)) :=
      ⟨rfl, rfl, rfl, le_rfl, le_rfl, le_rfl⟩
    exact agrees.setRefs rfl rfl rfl (within.proper agrees.proper)
  · refine ledger.setMappings (fun mapping linked => ?_) live
    exact ledger.listed_mapping ((sees mapping linked).add rest)

/-- A draft gets another command ID. -/
theorem safe_setCommandId {draft : Draft} {commandId : U32} {post : Unit → Share → Prop}
    (next : post () (share.push (.draft { draft with commandId }))) :
    Safe hw post (share.push (.draft draft)) (call (.setRequest draft.request (.commandId commandId))) := by
  apply safe_op
  intro choice s own rest reply s' own' agrees ledger executed
  rw [Share.push_add] at ledger
  have untouched : s.touch (.setRequest draft.request (.commandId commandId)) = s :=
    ledger.touch_live rfl ledger.draft_live
  simp only [exec, untouched] at executed
  cases executed
  refine ⟨_, ?_, ?_, next⟩
  · exact agrees.keep (by rw [Share.held_draft, Share.held_draft]) ⟨rfl, rfl, rfl, le_rfl, le_rfl, le_rfl⟩
  · rw [Share.push_add]
    exact ledger.assign_commandId commandId

/-- The record of a draft has the owner and the command ID of the draft. -/
theorem safe_readDraft {draft : Draft} {post : Request → Share → Prop}
    (next : ∀ record : Request, record.owner = draft.owner → record.commandId = draft.commandId →
      post record (share.push (.draft draft))) :
    Safe hw post (share.push (.draft draft)) (call (.readRequest draft.request)) := by
  apply safe_op
  intro choice s own rest reply s' own' agrees ledger executed
  rw [Share.push_add] at ledger
  have untouched : s.touch (.readRequest draft.request) = s := ledger.touch_live rfl ledger.draft_live
  obtain ⟨owner, commandId⟩ := ledger.drafts draft (Multiset.mem_cons_self ..)
  simp only [exec, untouched] at executed
  cases executed
  refine ⟨_, agrees, ?_, next _ owner commandId⟩
  rw [Share.push_add]
  exact ledger

end Drafts

section Requests
variable {request : Nat}

/-- The fields but the command ID can change while the request lives. -/
theorem safe_setRequest {field : RequestField} {post : Unit → Share → Prop} (guards : share.Guards request)
    (other : ∀ commandId, field ≠ .commandId commandId) (next : post () share) :
    Safe hw post share (call (.setRequest request field)) := by
  apply safe_op
  intro choice s own rest reply s' own' agrees ledger executed
  have live := ledger.guarded (guards.add rest)
  have untouched : s.touch (.setRequest request field) = s := ledger.touch_live rfl live
  simp only [exec, untouched] at executed
  cases executed
  refine ⟨share, agrees, ledger.assign (ledger.request_inside live) ?_, next⟩
  cases field with
  | commandId commandId => exact (other commandId rfl).elim
  | _ => rfl

theorem safe_readRequest {post : Request → Share → Prop} (guards : share.Guards request)
    (next : ∀ record, post record share) : Safe hw post share (call (.readRequest request)) := by
  apply safe_op
  intro choice s own rest reply s' own' agrees ledger executed
  have untouched : s.touch (.readRequest request) = s := ledger.touch_live rfl (ledger.guarded (guards.add rest))
  simp only [exec, untouched] at executed
  cases executed
  exact ⟨share, agrees, ledger, next _⟩

/-- A request in the table of its file has the command ID that it is listed under. -/
theorem safe_readListed {file : Nat} {key : U32} {sole : Bool} {sights : List Sight} {post : Request → Share → Prop}
    (seen : ⟨.requests file, key, request, sole⟩ ∈ sights)
    (next : ∀ record : Request, record.commandId = key → post record (share.push (.holding ⟨.file file, sights⟩))) :
    Safe hw post (share.push (.holding ⟨.file file, sights⟩)) (call (.readRequest request)) := by
  apply safe_op
  intro choice s own rest reply s' own' agrees ledger executed
  rw [Share.push_add] at ledger
  have present := (ledger.sights _ (Multiset.mem_cons_self ..) _ seen).1.1
  have untouched : s.touch (.readRequest request) = s := ledger.touch_live rfl (ledger.live_entry present)
  simp only [exec, untouched] at executed
  cases executed
  refine ⟨_, agrees, ?_, next _ (ledger.named file key request present)⟩
  rw [Share.push_add]
  exact ledger

theorem safe_completionDone {post : Bool → Share → Prop} (guards : share.Guards request)
    (done : post true (share.push (.shown request))) (waits : post false share) :
    Safe hw post share (call (.completionDone request)) := by
  apply safe_op
  intro choice s own rest reply s' own' agrees ledger executed
  have untouched : s.touch (.completionDone request) = s := ledger.touch_live rfl (ledger.guarded (guards.add rest))
  simp only [exec, untouched] at executed
  cases executed
  cases ended : (s.requests request).done with
  | false => exact ⟨share, agrees, ledger, waits⟩
  | true =>
      refine ⟨_, ?_, ?_, done⟩
      · exact agrees.keep rfl ⟨rfl, rfl, rfl, le_rfl, le_rfl, le_rfl⟩
      · rw [Share.push_add]
        exact ledger.known_shown ended

/-- A debt for a request that is not done was made too early and is forgiven. -/
theorem safe_completionDone_owed {file : Nat} {post : Bool → Share → Prop} (guards : share.Guards request)
    (done : post true (share.push (.owed file request))) (early : post false (share.push (.use file))) :
    Safe hw post (share.push (.owed file request)) (call (.completionDone request)) := by
  apply safe_op
  intro choice s own rest reply s' own' agrees ledger executed
  rw [Share.push_add] at ledger
  have untouched : s.touch (.completionDone request) = s := ledger.touch_live rfl (ledger.guarded (guards.add rest))
  simp only [exec, untouched] at executed
  cases executed
  cases ended : (s.requests request).done with
  | false =>
      refine ⟨_, ?_, ?_, early⟩
      · exact agrees.keep rfl ⟨rfl, rfl, rfl, le_rfl, le_rfl, le_rfl⟩
      · rw [Share.push_add]
        exact ledger.forgive ended
  | true =>
      refine ⟨_, agrees, ?_, done⟩
      rw [Share.push_add]
      exact ledger

theorem safe_waitForCompletion {post : Option Errno → Share → Prop} (guards : share.Guards request)
    (done : post none (share.push (.shown request))) (fails : ∀ error, post (some error) share) :
    Safe hw post share (call (.waitForCompletion request)) := by
  apply safe_op
  intro choice s own rest reply s' own' agrees ledger executed
  have untouched : s.touch (.waitForCompletion request) = s :=
    ledger.touch_live rfl (ledger.guarded (guards.add rest))
  simp only [exec, untouched] at executed
  split at executed
  · next ended =>
      cases executed
      refine ⟨_, ?_, ?_, done⟩
      · exact agrees.keep rfl ⟨rfl, rfl, rfl, le_rfl, le_rfl, le_rfl⟩
      · rw [Share.push_add]
        exact ledger.known_shown ended
  · split at executed
    · next error =>
        cases executed
        rcases error with timeout | signal
        · exact ⟨share, agrees, ledger, timeout ▸ fails .etimedout⟩
        · exact ⟨share, agrees, ledger, signal ▸ fails .erestartsys⟩
    · cases executed

end Requests

section Completions
variable {request : Nat}

theorem unsettled_retiring (share : Share) (request : Nat) :
    (share.push (.retiring request)).unsettled = share.unsettled + 1 := by
  simp only [Share.unsettled, Share.push, Multiset.card_cons]
  omega

theorem unsettled_announcing (share : Share) (request : Nat) :
    (share.push (.announcing request)).unsettled = share.unsettled + 1 := by
  simp only [Share.unsettled, Share.push, Multiset.card_cons]
  omega

theorem guards_retiring (share : Share) (request : Nat) : (share.push (.retiring request)).Guards request := by
  left
  rw [Share.held_retiring]
  exact Multiset.mem_cons_self ..

theorem guards_announcing (share : Share) (request : Nat) : (share.push (.announcing request)).Guards request := by
  left
  rw [Share.held_announcing]
  exact Multiset.mem_cons_self ..

/-- A request that left the device table is completed. -/
theorem safe_completeAll {post : Unit → Share → Prop} (next : post () (share.push (.announcing request))) :
    Safe hw post (share.push (.retiring request)) (call (.completeAll request)) := by
  apply safe_op
  intro choice s own rest reply s' own' agrees ledger executed
  have untouched : s.touch (.completeAll request) = s :=
    ledger.touch_live rfl (ledger.guarded ((guards_retiring share request).add rest))
  simp only [exec, untouched] at executed
  cases executed
  refine ⟨_, ?_, ?_, next⟩
  · refine agrees.keep ?_ ⟨rfl, rfl, rfl, le_rfl, ?_, le_rfl⟩
    · rw [Share.held_announcing, Share.held_retiring]
    · rw [unsettled_announcing, unsettled_retiring]
  · rw [Share.push_add] at ledger ⊢
    exact ledger.completeAll

/-- A request without an open owner is not counted. -/
theorem safe_ownerOpen {post : Bool → Share → Prop} (opened : post true (share.push (.announcing request)))
    (closed : post false (share.push (.ref (.request request)))) :
    Safe hw post (share.push (.announcing request)) (call (.ownerOpen request)) := by
  apply safe_op
  intro choice s own rest reply s' own' agrees ledger executed
  have untouched : s.touch (.ownerOpen request) = s :=
    ledger.touch_live rfl (ledger.guarded ((guards_announcing share request).add rest))
  simp only [exec, untouched] at executed
  cases executed
  cases owned : s.ownerOpen request with
  | true => exact ⟨_, agrees, ledger, opened⟩
  | false =>
      refine ⟨_, ?_, ?_, closed⟩
      · refine agrees.keep ?_ ⟨rfl, rfl, rfl, le_rfl, ?_, le_rfl⟩
        · rw [Share.held_announcing, Share.held_ref]
        · rw [unsettled_announcing]
          exact Nat.le_succ _
      · rw [Share.push_add] at ledger ⊢
        exact ledger.pass owned

theorem safe_incCompleted {post : Unit → Share → Prop} (next : post () (share.push (.ref (.request request)))) :
    Safe hw post (share.push (.announcing request)) (call (.incCompleted request)) := by
  apply safe_op
  intro choice s own rest reply s' own' agrees ledger executed
  have untouched : s.touch (.incCompleted request) = s :=
    ledger.touch_live rfl (ledger.guarded ((guards_announcing share request).add rest))
  simp only [exec, untouched] at executed
  cases executed
  refine ⟨_, ?_, ?_, next⟩
  · refine agrees.keep ?_ ⟨rfl, rfl, rfl, le_rfl, ?_, le_rfl⟩
    · rw [Share.held_announcing, Share.held_ref]
    · rw [unsettled_announcing]
      exact Nat.le_succ _
  · rw [Share.push_add] at ledger ⊢
    exact ledger.count_completed

theorem safe_decPending {post : Unit → Share → Prop} (next : post () share) :
    Safe hw post (share.push .erased) (call .decPending) := by
  apply safe_op
  intro choice s own rest reply s' own' agrees ledger executed
  cases executed
  rw [Share.push_add] at ledger
  refine ⟨share, agrees.keep rfl ⟨rfl, rfl, rfl, le_rfl, ?_, le_rfl⟩, ledger.decPending, next⟩
  simp only [Share.unsettled, Share.push]
  omega

/-- The submission is counted, and the counter has to be looked at. -/
theorem safe_incPending {post : Unit → Share → Prop} (next : post () (share.push .polls)) :
    Safe hw post (share.push .uncounted) (call .incPending) := by
  apply safe_op
  intro choice s own rest reply s' own' agrees ledger executed
  cases executed
  rw [Share.push_add] at ledger
  have submits : share.Submits := agrees.proper.uncounted (Nat.succ_pos _)
  refine ⟨share.push .polls, ?_, ?_, next⟩
  · refine agrees.setRefs agrees.refs rfl rfl ⟨?_, ?_, ?_, agrees.proper.frees⟩
    · intro _
      exact submits
    · exact agrees.proper.unsettled
    · intro _
      exact .inl submits
  · rw [Share.push_add]
    exact ledger.incPending

/-- A call pays what it owes to the counter of its file. -/
theorem safe_decCompleted {file : Nat} {post : Unit → Share → Prop} (next : post () (share.push (.use file))) :
    Safe hw post (share.push (.owed file request)) (call (.decCompleted file)) := by
  apply safe_op
  intro choice s own rest reply s' own' agrees ledger executed
  cases executed
  rw [Share.push_add] at ledger
  refine ⟨_, ?_, ?_, next⟩
  · exact agrees.keep rfl ⟨rfl, rfl, rfl, le_rfl, le_rfl, le_rfl⟩
  · rw [Share.push_add]
    exact ledger.pay

/-- The answer of a wait that took its request. -/
theorem safe_answer {post : Unit → Share → Prop} (next : post () share) :
    Safe hw post (share.push (.reaped request)) (call (.answerWait request none)) := by
  apply safe_op
  intro choice s own rest reply s' own' agrees ledger executed
  cases executed
  rw [Share.push_add] at ledger
  exact ⟨share, agrees.keep rfl ⟨rfl, rfl, rfl, le_rfl, le_rfl, le_rfl⟩, ledger.answer, next⟩

theorem safe_answer_error {error : Errno} {post : Unit → Share → Prop} (next : post () share) :
    Safe hw post share (call (.answerWait request (some error))) := by
  apply safe_op
  intro choice s own rest reply s' own' agrees ledger executed
  cases executed
  exact ⟨share, agrees, ledger.answer_error request error, next⟩

end Completions

section Polling

theorem Agrees.unpoll {own : Own} (agrees : Agrees own (share.push .polls)) : Agrees own share := by
  refine agrees.keep rfl ⟨rfl, rfl, rfl, le_rfl, le_rfl, ?_⟩
  simp only [Share.push]
  omega

/-- The poll work need not look at the counter of a device that is being removed. -/
theorem safe_fields_polls {post : Fields → Share → Prop}
    (removing : ∀ fields : Fields, fields.removing = true → post fields share)
    (working : ∀ fields : Fields, fields.removing = false → post fields (share.push .polls)) :
    Safe hw post (share.push .polls) (call .fields) := by
  apply safe_op
  intro choice s own rest reply s' own' agrees ledger executed
  cases executed
  rw [Share.push_add] at ledger
  cases seen : s.fields.removing with
  | true => exact ⟨share, agrees.unpoll, ledger.unpoll (.inl seen), removing _ seen⟩
  | false =>
      refine ⟨_, agrees, ?_, working _ seen⟩
      rw [Share.push_add]
      exact ledger

theorem safe_readPending {post : Int → Share → Prop} (none : ∀ pending : Int, ¬0 < pending → post pending share)
    (some : ∀ pending : Int, 0 < pending → post pending (share.push .polls)) :
    Safe hw post (share.push .polls) (call .readPending) := by
  apply safe_op
  intro choice s own rest reply s' own' agrees ledger executed
  cases executed
  rw [Share.push_add] at ledger
  by_cases positive : 0 < s.pendingRequests
  · refine ⟨_, agrees, ?_, some _ positive⟩
    rw [Share.push_add]
    exact ledger
  · exact ⟨share, agrees.unpoll, ledger.unpoll (.inr (.inr (by omega))), none _ positive⟩

theorem safe_schedule_poll {post : Unit → Share → Prop} (next : post () share) :
    Safe hw post (share.push .polls) (call (.schedule .cqPoll)) := by
  apply safe_op
  intro choice s own rest reply s' own' agrees ledger executed
  cases executed
  rw [Share.push_add] at ledger
  exact ⟨share, agrees.unpoll, (ledger.schedule_poll _).unpoll (.inr (.inl rfl)), next⟩

/-- A thread that starts the removal knows that it has started. -/
theorem safe_assign_removing {post : Unit → Share → Prop} (next : post () (share.push .removes)) :
    Safe hw post share (call (.assign .removing)) := by
  apply safe_op
  intro choice s own rest reply s' own' agrees ledger executed
  cases executed
  have kept := ledger.setFields (removing_assign s.fields .removing)
  refine ⟨_, ?_, ?_, next⟩
  · exact agrees.keep rfl ⟨rfl, rfl, rfl, le_rfl, le_rfl, le_rfl⟩
  · rw [Share.push_add]
    exact kept.known_removing rfl

theorem safe_cancel_poll {post : Unit → Share → Prop} (next : post () (share.push .removes)) :
    Safe hw post (share.push .removes) (call (.cancelSync .cqPoll)) := by
  apply safe_op
  intro choice s own rest reply s' own' agrees ledger executed
  simp only [exec] at executed
  split at executed
  · cases executed
  · cases executed
    rw [Share.push_add] at ledger
    refine ⟨_, agrees, ?_, next⟩
    rw [Share.push_add]
    exact ledger.cancel_poll {}

end Polling
end VamsSoc.Driver
