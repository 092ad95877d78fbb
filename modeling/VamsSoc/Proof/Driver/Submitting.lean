/-
This file has what a submission needs and leaves: a draft becomes a request that both tables have.
-/

import VamsSoc.Proof.Driver.Routines

namespace VamsSoc.Driver
open Library Abi

variable {δ : Type} {hw : Hardware δ} {share : Share} {request : Nat} {owner : Option Nat} {key : U32}

/-- A thread that submits for a file has the lock of the file. -/
def Share.Under (share : Share) (owner : Option Nat) (sights : List Sight) : Share :=
  match owner with
  | some file => share.push (.holding ⟨.file file, sights⟩)
  | none => share

/-- The request is a draft under this command ID. -/
def Share.Unlisted (share : Share) (request : Nat) (owner : Option Nat) (key : U32) : Share :=
  (share.Under owner []).push (.draft ⟨request, owner, key⟩)

/-- The request is in the table of its file, or it has no file and stays a draft. -/
def Share.Listed (share : Share) (request : Nat) (owner : Option Nat) (key : U32) : Share :=
  match owner with
  | some file => share.push (.holding ⟨.file file, [⟨.requests file, key, request, false⟩]⟩)
  | none => share.push (.draft ⟨request, none, key⟩)

section Shapes

theorem unlisted_some (share : Share) (request file : Nat) (key : U32) :
    share.Unlisted request (some file) key =
      (share.push (.holding ⟨.file file, []⟩)).push (.draft ⟨request, some file, key⟩) := rfl

theorem unlisted_none (share : Share) (request : Nat) (key : U32) :
    share.Unlisted request none key = share.push (.draft ⟨request, none, key⟩) := rfl

theorem unlisted_push (token : Token) :
    (share.Unlisted request owner key).push token = (share.push token).Unlisted request owner key := by
  cases owner with
  | none => exact Share.push_comm ..
  | some file => rw [unlisted_some, unlisted_some, Share.push_comm, Share.push_comm share]

theorem listed_push (token : Token) :
    (share.Listed request owner key).push token = (share.push token).Listed request owner key := by
  cases owner <;> exact Share.push_comm ..

theorem lists_listed : (share.Listed request owner key).Lists request := by
  cases owner with
  | none => exact .inl ⟨_, Multiset.mem_cons_self .., rfl, rfl⟩
  | some file => exact .inr ⟨_, Multiset.mem_cons_self .., _, List.mem_singleton_self _, file, rfl, rfl⟩

theorem guards_listed : (share.Listed request owner key).Guards request := by
  cases owner with
  | none =>
      left
      rw [Share.Listed, Share.held_draft]
      exact Multiset.mem_cons_self ..
  | some file => exact .inr ⟨_, Multiset.mem_cons_self .., _, List.mem_singleton_self _, rfl⟩

/-- Under its own command ID or another one, a submission that has ended is proper where its draft was. -/
theorem within_unlisted (later : U32) : ((share.Unlisted request owner later).push (.fresh request)).Within
    ((share.Unlisted request owner key).push (.fresh request)) := by
  cases owner <;> exact ⟨rfl, rfl, rfl, le_rfl, le_rfl, le_rfl⟩

theorem within_listed (later : U32) : ((share.Listed request owner later).push (.shown request)).Within
    ((share.Unlisted request owner key).push (.fresh request)) := by
  cases owner with
  | none => exact ⟨rfl, rfl, rfl, le_rfl, le_rfl, le_rfl⟩
  | some file =>
      refine ⟨?_, rfl, rfl, le_rfl, le_rfl, le_rfl⟩
      change (share.push _).locks = (share.push _).locks
      rw [locks_holding, locks_holding]

end Shapes

section Tracking

theorem safe_listRequest {post : Option Errno → Share → Prop}
    (fails : ∀ error, post (some error) ((share.Unlisted request owner key).push (.fresh request)))
    (listed : post none ((share.Listed request owner key).push (.fresh request))) :
    Safe hw post ((share.Unlisted request owner key).push (.fresh request)) (listRequest owner key request) := by
  cases owner with
  | none => exact .done listed
  | some file =>
      have below : (share.Unlisted request (some file) key).push (.fresh request) =
          ((share.push (.draft ⟨request, some file, key⟩)).push (.fresh request)).push (.holding ⟨.file file, []⟩) := by
        rw [unlisted_some, Share.push_comm share, Share.push_comm _ (.holding _)]
      rw [below] at fails ⊢
      refine safe_insert_listed fails ?_
      rw [Share.push_comm]
      exact listed

theorem safe_get_listed {post : Unit → Share → Prop}
    (next : post () (((share.Listed request owner key).push (.ref (.request request))).push (.fresh request))) :
    Safe hw post ((share.Listed request owner key).push (.fresh request)) (call (.get (.request request))) := by
  rw [Share.push_comm, listed_push] at next
  rw [listed_push]
  cases owner with
  | none => exact safe_get_draft next
  | some file =>
      refine safe_get (List.mem_singleton_self ⟨.requests file, key, request, false⟩) ?_ next
      intro other member sole
      rw [List.mem_singleton.mp member] at sole
      cases sole

/-- A request that no table of the device has leaves the table of its file again. -/
theorem safe_unlistRequest {post : Unit → Share → Prop}
    (next : post () ((share.Unlisted request owner key).push (.fresh request))) :
    Safe hw post ((share.Listed request owner key).push (.fresh request)) (unlistRequest owner key) := by
  cases owner with
  | none => exact .done next
  | some file =>
      rw [listed_push]
      refine .bind (safe_erase_unlist (List.mem_singleton_self _) (Multiset.mem_cons_self ..) (.done ?_))
      rw [unlisted_push, unlisted_some, Share.push_comm] at next
      exact next

theorem safe_insertRequest {post : Option Errno → Share → Prop} (submits : share.Submits)
    (lists : share.Lists request)
    (fails : ∀ error, post (some error) ((share.push (.ref (.request request))).push (.fresh request)))
    (tracked : post none ((share.push .uncounted).push (.shown request))) :
    Safe hw post ((share.push (.ref (.request request))).push (.fresh request)) (xaInsert .device key request) := by
  refine .bind (safe_lock (.bind (safe_insert_device submits lists ?_ ?_)))
  · intro error
    exact .bind (safe_unlock_inner nofun nofun (.done (fails error)))
  · exact .bind (safe_unlock_inner nofun nofun (.done tracked))

theorem submits_listed (submits : share.Submits) : (share.Listed request owner key).Submits := by
  cases owner with
  | none => exact submits
  | some file =>
      refine ⟨?_, submits.2⟩
      change .submit ∈ (share.push _).locks
      rw [locks_holding]
      exact Multiset.mem_cons_of_mem submits.1

/-- The request gets a command ID under which both tables take it, or it stays a draft. -/
theorem safe_trackLoop (attempts : Nat) {key : U32} {post : Option Errno → Share → Prop}
    (submits : share.Submits)
    (fails : ∀ error key, post (some error) ((share.Unlisted request owner key).push (.fresh request)))
    (tracked : ∀ key, post none (((share.Listed request owner key).push .uncounted).push (.shown request))) :
    Safe hw post ((share.Unlisted request owner key).push (.fresh request)) (trackLoop request attempts) := by
  induction attempts generalizing key with
  | zero => exact .done (fails _ key)
  | succ attempts ih =>
      refine .bind (safe_neutral rfl fun commandId => ?_)
      dsimp only
      split
      · exact ih
      rw [Share.Unlisted, Share.push_comm]
      refine .bind (safe_setCommandId (.bind (safe_readDraft ?_)))
      rintro record rfl -
      rw [Share.push_comm]
      refine .bind (safe_listRequest ?_ ?_)
      · intro error
        split
        · exact ih
        · exact .done (fails _ _)
        · next absent => cases absent
      · refine .bind (safe_get_listed (.bind (safe_insertRequest (submits_listed submits) lists_listed ?_ ?_)))
        · intro error
          dsimp only
          rw [Share.push_comm]
          refine .bind (safe_requestPut (.bind (safe_unlistRequest ?_)))
          split
          · exact ih
          · exact .done (fails _ _)
        · exact .done (tracked commandId)

end Tracking

section Publishing

/-- The request is published and counted, and the poll work is scheduled for it. -/
theorem safe_publishRequest {descriptor : Submission} {nextTail : U32} {post : Unit → Share → Prop}
    (guards : share.Guards request) (next : post () share) :
    Safe hw post (share.push .uncounted) (publishRequest request descriptor nextTail) := by
  have counted := guards.push .uncounted
  refine .bind (safe_neutral rfl fun fields => .bind (safe_readRequest counted fun record => ?_))
  refine .bind (safe_neutral rfl fun _ => .bind (.bind (safe_readRequest counted fun _ => .done ?_)))
  refine .bind (safe_lock (.bind (safe_neutral rfl fun fields => ?_)))
  refine .bind (safe_setRequest (counted.push _) nofun ?_)
  rw [Share.push_comm]
  refine .bind (safe_incPending (.bind (safe_neutral rfl fun _ => .bind (safe_neutral rfl fun fields => ?_))))
  rw [Share.push_comm]
  refine .bind (safe_neutral rfl fun _ => .bind (safe_unlock_inner nofun nofun (.bind (safe_readPending ?_ ?_))))
  · intro pending none
    rw [if_neg none]
    exact .done next
  · intro pending some
    rw [if_pos some]
    exact safe_schedule_poll next

theorem safe_submitLocked {descriptor : Submission} {post : Option Errno → Share → Prop}
    (submits : share.Submits)
    (fails : ∀ error key, post (some error) ((share.Unlisted request owner key).push (.fresh request)))
    (submitted : ∀ key, post none ((share.Listed request owner key).push (.shown request))) :
    Safe hw post ((share.Unlisted request owner key).push (.fresh request)) (submitLocked request descriptor) := by
  refine .bind (safe_neutral rfl fun fields => ?_)
  split
  · exact .done (fails _ _)
  refine .bind (safe_neutral rfl fun fields => ?_)
  split
  · exact .done (fails _ _)
  refine .bind (safe_drainCq fun _ => .bind (safe_neutral rfl fun sqHead => ?_))
  split
  · exact .done (fails _ _)
  refine .bind (safe_neutral rfl fun fields => ?_)
  dsimp only
  split
  · exact .done (fails _ _)
  refine .bind (safe_trackLoop _ submits ?_ ?_)
  · intro error key
    exact .done (fails error key)
  · intro key
    rw [Share.push_comm]
    exact .bind (safe_publishRequest (guards_listed.push _) (.done (submitted key)))

/-- The submission ends as a request that both tables had, or with the draft. -/
theorem safe_submit {descriptor : Submission} {post : Option Errno → Share → Prop} (submitter : share.Submitter)
    (fails : ∀ error key, post (some error) ((share.Unlisted request owner key).push (.fresh request)))
    (submitted : ∀ key, post none ((share.Listed request owner key).push (.shown request))) :
    Safe hw post ((share.Unlisted request owner key).push (.fresh request)) (submit request descriptor) := by
  refine safe_proper fun proper => .bind (safe_lock ?_)
  have locked : ∀ {key}, ((share.Unlisted request owner key).push (.fresh request)).push (.holding ⟨.submit, []⟩) =
      ((share.push (.holding ⟨.submit, []⟩)).Unlisted request owner key).push (.fresh request) := by
    intro key
    rw [Share.push_comm, unlisted_push]
  rw [locked]
  refine .bind (safe_submitLocked (submits_holding submitter []) ?_ ?_)
  · intro error later
    rw [← locked]
    exact .bind (safe_unlock ((within_unlisted later).proper proper) (.done (fails error later)))
  · intro later
    rw [← listed_push, Share.push_comm]
    exact .bind (safe_unlock ((within_listed later).proper proper) (.done (submitted later)))

end Publishing
end VamsSoc.Driver
