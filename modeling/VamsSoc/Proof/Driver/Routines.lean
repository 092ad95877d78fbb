/-
This file has what the inner functions of the driver need and leave: the releases, the drain, and the cancellation.
-/

import VamsSoc.Proof.Driver.TableRules

namespace VamsSoc.Driver
open Library Abi

variable {δ : Type} {hw : Hardware δ} {share : Share} {α : Type}

section Quiet

/-- The program performs only operations that the ledger does not look at. -/
abbrev Quiet (code : Code α) : Prop :=
  code.Ensures (fun _ _ => True) (fun op => op.neutral = true) fun _ => True

/-- A quiet program leaves the share of its thread. -/
theorem safe_quiet {code : Code α} {post : α → Share → Prop} (quiet : Quiet code) (next : ∀ result, post result share) :
    Safe hw post share code := by
  induction code with
  | done result => exact Secures.done (next result)
  | perform op continues ih =>
      have first : Safe hw (fun reply share => Safe hw post share (continues reply)) share (call op) :=
        safe_neutral quiet.1 fun reply => ih reply (quiet.2 reply trivial)
      exact Secures.bind first

theorem quiet_deviceRelease : Quiet deviceRelease := by
  refine .op rfl fun fields _ => ?_
  dsimp only
  split
  · refine .op rfl fun _ _ => ?_
    split
    · exact .op rfl fun _ _ => .op rfl fun _ _ => .op rfl fun _ _ => trivial
    · exact .op rfl fun _ _ => .op rfl fun _ _ => trivial
  · split
    · exact .op rfl fun _ _ => .op rfl fun _ _ => .op rfl fun _ _ => trivial
    · exact .op rfl fun _ _ => .op rfl fun _ _ => trivial

theorem quiet_devicePut : Quiet devicePut := by
  refine .op rfl fun last _ => ?_
  cases last with
  | false => trivial
  | true => exact quiet_deviceRelease

theorem quiet_maskInterrupts : Quiet maskInterrupts :=
  .op rfl fun _ _ => .op rfl fun _ _ => trivial

theorem quiet_disableQueues : Quiet disableQueues := by
  refine .op rfl fun fields _ => ?_
  split
  · refine .op rfl fun _ _ => .op rfl fun _ _ => .op rfl fun _ _ => .op rfl fun _ _ => trivial
  · trivial

theorem quiet_resetByHost : Quiet resetByHost := by
  refine .op rfl fun fields _ => ?_
  split
  · trivial
  · exact .op rfl fun _ _ => trivial

theorem quiet_enableQueues : Quiet enableQueues := by
  refine .op rfl fun fields _ => .op rfl fun _ _ => .op rfl fun _ _ => .op rfl fun _ _ => ?_
  dsimp only
  split
  · refine .op rfl fun _ _ => .op rfl fun _ _ => .op rfl fun _ _ => .op rfl fun _ _ => ?_
    exact .op rfl fun _ _ => .op rfl fun _ _ => .op rfl fun _ _ => trivial
  · refine .op rfl fun _ _ => .op rfl fun _ _ => .op rfl fun _ _ => ?_
    exact .op rfl fun _ _ => .op rfl fun _ _ => .op rfl fun _ _ => trivial

theorem quiet_queuesStarted : Quiet queuesStarted := by
  refine .op rfl fun cqStatus _ => ?_
  split
  · trivial
  refine .op rfl fun sqStatus _ => ?_
  split
  · trivial
  · exact .op rfl fun _ _ => .op rfl fun _ _ => .op rfl fun _ _ => .op rfl fun _ _ => trivial

theorem quiet_configureQueues : Quiet configureQueues := by
  refine quiet_enableQueues.seq fun _ => quiet_queuesStarted.seq fun started => ?_
  cases started with
  | true => trivial
  | false => exact quiet_disableQueues.seq fun _ => trivial

theorem quiet_skipsRequest (staleOnly : Bool) (request : Nat) : Quiet (skipsRequest staleOnly request) := by
  cases staleOnly with
  | true => exact .op rfl fun _ _ => .op rfl fun _ _ => trivial
  | false => trivial

end Quiet

section Releases
variable {request : Nat}

theorem safe_fileReleaseRefs {file : Nat} {post : Unit → Share → Prop} (next : post () share) :
    Safe hw post (share.push (.dying (.file file))) (fileReleaseRefs file) := by
  refine .bind (safe_quiet quiet_devicePut fun _ => ?_)
  exact safe_free_file next

theorem safe_mappingPut {mapping : Option Nat} {post : Unit → Share → Prop} (sleeps : share.Sleeps)
    (next : post () share) : Safe hw post (Ledger.Mapped share mapping) (mappingPut mapping) := by
  cases mapping with
  | none =>
      rw [Ledger.mapped_none]
      exact .done next
  | some number =>
      rw [Ledger.mapped_some]
      refine .bind (safe_put ?_ ?_)
      · exact .done next
      · exact safe_free_mapping sleeps next

/-- A request that dies puts a reference and releases the object after the last one. -/
theorem safe_releaseReference (reference : Reference) {rest : Code Unit} {post : Unit → Share → Prop}
    (next : Safe hw post (share.clears reference) rest) :
    Safe hw post (share.push (.dying (.request reference.request)))
      (call (.putReference reference) >>= fun last => releaseObject last >>= fun _ => rest) := by
  refine .bind (safe_putReference ?_ ?_ ?_)
  · exact next
  · intro mapping
    exact .bind (safe_free_orphan next)
  · intro file
    exact .bind (safe_fileReleaseRefs next)

theorem safe_requestPut {post : Unit → Share → Prop} (next : post () share) :
    Safe hw post (share.push (.ref (.request request))) (requestPut request) := by
  refine .bind (safe_put ?_ ?_)
  · exact .done next
  · apply safe_releaseReference (.source request)
    apply safe_releaseReference (.destination request)
    apply safe_releaseReference (.owner request)
    exact safe_free_request next

end Releases

section Frames

theorem push_eq_add (share : Share) (token : Token) : share.push token = share + Share.push 0 token := by
  rw [add_comm, Share.push_add, zero_add]

theorem Share.Guards.push {request : Nat} (guards : share.Guards request) (token : Token) :
    (share.push token).Guards request := by
  rw [push_eq_add]
  exact guards.add _

theorem settles_cq (share : Share) (sights : List Sight) : (share.push (.holding ⟨.cq, sights⟩)).Settles := by
  right
  left
  rw [locks_holding]
  exact Multiset.mem_cons_self ..

theorem submits_holding (submitter : share.Submitter) (sights : List Sight) :
    (share.push (.holding ⟨.submit, sights⟩)).Submits := by
  refine ⟨?_, submitter⟩
  rw [locks_holding]
  exact Multiset.mem_cons_self ..

/-- A thread is proper whenever it performs an operation. -/
theorem safe_proper {op : Op} {rest : Reply op → Code α} {post : α → Share → Prop}
    (proper : share.Proper → Safe hw post share (call op >>= rest)) : Safe hw post share (call op >>= rest) := by
  intro choice s own others reply s' own' agrees ledger executed
  exact proper agrees.proper choice s own others reply s' own' agrees ledger executed

/-- Only two of the locks keep a thread proper. -/
theorem Share.Proper.unlock {lock : Lock} {sights : List Sight} (proper : (share.push (.holding ⟨lock, sights⟩)).Proper)
    (submit : lock ≠ .submit) (cq : lock ≠ .cq) : share.Proper := by
  have other : ∀ kept, kept ≠ lock → kept ∈ (share.push (.holding ⟨lock, sights⟩)).locks → kept ∈ share.locks := by
    intro kept differs member
    rw [locks_holding] at member
    exact (Multiset.mem_cons.mp member).resolve_left differs
  have submits : (share.push (.holding ⟨lock, sights⟩)).Submits → share.Submits := .imp_left (other _ submit.symm)
  exact {
    uncounted := fun some => submits (proper.uncounted some)
    unsettled := fun some => (proper.unsettled some).imp submits (.imp_left (other _ cq.symm))
    polls := fun some => (proper.polls some).imp_left submits
    frees := proper.frees }

/-- The other locks can be left at any time. -/
theorem safe_unlock_inner {lock : Lock} {sights : List Sight} {post : Unit → Share → Prop} (submit : lock ≠ .submit)
    (cq : lock ≠ .cq) (next : post () share) : Safe hw post (share.push (.holding ⟨lock, sights⟩)) (call (.unlock lock)) := by
  intro choice s own others reply s' own' agrees ledger executed
  exact safe_unlock (agrees.proper.unlock submit cq) next choice s own others reply s' own' agrees ledger executed

end Frames

section Retiring
variable {request : Nat}

theorem safe_retireRequest {post : Unit → Share → Prop} (next : post () share) :
    Safe hw post ((share.push (.retiring request)).push .erased) (retireRequest request) := by
  have guards := (guards_retiring share request).push .erased
  refine .bind (.bind (safe_readRequest guards fun _ => .done ?_))
  rw [Share.push_comm]
  refine .bind (safe_completeAll (.bind (safe_ownerOpen ?_ ?_)))
  · refine .bind (safe_incCompleted ?_)
    rw [Share.push_comm]
    exact .bind (safe_decPending (safe_requestPut next))
  · change Safe hw post _ (call .decPending >>= fun _ => requestPut request)
    rw [Share.push_comm]
    exact .bind (safe_decPending (safe_requestPut next))

/-- A thread that may take requests out of the device table retires what it finds there. -/
theorem safe_eraseRequest {commandId : U32} {post : Option Nat → Share → Prop} (settles : share.Settles)
    (absent : post none share) (found : ∀ request, post (some request) ((share.push (.retiring request)).push .erased)) :
    Safe hw post share (xaErase .device commandId) := by
  refine .bind (safe_lock (.bind (safe_erase_device settles ?_ ?_)))
  · exact .bind (safe_unlock_inner nofun nofun (.done absent))
  · intro request
    exact .bind (safe_unlock_inner nofun nofun (.done (found request)))

theorem safe_finishRequest {completion : Completion} {post : Bool → Share → Prop} (settles : share.Settles)
    (next : ∀ found, post found share) : Safe hw post share (finishRequest completion) := by
  refine .bind (safe_eraseRequest settles ?_ ?_)
  · exact .done (next false)
  · intro request
    have guards := (guards_retiring share request).push .erased
    refine .bind (safe_setRequest guards nofun (.bind (safe_setRequest guards nofun ?_)))
    exact .bind (safe_retireRequest (.done (next true)))

theorem safe_drainLoop (fuel : Nat) {tail : U32} {post : Nat → Share → Prop} (settles : share.Settles)
    (next : ∀ drained, post drained share) : Safe hw post share (drainLoop fuel tail) := by
  induction fuel generalizing post with
  | zero => exact .done (next 0)
  | succ fuel ih =>
      refine .bind (safe_neutral rfl fun fields => ?_)
      dsimp only
      split
      · exact .done (next 0)
      have rest : Safe hw post share (drainLoop fuel tail >>= fun drained => pure (drained + 1)) :=
        .bind (ih fun drained => .done (next (drained + 1)))
      refine .bind (safe_neutral rfl fun completion => .bind (safe_neutral rfl fun _ => ?_))
      refine .bind (safe_neutral rfl fun fields => ?_)
      split
      · refine .bind (safe_neutral rfl fun _ => .bind (safe_neutral rfl fun _ => ?_))
        exact .bind (safe_neutral rfl fun _ => rest)
      · exact .bind (safe_finishRequest settles fun _ => rest)

theorem safe_drainCq {post : Nat → Share → Prop} (next : ∀ drained, post drained share) :
    Safe hw post share drainCq := by
  refine .bind (safe_neutral rfl fun fields => ?_)
  split
  · exact .done (next 0)
  refine safe_proper fun proper => .bind (safe_lock (.bind (safe_neutral rfl fun tail => ?_)))
  split
  · exact .bind (safe_unlock proper (.done (next 0)))
  refine .bind (safe_drainLoop _ (settles_cq share []) fun drained => ?_)
  dsimp only
  split
  · refine .bind (safe_neutral rfl fun fields => .bind (safe_neutral rfl fun _ => ?_))
    exact .bind (safe_unlock proper (.done (next drained)))
  · exact .bind (safe_unlock proper (.done (next drained)))

end Retiring

section Resets

theorem safe_observeReset {post : Unit → Share → Prop} (next : post () share) : Safe hw post share observeReset := by
  refine .bind (safe_neutral rfl fun generation => .bind (safe_neutral rfl fun fields => ?_))
  split
  · exact .done next
  refine .bind (safe_neutral rfl fun reason => .bind (safe_lock (.bind (safe_neutral rfl fun fields => ?_))))
  have leave : Safe hw post (share.push (.holding ⟨.reset, []⟩)) (call (.unlock .reset)) :=
    safe_unlock_inner nofun nofun next
  dsimp only
  split
  · refine .bind (safe_neutral rfl fun _ => .bind (safe_neutral rfl fun _ => ?_))
    exact .bind (safe_neutral rfl fun _ => leave)
  · exact leave

/-- The poll work looks at the counter of the device after it has drained the queue. -/
theorem safe_cqPollWork {post : Unit → Share → Prop} (next : post () share) :
    Safe hw post (share.push .polls) cqPollWork := by
  refine .bind (safe_fields_polls ?_ ?_)
  · intro fields removing
    rw [if_pos removing]
    exact .done next
  · intro fields working
    rw [if_neg (ne_true_of_eq_false working)]
    refine .bind (safe_observeReset (.bind (safe_drainCq fun drained => .bind (safe_readPending ?_ ?_))))
    · intro pending none
      rw [if_neg none]
      exact .done next
    · intro pending some
      rw [if_pos some]
      exact safe_schedule_poll next

theorem safe_cancelLoop {status : Errno} {staleOnly : Bool} (fuel bound : Nat) {post : Unit → Share → Prop}
    (settles : share.Settles) (next : post () share) : Safe hw post share (cancelLoop status staleOnly fuel bound) := by
  induction fuel generalizing bound with
  | zero => exact .done next
  | succ fuel ih =>
      refine .bind (safe_neutral rfl fun entry => ?_)
      cases entry with
      | none => exact .done next
      | some entry =>
          refine .bind (safe_quiet (quiet_skipsRequest staleOnly entry.2) fun skips => ?_)
          cases skips with
          | true => exact ih _
          | false =>
              refine .bind (safe_eraseRequest settles (ih _) fun request => ?_)
              have guards := (guards_retiring share request).push .erased
              exact .bind (safe_setRequest guards nofun (.bind (safe_retireRequest (ih _))))

theorem safe_cancelRequests {status : Errno} {staleOnly : Bool} {post : Unit → Share → Prop} (settles : share.Settles)
    (next : post () share) : Safe hw post share (cancelRequests status staleOnly) :=
  safe_cancelLoop _ _ settles next

theorem safe_resetWork {post : Unit → Share → Prop} (submitter : share.Submitter) (next : post () share) :
    Safe hw post share resetWork := by
  refine safe_proper fun proper => .bind (safe_lock (.bind (safe_neutral rfl fun fields => ?_)))
  have leave : Safe hw post (share.push (.holding ⟨.submit, []⟩)) (call (.unlock .submit)) := safe_unlock proper next
  have cancel : Safe hw post (share.push (.holding ⟨.submit, []⟩))
      (cancelRequests .ecanceled true >>= fun _ => call (.unlock .submit)) :=
    .bind (safe_cancelRequests (.inl (submits_holding submitter [])) leave)
  dsimp only
  split
  · refine .bind (safe_quiet quiet_resetByHost fun byHost => ?_)
    cases byHost with
    | true => exact .bind (safe_neutral rfl fun _ => cancel)
    | false => exact cancel
  · exact leave

end Resets

section Interrupts

theorem safe_cqIrq {post : Unit → Share → Prop} (next : post () share) : Safe hw post share cqIrq := by
  refine .bind (safe_neutral rfl fun status => ?_)
  dsimp only
  split
  · exact .done next
  refine .bind (safe_drainCq fun drained => .bind (safe_neutral rfl fun _ => ?_))
  exact safe_neutral rfl fun _ => next

theorem safe_asyncIrq {post : Unit → Share → Prop} (next : post () share) : Safe hw post share asyncIrq := by
  refine .bind (safe_neutral rfl fun status => ?_)
  have acknowledge : Safe hw post share (call (.writel .intrStatus (status &&& intrAsync)) >>= fun _ =>
      call (.assign (.asyncTest true))) :=
    .bind (safe_neutral rfl fun _ => safe_neutral rfl fun _ => next)
  dsimp only
  split
  · exact .done next
  split
  · refine .bind (safe_neutral rfl fun _ => .bind (safe_neutral rfl fun _ => ?_))
    split
    · exact .bind (safe_observeReset acknowledge)
    · exact acknowledge
  · split
    · exact .bind (safe_observeReset acknowledge)
    · exact acknowledge

end Interrupts
end VamsSoc.Driver
