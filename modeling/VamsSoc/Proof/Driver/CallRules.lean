/-
This file has what the calls on an open file need and leave.
-/

import VamsSoc.Proof.Driver.Submitting

namespace VamsSoc.Driver
open Library Abi

variable {δ : Type} {hw : Hardware δ} {share : Share} {file request : Nat}

section Frames

theorem Share.Sleeps.under (sleeps : share.Sleeps) (lock : Lock) (sights : List Sight) (other : lock ≠ .cq) :
    (share.push (.holding ⟨lock, sights⟩)).Sleeps := by
  refine ⟨?_, sleeps.2⟩
  rw [locks_holding, Multiset.mem_cons]
  exact not_or.mpr ⟨other.symm, sleeps.1⟩

theorem mapped_push (share : Share) (mapping : Option Nat) (token : Token) :
    (Ledger.Mapped share mapping).push token = Ledger.Mapped (share.push token) mapping := by
  cases mapping with
  | none => rw [Ledger.mapped_none, Ledger.mapped_none]
  | some number => rw [Ledger.mapped_some, Ledger.mapped_some, Share.push_comm]

theorem Share.Sleeps.mapped (sleeps : share.Sleeps) (mapping : Option Nat) : (Ledger.Mapped share mapping).Sleeps := sleeps

theorem guards_ref (share : Share) (request : Nat) : (share.push (.ref (.request request))).Guards request := by
  left
  rw [Share.held_ref]
  exact Multiset.mem_cons_self ..

theorem guards_draft (share : Share) (draft : Draft) : (share.push (.draft draft)).Guards draft.request := by
  left
  rw [Share.held_draft]
  exact Multiset.mem_cons_self ..

end Frames

section Opening

theorem safe_fileOpen {post : Option Errno → Share → Prop} (next : ∀ result, post result share) :
    Safe hw post share fileOpen := by
  refine .bind (safe_allocFile (.done (next _)) fun file => ?_)
  refine safe_proper fun proper => .bind (safe_lock (.bind (safe_neutral rfl fun fields => ?_)))
  split
  · exact .bind (safe_unlock proper (.bind (safe_discard (.done (next _)))))
  · refine .bind (safe_neutral rfl fun _ => ?_)
    rw [Share.push_comm]
    refine .bind (safe_publishFile (.bind (safe_unlock ?_ (.done (next _)))))
    exact proper.of_le (Multiset.Subset.refl _) rfl rfl le_rfl le_rfl le_rfl

theorem safe_releaseRequests (fuel bound : Nat) {post : Unit → Share → Prop} (shut : file ∈ share.shut)
    (next : post () (share.push (.holding ⟨.file file, []⟩))) :
    Safe hw post (share.push (.holding ⟨.file file, []⟩)) (releaseRequests file fuel bound) := by
  induction fuel generalizing bound with
  | zero => exact .done next
  | succ fuel ih =>
      refine .bind (safe_neutral rfl fun entry => ?_)
      cases entry with
      | none => exact .done next
      | some entry =>
          refine .bind (safe_erase_closing shut (ih _) fun request => ?_)
          rw [Share.push_comm]
          exact .bind (safe_requestPut (ih _))

theorem safe_releaseMappings (fuel bound : Nat) {post : Unit → Share → Prop} (closes : file ∈ share.closes)
    (sleeps : share.Sleeps) (next : post () (share.push (.holding ⟨.file file, []⟩))) :
    Safe hw post (share.push (.holding ⟨.file file, []⟩)) (releaseMappings file fuel bound) := by
  induction fuel generalizing bound with
  | zero => exact .done next
  | succ fuel ih =>
      refine .bind (safe_neutral rfl fun entry => ?_)
      cases entry with
      | none => exact .done next
      | some entry =>
          have put : ∀ mapping, Safe hw post (Ledger.Mapped (share.push (.holding ⟨.file file, []⟩)) mapping)
              (mappingPut mapping >>= fun _ => releaseMappings file fuel (entry.1.toNat + 1)) :=
            fun mapping => .bind (safe_mappingPut (sleeps.under _ [] nofun) (ih _))
          have none := put none
          rw [Ledger.mapped_none] at none
          refine .bind (safe_erase_mapping closes none fun mapping => ?_)
          rw [Share.push_comm, ← Ledger.mapped_some]
          exact put (some mapping)

/-- The close empties the tables of its file and puts the reference of the descriptor. -/
theorem safe_fileRelease {post : Unit → Share → Prop} (sleeps : share.Sleeps) (next : post () share) :
    Safe hw post (share.push (.closes file)) (fileRelease file) := by
  refine .bind (safe_lock ?_)
  rw [Share.push_comm]
  refine .bind (safe_setClosing ?_)
  rw [Share.push_comm share, Share.push_comm _ (.holding _)]
  refine .bind (safe_releaseRequests _ _ (Multiset.mem_cons_self ..) ?_)
  refine .bind (safe_releaseMappings _ _ (Multiset.mem_cons_self ..) sleeps ?_)
  refine .bind (safe_unlock_inner nofun nofun ?_)
  refine .weaken (weakens_drop trivial) (.weaken weakens_unclose (.bind (safe_put ?_ ?_)))
  · exact .done next
  · exact safe_fileReleaseRefs next

end Opening

section Buffers

/-- What was seen under the lock of the file is forgotten. -/
theorem safe_forget {α : Type} {code : Code α} {post : α → Share → Prop} {lock : Lock} {sights : List Sight}
    (safe : Safe hw post (share.push (.holding ⟨lock, []⟩)) code) :
    Safe hw post (share.push (.holding ⟨lock, sights⟩)) code :=
  .weaken (weakens_forget (List.nil_subset _)) safe

theorem safe_registerLocked {input : RegisterInput} {post : Option Errno → Share → Prop} (sleeps : share.Sleeps)
    (next : ∀ result, post result (share.push (.holding ⟨.file file, []⟩))) :
    Safe hw post (share.push (.holding ⟨.file file, []⟩)) (registerLocked file input) := by
  refine .bind (safe_neutral rfl fun closing => .bind (safe_neutral rfl fun fields => ?_))
  split
  · exact .done (next _)
  refine .bind (safe_mapPages ?_ ?_)
  · intro error
    exact .done (next _)
  intro mapping
  rw [Share.push_comm]
  refine .bind (safe_alloc_mapping ?_ ?_)
  · intro error
    rw [Share.push_comm]
    exact .bind (safe_discard (.done (next _)))
  intro handle
  refine .bind (safe_neutral rfl fun copied => ?_)
  split
  · exact safe_forget (.done (next _))
  · refine .bind (safe_erase_sole (List.mem_cons_self ..) ?_)
    rw [Share.push_comm, ← Ledger.mapped_some]
    exact .bind (safe_mappingPut (sleeps.under _ [] nofun) (.done (next _)))

theorem safe_ioctlBufferRegister {input : RegisterInput} {post : Option Errno → Share → Prop} (sleeps : share.Sleeps)
    (next : ∀ result, post result share) : Safe hw post share (ioctlBufferRegister file input) := by
  refine .bind (safe_neutral rfl fun copied => ?_)
  split
  · exact .done (next _)
  split
  · exact .done (next _)
  split
  · exact .done (next _)
  refine .bind (safe_neutral rfl fun addressed => ?_)
  split
  · exact .done (next _)
  refine safe_proper fun proper => .bind (safe_lock (safe_proper fun inside => .bind (safe_lock ?_)))
  rw [Share.push_comm]
  refine .bind (safe_registerLocked (sleeps.under _ [] nofun) fun result => ?_)
  rw [Share.push_comm]
  exact .bind (safe_unlock inside (.bind (safe_unlock proper (.done (next _)))))

theorem safe_unregisterLocked {handle : U32} {post : Except Errno Nat → Share → Prop}
    (fails : ∀ error, post (.error error) (share.push (.holding ⟨.file file, []⟩)))
    (found : ∀ mapping, post (.ok mapping) ((share.push (.ref (.mapping mapping))).push (.holding ⟨.file file, []⟩))) :
    Safe hw post (share.push (.holding ⟨.file file, []⟩)) (unregisterLocked file handle) := by
  refine .bind (safe_load (.done (fails _)) fun mapping => ?_)
  refine .bind (safe_readRefs (List.mem_cons_self ..) ?_ ?_)
  · intro refs more
    rw [if_pos more]
    exact safe_forget (.done (fails _))
  · exact .bind (safe_erase_sole (List.mem_cons_self ..) (.done (found mapping)))

theorem safe_ioctlBufferUnregister {input : UnregisterInput} {post : Option Errno → Share → Prop}
    (sleeps : share.Sleeps) (next : ∀ result, post result share) :
    Safe hw post share (ioctlBufferUnregister file input) := by
  refine .bind (safe_neutral rfl fun copied => ?_)
  split
  · exact .done (next _)
  split
  · exact .done (next _)
  refine .bind (safe_lock (.bind (safe_unregisterLocked ?_ ?_)))
  · intro error
    exact .bind (safe_unlock_inner nofun nofun (.done (next _)))
  · intro mapping
    refine .bind (safe_unlock_inner nofun nofun ?_)
    rw [← Ledger.mapped_some]
    exact .bind (safe_mappingPut sleeps (.done (next _)))

end Buffers

section Submit
variable {sights : List Sight}

/-- The thread sees the mapping in the table of the file, and nobody's only reference. -/
structure Lookup (file : Nat) (mapping : Option Nat) (sights : List Sight) : Prop where
  seen : ∀ number, mapping = some number → ∃ sight ∈ sights, sight.index = .mappings file ∧ sight.value = number
  shared : ∀ sight ∈ sights, sight.sole = false

theorem safe_mappingLookupLocked {handle length required : U32} {offset : U64}
    {post : Except Errno (Nat × U64) → Share → Prop} (shared : ∀ sight ∈ sights, sight.sole = false)
    (fails : ∀ error, post (.error error) (share.push (.holding ⟨.file file, sights⟩)))
    (found : ∀ mapping address, post (.ok (mapping, address))
      ((share.push (.holding ⟨.file file, ⟨.mappings file, handle, mapping, false⟩ :: sights⟩)).push
        (.ref (.mapping mapping)))) :
    Safe hw post (share.push (.holding ⟨.file file, sights⟩))
      (mappingLookupLocked file handle offset length required) := by
  unfold mappingLookupLocked
  split
  · exact .done (fails _)
  split
  · exact .done (fails _)
  refine .bind (safe_load (.done (fails _)) fun mapping => ?_)
  refine .bind (safe_neutral rfl fun record => ?_)
  split
  · exact .weaken (weakens_forget (List.subset_cons_self ..)) (.done (fails _))
  · next address _ =>
      refine .bind (safe_get (List.mem_cons_self ..) ?_ (.done (found mapping address)))
      intro other member sole
      rcases List.mem_cons.mp member with rfl | before
      · cases sole
      · rw [shared other before] at sole
        cases sole

theorem safe_lookupSide {access handle length : U32} {offset : U64}
    {post : Except Errno (Option Nat × U64) → Share → Prop} (shared : ∀ sight ∈ sights, sight.sole = false)
    (fails : ∀ error, post (.error error) (share.push (.holding ⟨.file file, sights⟩)))
    (found : ∀ mapping address more, sights ⊆ more → Lookup file mapping more →
      post (.ok (mapping, address)) (Ledger.Mapped (share.push (.holding ⟨.file file, more⟩)) mapping)) :
    Safe hw post (share.push (.holding ⟨.file file, sights⟩)) (lookupSide file access handle offset length) := by
  unfold lookupSide
  split
  · have none := found none 0 sights (List.Subset.refl _) ⟨nofun, shared⟩
    rw [Ledger.mapped_none] at none
    exact .done none
  refine .bind (safe_mappingLookupLocked shared ?_ ?_)
  · intro error
    exact .done (fails _)
  · intro mapping address
    rw [← Ledger.mapped_some]
    refine .done (found (some mapping) address _ (List.subset_cons_self ..) ⟨?_, ?_⟩)
    · rintro number ⟨rfl⟩
      exact ⟨_, List.mem_cons_self .., rfl, rfl⟩
    · intro sight member
      rcases List.mem_cons.mp member with rfl | before
      · rfl
      · exact shared sight before

/-- A draft that was not submitted is put. -/
theorem safe_putDraft {draft : Draft} {code : Code (Option Errno)} {post : Option Errno → Share → Prop}
    (safe : Safe hw post share code) :
    Safe hw post ((share.push (.draft draft)).push (.fresh draft.request)) (requestPut draft.request >>= fun _ => code) :=
  .weaken (weakens_drop trivial) (.weaken weakens_undraft (.bind (safe_requestPut safe)))

/-- A submission whose command ID does not reach user space takes the request out of the table of the file again. -/
theorem safe_withdraw {key : U32} {post : Option Errno → Share → Prop}
    (next : ∀ result, post result ((share.push (.use file)).push (.holding ⟨.file file, []⟩))) :
    Safe hw post (((share.push (.use file)).push (.shown request)).push
        (.holding ⟨.file file, [⟨.requests file, key, request, false⟩]⟩)) (do
      let _ ← xaErase (.requests file) key
      if ← call (.completionDone request) then call (.decCompleted file)
      requestPut request
      return some .efault) := by
  have put : Safe hw post (((((share.push (.shown request)).push (.ref (.request request))).push (.reaped request)).push
      (.holding ⟨.file file, []⟩)).push (.use file)) (requestPut request >>= fun _ => pure (some .efault)) := by
    rw [Share.push_comm _ (.reaped request) (.holding _), Share.push_comm _ (.reaped request)]
    refine .weaken (weakens_drop trivial) ?_
    rw [Share.push_comm _ (.ref _) (.holding _), Share.push_comm _ (.ref _)]
    refine .bind (safe_requestPut ?_)
    rw [Share.push_comm _ (.shown request) (.holding _), Share.push_comm _ (.shown request)]
    refine .weaken (weakens_drop trivial) ?_
    rw [Share.push_comm]
    exact .done (next _)
  rw [Share.push_comm share]
  refine .bind (safe_erase_reaped (List.mem_singleton_self _) (Multiset.mem_cons_self ..) ?_)
  rw [Share.push_comm _ (.owed file request)]
  refine .bind (safe_completionDone_owed ?_ ?_ ?_)
  · exact ((guards_ref _ request).push _).push _
  · exact .bind (safe_decCompleted put)
  · exact put

theorem safe_submitRequest {input : SubmitInput} (source destination : Option Nat × U64)
    {post : Option Errno → Share → Prop} (sleeps : share.Sleeps) (submitter : share.Submitter)
    (first : Lookup file source.1 sights) (second : Lookup file destination.1 sights)
    (next : ∀ result, post result ((share.push (.use file)).push (.holding ⟨.file file, []⟩))) :
    Safe hw post (Ledger.Mapped (Ledger.Mapped ((share.push (.use file)).push (.holding ⟨.file file, sights⟩)) source.1)
      destination.1) (submitRequest file input source destination) := by
  have asleep := (sleeps.under (.file file) sights nofun).mapped source.1
  refine .bind (safe_allocRequest ?_ ?_ ?_)
  · rintro other ⟨rfl⟩
    exact Multiset.mem_cons_self ..
  · refine .bind (safe_mappingPut asleep (.bind (safe_mappingPut asleep ?_)))
    exact safe_forget (.done (next _))
  intro request
  rw [Ledger.Drafted, mapped_push _ _ (.draft _), mapped_push _ _ (.draft _), mapped_push _ _ (.fresh _),
    mapped_push _ _ (.fresh _)]
  refine .bind (safe_setMappings ?_ ?_ ?_)
  · exact (guards_draft _ ⟨request, some file, 0⟩).push _
  · intro mapping linked
    have seen : ∃ sight ∈ sights, sight.index = .mappings file ∧ sight.value = mapping :=
      linked.elim (first.seen mapping) (second.seen mapping)
    exact ⟨file, Multiset.mem_cons_self .., _, Multiset.mem_cons_self .., seen⟩
  rw [Share.push_comm _ (.holding _), Share.push_comm _ (.holding _)]
  apply safe_forget
  rw [Share.push_comm _ (.fresh request), Share.push_comm _ (.draft _), ← unlisted_some]
  refine .bind (safe_submit submitter ?_ ?_)
  · intro error key
    exact safe_putDraft (.done (next _))
  intro key
  rw [listed_push]
  refine .bind (safe_readListed (List.mem_singleton_self _) fun record same => ?_)
  dsimp only
  rw [same]
  refine .bind (safe_neutral rfl fun copied => ?_)
  split
  · apply safe_forget
    rw [Share.push_comm]
    exact .weaken (weakens_drop trivial) (.done (next _))
  · exact safe_withdraw next

theorem safe_submitIoctlLocked {input : SubmitInput} {access : Access} {post : Option Errno → Share → Prop}
    (sleeps : share.Sleeps) (submitter : share.Submitter)
    (next : ∀ result, post result ((share.push (.use file)).push (.holding ⟨.file file, []⟩))) :
    Safe hw post ((share.push (.use file)).push (.holding ⟨.file file, []⟩)) (submitIoctlLocked file input access) := by
  refine .bind (safe_neutral rfl fun closing => ?_)
  split
  · exact .done (next _)
  refine .bind (safe_lookupSide nofun ?_ ?_)
  · intro error
    exact .done (next _)
  intro source sourceAddress sights _ first
  have asleep : ((share.push (.use file)).push (.holding ⟨.file file, sights⟩)).Sleeps :=
    sleeps.under (.file file) sights nofun
  dsimp only
  rw [← mapped_push]
  refine .bind (safe_lookupSide first.shared ?_ ?_)
  · intro error
    rw [mapped_push]
    exact .bind (safe_mappingPut asleep (safe_forget (.done (next _))))
  intro destination destinationAddress more inside second
  have wide : Lookup file source more := by
    refine ⟨?_, second.shared⟩
    intro number same
    obtain ⟨sight, member, seen⟩ := first.seen number same
    exact ⟨sight, inside member, seen⟩
  have wake : ((share.push (.use file)).push (.holding ⟨.file file, more⟩)).Sleeps := sleeps.under (.file file) more nofun
  dsimp only
  rw [mapped_push]
  split
  · refine .bind (safe_mappingPut (wake.mapped source) (.bind (safe_mappingPut wake ?_)))
    exact safe_forget (.done (next _))
  · exact safe_submitRequest (source, sourceAddress) (destination, destinationAddress) sleeps submitter wide second next

theorem safe_ioctlSubmit {input : SubmitInput} {post : Option Errno → Share → Prop} (sleeps : share.Sleeps)
    (submitter : share.Submitter) (next : ∀ result, post result (share.push (.use file))) :
    Safe hw post (share.push (.use file)) (ioctlSubmit file input) := by
  refine .bind (safe_neutral rfl fun copied => ?_)
  split
  · exact .done (next _)
  split
  · exact .done (next _)
  split
  · exact .done (next _)
  · refine .bind (safe_lock (.bind (safe_submitIoctlLocked sleeps submitter fun result => ?_)))
    exact .bind (safe_unlock_inner nofun nofun (.done (next _)))

end Submit

section Wait

theorem safe_findRequest {commandId : U32} {post : Option Nat → Share → Prop} (absent : post none share)
    (found : ∀ request, post (some request) (share.push (.ref (.request request)))) :
    Safe hw post share (findRequest file commandId) := by
  refine .bind (safe_lock (.bind (safe_load ?_ ?_)))
  · exact .bind (safe_unlock_inner nofun nofun (.done absent))
  · intro request
    refine .bind (safe_get (List.mem_cons_self ..) ?_ ?_)
    · intro other member sole
      rw [List.mem_singleton.mp member] at sole
      cases sole
    · rw [Share.push_comm]
      exact .bind (safe_unlock_inner nofun nofun (.done (found request)))

/-- A wait that succeeds knows that its request was in the device table. -/
theorem safe_awaitRequest {timeoutMs : U32} {post : Option Errno → Share → Prop} (guards : share.Guards request)
    (fails : ∀ error, post (some error) share) (done : post none (share.push (.shown request))) :
    Safe hw post share (awaitRequest request timeoutMs) := by
  unfold awaitRequest
  split
  · refine .bind (safe_completionDone guards ?_ ?_)
    · exact .done done
    · exact .done (fails _)
  · exact safe_waitForCompletion guards done fails

/-- The waiter that still finds its request in the table has to answer for it. -/
theorem safe_reapRequest {commandId : U32} {output : WaitOutput} {post : Option Errno → Share → Prop}
    (shown : request ∈ share.shown)
    (fails : ∀ error, post (some error) ((share.push (.use file)).push (.holding ⟨.file file, []⟩)))
    (reaped : post none (((share.push (.reaped request)).push (.use file)).push (.holding ⟨.file file, []⟩))) :
    Safe hw post ((share.push (.use file)).push (.holding ⟨.file file, []⟩))
      (reapRequest file commandId request output) := by
  refine .bind (safe_load ?_ ?_)
  · exact .done (fails _)
  intro value
  split
  · exact safe_forget (.done (fails _))
  next same =>
    obtain rfl : value = request := Option.some.inj (not_not.mp same)
    refine .bind (safe_neutral rfl fun copied => ?_)
    split
    · exact safe_forget (.done (fails _))
    refine .bind (safe_erase_reaped (List.mem_cons_self ..) shown ?_)
    rw [Share.push_comm _ (.owed file value)]
    refine .bind (safe_decCompleted ?_)
    rw [Share.push_comm share, Share.push_comm _ (.ref _), Share.push_comm _ (.ref _)]
    refine .bind (safe_requestPut ?_)
    rw [Share.push_comm _ (.holding _)]
    exact .done reaped

theorem safe_waitRequest {commandId timeoutMs : U32} {post : Option Errno → Share → Prop} (guards : share.Guards request)
    (fails : ∀ error, post (some error) (share.push (.use file)))
    (reaped : post none ((share.push (.reaped request)).push (.use file))) :
    Safe hw post (share.push (.use file)) (waitRequest file commandId timeoutMs request) := by
  refine .bind (safe_awaitRequest (guards.push _) ?_ ?_)
  · intro error
    exact .done (fails error)
  refine .bind (safe_readRequest ((guards.push _).push _) fun record => ?_)
  rw [Share.push_comm]
  refine .bind (safe_lock (.bind (safe_reapRequest (Multiset.mem_cons_self ..) ?_ ?_)))
  · intro error
    refine .bind (safe_unlock_inner nofun nofun ?_)
    rw [Share.push_comm]
    exact .weaken (weakens_drop trivial) (.done (fails error))
  · refine .bind (safe_unlock_inner nofun nofun ?_)
    rw [Share.push_comm share, Share.push_comm _ (.shown request)]
    exact .weaken (weakens_drop trivial) (.done reaped)

theorem safe_ioctlWait {input : WaitInput} {post : Option Errno → Share → Prop}
    (next : ∀ result, post result (share.push (.use file))) :
    Safe hw post (share.push (.use file)) (ioctlWait file input) := by
  refine .bind (safe_neutral rfl fun copied => ?_)
  split
  · exact .done (next _)
  split
  · exact .done (next _)
  refine .bind (safe_findRequest (.done (next _)) fun request => ?_)
  dsimp only
  rw [Share.push_comm]
  refine .bind (safe_waitRequest (guards_ref share request) ?_ ?_)
  · intro error
    rw [Share.push_comm]
    exact .bind (safe_requestPut (.bind (safe_answer_error (.done (next _)))))
  · rw [Share.push_comm _ (.reaped request), Share.push_comm share, Share.push_comm _ (.ref _)]
    exact .bind (safe_requestPut (.bind (safe_answer (.done (next _)))))

end Wait

section Nop

/-- A NOP without a file leaves the thread with its reference, whether it was submitted or not. -/
theorem safe_submitNop {key timeoutMs : U32} {userCookie : U64} {post : Option Errno → Share → Prop}
    (submitter : share.Submitter) (fails : ∀ error, post (some error) (share.push (.ref (.request request))))
    (submitted : post none (share.push (.ref (.request request)))) :
    Safe hw post ((share.push (.draft ⟨request, none, key⟩)).push (.fresh request))
      (submitNop request userCookie timeoutMs) := by
  rw [← unlisted_none]
  refine .relax (safe_submit submitter ?_ ?_)
  · intro error key
    have forget : Weakens δ ((share.Unlisted request none key).push (.fresh request)) _ := weakens_drop trivial
    exact ⟨_, forget.trans weakens_undraft, fails error⟩
  · intro key
    have forget : Weakens δ ((share.Listed request none key).push (.shown request)) _ := weakens_drop trivial
    exact ⟨_, forget.trans weakens_undraft, submitted⟩

/-- A request of the driver itself is allocated and put again after its use. -/
theorem safe_ownRequest {use : Nat → Code (Option Errno)} {post : Option Errno → Share → Prop}
    (next : ∀ result, post result share)
    (used : ∀ {request post}, (∀ result, post result (share.push (.ref (.request request)))) →
      Safe hw post ((share.push (.draft ⟨request, none, 0⟩)).push (.fresh request)) (use request)) :
    Safe hw post share (do
      match ← call (.allocRequest none) with
      | none => return some .enomem
      | some request =>
          let result ← use request
          requestPut request
          return result) := by
  refine .bind (safe_allocRequest nofun (.done (next _)) fun request => ?_)
  refine .weaken (weakens_drop trivial) (.bind (used fun result => ?_))
  exact .bind (safe_requestPut (.done (next _)))

theorem safe_runNop {key : U32} {input : NopInput} {post : Option Errno → Share → Prop} (submitter : share.Submitter)
    (next : ∀ result, post result (share.push (.ref (.request request)))) :
    Safe hw post ((share.push (.draft ⟨request, none, key⟩)).push (.fresh request)) (runNop request input) := by
  refine .bind (safe_submitNop submitter ?_ ?_)
  · intro error
    exact .done (next _)
  have guards := guards_ref share request
  refine .bind (safe_waitForCompletion guards ?_ ?_)
  · refine .weaken (weakens_drop trivial) (.bind (safe_readRequest guards fun record => ?_))
    split
    · exact .done (next _)
    refine .bind (safe_neutral rfl fun copied => ?_)
    split
    · exact .done (next _)
    · exact .done (next _)
  · intro error
    exact .done (next _)

theorem safe_ioctlNop {input : NopInput} {post : Option Errno → Share → Prop} (submitter : share.Submitter)
    (next : ∀ result, post result share) : Safe hw post share (ioctlNop input) := by
  refine .bind (safe_neutral rfl fun copied => ?_)
  split
  · exact .done (next _)
  split
  · exact .done (next _)
  · exact safe_ownRequest next fun used => safe_runNop submitter used

end Nop

section Calls

theorem safe_ioctlInfo {input : InfoInput} {post : Option Errno → Share → Prop} (next : ∀ result, post result share) :
    Safe hw post share (ioctlInfo input) := by
  refine .bind (safe_neutral rfl fun copied => ?_)
  split
  · exact .done (next _)
  split
  · exact .done (next _)
  refine safe_proper fun proper => .bind (safe_lock (.bind (safe_neutral rfl fun fields => ?_)))
  split
  · exact .bind (safe_unlock proper (.done (next _)))
  refine .bind (safe_neutral rfl fun later => .bind (safe_unlock proper (.bind (safe_neutral rfl fun copied => ?_))))
  split
  · exact .done (next _)
  · exact .done (next _)

theorem quiet_poll (file : Nat) : Quiet (poll file) := by
  refine .op rfl fun completed _ => .op rfl fun closing _ => .op rfl fun fields _ => ?_
  split
  · trivial
  refine .op rfl fun fields _ => ?_
  split
  · trivial
  · exact .op rfl fun _ _ => .op rfl fun _ _ => trivial

/-- Each call on a file ends with nothing but its place among the calls of that file. -/
theorem safe_call (request : Call) {post : Unit → Share → Prop} (sleeps : share.Sleeps)
    (task : request.task ∈ share.tasks) (next : post () (share.push (.use file))) :
    Safe hw post (share.push (.use file)) (request.code file) := by
  cases request with
  | info input => exact .bind (safe_ioctlInfo fun _ => .done next)
  | nop input => exact .bind (safe_ioctlNop ⟨_, task, rfl⟩ fun _ => .done next)
  | register input => exact .bind (safe_ioctlBufferRegister sleeps fun _ => .done next)
  | unregister input => exact .bind (safe_ioctlBufferUnregister sleeps fun _ => .done next)
  | submit input => exact .bind (safe_ioctlSubmit sleeps ⟨_, task, rfl⟩ fun _ => .done next)
  | wait input => exact .bind (safe_ioctlWait fun _ => .done next)
  | poll => exact .bind (safe_quiet (quiet_poll file) fun _ => .done next)

end Calls
end VamsSoc.Driver
