/-
This file has the rules for the operations on tables and files, and what a thread may forget between operations.
-/

import VamsSoc.Proof.Driver.RequestRules

namespace VamsSoc.Driver
open Library Abi

variable {δ : Type} {hw : Hardware δ} {share : Share}

section Forgetting

/-- One share says less than another one. -/
abbrev Weakens (δ : Type) (strong weak : Share) : Prop :=
  (discipline : Discipline (Shared δ) Own Share).Weakens strong weak

/-- A thread forgets what it knows. -/
theorem weakens_drop {token : Token} (idle : Ledger.Idle token) : Weakens δ (share.push token) share := by
  intro own s rest agrees ledger
  change Ledger s (share.push token + rest) at ledger
  rw [Share.push_add] at ledger
  refine ⟨?_, ledger.drop idle⟩
  cases token with
  | fresh _ | bare _ | shown _ | reaped _ | removes | orphan | shut _ | cleared _ =>
      exact Agrees.keep agrees rfl ⟨rfl, rfl, rfl, le_rfl, le_rfl, le_rfl⟩
  | _ => exact idle.elim

theorem weakens_undraft {draft : Draft} :
    Weakens δ (share.push (.draft draft)) (share.push (.ref (.request draft.request))) := by
  intro own s rest agrees ledger
  change Ledger s (share.push (.draft draft) + rest) at ledger
  rw [Share.push_add] at ledger
  constructor
  · refine Agrees.keep agrees ?_ ⟨rfl, rfl, rfl, le_rfl, le_rfl, le_rfl⟩
    rw [Share.held_draft, Share.held_ref]
  · change Ledger s (share.push (.ref (.request draft.request)) + rest)
    rw [Share.push_add]
    exact ledger.undraft

theorem weakens_unclose {file : Nat} : Weakens δ (share.push (.closes file)) (share.push (.ref (.file file))) := by
  intro own s rest agrees ledger
  change Ledger s (share.push (.closes file) + rest) at ledger
  rw [Share.push_add] at ledger
  constructor
  · refine Agrees.keep agrees ?_ ⟨rfl, rfl, rfl, le_rfl, le_rfl, le_rfl⟩
    rw [Share.held_closes, Share.held_ref]
  · change Ledger s (share.push (.ref (.file file)) + rest)
    rw [Share.push_add]
    exact ledger.unclose

theorem Ledger.forget {s : Shared δ} {h : Share} {lock : Lock} {sights fewer : List Sight}
    (ledger : Ledger s (h.push (.holding ⟨lock, sights⟩))) (inside : fewer ⊆ sights) :
    Ledger s (h.push (.holding ⟨lock, fewer⟩)) :=
  { ledger with
    locks := ledger.locks_of_map (by simp [Share.push])
    sights := by
      intro holding member sight seen
      rcases Multiset.mem_cons.mp member with rfl | before
      · exact ledger.sights ⟨lock, sights⟩ (Multiset.mem_cons_self ..) sight (inside seen)
      · exact ledger.sights holding (Multiset.mem_cons_of_mem before) sight seen }

theorem weakens_forget {lock : Lock} {sights fewer : List Sight} (inside : fewer ⊆ sights) :
    Weakens δ (share.push (.holding ⟨lock, sights⟩)) (share.push (.holding ⟨lock, fewer⟩)) := by
  intro own s rest agrees ledger
  change Ledger s (share.push (.holding ⟨lock, sights⟩) + rest) at ledger
  rw [Share.push_add] at ledger
  refine ⟨Agrees.resee agrees, ?_⟩
  change Ledger s (share.push (.holding ⟨lock, fewer⟩) + rest)
  rw [Share.push_add]
  exact ledger.forget inside

end Forgetting

section Inserting
variable {file request mapping : Nat} {key : U32} {sights : List Sight}

/-- A draft is listed under its command ID. -/
theorem safe_insert_listed {post : Option Errno → Share → Prop}
    (fails : ∀ error, post (some error) (((share.push (.draft ⟨request, some file, key⟩)).push (.fresh request)).push
      (.holding ⟨.file file, sights⟩)))
    (listed : post none ((share.push (.fresh request)).push
      (.holding ⟨.file file, ⟨.requests file, key, request, false⟩ :: sights⟩))) :
    Safe hw post (((share.push (.draft ⟨request, some file, key⟩)).push (.fresh request)).push
      (.holding ⟨.file file, sights⟩)) (call (.insert (.requests file) key request)) := by
  apply safe_op
  intro choice s own rest reply s' own' agrees ledger executed
  simp only [exec] at executed
  split at executed
  · cases executed
    exact ⟨_, agrees, ledger, fails _⟩
  · next absent =>
      split at executed
      · cases executed
        exact ⟨_, agrees, ledger, fails _⟩
      · cases executed
        refine ⟨_, ?_, ?_, listed⟩
        · refine agrees.give (Share.held_draft ..) ⟨?_, rfl, rfl, le_rfl, le_rfl, le_rfl⟩
          simp [Share.locks, Share.push]
        · rw [Share.push_add, Share.push_add, Share.push_add] at ledger
          rw [Share.push_add, Share.push_add]
          exact ledger.insert_requests (not_not.mp absent)

/-- The thread knows that a request of an open file is listed there. -/
def Share.Lists (share : Share) (request : Nat) : Prop :=
  (∃ draft ∈ share.drafts, draft.request = request ∧ draft.owner = none) ∨
    ∃ holding ∈ share.holdings, ∃ sight ∈ holding.sights, ∃ file, sight.index = .requests file ∧ sight.value = request

theorem Ledger.listed {s : Shared δ} (ledger : Ledger s share) (lists : share.Lists request) (file : Nat)
    (owner : (s.requests request).owner = some file) : 0 < (s.tables (.requests file)).count request := by
  rcases lists with ⟨draft, member, rfl, none⟩ | ⟨holding, inside, sight, seen, other, index, rfl⟩
  · have owned := (ledger.drafts draft member).1
    rw [owner, none] at owned
    cases owned
  · have present := (ledger.sights holding inside sight seen).1.1
    rw [index] at present
    have owned : (s.requests sight.value).owner = some other := ledger.belongs _ _ _ present
    obtain rfl : other = file := Option.some.inj (owned.symm.trans owner)
    exact Table.count_pos.mpr ⟨_, present⟩

theorem Share.Lists.add (lists : share.Lists request) (rest : Share) : (share + rest).Lists request := by
  rcases lists with ⟨draft, member, same⟩ | ⟨holding, inside, seen⟩
  · exact .inl ⟨draft, Multiset.mem_add.mpr (.inl member), same⟩
  · exact .inr ⟨holding, Multiset.mem_add.mpr (.inl inside), seen⟩

/-- A fresh request enters the device table, and the thread has to count it. -/
theorem safe_insert_device {post : Option Errno → Share → Prop} (submits : share.Submits)
    (lists : share.Lists request)
    (fails : ∀ error, post (some error) (((share.push (.ref (.request request))).push (.fresh request)).push
      (.holding ⟨.xa, []⟩)))
    (tracked : post none (((share.push .uncounted).push (.shown request)).push (.holding ⟨.xa, []⟩))) :
    Safe hw post (((share.push (.ref (.request request))).push (.fresh request)).push (.holding ⟨.xa, []⟩))
      (call (.insert .device key request)) := by
  apply safe_op
  intro choice s own rest reply s' own' agrees ledger executed
  simp only [exec] at executed
  split at executed
  · cases executed
    exact ⟨_, agrees, ledger, fails _⟩
  · next absent =>
      split at executed
      · cases executed
        exact ⟨_, agrees, ledger, fails _⟩
      · cases executed
        rw [Share.push_add, Share.push_add, Share.push_add] at ledger
        refine ⟨_, ?_, ?_, tracked⟩
        · refine agrees.setRefs ?_ rfl rfl ⟨?_, ?_, ?_, agrees.proper.frees⟩
          · rw [agrees.refs]
            exact (congrArg (Multiset.erase · _) (Share.held_ref share (.request request))).trans
              (Multiset.erase_cons_head ..)
          · intro _
            refine submits.of_subset ?_ rfl
            intro lock member
            obtain ⟨holding, inside, same⟩ := Multiset.mem_map.mp member
            exact Multiset.mem_map.mpr ⟨holding, Multiset.mem_cons_of_mem inside, same⟩
          · exact agrees.proper.unsettled
          · exact agrees.proper.polls
        · rw [Share.push_add, Share.push_add, Share.push_add]
          refine ledger.insert_device (not_not.mp absent) ?_
          have more : (((share + rest).push (.ref (.request request))).push (.fresh request)).push (.holding ⟨.xa, []⟩)
              |>.Lists request := by
            refine (lists.add rest).imp_right ?_
            rintro ⟨holding, inside, seen⟩
            exact ⟨holding, Multiset.mem_cons_of_mem inside, seen⟩
          exact ledger.listed more

/-- The only reference to a new mapping goes to the table of its file. -/
theorem safe_alloc_mapping {post : Except Errno U32 → Share → Prop}
    (fails : ∀ error, post (.error error) ((share.push (.created (.mapping mapping file))).push
      (.holding ⟨.file file, sights⟩)))
    (given : ∀ handle, post (.ok handle)
      (share.push (.holding ⟨.file file, ⟨.mappings file, handle, mapping, true⟩ :: sights⟩))) :
    Safe hw post ((share.push (.created (.mapping mapping file))).push (.holding ⟨.file file, sights⟩))
      (call (.alloc (.mappings file) mapping)) := by
  apply safe_op
  intro choice s own rest reply s' own' agrees ledger executed
  simp only [exec] at executed
  split at executed
  · cases executed
    exact ⟨_, agrees, ledger, fails _⟩
  · split at executed
    · next free =>
        cases executed
        rw [Share.push_add, Share.push_add] at ledger
        refine ⟨_, ?_, ?_, given _⟩
        · refine agrees.give (Share.held_created ..) ⟨?_, rfl, rfl, le_rfl, le_rfl, le_rfl⟩
          simp [Share.locks, Share.push]
        · rw [Share.push_add]
          exact ledger.insert_mapping free.2
    · cases executed

end Inserting

section Erasing
variable {file request mapping : Nat} {key : U32} {sights : List Sight}

theorem exec_erase {s : Shared δ} {index : Index} {own own' : Own} {choice : Choice} {reply : Option Nat}
    {s' : Shared δ} (executed : exec hw choice s own (.erase index key) = some (reply, s', own')) :
    (s.tables index).lookup key = none ∧ reply = none ∧ s' = s ∧ own' = own ∨
      ∃ value, (s.tables index).lookup key = some value ∧ reply = some value ∧
        s' = s.eraseEntry index key value ∧ own' = own.take (index.object value) := by
  simp only [exec] at executed
  split at executed
  · next absent =>
      cases executed
      exact .inl ⟨absent, rfl, rfl, rfl⟩
  · next value present =>
      cases executed
      exact .inr ⟨value, present, rfl, rfl, rfl⟩

/-- A request leaves the device table where a thread may take it. -/
theorem safe_erase_device {post : Option Nat → Share → Prop} (settles : share.Settles)
    (absent : post none (share.push (.holding ⟨.xa, []⟩)))
    (found : ∀ request, post (some request)
      (((share.push (.retiring request)).push .erased).push (.holding ⟨.xa, []⟩))) :
    Safe hw post (share.push (.holding ⟨.xa, []⟩)) (call (.erase .device key)) := by
  apply safe_op
  intro choice s own rest reply s' own' agrees ledger executed
  rcases exec_erase executed with ⟨_, rfl, rfl, rfl⟩ | ⟨request, present, rfl, rfl, rfl⟩
  · exact ⟨_, agrees, ledger, absent⟩
  · rw [Share.push_add] at ledger
    refine ⟨_, ?_, ?_, found request⟩
    · refine agrees.setRefs ?_ rfl rfl ⟨agrees.proper.uncounted, ?_, agrees.proper.polls, agrees.proper.frees⟩
      · rw [agrees.refs]
        exact (Share.held_retiring ..).symm
      · intro _
        refine settles.of_subset ?_ rfl rfl
        intro lock member
        obtain ⟨holding, inside, same⟩ := Multiset.mem_map.mp member
        exact Multiset.mem_map.mpr ⟨holding, Multiset.mem_cons_of_mem inside, same⟩
    · rw [Share.push_add, Share.push_add, Share.push_add]
      exact ledger.erase_device present

/-- What is in sight under the lock is what the erasure finds. -/
theorem Ledger.lookup_of_seen {s : Shared δ} {h : Share} {lock : Lock} {sight : Sight}
    (ledger : Ledger s (h.push (.holding ⟨lock, sights⟩))) (seen : sight ∈ sights) :
    (s.tables sight.index).lookup sight.key = some sight.value :=
  (ledger.sights _ (Multiset.mem_cons_self ..) sight seen).1.1

theorem requests_eraseEntry (s : Shared δ) (index : Index) (key : U32) (value : Nat) :
    (s.eraseEntry index key value).requests = s.requests := by
  unfold Shared.eraseEntry
  split <;> rfl

theorem Ledger.untracked_of_fresh {s : Shared δ} {h : Share} (ledger : Ledger s h) (fresh : request ∈ h.fresh) :
    (s.requests request).tracked = false := by
  have once := (ledger.requests request).fresh
  have some : 0 < h.fresh.count request := Multiset.count_pos.mpr fresh
  cases tracked : (s.requests request).tracked with
  | false => rfl
  | true =>
      change h.fresh.count request ≤ if (s.requests request).tracked then 0 else 1 at once
      rw [if_pos tracked] at once
      omega

theorem Ledger.tracked_of_shown {s : Shared δ} {h : Share} (ledger : Ledger s h) (shown : request ∈ h.shown) :
    (s.requests request).tracked = true := by
  have known := (ledger.requests request).untracked
  have some : 0 < h.shown.count request := Multiset.count_pos.mpr shown
  cases tracked : (s.requests request).tracked with
  | true => rfl
  | false =>
      have none : h.shown.count request = 0 := (known tracked).2.2.1
      omega

@[simp]
theorem locks_holding (share : Share) (holding : Holding) :
    (share.push (.holding holding)).locks = holding.lock ::ₘ share.locks := Multiset.map_cons ..

theorem within_reseen {before after : List Sight} {lock : Lock} {later : Share} (locks : later.locks = share.locks)
    (tasks : later.tasks = share.tasks) (frees : later.frees = share.frees) (uncounted : later.uncounted = share.uncounted)
    (unsettled : later.unsettled = share.unsettled) (polls : later.polls = share.polls) :
    (later.push (.holding ⟨lock, after⟩)).Within (share.push (.holding ⟨lock, before⟩)) where
  locks := by rw [locks_holding, locks_holding, locks]
  tasks := tasks
  frees := frees
  uncounted := uncounted.le
  unsettled := unsettled.le
  polls := polls.le

/-- A request that is not in use leaves the table of its file and is a draft again. -/
theorem safe_erase_unlist {sole : Bool} {post : Option Nat → Share → Prop}
    (seen : ⟨.requests file, key, request, sole⟩ ∈ sights) (fresh : request ∈ share.fresh)
    (next : post (some request) ((share.push (.draft ⟨request, some file, key⟩)).push (.holding ⟨.file file, []⟩))) :
    Safe hw post (share.push (.holding ⟨.file file, sights⟩)) (call (.erase (.requests file) key)) := by
  apply safe_op
  intro choice s own rest reply s' own' agrees ledger executed
  rw [Share.push_add] at ledger
  have present := ledger.lookup_of_seen seen
  have untracked := ledger.untracked_of_fresh (Multiset.mem_add.mpr (.inl fresh))
  rcases exec_erase executed with ⟨absent, _⟩ | ⟨value, found, rfl, rfl, rfl⟩
  · cases absent.symm.trans present
  · obtain rfl : value = request := Option.some.inj (found.symm.trans present)
    have erased := ledger.erase_quiet present (.inr untracked)
    rw [Share.push_comm _ (.reaped value), Share.push_comm _ (.ref (.request value))] at erased
    refine ⟨_, ?_, ?_, next⟩
    · exact agrees.take (Share.held_draft ..) (within_reseen rfl rfl rfl rfl rfl rfl)
    · rw [Share.push_add, Share.push_add, Share.push_comm]
      apply erased.redraft <;> rw [requests_eraseEntry]
      · exact ledger.belongs _ _ _ present
      · exact ledger.named file key value present

/-- A call takes a request that was in the device table out of the table of its file. -/
theorem safe_erase_reaped {sole : Bool} {post : Option Nat → Share → Prop}
    (seen : ⟨.requests file, key, request, sole⟩ ∈ sights) (shown : request ∈ share.shown)
    (next : post (some request) ((((share.push (.ref (.request request))).push (.reaped request)).push
      (.owed file request)).push (.holding ⟨.file file, []⟩))) :
    Safe hw post ((share.push (.use file)).push (.holding ⟨.file file, sights⟩))
      (call (.erase (.requests file) key)) := by
  apply safe_op
  intro choice s own rest reply s' own' agrees ledger executed
  rw [Share.push_add, Share.push_add] at ledger
  have present := ledger.lookup_of_seen seen
  have tracked := ledger.tracked_of_shown (Multiset.mem_add.mpr (.inl shown))
  rcases exec_erase executed with ⟨absent, _⟩ | ⟨value, found, rfl, rfl, rfl⟩
  · cases absent.symm.trans present
  · obtain rfl : value = request := Option.some.inj (found.symm.trans present)
    refine ⟨_, ?_, ?_, next⟩
    · refine agrees.take ?_ (within_reseen rfl rfl rfl rfl rfl rfl)
      exact Share.held_ref ..
    · rw [Share.push_add, Share.push_add, Share.push_add, Share.push_add]
      exact ledger.erase_reaped present tracked

/-- The close takes what is left out of the table of its file. -/
theorem safe_erase_closing {post : Option Nat → Share → Prop} (shut : file ∈ share.shut)
    (absent : post none (share.push (.holding ⟨.file file, []⟩)))
    (found : ∀ request, post (some request) ((share.push (.ref (.request request))).push (.holding ⟨.file file, []⟩))) :
    Safe hw post (share.push (.holding ⟨.file file, []⟩)) (call (.erase (.requests file) key)) := by
  apply safe_op
  intro choice s own rest reply s' own' agrees ledger executed
  rw [Share.push_add] at ledger
  rcases exec_erase executed with ⟨_, rfl, rfl, rfl⟩ | ⟨request, present, rfl, rfl, rfl⟩
  · refine ⟨_, agrees, ?_, absent⟩
    rw [Share.push_add]
    exact ledger
  · have closing : (s.files file).closing = true := ledger.shut file (Multiset.mem_add.mpr (.inl shut))
    have erased := ledger.erase_quiet present (.inl closing)
    refine ⟨_, ?_, ?_, found request⟩
    · exact agrees.take (Share.held_ref ..) (within_reseen rfl rfl rfl rfl rfl rfl)
    · rw [Share.push_add, Share.push_add]
      rw [Share.push_comm _ (.reaped request)] at erased
      exact erased.drop trivial

/-- A mapping with no other reference leaves the table of its file. -/
theorem safe_erase_sole {handle : U32} {post : Option Nat → Share → Prop}
    (seen : ⟨.mappings file, handle, mapping, true⟩ ∈ sights)
    (next : post (some mapping) ((share.push (.ref (.mapping mapping))).push (.holding ⟨.file file, []⟩))) :
    Safe hw post (share.push (.holding ⟨.file file, sights⟩)) (call (.erase (.mappings file) handle)) := by
  apply safe_op
  intro choice s own rest reply s' own' agrees ledger executed
  rw [Share.push_add] at ledger
  have present := ledger.lookup_of_seen seen
  have sole := (ledger.sights _ (Multiset.mem_cons_self ..) _ seen).1.2 rfl
  rcases exec_erase executed with ⟨absent, _⟩ | ⟨value, found, rfl, rfl, rfl⟩
  · cases absent.symm.trans present
  · obtain rfl : value = mapping := Option.some.inj (found.symm.trans present)
    refine ⟨_, ?_, ?_, next⟩
    · exact agrees.take (Share.held_ref ..) (within_reseen rfl rfl rfl rfl rfl rfl)
    · rw [Share.push_add, Share.push_add]
      exact ledger.erase_mapping present (.inl sole)

/-- The close takes the mappings out of the table of its file. -/
theorem safe_erase_mapping {handle : U32} {post : Option Nat → Share → Prop} (closes : file ∈ share.closes)
    (absent : post none (share.push (.holding ⟨.file file, []⟩)))
    (found : ∀ mapping, post (some mapping) ((share.push (.ref (.mapping mapping))).push (.holding ⟨.file file, []⟩))) :
    Safe hw post (share.push (.holding ⟨.file file, []⟩)) (call (.erase (.mappings file) handle)) := by
  apply safe_op
  intro choice s own rest reply s' own' agrees ledger executed
  rw [Share.push_add] at ledger
  rcases exec_erase executed with ⟨_, rfl, rfl, rfl⟩ | ⟨mapping, present, rfl, rfl, rfl⟩
  · refine ⟨_, agrees, ?_, absent⟩
    rw [Share.push_add]
    exact ledger
  · have closed : (s.files file).opened = false := ledger.closes file (Multiset.mem_add.mpr (.inl closes))
    refine ⟨_, ?_, ?_, found mapping⟩
    · exact agrees.take (Share.held_ref ..) (within_reseen rfl rfl rfl rfl rfl rfl)
    · rw [Share.push_add, Share.push_add]
      exact ledger.erase_mapping present (.inr closed)

end Erasing

section Files
variable {file : Nat}

/-- The pages of a buffer are mapped for a file, and only this thread knows the mapping. -/
theorem safe_mapPages {userAddress length : U64} {flags : U32} {post : Except Errno Nat → Share → Prop}
    (fails : ∀ error, post (.error error) share)
    (mapped : ∀ mapping, post (.ok mapping) (share.push (.created (.mapping mapping file)))) :
    Safe hw post share (call (.mapPages file userAddress length flags)) := by
  apply safe_op
  intro choice s own rest reply s' own' agrees ledger executed
  simp only [exec] at executed
  split at executed
  · cases executed
    exact ⟨share, agrees, ledger, fails _⟩
  · cases executed
    refine ⟨_, ?_, ?_, mapped s.mappingCount⟩
    · exact agrees.take (Share.held_created ..) ⟨rfl, rfl, rfl, le_rfl, le_rfl, le_rfl⟩
    · rw [Share.push_add]
      exact ledger.newMapping { file, dmaAddr := choice.address, userAddress, length, flags }

theorem safe_allocFile {post : Option Nat → Share → Prop} (fails : post none share)
    (given : ∀ file, post (some file) (share.push (.created (.file file)))) : Safe hw post share (call .allocFile) := by
  apply safe_op
  intro choice s own rest reply s' own' agrees ledger executed
  simp only [exec] at executed
  split at executed
  · cases executed
    exact ⟨share, agrees, ledger, fails⟩
  · cases executed
    refine ⟨_, ?_, ?_, given s.fileCount⟩
    · exact agrees.take (Share.held_created ..) ⟨rfl, rfl, rfl, le_rfl, le_rfl, le_rfl⟩
    · rw [Share.push_add]
      exact ledger.newFile

theorem safe_publishFile {post : Unit → Share → Prop} (next : post () share) :
    Safe hw post (share.push (.created (.file file))) (call (.publishFile file)) := by
  apply safe_op
  intro choice s own rest reply s' own' agrees ledger executed
  cases executed
  rw [Share.push_add] at ledger
  refine ⟨share, ?_, ledger.publishFile, next⟩
  exact agrees.give (Share.held_created ..) ⟨rfl, rfl, rfl, le_rfl, le_rfl, le_rfl⟩

theorem safe_setClosing {post : Unit → Share → Prop} (next : post () ((share.push (.closes file)).push (.shut file))) :
    Safe hw post (share.push (.closes file)) (call (.setClosing file)) := by
  apply safe_op
  intro choice s own rest reply s' own' agrees ledger executed
  cases executed
  rw [Share.push_add] at ledger
  refine ⟨_, ?_, ?_, next⟩
  · exact agrees.keep rfl ⟨rfl, rfl, rfl, le_rfl, le_rfl, le_rfl⟩
  · rw [Share.push_add, Share.push_add]
    exact ledger.setClosing

theorem safe_leave {post : Unit → Share → Prop} (next : post () share) :
    Safe hw post (share.push (.use file)) (call (.leave file)) := by
  apply safe_op
  intro choice s own rest reply s' own' agrees ledger executed
  cases executed
  rw [Share.push_add] at ledger
  exact ⟨share, agrees.keep rfl ⟨rfl, rfl, rfl, le_rfl, le_rfl, le_rfl⟩, ledger.leave, next⟩

end Files
end VamsSoc.Driver
