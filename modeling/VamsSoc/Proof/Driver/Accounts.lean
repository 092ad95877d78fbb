/-
This file has what the calls on a file, new requests, and the counters of the device do to the ledger.
-/

import VamsSoc.Proof.Driver.Objects

namespace VamsSoc.Driver
open Library Abi

variable {δ : Type}

namespace Ledger
variable {s : Shared δ} {h : Share}

theorem users_use (share : Share) (file other : Nat) :
    (share.push (.use file)).users other = share.users other + if other = file then 1 else 0 := by
  simp only [Share.users, Share.push, Multiset.count_cons]
  omega

theorem users_owed (share : Share) (file request other : Nat) :
    (share.push (.owed file request)).users other = share.users other + if other = file then 1 else 0 := by
  simp only [Share.users, Share.push, Multiset.map_cons, Multiset.count_cons]
  omega

/-- A call starts on an open file. -/
theorem enter (ledger : Ledger s h) {file : Nat} (opened : (s.files file).opened = true) :
    Ledger (s.setFile file { s.files file with users := (s.files file).users + 1 }) (h.push (.use file)) := by
  refine ledger.setCalls file { s.files file with users := (s.files file).users + 1 } (file ::ₘ h.uses) h.owed
    (ledger.opened_inside opened) rfl rfl (fun _ => opened) ?_ (fun _ member => member) ?_
  · intro other
    have more := users_use h file other
    have before := ledger.users other
    rw [setFile_apply]
    change _ = (h.push (.use file)).users other
    split_ifs at more ⊢ with same
    · subst same
      dsimp only
      omega
    · omega
  · intro onTime
    exact forall_setFile (motive := fun other after => (s.files other).closing = false →
      after.completed = s.countedEntries other + (h.owed.map Prod.fst).count other)
      (ledger.completed onTime file) fun other _ => ledger.completed onTime other

/-- A call ends. -/
theorem leave {file : Nat} (ledger : Ledger s (h.push (.use file))) :
    Ledger (s.setFile file { s.files file with users := (s.files file).users - 1 }) h := by
  have running : 0 < (s.files file).users := by
    rw [ledger.users, users_use, if_pos rfl]
    omega
  have opened := ledger.usersOpened file running
  refine ledger.setCalls file { s.files file with users := (s.files file).users - 1 } h.uses h.owed
    (ledger.opened_inside opened) rfl rfl (fun _ => opened) ?_ (fun _ member => member) ?_
  · intro other
    have fewer := users_use h file other
    have before := ledger.users other
    rw [setFile_apply]
    change _ = h.users other
    split_ifs at fewer ⊢ with same
    · subst same
      dsimp only
      omega
    · omega
  · intro onTime
    exact forall_setFile (motive := fun other after => (s.files other).closing = false →
      after.completed = s.countedEntries other + (h.owed.map Prod.fst).count other)
      (ledger.completed onTime file) fun other _ => ledger.completed onTime other

theorem running_of_owed {file request : Nat} (ledger : Ledger s (h.push (.owed file request))) :
    (s.files file).opened = true := by
  apply ledger.usersOpened
  rw [ledger.users, users_owed, if_pos rfl]
  omega

/-- The debt of a call becomes a plain call when the counter of the file is right without it. -/
theorem settle {file request : Nat} (ledger : Ledger s (h.push (.owed file request))) (completed : Nat)
    (paid : s.history.earlyReaps = [] → completed + 1 = (s.files file).completed) :
    Ledger (s.setFile file { s.files file with completed }) (h.push (.use file)) := by
  have opened := ledger.running_of_owed
  refine ledger.setCalls file { s.files file with completed } (file ::ₘ h.uses) h.owed (ledger.opened_inside opened) rfl
    rfl (fun _ => opened) ?_ (fun _ member => Multiset.mem_cons_of_mem member) ?_
  · intro other
    have before := ledger.users other
    rw [users_owed, ← users_use] at before
    refine Eq.trans ?_ before
    rw [setFile_apply]
    split
    · next same => rw [same]
    · rfl
  · intro onTime other unmarked
    have before := ledger.completed onTime other unmarked
    have less := paid onTime
    have debts : ((h.push (.owed file request)).owed.map Prod.fst).count other =
        (h.owed.map Prod.fst).count other + if other = file then 1 else 0 := by
      simp only [Share.push, Multiset.map_cons, Multiset.count_cons]
    rw [setFile_apply]
    split_ifs at debts ⊢ with same
    · subst same
      dsimp only
      omega
    · omega

/-- The call pays its debt. -/
theorem pay {file request : Nat} (ledger : Ledger s (h.push (.owed file request))) :
    Ledger (s.setFile file { s.files file with completed := (s.files file).completed - 1 }) (h.push (.use file)) := by
  apply ledger.settle
  intro onTime
  have opened := ledger.running_of_owed
  have unmarked : (s.files file).closing = false := by
    by_contra marked
    have shut := ledger.closing file ((Bool.not_eq_false _).mp marked)
    exact Bool.false_ne_true (shut.symm.trans opened)
  have debts : 0 < ((h.push (.owed file request)).owed.map Prod.fst).count file := by
    simp only [Share.push, Multiset.map_cons, Multiset.count_cons_self]
    omega
  have before := ledger.completed onTime file unmarked
  omega

/-- The debt for a request that is not done is forgiven, since the request was reaped early. -/
theorem forgive {file request : Nat} (ledger : Ledger s (h.push (.owed file request)))
    (open_ : (s.requests request).done = false) : Ledger s (h.push (.use file)) := by
  have early : s.history.earlyReaps ≠ [] := by
    rcases ledger.owing (file, request) (Multiset.mem_cons_self ..) with early | done
    · exact early
    · exact (Bool.false_ne_true (open_.symm.trans done)).elim
  have same : s.setFile file { s.files file with completed := (s.files file).completed } = s := by
    rw [Shared.setFile]
    exact congrArg (fun files => { s with files }) (Function.update_eq_self ..)
  have settled := ledger.settle (s.files file).completed fun onTime => absurd onTime early
  rwa [same] at settled

/-- The reference of a closed descriptor goes to the thread that closes the file. -/
theorem closed_file (ledger : Ledger s h) {file : Nat} (opened : (s.files file).opened = true)
    (unused : (s.files file).users = 0) {earlyCloses : List Nat}
    (onTime : earlyCloses = [] → s.history.earlyCloses = [] ∧ ∀ request mapping,
      .mapping mapping ∈ (s.requests request).links → (s.mappings mapping).file ≠ file) :
    Ledger ((s.setFile file { s.files file with opened := false }).setHistory { s.history with earlyCloses })
      (h.push (.closes file)) := by
  have owners : ∀ object, s.owners object =
      (s.setFile file { s.files file with opened := false }).owners object + if object = .file file then 1 else 0 := by
    intro object
    have count := owners_setFile (s := s) file { s.files file with opened := false } 0 1 (by simp [opened]) object
    rw [ite_self] at count
    exact count.symm
  have standing := standing_closing (s := s) (h := h) file { s.files file with opened := false } rfl
  exact { ledger with
    balanced := by
      rw [Share.held_closes]
      exact ledger.balanced.take owners
    created := by
      intro creation member
      obtain ⟨once, kept⟩ := ledger.created creation member
      refine ⟨once, kept_of_closing kept _ rfl ?_⟩
      exact forall_setFile (motive := fun other after => after.closing = (s.files other).closing) rfl fun _ _ => rfl
    requests := fun request => standing request ▸ ledger.requests request
    blankRequests := fun request outside => standing request ▸ ledger.blankRequests request outside
    blankFiles := ledger.blankFiles_setFile (ledger.opened_inside opened)
    users := forall_setFile (motive := fun other after => after.users = h.users other) (ledger.users file)
      fun other _ => ledger.users other
    usersOpened := forall_setFile (motive := fun _ after => 0 < after.users → after.opened = true)
      (fun running => absurd (unused ▸ running) (Nat.lt_irrefl 0)) fun other _ => ledger.usersOpened other
    closes := forall_setFile (motive := fun other after => other ∈ (h.push (.closes file)).closes → after.opened = false)
      (fun _ => rfl) (by
        intro other differs member
        rcases Multiset.mem_cons.mp member with same | before
        · exact (differs same).elim
        · exact ledger.closes other before)
    closing := forall_setFile (motive := fun _ after => after.closing = true → after.opened = false) (fun _ => rfl)
      fun other _ => ledger.closing other
    shut := forall_setFile (motive := fun other after => other ∈ h.shut → after.closing = true)
      (fun member => ledger.shut file member) fun other _ => ledger.shut other
    completed := fun early => forall_setFile (motive := fun other after => after.closing = false →
      after.completed = s.countedEntries other + (h.owed.map Prod.fst).count other) (ledger.completed early file)
      fun other _ => ledger.completed early other
    linked := fun none => ledger.linked (onTime none).1
    closed := fun none => forall_setFile (motive := fun other after => after.opened = false → ∀ request mapping,
      Object.mapping mapping ∈ (s.requests request).links → (s.mappings mapping).file ≠ other) (fun _ => (onTime none).2)
      fun other _ => ledger.closed (onTime none).1 other
    orphans := fun some none => ledger.orphans some (onTime none).1
    releases := fun none => ledger.releases (onTime none).1 }

/-- The mappings of a file that no request uses are linked from no request. -/
theorem unlinked_of_not_hasRequest (ledger : Ledger s h) {file : Nat} (none : s.hasRequest file = false) :
    ∀ request mapping, .mapping mapping ∈ (s.requests request).links → (s.mappings mapping).file ≠ file := by
  intro request mapping link same
  have inside : request < s.requestCount := by
    by_contra outside
    rw [(ledger.blankRequests request (by omega)).1] at link
    cases link
  have uses := List.any_eq_false.mp none request (List.mem_range.mpr inside)
  rcases mem_links_mapping.mp link with source | destination
  · simp [source, same] at uses
  · simp [destination, same] at uses

/-- A file is closed when no call runs on it. -/
theorem close (ledger : Ledger s h) {file : Nat} (opened : (s.files file).opened = true)
    (unused : (s.files file).users = 0) : Ledger (s.closeFile file) (h.push (.closes file)) := by
  unfold Shared.closeFile
  dsimp only
  split
  · exact ledger.closed_file opened unused nofun
  · next free =>
      have none : s.hasRequest file = false := eq_false_of_ne_true free
      exact ledger.closed_file opened unused fun early => ⟨early, ledger.unlinked_of_not_hasRequest none⟩

section NewRequest
variable {owner : Option Nat}

theorem newRequest_self (owner : Option Nat) : (s.newRequest owner).requests s.requestCount = { owner } :=
  Function.update_self ..

theorem newRequest_other {other : Nat} (differs : other ≠ s.requestCount) :
    (s.newRequest owner).requests other = s.requests other := Function.update_of_ne differs ..

/-- A new request adds its link to its owner. -/
theorem linksTo_newRequest (owner : Option Nat) (object : Object) :
    (s.newRequest owner).linksTo object = s.linksTo object + (owner.toList.map Object.file).count object := by
  change ∑ request ∈ Finset.range (s.requestCount + 1), ((s.newRequest owner).requests request).links.count object = _
  have links : ({ owner } : Request).links = owner.toList.map .file := rfl
  rw [Finset.sum_range_succ, newRequest_self, links]
  congr 1
  apply Finset.sum_congr rfl
  intro request inside
  rw [newRequest_other (Finset.mem_range.mp inside).ne]

/-- The share of a thread that has allocated a request. -/
def Drafted (h : Share) (request : Nat) (owner : Option Nat) : Share :=
  ((h.push (.draft ⟨request, owner, 0⟩)).push (.fresh request)).push (.bare request)

/-- Other objects keep their numbers. -/
theorem allocated_newRequest {object : Object} (other : ∀ request, object ≠ .request request) :
    (s.newRequest owner).book.allocated object = s.book.allocated object := by
  cases owner <;> exact Function.update_of_ne (other _) ..

theorem links_newRequest {request mapping : Nat} (link : .mapping mapping ∈ ((s.newRequest owner).requests request).links) :
    .mapping mapping ∈ (s.requests request).links := by
  by_cases same : request = s.requestCount
  · subst same
    rw [newRequest_self] at link
    simp [mem_links_mapping] at link
  · rwa [newRequest_other same] at link

variable (ledger : Ledger s h)
include ledger

theorem fresh_request : s.book.allocated (.request s.requestCount) = false := by
  rw [ledger.requestNumbers]
  simp

/-- A request that is not allocated is in no table. -/
theorem unlisted_request {index : Index} (requests : ∀ value, index.object value = .request value)
    {key : U32} {request : Nat} (present : (s.tables index).lookup key = some request) : request ≠ s.requestCount := by
  have live := ledger.live_entry present
  rw [requests] at live
  exact (ledger.request_inside live).ne

theorem fileEntries_newRequest (request : Nat) :
    (s.newRequest owner).fileEntries request = s.fileEntries request := by
  by_cases same : request = s.requestCount
  · subst same
    have before : s.fileEntries s.requestCount = 0 :=
      congrArg Standing.inFile (ledger.blankRequests _ (Nat.le_refl _)).2
    rw [Shared.fileEntries, newRequest_self, before]
    cases owner with
    | none => rfl
    | some file =>
        change (s.tables (.requests file)).count s.requestCount = 0
        by_contra some
        obtain ⟨key, present⟩ := Table.count_pos.mp (Nat.pos_of_ne_zero some)
        exact ledger.unlisted_request (fun _ => rfl) present rfl
  · rw [Shared.fileEntries, Shared.fileEntries, newRequest_other same]
    rfl

theorem owners_newRequest (object : Object) :
    (s.newRequest owner).owners object = s.owners object + (owner.toList.map Object.file).count object := by
  have entries : (s.newRequest owner).entries object = s.entries object := by
    cases object with
    | request number =>
        change (s.tables .device).count number + (s.newRequest owner).fileEntries number = _
        rw [ledger.fileEntries_newRequest]
        rfl
    | mapping number => rfl
    | file number => rfl
  rw [Shared.owners, Shared.owners, entries, linksTo_newRequest, Nat.add_assoc]

theorem balanced_newRequest
    (opened : ∀ file, owner = some file → (s.files file).opened = true) :
    Balanced (s.newRequest owner).book (s.newRequest owner).owners (.request s.requestCount ::ₘ h.held) h.dying := by
  have allocated := ledger.balanced.allocate ledger.fresh_request
  cases owner with
  | none => exact allocated.congr ledger.owners_newRequest
  | some file =>
      have owned : 0 < s.owners (.file file) := by
        change 0 < (if (s.files file).opened then 1 else 0) + _
        rw [if_pos (opened file rfl)]
        omega
      have live : 0 < (s.book.allocate (.request s.requestCount)).refs (.file file) := allocated.live_of_owned owned
      apply (allocated.get live).give
      intro object
      rw [ledger.owners_newRequest, Option.toList_some, List.map_singleton, List.count_singleton]
      simp only [beq_iff_eq, eq_comm (a := object)]

theorem standing_newRequest {other : Nat} (differs : other ≠ s.requestCount) :
    (s.newRequest owner).standing (Drafted h s.requestCount owner) other = s.standing h other := by
  have same : (s.newRequest owner).fileEntries other = s.fileEntries other := ledger.fileEntries_newRequest other
  have open_ : (s.newRequest owner).ownerOpen other = s.ownerOpen other := by
    rw [Shared.ownerOpen, Shared.ownerOpen, newRequest_other differs]
    rfl
  simp only [Shared.standing, newRequest_other differs, same, open_, Drafted, Share.push, Multiset.map_cons,
    Multiset.count_cons_of_ne differs]
  rfl

theorem sound_newRequest :
    ((s.newRequest owner).standing (Drafted h s.requestCount owner) s.requestCount).Sound (s.history.earlyReaps = []) := by
  obtain ⟨_, blank⟩ := ledger.blankRequests s.requestCount (Nat.le_refl _)
  have entries : (s.newRequest owner).fileEntries s.requestCount = 0 := by
    rw [ledger.fileEntries_newRequest]
    exact congrArg Standing.inFile blank
  have stands : (s.newRequest owner).standing (Drafted h s.requestCount owner) s.requestCount =
      { s.standing h s.requestCount with
        ownerOpen := (s.newRequest owner).ownerOpen s.requestCount
        tracked := false
        done := false
        counted := false
        mapped := false
        inFile := 0
        fresh := h.fresh.count s.requestCount + 1
        bare := h.bare.count s.requestCount + 1
        unlisted := (h.drafts.map Draft.request).count s.requestCount + 1 } := by
    simp only [Shared.standing, newRequest_self, entries, Drafted, Share.push, Multiset.map_cons,
      Multiset.count_cons_self]
    rfl
  have fresh : h.fresh.count s.requestCount = 0 := congrArg Standing.fresh blank
  have bare : h.bare.count s.requestCount = 0 := congrArg Standing.bare blank
  have unlisted : (h.drafts.map Draft.request).count s.requestCount = 0 := congrArg Standing.unlisted blank
  rw [stands, blank, fresh, bare, unlisted]
  constructor <;> simp

theorem created_newRequest
    (opened : ∀ file, owner = some file → (s.files file).opened = true) {creation : Creation}
    (member : creation ∈ h.created) : (s.newRequest owner).book.refs creation.object = 1 := by
  have one := ledger.refs_allocate ledger.fresh_request (ledger.created creation member).1
  cases owner with
  | none => exact one
  | some file =>
      have differs : creation.object ≠ .file file := by
        intro same
        have alone := (ledger.created_alone member).1
        rw [same] at alone
        change (if (s.files file).opened then 1 else 0) + _ = 0 at alone
        rw [if_pos (opened file rfl)] at alone
        omega
      exact (Function.update_of_ne differs ..).trans one

theorem sights_newRequest :
    ∀ holding ∈ h.holdings, ∀ sight ∈ holding.sights,
      sight.Holds (s.newRequest owner) ∧ sight.index.lock = holding.lock := by
  intro holding member sight seen
  obtain ⟨⟨present, only⟩, lock⟩ := ledger.sights holding member sight seen
  refine ⟨⟨present, fun sole => ?_⟩, lock⟩
  have one := ledger.refs_allocate ledger.fresh_request (only sole)
  cases owner with
  | none => exact one
  | some file =>
      have differs : sight.object ≠ .file file := by
        unfold Sight.object
        cases sight.index <;> exact nofun
      exact (Function.update_of_ne differs ..).trans one

theorem requestNumbers_newRequest (request : Nat) :
    (s.newRequest owner).book.allocated (.request request) = decide (request < s.requestCount + 1) := by
  have allocated : (s.newRequest owner).book.allocated (.request request) =
      (s.book.allocate (.request s.requestCount)).allocated (.request request) := by
    cases owner <;> rfl
  rw [allocated]
  exact RefBook.allocated_next (fun _ _ => Object.request.inj) ledger.requestNumbers request

theorem countedEntries_newRequest (file : Nat) :
    (s.newRequest owner).countedEntries file = s.countedEntries file := by
  apply List.countP_congr
  intro entry listed
  have present : (s.tables (.requests file)).lookup entry.1 = some entry.2 := Table.lookup_eq_some.mpr listed
  rw [newRequest_other (ledger.unlisted_request (fun _ => rfl) present)]

theorem resting_newRequest : (s.newRequest owner).Resting h.cleared := by
  have older : ∀ request, s.Ended request → request ≠ s.requestCount := by
    rintro _ ⟨allocated, -⟩ rfl
    rw [ledger.requestNumbers] at allocated
    simp at allocated
  refine ledger.resting_of ?_ ?_ ?_
  · intro request ended
    have differs : Object.request request ≠ .request s.requestCount :=
      fun same => older request ended (Object.request.inj same)
    cases owner <;>
      exact ⟨(Function.update_of_ne differs ..).trans ended.1, (Function.update_of_ne differs ..).trans ended.2⟩
  · intro reference ended gone
    exact (referent_setRequest_other (older _ ended)).trans gone
  · intro request
    cases owner <;> rfl

/-- A new request is a draft without mappings that was never in a table. -/
theorem newRequest (opened : ∀ file, owner = some file → (s.files file).opened = true) :
    Ledger (s.newRequest owner) (Drafted h s.requestCount owner) :=
  { ledger with
    balanced := by
      have held : (Drafted h s.requestCount owner).held = .request s.requestCount ::ₘ h.held := by
        simp [Drafted, Share.held, Share.push]
      rw [held]
      exact ledger.balanced_newRequest opened
    created := by
      intro creation member
      refine ⟨ledger.created_newRequest opened member, ?_⟩
      exact kept_of_closing (ledger.created creation member).2 _ rfl fun _ => rfl
    belongs := by
      intro index key value present
      have before := ledger.belongs index key value present
      cases index with
      | device => trivial
      | requests file =>
          change ((s.newRequest owner).requests value).owner = some file
          rw [newRequest_other (ledger.unlisted_request (fun _ => rfl) present)]
          exact before
      | mappings file => exact before
    named := by
      intro file key request present
      rw [newRequest_other (ledger.unlisted_request (fun _ => rfl) present)]
      exact ledger.named file key request present
    drafts := by
      intro draft member
      rcases Multiset.mem_cons.mp member with rfl | before
      · rw [newRequest_self]
        exact ⟨rfl, rfl⟩
      · have live : 0 < s.book.refs (.request draft.request) :=
          ledger.balanced.live_of_held (Multiset.count_pos.mp (count_held_draft before))
        rw [newRequest_other (ledger.request_inside live).ne]
        exact ledger.drafts draft before
    requestNumbers := ledger.requestNumbers_newRequest
    mappingNumbers := fun mapping => (allocated_newRequest fun _ => Object.noConfusion).trans (ledger.mappingNumbers mapping)
    fileNumbers := fun file => (allocated_newRequest fun _ => Object.noConfusion).trans (ledger.fileNumbers file)
    sights := ledger.sights_newRequest
    requests := ledger.requests_at _ (fun _ differs => ledger.standing_newRequest differs) id ledger.sound_newRequest
    blankRequests := by
      intro request outside
      have differs : request ≠ s.requestCount := Nat.ne_of_gt outside
      rw [ledger.standing_newRequest differs, newRequest_other differs]
      exact ledger.blankRequests request (Nat.le_of_succ_le outside)
    completed := by
      intro onTime file unmarked
      rw [ledger.countedEntries_newRequest]
      exact ledger.completed onTime file unmarked
    owing := by
      intro debt member
      refine (ledger.owing debt member).imp_right fun done => ?_
      have differs : debt.2 ≠ s.requestCount := by
        intro same
        rw [same, (ledger.blankRequests _ (Nat.le_refl _)).1] at done
        cases done
      rw [newRequest_other differs]
      exact done
    linked := fun onTime request mapping link => ledger.linked onTime request mapping (links_newRequest link)
    closed := fun onTime file shut request mapping link =>
      ledger.closed onTime file shut request mapping (links_newRequest link)
    resting := ledger.resting_newRequest }

end NewRequest

section Mappings

/-- The thread has a reference to a mapping, if there is one. -/
def Mapped (h : Share) (mapping : Option Nat) : Share :=
  { h with refs := (mapping.toList.map Object.mapping : List Object) + h.refs }

theorem mapped_some (h : Share) (mapping : Nat) : Mapped h (some mapping) = h.push (.ref (.mapping mapping)) := by
  simp [Mapped, Share.push]

theorem mapped_none (h : Share) : Mapped h none = h := by
  simp [Mapped]

theorem held_mapped (h : Share) (mapping : Option Nat) :
    (Mapped h mapping).held = (mapping.toList.map Object.mapping : List Object) + h.held := by
  simp only [Share.held, Mapped, add_assoc]

/-- The mappings of a request are all that its record changes. -/
theorem owners_setMappings {request : Nat} (inside : request < s.requestCount)
    (unmapped : (s.requests request).source = none ∧ (s.requests request).destination = none)
    (source destination : Option Nat) (object : Object) :
    (s.setRequest request { s.requests request with source, destination }).owners object =
      s.owners object + (source.toList.map Object.mapping ++ destination.toList.map Object.mapping).count object := by
  have entries : (s.setRequest request { s.requests request with source, destination }).entries object =
      s.entries object := by
    cases object with
    | request number =>
        change _ + (s.setRequest request _).fileEntries number = _ + s.fileEntries number
        rw [Shared.fileEntries, Shared.fileEntries, setRequest_apply]
        by_cases same : number = request
        · rw [if_pos same, same]
          rfl
        · rw [if_neg same]
          rfl
    | mapping number => rfl
    | file number => rfl
  have links := linksTo_setRequest { s.requests request with source, destination } inside object
  have before : (s.requests request).links = (s.requests request).owner.toList.map .file := by
    simp [Request.links, unmapped.1, unmapped.2]
  have after : ({ s.requests request with source, destination } : Request).links.count object =
      (source.toList.map Object.mapping ++ destination.toList.map Object.mapping).count object +
        ((s.requests request).owner.toList.map Object.file).count object := List.count_append
  rw [before, after] at links
  rw [Shared.owners, Shared.owners, entries]
  omega

section
variable {request : Nat} {source destination : Option Nat}
  (ledger : Ledger s ((Mapped (Mapped h source) destination).push (.bare request)))

theorem links_setMappings {other mapping : Nat}
    (link : .mapping mapping ∈
      ((s.setRequest request { s.requests request with source, destination }).requests other).links) :
    .mapping mapping ∈ (s.requests other).links ∨ source = some mapping ∨ destination = some mapping := by
  rw [setRequest_apply] at link
  split at link
  · exact .inr (mem_links_mapping.mp link)
  · exact .inl link

theorem standing_setMappings {other : Nat} (differs : other ≠ request) :
    (s.setRequest request { s.requests request with source, destination }).standing h other =
      s.standing ((Mapped (Mapped h source) destination).push (.bare request)) other := by
  rw [standing_setRequest differs]
  have fewer : ((Mapped (Mapped h source) destination).push (.bare request)).bare.count other = h.bare.count other :=
    Multiset.count_cons_of_ne differs ..
  simp only [Shared.standing, fewer]
  rfl

theorem held_setMappings : ((Mapped (Mapped h source) destination).push (.bare request)).held =
    (source.toList.map Object.mapping ++ destination.toList.map Object.mapping : List Object) + h.held := by
  change (Mapped (Mapped h source) destination).held = _
  rw [held_mapped, held_mapped, ← Multiset.coe_add, add_left_comm, add_assoc]

theorem bare_setMappings : (s.standing ((Mapped (Mapped h source) destination).push (.bare request)) request).bare =
    h.bare.count request + 1 := Multiset.count_cons_self ..

include ledger

/-- A request that waits for its mappings has none. -/
theorem unmapped_of_bare : (s.requests request).source = none ∧ (s.requests request).destination = none := by
  have once := (ledger.requests request).bare
  rw [bare_setMappings] at once
  have blank : (s.standing ((Mapped (Mapped h source) destination).push (.bare request)) request).mapped = false := by
    by_contra some
    rw [if_pos ((Bool.not_eq_false _).mp some)] at once
    omega
  simpa [Shared.standing] using blank

theorem inside_of_bare : request < s.requestCount := by
  by_contra outside
  have blank := congrArg Standing.bare (ledger.blankRequests request (by omega)).2
  rw [bare_setMappings] at blank
  cases blank

/-- A request without mappings takes over the references to its mappings, which are in the tables of open files. -/
theorem setMappings
    (listed : ∀ mapping, source = some mapping ∨ destination = some mapping →
      0 < (s.tables (.mappings (s.mappings mapping).file)).count mapping ∧
        (s.files (s.mappings mapping).file).opened = true)
    (live : 0 < s.book.refs (.request request)) :
    Ledger (s.setRequest request { s.requests request with source, destination }) h := by
  have sound := ledger.requests request
  have inside := ledger.inside_of_bare
  have stands : (s.setRequest request { s.requests request with source, destination }).standing h request =
      { s.standing ((Mapped (Mapped h source) destination).push (.bare request)) request with
        bare := h.bare.count request, mapped := source.isSome || destination.isSome } := by
    refine (standing_setRequest_self ?_).trans ?_ <;> rfl
  exact { ledger with
    balanced := by
      apply Balanced.giveAll _ (owners_setMappings inside ledger.unmapped_of_bare source destination)
      have balanced := ledger.balanced
      rwa [held_setMappings] at balanced
    belongs := ledger.belongs_setRequest rfl
    named := ledger.named_setRequest rfl
    drafts := ledger.drafts_setRequest rfl rfl
    requests := by
      apply ledger.requests_at _ (fun _ => standing_setMappings) id
      rw [stands]
      refine { sound with bare := ?_ }
      have once := sound.bare
      rw [bare_setMappings] at once
      dsimp only
      split at once <;> omega
    blankRequests := by
      apply ledger.blank_at (fun _ => standing_setMappings) _ inside
      intro other differs
      rw [setRequest_apply, if_neg differs]
    completed := ledger.completed_setRequest rfl
    owing := ledger.owing_setRequest id
    linked := by
      intro onTime other mapping link
      rcases links_setMappings link with before | new
      · exact ledger.linked onTime other mapping before
      · exact (listed mapping new).1
    closed := by
      intro onTime file shut other mapping link
      rcases links_setMappings link with before | new
      · exact ledger.closed onTime file shut other mapping before
      · rintro rfl
        exact Bool.false_ne_true (shut.symm.trans (listed mapping new).2)
    resting := by
      refine ledger.resting_of (fun _ => id) ?_ (fun _ => rfl)
      intro reference ended gone
      have differs : reference.request ≠ request := by
        rintro rfl
        have zero := ended.2
        omega
      exact (referent_setRequest_other differs).trans gone }

end
end Mappings

/-- A request that was taken out of the table before it was in use is a draft again. -/
theorem redraft {draft : Draft}
    (ledger : Ledger s ((h.push (.ref (.request draft.request))).push (.reaped draft.request)))
    (owner : (s.requests draft.request).owner = draft.owner)
    (commandId : (s.requests draft.request).commandId = draft.commandId) : Ledger s (h.push (.draft draft)) := by
  have reaped : ∀ other, ((h.push (.ref (.request draft.request))).push (.reaped draft.request)).reaped.count other =
      h.reaped.count other + if other = draft.request then 1 else 0 := fun other => Multiset.count_cons ..
  have unlisted : ∀ other, ((h.push (.draft draft)).drafts.map Draft.request).count other =
      (h.drafts.map Draft.request).count other + if other = draft.request then 1 else 0 := by
    intro other
    simp only [Share.push, Multiset.map_cons, Multiset.count_cons]
  have stands : ∀ other, s.standing (h.push (.draft draft)) other =
      { s.standing ((h.push (.ref (.request draft.request))).push (.reaped draft.request)) other with
        reaped := h.reaped.count other
        unlisted := (h.drafts.map Draft.request).count other + if other = draft.request then 1 else 0 } := by
    intro other
    rw [← unlisted]
    rfl
  have elsewhere : ∀ other, other ≠ draft.request → s.standing (h.push (.draft draft)) other =
      s.standing ((h.push (.ref (.request draft.request))).push (.reaped draft.request)) other := by
    intro other differs
    have same := reaped other
    rw [if_neg differs, Nat.add_zero] at same
    rw [stands, if_neg differs, ← same]
    rfl
  have inside : draft.request < s.requestCount := by
    apply ledger.request_inside
    apply ledger.balanced.live_of_held
    exact Share.held_ref h (.request draft.request) ▸ Multiset.mem_cons_self ..
  exact { ledger with
    balanced := by
      rw [Share.held_draft, ← Share.held_ref]
      exact ledger.balanced
    drafts := by
      intro other member
      rcases Multiset.mem_cons.mp member with rfl | before
      · exact ⟨owner, commandId⟩
      · exact ledger.drafts other before
    requests := by
      apply ledger.requests_at _ elsewhere id
      have sound := ledger.requests draft.request
      have once := sound.reaping
      have here : (s.standing ((h.push (.ref (.request draft.request))).push (.reaped draft.request))
          draft.request).reaped = h.reaped.count draft.request + 1 := by
        have same := reaped draft.request
        rwa [if_pos rfl] at same
      have listed : (s.standing ((h.push (.ref (.request draft.request))).push (.reaped draft.request))
          draft.request).unlisted = (h.drafts.map Draft.request).count draft.request := rfl
      rw [stands, if_pos rfl]
      refine { sound with reaping := ?_ }
      dsimp only
      omega
    blankRequests := ledger.blank_at elsewhere (fun _ _ => rfl) inside }

section Counters

/-- The request of a submission is counted, and its thread has to look at the counter. -/
theorem incPending (ledger : Ledger s (h.push .uncounted)) :
    Ledger { s with pendingRequests := s.pendingRequests + 1 } (h.push .polls) :=
  { ledger with
    pending := by
      have before := ledger.pending
      simp only [Share.push] at before ⊢
      push_cast at before ⊢
      omega
    polled := by
      intro waiting
      refine (ledger.polled waiting).imp_right (.imp_right fun _ => ?_)
      simp only [Share.push]
      omega }

/-- A request that left the device table is no longer counted. -/
theorem decPending (ledger : Ledger s (h.push .erased)) :
    Ledger { s with pendingRequests := s.pendingRequests - 1 } h :=
  { ledger with
    pending := by
      have before := ledger.pending
      simp only [Share.push] at before
      push_cast at before
      change s.pendingRequests - 1 + _ = ((s.tables .device).size : Int) + _
      omega }

/-- The poll work is scheduled. -/
theorem schedule_poll (ledger : Ledger s h) (running : Bool) :
    Ledger { s with cqPollWork := { pending := true, running } } h :=
  { ledger with polled := fun _ => .inr (.inl rfl) }

/-- Only the removal cancels the poll work. -/
theorem cancel_poll (ledger : Ledger s (h.push .removes)) (work : Work) :
    Ledger { s with cqPollWork := work } (h.push .removes) :=
  { ledger with polled := fun _ => .inl (ledger.removing (Nat.succ_pos _)) }

/-- The scheduled poll work becomes a thread that will look at the counter. -/
theorem start_poll (ledger : Ledger s h) (work : Work) : Ledger { s with cqPollWork := work } (h.push .polls) :=
  { ledger with
    polled := by
      intro _
      simp only [Share.push]
      omega }

/-- A wait that reaped its request is answered with success. -/
theorem answer {request : Nat} (ledger : Ledger s (h.push (.reaped request))) :
    Ledger (s.setHistory { s.history with waits := (request, none) :: s.history.waits }) h := by
  have answered : ∀ other, ((request, (none : Option Errno)) :: s.history.waits).count (other, none) =
      s.history.waits.count (other, none) + if other = request then 1 else 0 := by
    intro other
    simp [List.count_cons, eq_comm (a := request)]
  have reaped : ∀ other, (h.push (.reaped request)).reaped.count other =
      h.reaped.count other + if other = request then 1 else 0 := fun other => Multiset.count_cons ..
  have stands : ∀ other,
      (s.setHistory { s.history with waits := (request, none) :: s.history.waits }).standing h other =
        { s.standing (h.push (.reaped request)) other with
          reaped := h.reaped.count other
          answered := s.history.waits.count (other, none) + if other = request then 1 else 0 } := by
    intro other
    rw [← answered]
    rfl
  have elsewhere : ∀ other, other ≠ request →
      (s.setHistory { s.history with waits := (request, none) :: s.history.waits }).standing h other =
        s.standing (h.push (.reaped request)) other := by
    intro other differs
    have same := reaped other
    rw [if_neg differs, Nat.add_zero] at same
    rw [stands, if_neg differs, ← same]
    rfl
  have inside : request < s.requestCount := by
    by_contra outside
    have blank := congrArg Standing.reaped (ledger.blankRequests request (by omega)).2
    have some := reaped request
    rw [if_pos rfl] at some
    exact absurd (some.symm.trans blank) (Nat.succ_ne_zero _)
  exact { ledger with
    requests := by
      apply ledger.requests_at _ elsewhere id
      have sound := ledger.requests request
      have once := sound.reaping
      rw [stands, if_pos rfl]
      refine { sound with reaping := ?_ }
      have some : (s.standing (h.push (.reaped request)) request).reaped = h.reaped.count request + 1 := by
        have here := reaped request
        rwa [if_pos rfl] at here
      have before : (s.standing (h.push (.reaped request)) request).answered = s.history.waits.count (request, none) :=
        rfl
      dsimp only
      omega
    blankRequests := ledger.blank_at elsewhere (fun _ _ => rfl) inside }

/-- An answer that is an error takes nothing. -/
theorem answer_error (ledger : Ledger s h) (request : Nat) (error : Errno) :
    Ledger (s.setHistory { s.history with waits := (request, some error) :: s.history.waits }) h := by
  have stands : ∀ other,
      (s.setHistory { s.history with waits := (request, some error) :: s.history.waits }).standing h other =
        s.standing h other := by
    intro other
    have same : ((request, some error) :: s.history.waits).count (other, none) = s.history.waits.count (other, none) :=
      List.count_cons_of_ne (by simp)
    simp only [Shared.standing, ← same]
    rfl
  exact { ledger with
    requests := fun other => stands other ▸ ledger.requests other
    blankRequests := fun other outside => stands other ▸ ledger.blankRequests other outside }

end Counters

section Touches

/-- A request that is not freed can be touched. -/
theorem touch_live (ledger : Ledger s h) {op : Op} {request : Nat} {peek : Bool}
    (touches : op.touches = some (request, peek)) (live : 0 < s.book.refs (.request request)) : s.touch op = s := by
  have unfreed := ledger.balanced.not_freed live
  simp only [Shared.touch, touches, unfreed, if_true]

/-- The thread that frees a request may still touch it. -/
theorem touch_dying {request : Nat} (ledger : Ledger s (h.push (.dying (.request request)))) {op : Op} {peek : Bool}
    (touches : op.touches = some (request, peek)) : s.touch op = s := by
  have unfreed := ledger.balanced.not_freed_of_dying (Multiset.mem_cons_self ..)
  simp only [Shared.touch, touches, unfreed, if_true]

/-- A peek at a request without a reference is recorded when it comes too late. -/
theorem peek (ledger : Ledger s h) (request : Nat) : Ledger (s.touch (.readGeneration request)) h := by
  have recorded : Ledger (s.setHistory { s.history with touched := (request, true) :: s.history.touched }) h :=
    { ledger with
      touched := by
        intro access member
        rcases List.mem_cons.mp member with rfl | before
        · rfl
        · exact ledger.touched access before }
  unfold Shared.touch
  dsimp only [Op.touches]
  split
  · exact ledger
  · exact recorded

end Touches
end Ledger
end VamsSoc.Driver
