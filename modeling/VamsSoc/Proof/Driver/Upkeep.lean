/-
This file has what each operation on references, tables, and requests does to the ledger.
-/

import VamsSoc.Proof.Driver.Ledger

namespace VamsSoc.Driver
open Library Abi

variable {δ : Type}

theorem Standing.Sound.complete (standing : Standing) {onTime : Prop}
    (sound : ({ standing with retiring := standing.retiring + 1 } : Standing).Sound onTime) :
    ({ standing with done := true, announcing := standing.announcing + 1 } : Standing).Sound onTime := by
  obtain ⟨completion, untracked, fresh, bare, reaping, countedDone, announcing, announced, kept⟩ := sound
  dsimp only at *
  have open_ : standing.done = false := by
    by_contra done
    simp only [Bool.not_eq_false] at done
    rw [if_pos done] at completion
    omega
  have uncounted : standing.counted = false := by
    by_contra counted
    simp only [Bool.not_eq_false] at counted
    rw [countedDone counted] at open_
    cases open_
  constructor <;> dsimp only
  · simp only [if_true]
    omega
  · intro none
    have nothing := (untracked none).2.1
    omega
  · exact fresh
  · exact bare
  · exact reaping
  · exact fun _ => rfl
  · rw [open_] at announcing
    simp [uncounted] at announcing ⊢
    exact announcing
  · exact fun _ _ => .inr (Nat.succ_pos _)
  · exact kept

theorem Standing.Sound.count (standing : Standing) {onTime : Prop}
    (sound : ({ standing with announcing := standing.announcing + 1 } : Standing).Sound onTime) :
    ({ standing with counted := true } : Standing).Sound onTime := by
  obtain ⟨completion, untracked, fresh, bare, reaping, countedDone, announcing, announced, kept⟩ := sound
  dsimp only at *
  have waiting : standing.done = true ∧ standing.counted = false := by
    by_contra other
    rw [if_neg other] at announcing
    omega
  rw [if_pos waiting] at announcing
  constructor <;> dsimp only
  · exact completion
  · exact untracked
  · exact fresh
  · exact bare
  · exact reaping
  · exact fun _ => waiting.1
  · omega
  · exact fun _ _ => .inl rfl
  · intro _ _ uncounted
    cases uncounted

/-- A request that its owner need not count is announced by nobody. -/
theorem Standing.Sound.pass (standing : Standing) {onTime : Prop}
    (sound : ({ standing with announcing := standing.announcing + 1 } : Standing).Sound onTime)
    (closed : standing.ownerOpen = false) : standing.Sound onTime := by
  obtain ⟨completion, untracked, fresh, bare, reaping, countedDone, announcing, announced, kept⟩ := sound
  refine ⟨completion, untracked, fresh, bare, reaping, countedDone, Nat.le_of_succ_le announcing, ?_, kept⟩
  intro _ open_
  rw [closed] at open_
  cases open_

namespace Ledger
variable {s : Shared δ} {h : Share}

/-- Only one thread holds a lock. -/
theorem exclusive {lock : Lock} {sights : List Sight} (ledger : Ledger s (h.push (.holding ⟨lock, sights⟩))) :
    ∀ holding ∈ h.holdings, holding.lock ≠ lock := by
  intro holding member same
  have count := ledger.locks lock
  change (Multiset.map Holding.lock (⟨lock, sights⟩ ::ₘ h.holdings)).count lock = _ at count
  rw [Multiset.map_cons, Multiset.count_cons_self] at count
  have present : 0 < (h.holdings.map Holding.lock).count lock :=
    Multiset.count_pos.mpr (same ▸ Multiset.mem_map_of_mem Holding.lock member)
  split at count <;> omega

theorem entries_pos {index : Index} {key : U32} {value : Nat} (present : (s.tables index).lookup key = some value)
    (belongs : s.Belongs index value) : 0 < s.entries (index.object value) := by
  have count : 0 < (s.tables index).count value := Table.count_pos.mpr ⟨key, present⟩
  cases index with
  | device =>
      change 0 < (s.tables .device).count value + s.fileEntries value
      omega
  | requests file =>
      have owner : (s.requests value).owner = some file := belongs
      have entries : s.fileEntries value = (s.tables (.requests file)).count value := by rw [Shared.fileEntries, owner]
      change 0 < (s.tables .device).count value + s.fileEntries value
      omega
  | mappings file =>
      have owner : (s.mappings value).file = file := belongs
      change 0 < (s.tables (.mappings (s.mappings value).file)).count value
      rw [owner]
      exact count

/-- The object of an entry has a reference. -/
theorem live_entry (ledger : Ledger s h) {index : Index} {key : U32} {value : Nat}
    (present : (s.tables index).lookup key = some value) : 0 < s.book.refs (index.object value) := by
  have entries := entries_pos present (ledger.belongs index key value present)
  apply ledger.balanced.live_of_owned
  change 0 < s.entries _ + s.linksTo _
  omega

/-- An object with an entry and a reference outside of the tables has two references. -/
theorem two_refs (ledger : Ledger s h) {index : Index} {key : U32} {value : Nat}
    (present : (s.tables index).lookup key = some value)
    (other : 0 < s.linksTo (index.object value) + h.held.count (index.object value)) :
    1 < s.book.refs (index.object value) := by
  have entries := entries_pos present (ledger.belongs index key value present)
  have counted := ledger.balanced.counted (index.object value)
  change _ = s.entries _ + s.linksTo _ + _ at counted
  omega

/-- Two tables with an entry for one object have two references to it. -/
theorem two_tables (ledger : Ledger s h) {first second : Sight} (firstSeen : first.Holds s) (secondSeen : second.Holds s)
    (same : first.object = second.object) (differs : first.index ≠ second.index) : 1 < s.book.refs first.object := by
  have firstOwner := ledger.belongs _ _ _ firstSeen.1
  have secondOwner := ledger.belongs _ _ _ secondSeen.1
  have firstCount := Table.count_pos.mpr ⟨_, firstSeen.1⟩
  have secondCount := Table.count_pos.mpr ⟨_, secondSeen.1⟩
  have counted := ledger.balanced.counted first.object
  obtain ⟨index, key, value, sole⟩ := first
  obtain ⟨index', key', value', sole'⟩ := second
  -- A request has an entry in the device table and one in the table of its owner; a mapping has one of its file.
  have both : ∀ file, (s.requests value).owner = some file → 0 < (s.tables .device).count value →
      0 < (s.tables (.requests file)).count value → 1 < s.book.refs (.request value) := by
    intro file owner inDevice inFile
    have counted := ledger.balanced.counted (.request value)
    have entries : s.fileEntries value = (s.tables (.requests file)).count value := by rw [Shared.fileEntries, owner]
    change _ = (s.tables .device).count value + s.fileEntries value + s.linksTo _ + _ at counted
    omega
  cases index <;> cases index' <;> simp_all [Sight.object, Index.object, Shared.Belongs]

/-- What a table alone refers to, no thread and no request refers to. -/
theorem not_sole (ledger : Ledger s h) {object : Object} (other : 0 < s.linksTo object + h.held.count object) :
    ∀ holding ∈ h.holdings, ∀ sight ∈ holding.sights, sight.sole = true → sight.object ≠ object := by
  rintro holding member sight seen sole rfl
  obtain ⟨⟨present, only⟩, _⟩ := ledger.sights holding member sight seen
  have two := ledger.two_refs present other
  have one := only sole
  change s.book.refs (sight.index.object sight.value) = 1 at one
  omega

/-- The sights of all threads survive when the tables stay and no count changes behind a sole sight. -/
theorem sights_of_refs (ledger : Ledger s h) (later : Shared δ) (tables : later.tables = s.tables)
    (refs : ∀ holding ∈ h.holdings, ∀ sight ∈ holding.sights, sight.sole = true →
      later.book.refs sight.object = s.book.refs sight.object) :
    ∀ holding ∈ h.holdings, ∀ sight ∈ holding.sights, sight.Holds later ∧ sight.index.lock = holding.lock := by
  intro holding member sight seen
  obtain ⟨⟨present, only⟩, lock⟩ := ledger.sights holding member sight seen
  refine ⟨⟨?_, fun sole => ?_⟩, lock⟩
  · rw [tables]
    exact present
  · rw [refs holding member sight seen sole]
    exact only sole

theorem count_held_pos {object : Object} : 0 < ((h.push (.ref object)).held).count object := by
  rw [Share.held_ref, Multiset.count_cons_self]
  omega

theorem count_held_created {creation : Creation} (member : creation ∈ h.created) :
    0 < h.held.count creation.object := by
  rw [Multiset.count_pos]
  simp only [Share.held, Multiset.mem_add]
  exact .inl (.inl (.inr (Multiset.mem_map_of_mem _ member)))

/-- Nothing else refers to an object that a thread has created. -/
theorem created_alone (ledger : Ledger s h) {creation : Creation} (member : creation ∈ h.created) :
    s.owners creation.object = 0 ∧ h.held.count creation.object = 1 := by
  have one := (ledger.created creation member).1
  have counted := ledger.balanced.counted creation.object
  have inside := count_held_created member
  omega

/-- A thread that has a reference is not alone with an object that another one created. -/
theorem not_created {object : Object} (ledger : Ledger s (h.push (.ref object))) :
    ∀ creation ∈ h.created, creation.object ≠ object := by
  rintro creation member rfl
  have alone := (ledger.created_alone member).2
  have inside := count_held_created member
  rw [Share.held_ref, Multiset.count_cons_self] at alone
  omega

/-- What a thread knows about its creation only depends on the closing mark of a file. -/
theorem kept_of_closing {creation : Creation} (kept : creation.Kept s) (later : Shared δ)
    (mappings : later.mappings = s.mappings)
    (closing : ∀ file, (later.files file).closing = (s.files file).closing) : creation.Kept later := by
  cases creation with
  | mapping number file =>
      change (later.mappings number).file = file
      rw [mappings]
      exact kept
  | file number => exact (closing number).trans kept

theorem created_of_refs (ledger : Ledger s h) {book : RefBook Object}
    (refs : ∀ creation ∈ h.created, book.refs creation.object = s.book.refs creation.object) :
    ∀ creation ∈ h.created, book.refs creation.object = 1 ∧ creation.Kept { s with book } := by
  intro creation member
  obtain ⟨one, kept⟩ := ledger.created creation member
  exact ⟨(refs creation member).trans one, kept_of_closing kept { s with book } rfl fun _ => rfl⟩

/-- The parts of the ledger that a put keeps, whether it was the last one or not. -/
theorem put_sights {object : Object} (ledger : Ledger s (h.push (.ref object))) :
    ∀ holding ∈ h.holdings, ∀ sight ∈ holding.sights,
      sight.Holds { s with book := s.book.put object } ∧ sight.index.lock = holding.lock := by
  apply ledger.sights_of_refs { s with book := s.book.put object } rfl
  intro holding member sight seen sole
  have differs := ledger.not_sole (Nat.add_pos_right _ count_held_pos) holding member sight seen sole
  exact Function.update_of_ne differs ..

theorem put_created {object : Object} (ledger : Ledger s (h.push (.ref object))) :
    ∀ creation ∈ h.created, (s.book.put object).refs creation.object = 1 ∧
      creation.Kept { s with book := s.book.put object } := by
  apply ledger.created_of_refs
  intro creation member
  exact Function.update_of_ne (ledger.not_created creation member) ..

/-- A request that has ended keeps a count of zero. -/
theorem ended_put {request : Nat} (ended : s.Ended request) (object : Object) :
    Shared.Ended { s with book := s.book.put object } request := by
  obtain ⟨allocated, zero⟩ := ended
  refine ⟨allocated, ?_⟩
  change Function.update s.book.refs object (s.book.refs object - 1) (.request request) = 0
  rw [Function.update_apply]
  split
  · next same =>
      rw [← same]
      omega
  · exact zero

theorem resting_put (ledger : Ledger s h) (object : Object) :
    Shared.Resting { s with book := s.book.put object } h.cleared :=
  ledger.resting_of (fun _ ended => ended_put ended object) (fun _ _ => id) fun _ => rfl

theorem resting_get (ledger : Ledger s h) {object : Object} (live : 0 < s.book.refs object) :
    Shared.Resting { s with book := s.book.get object } h.cleared := by
  refine ledger.resting_of ?_ (fun _ _ => id) (fun _ => rfl)
  rintro request ⟨allocated, zero⟩
  refine ⟨allocated, ?_⟩
  change Function.update s.book.refs object _ (.request request) = 0
  rw [Function.update_of_ne]
  · exact zero
  · rintro rfl
    omega

/-- A reference is put, and others are left. -/
theorem put_more {object : Object} (ledger : Ledger s (h.push (.ref object))) (more : s.book.refs object ≠ 1) :
    Ledger { s with book := s.book.put object } h :=
  { ledger with
    balanced := by
      have balanced := ledger.balanced
      rw [Share.held_ref] at balanced
      have after := balanced.put
      rw [if_neg more] at after
      exact after
    created := ledger.put_created
    sights := ledger.put_sights
    resting := ledger.resting_put object }

/-- The last reference is put, and the thread has to free the object. -/
theorem put_last {object : Object} (ledger : Ledger s (h.push (.ref object))) (last : s.book.refs object = 1) :
    Ledger { s with book := s.book.put object } (h.push (.dying object)) :=
  { ledger with
    balanced := by
      have balanced := ledger.balanced
      rw [Share.held_ref] at balanced
      have after := balanced.put
      rw [if_pos last] at after
      exact after
    created := ledger.put_created
    sights := ledger.put_sights
    resting := ledger.resting_put object }

/-- A thread that has a reference, or an entry under a lock, takes another reference. -/
theorem get (ledger : Ledger s h) {object : Object} (live : 0 < s.book.refs object)
    (shared : ∀ creation ∈ h.created, creation.object ≠ object)
    (open_ : ∀ holding ∈ h.holdings, ∀ sight ∈ holding.sights, sight.sole = true → sight.object ≠ object) :
    Ledger { s with book := s.book.get object } (h.push (.ref object)) :=
  { ledger with
    balanced := by
      rw [Share.held_ref]
      exact ledger.balanced.get live
    created := by
      apply ledger.created_of_refs
      intro creation member
      exact Function.update_of_ne (shared creation member) ..
    sights := by
      apply ledger.sights_of_refs { s with book := s.book.get object } rfl
      intro holding member sight seen sole
      exact Function.update_of_ne (open_ holding member sight seen sole) ..
    resting := ledger.resting_get live }

theorem get_of_sight {lock : Lock} {sights : List Sight} {sight : Sight}
    (ledger : Ledger s (h.push (.holding ⟨lock, sights⟩))) (seen : sight ∈ sights)
    (shared : ∀ other ∈ sights, other.sole = true → other.object ≠ sight.object) :
    Ledger { s with book := s.book.get sight.object } ((h.push (.holding ⟨lock, sights⟩)).push (.ref sight.object)) := by
  obtain ⟨here, locked⟩ := ledger.sights ⟨lock, sights⟩ (Multiset.mem_cons_self ..) sight seen
  have present := here.1
  have live : 0 < s.book.refs sight.object := ledger.live_entry present
  apply ledger.get live
  · intro creation member same
    have alone := (ledger.created_alone member).1
    have entries := entries_pos present (ledger.belongs _ _ _ present)
    change s.entries _ + _ = 0 at alone
    rw [same] at alone
    change 0 < s.entries sight.object at entries
    omega
  · intro holding member other seen' sole same
    rcases Multiset.mem_cons.mp member with rfl | elsewhere
    · exact shared other seen' sole same
    · obtain ⟨holds, locked'⟩ := ledger.sights holding member other seen'
      by_cases index : other.index = sight.index
      · exact ledger.exclusive holding elsewhere (by rw [← locked', index, locked])
      · have two := ledger.two_tables holds here same index
        have one := holds.2 sole
        omega

theorem free_file {file : Nat} (ledger : Ledger s (h.push (.dying (.file file)))) :
    Ledger { s with book := s.book.free (.file file) } h :=
  { ledger with
    balanced := ledger.balanced.free
    resting := ledger.resting_of (fun _ => id) (fun _ _ => id) fun _ => rfl }

/-- A request that has put all its references is freed. -/
theorem free_request {request : Nat} (ledger : Ledger s (h.push (.dying (.request request))))
    (gone : ∀ reference : Reference, reference.request = request → s.referent reference = none) :
    Ledger { s with book := s.book.free (.request request) } h :=
  { ledger with
    balanced := ledger.balanced.free
    resting := by
      refine ⟨ledger.resting.1, fun reference free => ?_⟩
      by_cases same : reference.request = request
      · exact gone reference same
      · refine ledger.resting.2 reference (lt_of_lt_of_eq free ?_)
        exact Function.update_of_ne (fun equal => same (Object.request.inj equal)) .. }

/-- A mapping is released where the thread can sleep, or after a file was closed too early. -/
theorem free_mapping {mapping : Nat} (ledger : Ledger s (h.push (.dying (.mapping mapping)))) {own : Own}
    (calm : own.atomic = false ∨ s.history.earlyCloses ≠ []) : Ledger (s.freeObject own (.mapping mapping)) h :=
  { ledger with
    balanced := ledger.balanced.free
    releases := by
      intro onTime other member
      rcases List.mem_cons.mp member with same | before
      · have sleeps : own.atomic = true := (Prod.mk.inj same).2.symm
        rcases calm with awake | early
        · exact Bool.false_ne_true (awake.symm.trans sleeps)
        · exact early onTime
      · exact ledger.releases onTime other before }

theorem request_inside (ledger : Ledger s h) {request : Nat} (live : 0 < s.book.refs (.request request)) :
    request < s.requestCount := by
  have allocated := ledger.balanced.allocated_of_live live
  rw [ledger.requestNumbers] at allocated
  exact of_decide_eq_true allocated

theorem file_inside (ledger : Ledger s h) {file : Nat} (live : 0 < s.book.refs (.file file)) : file < s.fileCount := by
  have allocated := ledger.balanced.allocated_of_live live
  rw [ledger.fileNumbers] at allocated
  exact of_decide_eq_true allocated

/-- The file that owns a request is allocated. -/
theorem owner_inside (ledger : Ledger s h) {request file : Nat} (owner : (s.requests request).owner = some file) :
    file < s.fileCount := by
  have inside : request < s.requestCount := by
    by_contra outside
    rw [(ledger.blankRequests request (by omega)).1] at owner
    cases owner
  have links := linksTo_pos _ inside (mem_links_owner owner)
  apply ledger.file_inside
  apply ledger.balanced.live_of_owned
  change 0 < s.entries _ + s.linksTo _
  omega

/-- The fields of a request that decide who owns what. -/
structure SameLinks (before after : Request) : Prop where
  owner : after.owner = before.owner
  source : after.source = before.source
  destination : after.destination = before.destination

theorem SameLinks.refl (request : Request) : SameLinks request request := ⟨rfl, rfl, rfl⟩

theorem SameLinks.links {before after : Request} (same : SameLinks before after) : after.links = before.links := by
  rw [Request.links, Request.links, same.owner, same.source, same.destination]

theorem sameLinks_setRequest {request : Nat} {record : Request} (same : SameLinks (s.requests request) record)
    (other : Nat) : SameLinks (s.requests other) ((s.setRequest request record).requests other) := by
  rw [setRequest_apply]
  split
  · next here =>
      rw [here]
      exact same
  · exact .refl _

/-- A new record for a request leaves the standing of the others. -/
theorem standing_setRequest {request other : Nat} {record : Request} (differs : other ≠ request) :
    (s.setRequest request record).standing h other = s.standing h other := by
  have same : (s.setRequest request record).requests other = s.requests other := by
    rw [setRequest_apply, if_neg differs]
  simp only [Shared.standing, Shared.ownerOpen, Shared.fileEntries, same]
  rfl

theorem standing_setRequest_self {request : Nat} {record : Request} (owner : record.owner = (s.requests request).owner) :
    (s.setRequest request record).standing h request = { s.standing h request with
      tracked := record.tracked
      done := record.done
      counted := record.counted
      mapped := record.source.isSome || record.destination.isSome } := by
  simp only [Shared.standing, Shared.ownerOpen, Shared.fileEntries, setRequest_self, owner]
  rfl

theorem standing_assign (request : Nat) (field : RequestField) (other : Nat) :
    (s.setRequest request ((s.requests request).assign field)).standing h other = s.standing h other := by
  by_cases same : other = request
  · subst same
    simp only [Shared.standing, Shared.ownerOpen, Shared.fileEntries, setRequest_self]
    cases field <;> rfl
  · exact standing_setRequest same

theorem fileEntries_eq {request file : Nat} (owner : (s.requests request).owner = some file) :
    s.fileEntries request = (s.tables (.requests file)).count request := by
  rw [Shared.fileEntries, owner]

section Record
variable {request : Nat} {record : Request}

theorem owner_setRequest (same : record.owner = (s.requests request).owner) (other : Nat) :
    ((s.setRequest request record).requests other).owner = (s.requests other).owner := by
  rw [setRequest_apply]
  split
  · next here => rw [here, same]
  · rfl

theorem referent_setRequest_other {reference : Reference} (differs : reference.request ≠ request) :
    (s.setRequest request record).referent reference = s.referent reference := by
  cases reference <;>
    · simp only [Reference.request] at differs
      simp only [Shared.referent, setRequest_apply, if_neg differs]

theorem referent_setRequest (links : SameLinks (s.requests request) record) (reference : Reference) :
    (s.setRequest request record).referent reference = s.referent reference := by
  have same := sameLinks_setRequest links reference.request
  cases reference with
  | source number => exact congrArg (Option.map _) same.source
  | destination number => exact congrArg (Option.map _) same.destination
  | owner number => exact congrArg (Option.map _) same.owner

variable (ledger : Ledger s h)
include ledger

theorem belongs_setRequest (owner : record.owner = (s.requests request).owner) :
    ∀ index key value, (s.tables index).lookup key = some value → (s.setRequest request record).Belongs index value := by
  intro index key value present
  have before := ledger.belongs index key value present
  cases index with
  | device => trivial
  | requests file => exact (owner_setRequest owner value).trans before
  | mappings file => exact before

theorem named_setRequest (same : record.commandId = (s.requests request).commandId) :
    ∀ file key value, (s.tables (.requests file)).lookup key = some value →
      ((s.setRequest request record).requests value).commandId = key := by
  intro file key value present
  have before := ledger.named file key value present
  rw [setRequest_apply]
  split
  · next here => rw [same, ← here, before]
  · exact before

theorem drafts_setRequest (owner : record.owner = (s.requests request).owner)
    (same : record.commandId = (s.requests request).commandId) :
    ∀ draft ∈ h.drafts, ((s.setRequest request record).requests draft.request).owner = draft.owner ∧
      ((s.setRequest request record).requests draft.request).commandId = draft.commandId := by
  intro draft member
  obtain ⟨owned, commandId⟩ := ledger.drafts draft member
  refine ⟨(owner_setRequest owner draft.request).trans owned, ?_⟩
  rw [setRequest_apply]
  split
  · next here => rw [same, ← here, commandId]
  · exact commandId

theorem owing_setRequest (done : (s.requests request).done = true → record.done = true) :
    ∀ debt ∈ h.owed, s.history.earlyReaps ≠ [] ∨ ((s.setRequest request record).requests debt.2).done = true := by
  intro debt member
  refine (ledger.owing debt member).imp_right fun before => ?_
  rw [setRequest_apply]
  split
  · next here => exact done (here ▸ before)
  · exact before

theorem linked_setRequest (links : SameLinks (s.requests request) record) :
    s.history.earlyCloses = [] → ∀ other mapping, .mapping mapping ∈ ((s.setRequest request record).requests other).links →
      0 < (s.tables (.mappings (s.mappings mapping).file)).count mapping := by
  intro onTime other mapping
  rw [(sameLinks_setRequest links other).links]
  exact ledger.linked onTime other mapping

theorem closed_setRequest (links : SameLinks (s.requests request) record) :
    s.history.earlyCloses = [] → ∀ file, (s.files file).opened = false → ∀ other mapping,
      .mapping mapping ∈ ((s.setRequest request record).requests other).links → (s.mappings mapping).file ≠ file := by
  intro onTime file closed other mapping
  rw [(sameLinks_setRequest links other).links]
  exact ledger.closed onTime file closed other mapping

theorem resting_setRequest (links : SameLinks (s.requests request) record) :
    (s.setRequest request record).Resting h.cleared := by
  refine ledger.resting_of (fun _ => id) ?_ (fun _ => rfl)
  intro reference _ none
  exact (referent_setRequest links reference).trans none

theorem completed_setRequest (same : record.counted = (s.requests request).counted) :
    s.history.earlyReaps = [] → ∀ file, (s.files file).closing = false → (s.files file).completed =
      (s.setRequest request record).countedEntries file + (h.owed.map Prod.fst).count file := by
  intro onTime file closing
  have entries : (s.setRequest request record).countedEntries file = s.countedEntries file := by
    apply List.countP_congr
    intro entry _
    rw [setRequest_apply]
    split
    · next here => rw [here, same]
    · rfl
  rw [entries]
  exact ledger.completed onTime file closing

end Record

/-- The fields that the ledger does not look at can change. -/
theorem assign (ledger : Ledger s h) {request : Nat} (inside : request < s.requestCount) {field : RequestField}
    (same : ((s.requests request).assign field).commandId = (s.requests request).commandId) :
    Ledger (s.setRequest request ((s.requests request).assign field)) h := by
  have links : SameLinks (s.requests request) ((s.requests request).assign field) := by
    cases field <;> exact ⟨rfl, rfl, rfl⟩
  have standing := standing_assign (s := s) (h := h) request field
  exact { ledger with
    balanced := ledger.balanced.congr (sameOwners_setRequest links.links links.owner).owners
    belongs := ledger.belongs_setRequest links.owner
    named := ledger.named_setRequest same
    drafts := ledger.drafts_setRequest links.owner same
    requests := fun other => standing other ▸ ledger.requests other
    blankRequests := by
      intro other outside
      change s.requestCount ≤ other at outside
      rw [standing other, setRequest_apply, if_neg (by omega)]
      exact ledger.blankRequests other outside
    completed := ledger.completed_setRequest (by cases field <;> rfl)
    owing := ledger.owing_setRequest (by cases field <;> exact id)
    linked := ledger.linked_setRequest links
    closed := ledger.closed_setRequest links
    resting := ledger.resting_setRequest links }

/-- A draft is in no table, so it can get another command ID. -/
theorem assign_commandId {draft : Draft} (ledger : Ledger s (h.push (.draft draft))) (commandId : U32) :
    Ledger (s.setRequest draft.request ((s.requests draft.request).assign (.commandId commandId)))
      (h.push (.draft { draft with commandId })) := by
  have links : SameLinks (s.requests draft.request) ((s.requests draft.request).assign (.commandId commandId)) :=
    ⟨rfl, rfl, rfl⟩
  have inside : draft.request < s.requestCount := by
    apply ledger.request_inside
    apply ledger.balanced.live_of_held
    rw [Share.held_draft]
    exact Multiset.mem_cons_self ..
  have unlisted : 0 < (s.standing (h.push (.draft draft)) draft.request).unlisted := by
    simp [Shared.standing, Share.push]
  have reaping := (ledger.requests draft.request).reaping
  have standing : ∀ other,
      (s.setRequest draft.request ((s.requests draft.request).assign (.commandId commandId))).standing
        (h.push (.draft { draft with commandId })) other = s.standing (h.push (.draft draft)) other := by
    intro other
    rw [standing_assign]
    simp [Shared.standing, Share.push]
  exact { ledger with
    balanced := by
      have held : (h.push (.draft { draft with commandId })).held = (h.push (.draft draft)).held := by
        rw [Share.held_draft, Share.held_draft]
      rw [held]
      exact ledger.balanced.congr (sameOwners_setRequest links.links links.owner).owners
    belongs := ledger.belongs_setRequest links.owner
    named := by
      intro file key value present
      have before := ledger.named file key value present
      rw [setRequest_apply, if_neg]
      · exact before
      · rintro rfl
        have owner : (s.requests draft.request).owner = some file := ledger.belongs (.requests file) key _ present
        have entries : 0 < s.fileEntries draft.request := by
          rw [fileEntries_eq owner]
          exact Table.count_pos.mpr ⟨key, present⟩
        change _ + _ + s.fileEntries draft.request + _ ≤ 1 at reaping
        omega
    drafts := by
      intro other member
      rcases Multiset.mem_cons.mp member with rfl | before
      · rw [setRequest_self]
        exact ⟨(ledger.drafts draft (Multiset.mem_cons_self ..)).1, rfl⟩
      · have differs : other.request ≠ draft.request := by
          intro same
          have twice : 2 ≤ (s.standing (h.push (.draft draft)) draft.request).unlisted := by
            have present : 0 < (h.drafts.map Draft.request).count draft.request :=
              Multiset.count_pos.mpr (same ▸ Multiset.mem_map_of_mem _ before)
            simp only [Shared.standing, Share.push, Multiset.map_cons, Multiset.count_cons_self]
            omega
          omega
        rw [setRequest_apply, if_neg differs]
        exact ledger.drafts other (Multiset.mem_cons_of_mem before)
    requests := fun other => standing other ▸ ledger.requests other
    blankRequests := by
      intro other outside
      change s.requestCount ≤ other at outside
      rw [standing other, setRequest_apply, if_neg (by omega)]
      exact ledger.blankRequests other outside
    completed := ledger.completed_setRequest rfl
    owing := ledger.owing_setRequest id
    linked := ledger.linked_setRequest links
    closed := ledger.closed_setRequest links
    resting := ledger.resting_setRequest links }

/-- A request that left the device table is completed. -/
theorem completeAll {request : Nat} (ledger : Ledger s (h.push (.retiring request))) :
    Ledger (s.setRequest request { s.requests request with done := true }) (h.push (.announcing request)) := by
  have held : (h.push (.retiring request)).held = (h.push (.announcing request)).held := by
    rw [Share.held_retiring, Share.held_announcing]
  have inside : request < s.requestCount := by
    apply ledger.request_inside
    apply ledger.balanced.live_of_held
    rw [Share.held_retiring]
    exact Multiset.mem_cons_self ..
  have links : SameLinks (s.requests request) { s.requests request with done := true } := ⟨rfl, rfl, rfl⟩
  have elsewhere : ∀ other, other ≠ request →
      (s.setRequest request { s.requests request with done := true }).standing (h.push (.announcing request)) other =
        s.standing (h.push (.retiring request)) other := by
    intro other differs
    rw [standing_setRequest differs]
    simp [Shared.standing, Share.push, Multiset.count_cons_of_ne differs]
  exact { ledger with
    balanced := by
      rw [← held]
      exact ledger.balanced.congr (sameOwners_setRequest links.links links.owner).owners
    belongs := ledger.belongs_setRequest links.owner
    named := ledger.named_setRequest rfl
    drafts := ledger.drafts_setRequest links.owner rfl
    requests := by
      intro other
      by_cases same : other = request
      · subst same
        have before := ledger.requests other
        have after := Standing.Sound.complete (s.standing h other) (by
          simpa [Shared.standing, Share.push] using before)
        simpa [Shared.standing, Share.push, Shared.ownerOpen, Shared.fileEntries, Shared.setRequest] using after
      · rw [elsewhere other same]
        exact ledger.requests other
    blankRequests := by
      intro other outside
      change s.requestCount ≤ other at outside
      have differs : other ≠ request := by omega
      rw [elsewhere other differs, setRequest_apply, if_neg differs]
      exact ledger.blankRequests other outside
    completed := ledger.completed_setRequest rfl
    owing := ledger.owing_setRequest fun _ => rfl
    linked := ledger.linked_setRequest links
    closed := ledger.closed_setRequest links
    resting := ledger.resting_setRequest links }

/-- Nobody has to announce a request without an open owner. -/
theorem pass {request : Nat} (ledger : Ledger s (h.push (.announcing request))) (closed : s.ownerOpen request = false) :
    Ledger s (h.push (.ref (.request request))) := by
  have held : (h.push (.announcing request)).held = (h.push (.ref (.request request))).held := by
    rw [Share.held_announcing, Share.held_ref]
  have elsewhere : ∀ other, other ≠ request →
      s.standing (h.push (.ref (.request request))) other = s.standing (h.push (.announcing request)) other := by
    intro other differs
    simp [Shared.standing, Share.push, Multiset.count_cons_of_ne differs]
  exact { ledger with
    balanced := held ▸ ledger.balanced
    requests := by
      intro other
      by_cases same : other = request
      · subst same
        have before := ledger.requests other
        exact Standing.Sound.pass (s.standing h other) (by simpa [Shared.standing, Share.push] using before) closed
      · rw [elsewhere other same]
        exact ledger.requests other
    blankRequests := by
      intro other outside
      obtain ⟨record, standing⟩ := ledger.blankRequests other outside
      have differs : other ≠ request := by
        rintro rfl
        have none := congrArg Standing.announcing standing
        simp [Shared.standing, Share.push] at none
      rw [elsewhere other differs]
      exact ⟨record, standing⟩ }

/-- The table of a file has no requests of another one. -/
theorem count_other (ledger : Ledger s h) {request file other : Nat} (owner : (s.requests request).owner = some file)
    (differs : other ≠ file) : (s.tables (.requests other)).count request = 0 := by
  by_contra present
  obtain ⟨key, found⟩ := Table.count_pos.mp (Nat.pos_of_ne_zero present)
  have belongs : (s.requests request).owner = some other := ledger.belongs (.requests other) key request found
  exact differs (Option.some.inj (belongs.symm.trans owner))

/-- A request that becomes counted is counted as often as it has entries. -/
theorem countedEntries_count {request : Nat} (uncounted : (s.requests request).counted = false) (file : Nat) :
    (s.setRequest request { s.requests request with counted := true }).countedEntries file =
      s.countedEntries file + (s.tables (.requests file)).count request := by
  have entry : ∀ value, ((s.setRequest request { s.requests request with counted := true }).requests value).counted =
      ((s.requests value).counted || decide (value = request)) := by
    intro value
    rw [setRequest_apply]
    split
    · next same => simp [same]
    · next differs => simp [differs]
  unfold Shared.countedEntries Table.count
  change List.countP _ (s.tables (.requests file)).entries = _
  induction (s.tables (.requests file)).entries with
  | nil => rfl
  | cons first rest ih =>
      rw [List.countP_cons, List.countP_cons, List.map_cons, List.count_cons, ih, entry]
      by_cases same : first.2 = request
      · simp [same, uncounted]
        omega
      · simp [same]
        omega

section File
variable {file : Nat} {record : File}

theorem setFile_apply (other : Nat) :
    (s.setFile file record).files other = if other = file then record else s.files other :=
  Function.update_apply ..

/-- The counter of a file decides nothing else about it. -/
structure SameFile (before after : File) : Prop where
  closing : after.closing = before.closing
  opened : after.opened = before.opened
  users : after.users = before.users

theorem sameFile_setFile (same : SameFile (s.files file) record) (other : Nat) :
    SameFile (s.files other) ((s.setFile file record).files other) := by
  rw [setFile_apply]
  split
  · next here =>
      rw [here]
      exact same
  · exact ⟨rfl, rfl, rfl⟩

theorem standing_setFile (same : ∀ other, ((s.setFile file record).files other).closing = (s.files other).closing)
    (request : Nat) : (s.setFile file record).standing h request = s.standing h request := by
  have owner : (s.setFile file record).ownerOpen request = s.ownerOpen request := by
    unfold Shared.ownerOpen
    change Option.any _ (s.requests request).owner = _
    congr 1
    funext other
    rw [same]
  simp only [Shared.standing, owner]
  rfl

theorem created_setFile (ledger : Ledger s h)
    (closing : ∀ other, ((s.setFile file record).files other).closing = (s.files other).closing) :
    ∀ creation ∈ h.created, s.book.refs creation.object = 1 ∧ creation.Kept (s.setFile file record) := by
  intro creation member
  obtain ⟨one, kept⟩ := ledger.created creation member
  exact ⟨one, kept_of_closing kept (s.setFile file record) rfl closing⟩

theorem blankFiles_setFile (ledger : Ledger s h) (inside : file < s.fileCount) :
    ∀ other, s.fileCount ≤ other → (s.setFile file record).files other = {} := by
  intro other outside
  rw [setFile_apply, if_neg (by omega)]
  exact ledger.blankFiles other outside

section
variable (ledger : Ledger s h) {files : Nat → File} (kept : ∀ other, SameFile (s.files other) (files other))
include ledger kept

theorem usersOpened_of_same (other : Nat) (used : 0 < (files other).users) : (files other).opened = true := by
  rw [(kept other).users] at used
  rw [(kept other).opened]
  exact ledger.usersOpened other used

theorem closing_of_same (other : Nat) (closing : (files other).closing = true) : (files other).opened = false := by
  rw [(kept other).closing] at closing
  rw [(kept other).opened]
  exact ledger.closing other closing

end
end File

/-- A request that waits to be counted is done, and the table of its open owner has it once. -/
theorem waiting {request : Nat} (ledger : Ledger s (h.push (.announcing request))) :
    (s.requests request).done = true ∧ (s.requests request).counted = false ∧
      (s.history.earlyReaps = [] → ∀ file, (s.requests request).owner = some file → (s.files file).closing = false →
        (s.tables (.requests file)).count request = 1) := by
  have sound := ledger.requests request
  have flags : (s.requests request).done = true ∧ (s.requests request).counted = false := by
    have bound := sound.announcing
    by_contra other
    have none : (h.push (.announcing request)).announcing.count request = 0 := by
      simpa [Shared.standing, other] using bound
    simp [Share.push] at none
  refine ⟨flags.1, flags.2, fun onTime file owner open_ => ?_⟩
  have tracked : (s.requests request).tracked = true := by
    by_contra untracked
    have nothing := (sound.untracked ((Bool.not_eq_true _).mp untracked)).2.2.2
    exact Bool.false_ne_true (nothing.symm.trans flags.1)
  have ownerOpen : s.ownerOpen request = true := by simp [Shared.ownerOpen, owner, open_]
  have present : 0 < s.fileEntries request := sound.kept onTime tracked flags.2 ownerOpen
  have once : s.history.waits.count (request, none) + _ + s.fileEntries request + _ ≤ 1 := sound.reaping
  rw [← fileEntries_eq owner]
  omega

section Count
variable {request : Nat}

theorem standing_announced {other : Nat} (differs : other ≠ request) :
    s.standing h other = s.standing (h.push (.announcing request)) other := by
  simp [Shared.standing, Share.push, Multiset.count_cons_of_ne differs]

variable (ledger : Ledger s (h.push (.announcing request)))
include ledger

/-- A request stays sound when its announcement becomes the mark that it was counted. -/
theorem sound_counted : ({ s.standing h request with counted := true } : Standing).Sound (s.history.earlyReaps = []) := by
  have before : ({ s.standing h request with announcing := (s.standing h request).announcing + 1 } : Standing).Sound
      (s.history.earlyReaps = []) := by
    simpa [Shared.standing, Share.push] using ledger.requests request
  exact Standing.Sound.count _ before

/-- The counter of the owner goes up with the counted requests in its table. -/
theorem completed_counted {file : Nat} (owner : (s.requests request).owner = some file)
    (onTime : s.history.earlyReaps = []) (other : Nat) (open_ : (s.files other).closing = false) :
    ((s.setFile file { s.files file with completed := (s.files file).completed + 1 }).files other).completed =
      (s.setRequest request { s.requests request with counted := true }).countedEntries other +
        (h.owed.map Prod.fst).count other := by
  obtain ⟨-, uncounted, once⟩ := ledger.waiting
  have before : (s.files other).completed = s.countedEntries other + (h.owed.map Prod.fst).count other :=
    ledger.completed onTime other open_
  rw [countedEntries_count uncounted, setFile_apply]
  split
  · next here =>
      subst here
      rw [once onTime other owner open_]
      change (s.files other).completed + 1 = _
      omega
  · next differs =>
      rw [ledger.count_other owner differs]
      exact before

/-- The owner of a completed request counts it. -/
theorem count_completed : Ledger (s.countCompleted request) (h.push (.ref (.request request))) := by
  unfold Shared.countCompleted
  split
  · next none => exact ledger.pass (by rw [Shared.ownerOpen, none]; rfl)
  · next file owner =>
      have links : SameLinks (s.requests request) { s.requests request with counted := true } := ⟨rfl, rfl, rfl⟩
      have kept : ∀ other, SameFile (s.files other)
          ((s.setFile file { s.files file with completed := (s.files file).completed + 1 }).files other) :=
        sameFile_setFile ⟨rfl, rfl, rfl⟩
      have standing : ∀ other, (s.setFile file { s.files file with completed := (s.files file).completed + 1 }).standing
          (h.push (.ref (.request request))) other = s.standing h other :=
        standing_setFile fun other => (kept other).closing
      have files : SameOwners s (s.setFile file { s.files file with completed := (s.files file).completed + 1 }) :=
        ⟨rfl, fun _ => rfl, fun _ => rfl, rfl, fun other => (kept other).opened, rfl⟩
      exact { ledger with
        balanced := by
          have held : (h.push (.ref (.request request))).held = (h.push (.announcing request)).held := by
            rw [Share.held_announcing, Share.held_ref]
          rw [held]
          exact (ledger.balanced.congr files.owners).congr
            (sameOwners_setRequest (s := s.setFile file _) links.links links.owner).owners
        created := ledger.created_setFile fun other => (kept other).closing
        belongs := ledger.belongs_setRequest links.owner
        named := ledger.named_setRequest rfl
        drafts := ledger.drafts_setRequest links.owner rfl
        requests := by
          intro other
          by_cases same : other = request
          · subst same
            rw [standing_setRequest_self (s := s.setFile file _) links.owner, standing]
            exact ledger.sound_counted
          · rw [standing_setRequest same, standing, standing_announced same]
            exact ledger.requests other
        blankRequests := by
          intro other outside
          obtain ⟨blank, nothing⟩ := ledger.blankRequests other outside
          have differs : other ≠ request := by
            rintro rfl
            rw [blank] at owner
            cases owner
          rw [standing_setRequest differs, standing, standing_announced differs, setRequest_apply, if_neg differs]
          exact ⟨blank, nothing⟩
        blankFiles := ledger.blankFiles_setFile (ledger.owner_inside owner)
        users := fun other => (kept other).users.trans (ledger.users other)
        usersOpened := ledger.usersOpened_of_same kept
        closes := fun other member => (kept other).opened.trans (ledger.closes other member)
        closing := ledger.closing_of_same kept
        shut := fun other member => (kept other).closing.trans (ledger.shut other member)
        completed := fun onTime other closing =>
          ledger.completed_counted owner onTime other ((kept other).closing.symm.trans closing)
        owing := ledger.owing_setRequest id
        linked := ledger.linked_setRequest links
        closed := fun onTime other closed =>
          ledger.closed_setRequest links onTime other ((kept other).opened.symm.trans closed)
        resting := ledger.resting_setRequest links }

end Count
end Ledger
end VamsSoc.Driver
