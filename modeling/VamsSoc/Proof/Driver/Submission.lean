/-
This file shows what `vams_submit` leaves behind when it fails, and what it has done when it rings the doorbell.
-/

import VamsSoc.Library.Solo
import VamsSoc.Proof.Driver.Publishing

namespace VamsSoc.Driver
open Library Abi

variable {δ : Type} {hw : Hardware δ} {s t : Shared δ} {own : Own}

/-- What a drain changes only by an entry that it takes out. -/
structure Still (s t : Shared δ) : Prop where
  tables : t.tables = s.tables
  refs : ∀ request, t.book.refs (.request request) = s.book.refs (.request request)
  tail : t.fields.sqTail = s.fields.sqTail

theorem Still.refl (s : Shared δ) : Still s s := ⟨rfl, fun _ => rfl, rfl⟩

theorem Still.trans {u : Shared δ} (first : Still s t) (second : Still t u) : Still s u :=
  ⟨second.tables.trans first.tables, fun request => (second.refs request).trans (first.refs request),
    second.tail.trans first.tail⟩

theorem still_touch (s : Shared δ) (op : Op) : Still s (s.touch op) := by
  unfold Shared.touch
  split
  · exact .refl s
  · split
    · exact .refl s
    · exact ⟨rfl, fun _ => rfl, rfl⟩

theorem still_setResource (s : Shared δ) (resource : Resource) (acquired : Bool) :
    Still s (Shared.setResource hw s resource acquired) := by
  cases resource <;> exact ⟨rfl, fun _ => rfl, rfl⟩

theorem still_freeObject (s : Shared δ) (own : Own) (object : Object) : Still s (s.freeObject own object) := by
  cases object <;> exact ⟨rfl, fun _ => rfl, rfl⟩

theorem still_countCompleted (s : Shared δ) (request : Nat) : Still s (s.countCompleted request) := by
  unfold Shared.countCompleted
  split
  · exact .refl s
  · exact ⟨rfl, fun _ => rfl, rfl⟩

/-- A request refers to mappings and a file only. -/
theorem referent_ne_request (s : Shared δ) (reference : Reference) (request : Nat) :
    s.referent reference ≠ some (.request request) := by
  cases reference <;> simp [Shared.referent]

theorem still_dropReference (s : Shared δ) (reference : Reference) {object : Object}
    (found : s.referent reference = some object) :
    Still s { s.dropReference reference with book := s.book.put object } := by
  have other (request : Nat) : Object.request request ≠ object := by
    rintro rfl
    exact referent_ne_request s reference request found
  have refs (request : Nat) : (s.book.put object).refs (.request request) = s.book.refs (.request request) := by
    rw [RefBook.put_refs, Function.update_of_ne (other request)]
  cases reference <;> exact ⟨rfl, refs, rfl⟩

theorem still_of_some {ρ : Type} {reply reply' : ρ} {u : Shared δ} {own' own'' : Own}
    (executed : some (reply, u, own') = some (reply', t, own'')) (still : Still s u) : Still s t := by
  obtain rfl : u = t := congrArg (·.2.1) (Option.some.inj executed)
  exact still

theorem still_of_plain {choice : Choice} {op : Op} {reply : Reply op} {own' : Own} (plain : op.plain = true)
    (executed : exec hw choice s own op = some (reply, t, own')) : Still s t := by
  have touched := still_touch s op
  cases op with
  | assign assignment =>
      refine still_of_some executed ?_
      cases assignment <;> first | exact ⟨rfl, fun _ => rfl, rfl⟩ | cases plain
  | lock lock =>
      rw [exec] at executed
      split at executed
      · cases executed
      · exact still_of_some executed ⟨rfl, fun _ => rfl, rfl⟩
  | putReference reference =>
      rw [exec] at executed
      dsimp only at executed
      split at executed
      next => exact still_of_some executed touched
      next object found => exact still_of_some executed (touched.trans (still_dropReference _ reference found))
  | free object => exact still_of_some executed (touched.trans (still_freeObject _ own object))
  | incCompleted request => exact still_of_some executed (touched.trans (still_countCompleted _ request))
  | setRequest request field => exact still_of_some executed { touched with }
  | completeAll request => exact still_of_some executed { touched with }
  | readRequest request | ownerOpen request => exact still_of_some executed touched
  | release resource =>
      rw [exec] at executed
      split at executed
      · exact still_of_some executed (still_setResource s resource false)
      · cases executed
  | readl | writel | loadCompletion | fields | unlock | decPending | putDevice | freeDevice =>
      exact still_of_some executed ⟨rfl, fun _ => rfl, rfl⟩
  | _ => cases plain

section Drain

/-- The tables of the files and the tail stay, and the caller has a reference beside those of the device table. -/
structure Drains (request extra : Nat) (s t : Shared δ) : Prop where
  files : ∀ index, index ≠ .device → t.tables index = s.tables index
  tail : t.fields.sqTail = s.fields.sqTail
  spare : (t.tables .device).count request + extra < t.book.refs (.request request)

variable {request extra : Nat} {u : Shared δ}

theorem Drains.still (drains : Drains request extra s t) (still : Still t u) : Drains request extra s u where
  files index other := by rw [still.tables, drains.files index other]
  tail := still.tail.trans drains.tail
  spare := by rw [still.tables, still.refs request]; exact drains.spare

/-- A program of plain operations goes on with what it found. -/
theorem Drains.plain {α : Type} {program : Code α} (drains : Drains request extra s t)
    (ensures : Performs (fun _ _ => True) (fun op => op.plain = true) program) :
    program.Every (exec hw) (fun outcome => Drains request extra s outcome.shared) t own := by
  refine (ensures.every (Drains request extra s) ?_ drains).mono fun outcome shown => shown.2.1
  intro choice shared own op reply shared' own' drains plain executed
  exact ⟨drains.still (still_of_plain plain executed), trivial⟩

theorem Drains.call {α : Type} {op : Op} {rest : Reply op → Code α} {later : Nat} (drains : Drains request extra s t)
    (plain : op.plain = true)
    (continues : ∀ {u : Shared δ} {own' : Own} (reply : Reply op), Drains request extra s u →
      (rest reply).Every (exec hw) (fun outcome => Drains request later s outcome.shared) u own') :
    (call op >>= rest).Every (exec hw) (fun outcome => Drains request later s outcome.shared) t own :=
  .call fun _ reply _ _ executed => continues reply (drains.still (still_of_plain plain executed))

/-- The entry's reference goes with the entry. -/
theorem Drains.requestPut {entry : Nat} (drains : Drains request (if entry = request then 1 else 0) s t) :
    (requestPut entry).Every (exec hw) (fun outcome => Drains request 0 s outcome.shared) t own := by
  have touched := drains.still (still_touch t (.put (.request entry)))
  refine .op (fun _ => rfl) ?_
  have spare : ((t.touch (.put (.request entry))).tables .device).count request + 0 <
      ((t.touch (.put (.request entry))).book.put (.request entry)).refs (.request request) := by
    have spare := touched.spare
    by_cases same : entry = request
    · subst same
      rw [if_pos rfl] at spare
      rw [RefBook.put_refs, Function.update_self]
      omega
    · rw [if_neg same] at spare
      have other : Object.request request ≠ .request entry := fun equal => same (Object.request.inj equal).symm
      rw [RefBook.put_refs, Function.update_of_ne other]
      exact spare
  have put : Drains request 0 s { t.touch (.put (.request entry)) with
      book := (t.touch (.put (.request entry))).book.put (.request entry) } := ⟨touched.files, touched.tail, spare⟩
  split
  · refine put.plain ?_
    refine .op rfl fun source _ => (releaseObject_plain (fun _ => id) source).seq fun _ => ?_
    refine .op rfl fun destination _ => (releaseObject_plain (fun _ => id) destination).seq fun _ => ?_
    refine .op rfl fun owner _ => (releaseObject_plain (fun _ => id) owner).seq fun _ => ?_
    exact ⟨rfl, fun _ _ => trivial⟩
  · exact put

theorem tables_eraseEntry (s : Shared δ) (index : Index) (key : U32) (value : Nat) :
    (s.eraseEntry index key value).tables = Function.update s.tables index ((s.tables index).erase key) := by
  unfold Shared.eraseEntry
  split <;> rfl

theorem Drains.erase (drains : Drains request 0 s t) {key : U32} {entry : Nat}
    (found : (t.tables .device).lookup key = some entry) :
    Drains request (if entry = request then 1 else 0) s (t.eraseEntry .device key entry) := by
  have same : (t.eraseEntry .device key entry).book = t.book ∧ (t.eraseEntry .device key entry).fields = t.fields := by
    unfold Shared.eraseEntry
    split <;> exact ⟨rfl, rfl⟩
  constructor
  · intro index other
    rw [tables_eraseEntry, Function.update_of_ne other]
    exact drains.files index other
  · rw [same.2]
    exact drains.tail
  · have counted := Table.count_erase found request
    have spare := drains.spare
    rw [tables_eraseEntry, Function.update_self, same.1]
    simp only [eq_comm (a := request)] at counted
    omega

/-- The lock of the table is a plain operation. -/
theorem Drains.xaErase (drains : Drains request 0 s t) (key : U32) :
    (xaErase .device key).Every (exec hw) (fun outcome =>
      Drains request (match outcome.result with
        | some entry => if entry = request then 1 else 0
        | none => 0) s outcome.shared) t own := by
  refine .call fun choice _ locked own' executed => ?_
  have drains := drains.still (still_of_plain rfl executed)
  refine .call fun choice reply erased own' executed => .call fun choice _ unlocked own' released => ?_
  have still := still_of_plain rfl released
  rw [exec] at executed
  split at executed
  next absent =>
    obtain ⟨rfl, rfl, -⟩ : none = reply ∧ locked = erased ∧ _ = _ := by simpa using executed
    exact drains.still still
  next entry found =>
    obtain ⟨rfl, rfl, -⟩ : some entry = reply ∧ locked.eraseEntry .device key entry = erased ∧ _ = _ := by
      simpa using executed
    exact (drains.erase found).still still

theorem Drains.retireRequest {entry : Nat} (drains : Drains request (if entry = request then 1 else 0) s t) :
    (retireRequest entry).Every (exec hw) (fun outcome => Drains request 0 s outcome.shared) t own := by
  refine .bind (drains.call rfl fun _ drains => ?_)
  refine drains.call rfl fun _ drains => drains.call rfl fun opened drains => ?_
  dsimp only
  split
  · exact drains.call rfl fun _ drains => drains.call rfl fun _ drains => drains.requestPut
  · exact drains.call rfl fun _ drains => drains.requestPut

theorem Drains.finishRequest (drains : Drains request 0 s t) (completion : Completion) :
    (finishRequest completion).Every (exec hw) (fun outcome => Drains request 0 s outcome.shared) t own := by
  refine .bind ((drains.xaErase _).mono fun first drains => ?_)
  split at drains
  next entry found =>
    rw [found]
    exact drains.call rfl fun _ drains => drains.call rfl fun _ drains => .bind drains.retireRequest
  next found =>
    rw [found]
    exact drains

theorem Drains.drainLoop (drains : Drains request 0 s t) (fuel : Nat) (tail : U32) :
    (drainLoop fuel tail).Every (exec hw) (fun outcome => Drains request 0 s outcome.shared) t own := by
  induction fuel generalizing t own with
  | zero => exact drains
  | succ fuel ih =>
      refine drains.call rfl fun fields drains => ?_
      dsimp only
      split
      · exact drains
      refine drains.call rfl fun completion drains => drains.call rfl fun _ drains => drains.call rfl fun fields drains => ?_
      split
      · refine drains.call rfl fun _ drains => drains.call rfl fun _ drains => drains.call rfl fun _ drains => ?_
        exact .bind (ih drains)
      · exact .bind ((drains.finishRequest completion).mono fun _ drains => .bind (ih drains))

theorem Drains.drainCq (drains : Drains request 0 s t) :
    drainCq.Every (exec hw) (fun outcome => Drains request 0 s outcome.shared) t own := by
  refine drains.call rfl fun fields drains => ?_
  dsimp only
  split
  · exact drains
  refine drains.call rfl fun _ drains => drains.call rfl fun tail drains => ?_
  split
  · exact drains.call rfl fun _ drains => drains
  refine .bind ((drains.drainLoop _ tail).mono fun drained drains => ?_)
  split
  · refine drains.call rfl fun _ drains => drains.call rfl fun _ drains => ?_
    exact drains.call rfl fun _ drains => drains
  · exact drains.call rfl fun _ drains => drains

end Drain

section Track
variable {request : Nat} {m u : Shared δ}

/-- The tables, the references, the pending requests, and the fields of the device are the same, and the hardware has
done nothing. -/
structure Unchanged (s t : Shared δ) : Prop where
  tables : t.tables = s.tables
  book : t.book = s.book
  pending : t.pendingRequests = s.pendingRequests
  fields : t.fields = s.fields
  hardware : t.hardware = s.hardware
  owner : ∀ request, (t.requests request).owner = (s.requests request).owner

/-- Not even a request has a new command ID. -/
structure Kept (s t : Shared δ) : Prop extends Unchanged s t where
  commandId : ∀ request, (t.requests request).commandId = (s.requests request).commandId

theorem Unchanged.trans (first : Unchanged s t) (second : Unchanged t u) : Unchanged s u :=
  ⟨second.tables.trans first.tables, second.book.trans first.book, second.pending.trans first.pending,
    second.fields.trans first.fields, second.hardware.trans first.hardware,
    fun request => (second.owner request).trans (first.owner request)⟩

theorem Kept.refl (s : Shared δ) : Kept s s := ⟨⟨rfl, rfl, rfl, rfl, rfl, fun _ => rfl⟩, fun _ => rfl⟩

theorem Kept.trans (first : Kept s t) (second : Kept t u) : Kept s u :=
  ⟨first.toUnchanged.trans second.toUnchanged,
    fun request => (second.commandId request).trans (first.commandId request)⟩

theorem kept_touch (s : Shared δ) (op : Op) : Kept s (s.touch op) := by
  unfold Shared.touch
  split
  · exact .refl s
  · split
    · exact .refl s
    · exact { Kept.refl s with }

theorem kept_setLocked (s : Shared δ) (lock : Lock) (locked : Bool) : Kept s (s.setLocked lock locked) :=
  { Kept.refl s with }

theorem unchanged_setCommandId (s : Shared δ) (request : Nat) (commandId : U32) :
    Unchanged s (s.setRequest request { s.requests request with commandId }) := by
  refine { Kept.refl s with owner := fun other => ?_ }
  by_cases same : other = request
  · subst same
    simp [Shared.setRequest]
  · simp [Shared.setRequest, Function.update_of_ne same]

/-- The tables that list a request of this owner. -/
def listings (owner : Option Nat) : List Index := .device :: (owner.map Index.requests).toList

/-- The file of the request lists it. -/
def Shared.listed (s : Shared δ) (owner : Option Nat) (key : U32) (request : Nat) : Shared δ :=
  match owner with
  | some file => s.insertEntry (.requests file) key request
  | none => s

/-- An insertion fails without a trace, or takes a key without an entry. -/
theorem insert_outcome {choice : Choice} {index : Index} {key : U32} {reply : Option Errno} {own' : Own}
    (executed : exec hw choice s own (.insert index key request) = some (reply, t, own')) :
    match reply with
    | some _ => t = s
    | none => (s.tables index).lookup key = none ∧ t = s.insertEntry index key request := by
  rw [exec] at executed
  split at executed
  · obtain ⟨rfl, rfl, -⟩ : some Errno.ebusy = reply ∧ s = t ∧ _ = _ := by simpa using executed
    rfl
  next absent =>
    split at executed
    · obtain ⟨rfl, rfl, -⟩ : some Errno.enomem = reply ∧ s = t ∧ _ = _ := by simpa using executed
      rfl
    · obtain ⟨rfl, rfl, -⟩ : none = reply ∧ s.insertEntry index key request = t ∧ _ = _ := by simpa using executed
      exact ⟨not_not.mp absent, rfl⟩

theorem listRequest_every (owner : Option Nat) (key : U32) (request : Nat) :
    (listRequest owner key request).Every (exec hw) (fun outcome =>
      match outcome.result with
      | some _ => outcome.shared = s
      | none => (∀ file, owner = some file → (s.tables (.requests file)).lookup key = none) ∧
          outcome.shared = s.listed owner key request) s own := by
  cases owner with
  | none => exact ⟨nofun, rfl⟩
  | some file =>
      intro choice reply shared own' executed
      have outcome := insert_outcome executed
      cases reply with
      | some error => exact outcome
      | none =>
          refine ⟨?_, outcome.2⟩
          rintro _ ⟨⟩
          exact outcome.1

theorem kept_insertEntry_setLocked (s : Shared δ) (key : U32) (request : Nat) :
    Kept (s.insertEntry .device key request)
      (((s.setLocked .xa true).insertEntry .device key request).setLocked .xa false) := by
  rw [Shared.insertEntry, Shared.insertEntry, if_pos rfl, if_pos rfl]
  exact { Kept.refl _ with }

theorem xaInsert_device_every (key : U32) (request : Nat) :
    (xaInsert .device key request).Every (exec hw) (fun outcome =>
      match outcome.result with
      | some _ => Kept s outcome.shared
      | none => (s.tables .device).lookup key = none ∧ Kept (s.insertEntry .device key request) outcome.shared) s own := by
  refine .call fun choice _ locked own' executed => ?_
  obtain rfl : s.setLocked .xa true = locked := by
    rw [exec] at executed
    split at executed
    · cases executed
    · simpa using congrArg (Option.map (·.2.1)) executed
  refine .call fun choice reply inserted own'' executed => ?_
  have outcome := insert_outcome executed
  cases reply with
  | some error =>
      rw [outcome]
      exact .op (fun _ => rfl) { Kept.refl s with }
  | none =>
      rw [outcome.2]
      exact .op (fun _ => rfl) ⟨outcome.1, kept_insertEntry_setLocked s key request⟩

/-- The put of a reference beside others frees nothing. -/
theorem requestPut_every (several : 1 < s.book.refs (.request request)) :
    (requestPut request).Every (exec hw) (fun outcome =>
      Kept { s with book := s.book.put (.request request) } outcome.shared) s own := by
  have kept := kept_touch s (.put (.request request))
  refine .op (fun _ => rfl) ?_
  have beside : decide ((s.touch (.put (.request request))).book.refs (.request request) = 1) = false := by
    rw [kept.book, decide_eq_false_iff_not]
    omega
  rw [beside]
  exact { kept with book := congrArg (·.put (.request request)) kept.book }

/-- Erasing the new entry gives back the table. -/
theorem unlistRequest_every {owner : Option Nat} {key : U32}
    (absent : ∀ file, owner = some file → (s.tables (.requests file)).lookup key = none)
    (same : Unchanged (s.listed owner key request) t) :
    (unlistRequest owner key).Every (exec hw) (fun outcome => Unchanged s outcome.shared) t own := by
  cases owner with
  | none => exact same
  | some file =>
      have free := absent file rfl
      have tables : t.tables =
          Function.update s.tables (.requests file) ((s.tables (.requests file)).insert key request) := same.tables
      have present : (t.tables (.requests file)).lookup key = some request := by
        rw [tables, Function.update_self, Table.lookup_insert free]
      refine .call fun choice reply erased own' executed => ?_
      obtain rfl : t.eraseEntry (.requests file) key request = erased := by
        rw [exec, present] at executed
        simpa using congrArg (Option.map (·.2.1)) executed
      have erased : Unchanged t { t.eraseEntry (.requests file) key request with tables := t.tables } := by
        unfold Shared.eraseEntry
        split <;> exact { Kept.refl t with }
      refine { same.trans erased with tables := ?_ }
      change (t.eraseEntry (.requests file) key request).tables = s.tables
      rw [tables_eraseEntry, tables, Function.update_self, Function.update_idem, Table.erase_insert free,
        Function.update_eq_self]

/-- The request has a new command ID that no table had, and its tables list the request under it. -/
structure Entered (request : Nat) (s t : Shared δ) : Prop where
  nonzero : (t.requests request).commandId ≠ 0
  unused : ∀ index ∈ listings (s.requests request).owner, (s.tables index).lookup (t.requests request).commandId = none
  entered : ∀ index ∈ listings (s.requests request).owner,
    t.tables index = (s.tables index).insert (t.requests request).commandId request
  others : ∀ index ∉ listings (s.requests request).owner, t.tables index = s.tables index

/-- The request gets its command ID, and the driver reads the owner. -/
theorem setCommandId_every {α : Type} {rest : Request → Code α} (post : α → Shared δ → Prop) (key : U32)
    (same : Unchanged m s)
    (continues : ∀ (t : Shared δ) (own' : Own) (record : Request), Unchanged m t →
      (t.requests request).commandId = key → record.owner = (m.requests request).owner →
        (rest record).Every (exec hw) (fun outcome => post outcome.result outcome.shared) t own') :
    Program.Every (exec hw) (fun outcome => post outcome.result outcome.shared) (do
      call (.setRequest request (.commandId key))
      let record ← call (.readRequest request)
      rest record) s own := by
  have touched := same.trans (kept_touch s (.setRequest request (.commandId key))).toUnchanged
  have named := touched.trans (unchanged_setCommandId _ request key)
  refine .op (fun _ => rfl) (.op (fun _ => rfl) ?_)
  have kept := kept_touch ((s.touch (.setRequest request (.commandId key))).setRequest request
    (((s.touch (.setRequest request (.commandId key))).requests request).assign (.commandId key))) (.readRequest request)
  refine continues _ _ _ (named.trans kept.toUnchanged) ?_ (named.owner request)
  rw [kept.commandId]
  simp [Shared.setRequest, Request.assign]

theorem mem_listings {owner : Option Nat} {index : Index} :
    index ∈ listings owner ↔ index = .device ∨ ∃ file, owner = some file ∧ index = .requests file := by
  cases owner <;> simp [listings]

theorem tables_listed (s : Shared δ) (owner : Option Nat) (key : U32) (request : Nat) (index : Index) :
    (s.listed owner key request).tables index =
      if ∃ file, owner = some file ∧ index = .requests file then (s.tables index).insert key request
      else s.tables index := by
  cases owner with
  | none => simp [Shared.listed]
  | some file =>
      change Function.update s.tables (.requests file) ((s.tables (.requests file)).insert key request) index = _
      by_cases same : index = .requests file
      · simp [same]
      · simp [same]

/-- A free key of both tables takes the request. -/
theorem entered_of_insertEntry {owner : Option Nat} {key : U32} (nonzero : key ≠ 0)
    (owned : owner = (m.requests request).owner) (same : Unchanged m s) (named : (s.requests request).commandId = key)
    (listable : ∀ file, owner = some file → (s.tables (.requests file)).lookup key = none) {listed : Shared δ}
    (kept : Kept { s.listed owner key request with book := s.book.get (.request request) } listed)
    (free : (listed.tables .device).lookup key = none)
    (entered : Kept (listed.insertEntry .device key request) t) :
    Entered request m t ∧ t.fields = m.fields ∧ t.hardware = m.hardware := by
  have inserted : listed.insertEntry .device key request =
      (listed.setTable .device ((listed.tables .device).insert key request)).setRequest request
        { listed.requests request with tracked := true } := rfl
  rw [inserted] at entered
  have tables (index : Index) : listed.tables index =
      if ∃ file, owner = some file ∧ index = .requests file then (m.tables index).insert key request
      else m.tables index := by
    rw [← same.tables, ← tables_listed s owner key request index]
    exact congrFun kept.tables index
  have device : listed.tables .device = m.tables .device := by
    rw [tables, if_neg]
    rintro ⟨_, _, ⟨⟩⟩
  have commandId : (t.requests request).commandId = key := by
    rw [entered.commandId, Shared.setRequest]
    simp only [Function.update_self]
    refine (kept.commandId request).trans ?_
    cases owner <;> exact named
  have later (index : Index) : t.tables index =
      if index ∈ listings owner then (m.tables index).insert key request else m.tables index := by
    have updated := congrFun entered.tables index
    change t.tables index = Function.update listed.tables .device _ index at updated
    rw [updated, device]
    by_cases shared : index = .device
    · subst shared
      rw [Function.update_self, if_pos (mem_listings.mpr (.inl rfl))]
    · rw [Function.update_of_ne shared, tables]
      simp only [mem_listings, shared, false_or]
  subst owned
  refine ⟨⟨?_, ?_, ?_, ?_⟩, ?_, ?_⟩
  · rw [commandId]
    exact nonzero
  · intro index inside
    rw [commandId]
    rcases mem_listings.mp inside with rfl | ⟨file, owns, rfl⟩
    · rw [← device]
      exact free
    · rw [← same.tables]
      exact listable file owns
  · intro index inside
    rw [later, if_pos inside, commandId]
  · intro index outside
    rw [later, if_neg outside]
  · refine (entered.fields.trans kept.fields).trans (Eq.trans ?_ same.fields)
    cases (m.requests request).owner <;> rfl
  · refine (entered.hardware.trans kept.hardware).trans (Eq.trans ?_ same.hardware)
    cases (m.requests request).owner <;> rfl

/-- A request that is not tracked leaves nothing behind. -/
def Tracked (request : Nat) (s : Shared δ) : Option Errno → Shared δ → Prop
  | some _, t => Unchanged s t
  | none, t => Entered request s t ∧ t.fields = s.fields ∧ t.hardware = s.hardware

theorem book_listed (s : Shared δ) (owner : Option Nat) (key : U32) (request : Nat) :
    (s.listed owner key request).book = s.book := by
  cases owner <;> rfl

/-- The reference of the device table goes back, and then the entry of the file. -/
theorem rollback_every {owner : Option Nat} {key : U32} {rest : Code (Option Errno)}
    (live : 0 < s.book.refs (.request request))
    (absent : ∀ file, owner = some file → (s.tables (.requests file)).lookup key = none)
    (kept : Kept { s.listed owner key request with book := s.book.get (.request request) } t)
    (post : Option Errno → Shared δ → Prop)
    (continues : ∀ {u : Shared δ} {own' : Own}, Unchanged s u →
      rest.Every (exec hw) (fun outcome => post outcome.result outcome.shared) u own') :
    Program.Every (exec hw) (fun outcome => post outcome.result outcome.shared) (do
      requestPut request
      unlistRequest owner key
      rest) t own := by
  have several : 1 < t.book.refs (.request request) := by
    rw [kept.book, RefBook.get_refs, Function.update_self]
    omega
  refine .bind ((requestPut_every several).mono fun put returned => ?_)
  have book : put.shared.book = s.book := by
    rw [returned.book, kept.book, RefBook.put_get]
  have same : Unchanged (s.listed owner key request) put.shared :=
    { tables := returned.tables.trans kept.tables
      book := book.trans (book_listed s owner key request).symm
      pending := returned.pending.trans kept.pending
      fields := returned.fields.trans kept.fields
      hardware := returned.hardware.trans kept.hardware
      owner := fun request => (returned.owner request).trans (kept.owner request) }
  refine .bind ((unlistRequest_every absent same).mono fun unlisted back => ?_)
  exact continues back

theorem trackLoop_every (attempts : Nat) (live : 0 < m.book.refs (.request request)) (same : Unchanged m s) :
    (trackLoop request attempts).Every (exec hw) (fun outcome => Tracked request m outcome.result outcome.shared) s
      own := by
  induction attempts generalizing s own with
  | zero => exact same
  | succ attempts ih =>
      refine .op (fun _ => rfl) ?_
      have advanced : Unchanged m { s with nextCommandId := s.nextCommandId + 1 } := { same with }
      generalize s.nextCommandId + 1 = key at advanced ⊢
      split
      · exact ih advanced
      next nonzero =>
      refine setCommandId_every (Tracked request m) key advanced fun t own' record same named owned => ?_
      refine .bind ((listRequest_every record.owner key request).mono fun listed shown => ?_)
      split at shown
      next error result =>
        rw [result, shown]
        split
        next => exact ih same
        next => exact same
        next again => cases again
      next result =>
        rw [result, shown.2]
        refine .op (fun _ => rfl) ?_
        have touched := kept_touch (t.listed record.owner key request) (.get (.request request))
        have gotten : Kept { t.listed record.owner key request with book := t.book.get (.request request) }
            { (t.listed record.owner key request).touch (.get (.request request)) with
              book := ((t.listed record.owner key request).touch (.get (.request request))).book.get
                (.request request) } :=
          { touched with book := by rw [touched.book, book_listed] }
        refine .bind ((xaInsert_device_every key request).mono fun inserted outcome => ?_)
        split at outcome
        next error failed =>
          rw [failed]
          refine rollback_every (same.book ▸ live) shown.1 (gotten.trans outcome) (Tracked request m) fun back => ?_
          split
          · exact ih (same.trans back)
          · exact same.trans back
        next done =>
          rw [done]
          exact entered_of_insertEntry nonzero owned same named shown.1 gotten outcome.1 outcome.2

end Track

section Submit
variable {request : Nat} {descriptor : Submission} {m u : Shared δ}

/-- The writes of the submission doorbell, each with the state that it met. -/
def doorbells (log : List (Op × Shared δ)) : List (U32 × Shared δ) :=
  log.filterMap fun entry =>
    match entry.1 with
    | .writel .sqDoorbell tail => some (tail, entry.2)
    | _ => none

theorem doorbells_append (first second : List (Op × Shared δ)) :
    doorbells (first ++ second) = doorbells first ++ doorbells second := List.filterMap_append

theorem doorbells_quiet {log : List (Op × Shared δ)} (quiet : ∀ entry ∈ log, entry.1.rings = false) :
    doorbells log = [] := by
  apply List.filterMap_eq_nil_iff.mpr
  intro entry listed
  have silent := quiet entry listed
  split
  next tail rings =>
    rw [rings] at silent
    cases silent
  · rfl

theorem rings_of_usual (op : Op) (usual : op.publishes = false) : op.rings = false := by
  cases op with
  | storeSubmission slot submission => cases usual
  | _ => exact usual

/-- A program that never publishes rings no doorbell. -/
theorem doorbells_of_usual {α : Type} {program : Code α}
    (usual : Performs (fun _ _ => True) (fun op => op.rings = false) program) :
    program.Every (exec hw) (fun outcome => doorbells outcome.log = []) s own := by
  refine (usual.every (fun _ => True) ?_ trivial).mono fun outcome shown => doorbells_quiet shown.1
  exact fun _ _ _ _ _ _ _ _ _ _ => ⟨trivial, trivial⟩

/-- The request stands in its tables, and its slot has the descriptor of the caller with its command ID. -/
structure Published (hw : Hardware δ) (request : Nat) (descriptor : Submission) (s d : Shared δ) : Prop
    extends Entered request s d where
  stored : d.hardware = hw.storeSubmission (hw.read s.hardware .sqHead).2
    (s.fields.sqDma + 64 * s.fields.sqTail.setWidth 64)
    { descriptor with commandId := (d.requests request).commandId }

/-- The tables, the command IDs, and the hardware are the same. -/
structure Stands (s t : Shared δ) : Prop where
  tables : t.tables = s.tables
  commandId : ∀ request, (t.requests request).commandId = (s.requests request).commandId
  hardware : t.hardware = s.hardware

theorem Kept.stands (kept : Kept s t) : Stands s t := ⟨kept.tables, kept.commandId, kept.hardware⟩

theorem stands_setGeneration (s : Shared δ) (request : Nat) (resetGeneration : U32) :
    Stands s (s.setRequest request { s.requests request with resetGeneration }) := by
  refine ⟨rfl, fun other => ?_, rfl⟩
  by_cases same : other = request
  · subst same
    simp [Shared.setRequest]
  · simp [Shared.setRequest, Function.update_of_ne same]

/-- The request stays entered up to the doorbell. -/
theorem Entered.stands (entered : Entered request m t) (stands : Stands t u) : Entered request m u := by
  have commandId := stands.commandId request
  exact
    { nonzero := commandId ▸ entered.nonzero
      unused := commandId ▸ entered.unused
      entered := by rw [stands.tables, commandId]; exact entered.entered
      others := by rw [stands.tables]; exact entered.others }

theorem Published.stands (published : Published hw request descriptor m t) (stands : Stands t u) :
    Published hw request descriptor m u :=
  { published.toEntered.stands stands with
    stored := by rw [stands.hardware, stands.commandId request]; exact published.stored }

/-- Between the descriptor and the doorbell, the driver changes neither. -/
theorem ring_every (published : Published hw request descriptor m t) (nextTail : U32) :
    Program.Every (exec hw) (fun outcome =>
        ∃ d, doorbells outcome.log = [(nextTail, d)] ∧ Published hw request descriptor m d) (do
      let generation := (← call .fields).resetGeneration
      call (.setRequest request (.resetGeneration generation))
      call .incPending
      call (.assign (.sqTail nextTail))
      call (.writel .sqDoorbell (← call .fields).sqTail)
      call (.unlock .reset)
      if 0 < (← call .readPending) then call (.schedule .cqPoll)) t own := by
  have touched := published.stands
    (kept_touch t (.setRequest request (.resetGeneration t.fields.resetGeneration))).stands
  have named := touched.stands (stands_setGeneration _ request t.fields.resetGeneration)
  refine .op (fun _ => rfl) (.op (fun _ => rfl) (.op (fun _ => rfl) (.op (fun _ => rfl) (.op (fun _ => rfl) ?_))))
  refine .op (fun _ => rfl) ?_
  have quiet : Performs (fun _ _ => True) (fun op => op.rings = false) (do
      call (.unlock .reset)
      if 0 < (← call .readPending) then call (.schedule .cqPoll)) := by
    refine .op rfl fun _ _ => .op rfl fun pending _ => ?_
    split
    · exact ⟨rfl, fun _ _ => trivial⟩
    · trivial
  refine (doorbells_of_usual quiet).mono fun outcome silent => ?_
  refine ⟨_, congrArg (List.cons (nextTail, _)) silent, ?_⟩
  exact named.stands ⟨rfl, fun _ => rfl, rfl⟩

theorem publishRequest_every (entered : Entered request m t) (fields : t.fields = m.fields)
    (hardware : t.hardware = (hw.read m.hardware .sqHead).2) (nextTail : U32) :
    (publishRequest request descriptor nextTail).Every (exec hw) (fun outcome =>
      ∃ d, doorbells outcome.log = [(nextTail, d)] ∧ Published hw request descriptor m d) t own := by
  refine .op (fun _ => rfl) (.op (fun _ => rfl) (.op (fun _ => rfl) ?_))
  have touched := (kept_touch t (.readRequest request))
  have stored : Published hw request descriptor m
      { t.touch (.readRequest request) with
        hardware := hw.storeSubmission (t.touch (.readRequest request)).hardware
          ((t.touch (.readRequest request)).fields.sqDma + 64 * t.fields.sqTail.setWidth 64)
          { descriptor with commandId := (t.requests request).commandId } } :=
    { entered.stands touched.stands with
      stored := by
        rw [touched.hardware, hardware, touched.fields, fields]
        change _ = hw.storeSubmission _ _ { descriptor with commandId := ((t.touch _).requests request).commandId }
        rw [touched.commandId] }
  refine .bind (.op (fun _ => rfl) (.pure ?_))
  have synced := stored.stands (kept_touch _ (.readRequest request)).stands
  refine .call fun _ _ locked _ executed => ?_
  obtain rfl : Shared.setLocked _ .reset true = locked := by
    rw [exec] at executed
    split at executed
    · cases executed
    · simpa using congrArg (Option.map (·.2.1)) executed
  exact ring_every (synced.stands (kept_setLocked _ _ _).stands) nextTail

/-- The call gave up before it drained the completion queue, or the drain left this state. -/
def AfterDrain (hw : Hardware δ) (s : Shared δ) (own : Own) (m : Shared δ) : Prop :=
  m = s ∨ ∃ choices drained, drainCq.runAlone (exec hw) choices s own = some drained ∧ drained.shared = m

/-- The tables, the references, the pending requests, and the fields of the device are the same. -/
structure Restored (s t : Shared δ) : Prop where
  tables : t.tables = s.tables
  book : t.book = s.book
  pending : t.pendingRequests = s.pendingRequests
  fields : t.fields = s.fields

/-- A refused request leaves nothing behind and rings no doorbell. Otherwise the doorbell is rung once, and the request
is published by then. -/
def Concluded (hw : Hardware δ) (request : Nat) (descriptor : Submission) (m : Shared δ)
    (outcome : Outcome Op (Shared δ) Own (Option Errno)) : Prop :=
  match outcome.result with
  | some _ => doorbells outcome.log = [] ∧ Restored m outcome.shared
  | none => ∃ d, doorbells outcome.log = [((m.fields.sqTail + 1) &&& (queueDepth - 1), d)] ∧
      Published hw request descriptor m d

theorem Concluded.after {outcome : Outcome Op (Shared δ) Own (Option Errno)} {log : List (Op × Shared δ)}
    (silent : doorbells log = []) (concluded : Concluded hw request descriptor m outcome) :
    Concluded hw request descriptor m (outcome.after log) := by
  have same : doorbells (outcome.after log).log = doorbells outcome.log := by
    rw [Outcome.after, doorbells_append, silent, List.nil_append]
  unfold Concluded at concluded ⊢
  rw [same]
  exact concluded

/-- The read of the head is all that the hardware sees between the drain and the descriptor. -/
def Shared.readHead (hw : Hardware δ) (s : Shared δ) : Shared δ := { s with hardware := (hw.read s.hardware .sqHead).2 }

/-- The part after the drain. -/
theorem submit_after_drain (live : 0 < m.book.refs (.request request)) :
    Program.Every (exec hw) (Concluded hw request descriptor m) (do
      let sqHead ← call (.readl .sqHead)
      if queueDepth ≤ sqHead then return some .eio
      else
        let nextTail := ((← call .fields).sqTail + 1) &&& (queueDepth - 1)
        if nextTail = sqHead then return some .eagain
        else
          match ← trackRequest request with
          | some error => return some error
          | none =>
              publishRequest request descriptor nextTail
              return none) m own := by
  refine .op (fun _ => rfl) (.mono ?_ fun _ => .after rfl)
  split
  · exact ⟨rfl, rfl, rfl, rfl, rfl⟩
  refine .op (fun _ => rfl) (.mono ?_ fun _ => .after rfl)
  dsimp only
  split
  · exact ⟨rfl, rfl, rfl, rfl, rfl⟩
  have silent : Program.Every (exec hw) (fun outcome => doorbells outcome.log = []) (trackRequest request)
      (m.readHead hw) own := doorbells_of_usual (trackLoop_usual rings_of_usual _ _)
  have tracks : Program.Every (exec hw)
      (fun outcome => Tracked request (m.readHead hw) outcome.result outcome.shared) (trackRequest request)
      (m.readHead hw) own := trackLoop_every _ live ⟨rfl, rfl, rfl, rfl, rfl, fun _ => rfl⟩
  refine .bind ((tracks.and silent).mono fun tracked shown => .mono ?_ fun _ => .after shown.2)
  have kept := shown.1
  cases result : tracked.result with
  | some error =>
      rw [result] at kept
      exact ⟨rfl, kept.tables, kept.book, kept.pending, kept.fields⟩
  | none =>
      rw [result] at kept
      obtain ⟨entered, fields, hardware⟩ := kept
      have entered : Entered request m tracked.shared := { entered with }
      refine .bind ((publishRequest_every entered fields hardware _).mono fun published rung => ?_)
      exact .pure (rung.imp fun d rung => ⟨by rw [Outcome.after, List.append_nil]; exact rung.1, rung.2⟩)

theorem submitLocked_every (drains : Drains request 0 s s) :
    (submitLocked request descriptor).Every (exec hw) (fun outcome => ∃ m, AfterDrain hw s own m ∧
      Drains request 0 s m ∧ Concluded hw request descriptor m outcome) s own := by
  refine .op (fun _ => rfl) ?_
  split
  · exact ⟨s, .inl rfl, drains, rfl, rfl, rfl, rfl, rfl⟩
  refine .op (fun _ => rfl) ?_
  split
  · exact ⟨s, .inl rfl, drains, rfl, rfl, rfl, rfl, rfl⟩
  have silent : drainCq.Every (exec hw) (fun outcome => doorbells outcome.log = []) s own :=
    doorbells_of_usual (drainCq_usual rings_of_usual)
  refine .bind (((drains.drainCq.and silent).and (Program.every_run drainCq s own)).mono fun drained shown => ?_)
  obtain ⟨⟨drains, silent⟩, choices, ran⟩ := shown
  have live : 0 < drained.shared.book.refs (.request request) := Nat.lt_of_le_of_lt (Nat.zero_le _) drains.spare
  refine (submit_after_drain live).mono fun outcome concluded => ?_
  exact ⟨drained.shared, .inr ⟨choices, drained, ran, rfl⟩, drains, .after rfl (.after rfl (.after silent concluded))⟩

/-- The last unlock rings no doorbell. -/
theorem Concluded.unlock {outcome : Outcome Op (Shared δ) Own (Option Errno)}
    (concluded : Concluded hw request descriptor m outcome) (lock : Lock) (own : Own) :
    Concluded hw request descriptor m
      { outcome with
        log := outcome.log ++ [(.unlock lock, outcome.shared)]
        shared := outcome.shared.setLocked lock false
        own } := by
  have same : doorbells (outcome.log ++ [(.unlock lock, outcome.shared)]) = doorbells outcome.log := by
    rw [doorbells_append]
    exact List.append_nil _
  unfold Concluded at concluded ⊢
  dsimp only
  rw [same]
  split
  next error result =>
    rw [result] at concluded
    exact ⟨concluded.1, { concluded.2 with }⟩
  next result =>
    rw [result] at concluded
    exact concluded

theorem submit_every (held : (s.tables .device).count request < s.book.refs (.request request)) :
    (submit request descriptor).Every (exec hw) (fun outcome =>
      ∃ m, AfterDrain hw (s.setLocked .submit true) (own.acquire .submit) m ∧ Drains request 0 s m ∧
        Concluded hw request descriptor m outcome) s own := by
  refine .call fun _ _ locked own' executed => ?_
  obtain ⟨rfl, rfl⟩ : s.setLocked .submit true = locked ∧ own.acquire .submit = own' := by
    rw [exec] at executed
    split at executed
    · cases executed
    · simpa using executed
  have drains : Drains request 0 (s.setLocked .submit true) (s.setLocked .submit true) := ⟨fun _ _ => rfl, rfl, held⟩
  refine .bind ((submitLocked_every drains).mono fun result shown => .op (fun _ => rfl) (.pure ?_))
  obtain ⟨m, drained, drains, concluded⟩ := shown
  refine ⟨m, drained, { drains with }, .after rfl ?_⟩
  exact concluded.unlock .submit _

/-- Apart from the drain, a failed submission leaves the tables, the references, the pending requests, and the tail as
they were and rings no doorbell. A successful one rings it once, when the request has a command ID that its tables did
not have, stands in them, and has its descriptor in the slot. -/
theorem submit_concludes (hw : Hardware δ) (request : Nat) (descriptor : Submission) (choices : List Choice)
    (s : Shared δ) (own : Own) (outcome : Outcome Op (Shared δ) Own (Option Errno))
    (held : (s.tables .device).count request < s.book.refs (.request request))
    (ran : (submit request descriptor).runAlone (exec hw) choices s own = some outcome) :
    ∃ m, AfterDrain hw (s.setLocked .submit true) (own.acquire .submit) m ∧ Drains request 0 s m ∧
      Concluded hw request descriptor m outcome :=
  (submit_every held).outcome ran

/-- The next command IDs are zero and one that the device table has. -/
def wrapping : Shared Unit where
  hardware := ()
  fields := { queuesReady := true }
  nextCommandId := 0xffffffff
  tables := Function.update (fun _ => Table.empty) .device (Table.empty.insert 1 5)
  book := RefBook.empty.allocate (.request 0)
  requests := fun _ => { owner := some 3 }

/-- The request gets the third one. -/
theorem wrapping_submission :
    ∃ outcome m, (submit 0 {}).runAlone (exec zeroHardware) (List.replicate 60 {}) wrapping {} = some outcome ∧
      outcome.result = none ∧ Drains 0 0 wrapping m ∧ Concluded zeroHardware 0 {} m outcome := by
  have seen : ((submit 0 {}).runAlone (exec zeroHardware) (List.replicate 60 {}) wrapping {}).map (·.result) =
      some none := by decide +kernel
  obtain ⟨outcome, ran, succeeded⟩ := Option.map_eq_some_iff.mp seen
  obtain ⟨m, -, drains, concluded⟩ := submit_concludes zeroHardware 0 {} (List.replicate 60 {}) wrapping {} outcome
    (by decide) ran
  exact ⟨outcome, m, ran, succeeded, drains, concluded⟩

end Submit
end VamsSoc.Driver
