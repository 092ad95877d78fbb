/-
This file has the invariant of the driver: what its shared memory and the shares of its threads say together.
-/

import VamsSoc.Proof.Driver.Owners

namespace VamsSoc.Driver
open Library Abi

variable {δ : Type}

/-- The lock under which a table changes. -/
def Index.lock : Index → Lock
  | .device => .xa
  | .requests file => .file file
  | .mappings file => .file file

/-- A thread has seen an entry under its lock, and perhaps that the table has the only reference. -/
structure Sight where
  index : Index
  key : U32
  value : Nat
  sole : Bool
  deriving DecidableEq

def Sight.object (sight : Sight) : Object := sight.index.object sight.value

def Sight.Holds (s : Shared δ) (sight : Sight) : Prop :=
  (s.tables sight.index).lookup sight.key = some sight.value ∧ (sight.sole = true → s.book.refs sight.object = 1)

/-- A lock comes with what its holder has seen under it. -/
structure Holding where
  lock : Lock
  sights : List Sight
  deriving DecidableEq

/-- A request before it is listed, with the command ID that it has so far. -/
structure Draft where
  request : Nat
  owner : Option Nat
  commandId : U32
  deriving DecidableEq

/-- A new mapping of a file, or a new file. -/
inductive Creation where
  | mapping (number file : Nat)
  | file (number : Nat)
  deriving DecidableEq

def Creation.object : Creation → Object
  | .mapping number _ => .mapping number
  | .file number => .file number

/-- The request that a reference belongs to. -/
def Reference.request : Reference → Nat
  | .source request | .destination request | .owner request => request

/-- What a thread has, or still has to do. -/
inductive Token where
  /-- What the thread was started for. -/
  | does (task : Task)
  | ref (object : Object)
  /-- Only this thread has a reference to the object. -/
  | created (creation : Creation)
  /-- The count has reached zero, and the object is not freed yet. -/
  | dying (object : Object)
  | holding (holding : Holding)
  /-- The request was never in the device table. -/
  | fresh (request : Nat)
  /-- The request has no mappings yet. -/
  | bare (request : Nat)
  /-- The thread has the first reference to the request, which is not in the table of its owner. -/
  | draft (draft : Draft)
  /-- The request was in the device table. -/
  | shown (request : Nat)
  /-- The thread took the request out of the device table and has to complete it. -/
  | retiring (request : Nat)
  /-- The thread has completed the request and has to count it. -/
  | announcing (request : Nat)
  /-- The thread took the request out of the table of its file and has to answer its wait. -/
  | reaped (request : Nat)
  /-- The call on the file has to decrement its counter for the request. -/
  | owed (file request : Nat)
  | use (file : Nat)
  /-- The thread closes the file and has the reference of its descriptor. -/
  | closes (file : Nat)
  /-- The file has its closing mark. -/
  | shut (file : Nat)
  | uncounted
  | erased
  /-- The thread will look at the number of pending requests. -/
  | polls
  /-- The thread has seen that the device is being removed. -/
  | removes
  /-- The thread has released the interrupt of the completion queue. -/
  | frees
  /-- The thread has put the last reference to a mapping for a request. -/
  | orphan
  /-- The request has ended, and this one of its references is put. -/
  | cleared (reference : Reference)

/-- The share of a thread counts its tokens. -/
@[ext] structure Share where
  tasks : Multiset Task := 0
  refs : Multiset Object := 0
  created : Multiset Creation := 0
  dying : Multiset Object := 0
  holdings : Multiset Holding := 0
  fresh : Multiset Nat := 0
  bare : Multiset Nat := 0
  drafts : Multiset Draft := 0
  shown : Multiset Nat := 0
  retiring : Multiset Nat := 0
  announcing : Multiset Nat := 0
  reaped : Multiset Nat := 0
  owed : Multiset (Nat × Nat) := 0
  uses : Multiset Nat := 0
  closes : Multiset Nat := 0
  shut : Multiset Nat := 0
  uncounted : Nat := 0
  erased : Nat := 0
  polls : Nat := 0
  removes : Nat := 0
  frees : Nat := 0
  orphans : Nat := 0
  cleared : Multiset Reference := 0

namespace Share

instance : Zero Share := ⟨{}⟩

instance : Add Share where
  add first second := {
    tasks := first.tasks + second.tasks
    refs := first.refs + second.refs
    created := first.created + second.created
    dying := first.dying + second.dying
    holdings := first.holdings + second.holdings
    fresh := first.fresh + second.fresh
    bare := first.bare + second.bare
    drafts := first.drafts + second.drafts
    shown := first.shown + second.shown
    retiring := first.retiring + second.retiring
    announcing := first.announcing + second.announcing
    reaped := first.reaped + second.reaped
    owed := first.owed + second.owed
    uses := first.uses + second.uses
    closes := first.closes + second.closes
    shut := first.shut + second.shut
    uncounted := first.uncounted + second.uncounted
    erased := first.erased + second.erased
    polls := first.polls + second.polls
    removes := first.removes + second.removes
    frees := first.frees + second.frees
    orphans := first.orphans + second.orphans
    cleared := first.cleared + second.cleared }

instance : AddCommMonoid Share where
  add_assoc first second third := by ext1 <;> exact add_assoc ..
  zero_add share := by ext1 <;> exact zero_add _
  add_zero share := by ext1 <;> exact add_zero _
  add_comm first second := by ext1 <;> exact add_comm ..
  nsmul := nsmulRec

/-- One more token. -/
def push (share : Share) : Token → Share
  | .does task => { share with tasks := task ::ₘ share.tasks }
  | .ref object => { share with refs := object ::ₘ share.refs }
  | .created creation => { share with created := creation ::ₘ share.created }
  | .dying object => { share with dying := object ::ₘ share.dying }
  | .holding holding => { share with holdings := holding ::ₘ share.holdings }
  | .fresh request => { share with fresh := request ::ₘ share.fresh }
  | .bare request => { share with bare := request ::ₘ share.bare }
  | .draft draft => { share with drafts := draft ::ₘ share.drafts }
  | .shown request => { share with shown := request ::ₘ share.shown }
  | .retiring request => { share with retiring := request ::ₘ share.retiring }
  | .announcing request => { share with announcing := request ::ₘ share.announcing }
  | .reaped request => { share with reaped := request ::ₘ share.reaped }
  | .owed file request => { share with owed := (file, request) ::ₘ share.owed }
  | .use file => { share with uses := file ::ₘ share.uses }
  | .closes file => { share with closes := file ::ₘ share.closes }
  | .shut file => { share with shut := file ::ₘ share.shut }
  | .uncounted => { share with uncounted := share.uncounted + 1 }
  | .erased => { share with erased := share.erased + 1 }
  | .polls => { share with polls := share.polls + 1 }
  | .removes => { share with removes := share.removes + 1 }
  | .frees => { share with frees := share.frees + 1 }
  | .orphan => { share with orphans := share.orphans + 1 }
  | .cleared reference => { share with cleared := reference ::ₘ share.cleared }

theorem push_add (share rest : Share) (token : Token) : share.push token + rest = (share + rest).push token := by
  cases token <;> ext1 <;> first | rfl | exact Multiset.cons_add .. | exact Nat.add_right_comm ..

theorem push_comm (share : Share) (first second : Token) :
    (share.push first).push second = (share.push second).push first := by
  cases first <;> cases second <;> first | rfl | (ext1 <;> first | rfl | exact Multiset.cons_swap ..)

/-- The references that a thread has, alone or together with something to do. -/
def held (share : Share) : Multiset Object :=
  share.refs + share.created.map Creation.object +
    (share.drafts.map Draft.request + share.retiring + share.announcing).map .request + share.closes.map .file

theorem held_ref (share : Share) (object : Object) : (share.push (.ref object)).held = object ::ₘ share.held := by
  simp [held, push]

theorem held_created (share : Share) (creation : Creation) :
    (share.push (.created creation)).held = creation.object ::ₘ share.held := by
  simp [held, push]

theorem held_draft (share : Share) (draft : Draft) :
    (share.push (.draft draft)).held = .request draft.request ::ₘ share.held := by
  simp [held, push]

theorem held_retiring (share : Share) (request : Nat) :
    (share.push (.retiring request)).held = .request request ::ₘ share.held := by
  simp [held, push]

theorem held_announcing (share : Share) (request : Nat) :
    (share.push (.announcing request)).held = .request request ::ₘ share.held := by
  simp [held, push]

theorem held_closes (share : Share) (file : Nat) : (share.push (.closes file)).held = .file file ::ₘ share.held := by
  simp [held, push]

/-- The calls that are running on a file, those with a debt included. -/
def users (share : Share) (file : Nat) : Nat := share.uses.count file + (share.owed.map Prod.fst).count file

end Share

def Task.context : Task → Context
  | .interrupt _ => .interrupt
  | _ => .process

/-- The probe and the removal take the device down. -/
def Task.tearsDown : Task → Bool
  | .probe | .remove => true
  | _ => false

/-- These tasks submit requests, or cancel them after a reset. -/
def Task.submits : Task → Bool
  | .probe | .submission | .work .reset => true
  | _ => false

def Share.locks (share : Share) : Multiset Lock := share.holdings.map Holding.lock

def Share.Submitter (share : Share) : Prop := ∃ task ∈ share.tasks, task.submits = true

/-- Other threads have the lock as well, but they leave the device table alone. -/
def Share.Submits (share : Share) : Prop := .submit ∈ share.locks ∧ share.Submitter

/-- A thread may take requests out of the device table under one of two locks, or after it has released the interrupt of
the completion queue. -/
def Share.Settles (share : Share) : Prop :=
  share.Submits ∨ .cq ∈ share.locks ∨ 0 < share.frees

/-- The requests that the thread has not completed or not counted. -/
def Share.unsettled (share : Share) : Nat := share.erased + share.retiring.card + share.announcing.card

/-- A thread has work to finish only where it can not be left. -/
structure Share.Proper (share : Share) : Prop where
  uncounted : 0 < share.uncounted → share.Submits
  unsettled : 0 < share.unsettled → share.Settles
  polls : 0 < share.polls → share.Submits ∨ .work .cqPoll ∈ share.tasks
  frees : 0 < share.frees → ∃ task ∈ share.tasks, task.tearsDown = true

/-- What a thread has of its own is what its share says. -/
structure Agrees (own : Own) (share : Share) : Prop where
  refs : own.refs = share.held
  locks : own.locks = share.locks
  task : share.tasks = {own.task}
  context : own.context = own.task.context
  interrupts : own.irqsOff = false → .reset ∉ own.locks
  handler : own.context = .interrupt → own.irqsOff = true
  proper : share.Proper

/-- Where a request stands: its flags, its entries, and the tokens that threads have for it. -/
structure Standing where
  tracked : Bool := false
  done : Bool := false
  counted : Bool := false
  mapped : Bool := false
  ownerOpen : Bool := false
  inDevice : Nat := 0
  inFile : Nat := 0
  fresh : Nat := 0
  bare : Nat := 0
  unlisted : Nat := 0
  shown : Nat := 0
  retiring : Nat := 0
  announcing : Nat := 0
  reaped : Nat := 0
  answered : Nat := 0

def Shared.standing (s : Shared δ) (h : Share) (request : Nat) : Standing where
  tracked := (s.requests request).tracked
  done := (s.requests request).done
  counted := (s.requests request).counted
  mapped := (s.requests request).source.isSome || (s.requests request).destination.isSome
  ownerOpen := s.ownerOpen request
  inDevice := (s.tables .device).count request
  inFile := s.fileEntries request
  fresh := h.fresh.count request
  bare := h.bare.count request
  unlisted := (h.drafts.map Draft.request).count request
  shown := h.shown.count request
  retiring := h.retiring.count request
  announcing := h.announcing.count request
  reaped := h.reaped.count request
  answered := s.history.waits.count (request, none)

/-- A request goes through the device table once and leaves the table of its file for one wait. While no request was
reaped early, it stays in that table until it is counted. -/
structure Standing.Sound (standing : Standing) (onTime : Prop) : Prop where
  completion : standing.inDevice + standing.retiring + (if standing.done then 1 else 0) ≤ 1
  untracked : standing.tracked = false →
    standing.inDevice = 0 ∧ standing.retiring = 0 ∧ standing.shown = 0 ∧ standing.done = false
  fresh : standing.fresh ≤ if standing.tracked then 0 else 1
  bare : standing.bare ≤ if standing.mapped then 0 else 1
  reaping : standing.answered + standing.reaped + standing.inFile + standing.unlisted ≤ 1
  countedDone : standing.counted = true → standing.done = true
  announcing : standing.announcing ≤ if standing.done ∧ standing.counted = false then 1 else 0
  announced : standing.done = true → standing.ownerOpen = true → standing.counted = true ∨ 0 < standing.announcing
  kept : onTime → standing.tracked = true → standing.counted = false → standing.ownerOpen = true → 0 < standing.inFile

/-- The requests of a file that `completed_requests` has counted. -/
def Shared.countedEntries (s : Shared δ) (file : Nat) : Nat :=
  (s.tables (.requests file)).entries.countP fun entry => (s.requests entry.2).counted

/-- What the thread that created an object knows about it. -/
def Creation.Kept (s : Shared δ) : Creation → Prop
  | .mapping number owner => (s.mappings number).file = owner
  | .file number => (s.files number).closing = false

/-- The request has lost its last reference. -/
def Shared.Ended (s : Shared δ) (request : Nat) : Prop :=
  s.book.allocated (.request request) = true ∧ s.book.refs (.request request) = 0

/-- A request that has ended gets no new links. Those that are cleared are gone, and a freed request has none. -/
def Shared.Resting (s : Shared δ) (cleared : Multiset Reference) : Prop :=
  (∀ reference ∈ cleared, s.Ended reference.request ∧ s.referent reference = none) ∧
    ∀ reference : Reference, 0 < s.book.freed (.request reference.request) → s.referent reference = none

/-- The invariant, with one part for each thing that a thread relies on. -/
structure Ledger (s : Shared δ) (h : Share) : Prop where
  -- Reference counts.
  balanced : Balanced s.book s.owners h.held h.dying
  created : ∀ creation ∈ h.created, s.book.refs creation.object = 1 ∧ creation.Kept s
  belongs : ∀ index key value, (s.tables index).lookup key = some value → s.Belongs index value
  named : ∀ file key request, (s.tables (.requests file)).lookup key = some request → (s.requests request).commandId = key
  drafts : ∀ draft ∈ h.drafts,
    (s.requests draft.request).owner = draft.owner ∧ (s.requests draft.request).commandId = draft.commandId
  requestNumbers : ∀ request, s.book.allocated (.request request) = decide (request < s.requestCount)
  mappingNumbers : ∀ mapping, s.book.allocated (.mapping mapping) = decide (mapping < s.mappingCount)
  fileNumbers : ∀ file, s.book.allocated (.file file) = decide (file < s.fileCount)
  touched : ∀ access ∈ s.history.touched, access.2 = true
  -- Locks and what is seen under them.
  locks : ∀ lock, (h.holdings.map Holding.lock).count lock = if s.locked lock then 1 else 0
  sights : ∀ holding ∈ h.holdings, ∀ sight ∈ holding.sights, sight.Holds s ∧ sight.index.lock = holding.lock
  -- Each request, and those to come.
  requests : ∀ request, (s.standing h request).Sound (s.history.earlyReaps = [])
  blankRequests : ∀ request, s.requestCount ≤ request → s.requests request = {} ∧ s.standing h request = {}
  blankFiles : ∀ file, s.fileCount ≤ file → s.files file = {}
  -- The poll work.
  pending : s.pendingRequests + h.uncounted = (s.tables .device).size + h.erased
  polled : 0 < (s.tables .device).size →
    s.fields.removing = true ∨ s.cqPollWork.pending = true ∨ 0 < h.polls + h.uncounted
  removing : 0 < h.removes → s.fields.removing = true
  freed : 0 < h.frees → (.cqIrq, false) ∈ s.history.resources
  -- The calls on a file, and its counter.
  users : ∀ file, (s.files file).users = h.users file
  usersOpened : ∀ file, 0 < (s.files file).users → (s.files file).opened = true
  closes : ∀ file ∈ h.closes, (s.files file).opened = false
  closing : ∀ file, (s.files file).closing = true → (s.files file).opened = false
  shut : ∀ file ∈ h.shut, (s.files file).closing = true
  completed : s.history.earlyReaps = [] → ∀ file, (s.files file).closing = false →
    (s.files file).completed = s.countedEntries file + (h.owed.map Prod.fst).count file
  owing : ∀ debt ∈ h.owed, s.history.earlyReaps ≠ [] ∨ (s.requests debt.2).done = true
  -- The mappings behind requests.
  mapped : ∀ mapping, s.entries (.mapping mapping) ≤ 1
  linked : s.history.earlyCloses = [] → ∀ request mapping, .mapping mapping ∈ (s.requests request).links →
    0 < (s.tables (.mappings (s.mappings mapping).file)).count mapping
  closed : s.history.earlyCloses = [] → ∀ file, (s.files file).opened = false → ∀ request mapping,
    .mapping mapping ∈ (s.requests request).links → (s.mappings mapping).file ≠ file
  orphans : 0 < h.orphans → s.history.earlyCloses ≠ []
  releases : s.history.earlyCloses = [] → ∀ mapping, (mapping, true) ∉ s.history.releases
  resting : s.Resting h.cleared

namespace Ledger
variable {s : Shared δ} {h : Share}

/-- The ledger does not look at the device behind the registers. -/
theorem setHardware (ledger : Ledger s h) (hardware : δ) : Ledger { s with hardware } h := { ledger with }

theorem setFields (ledger : Ledger s h) {fields : Fields}
    (removing : s.fields.removing = true → fields.removing = true) : Ledger (s.setFields fields) h :=
  { ledger with
    polled := fun waiting => (ledger.polled waiting).imp_left removing
    removing := fun seen => removing (ledger.removing seen) }

/-- A freed request has ended. -/
theorem ended_of_freed (ledger : Ledger s h) {request : Nat} (freed : 0 < s.book.freed (.request request)) :
    s.Ended request := by
  have once : s.book.freed (.request request) ≤ _ := ledger.balanced.freed_le
  split at once
  · next ended => exact ended
  · omega

/-- Requests that have ended stay so, and their links do not come back. -/
theorem resting_of (ledger : Ledger s h) {s' : Shared δ} (ended : ∀ request, s.Ended request → s'.Ended request)
    (referent : ∀ reference : Reference, s.Ended reference.request → s.referent reference = none →
      s'.referent reference = none)
    (freed : ∀ request, s'.book.freed (.request request) = s.book.freed (.request request)) : s'.Resting h.cleared := by
  constructor
  · intro reference member
    obtain ⟨before, none⟩ := ledger.resting.1 reference member
    exact ⟨ended _ before, referent reference before none⟩
  · intro reference free
    rw [freed] at free
    exact referent reference (ledger.ended_of_freed free) (ledger.resting.2 reference free)

theorem lock (ledger : Ledger s h) {lock : Lock} (free : s.locked lock = false) :
    Ledger (s.setLocked lock true) (h.push (.holding ⟨lock, []⟩)) :=
  { ledger with
    locks := by
      intro other
      have before := ledger.locks other
      change (Multiset.map Holding.lock (⟨lock, []⟩ ::ₘ h.holdings)).count other =
        if Function.update s.locked lock true other then 1 else 0
      rw [Multiset.map_cons, Multiset.count_cons, before, Function.update_apply]
      by_cases same : other = lock
      · subst same
        simp [free]
      · simp [same]
    sights := by
      intro holding member sight seen
      rcases Multiset.mem_cons.mp member with rfl | before
      · cases seen
      · exact ledger.sights holding before sight seen }

theorem unlock {lock : Lock} {sights : List Sight} (ledger : Ledger s (h.push (.holding ⟨lock, sights⟩))) :
    Ledger (s.setLocked lock false) h :=
  { ledger with
    locks := by
      intro other
      have before := ledger.locks other
      change (Multiset.map Holding.lock (⟨lock, sights⟩ ::ₘ h.holdings)).count other = _ at before
      rw [Multiset.map_cons, Multiset.count_cons] at before
      change _ = if Function.update s.locked lock false other then 1 else 0
      rw [Function.update_apply]
      by_cases same : other = lock
      · subst same
        simp at before ⊢
        split at before <;> simp_all
      · simpa [same] using before
    sights := fun holding member => ledger.sights holding (Multiset.mem_cons_of_mem member) }

end Ledger
end VamsSoc.Driver
