/-
This file has one rule for each operation of the driver: what a thread needs for it, and what it has afterwards.
-/

import VamsSoc.Proof.Driver.Accounts

namespace VamsSoc.Driver
open Library Abi

variable {δ : Type} {hw : Hardware δ} {α β : Type}

/-- The threads keep the ledger with their shares. -/
def discipline : Discipline (Shared δ) Own Share := ⟨Agrees, Ledger⟩

/-- The program keeps the ledger from this share on, and ends with one that the postcondition allows. -/
abbrev Safe (hw : Hardware δ) (post : α → Share → Prop) (share : Share) (code : Code α) : Prop :=
  Secures (exec hw) discipline post share code

section Shares
variable {own own' : Own} {share later : Share}

theorem Share.Submits.of_subset (submits : share.Submits) (locks : share.locks ⊆ later.locks)
    (tasks : later.tasks = share.tasks) : later.Submits := by
  refine ⟨locks submits.1, ?_⟩
  rw [Share.Submitter, tasks]
  exact submits.2

theorem Share.Settles.of_subset (settles : share.Settles) (locks : share.locks ⊆ later.locks)
    (tasks : later.tasks = share.tasks) (frees : later.frees = share.frees) : later.Settles := by
  unfold Share.Settles at settles ⊢
  rw [frees]
  exact settles.imp (fun submits => submits.of_subset locks tasks) (.imp_left fun cq => locks cq)

/-- A thread with no more to finish than before is proper under no fewer locks. -/
theorem Share.Proper.of_le (proper : share.Proper) (locks : share.locks ⊆ later.locks)
    (tasks : later.tasks = share.tasks) (frees : later.frees = share.frees)
    (uncounted : later.uncounted ≤ share.uncounted) (unsettled : later.unsettled ≤ share.unsettled)
    (polls : later.polls ≤ share.polls) : later.Proper where
  uncounted some := (proper.uncounted (some.trans_le uncounted)).of_subset locks tasks
  unsettled some := (proper.unsettled (some.trans_le unsettled)).of_subset locks tasks frees
  polls some := by
    rw [tasks]
    exact (proper.polls (some.trans_le polls)).imp_left fun submits => submits.of_subset locks tasks
  frees := by
    rw [frees, tasks]
    exact proper.frees

/-- A thread under the same locks has no more to finish. -/
structure Share.Within (later share : Share) : Prop where
  locks : later.locks = share.locks
  tasks : later.tasks = share.tasks
  frees : later.frees = share.frees
  uncounted : later.uncounted ≤ share.uncounted
  unsettled : later.unsettled ≤ share.unsettled
  polls : later.polls ≤ share.polls

theorem Share.Within.proper (within : later.Within share) (proper : share.Proper) : later.Proper :=
  proper.of_le (within.locks ▸ Multiset.Subset.refl _) within.tasks within.frees within.uncounted within.unsettled
    within.polls

/-- The references of a thread change with its share. -/
theorem Agrees.setRefs (agrees : Agrees own share) {refs : Multiset Object} (held : refs = later.held)
    (locks : later.locks = share.locks) (tasks : later.tasks = share.tasks) (proper : later.Proper) :
    Agrees { own with refs } later where
  refs := held
  locks := agrees.locks.trans locks.symm
  task := tasks.trans agrees.task
  context := agrees.context
  interrupts := agrees.interrupts
  handler := agrees.handler
  proper := proper

/-- A thread that keeps its references agrees with a share that says so. -/
theorem Agrees.keep (agrees : Agrees own share) (held : later.held = share.held) (within : later.Within share) :
    Agrees own later :=
  agrees.setRefs (agrees.refs.trans held.symm) within.locks within.tasks (within.proper agrees.proper)

/-- The thread takes a reference. -/
theorem Agrees.take (agrees : Agrees own share) {object : Object} (held : later.held = object ::ₘ share.held)
    (within : later.Within share) : Agrees (own.take object) later :=
  agrees.setRefs (by rw [held, agrees.refs]) within.locks within.tasks (within.proper agrees.proper)

/-- The thread gives a reference away. -/
theorem Agrees.give (agrees : Agrees own share) {object : Object} (held : share.held = object ::ₘ later.held)
    (within : later.Within share) : Agrees (own.give object) later :=
  agrees.setRefs (by rw [agrees.refs, held, Multiset.erase_cons_head]) within.locks within.tasks
    (within.proper agrees.proper)

theorem Agrees.acquire (agrees : Agrees own share) (lock : Lock) :
    Agrees (own.acquire lock) (share.push (.holding ⟨lock, []⟩)) where
  refs := agrees.refs
  locks := by
    change lock ::ₘ own.locks = Multiset.map Holding.lock (⟨lock, []⟩ ::ₘ share.holdings)
    rw [Multiset.map_cons, agrees.locks]
    rfl
  task := agrees.task
  context := agrees.context
  interrupts := by
    intro on
    obtain ⟨before, other⟩ : own.irqsOff = false ∧ ¬lock = .reset := by
      simpa [Own.acquire] using on
    change .reset ∉ lock ::ₘ own.locks
    rw [Multiset.mem_cons]
    exact not_or.mpr ⟨fun same => other same.symm, agrees.interrupts before⟩
  handler := by
    intro handler
    change (own.irqsOff || _) = true
    rw [agrees.handler handler, Bool.true_or]
  proper := by
    refine agrees.proper.of_le ?_ rfl rfl le_rfl le_rfl le_rfl
    intro held member
    exact Multiset.mem_map.mpr (by
      obtain ⟨holding, inside, same⟩ := Multiset.mem_map.mp member
      exact ⟨holding, Multiset.mem_cons_of_mem inside, same⟩)

theorem Agrees.release {lock : Lock} {sights : List Sight} (agrees : Agrees own (share.push (.holding ⟨lock, sights⟩)))
    (alone : lock ∉ share.locks) (proper : share.Proper) : Agrees (own.release lock) share := by
  have locks : own.locks = lock ::ₘ share.locks := by
    rw [agrees.locks]
    exact Multiset.map_cons ..
  have erased : own.locks.erase lock = share.locks := by rw [locks, Multiset.erase_cons_head]
  exact {
    refs := agrees.refs
    locks := erased
    task := agrees.task
    context := agrees.context
    interrupts := by
      intro on
      change .reset ∉ own.locks.erase lock
      rw [erased]
      by_cases same : lock = .reset
      · exact same ▸ alone
      · have before : own.irqsOff = false := by simpa [Own.release, same] using on
        have outside := agrees.interrupts before
        rw [locks, Multiset.mem_cons] at outside
        exact fun member => outside (.inr member)
    handler := by
      intro handler
      have before := agrees.handler handler
      change own.context = .interrupt at handler
      simp [Own.release, handler, before]
    proper }

/-- What a thread has of a request keeps the request alive. -/
def Share.Guards (share : Share) (request : Nat) : Prop :=
  .request request ∈ share.held ∨
    ∃ holding ∈ share.holdings, ∃ sight ∈ holding.sights, sight.object = .request request

/-- The thread may sleep. -/
def Share.Sleeps (share : Share) : Prop := .cq ∉ share.locks ∧ ∀ task ∈ share.tasks, task.context = .process

theorem Agrees.calm (agrees : Agrees own share) (sleeps : share.Sleeps) : own.atomic = false := by
  have process : own.context = .process := by
    rw [agrees.context]
    apply sleeps.2
    rw [agrees.task]
    exact Multiset.mem_singleton_self _
  simp [Own.atomic, process, agrees.locks, sleeps.1]

theorem Share.held_add (first second : Share) : (first + second).held = first.held + second.held := by
  change first.refs + second.refs + (first.created + second.created).map Creation.object +
    ((first.drafts + second.drafts).map Draft.request + (first.retiring + second.retiring) +
      (first.announcing + second.announcing)).map .request + (first.closes + second.closes).map .file = _
  simp only [Share.held, Multiset.map_add]
  abel

theorem Share.Guards.add {request : Nat} (guards : share.Guards request) (rest : Share) :
    (share + rest).Guards request := by
  rcases guards with member | ⟨holding, inside, seen⟩
  · left
    rw [Share.held_add]
    exact Multiset.mem_add.mpr (.inl member)
  · exact .inr ⟨holding, Multiset.mem_add.mpr (.inl inside), seen⟩

theorem Ledger.guarded {s : Shared δ} (ledger : Ledger s share) {request : Nat} (guards : share.Guards request) :
    0 < s.book.refs (.request request) := by
  rcases guards with member | ⟨holding, inside, sight, seen, same⟩
  · exact ledger.balanced.live_of_held member
  · have live := ledger.live_entry (ledger.sights holding inside sight seen).1.1
    change 0 < s.book.refs sight.object at live
    rwa [same] at live

end Shares

section Programs
variable {share : Share} {post : α → Share → Prop}

/-- One operation is safe when each of its outcomes is. -/
theorem safe_op {op : Op} {post : Reply op → Share → Prop}
    (outcomes : ∀ choice s own rest reply s' own', Agrees own share → Ledger s (share + rest) →
      exec hw choice s own op = some (reply, s', own') →
        ∃ later, Agrees own' later ∧ Ledger s' (later + rest) ∧ post reply later) :
    Safe hw post share (call op) := Secures.call outcomes

/-- The operations that the ledger does not look at. -/
def Op.neutral : Op → Bool
  | .readl _ | .writel _ _ | .loadCompletion _ | .storeSubmission _ _ | .fields | .assign _ | .load _ _ | .next _ _
  | .readGeneration _ | .readCompleted _ | .readMapping _ | .readRefs _ | .readClosing _ | .incNextCommandId
  | .readPending | .schedule _ | .cancelSync .reset | .finishWork _ | .irqReturn _ | .allocDevice | .getDevice
  | .putDevice | .freeDevice | .bind | .acquire _ | .hold _ | .release _ | .allocCoherent _ | .inspect | .waitForTest _
  | .copyFromUser | .copyToUser _ => true
  | _ => false

theorem removing_assign (fields : Fields) (assignment : Assignment) (removing : fields.removing = true) :
    (fields.assign assignment).removing = true := by
  cases assignment <;> first | exact removing | rfl

namespace Ledger
variable {s : Shared δ} {h : Share}

theorem setResource (ledger : Ledger s h) (resource : Resource) (acquired : Bool) :
    Ledger (Shared.setResource hw s resource acquired) h := by
  have logged : Ledger (s.log resource acquired) h :=
    { ledger with freed := fun some => List.mem_cons_of_mem _ (ledger.freed some) }
  cases resource <;> exact { logged with }

theorem setWork (ledger : Ledger s h) (item : WorkItem) (work : Work)
    (scheduled : item = .cqPoll → s.cqPollWork.pending = true → work.pending = true) :
    Ledger (s.setWork item work) h := by
  cases item with
  | cqPoll =>
      exact { ledger with
        polled := fun waiting => (ledger.polled waiting).imp_right (.imp_left (scheduled rfl)) }
  | reset => exact { ledger with }

end Ledger

/-- A neutral operation leaves its thread and the ledger as they are. -/
theorem exec_neutral {op : Op} (neutral : op.neutral = true) {choice : Choice} {s s' : Shared δ} {own own' : Own}
    {reply : Reply op} (executed : exec hw choice s own op = some (reply, s', own')) {h : Share} (ledger : Ledger s h) :
    own' = own ∧ Ledger s' h := by
  cases op with
  | readl register | writel register value | storeSubmission slot submission =>
      cases executed
      exact ⟨rfl, ledger.setHardware _⟩
  | loadCompletion slot | fields | load index key | next index bound | readCompleted file | readMapping mapping
  | readRefs object | readClosing file | readPending | inspect | copyFromUser | copyToUser record =>
      cases executed
      exact ⟨rfl, ledger⟩
  | assign assignment =>
      cases executed
      exact ⟨rfl, ledger.setFields (removing_assign _ _)⟩
  | readGeneration request =>
      cases executed
      exact ⟨rfl, ledger.peek request⟩
  | incNextCommandId | getDevice | putDevice | freeDevice | bind =>
      cases executed
      exact ⟨rfl, { ledger with }⟩
  | schedule item =>
      cases executed
      exact ⟨rfl, ledger.setWork item _ fun _ _ => rfl⟩
  | finishWork item =>
      cases executed
      refine ⟨rfl, ledger.setWork item _ ?_⟩
      rintro rfl scheduled
      exact scheduled
  | cancelSync item =>
      cases item with
      | cqPoll => cases neutral
      | reset =>
          simp only [exec] at executed
          split at executed
          · cases executed
          · cases executed
            exact ⟨rfl, ledger.setWork .reset _ nofun⟩
  | irqReturn vector =>
      cases executed
      cases vector <;> exact ⟨rfl, { ledger with }⟩
  | allocDevice =>
      simp only [exec] at executed
      split at executed
      · cases executed
        exact ⟨rfl, ledger⟩
      · cases executed
        exact ⟨rfl, { ledger with }⟩
  | acquire resource =>
      simp only [exec] at executed
      split at executed
      · cases executed
        exact ⟨rfl, ledger⟩
      · cases executed
        exact ⟨rfl, ledger.setResource resource true⟩
  | hold resource =>
      cases executed
      exact ⟨rfl, ledger.setResource resource true⟩
  | release resource =>
      simp only [exec] at executed
      split at executed
      · cases executed
        exact ⟨rfl, ledger.setResource resource false⟩
      · cases executed
  | allocCoherent resource =>
      simp only [exec] at executed
      split at executed
      · cases executed
        exact ⟨rfl, ledger⟩
      · cases executed
        exact ⟨rfl, ledger.setResource resource true⟩
  | waitForTest test =>
      simp only [exec] at executed
      split at executed
      · cases executed
        exact ⟨rfl, ledger.setFields (removing_assign _ _)⟩
      · split at executed
        · cases executed
          exact ⟨rfl, ledger⟩
        · cases executed
  | _ => cases neutral

theorem safe_neutral {op : Op} {post : Reply op → Share → Prop} (neutral : op.neutral = true)
    (next : ∀ reply, post reply share) : Safe hw post share (call op) := by
  apply safe_op
  intro choice s own rest reply s' own' agrees ledger executed
  obtain ⟨rfl, kept⟩ := exec_neutral neutral executed ledger
  exact ⟨share, agrees, kept, next reply⟩

end Programs

section Locking
variable {share : Share}

theorem safe_lock {lock : Lock} {post : Unit → Share → Prop} (next : post () (share.push (.holding ⟨lock, []⟩))) :
    Safe hw post share (call (.lock lock)) := by
  apply safe_op
  intro choice s own rest reply s' own' agrees ledger executed
  simp only [exec] at executed
  split at executed
  · cases executed
  · next free =>
      cases executed
      refine ⟨_, agrees.acquire lock, ?_, next⟩
      rw [Share.push_add]
      exact ledger.lock (eq_false_of_ne_true free)

theorem safe_unlock {lock : Lock} {sights : List Sight} {post : Unit → Share → Prop} (proper : share.Proper)
    (next : post () share) : Safe hw post (share.push (.holding ⟨lock, sights⟩)) (call (.unlock lock)) := by
  apply safe_op
  intro choice s own rest reply s' own' agrees ledger executed
  cases executed
  rw [Share.push_add] at ledger
  have alone : lock ∉ share.locks := by
    intro member
    obtain ⟨holding, inside, same⟩ := Multiset.mem_map.mp member
    exact ledger.exclusive holding (Multiset.mem_add.mpr (.inl inside)) same
  exact ⟨share, agrees.release alone proper, ledger.unlock, next⟩

/-- What is seen under a lock changes, and the lock stays. -/
theorem Agrees.resee {own : Own} {lock : Lock} {before after : List Sight}
    (agrees : Agrees own (share.push (.holding ⟨lock, before⟩))) : Agrees own (share.push (.holding ⟨lock, after⟩)) :=
  agrees.keep rfl ⟨by simp [Share.locks, Share.push], rfl, rfl, le_rfl, le_rfl, le_rfl⟩

/-- An entry that is loaded under the lock of its table stays in sight. -/
theorem safe_load {index : Index} {key : U32} {sights : List Sight} {post : Option Nat → Share → Prop}
    (absent : post none (share.push (.holding ⟨index.lock, sights⟩)))
    (found : ∀ value, post (some value) (share.push (.holding ⟨index.lock, ⟨index, key, value, false⟩ :: sights⟩))) :
    Safe hw post (share.push (.holding ⟨index.lock, sights⟩)) (call (.load index key)) := by
  apply safe_op
  intro choice s own rest reply s' own' agrees ledger executed
  cases executed
  cases present : (s.tables index).lookup key with
  | none => exact ⟨_, agrees, ledger, absent⟩
  | some value =>
      have holds : Sight.Holds s ⟨index, key, value, false⟩ := ⟨present, nofun⟩
      rw [Share.push_add] at ledger
      refine ⟨_, agrees.resee, ?_, found value⟩
      rw [Share.push_add]
      exact ledger.see holds rfl

/-- The only reference of an entry in sight is the one of its table. -/
theorem safe_readRefs {index : Index} {key : U32} {value : Nat} {sights : List Sight} {post : Nat → Share → Prop}
    (seen : ⟨index, key, value, false⟩ ∈ sights)
    (more : ∀ refs, refs ≠ 1 → post refs (share.push (.holding ⟨index.lock, sights⟩)))
    (sole : post 1 (share.push (.holding ⟨index.lock, ⟨index, key, value, true⟩ :: sights⟩))) :
    Safe hw post (share.push (.holding ⟨index.lock, sights⟩)) (call (.readRefs (index.object value))) := by
  apply safe_op
  intro choice s own rest reply s' own' agrees ledger executed
  cases executed
  by_cases one : s.book.refs (index.object value) = 1
  · rw [Share.push_add] at ledger
    have before := (ledger.sights _ (Multiset.mem_cons_self ..) _ seen).1
    have holds : Sight.Holds s ⟨index, key, value, true⟩ := ⟨before.1, fun _ => one⟩
    refine ⟨_, agrees.resee, ?_, one ▸ sole⟩
    rw [Share.push_add]
    exact ledger.see holds rfl
  · exact ⟨_, agrees, ledger, more _ one⟩

end Locking

section References
variable {share : Share}

theorem Ledger.touch_ref {s : Shared δ} {h : Share} {object : Object} (ledger : Ledger s (h.push (.ref object))) :
    s.touch (.put object) = s := by
  have live := ledger.balanced.live_of_held (by rw [Share.held_ref]; exact Multiset.mem_cons_self object _)
  cases object with
  | request request => exact ledger.touch_live rfl live
  | mapping mapping => rfl
  | file file => rfl

theorem safe_put {object : Object} {post : Bool → Share → Prop} (more : post false share)
    (last : post true (share.push (.dying object))) : Safe hw post (share.push (.ref object)) (call (.put object)) := by
  apply safe_op
  intro choice s own rest reply s' own' agrees ledger executed
  rw [Share.push_add] at ledger
  simp only [exec, ledger.touch_ref] at executed
  cases executed
  have held := Share.held_ref share object
  by_cases one : s.book.refs object = 1
  · rw [decide_eq_true one]
    refine ⟨share.push (.dying object), agrees.give held ⟨rfl, rfl, rfl, le_rfl, le_rfl, le_rfl⟩, ?_, last⟩
    rw [Share.push_add]
    exact ledger.put_last one
  · rw [decide_eq_false one]
    exact ⟨share, agrees.give held ⟨rfl, rfl, rfl, le_rfl, le_rfl, le_rfl⟩, ledger.put_more one, more⟩

/-- A thread that sees an entry takes a reference to its object. -/
theorem safe_get {lock : Lock} {sights : List Sight} {sight : Sight} {post : Unit → Share → Prop} (seen : sight ∈ sights)
    (shared : ∀ other ∈ sights, other.sole = true → other.object ≠ sight.object)
    (next : post () ((share.push (.holding ⟨lock, sights⟩)).push (.ref sight.object))) :
    Safe hw post (share.push (.holding ⟨lock, sights⟩)) (call (.get sight.object)) := by
  apply safe_op
  intro choice s own rest reply s' own' agrees ledger executed
  rw [Share.push_add] at ledger
  have untouched : s.touch (.get sight.object) = s := by
    have live := ledger.live_entry (ledger.sights _ (Multiset.mem_cons_self ..) sight seen).1.1
    change 0 < s.book.refs sight.object at live
    cases object : sight.object with
    | request request => exact ledger.touch_live rfl (object ▸ live)
    | mapping mapping => rfl
    | file file => rfl
  simp only [exec, untouched] at executed
  cases executed
  refine ⟨_, agrees.take (Share.held_ref ..) ⟨rfl, rfl, rfl, le_rfl, le_rfl, le_rfl⟩, ?_, next⟩
  rw [Share.push_add, Share.push_add]
  exact ledger.get_of_sight seen shared

theorem Ledger.get_draft {s : Shared δ} {h : Share} {draft : Draft} (ledger : Ledger s (h.push (.draft draft))) :
    Ledger { s with book := s.book.get (.request draft.request) }
      ((h.push (.draft draft)).push (.ref (.request draft.request))) := by
  apply ledger.get ledger.draft_live
  · intro creation _
    cases creation <;> exact Object.noConfusion
  · apply ledger.not_sole
    rw [Share.held_draft, Multiset.count_cons_self]
    omega

/-- A thread takes another reference to its draft. -/
theorem safe_get_draft {draft : Draft} {post : Unit → Share → Prop}
    (next : post () ((share.push (.draft draft)).push (.ref (.request draft.request)))) :
    Safe hw post (share.push (.draft draft)) (call (.get (.request draft.request))) := by
  apply safe_op
  intro choice s own rest reply s' own' agrees ledger executed
  rw [Share.push_add] at ledger
  have untouched : s.touch (.get (.request draft.request)) = s := ledger.touch_live rfl ledger.draft_live
  simp only [exec, untouched] at executed
  cases executed
  refine ⟨_, agrees.take (Share.held_ref ..) ⟨rfl, rfl, rfl, le_rfl, le_rfl, le_rfl⟩, ?_, next⟩
  rw [Share.push_add, Share.push_add]
  exact ledger.get_draft

theorem Reference.touches (reference : Reference) : (Op.putReference reference).touches = some (reference.request, false) := by
  cases reference <;> rfl

/-- A reference that is dropped leaves the rest of its record. -/
theorem drops_referent {s : Shared δ} {reference : Reference} {object : Object}
    (found : s.referent reference = some object) :
    ∃ record, s.dropReference reference = s.setRequest reference.request record ∧
      Ledger.Drops (s.requests reference.request) record object := by
  cases reference with
  | source request =>
      obtain ⟨mapping, same, rfl⟩ := Option.map_eq_some_iff.mp found
      refine ⟨_, rfl, ?_, .inl rfl, .inr rfl, .inl rfl, rfl, rfl, rfl, rfl⟩
      intro object
      simp [Request.links, Reference.request, same, List.count_cons, eq_comm (a := object)]
  | destination request =>
      obtain ⟨mapping, same, rfl⟩ := Option.map_eq_some_iff.mp found
      refine ⟨_, rfl, ?_, .inl rfl, .inl rfl, .inr rfl, rfl, rfl, rfl, rfl⟩
      intro object
      simp [Request.links, Reference.request, same, List.count_cons, eq_comm (a := object)]
      omega
  | owner request =>
      obtain ⟨file, same, rfl⟩ := Option.map_eq_some_iff.mp found
      refine ⟨_, rfl, ?_, .inr rfl, .inl rfl, .inl rfl, rfl, rfl, rfl, rfl⟩
      intro object
      simp [Request.links, Reference.request, same, List.count_cons, eq_comm (a := object)]
      omega

theorem referent_drop (s : Shared δ) (reference : Reference) : (s.dropReference reference).referent reference = none := by
  cases reference <;> simp [Shared.dropReference, Shared.referent, setRequest_self]

theorem Ledger.Drops.mapping_or_file {before after : Request} {target : Object} (drops : Drops before after target) :
    (∃ mapping, target = .mapping mapping) ∨ ∃ file, target = .file file := by
  have member := drops.target_mem
  cases target with
  | request number => simp [Request.links] at member
  | mapping mapping => exact .inl ⟨mapping, rfl⟩
  | file file => exact .inr ⟨file, rfl⟩

/-- The tokens of a dying request that has put one of its references. -/
def Share.clears (share : Share) (reference : Reference) : Share :=
  (share.push (.cleared reference)).push (.dying (.request reference.request))

theorem clears_add (share rest : Share) (reference : Reference) :
    share.clears reference + rest = (share + rest).clears reference := by
  rw [Share.clears, Share.push_add, Share.push_add, Share.clears]

theorem Ledger.clears {s : Shared δ} {reference : Reference}
    (ledger : Ledger s (share.push (.dying (.request reference.request)))) (gone : s.referent reference = none) :
    Ledger s (share.clears reference) := by
  rw [Share.clears, Share.push_comm]
  exact ledger.known_cleared ledger.dying_ended gone

/-- The request that dies puts a reference; the last reference to a mapping is one of an orphan. -/
theorem safe_putReference {reference : Reference} {post : Option Object → Share → Prop}
    (more : post none (share.clears reference))
    (mapping : ∀ mapping, post (some (.mapping mapping))
      (((share.clears reference).push (.dying (.mapping mapping))).push .orphan))
    (file : ∀ file, post (some (.file file)) ((share.clears reference).push (.dying (.file file)))) :
    Safe hw post (share.push (.dying (.request reference.request))) (call (.putReference reference)) := by
  apply safe_op
  intro choice s own rest reply s' own' agrees ledger executed
  rw [Share.push_add] at ledger
  simp only [exec, ledger.touch_dying reference.touches] at executed
  cases found : s.referent reference with
  | none =>
      rw [found] at executed
      cases executed
      refine ⟨share.clears reference, agrees.keep rfl ⟨rfl, rfl, rfl, le_rfl, le_rfl, le_rfl⟩, ?_, more⟩
      rw [clears_add]
      exact ledger.clears found
  | some object =>
      rw [found] at executed
      cases executed
      obtain ⟨record, same, drops⟩ := drops_referent found
      have dropped := ledger.drop_link drops
      have gone : (s.setRequest reference.request record).referent reference = none := by
        rw [← same]
        exact referent_drop s reference
      rw [same]
      by_cases last : s.book.refs object = 1
      · rw [if_pos last] at dropped ⊢
        have cleared : Ledger { s.setRequest reference.request record with book := s.book.put object }
            (((share + rest).clears reference).push (.dying object)) := by
          have other : Ledger { s.setRequest reference.request record with book := s.book.put object }
              (((share + rest).push (.dying object)).push (.dying (.request reference.request))) := by
            rw [Share.push_comm]
            exact dropped
          have after := other.clears gone
          rw [Share.clears, Share.push_comm _ (.dying object), Share.push_comm _ (.dying object)] at after
          exact after
        rcases drops.mapping_or_file with ⟨number, rfl⟩ | ⟨number, rfl⟩
        · have early := ledger.orphaned drops.target_mem last
          refine ⟨_, ?_, ?_, mapping number⟩
          · exact agrees.keep rfl ⟨rfl, rfl, rfl, le_rfl, le_rfl, le_rfl⟩
          · rw [Share.push_add, Share.push_add, clears_add]
            exact cleared.known_orphan early
        · refine ⟨_, ?_, ?_, file number⟩
          · exact agrees.keep rfl ⟨rfl, rfl, rfl, le_rfl, le_rfl, le_rfl⟩
          · rw [Share.push_add, clears_add]
            exact cleared
      · rw [if_neg last] at dropped ⊢
        refine ⟨share.clears reference, agrees.keep rfl ⟨rfl, rfl, rfl, le_rfl, le_rfl, le_rfl⟩, ?_, more⟩
        rw [clears_add]
        exact Ledger.clears dropped gone

/-- What a thread knows about links is not part of what it has of its own. -/
theorem Agrees.unclear {own : Own} {reference : Reference} (agrees : Agrees own (share.push (.cleared reference))) :
    Agrees own share :=
  agrees.keep rfl ⟨rfl, rfl, rfl, le_rfl, le_rfl, le_rfl⟩

theorem Agrees.undying {own : Own} {object : Object} (agrees : Agrees own (share.push (.dying object))) :
    Agrees own share :=
  agrees.keep rfl ⟨rfl, rfl, rfl, le_rfl, le_rfl, le_rfl⟩

theorem safe_free_file {file : Nat} {post : Unit → Share → Prop} (next : post () share) :
    Safe hw post (share.push (.dying (.file file))) (call (.free (.file file))) := by
  apply safe_op
  intro choice s own rest reply s' own' agrees ledger executed
  rw [Share.push_add] at ledger
  cases executed
  exact ⟨share, agrees.undying, ledger.free_file, next⟩

/-- A request is freed after it has put all its references. -/
theorem safe_free_request {request : Nat} {post : Unit → Share → Prop} (next : post () share) :
    Safe hw post (((share.push (.cleared (.source request))).push (.cleared (.destination request))).clears (.owner request))
      (call (.free (.request request))) := by
  apply safe_op
  intro choice s own rest reply s' own' agrees ledger executed
  rw [clears_add, Share.push_add, Share.push_add] at ledger
  have gone : ∀ reference : Reference, reference.request = request → s.referent reference = none := by
    intro reference same
    refine (ledger.resting.1 reference ?_).2
    subst same
    cases reference with
    | source number => exact Multiset.mem_cons_of_mem (Multiset.mem_cons_of_mem (Multiset.mem_cons_self ..))
    | destination number => exact Multiset.mem_cons_of_mem (Multiset.mem_cons_self ..)
    | owner number => exact Multiset.mem_cons_self ..
  have untouched : s.touch (.free (.request request)) = s := Ledger.touch_dying ledger rfl
  simp only [exec, untouched] at executed
  cases executed
  refine ⟨share, agrees.undying.unclear.unclear.unclear, ?_, next⟩
  have freed := Ledger.free_request ledger gone
  exact ((freed.drop trivial).drop trivial).drop trivial

/-- A mapping is released where the thread may sleep. -/
theorem safe_free_mapping {mapping : Nat} {post : Unit → Share → Prop} (sleeps : share.Sleeps) (next : post () share) :
    Safe hw post (share.push (.dying (.mapping mapping))) (call (.free (.mapping mapping))) := by
  apply safe_op
  intro choice s own rest reply s' own' agrees ledger executed
  cases executed
  rw [Share.push_add] at ledger
  have agreed : Agrees own share := agrees.keep rfl ⟨rfl, rfl, rfl, le_rfl, le_rfl, le_rfl⟩
  exact ⟨share, agreed, ledger.free_mapping (.inl (agreed.calm sleeps)), next⟩

/-- An orphan is released wherever the request that had it ends. -/
theorem safe_free_orphan {mapping : Nat} {post : Unit → Share → Prop} (next : post () share) :
    Safe hw post ((share.push (.dying (.mapping mapping))).push .orphan) (call (.free (.mapping mapping))) := by
  apply safe_op
  intro choice s own rest reply s' own' agrees ledger executed
  cases executed
  rw [Share.push_add, Share.push_add] at ledger
  have early := ledger.orphans (Nat.succ_pos _)
  have known : Ledger s ((share + rest).push (.dying (.mapping mapping))) := ledger.drop trivial
  exact ⟨share, agrees.keep rfl ⟨rfl, rfl, rfl, le_rfl, le_rfl, le_rfl⟩, known.free_mapping (.inr early), next⟩

/-- A new object that nobody has seen is discarded. -/
theorem safe_discard {creation : Creation} {post : Unit → Share → Prop} (next : post () share) :
    Safe hw post (share.push (.created creation)) (call (.discard creation.object)) := by
  apply safe_op
  intro choice s own rest reply s' own' agrees ledger executed
  cases executed
  rw [Share.push_add] at ledger
  exact ⟨share, agrees.give (Share.held_created ..) ⟨rfl, rfl, rfl, le_rfl, le_rfl, le_rfl⟩, ledger.discard, next⟩

end References
end VamsSoc.Driver
