/-
This file has what new objects, their links, and the life of a file do to the ledger.
-/

import VamsSoc.Proof.Driver.Tables

namespace VamsSoc.Driver
open Library Abi

variable {δ : Type}

/-- A request may lose tokens that only say what its thread knows. -/
theorem Standing.Sound.shed {standing : Standing} {onTime : Prop} (sound : standing.Sound onTime)
    {fresh bare unlisted shown reaped : Nat} (fewerFresh : fresh ≤ standing.fresh) (fewerBare : bare ≤ standing.bare)
    (fewerUnlisted : unlisted ≤ standing.unlisted) (fewerShown : shown ≤ standing.shown)
    (fewerReaped : reaped ≤ standing.reaped) :
    ({ standing with fresh, bare, unlisted, shown, reaped } : Standing).Sound onTime := by
  refine { sound with untracked := ?_, fresh := ?_, bare := ?_, reaping := ?_ }
  · intro new
    obtain ⟨inDevice, retiring, notShown, open_⟩ := sound.untracked new
    dsimp only
    exact ⟨inDevice, retiring, by omega, open_⟩
  · exact fewerFresh.trans sound.fresh
  · exact fewerBare.trans sound.bare
  · have reaping := sound.reaping
    dsimp only
    omega

namespace Ledger
variable {s : Shared δ} {h : Share}

/-- The tokens of `h'` are some of the tokens of `h`, as far as requests are concerned. -/
structure Sheds (h h' : Share) : Prop where
  fresh : h'.fresh ≤ h.fresh
  bare : h'.bare ≤ h.bare
  drafts : h'.drafts ≤ h.drafts
  shown : h'.shown ≤ h.shown
  reaped : h'.reaped ≤ h.reaped
  retiring : h'.retiring = h.retiring
  announcing : h'.announcing = h.announcing

theorem Sheds.standing {h' : Share} (sheds : Sheds h h') (request : Nat) :
    s.standing h' request = { s.standing h request with
      fresh := h'.fresh.count request
      bare := h'.bare.count request
      unlisted := (h'.drafts.map Draft.request).count request
      shown := h'.shown.count request
      reaped := h'.reaped.count request } := by
  simp [Shared.standing, sheds.retiring, sheds.announcing]

theorem Sheds.sound {h' : Share} (sheds : Sheds h h') {request : Nat} {onTime : Prop}
    (sound : (s.standing h request).Sound onTime) : (s.standing h' request).Sound onTime := by
  rw [sheds.standing]
  exact sound.shed (Multiset.count_le_of_le _ sheds.fresh) (Multiset.count_le_of_le _ sheds.bare)
    (Multiset.count_le_of_le _ (Multiset.map_le_map sheds.drafts)) (Multiset.count_le_of_le _ sheds.shown)
    (Multiset.count_le_of_le _ sheds.reaped)

theorem Sheds.blank {h' : Share} (sheds : Sheds h h') {request : Nat} (blank : s.standing h request = {}) :
    s.standing h' request = {} := by
  have fresh : h.fresh.count request = 0 := congrArg Standing.fresh blank
  have bare : h.bare.count request = 0 := congrArg Standing.bare blank
  have unlisted : (h.drafts.map Draft.request).count request = 0 := congrArg Standing.unlisted blank
  have shown : h.shown.count request = 0 := congrArg Standing.shown blank
  have reaped : h.reaped.count request = 0 := congrArg Standing.reaped blank
  have fewerFresh := Multiset.count_le_of_le request sheds.fresh
  have fewerBare := Multiset.count_le_of_le request sheds.bare
  have fewerUnlisted := Multiset.count_le_of_le request (Multiset.map_le_map (f := Draft.request) sheds.drafts)
  have fewerShown := Multiset.count_le_of_le request sheds.shown
  have fewerReaped := Multiset.count_le_of_le request sheds.reaped
  rw [sheds.standing, blank]
  simp only [Standing.mk.injEq, true_and, and_true]
  omega

/-- A token that only says what a thread knows. -/
def Idle : Token → Prop
  | .fresh _ | .bare _ | .shown _ | .reaped _ | .removes | .orphan | .shut _ | .cleared _ => True
  | _ => False

theorem sheds_push {token : Token} (idle : Idle token) : Sheds (h.push token) h := by
  cases token <;>
    first
    | exact idle.elim
    | constructor <;> simp [Share.push, Multiset.le_cons_self]

/-- A thread may forget what it knows. -/
theorem drop {token : Token} (ledger : Ledger s (h.push token)) (idle : Idle token) : Ledger s h := by
  have sheds := sheds_push (h := h) idle
  have requests := fun request => sheds.sound (ledger.requests request)
  have blank := fun request outside => (ledger.blankRequests request outside).imp_right sheds.blank
  cases token with
  | fresh request => exact { ledger with requests, blankRequests := blank }
  | bare request => exact { ledger with requests, blankRequests := blank }
  | shown request => exact { ledger with requests, blankRequests := blank }
  | reaped request => exact { ledger with requests, blankRequests := blank }
  | removes => exact { ledger with removing := fun some => ledger.removing (Nat.lt_succ_of_lt some) }
  | orphan => exact { ledger with orphans := fun some => ledger.orphans (Nat.lt_succ_of_lt some) }
  | shut file => exact { ledger with shut := fun other member => ledger.shut other (Multiset.mem_cons_of_mem member) }
  | cleared reference =>
      exact { ledger with
        resting := ⟨fun other member => ledger.resting.1 other (Multiset.mem_cons_of_mem member), ledger.resting.2⟩ }
  | _ => exact idle.elim

/-- The first reference to a request becomes a plain one. -/
theorem undraft {draft : Draft} (ledger : Ledger s (h.push (.draft draft))) :
    Ledger s (h.push (.ref (.request draft.request))) := by
  have sheds : Sheds (h.push (.draft draft)) (h.push (.ref (.request draft.request))) := by
    constructor <;> simp [Share.push, Multiset.le_cons_self]
  exact { ledger with
    balanced := by
      rw [Share.held_ref, ← Share.held_draft]
      exact ledger.balanced
    drafts := fun other member => ledger.drafts other (Multiset.mem_cons_of_mem member)
    requests := fun request => sheds.sound (ledger.requests request)
    blankRequests := fun request outside => (ledger.blankRequests request outside).imp_right sheds.blank }

/-- The reference of a closed descriptor becomes a plain one. -/
theorem unclose {file : Nat} (ledger : Ledger s (h.push (.closes file))) : Ledger s (h.push (.ref (.file file))) :=
  { ledger with
    balanced := by
      rw [Share.held_ref, ← Share.held_closes]
      exact ledger.balanced
    closes := fun other member => ledger.closes other (Multiset.mem_cons_of_mem member) }

/-- A thread that finds nothing to wait for, or a removal, need not look again. -/
theorem unpoll (ledger : Ledger s (h.push .polls))
    (nothing : s.fields.removing = true ∨ s.cqPollWork.pending = true ∨ s.pendingRequests ≤ 0) : Ledger s h :=
  { ledger with
    polled := by
      intro waiting
      rcases nothing with removing | scheduled | none
      · exact .inl removing
      · exact .inr (.inl scheduled)
      · have pending : s.pendingRequests + (h.uncounted : Int) = ((s.tables .device).size : Int) + (h.erased : Int) :=
          ledger.pending
        refine .inr (.inr ?_)
        omega }

theorem known_removing (ledger : Ledger s h) (removing : s.fields.removing = true) : Ledger s (h.push .removes) :=
  { ledger with removing := fun _ => removing }

theorem known_orphan (ledger : Ledger s h) (early : s.history.earlyCloses ≠ []) : Ledger s (h.push .orphan) :=
  { ledger with orphans := fun _ => early }

theorem Standing.Sound.show (standing : Standing) {onTime : Prop} (sound : standing.Sound onTime)
    (tracked : standing.tracked = true) : ({ standing with shown := standing.shown + 1 } : Standing).Sound onTime := by
  refine { sound with untracked := ?_ }
  intro untracked
  exact (Bool.false_ne_true (untracked.symm.trans tracked)).elim

/-- A request that is done was in the device table. -/
theorem known_shown (ledger : Ledger s h) {request : Nat} (done : (s.requests request).done = true) :
    Ledger s (h.push (.shown request)) := by
  have tracked : (s.requests request).tracked = true := by
    by_contra new
    have open_ := ((ledger.requests request).untracked ((Bool.not_eq_true _).mp new)).2.2.2
    exact Bool.false_ne_true (open_.symm.trans done)
  have inside : request < s.requestCount := by
    by_contra outside
    rw [(ledger.blankRequests request (by omega)).1] at done
    cases done
  have elsewhere : ∀ other, other ≠ request → s.standing (h.push (.shown request)) other = s.standing h other := by
    intro other differs
    simp [Shared.standing, Share.push, Multiset.count_cons_of_ne differs]
  exact { ledger with
    requests := by
      refine ledger.requests_at _ elsewhere id ?_
      have after := Standing.Sound.show _ (ledger.requests request) tracked
      simpa [Shared.standing, Share.push] using after
    blankRequests := ledger.blank_at elsewhere (fun _ _ => rfl) inside }

theorem count_held_draft {draft : Draft} (member : draft ∈ h.drafts) : 0 < h.held.count (.request draft.request) := by
  rw [Multiset.count_pos]
  simp only [Share.held, Multiset.mem_add]
  refine .inl (.inr (Multiset.mem_map_of_mem _ ?_))
  exact Multiset.mem_add.mpr (.inl (Multiset.mem_add.mpr (.inl (Multiset.mem_map_of_mem _ member))))

theorem draft_live {draft : Draft} (ledger : Ledger s (h.push (.draft draft))) :
    0 < s.book.refs (.request draft.request) := by
  apply ledger.balanced.live_of_held
  rw [Share.held_draft]
  exact Multiset.mem_cons_self ..

/-- A dying request has no references and is in no table. -/
theorem dying_request {request : Nat} (ledger : Ledger s (h.push (.dying (.request request)))) :
    request < s.requestCount ∧ s.fileEntries request = 0 ∧ h.held.count (.request request) = 0 := by
  have once := ledger.balanced.once (.request request)
  have counted := ledger.balanced.counted (.request request)
  change (Multiset.count _ (_ ::ₘ h.dying)) + _ = _ at once
  rw [Multiset.count_cons_self] at once
  split at once
  · next ended =>
      refine ⟨?_, ?_⟩
      · have allocated := ended.1
        rw [ledger.requestNumbers] at allocated
        exact of_decide_eq_true allocated
      · change _ = (_ + s.fileEntries request) + _ + h.held.count (.request request) at counted
        omega
  · omega

theorem dying_ended {request : Nat} (ledger : Ledger s (h.push (.dying (.request request)))) : s.Ended request := by
  have once := ledger.balanced.once (.request request)
  change (Multiset.count _ (_ ::ₘ h.dying)) + _ = _ at once
  rw [Multiset.count_cons_self] at once
  split at once
  · next ended => exact ended
  · omega

theorem known_cleared (ledger : Ledger s h) {reference : Reference} (ended : s.Ended reference.request)
    (gone : s.referent reference = none) : Ledger s (h.push (.cleared reference)) :=
  { ledger with
    resting := by
      refine ⟨fun other member => ?_, ledger.resting.2⟩
      rcases Multiset.mem_cons.mp member with rfl | before
      · exact ⟨ended, gone⟩
      · exact ledger.resting.1 other before }

/-- What a request keeps when one of its links is dropped. -/
structure Drops (before after : Request) (target : Object) : Prop where
  links : ∀ object, before.links.count object = after.links.count object + if object = target then 1 else 0
  owner : after.owner = before.owner ∨ after.owner = none
  source : after.source = before.source ∨ after.source = none
  destination : after.destination = before.destination ∨ after.destination = none
  tracked : after.tracked = before.tracked
  done : after.done = before.done
  counted : after.counted = before.counted
  commandId : after.commandId = before.commandId

theorem Drops.mapped {before after : Request} {target : Object} (drops : Drops before after target)
    (some : (after.source.isSome || after.destination.isSome) = true) :
    (before.source.isSome || before.destination.isSome) = true := by
  rcases drops.source with source | source <;> rcases drops.destination with destination | destination <;>
    simp_all

/-- A reference that is put does not come back. -/
theorem Drops.referent {request : Nat} {record : Request} {target : Object}
    (drops : Drops (s.requests request) record target) {reference : Reference} (gone : s.referent reference = none) :
    (s.setRequest request record).referent reference = none := by
  by_cases same : reference.request = request
  · subst same
    cases reference with
    | source number =>
        have absent : (s.requests number).source = none := Option.map_eq_none_iff.mp gone
        have after : record.source = none := drops.source.elim (·.trans absent) id
        simp [Shared.referent, setRequest_apply, Reference.request, after]
    | destination number =>
        have absent : (s.requests number).destination = none := Option.map_eq_none_iff.mp gone
        have after : record.destination = none := drops.destination.elim (·.trans absent) id
        simp [Shared.referent, setRequest_apply, Reference.request, after]
    | owner number =>
        have absent : (s.requests number).owner = none := Option.map_eq_none_iff.mp gone
        have after : record.owner = none := drops.owner.elim (·.trans absent) id
        simp [Shared.referent, setRequest_apply, Reference.request, after]
  · exact (referent_setRequest_other same).trans gone

theorem Drops.mem {before after : Request} {target object : Object} (drops : Drops before after target)
    (member : object ∈ after.links) : object ∈ before.links := by
  have count := drops.links object
  have present := List.count_pos_iff.mpr member
  exact List.count_pos_iff.mp (by omega)

theorem Drops.target_mem {before after : Request} {target : Object} (drops : Drops before after target) :
    target ∈ before.links := by
  have count := drops.links target
  rw [if_pos rfl] at count
  exact List.count_pos_iff.mp (by omega)

theorem Drops.links_setRequest {request other : Nat} {record : Request} {target object : Object}
    (drops : Drops (s.requests request) record target)
    (member : object ∈ ((s.setRequest request record).requests other).links) : object ∈ (s.requests other).links := by
  rw [setRequest_apply] at member
  split at member
  · next here => exact here ▸ drops.mem member
  · exact member

theorem Drops.fileEntries {request : Nat} {record : Request} {target : Object}
    (drops : Drops (s.requests request) record target) (unlisted : s.fileEntries request = 0) (other : Nat) :
    (s.setRequest request record).fileEntries other = s.fileEntries other := by
  by_cases same : other = request
  · subst same
    rw [unlisted, Shared.fileEntries, setRequest_self]
    rcases drops.owner with kept | none
    · rw [kept]
      exact unlisted
    · rw [none]
  · rw [Shared.fileEntries, Shared.fileEntries, setRequest_apply, if_neg same]
    rfl

theorem Drops.ownerOpen {request : Nat} {record : Request} {target : Object}
    (drops : Drops (s.requests request) record target) (open_ : (s.setRequest request record).ownerOpen request = true) :
    s.ownerOpen request = true := by
  rw [Shared.ownerOpen, setRequest_self] at open_
  rcases drops.owner with kept | none
  · rw [kept] at open_
    exact open_
  · rw [none] at open_
    cases open_

theorem owners_drop {request : Nat} {record : Request} {target : Object} (inside : request < s.requestCount)
    (unlisted : s.fileEntries request = 0) (drops : Drops (s.requests request) record target) (object : Object) :
    s.owners object = (s.setRequest request record).owners object + if object = target then 1 else 0 := by
  have links := linksTo_setRequest record inside object
  have count := drops.links object
  have entries : (s.setRequest request record).entries object = s.entries object := by
    cases object with
    | request number =>
        change _ + (s.setRequest request record).fileEntries number = _ + s.fileEntries number
        rw [drops.fileEntries unlisted]
        rfl
    | mapping number => rfl
    | file number => rfl
  rw [Shared.owners, Shared.owners, entries]
  omega

theorem Standing.Sound.unlink (standing : Standing) {onTime : Prop} (sound : standing.Sound onTime) {mapped open_ : Bool}
    (fewer : mapped = true → standing.mapped = true) (closes : open_ = true → standing.ownerOpen = true) :
    ({ standing with mapped, ownerOpen := open_ } : Standing).Sound onTime := by
  refine { sound with bare := ?_, announced := ?_, kept := ?_ }
  · have bare := sound.bare
    dsimp only
    cases mapped with
    | false => exact bare.trans (by split <;> simp)
    | true =>
        rw [fewer rfl] at bare
        exact bare
  · exact fun done open_ => sound.announced done (closes open_)
  · exact fun early tracked uncounted open_ => sound.kept early tracked uncounted (closes open_)

/-- A dying request drops a link; the last one leaves its target to be freed. -/
theorem drop_link {request : Nat} {record : Request} {target : Object}
    (ledger : Ledger s (h.push (.dying (.request request)))) (drops : Drops (s.requests request) record target) :
    Ledger { s.setRequest request record with book := s.book.put target }
      { h.push (.dying (.request request)) with
        dying := if s.book.refs target = 1 then target ::ₘ .request request ::ₘ h.dying
          else .request request ::ₘ h.dying } := by
  obtain ⟨inside, unlisted, unheld⟩ := ledger.dying_request
  have linked := linksTo_pos _ inside drops.target_mem
  have notHeld : ∀ draft ∈ h.drafts, draft.request ≠ request := by
    rintro draft member rfl
    have held := count_held_draft member
    omega
  have elsewhere : ∀ other, other ≠ request →
      (s.setRequest request record).standing (h.push (.dying (.request request))) other =
        s.standing (h.push (.dying (.request request))) other := fun other => standing_setRequest
  exact { ledger with
    balanced := by
      have taken := ledger.balanced.take (owners_drop inside unlisted drops)
      exact taken.put
    created := by
      apply ledger.created_of_refs
      intro creation member
      refine Function.update_of_ne ?_ ..
      rintro rfl
      have alone := (ledger.created_alone member).1
      change _ + s.linksTo _ = 0 at alone
      omega
    belongs := by
      intro index key value present
      change (s.tables index).lookup key = some value at present
      have before := ledger.belongs index key value present
      cases index with
      | device => trivial
      | requests file =>
          have owner : (s.requests value).owner = some file := before
          have differs : value ≠ request := by
            rintro rfl
            rw [fileEntries_eq owner] at unlisted
            have count := Table.count_pos.mpr ⟨key, present⟩
            omega
          change ((s.setRequest request record).requests value).owner = some file
          rw [setRequest_apply, if_neg differs]
          exact before
      | mappings file => exact before
    named := ledger.named_setRequest drops.commandId
    drafts := by
      intro draft member
      change ((s.setRequest request record).requests draft.request).owner = _ ∧
        ((s.setRequest request record).requests draft.request).commandId = _
      rw [setRequest_apply, if_neg (notHeld draft member)]
      exact ledger.drafts draft member
    sights := by
      apply ledger.sights_of_refs { s.setRequest request record with book := s.book.put target } rfl
      intro holding member sight seen sole
      exact Function.update_of_ne (ledger.not_sole (Nat.add_pos_left linked _) holding member sight seen sole) ..
    requests := by
      refine ledger.requests_at _ elsewhere id ?_
      have after := Standing.Sound.unlink _ (ledger.requests request) drops.mapped drops.ownerOpen
      have standing : (s.setRequest request record).standing (h.push (.dying (.request request))) request =
          { s.standing (h.push (.dying (.request request))) request with
            mapped := record.source.isSome || record.destination.isSome
            ownerOpen := (s.setRequest request record).ownerOpen request } := by
        simp only [Shared.standing, setRequest_self, drops.tracked, drops.done, drops.counted,
          drops.fileEntries unlisted]
        rfl
      change ((s.setRequest request record).standing (h.push (.dying (.request request))) request).Sound _
      rw [standing]
      exact after
    blankRequests := ledger.blank_at elsewhere (fun other differs => Function.update_of_ne differs ..) inside
    completed := ledger.completed_setRequest drops.counted
    owing := ledger.owing_setRequest drops.done.trans
    linked := fun onTime other mapping member => ledger.linked onTime other mapping (drops.links_setRequest member)
    closed := fun onTime file closed other mapping member =>
      ledger.closed onTime file closed other mapping (drops.links_setRequest member)
    resting := by
      refine ledger.resting_of ?_ (fun _ _ => drops.referent) (fun _ => rfl)
      exact fun other ended => ended_put ended target }

theorem linksTo_of_mem (ledger : Ledger s h) {request : Nat} {object : Object}
    (link : object ∈ (s.requests request).links) : 0 < s.linksTo object := by
  refine linksTo_pos request ?_ link
  by_contra outside
  rw [(ledger.blankRequests request (by omega)).1] at link
  cases link

/-- Only a file that was closed under its requests leaves a mapping to one of them. -/
theorem orphaned (ledger : Ledger s h) {request mapping : Nat} (link : .mapping mapping ∈ (s.requests request).links)
    (last : s.book.refs (.mapping mapping) = 1) : s.history.earlyCloses ≠ [] := by
  intro onTime
  have entries : 0 < s.entries (.mapping mapping) := ledger.linked onTime request mapping link
  have links := ledger.linksTo_of_mem link
  have counted := ledger.balanced.counted (.mapping mapping)
  change _ = s.entries _ + s.linksTo _ + _ at counted
  omega

/-- A new object that nobody has seen is discarded. -/
theorem discard {creation : Creation} (ledger : Ledger s (h.push (.created creation))) :
    Ledger { s with book := (s.book.put creation.object).free creation.object } h := by
  obtain ⟨one, _⟩ := ledger.created creation (Multiset.mem_cons_self ..)
  have balanced := ledger.balanced
  rw [Share.held_created] at balanced
  have after := balanced.put
  rw [if_pos one] at after
  have refs : ∀ object, object ≠ creation.object →
      ((s.book.put creation.object).free creation.object).refs object = s.book.refs object :=
    fun object differs => Function.update_of_ne differs ..
  exact { ledger with
    balanced := after.free
    created := by
      intro other member
      have alone := (ledger.created_alone (Multiset.mem_cons_of_mem member)).2
      have inside := count_held_created member
      have differs : other.object ≠ creation.object := by
        intro same
        rw [Share.held_created, ← same, Multiset.count_cons_self] at alone
        omega
      obtain ⟨once, kept⟩ := ledger.created other (Multiset.mem_cons_of_mem member)
      refine ⟨(refs _ differs).trans once, kept_of_closing kept _ rfl fun _ => rfl⟩
    sights := by
      apply ledger.sights_of_refs { s with book := (s.book.put creation.object).free creation.object } rfl
      intro holding member sight seen sole
      refine refs _ (ledger.not_sole (Nat.add_pos_right _ ?_) holding member sight seen sole)
      exact count_held_created (Multiset.mem_cons_self ..)
    resting := by
      cases creation <;> exact ledger.resting_of (fun _ => id) (fun _ _ => id) fun _ => rfl }

/-- A count of one is not the count of a new object. -/
theorem refs_allocate (ledger : Ledger s h) {object other : Object} (absent : s.book.allocated object = false)
    (one : s.book.refs other = 1) : (s.book.allocate object).refs other = 1 := by
  have dead := ledger.balanced.blank object absent
  have differs : other ≠ object := by
    rintro rfl
    omega
  exact (Function.update_of_ne differs ..).trans one

theorem sights_allocate (ledger : Ledger s h) {object : Object} (absent : s.book.allocated object = false)
    (later : Shared δ) (tables : later.tables = s.tables) (book : later.book = s.book.allocate object) :
    ∀ holding ∈ h.holdings, ∀ sight ∈ holding.sights, sight.Holds later ∧ sight.index.lock = holding.lock := by
  apply ledger.sights_of_refs later tables
  intro holding member sight seen sole
  have one := (ledger.sights holding member sight seen).1.2 sole
  rw [book, ledger.refs_allocate absent one, one]

section NewMapping
variable (ledger : Ledger s h) (mapping : Mapping)

theorem newMapping_other {number : Nat} (differs : number ≠ s.mappingCount) :
    (s.newMapping mapping).mappings number = s.mappings number := Function.update_of_ne differs ..

theorem newMapping_self : (s.newMapping mapping).mappings s.mappingCount = mapping := Function.update_self ..

include ledger

theorem fresh_mapping : s.book.allocated (.mapping s.mappingCount) = false := by
  rw [ledger.mappingNumbers]
  simp

/-- No table lists the number of the next mapping. -/
theorem unlisted_mapping (file : Nat) : (s.tables (.mappings file)).count s.mappingCount = 0 := by
  by_contra present
  obtain ⟨key, found⟩ := Table.count_pos.mp (Nat.pos_of_ne_zero present)
  have live : 0 < s.book.refs (.mapping s.mappingCount) := ledger.live_entry found
  have none := ledger.balanced.blank _ ledger.fresh_mapping
  omega

/-- No request refers to the next mapping. -/
theorem unlinked_mapping {request number : Nat} (link : .mapping number ∈ (s.requests request).links) :
    number ≠ s.mappingCount := by
  rintro rfl
  have links := ledger.linksTo_of_mem link
  have unowned := ledger.balanced.owners_eq_zero ledger.fresh_mapping
  change _ + s.linksTo _ = 0 at unowned
  omega

/-- The next mapping is in no table, whichever file its record names. -/
theorem count_newMapping (number : Nat) :
    (s.tables (.mappings ((s.newMapping mapping).mappings number).file)).count number =
      (s.tables (.mappings (s.mappings number).file)).count number := by
  by_cases same : number = s.mappingCount
  · rw [same, ledger.unlisted_mapping, ledger.unlisted_mapping]
  · rw [newMapping_other mapping same]

theorem owners_newMapping (object : Object) : (s.newMapping mapping).owners object = s.owners object := by
  have entries : (s.newMapping mapping).entries object = s.entries object := by
    cases object with
    | mapping number => exact ledger.count_newMapping mapping number
    | request number | file number => rfl
  rw [Shared.owners, Shared.owners, entries]
  rfl

theorem created_newMapping : ∀ creation ∈ (h.push (.created (.mapping s.mappingCount mapping.file))).created,
    (s.newMapping mapping).book.refs creation.object = 1 ∧ creation.Kept (s.newMapping mapping) := by
  intro creation member
  rcases Multiset.mem_cons.mp member with rfl | before
  · exact ⟨Function.update_self .., congrArg Mapping.file (newMapping_self mapping)⟩
  · obtain ⟨one, kept⟩ := ledger.created creation before
    refine ⟨ledger.refs_allocate ledger.fresh_mapping one, ?_⟩
    cases creation with
    | mapping number file =>
        have other : number ≠ s.mappingCount := by
          rintro rfl
          exact absurd (one.symm.trans (ledger.balanced.blank _ ledger.fresh_mapping)) Nat.one_ne_zero
        change ((s.newMapping mapping).mappings number).file = file
        rw [newMapping_other mapping other]
        exact kept
    | file number => exact kept

/-- The pages of a buffer are mapped. -/
theorem newMapping : Ledger (s.newMapping mapping) (h.push (.created (.mapping s.mappingCount mapping.file))) :=
  { ledger with
    balanced := by
      rw [Share.held_created]
      exact (ledger.balanced.allocate ledger.fresh_mapping).congr (ledger.owners_newMapping mapping)
    created := ledger.created_newMapping mapping
    belongs := by
      intro index key value present
      have before := ledger.belongs index key value present
      cases index with
      | device => trivial
      | requests file => exact before
      | mappings file =>
          have differs : value ≠ s.mappingCount := by
            rintro rfl
            exact absurd (ledger.unlisted_mapping file) (Table.count_pos.mpr ⟨key, present⟩).ne'
          change ((s.newMapping mapping).mappings value).file = file
          rw [newMapping_other mapping differs]
          exact before
    mappingNumbers := RefBook.allocated_next (fun _ _ => Object.mapping.inj) ledger.mappingNumbers
    sights := ledger.sights_allocate ledger.fresh_mapping _ rfl rfl
    linked := by
      intro onTime request other link
      rw [newMapping_other mapping (ledger.unlinked_mapping link)]
      exact ledger.linked onTime request other link
    mapped := fun other => (ledger.count_newMapping mapping other).trans_le (ledger.mapped other)
    closed := by
      intro onTime file closed request other link
      rw [newMapping_other mapping (ledger.unlinked_mapping link)]
      exact ledger.closed onTime file closed request other link }

end NewMapping

/-- A file is allocated before its descriptor is. -/
theorem newFile (ledger : Ledger s h) : Ledger s.newFile (h.push (.created (.file s.fileCount))) := by
  have absent : s.book.allocated (.file s.fileCount) = false := by rw [ledger.fileNumbers]; simp
  have blank := ledger.blankFiles s.fileCount (Nat.le_refl _)
  have same : s.newFile =
      { s with fileCount := s.fileCount + 1, book := s.book.allocate (.file s.fileCount) } := by
    have files : Function.update s.files s.fileCount {} = s.files := by
      rw [← blank]
      exact Function.update_eq_self ..
    rw [Shared.newFile, Shared.setFile, files]
  rw [same]
  exact { ledger with
    balanced := by
      rw [Share.held_created]
      exact ledger.balanced.allocate absent
    created := by
      intro creation member
      rcases Multiset.mem_cons.mp member with rfl | before
      · refine ⟨Function.update_self .., ?_⟩
        change (s.files s.fileCount).closing = false
        rw [blank]
      · obtain ⟨one, kept⟩ := ledger.created creation before
        exact ⟨ledger.refs_allocate absent one, kept_of_closing kept _ rfl fun _ => rfl⟩
    fileNumbers := RefBook.allocated_next (fun _ _ => Object.file.inj) ledger.fileNumbers
    sights := ledger.sights_allocate absent _ rfl rfl
    blankFiles := fun file outside => ledger.blankFiles file (Nat.le_of_succ_le outside) }

theorem count_held_closes {file : Nat} (member : file ∈ h.closes) : 0 < h.held.count (.file file) := by
  rw [Multiset.count_pos]
  simp only [Share.held, Multiset.mem_add]
  exact .inr (Multiset.mem_map_of_mem _ member)

section Files
variable {file : Nat} {record : File}

/-- What holds for each file is shown for the one with a new record and for the others. -/
theorem forall_setFile {motive : Nat → File → Prop} (here : motive file record)
    (elsewhere : ∀ other, other ≠ file → motive other (s.files other)) (other : Nat) :
    motive other ((s.setFile file record).files other) := by
  rw [setFile_apply]
  split
  · next same => exact same ▸ here
  · next differs => exact elsewhere other differs

/-- A record of a file that keeps its closing mark keeps where the requests stand. -/
theorem standing_closing (file : Nat) (record : File) (closing : record.closing = (s.files file).closing) (request : Nat) :
    (s.setFile file record).standing h request = s.standing h request :=
  standing_setFile (forall_setFile (motive := fun other after => after.closing = (s.files other).closing) closing
    fun _ _ => rfl) request

/-- The owners of all objects but the file stay. -/
theorem owners_setFile (file : Nat) (record : File) (more fewer : Nat)
    (count : (if record.opened then 1 else 0) + fewer = (if (s.files file).opened then 1 else 0) + more)
    (object : Object) :
    (s.setFile file record).owners object + (if object = .file file then fewer else 0) =
      s.owners object + if object = .file file then more else 0 := by
  have links : (s.setFile file record).linksTo object = s.linksTo object := rfl
  rw [Shared.owners, Shared.owners, links]
  cases object with
  | request number => rfl
  | mapping number => rfl
  | file number =>
      change (if ((s.setFile file record).files number).opened then 1 else 0) + _ + _ =
        (if (s.files number).opened then 1 else 0) + _ + _
      rw [setFile_apply]
      by_cases same : number = file
      · subst same
        simp only [if_true]
        omega
      · simp only [if_neg same, Object.file.injEq]

end Files

/-- The descriptor of a new file takes over its reference. -/
theorem publishFile {file : Nat} (ledger : Ledger s (h.push (.created (.file file)))) :
    Ledger (s.setFile file { s.files file with opened := true }) h := by
  obtain ⟨one, open_⟩ := ledger.created (.file file) (Multiset.mem_cons_self ..)
  obtain ⟨unowned, alone⟩ := ledger.created_alone (Multiset.mem_cons_self ..)
  have shutBefore : (s.files file).opened = false := by
    by_contra opened
    change (if (s.files file).opened then 1 else 0) + _ = 0 at unowned
    rw [if_pos ((Bool.not_eq_false _).mp opened)] at unowned
    omega
  have unclosed : file ∉ h.closes := by
    intro member
    have held := count_held_closes member
    rw [Share.held_created, Multiset.count_cons_self] at alone
    change h.held.count (.file file) + 1 = 1 at alone
    omega
  have owners : ∀ object, (s.setFile file { s.files file with opened := true }).owners object =
      s.owners object + if object = .file file then 1 else 0 := by
    intro object
    have count := owners_setFile (s := s) file { s.files file with opened := true } 1 0 (by simp [shutBefore]) object
    rw [ite_self] at count
    exact count
  have inside : file < s.fileCount := by
    apply ledger.file_inside
    change s.book.refs (.file file) = 1 at one
    omega
  have standing := standing_closing (s := s) (h := h) file { s.files file with opened := true } rfl
  exact { ledger with
    balanced := by
      have balanced := ledger.balanced
      rw [Share.held_created] at balanced
      exact balanced.give owners
    created := by
      intro creation member
      obtain ⟨once, kept⟩ := ledger.created creation (Multiset.mem_cons_of_mem member)
      refine ⟨once, kept_of_closing kept _ rfl ?_⟩
      exact forall_setFile (motive := fun other after => after.closing = (s.files other).closing) rfl fun _ _ => rfl
    requests := fun request => standing request ▸ ledger.requests request
    blankRequests := fun request outside => standing request ▸ ledger.blankRequests request outside
    blankFiles := ledger.blankFiles_setFile inside
    users := forall_setFile (motive := fun other after => after.users = h.users other) (ledger.users file)
      fun other _ => ledger.users other
    usersOpened := forall_setFile (motive := fun _ after => 0 < after.users → after.opened = true) (fun _ => rfl)
      fun other _ => ledger.usersOpened other
    closes := forall_setFile (motive := fun other after => other ∈ h.closes → after.opened = false)
      (fun member => (unclosed member).elim) fun other _ => ledger.closes other
    closing := forall_setFile (motive := fun _ after => after.closing = true → after.opened = false)
      (fun closing => (Bool.false_ne_true (open_.symm.trans closing)).elim) fun other _ => ledger.closing other
    shut := forall_setFile (motive := fun other after => other ∈ h.shut → after.closing = true)
      (fun member => ledger.shut file member) fun other _ => ledger.shut other
    completed := fun onTime => forall_setFile (motive := fun other after => after.closing = false →
      after.completed = s.countedEntries other + (h.owed.map Prod.fst).count other) (ledger.completed onTime file)
      fun other _ => ledger.completed onTime other
    closed := fun onTime => forall_setFile (motive := fun other after => after.opened = false → ∀ request mapping,
      .mapping mapping ∈ (s.requests request).links → (s.mappings mapping).file ≠ other)
      (fun closed => (Bool.false_ne_true closed.symm).elim) fun other _ => ledger.closed onTime other }

theorem Standing.Sound.shut (standing : Standing) {onTime : Prop} (sound : standing.Sound onTime) {open_ : Bool}
    (closes : open_ = true → standing.ownerOpen = true) :
    ({ standing with ownerOpen := open_ } : Standing).Sound onTime :=
  { sound with
    announced := fun done open_ => sound.announced done (closes open_)
    kept := fun early tracked uncounted open_ => sound.kept early tracked uncounted (closes open_) }

/-- The file that a thread closes gets its mark. -/
theorem setClosing {file : Nat} (ledger : Ledger s (h.push (.closes file))) :
    Ledger (s.setFile file { s.files file with closing := true }) ((h.push (.closes file)).push (.shut file)) := by
  have closed := ledger.closes file (Multiset.mem_cons_self ..)
  have inside : file < s.fileCount := by
    apply ledger.file_inside
    apply ledger.balanced.live_of_held
    rw [Share.held_closes]
    exact Multiset.mem_cons_self ..
  have owners : SameOwners s (s.setFile file { s.files file with closing := true }) :=
    ⟨rfl, fun _ => rfl, fun _ => rfl, rfl, forall_setFile
      (motive := fun other after => after.opened = (s.files other).opened) rfl fun _ _ => rfl, rfl⟩
  have ownerOpen : ∀ request, (s.setFile file { s.files file with closing := true }).ownerOpen request = true →
      s.ownerOpen request = true := by
    intro request open_
    obtain ⟨other, owner, unmarked⟩ := exists_owner open_
    change (s.requests request).owner = some other at owner
    rw [setFile_apply] at unmarked
    split at unmarked
    · cases unmarked
    · simp [Shared.ownerOpen, owner, unmarked]
  have standing : ∀ request, (s.setFile file { s.files file with closing := true }).standing
      ((h.push (.closes file)).push (.shut file)) request = { s.standing (h.push (.closes file)) request with
        ownerOpen := (s.setFile file { s.files file with closing := true }).ownerOpen request } := fun _ => rfl
  exact { ledger with
    balanced := ledger.balanced.congr owners.owners
    created := by
      intro creation member
      obtain ⟨once, kept⟩ := ledger.created creation member
      refine ⟨once, ?_⟩
      cases creation with
      | mapping number owner => exact kept
      | file number =>
          have differs : number ≠ file := by
            rintro rfl
            have alone := (ledger.created_alone member).2
            have held := count_held_created (h := h) member
            rw [Share.held_closes] at alone
            change Multiset.count (.file number) (.file number ::ₘ h.held) = 1 at alone
            rw [Multiset.count_cons_self] at alone
            change 0 < h.held.count (.file number) at held
            omega
          change ((s.setFile file _).files number).closing = false
          rw [setFile_apply, if_neg differs]
          exact kept
    requests := by
      intro request
      rw [standing request]
      exact Standing.Sound.shut _ (ledger.requests request) (ownerOpen request)
    blankRequests := by
      intro request outside
      obtain ⟨record, blank⟩ := ledger.blankRequests request outside
      refine ⟨record, ?_⟩
      rw [standing request, blank]
      simp only [Standing.mk.injEq, true_and, and_true]
      by_contra open_
      have before := ownerOpen request ((Bool.not_eq_false _).mp open_)
      exact Bool.false_ne_true ((congrArg Standing.ownerOpen blank).symm.trans before)
    blankFiles := ledger.blankFiles_setFile inside
    users := forall_setFile (motive := fun other after => after.users = (h.push (.closes file)).users other)
      (ledger.users file) fun other _ => ledger.users other
    usersOpened := forall_setFile (motive := fun _ after => 0 < after.users → after.opened = true)
      (ledger.usersOpened file) fun other _ => ledger.usersOpened other
    closes := forall_setFile (motive := fun other after => other ∈ (h.push (.closes file)).closes → after.opened = false)
      (fun _ => closed) fun other _ => ledger.closes other
    closing := forall_setFile (motive := fun _ after => after.closing = true → after.opened = false) (fun _ => closed)
      fun other _ => ledger.closing other
    shut := forall_setFile (motive := fun other after => other ∈ ((h.push (.closes file)).push (.shut file)).shut →
      after.closing = true) (fun _ => rfl) (by
        intro other differs member
        rcases Multiset.mem_cons.mp member with same | before
        · exact (differs same).elim
        · exact ledger.shut other before)
    completed := fun onTime => forall_setFile (motive := fun other after => after.closing = false →
      after.completed = s.countedEntries other + (h.owed.map Prod.fst).count other) (by rintro ⟨⟩)
      fun other _ => ledger.completed onTime other
    closed := by
      intro onTime other closed
      rw [owners.opened other] at closed
      exact ledger.closed onTime other closed }

/-- The calls on a file change, and its counter with them. -/
theorem setCalls (ledger : Ledger s h) (file : Nat) (record : File) (uses : Multiset Nat) (owed : Multiset (Nat × Nat))
    (inside : file < s.fileCount) (opened : record.opened = (s.files file).opened)
    (closing : record.closing = (s.files file).closing) (calling : 0 < record.users → record.opened = true)
    (users : ∀ other, ((s.setFile file record).files other).users = ({ h with uses, owed } : Share).users other)
    (fewer : ∀ debt ∈ owed, debt ∈ h.owed)
    (completed : s.history.earlyReaps = [] → ∀ other, (s.files other).closing = false →
      ((s.setFile file record).files other).completed = s.countedEntries other + (owed.map Prod.fst).count other) :
    Ledger (s.setFile file record) { h with uses, owed } := by
  have sameOpened : ∀ other, ((s.setFile file record).files other).opened = (s.files other).opened :=
    forall_setFile (motive := fun other after => after.opened = (s.files other).opened) opened fun _ _ => rfl
  have sameClosing : ∀ other, ((s.setFile file record).files other).closing = (s.files other).closing :=
    forall_setFile (motive := fun other after => after.closing = (s.files other).closing) closing fun _ _ => rfl
  have owners : SameOwners s (s.setFile file record) :=
    ⟨rfl, fun _ => rfl, fun _ => rfl, rfl, sameOpened, rfl⟩
  have standing := standing_setFile (h := h) sameClosing
  exact { ledger with
    balanced := ledger.balanced.congr owners.owners
    created := ledger.created_setFile sameClosing
    requests := fun request => standing request ▸ ledger.requests request
    blankRequests := fun request outside => standing request ▸ ledger.blankRequests request outside
    blankFiles := ledger.blankFiles_setFile inside
    users
    usersOpened := forall_setFile (motive := fun _ after => 0 < after.users → after.opened = true) calling
      fun other _ => ledger.usersOpened other
    closes := fun other member => (sameOpened other).trans (ledger.closes other member)
    closing := by
      intro other
      rw [sameClosing, sameOpened]
      exact ledger.closing other
    shut := fun other member => (sameClosing other).trans (ledger.shut other member)
    completed := by
      intro onTime other unmarked
      rw [sameClosing] at unmarked
      exact completed onTime other unmarked
    owing := fun debt member => ledger.owing debt (fewer debt member)
    closed := by
      intro onTime other shut
      rw [sameOpened] at shut
      exact ledger.closed onTime other shut }

theorem opened_inside (ledger : Ledger s h) {file : Nat} (opened : (s.files file).opened = true) :
    file < s.fileCount := by
  by_contra outside
  rw [ledger.blankFiles file (by omega)] at opened
  cases opened

end Ledger
end VamsSoc.Driver
