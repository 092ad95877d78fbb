/-
This file has what each change of a table, and each new object, does to the ledger.
-/

import VamsSoc.Proof.Driver.Upkeep

namespace VamsSoc.Driver
open Library Abi

variable {δ : Type}

/-- A request enters the device table once; it is in the table of its open owner by then. -/
theorem Standing.Sound.enter (standing : Standing) {onTime : Prop}
    (sound : ({ standing with fresh := standing.fresh + 1 } : Standing).Sound onTime)
    (listed : standing.ownerOpen = true → 0 < standing.inFile) :
    ({ standing with tracked := true, inDevice := standing.inDevice + 1, shown := standing.shown + 1 } : Standing).Sound
      onTime := by
  obtain ⟨completion, untracked, fresh, bare, reaping, countedDone, announcing, announced, kept⟩ := sound
  dsimp only at *
  have new : standing.tracked = false := by
    by_contra old
    rw [if_pos ((Bool.not_eq_false _).mp old)] at fresh
    omega
  obtain ⟨outside, retired, _, open_⟩ := untracked new
  rw [new] at fresh
  constructor <;> dsimp only
  · rw [open_, outside, retired]
    simp
  · intro old
    cases old
  · simpa using fresh
  · exact bare
  · exact reaping
  · exact countedDone
  · exact announcing
  · exact announced
  · exact fun _ _ _ => listed

namespace Ledger
variable {s : Shared δ} {h : Share}

/-- The tables that a sight or a standing looks at decide them. -/
theorem sights_insert (ledger : Ledger s h) {index : Index} {key : U32} {value : Nat} (later : Shared δ)
    (tables : later.tables = Function.update s.tables index ((s.tables index).insert key value))
    (refs : later.book = s.book) (absent : (s.tables index).lookup key = none) :
    ∀ holding ∈ h.holdings, ∀ sight ∈ holding.sights, sight.Holds later ∧ sight.index.lock = holding.lock := by
  intro holding member sight seen
  obtain ⟨⟨present, only⟩, lock⟩ := ledger.sights holding member sight seen
  refine ⟨⟨?_, fun sole => ?_⟩, lock⟩
  · rw [tables, Function.update_apply]
    split
    · next here =>
        rw [here] at present
        exact Table.lookup_insert_of_some absent present
    · exact present
  · rw [refs]
    exact only sole

theorem belongs_insert (ledger : Ledger s h) {index : Index} {key : U32} {value : Nat}
    (absent : (s.tables index).lookup key = none) (belongs : s.Belongs index value) :
    ∀ other name found, ((s.setTable index ((s.tables index).insert key value)).tables other).lookup name = some found →
      s.Belongs other found := by
  intro other name found present
  rw [setTable_apply] at present
  split at present
  · next here =>
      rcases Table.lookup_of_lookup_insert absent present with ⟨_, rfl⟩ | before
      · exact here ▸ belongs
      · exact here ▸ ledger.belongs index name found before
  · exact ledger.belongs other name found present

theorem standing_setTable (index : Index) (table : Table U32 Nat) (request : Nat) :
    (s.setTable index table).standing h request = { s.standing h request with
      inDevice := ((s.setTable index table).tables .device).count request
      inFile := (s.setTable index table).fileEntries request } := rfl

theorem fileEntries_setTable {index : Index} {table : Table U32 Nat} {request : Nat}
    (other : ∀ file, (s.requests request).owner = some file → index ≠ .requests file) :
    (s.setTable index table).fileEntries request = s.fileEntries request := by
  have same : (s.setTable index table).requests = s.requests := rfl
  rw [Shared.fileEntries, Shared.fileEntries, same]
  cases owner : (s.requests request).owner with
  | none => rfl
  | some file =>
      change ((s.setTable index table).tables (.requests file)).count request = _
      rw [setTable_apply, if_neg (other file owner).symm]

/-- When one request changes where it stands, the others keep what they had. -/
theorem requests_at (ledger : Ledger s h) {later : Shared δ} {h' : Share} {request : Nat} (onTime : Prop)
    (elsewhere : ∀ other, other ≠ request → later.standing h' other = s.standing h other)
    (implies : onTime → s.history.earlyReaps = []) (here : (later.standing h' request).Sound onTime) :
    ∀ other, (later.standing h' other).Sound onTime := by
  intro other
  by_cases same : other = request
  · rw [same]
    exact here
  · rw [elsewhere other same]
    exact { ledger.requests other with kept := fun early => (ledger.requests other).kept (implies early) }

theorem blank_at (ledger : Ledger s h) {later : Shared δ} {h' : Share} {request : Nat}
    (elsewhere : ∀ other, other ≠ request → later.standing h' other = s.standing h other)
    (records : ∀ other, other ≠ request → later.requests other = s.requests other)
    (inside : request < s.requestCount) :
    ∀ other, s.requestCount ≤ other → later.requests other = {} ∧ later.standing h' other = {} := by
  intro other outside
  have differs : other ≠ request := by omega
  rw [elsewhere other differs, records other differs]
  exact ledger.blankRequests other outside

/-- A request that was never in the device table is not counted. -/
theorem uncounted_of_fresh (ledger : Ledger s h) {request : Nat} (fresh : request ∈ h.fresh) :
    (s.requests request).counted = false := by
  have sound := ledger.requests request
  have present : 0 < h.fresh.count request := Multiset.count_pos.mpr fresh
  have untracked : (s.requests request).tracked = false := by
    by_contra tracked
    have bound : h.fresh.count request ≤ if (s.requests request).tracked then 0 else 1 := sound.fresh
    rw [if_pos ((Bool.not_eq_false _).mp tracked)] at bound
    omega
  by_contra counted
  have done := sound.countedDone ((Bool.not_eq_false _).mp counted)
  exact Bool.false_ne_true ((sound.untracked untracked).2.2.2.symm.trans done)

theorem exists_owner {request : Nat} (open_ : s.ownerOpen request = true) :
    ∃ file, (s.requests request).owner = some file ∧ (s.files file).closing = false := by
  unfold Shared.ownerOpen at open_
  cases owner : (s.requests request).owner with
  | none =>
      rw [owner] at open_
      cases open_
  | some file =>
      rw [owner] at open_
      exact ⟨file, rfl, by simpa using open_⟩

/-- A fresh request enters the device table, and its thread has to count it as pending. -/
theorem insert_device {key : U32} {request : Nat} {sights : List Sight}
    (ledger : Ledger s (((h.push (.ref (.request request))).push (.fresh request)).push (.holding ⟨.xa, sights⟩)))
    (absent : (s.tables .device).lookup key = none)
    (listed : ∀ file, (s.requests request).owner = some file → 0 < (s.tables (.requests file)).count request) :
    Ledger (s.insertEntry .device key request)
      (((h.push .uncounted).push (.shown request)).push (.holding ⟨.xa, sights⟩)) := by
  have links : SameLinks (s.requests request) { s.requests request with tracked := true } := ⟨rfl, rfl, rfl⟩
  have held : (((h.push (.ref (.request request))).push (.fresh request)).push (.holding ⟨.xa, sights⟩)).held =
      .request request ::ₘ h.held := Share.held_ref ..
  have inside : request < s.requestCount := by
    apply ledger.request_inside
    apply ledger.balanced.live_of_held
    rw [held]
    exact Multiset.mem_cons_self ..
  have inFile : ∀ other, (s.setTable .device ((s.tables .device).insert key request)).fileEntries other =
      s.fileEntries other := fun other => fileEntries_setTable fun _ _ => nofun
  have records : ∀ other, other ≠ request → (s.insertEntry .device key request).requests other = s.requests other :=
    fun other differs => Function.update_of_ne differs ..
  have elsewhere : ∀ other, other ≠ request → (s.insertEntry .device key request).standing
      (((h.push .uncounted).push (.shown request)).push (.holding ⟨.xa, sights⟩)) other =
        s.standing (((h.push (.ref (.request request))).push (.fresh request)).push (.holding ⟨.xa, sights⟩)) other := by
    intro other differs
    change ((s.setTable .device _).setRequest request _).standing _ other = _
    rw [standing_setRequest differs, standing_setTable, setTable_apply, if_pos rfl, Table.count_insert absent,
      if_neg differs, inFile other]
    simp [Shared.standing, Share.push, Multiset.count_cons_of_ne differs]
  exact { ledger with
    balanced := by
      have balanced := ledger.balanced
      rw [held] at balanced
      exact balanced.give (owners_insertEntry absent trivial)
    belongs := by
      intro index name found present
      have before := ledger.belongs_insert absent trivial index name found present
      cases index with
      | device => trivial
      | requests file => exact (sameLinks_setRequest links found).owner.trans before
      | mappings file => exact before
    named := ledger.named_setRequest rfl
    drafts := ledger.drafts_setRequest links.owner rfl
    sights := ledger.sights_insert _ rfl rfl absent
    requests := by
      refine ledger.requests_at (s.history.earlyReaps = []) elsewhere id ?_
      change (((s.setTable .device _).setRequest request _).standing _ request).Sound _
      rw [standing_setRequest_self (s := s.setTable .device _) links.owner, standing_setTable, setTable_apply,
        if_pos rfl, Table.count_insert absent, if_pos rfl, inFile request]
      have before : ({ s.standing h request with fresh := (s.standing h request).fresh + 1 } : Standing).Sound
          (s.history.earlyReaps = []) := by
        simpa [Shared.standing, Share.push] using ledger.requests request
      have after := Standing.Sound.enter _ before (by
        intro open_
        obtain ⟨file, owner, _⟩ := exists_owner open_
        change 0 < s.fileEntries request
        rw [fileEntries_eq owner]
        exact listed file owner)
      simpa [Shared.standing, Share.push] using after
    blankRequests := ledger.blank_at elsewhere records inside
    pending := by
      have before := ledger.pending
      have size : ((s.insertEntry .device key request).tables .device).size = (s.tables .device).size + 1 := by
        change ((s.setTable .device ((s.tables .device).insert key request)).tables .device).size = _
        rw [setTable_apply, if_pos rfl, Table.size_insert absent]
      rw [size]
      change s.pendingRequests + (h.uncounted + 1 : Nat) = ((s.tables .device).size + 1 : Nat) + (h.erased : Int)
      change s.pendingRequests + (h.uncounted : Int) = ((s.tables .device).size : Int) + (h.erased : Int) at before
      push_cast
      omega
    polled := by
      intro _
      exact .inr (.inr (by simp [Share.push]))
    completed := ledger.completed_setRequest rfl
    owing := ledger.owing_setRequest id
    linked := ledger.linked_setRequest links
    closed := ledger.closed_setRequest links
    resting := ledger.resting_setRequest links }

theorem countedEntries_insert {file : Nat} {key : U32} {request : Nat}
    (absent : (s.tables (.requests file)).lookup key = none) (uncounted : (s.requests request).counted = false)
    (other : Nat) :
    (s.setTable (.requests file) ((s.tables (.requests file)).insert key request)).countedEntries other =
      s.countedEntries other := by
  unfold Shared.countedEntries
  rw [setTable_apply]
  split
  · next here =>
      obtain rfl : other = file := Index.requests.inj here
      rw [Table.insert_absent absent]
      change List.countP (fun entry : U32 × Nat => (s.requests entry.2).counted) (_ :: _) = _
      rw [List.countP_cons_of_neg (by simp [uncounted])]
  · rfl

theorem fileEntries_insert {file : Nat} {key : U32} {request : Nat}
    (absent : (s.tables (.requests file)).lookup key = none) (owner : (s.requests request).owner = some file)
    (other : Nat) :
    (s.insertEntry (.requests file) key request).fileEntries other =
      s.fileEntries other + if other = request then 1 else 0 := by
  have owners := owners_insertEntry absent owner (.request other)
  have links : (s.insertEntry (.requests file) key request).linksTo (.request other) = s.linksTo (.request other) := rfl
  have device : (s.insertEntry (.requests file) key request).tables .device = s.tables .device := rfl
  simp only [Shared.owners, Shared.entries, links, device, Index.object, Object.request.injEq] at owners
  omega

/-- A lock stays held while its holder sees more or less under it. -/
theorem locks_of_map (ledger : Ledger s h) {h' : Share}
    (same : h'.holdings.map Holding.lock = h.holdings.map Holding.lock) (lock : Lock) :
    (h'.holdings.map Holding.lock).count lock = if s.locked lock then 1 else 0 := by
  rw [same]
  exact ledger.locks lock

/-- The holder of a lock sees an entry. -/
theorem see {lock : Lock} {sights : List Sight} (ledger : Ledger s (h.push (.holding ⟨lock, sights⟩))) {sight : Sight}
    (holds : sight.Holds s) (same : sight.index.lock = lock) :
    Ledger s (h.push (.holding ⟨lock, sight :: sights⟩)) :=
  { ledger with
    locks := ledger.locks_of_map (by simp [Share.push])
    sights := by
      intro holding member other seen
      rcases Multiset.mem_cons.mp member with rfl | before
      · rcases List.mem_cons.mp seen with rfl | earlier
        · exact ⟨holds, same⟩
        · exact ledger.sights _ (Multiset.mem_cons_self ..) other earlier
      · exact ledger.sights holding (Multiset.mem_cons_of_mem before) other seen }

/-- A draft becomes an entry of its file. -/
theorem Standing.Sound.list (standing : Standing) {onTime : Prop}
    (sound : ({ standing with unlisted := standing.unlisted + 1 } : Standing).Sound onTime) :
    ({ standing with inFile := standing.inFile + 1 } : Standing).Sound onTime := by
  obtain ⟨completion, untracked, fresh, bare, reaping, countedDone, announcing, announced, kept⟩ := sound
  refine ⟨completion, untracked, fresh, bare, ?_, countedDone, announcing, announced, ?_⟩
  · dsimp only at reaping ⊢
    omega
  · intro _ _ _ _
    exact Nat.succ_pos _

/-- A draft enters the table of its file, whose lock keeps the entry in sight. -/
theorem insert_requests {file : Nat} {key : U32} {request : Nat} {sights : List Sight}
    (ledger : Ledger s (((h.push (.draft ⟨request, some file, key⟩)).push (.fresh request)).push
      (.holding ⟨.file file, sights⟩)))
    (absent : (s.tables (.requests file)).lookup key = none) :
    Ledger (s.insertEntry (.requests file) key request)
      ((h.push (.fresh request)).push (.holding ⟨.file file, ⟨.requests file, key, request, false⟩ :: sights⟩)) := by
  obtain ⟨owner, commandId⟩ := ledger.drafts ⟨request, some file, key⟩ (Multiset.mem_cons_self ..)
  have inserted : s.insertEntry (.requests file) key request =
      s.setTable (.requests file) ((s.tables (.requests file)).insert key request) := rfl
  have held : (((h.push (.draft ⟨request, some file, key⟩)).push (.fresh request)).push
      (.holding ⟨.file file, sights⟩)).held = .request request ::ₘ h.held := Share.held_draft ..
  have inside : request < s.requestCount := by
    apply ledger.request_inside
    apply ledger.balanced.live_of_held
    rw [held]
    exact Multiset.mem_cons_self ..
  have uncounted : (s.requests request).counted = false := ledger.uncounted_of_fresh (by simp [Share.push])
  have standing : ∀ other, (s.insertEntry (.requests file) key request).standing
      ((h.push (.fresh request)).push (.holding ⟨.file file, ⟨.requests file, key, request, false⟩ :: sights⟩)) other =
        { s.standing (h.push (.fresh request)) other with
          inFile := s.fileEntries other + if other = request then 1 else 0 } := by
    intro other
    rw [inserted, standing_setTable, ← inserted, fileEntries_insert absent owner]
    rfl
  have elsewhere : ∀ other, other ≠ request → (s.insertEntry (.requests file) key request).standing
      ((h.push (.fresh request)).push (.holding ⟨.file file, ⟨.requests file, key, request, false⟩ :: sights⟩)) other =
        s.standing (((h.push (.draft ⟨request, some file, key⟩)).push (.fresh request)).push
          (.holding ⟨.file file, sights⟩)) other := by
    intro other differs
    rw [standing other, if_neg differs]
    simp [Shared.standing, Share.push, Multiset.count_cons_of_ne differs]
  exact { ledger with
    balanced := by
      have balanced := ledger.balanced
      rw [held] at balanced
      exact balanced.give (owners_insertEntry absent owner)
    belongs := ledger.belongs_insert absent owner
    named := by
      intro other name found present
      rw [inserted, setTable_apply] at present
      split at present
      · next here =>
          obtain rfl : other = file := Index.requests.inj here
          rcases Table.lookup_of_lookup_insert absent present with ⟨rfl, rfl⟩ | before
          · exact commandId
          · exact ledger.named other name found before
      · exact ledger.named other name found present
    drafts := fun draft member => ledger.drafts draft (Multiset.mem_cons_of_mem member)
    locks := ledger.locks_of_map (by simp [Share.push])
    sights := by
      have before := ledger.sights_insert (s.insertEntry (.requests file) key request) rfl rfl absent
      intro holding member other seen
      rcases Multiset.mem_cons.mp member with rfl | elsewhere
      · rcases List.mem_cons.mp seen with rfl | earlier
        · refine ⟨⟨?_, (by rintro ⟨⟩)⟩, rfl⟩
          rw [inserted, setTable_apply, if_pos rfl]
          exact Table.lookup_insert absent
        · exact before _ (Multiset.mem_cons_self ..) other earlier
      · exact before holding (Multiset.mem_cons_of_mem elsewhere) other seen
    requests := by
      refine ledger.requests_at (s.history.earlyReaps = []) elsewhere id ?_
      rw [standing request, if_pos rfl]
      refine Standing.Sound.list (s.standing (h.push (.fresh request)) request) ?_
      simpa [Shared.standing, Share.push] using ledger.requests request
    blankRequests := ledger.blank_at elsewhere (fun _ _ => rfl) inside
    completed := by
      intro onTime other closing
      rw [inserted, countedEntries_insert absent uncounted]
      exact ledger.completed onTime other closing }

/-- A new mapping enters the table of its file, which has the only reference. -/
theorem insert_mapping {file mapping : Nat} {handle : U32} {sights : List Sight}
    (ledger : Ledger s ((h.push (.created (.mapping mapping file))).push (.holding ⟨.file file, sights⟩)))
    (absent : (s.tables (.mappings file)).lookup handle = none) :
    Ledger (s.insertEntry (.mappings file) handle mapping)
      (h.push (.holding ⟨.file file, ⟨.mappings file, handle, mapping, true⟩ :: sights⟩)) := by
  obtain ⟨one, owner⟩ := ledger.created (.mapping mapping file) (Multiset.mem_cons_self ..)
  have inserted : s.insertEntry (.mappings file) handle mapping =
      s.setTable (.mappings file) ((s.tables (.mappings file)).insert handle mapping) := rfl
  have held : ((h.push (.created (.mapping mapping file))).push (.holding ⟨.file file, sights⟩)).held =
      .mapping mapping ::ₘ h.held := Share.held_created ..
  exact { ledger with
    balanced := by
      have balanced := ledger.balanced
      rw [held] at balanced
      exact balanced.give (owners_insertEntry absent owner)
    created := fun creation member => ledger.created creation (Multiset.mem_cons_of_mem member)
    belongs := ledger.belongs_insert absent owner
    locks := ledger.locks_of_map (by simp [Share.push])
    sights := by
      have before := ledger.sights_insert (s.insertEntry (.mappings file) handle mapping) rfl rfl absent
      intro holding member other seen
      rcases Multiset.mem_cons.mp member with rfl | elsewhere
      · rcases List.mem_cons.mp seen with rfl | earlier
        · refine ⟨⟨?_, fun _ => one⟩, rfl⟩
          rw [inserted, setTable_apply, if_pos rfl]
          exact Table.lookup_insert absent
        · exact before _ (Multiset.mem_cons_self ..) other earlier
      · exact before holding (Multiset.mem_cons_of_mem elsewhere) other seen
    linked := by
      intro onTime request other member
      have before := ledger.linked onTime request other member
      rw [inserted, setTable_apply]
      split
      · next here =>
          rw [Table.count_insert absent, ← here]
          exact Nat.add_pos_left before _
      · exact before
    mapped := by
      intro other
      have before : (s.tables (.mappings (s.mappings other).file)).count other ≤ 1 := ledger.mapped other
      change ((s.setTable _ _).tables (.mappings (s.mappings other).file)).count other ≤ 1
      rw [setTable_apply]
      split
      · next here =>
          rw [Table.count_insert absent, ← here]
          split
          · next same =>
              have unowned := (ledger.created_alone (Multiset.mem_cons_self ..)).1
              change (s.tables (.mappings (s.mappings mapping).file)).count mapping + _ = 0 at unowned
              rw [same]
              omega
          · exact before
      · exact before }

/-- An erased entry is in sight of nobody but the holder of the lock. -/
theorem sights_erase (index : Index) {key : U32} {sights : List Sight}
    (ledger : Ledger s (h.push (.holding ⟨index.lock, sights⟩))) {later : Shared δ}
    (tables : later.tables = Function.update s.tables index ((s.tables index).erase key)) (book : later.book = s.book) :
    ∀ holding ∈ (h.push (.holding ⟨index.lock, []⟩)).holdings, ∀ sight ∈ holding.sights,
      sight.Holds later ∧ sight.index.lock = holding.lock := by
  intro holding member sight seen
  rcases Multiset.mem_cons.mp member with rfl | before
  · cases seen
  · obtain ⟨⟨present, only⟩, lock⟩ := ledger.sights holding (Multiset.mem_cons_of_mem before) sight seen
    have differs : sight.index ≠ index := fun same => ledger.exclusive holding before (by rw [← lock, same])
    refine ⟨⟨?_, fun sole => ?_⟩, lock⟩
    · rw [tables, Function.update_of_ne differs]
      exact present
    · rw [book]
      exact only sole

theorem belongs_erase (ledger : Ledger s h) (index : Index) (key : U32) :
    ∀ other name found, ((s.setTable index ((s.tables index).erase key)).tables other).lookup name = some found →
      s.Belongs other found := by
  intro other name found present
  rw [setTable_apply] at present
  split at present
  · next here => exact ledger.belongs other name found (here ▸ Table.lookup_of_lookup_erase present)
  · exact ledger.belongs other name found present

theorem Standing.Sound.leave (standing : Standing) {onTime : Prop}
    (sound : ({ standing with inDevice := standing.inDevice + 1 } : Standing).Sound onTime) :
    ({ standing with retiring := standing.retiring + 1 } : Standing).Sound onTime := by
  obtain ⟨completion, untracked, fresh, bare, reaping, countedDone, announcing, announced, kept⟩ := sound
  refine ⟨?_, ?_, fresh, bare, reaping, countedDone, announcing, announced, kept⟩
  · dsimp only at completion ⊢
    omega
  · intro new
    have nothing := (untracked new).1
    dsimp only at nothing
    omega

/-- A request leaves the device table, and its thread has to complete it and to uncount it. -/
theorem erase_device {key : U32} {request : Nat} {sights : List Sight}
    (ledger : Ledger s (h.push (.holding ⟨.xa, sights⟩))) (present : (s.tables .device).lookup key = some request) :
    Ledger (s.eraseEntry .device key request)
      (((h.push (.retiring request)).push .erased).push (.holding ⟨.xa, []⟩)) := by
  have erased : s.eraseEntry .device key request = s.setTable .device ((s.tables .device).erase key) := rfl
  have inside : request < s.requestCount := ledger.request_inside (ledger.live_entry present)
  have inFile : ∀ other, (s.setTable .device ((s.tables .device).erase key)).fileEntries other = s.fileEntries other :=
    fun other => fileEntries_setTable fun _ _ => nofun
  have count := Table.count_erase present
  have standing : ∀ other, (s.eraseEntry .device key request).standing
      (((h.push (.retiring request)).push .erased).push (.holding ⟨.xa, []⟩)) other =
        { s.standing h other with
          inDevice := ((s.tables .device).erase key).count other
          retiring := h.retiring.count other + if other = request then 1 else 0 } := by
    intro other
    rw [erased, standing_setTable, setTable_apply, if_pos rfl, inFile]
    simp [Shared.standing, Share.push, Multiset.count_cons]
  have elsewhere : ∀ other, other ≠ request → (s.eraseEntry .device key request).standing
      (((h.push (.retiring request)).push .erased).push (.holding ⟨.xa, []⟩)) other =
        s.standing (h.push (.holding ⟨.xa, sights⟩)) other := by
    intro other differs
    have same := count other
    rw [if_neg differs] at same
    rw [standing other, if_neg differs]
    simp [Shared.standing, Share.push, same]
  exact { ledger with
    balanced := by
      have held : (((h.push (.retiring request)).push .erased).push (.holding ⟨.xa, []⟩)).held =
          .request request ::ₘ h.held := Share.held_retiring ..
      rw [held]
      exact ledger.balanced.take (owners_eraseEntry present trivial)
    belongs := ledger.belongs_erase .device key
    locks := ledger.locks_of_map (by simp [Share.push])
    sights := ledger.sights_erase .device rfl rfl
    requests := by
      refine ledger.requests_at (s.history.earlyReaps = []) elsewhere id ?_
      have same := count request
      rw [if_pos rfl] at same
      rw [standing request, if_pos rfl]
      refine Standing.Sound.leave
        { s.standing h request with inDevice := ((s.tables .device).erase key).count request } ?_
      have before := ledger.requests request
      simpa [Shared.standing, Share.push, same] using before
    blankRequests := ledger.blank_at elsewhere (fun _ _ => rfl) inside
    pending := by
      have before := ledger.pending
      have size := Table.size_erase present
      rw [erased, setTable_apply, if_pos rfl]
      change s.pendingRequests + (h.uncounted : Int) = (((s.tables .device).erase key).size : Int) + (h.erased + 1 : Nat)
      change s.pendingRequests + (h.uncounted : Int) = ((s.tables .device).size : Int) + (h.erased : Int) at before
      omega
    polled := by
      intro waiting
      rw [erased, setTable_apply, if_pos rfl] at waiting
      have size := Table.size_erase present
      exact ledger.polled (by omega) }

theorem Standing.Sound.reap (standing : Standing) {before : Prop} (onTime : Prop)
    (sound : ({ standing with inFile := standing.inFile + 1 } : Standing).Sound before)
    (kept : onTime → standing.tracked = true → standing.counted = false → standing.ownerOpen = true → False) :
    ({ standing with reaped := standing.reaped + 1 } : Standing).Sound onTime := by
  obtain ⟨completion, untracked, fresh, bare, reaping, countedDone, announcing, announced, _⟩ := sound
  refine ⟨completion, untracked, fresh, bare, ?_, countedDone, announcing, announced, ?_⟩
  · dsimp only at reaping ⊢
    omega
  · exact fun early tracked uncounted open_ => (kept early tracked uncounted open_).elim

theorem countedEntries_erase {file : Nat} {key : U32} {request : Nat}
    (present : (s.tables (.requests file)).lookup key = some request) (other : Nat) :
    s.countedEntries other =
      (s.setTable (.requests file) ((s.tables (.requests file)).erase key)).countedEntries other +
        if other = file ∧ (s.requests request).counted = true then 1 else 0 := by
  unfold Shared.countedEntries
  rw [setTable_apply]
  by_cases here : other = file
  · subst here
    have same := (Table.perm_erase present).countP_eq fun entry : U32 × Nat => (s.requests entry.2).counted
    rw [List.countP_cons] at same
    change _ = List.countP (fun entry : U32 × Nat => (s.requests entry.2).counted) _ + _
    simpa using same
  · simp only [Index.requests.injEq, here, false_and, if_false]
    rfl

theorem fileEntries_erase {file : Nat} {key : U32} {request : Nat}
    (present : (s.tables (.requests file)).lookup key = some request) (owner : (s.requests request).owner = some file)
    (other : Nat) :
    s.fileEntries other = (s.setTable (.requests file) ((s.tables (.requests file)).erase key)).fileEntries other +
      if other = request then 1 else 0 := by
  have owners := owners_eraseEntry present owner (.request other)
  rw [sameOwners_eraseEntry.owners] at owners
  have links : (s.setTable (.requests file) ((s.tables (.requests file)).erase key)).linksTo (.request other) =
      s.linksTo (.request other) := rfl
  have device : (s.setTable (.requests file) ((s.tables (.requests file)).erase key)).tables .device =
      s.tables .device := rfl
  simp only [Shared.owners, Shared.entries, links, device, Index.object, Object.request.injEq] at owners
  omega

theorem named_erase (ledger : Ledger s h) (index : Index) (key : U32) :
    ∀ file name request, ((s.setTable index ((s.tables index).erase key)).tables (.requests file)).lookup name =
      some request → (s.requests request).commandId = name := by
  intro file name request present
  rw [setTable_apply] at present
  split at present
  · next here =>
      apply ledger.named file name request
      rw [here]
      exact Table.lookup_of_lookup_erase present
  · exact ledger.named file name request present

/-- What happens to where the requests stand when one leaves the table of its file. -/
theorem standing_unlist {file : Nat} {key : U32} {request : Nat}
    (present : (s.tables (.requests file)).lookup key = some request) (owner : (s.requests request).owner = some file)
    {h' : Share} (tokens : ∀ other, s.standing h' other =
      { s.standing h other with reaped := h.reaped.count other + if other = request then 1 else 0 }) (other : Nat)
    (differs : other ≠ request) :
    (s.setTable (.requests file) ((s.tables (.requests file)).erase key)).standing h' other = s.standing h other := by
  have entries := fileEntries_erase present owner other
  rw [if_neg differs] at entries
  rw [standing_setTable, tokens other, if_neg differs]
  simp only [Nat.add_zero] at entries ⊢
  rw [← entries]
  rfl

theorem sound_unlist (ledger : Ledger s h) {file : Nat} {key : U32} {request : Nat}
    (present : (s.tables (.requests file)).lookup key = some request) (owner : (s.requests request).owner = some file)
    {h' : Share} (tokens : ∀ other, s.standing h' other =
      { s.standing h other with reaped := h.reaped.count other + if other = request then 1 else 0 }) (onTime : Prop)
    (kept : onTime → (s.requests request).tracked = true → (s.requests request).counted = false →
      (s.files file).closing = false → False) :
    ((s.setTable (.requests file) ((s.tables (.requests file)).erase key)).standing h' request).Sound onTime := by
  have entries := fileEntries_erase present owner request
  rw [if_pos rfl] at entries
  have before := ledger.requests request
  have after := Standing.Sound.reap { s.standing h request with
      inFile := (s.setTable (.requests file) ((s.tables (.requests file)).erase key)).fileEntries request } onTime
    (by simpa [Shared.standing, entries] using before) (by
      intro early tracked uncounted open_
      obtain ⟨other, owner', open_⟩ := exists_owner open_
      obtain rfl : file = other := Option.some.inj (owner.symm.trans owner')
      exact kept early tracked uncounted open_)
  rw [standing_setTable, setTable_apply, if_neg (by rintro ⟨⟩), tokens request, if_pos rfl]
  exact after

/-- A request leaves the table of its closing file, or before it was in the device table. -/
theorem erase_quiet {file : Nat} {key : U32} {request : Nat} {sights : List Sight}
    (ledger : Ledger s (h.push (.holding ⟨.file file, sights⟩)))
    (present : (s.tables (.requests file)).lookup key = some request)
    (quiet : (s.files file).closing = true ∨ (s.requests request).tracked = false) :
    Ledger (s.eraseEntry (.requests file) key request)
      (((h.push (.ref (.request request))).push (.reaped request)).push (.holding ⟨.file file, []⟩)) := by
  have owner : (s.requests request).owner = some file := ledger.belongs _ _ _ present
  have inside : request < s.requestCount := ledger.request_inside (ledger.live_entry present)
  have onTime : s.earlyReap (.requests file) request = false := by
    change ((s.requests request).tracked && !(s.requests request).counted && !(s.files file).closing) = false
    rcases quiet with closing | untracked
    · simp [closing]
    · simp [untracked]
  have erased : s.eraseEntry (.requests file) key request =
      s.setTable (.requests file) ((s.tables (.requests file)).erase key) := by
    rw [Shared.eraseEntry, if_neg (by simp [onTime])]
  have balanced := ledger.balanced.take (owners_eraseEntry present owner)
  have tokens : ∀ other, s.standing
      (((h.push (.ref (.request request))).push (.reaped request)).push (.holding ⟨.file file, []⟩)) other =
        { s.standing (h.push (.holding ⟨.file file, sights⟩)) other with
          reaped := h.reaped.count other + if other = request then 1 else 0 } := by
    intro other
    simp [Shared.standing, Share.push, Multiset.count_cons]
  have elsewhere := standing_unlist present owner tokens
  have sound := ledger.sound_unlist present owner tokens (s.history.earlyReaps = []) (by
    intro _ tracked _ open_
    rcases quiet with closing | untracked
    · exact Bool.false_ne_true (open_.symm.trans closing)
    · exact Bool.false_ne_true (untracked.symm.trans tracked))
  rw [erased] at balanced ⊢
  exact { ledger with
    balanced := by
      have held : (((h.push (.ref (.request request))).push (.reaped request)).push (.holding ⟨.file file, []⟩)).held =
          .request request ::ₘ h.held := Share.held_ref ..
      rw [held]
      exact balanced
    belongs := ledger.belongs_erase (.requests file) key
    named := ledger.named_erase (.requests file) key
    locks := ledger.locks_of_map (by simp [Share.push])
    sights := ledger.sights_erase (.requests file) rfl rfl
    requests := ledger.requests_at (s.history.earlyReaps = []) elsewhere id sound
    blankRequests := ledger.blank_at elsewhere (fun _ _ => rfl) inside
    completed := by
      intro early other open_
      have before := ledger.completed early other open_
      rw [countedEntries_erase present other, if_neg] at before
      · exact before
      · rintro ⟨rfl, counted⟩
        rcases quiet with closing | untracked
        · exact Bool.false_ne_true (open_.symm.trans closing)
        · have sound := ledger.requests request
          have done := sound.countedDone counted
          exact Bool.false_ne_true ((sound.untracked untracked).2.2.2.symm.trans done) }

/-- A call takes a request out of the table of its open file: it owes the counter one, or the request is reaped early. -/
theorem erase_reaped {file : Nat} {key : U32} {request : Nat} {sights : List Sight} 
    (ledger : Ledger s ((h.push (.use file)).push (.holding ⟨.file file, sights⟩)))
    (present : (s.tables (.requests file)).lookup key = some request) (tracked : (s.requests request).tracked = true) :
    Ledger (s.eraseEntry (.requests file) key request)
      ((((h.push (.ref (.request request))).push (.reaped request)).push (.owed file request)).push
        (.holding ⟨.file file, []⟩)) := by
  have owner : (s.requests request).owner = some file := ledger.belongs _ _ _ present
  have inside : request < s.requestCount := ledger.request_inside (ledger.live_entry present)
  have opened : (s.files file).opened = true := by
    apply ledger.usersOpened
    rw [ledger.users]
    simp [Share.users, Share.push]
  have open_ : (s.files file).closing = false := by
    by_contra closing
    exact Bool.false_ne_true ((ledger.closing file ((Bool.not_eq_false _).mp closing)).symm.trans opened)
  obtain ⟨earlyReaps, erased, early⟩ : ∃ earlyReaps, s.eraseEntry (.requests file) key request =
      (s.setTable (.requests file) ((s.tables (.requests file)).erase key)).setHistory { s.history with earlyReaps } ∧
      (earlyReaps = [] → s.history.earlyReaps = [] ∧ (s.requests request).counted = true) := by
    have late : s.earlyReap (.requests file) request =
      ((s.requests request).tracked && !(s.requests request).counted && !(s.files file).closing) := rfl
    rw [Shared.eraseEntry]
    split
    · exact ⟨_, rfl, (by rintro ⟨⟩)⟩
    · next onTime =>
        refine ⟨s.history.earlyReaps, rfl, fun none => ⟨none, ?_⟩⟩
        simpa [late, tracked, open_] using onTime
  have balanced := ledger.balanced.take (owners_eraseEntry present owner)
  have tokens : ∀ other, s.standing ((((h.push (.ref (.request request))).push (.reaped request)).push
      (.owed file request)).push (.holding ⟨.file file, []⟩)) other =
        { s.standing ((h.push (.use file)).push (.holding ⟨.file file, sights⟩)) other with
          reaped := h.reaped.count other + if other = request then 1 else 0 } := by
    intro other
    simp [Shared.standing, Share.push, Multiset.count_cons]
  have elsewhere := standing_unlist present owner tokens
  have sound := ledger.sound_unlist present owner tokens (earlyReaps = []) (by
    intro onTime _ uncounted _
    exact Bool.false_ne_true (uncounted.symm.trans (early onTime).2))
  rw [erased] at balanced ⊢
  exact { ledger with
    balanced := by
      have held : ((((h.push (.ref (.request request))).push (.reaped request)).push (.owed file request)).push
          (.holding ⟨.file file, []⟩)).held = .request request ::ₘ h.held := Share.held_ref ..
      rw [held]
      exact balanced
    belongs := ledger.belongs_erase (.requests file) key
    named := ledger.named_erase (.requests file) key
    locks := ledger.locks_of_map (by simp [Share.push])
    sights := ledger.sights_erase (.requests file) rfl rfl
    requests := ledger.requests_at (earlyReaps = []) elsewhere (fun onTime => (early onTime).1) sound
    blankRequests := ledger.blank_at elsewhere (fun _ _ => rfl) inside
    users := by
      intro other
      have before := ledger.users other
      change (s.files other).users = _
      simp only [Share.users, Share.push, Multiset.count_cons, Multiset.map_cons] at before ⊢
      omega
    completed := by
      intro onTime other open_
      have before := ledger.completed (early onTime).1 other open_
      rw [countedEntries_erase present other] at before
      change (s.files other).completed = (s.setTable _ _).countedEntries other + _
      simp only [Share.push, (early onTime).2, and_true, Multiset.count_cons, Multiset.map_cons] at before ⊢
      omega
    owing := by
      intro debt member
      rcases Multiset.mem_cons.mp member with rfl | before
      · by_cases onTime : earlyReaps = []
        · exact .inr ((ledger.requests request).countedDone (early onTime).2)
        · exact .inl onTime
      · refine (ledger.owing debt before).imp_left fun late onTime => ?_
        exact late (early onTime).1 }

/-- A mapping leaves the table of its file when nothing else refers to it, or when the file is closed. -/
theorem erase_mapping {file mapping : Nat} {handle : U32} {sights : List Sight}
    (ledger : Ledger s (h.push (.holding ⟨.file file, sights⟩)))
    (present : (s.tables (.mappings file)).lookup handle = some mapping)
    (unlinked : s.book.refs (.mapping mapping) = 1 ∨ (s.files file).opened = false) :
    Ledger (s.eraseEntry (.mappings file) handle mapping)
      ((h.push (.ref (.mapping mapping))).push (.holding ⟨.file file, []⟩)) := by
  have owner : (s.mappings mapping).file = file := ledger.belongs _ _ _ present
  have erased : s.eraseEntry (.mappings file) handle mapping =
      s.setTable (.mappings file) ((s.tables (.mappings file)).erase handle) := rfl
  exact { ledger with
    balanced := by
      have held : ((h.push (.ref (.mapping mapping))).push (.holding ⟨.file file, []⟩)).held =
          .mapping mapping ::ₘ h.held := Share.held_ref ..
      rw [held]
      exact ledger.balanced.take (owners_eraseEntry present owner)
    belongs := ledger.belongs_erase (.mappings file) handle
    locks := ledger.locks_of_map (by simp [Share.push])
    sights := ledger.sights_erase (.mappings file) rfl rfl
    linked := by
      intro onTime request other member
      have before := ledger.linked onTime request other member
      rw [erased, setTable_apply]
      split
      · next here =>
          have home : (s.mappings other).file = file := Index.mappings.inj here
          have differs : other ≠ mapping := by
            rintro rfl
            rcases unlinked with one | closed
            · have inside : request < s.requestCount := by
                by_contra outside
                rw [erased] at member
                change _ ∈ (s.requests request).links at member
                rw [(ledger.blankRequests request (by omega)).1] at member
                cases member
              have links := linksTo_pos _ inside member
              have two := ledger.two_refs present (Nat.add_pos_left links _)
              change 1 < s.book.refs (.mapping other) at two
              omega
            · exact ledger.closed onTime file closed request other member home
          have count := Table.count_erase present other
          rw [if_neg differs, ← home] at count
          rw [← home]
          omega
      · exact before
    mapped := by
      intro other
      have before : (s.tables (.mappings (s.mappings other).file)).count other ≤ 1 := ledger.mapped other
      change ((s.setTable _ _).tables (.mappings (s.mappings other).file)).count other ≤ 1
      rw [setTable_apply]
      split
      · next here =>
          have count := Table.count_erase present other
          rw [here] at before
          omega
      · exact before }

end Ledger
end VamsSoc.Driver
