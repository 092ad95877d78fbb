/-
This file has what the driver checks before it publishes a descriptor for a call from user space.
-/

import VamsSoc.Construction.Driver.Calls

namespace VamsSoc.Driver
open Library Abi

def Op.Stores (stored : Submission → Prop) : Op → Prop
  | .storeSubmission _ submission => stored submission
  | _ => True

abbrev Stores (possible : (op : Op) → Reply op → Prop) (stored : Submission → Prop) {α : Type} (post : α → Prop)
    (code : Code α) : Prop :=
  code.Ensures possible (Op.Stores stored) post

/-- The operation rings the doorbell of the submission queue. -/
def Op.rings : Op → Bool
  | .writel .sqDoorbell _ => true
  | _ => false

/-- Only a published descriptor needs these operations. -/
def Op.publishes : Op → Bool
  | .storeSubmission _ _ => true
  | op => op.rings

/-- These operations of a drain leave the tables, the references to requests, and the submission queue alone. -/
def Op.plain : Op → Bool
  | .readl _ | .loadCompletion _ | .fields | .lock _ | .unlock _ | .putReference _ | .free _ | .setRequest _ _
  | .readRequest _ | .completeAll _ | .ownerOpen _ | .incCompleted _ | .decPending | .putDevice | .freeDevice
  | .release _ | .writel .cqDoorbell _ => true
  | .assign (.cqHead _) | .assign (.nopTestResult _) | .assign (.nopTestPending _) | .assign (.nopTest _) => true
  | _ => false

theorem publishes_of_plain {op : Op} (plain : op.plain = true) : op.publishes = false := by
  cases op with
  | storeSubmission slot submission => cases plain
  | writel register value => cases register <;> first | rfl | cases plain
  | _ => rfl

section Usual
variable {possible : (op : Op) → Reply op → Prop} {allowed : Op → Prop}

abbrev Performs {α : Type} (possible : (op : Op) → Reply op → Prop) (allowed : Op → Prop) (code : Code α) : Prop :=
  code.Ensures possible allowed fun _ => True

theorem performs_call {op : Op} (may : allowed op) : Performs possible allowed (call op) := ⟨may, fun _ _ => trivial⟩

section Simple
variable (simple : ∀ op : Op, op.plain = true → allowed op)
include simple

theorem deviceRelease_plain : Performs possible allowed deviceRelease := by
  refine .op (simple _ rfl) fun fields _ => ?_
  dsimp only
  split
  · refine .op (simple _ rfl) fun _ _ => ?_
    split
    · exact .op (simple _ rfl) fun _ _ => .op (simple _ rfl) fun _ _ => performs_call (simple _ rfl)
    · exact .op (simple _ rfl) fun _ _ => performs_call (simple _ rfl)
  · split
    · exact .op (simple _ rfl) fun _ _ => .op (simple _ rfl) fun _ _ => performs_call (simple _ rfl)
    · exact .op (simple _ rfl) fun _ _ => performs_call (simple _ rfl)

theorem fileReleaseRefs_plain (file : Nat) : Performs possible allowed (fileReleaseRefs file) := by
  refine .seq (.op (simple _ rfl) fun last _ => ?_) fun _ => performs_call (simple _ rfl)
  cases last with
  | true => exact deviceRelease_plain simple
  | false => trivial

theorem releaseObject_plain (object : Option Object) : Performs possible allowed (releaseObject object) := by
  match object with
  | none => trivial
  | some (.request _) => trivial
  | some (.mapping _) => exact performs_call (simple _ rfl)
  | some (.file file) => exact fileReleaseRefs_plain simple file

end Simple

variable (usual : ∀ op : Op, op.publishes = false → allowed op)
include usual

theorem mappingPut_usual (mapping : Option Nat) : Performs possible allowed (mappingPut mapping) := by
  cases mapping with
  | none => trivial
  | some mapping =>
      refine .op (usual _ rfl) fun last _ => ?_
      cases last with
      | true => exact performs_call (usual _ rfl)
      | false => trivial

theorem requestPut_usual (request : Nat) : Performs possible allowed (requestPut request) := by
  refine .op (usual _ rfl) fun last _ => ?_
  cases last with
  | true =>
      have simple (op : Op) (plain : op.plain = true) : allowed op := usual op (publishes_of_plain plain)
      refine .op (usual _ rfl) fun source _ => (releaseObject_plain simple source).seq fun _ => ?_
      refine .op (usual _ rfl) fun destination _ => (releaseObject_plain simple destination).seq fun _ => ?_
      refine .op (usual _ rfl) fun owner _ => (releaseObject_plain simple owner).seq fun _ => ?_
      exact performs_call (usual _ rfl)
  | false => trivial

theorem xaErase_usual (index : Index) (key : U32) : Performs possible allowed (xaErase index key) := by
  unfold xaErase
  split
  · exact .op (usual _ rfl) fun _ _ => .op (usual _ rfl) fun _ _ => .op (usual _ rfl) fun _ _ => trivial
  · exact performs_call (usual _ rfl)

theorem xaInsert_usual (index : Index) (key : U32) (value : Nat) :
    Performs possible allowed (xaInsert index key value) := by
  unfold xaInsert
  split
  · exact .op (usual _ rfl) fun _ _ => .op (usual _ rfl) fun _ _ => .op (usual _ rfl) fun _ _ => trivial
  · exact performs_call (usual _ rfl)

theorem retireRequest_usual (request : Nat) : Performs possible allowed (retireRequest request) := by
  refine .seq (.op (usual _ rfl) fun _ _ => trivial) fun _ => .op (usual _ rfl) fun _ _ => ?_
  refine .op (usual _ rfl) fun opened _ => ?_
  dsimp only
  split
  · exact .op (usual _ rfl) fun _ _ => .op (usual _ rfl) fun _ _ => requestPut_usual usual request
  · exact .op (usual _ rfl) fun _ _ => requestPut_usual usual request

theorem finishRequest_usual (completion : Completion) : Performs possible allowed (finishRequest completion) := by
  refine (xaErase_usual usual _ _).seq fun found => ?_
  cases found with
  | none => trivial
  | some request =>
      refine .op (usual _ rfl) fun _ _ => .op (usual _ rfl) fun _ _ => ?_
      exact (retireRequest_usual usual request).seq fun _ => trivial

theorem drainLoop_usual (fuel : Nat) (tail : U32) : Performs possible allowed (drainLoop fuel tail) := by
  induction fuel with
  | zero => trivial
  | succ fuel ih =>
      refine .op (usual _ rfl) fun fields _ => ?_
      dsimp only
      split
      · trivial
      refine .op (usual _ rfl) fun completion _ => .op (usual _ rfl) fun _ _ => .op (usual _ rfl) fun fields _ => ?_
      split
      · refine .op (usual _ rfl) fun _ _ => .op (usual _ rfl) fun _ _ => .op (usual _ rfl) fun _ _ => ?_
        exact ih.seq fun _ => trivial
      · exact (finishRequest_usual usual completion).seq fun _ => ih.seq fun _ => trivial

theorem drainCq_usual : Performs possible allowed drainCq := by
  refine .op (usual _ rfl) fun fields _ => ?_
  split
  · trivial
  refine .op (usual _ rfl) fun _ _ => .op (usual _ rfl) fun tail _ => ?_
  split
  · exact .op (usual _ rfl) fun _ _ => trivial
  refine (drainLoop_usual usual _ tail).seq fun drained => ?_
  dsimp only
  split
  · refine .op (usual _ rfl) fun fields _ => .op (usual _ rfl) fun _ _ => ?_
    exact .op (usual _ rfl) fun _ _ => trivial
  · exact .op (usual _ rfl) fun _ _ => trivial

theorem listRequest_usual (owner : Option Nat) (commandId : U32) (request : Nat) :
    Performs possible allowed (listRequest owner commandId request) := by
  cases owner with
  | none => trivial
  | some file => exact xaInsert_usual usual _ _ _

theorem unlistRequest_usual (owner : Option Nat) (commandId : U32) :
    Performs possible allowed (unlistRequest owner commandId) := by
  cases owner with
  | none => trivial
  | some file => exact (xaErase_usual usual _ _).seq fun _ => trivial

theorem trackLoop_usual (request attempts : Nat) : Performs possible allowed (trackLoop request attempts) := by
  induction attempts with
  | zero => trivial
  | succ attempts ih =>
      refine .op (usual _ rfl) fun commandId _ => ?_
      split
      · exact ih
      refine .op (usual _ rfl) fun _ _ => .op (usual _ rfl) fun record _ => ?_
      refine (listRequest_usual usual _ _ _).seq fun listed => ?_
      split
      · exact ih
      · trivial
      refine .op (usual _ rfl) fun _ _ => (xaInsert_usual usual _ _ _).seq fun inserted => ?_
      cases inserted with
      | none => trivial
      | some error =>
          refine (requestPut_usual usual _).seq fun _ => (unlistRequest_usual usual _ _).seq fun _ => ?_
          split
          · exact ih
          · trivial

end Usual

section Stores
variable {possible : (op : Op) → Reply op → Prop} {stored : Submission → Prop}

/-- An operation that does not publish stores no descriptor. -/
theorem stores_usual (op : Op) (usual : op.publishes = false) : op.Stores stored := by
  cases op with
  | storeSubmission slot submission => cases usual
  | _ => trivial

section Submit
variable {descriptor : Submission} (stores : ∀ commandId, stored { descriptor with commandId })
include stores

theorem publishRequest_stores (request : Nat) (nextTail : U32) :
    Stores possible stored (fun _ => True) (publishRequest request descriptor nextTail) := by
  simp [publishRequest, requestSyncForDevice, call, Program.call, Program.Ensures, Op.Stores, stores]

theorem submitLocked_stores (request : Nat) :
    Stores possible stored (fun _ => True) (submitLocked request descriptor) := by
  refine .op trivial fun fields _ => ?_
  split
  · trivial
  refine .op trivial fun fields _ => ?_
  split
  · trivial
  refine (drainCq_usual stores_usual).seq fun _ => .op trivial fun sqHead _ => ?_
  split
  · trivial
  refine .op trivial fun fields _ => ?_
  dsimp only
  split
  · trivial
  refine (trackLoop_usual stores_usual _ _).seq fun tracked => ?_
  cases tracked with
  | some error => trivial
  | none => exact (publishRequest_stores stores _ _).seq fun _ => trivial

theorem submit_stores (request : Nat) : Stores possible stored (fun _ => True) (submit request descriptor) := by
  refine .op trivial fun _ _ => (submitLocked_stores stores request).seq fun result => ?_
  exact .op trivial fun _ _ => trivial

theorem submitRequest_stores (file : Nat) (input : SubmitInput) (source destination : Option Nat × U64)
    (same : descriptor = input.descriptor source.2 destination.2) :
    Stores possible stored (fun _ => True) (submitRequest file input source destination) := by
  subst same
  refine .op trivial fun allocated _ => ?_
  cases allocated with
  | none => exact (mappingPut_usual stores_usual _).seq fun _ => (mappingPut_usual stores_usual _).seq fun _ => trivial
  | some request =>
      refine .op trivial fun _ _ => (submit_stores stores request).seq fun submitted => ?_
      cases submitted with
      | some error => exact (requestPut_usual stores_usual _).seq fun _ => trivial
      | none =>
          refine .op trivial fun record _ => .op trivial fun copied _ => ?_
          cases copied with
          | true => trivial
          | false =>
              refine (xaErase_usual stores_usual _ _).seq fun _ => .op trivial fun done _ => ?_
              cases done with
              | true => exact .op trivial fun _ _ => (requestPut_usual stores_usual _).seq fun _ => trivial
              | false => exact (requestPut_usual stores_usual _).seq fun _ => trivial

end Submit

theorem checkAdd_eq_some {first second sum : U64} (added : checkAdd first second = some sum) :
    first.toNat + second.toNat < 2 ^ 64 ∧ sum = first + second := by
  unfold checkAdd at added
  split at added
  · next fits => exact ⟨fits, (Option.some.inj added).symm⟩
  · cases added

theorem Mapping.range_eq_ok {mapping : Mapping} {offset last address : U64} {length required : U32}
    (found : mapping.range offset length required last = .ok address) :
    mapping.flags &&& required = required ∧ ¬mapping.length < last ∧ address ≠ 0 ∧
      mapping.dmaAddr.toNat + offset.toNat < 2 ^ 64 ∧ address = mapping.dmaAddr + offset ∧
      address.toNat + length.toNat < 2 ^ 64 := by
  unfold Mapping.range at found
  split at found
  · cases found
  next flags =>
  split at found
  · cases found
  next fits =>
  split at found
  · cases found
  next sum added =>
  split at found
  · cases found
  next bad =>
  obtain rfl : sum = address := Except.ok.inj found
  obtain ⟨inside, equal⟩ := checkAdd_eq_some added
  rw [not_or] at bad
  obtain ⟨end', ended⟩ := Option.ne_none_iff_exists'.mp bad.2
  have wide : (length.setWidth 64 : U64).toNat = length.toNat := by bv_omega
  have bound := (checkAdd_eq_some ended).1
  rw [wide] at bound
  exact ⟨not_not.mp flags, fits, bad.1, inside, equal, bound⟩

/-- What the lookup of one side found: a mapping behind the handle whose record gives the address. -/
def Located (possible : (op : Op) → Reply op → Prop) (file : Nat) (access handle : U32) (offset : U64) (length : U32)
    (side : Option Nat × U64) : Prop :=
  if access = 0 then side = (none, 0)
  else ∃ mapping record last, side.1 = some mapping ∧ possible (.load (.mappings file) handle) (some mapping) ∧
    possible (.readMapping mapping) record ∧ checkAdd offset (length.setWidth 64) = some last ∧
    record.range offset length access last = .ok side.2

theorem mappingLookupLocked_stores (file : Nat) (handle : U32) (offset : U64) (length required : U32) :
    Stores possible stored
      (fun found => ∀ mapping address, found = .ok (mapping, address) → ∃ record last,
        possible (.load (.mappings file) handle) (some mapping) ∧ possible (.readMapping mapping) record ∧
        checkAdd offset (length.setWidth 64) = some last ∧ record.range offset length required last = .ok address)
      (mappingLookupLocked file handle offset length required) := by
  unfold mappingLookupLocked
  split
  · exact nofun
  next last added =>
  split
  · exact nofun
  refine .op trivial fun loaded looked => ?_
  cases loaded with
  | none => exact nofun
  | some mapping =>
      refine .op trivial fun record read => ?_
      split
      · exact nofun
      next address found =>
      refine .op trivial fun _ _ => ?_
      rintro _ _ ⟨⟩
      exact ⟨record, last, looked, read, added, found⟩

theorem lookupSide_stores (file : Nat) (access handle : U32) (offset : U64) (length : U32) :
    Stores possible stored (fun found => ∀ side, found = .ok side → Located possible file access handle offset length side)
      (lookupSide file access handle offset length) := by
  unfold lookupSide Located
  split
  · rintro side equal
    exact (Except.ok.inj equal).symm
  refine ensures_bind.mpr ((mappingLookupLocked_stores _ _ _ _ _).mono fun found located => ?_)
  cases found with
  | error error => exact nofun
  | ok pair =>
      rintro side equal
      obtain rfl := Except.ok.inj equal
      obtain ⟨record, last, rest⟩ := located _ _ rfl
      exact ⟨pair.1, record, last, rfl, rest⟩

/-- The call publishes a descriptor only for what its checks let through. -/
structure Admits (possible : (op : Op) → Reply op → Prop) (file : Nat) (input : SubmitInput) (access : Access)
    (source destination : Option Nat × U64) : Prop where
  wellFormed : input.wellFormed = true
  opcode : input.access = some access
  located : Located possible file access.source input.sourceHandle input.sourceOffset access.sourceLength source
  located' : Located possible file access.destination input.destinationHandle input.destinationOffset input.length
    destination
  apart : input.overlaps source.2 destination.2 = false

theorem ioctlSubmit_stores (file : Nat) (input : SubmitInput)
    (stores : ∀ access source destination commandId, Admits possible file input access source destination →
      stored { input.descriptor source.2 destination.2 with commandId }) :
    Stores possible stored (fun _ => True) (ioctlSubmit file input) := by
  refine .op trivial fun copied _ => ?_
  split
  · trivial
  split
  · trivial
  next formed =>
  split
  · trivial
  next access opcode =>
  refine .op trivial fun _ _ => Program.Ensures.seq ?_ fun _ => .op trivial fun _ _ => trivial
  refine .op trivial fun closing _ => ?_
  split
  · trivial
  refine ensures_bind.mpr ((lookupSide_stores _ _ _ _ _).mono fun found located => ?_)
  cases found with
  | error error => trivial
  | ok source =>
      refine ensures_bind.mpr ((lookupSide_stores _ _ _ _ _).mono fun found located' => ?_)
      cases found with
      | error error => exact (mappingPut_usual stores_usual _).seq fun _ => trivial
      | ok destination =>
          dsimp only
          split
          · exact (mappingPut_usual stores_usual _).seq fun _ => (mappingPut_usual stores_usual _).seq fun _ => trivial
          next apart =>
          refine submitRequest_stores (fun commandId => stores access source destination commandId ?_) _ _ _ _ rfl
          exact ⟨by simpa using formed, opcode, located _ rfl, located' _ rfl, by simpa using apart⟩

end Stores
end VamsSoc.Driver
