/-
This file has the proof that the payload engine stays inside of the mappings that user space named in its call.
-/

import VamsSoc.Construction.Endpoint.Machine
import VamsSoc.Proof.Endpoint.Transfers
import VamsSoc.Proof.System.Admission

namespace VamsSoc.Pcie
open Library Abi

variable {σ α : Type} {host : Host σ} {scope : Attempt → Prop} {kept : DmaAccess → Prop}

/-- The accesses between two states have a property. -/
def AddsAccesses (kept : DmaAccess → Prop) (s t : State σ) : Prop :=
  ∃ accesses, t.history.accesses = accesses ++ s.history.accesses ∧ ∀ access ∈ accesses, kept access

theorem AddsAccesses.refl (s : State σ) : AddsAccesses kept s s := ⟨[], rfl, nofun⟩

theorem AddsAccesses.trans {s t u : State σ} (first : AddsAccesses kept s t) (second : AddsAccesses kept t u) :
    AddsAccesses kept s u := by
  obtain ⟨before, grows, early⟩ := first
  obtain ⟨after, continues, late⟩ := second
  refine ⟨after ++ before, by rw [continues, grows, List.append_assoc], fun access member => ?_⟩
  exact (List.mem_append.mp member).elim (late access) (early access)

/-- A transfer that reaches the bus is one access. -/
def Attempt.Keeps (kept : DmaAccess → Prop) : Attempt → Prop
  | .allocate _ => True
  | .read address count => kept (.read address count)
  | .write address bytes => kept (.write address bytes)

theorem addsAccesses_attempt {next : Attempt} (inside : next.Keeps kept) (s : State σ) :
    AddsAccesses kept s (attempt host s next).2 := by
  cases next with
  | allocate size => exact .refl s
  | read address count =>
      unfold attempt payloadRead
      dsimp only
      split
      · exact ⟨[], rfl, nofun⟩
      · split <;> exact ⟨[.read address count], rfl, List.forall_mem_singleton.mpr inside⟩
  | write address bytes =>
      unfold attempt payloadWrite
      dsimp only
      split
      · exact ⟨[], rfl, nofun⟩
      · split <;> exact ⟨[.write address bytes], rfl, List.forall_mem_singleton.mpr inside⟩

theorem addsAccesses_performs {attempts : List Attempt} {s t : State σ} (performs : Performs host s attempts t)
    (inside : ∀ next ∈ attempts, next.Keeps kept) : AddsAccesses kept s t := by
  induction attempts generalizing s with
  | nil =>
      obtain rfl : t = s := performs
      exact .refl t
  | cons next rest ih =>
      have later := ih performs.2 fun other listed => inside other (.tail _ listed)
      exact (addsAccesses_attempt (inside next (.head _)) s).trans later

theorem addsAccesses_runs {s : State σ} {outcome : Except U16 α × State σ}
    (runs : Runs host (Attempt.Keeps kept) s outcome) : AddsAccesses kept s outcome.2 := by
  cases runs with
  | done attempts inside value t performs => exact addsAccesses_performs performs inside
  | failed attempts inside t performs failing last fails =>
      exact (addsAccesses_performs performs inside).trans (addsAccesses_attempt last t)

/-- The engine makes only accesses that its operation covers. -/
theorem addsAccesses_executePayload {submission : Submission} (covers : Covers (Attempt.Keeps kept) submission)
    (s : State σ) (completion : Completion) :
    AddsAccesses kept s (executePayload host s submission completion).2 := by
  by_cases starts : completion.status ≠ statusSuccess ∨ ¬isPayloadOpcode submission.opcode
  · rw [executePayload, if_pos starts]
    exact .refl s
  by_cases valid : validateCommand submission = errNone
  · simp only [not_or, not_not] at starts
    rw [executePayload_eq host s starts.2 valid starts.1]
    exact addsAccesses_runs (runs_payloadOutcome covers (validated_of_accepted starts.2 valid))
  · rw [executePayload, if_neg starts, if_pos valid]
    exact .refl s

end VamsSoc.Pcie

namespace VamsSoc.Driver
open Library Abi

/-- The byte is in the mapping behind the handle, and the mapping allows the access. -/
def Covered (table : Table U32 Nat) (mappings : Nat → Mapping) (handle required : U32) (address : U64) : Prop :=
  ∃ mapping, table.lookup handle = some mapping ∧ (mappings mapping).flags &&& required = required ∧
    address.toNat ∈ Set.Ico (mappings mapping).dmaAddr.toNat
      ((mappings mapping).dmaAddr.toNat + (mappings mapping).length.toNat)

/-- Every byte of an access is in the mapping of its side; only a vector sum reads its destination. -/
def Contained (table : Table U32 Nat) (mappings : Nat → Mapping) (input : SubmitInput) (submission : Submission) :
    Pcie.DmaAccess → Prop
  | .read address count =>
      (∃ offset, address = submission.sourceDma + BitVec.ofNat 64 offset ∧ ∀ index < count,
        Covered table mappings input.sourceHandle bufferRead (address + BitVec.ofNat 64 index)) ∨
      (submission.opcode = opVectorAdd ∧ ∃ offset, address = submission.destinationDma + BitVec.ofNat 64 offset ∧
        ∀ index < count, Covered table mappings input.destinationHandle bufferRead (address + BitVec.ofNat 64 index))
  | .write address bytes => ∀ index < bytes.length,
      Covered table mappings input.destinationHandle bufferWrite (address + BitVec.ofNat 64 index)

section Containment
variable {table : Table U32 Nat} {mappings : Nat → Mapping} {file : Nat} {input : SubmitInput} {access : Access}
  {source destination : Option Nat × U64}

/-- The replies of a table that stays as it is. -/
def Looks (table : Table U32 Nat) (mappings : Nat → Mapping) (file : Nat) : (op : Op) → Reply op → Prop
  | .load index handle => fun reply => index = .mappings file → reply = table.lookup handle
  | .readMapping mapping => fun reply => ∀ handle, table.lookup handle = some mapping → reply = mappings mapping
  | _ => fun _ => True

theorem covered_of_located {required part handle : U32} {offset : U64} {length : U32} {side : Option Nat × U64}
    (needed : required ≠ 0) (within : required &&& part = part)
    (located : Located (Looks table mappings file) file required handle offset length side) {start count index : Nat}
    (inside : start + count ≤ length.toNat) (small : index < count) :
    Covered table mappings handle part (side.2 + BitVec.ofNat 64 start + BitVec.ofNat 64 index) := by
  rw [Located, if_neg needed] at located
  obtain ⟨mapping, record, last, -, loaded, read, added, found⟩ := located
  have present : table.lookup handle = some mapping := (loaded rfl).symm
  obtain rfl : record = mappings mapping := read handle present
  obtain ⟨flags, fits, -, begins, equal, ends⟩ := Mapping.range_eq_ok found
  obtain ⟨bound, rfl⟩ := checkAdd_eq_some added
  refine ⟨mapping, present, ?_, ?_⟩
  · calc (mappings mapping).flags &&& part = (mappings mapping).flags &&& (required &&& part) := by rw [within]
      _ = (mappings mapping).flags &&& required &&& part := by rw [BitVec.and_assoc]
      _ = part := by rw [flags, within]
  · rw [Set.mem_Ico]
    have wide : (length.setWidth 64 : U64).toNat = length.toNat := by bv_omega
    have sum : (offset + length.setWidth 64).toNat = offset.toNat + length.toNat := by bv_omega
    have first : side.2.toNat = (mappings mapping).dmaAddr.toNat + offset.toNat := by bv_omega
    have cell : (side.2 + BitVec.ofNat 64 start + BitVec.ofNat 64 index).toNat = side.2.toNat + start + index := by
      bv_omega
    rw [BitVec.not_lt, BitVec.le_def, sum] at fits
    omega

theorem covers_of_admits (admits : Admits (Looks table mappings file) file input access source destination)
    (commandId : U32) :
    Pcie.Covers
      (Pcie.Attempt.Keeps (Contained table mappings input { input.descriptor source.2 destination.2 with commandId }))
      { input.descriptor source.2 destination.2 with commandId } := by
  have located := admits.located
  have located' := admits.located'
  have opcode {byte : U8} (same : input.opcode = byte.setWidth 16) : (input.opcode.setWidth 8 : U8) = byte := by
    rw [same, setWidth_setWidth]
  have read : bufferRead ≠ 0 ∧ bufferRead &&& bufferRead = bufferRead := by decide
  have write : bufferWrite ≠ 0 ∧ bufferWrite &&& bufferWrite = bufferWrite := by decide
  have both : bufferRead ||| bufferWrite ≠ 0 ∧ (bufferRead ||| bufferWrite) &&& bufferRead = bufferRead ∧
      (bufferRead ||| bufferWrite) &&& bufferWrite = bufferWrite := by decide
  -- The rule for the source looks at the opcode once more, because a fill reads one byte only.
  let limit : Nat := if (input.opcode.setWidth 8 : U8) = opMemFill then 1 else input.length.toNat
  have other (differs : (input.opcode.setWidth 8 : U8) ≠ opMemFill) : limit = input.length.toNat := if_neg differs
  rcases access_cases admits.opcode with ⟨nop, empty, rfl⟩ | ⟨copy, -, rfl⟩ | ⟨fill, -, rfl⟩ | ⟨crc, -, rfl⟩ |
    ⟨add, -, rfl⟩
  · have none : input.length.toNat = 0 := congrArg BitVec.toNat empty
    have limits := other (by rw [opcode nop]; decide)
    refine ⟨fun _ => trivial, fun start count inside => .inl ⟨start, rfl, fun index small => ?_⟩,
      fun adds => absurd ((opcode nop).symm.trans adds) (by decide), fun _ start bytes inside index small => ?_⟩
    · change start + count ≤ limit at inside
      omega
    · change start + bytes.length ≤ input.length.toNat at inside
      omega
  · have limits := other (by rw [opcode copy]; decide)
    refine ⟨fun _ => trivial, fun start count inside => .inl ⟨start, rfl, fun index small => ?_⟩,
      fun adds => absurd ((opcode copy).symm.trans adds) (by decide), fun _ start bytes inside index small => ?_⟩
    · exact covered_of_located read.1 read.2 located (le_of_le_of_eq inside limits) small
    · exact covered_of_located write.1 write.2 located' inside small
  · have limits : limit = 1 := if_pos (opcode fill)
    refine ⟨fun _ => trivial, fun start count inside => .inl ⟨start, rfl, fun index small => ?_⟩,
      fun adds => absurd ((opcode fill).symm.trans adds) (by decide), fun _ start bytes inside index small => ?_⟩
    · exact covered_of_located read.1 read.2 located (le_of_le_of_eq inside limits) small
    · exact covered_of_located write.1 write.2 located' inside small
  · have limits := other (by rw [opcode crc]; decide)
    refine ⟨fun _ => trivial, fun start count inside => .inl ⟨start, rfl, fun index small => ?_⟩,
      fun adds => absurd ((opcode crc).symm.trans adds) (by decide), fun differs => absurd (opcode crc) differs⟩
    exact covered_of_located read.1 read.2 located (le_of_le_of_eq inside limits) small
  · have limits := other (by rw [opcode add]; decide)
    refine ⟨fun _ => trivial, fun start count inside => .inl ⟨start, rfl, fun index small => ?_⟩,
      fun adds start count inside => .inr ⟨adds, start, rfl, fun index small => ?_⟩,
      fun _ start bytes inside index small => ?_⟩
    · exact covered_of_located read.1 read.2 located (le_of_le_of_eq inside limits) small
    · exact covered_of_located both.1 both.2.1 located' inside small
    · exact covered_of_located both.1 both.2.2 located' inside small

end Containment

/-- The table of the calling file does not change while the call has the lock of the file. -/
def Frozen {δ : Type} (table : Table U32 Nat) (mappings : Nat → Mapping) (file : Nat) (s : Shared δ) : Prop :=
  (s.tables (.mappings file)).entries = table.entries ∧ ∀ entry ∈ table.entries, s.mappings entry.2 = mappings entry.2

instance {δ : Type} (table : Table U32 Nat) (mappings : Nat → Mapping) (file : Nat) :
    DecidablePred (Frozen (δ := δ) table mappings file) :=
  fun _ => inferInstanceAs (Decidable (_ ∧ _))

theorem looks_of_frozen {δ : Type} {hw : Hardware δ} {table : Table U32 Nat} {mappings : Nat → Mapping} {file : Nat}
    (choice : Choice) (s : Shared δ) (own : Own) (op : Op) (reply : Reply op) (s' : Shared δ) (own' : Own)
    (frozen : Frozen table mappings file s) (executed : exec hw choice s own op = some (reply, s', own')) :
    Looks table mappings file op reply := by
  cases op with
  | load index handle =>
      rintro rfl
      obtain rfl : (s.tables (.mappings file)).lookup handle = reply := congrArg Prod.fst (Option.some.inj executed)
      rw [Table.lookup, Table.lookup, frozen.1]
  | readMapping mapping =>
      intro handle present
      obtain rfl : s.mappings mapping = reply := congrArg Prod.fst (Option.some.inj executed)
      exact frozen.2 _ (Table.lookup_eq_some.mp present)
  | _ => trivial

/-- For a published descriptor the engine reads and writes only inside of the mappings that the call named. -/
theorem executePayload_contained {δ σ : Type} (hw : Hardware δ) (host : Pcie.Host σ) (table : Table U32 Nat)
    (mappings : Nat → Mapping) (file : Nat) (input : SubmitInput) (slot : U32) (submission : Submission)
    (published : (ioctlSubmit file input).Performs (exec hw) (Frozen table mappings file)
      (.storeSubmission slot submission)) (s : Pcie.State σ) (completion : Completion) :
    ∃ accesses, (Pcie.executePayload host s submission completion).2.history.accesses =
        accesses ++ s.history.accesses ∧
      ∀ access ∈ accesses, Contained table mappings input submission access := by
  let covered (submission : Submission) : Prop :=
    Pcie.Covers (Pcie.Attempt.Keeps (Contained table mappings input submission)) submission
  have stores : Stores (Looks table mappings file) covered (fun _ => True) (ioctlSubmit file input) :=
    ioctlSubmit_stores file input fun _ _ _ commandId admits => covers_of_admits admits commandId
  have covers : covered submission := stores.performed looks_of_frozen published
  exact Pcie.addsAccesses_executePayload covers s completion

def alignedSum : SubmitInput := { vectorSum with sourceOffset := 4 }
def alignedSumDescriptor : Submission := { vectorSumDescriptor with sourceDma := 0x1004 }

/-- The sum of two words reads both sides and writes the result. -/
theorem alignedSum_contained :
    (Pcie.executePayload Pcie.zeroHost { memory := () } alignedSumDescriptor {}).2.history.accesses.length = 3 ∧
    ∃ accesses, (Pcie.executePayload Pcie.zeroHost { memory := () } alignedSumDescriptor {}).2.history.accesses =
        accesses ++ [] ∧
      ∀ access ∈ accesses,
        Contained (twoMappings.tables (.mappings 0)) twoMappings.mappings alignedSum alignedSumDescriptor access :=
  ⟨by decide +kernel, executePayload_contained zeroHardware Pcie.zeroHost (twoMappings.tables (.mappings 0))
    twoMappings.mappings 0 alignedSum 0 alignedSumDescriptor
    (performs_of_mem_trace (List.replicate 40 {}) twoMappings {} (by decide +kernel)) { memory := () } {}⟩

end VamsSoc.Driver
