/-
This file has the proof that the three command checks of the system agree: the one of the driver, the one of the
endpoint, and the one of the firmware.
-/

import VamsSoc.Construction.Endpoint.Payload
import VamsSoc.Proof.Driver.Publishing
import VamsSoc.Proof.Firmware.FirstFailure

namespace VamsSoc.Pcie
open Library Abi

theorem validateRanges_eq (submission : Submission) :
    validateRanges submission = firstError errNone (Firmware.operationChecks submission) := by
  have overflows : rangeOverflows = Firmware.rangeOverflows := rfl
  have overlap : rangesOverlap = Firmware.rangesOverlap := rfl
  have longest : maxTransfer = Firmware.maxTransferSize := rfl
  by_cases known : submission.opcode ∈ Firmware.knownOpcodes
  · rcases Firmware.known_cases known with nop | copy | fill | crc | add
    · rw [Firmware.operationChecks_nop nop]
      simp [validateRanges, Firmware.nopChecks, nop, firstError]
    · rw [Firmware.operationChecks_copy copy]
      simp [validateRanges, Firmware.copyChecks, copy, firstError, opNop, opMemCopy, overflows, overlap, longest]
    · rw [Firmware.operationChecks_fill fill]
      simp [validateRanges, Firmware.fillChecks, fill, firstError, opNop, opMemCopy, opMemFill, overflows, longest]
    · rw [Firmware.operationChecks_crc crc]
      simp [validateRanges, Firmware.crcChecks, crc, firstError, opNop, opMemCopy, opMemFill, opCrc32, overflows,
        longest]
    · rw [Firmware.operationChecks_add add]
      simp [validateRanges, Firmware.addChecks, add, firstError, opNop, opMemCopy, opMemFill, opCrc32, opVectorAdd,
        overflows, overlap, longest]
  · obtain ⟨nop, copy, fill, crc, add⟩ := Firmware.not_known_iff.mp known
    simp [validateRanges, Firmware.operationChecks, nop, copy, fill, crc, add, firstError]

/-- The endpoint and the firmware give the same error for every descriptor. -/
theorem validateCommand_eq_firmware (submission : Submission) :
    validateCommand submission = Firmware.validateCommand submission := by
  have timeout : (60000 < submission.timeoutMs) ↔ Firmware.maxTimeoutMs < submission.timeoutMs := Iff.rfl
  have verify : (¬hasBits submission.flags subFVerifyCrc = true) ↔ submission.flags &&& subFVerifyCrc = 0 := by
    simp [hasBits]
  rw [Firmware.validateCommand_eq_firstError]
  simp only [validateCommand, validateRanges_eq, timeout, verify, Firmware.headerChecks, List.cons_append,
    List.nil_append, firstError, decide_eq_true_eq]

end VamsSoc.Pcie

namespace VamsSoc.Driver
open Library Abi

section Descriptor
variable {possible : (op : Op) → Reply op → Prop} {file : Nat} {input : SubmitInput} {access : Access}
  {source destination : Option Nat × U64}

theorem and_of_clearBits {width : Nat} {word mask : BitVec width} (clear : clearBits word mask = 0) :
    word &&& mask = word := by
  ext index inside
  have bit : (clearBits word mask)[index] = false := by simp [clear]
  simp only [clearBits, BitVec.getElem_and, BitVec.getElem_not] at bit
  rw [BitVec.getElem_and]
  revert bit
  cases word[index] <;> cases mask[index] <;> simp

theorem flags_cases {flags : U16} (clear : clearBits flags 1 = 0) : flags = 0 ∨ flags = 1 := by
  have low : (flags &&& 1).toNat = flags.toNat % 2 := by
    rw [BitVec.toNat_and]
    exact Nat.and_one_is_mod _
  rw [and_of_clearBits clear] at low
  bv_omega

theorem setWidth_inj {first second : U8} : first.setWidth 16 = (second.setWidth 16 : U16) ↔ first = second := by
  bv_omega

theorem setWidth_setWidth (opcode : U8) : ((opcode.setWidth 16 : U16).setWidth 8 : U8) = opcode := by
  bv_omega

/-- The checks that do not look at the opcode cover the rules up to the timeout. -/
theorem header_kept {opcode : U8} (formed : input.wellFormed = true) (known : opcode ∈ Firmware.knownOpcodes)
    (same : input.opcode = opcode.setWidth 16) (sourceDma destinationDma : U64) (commandId : U32)
    (rule : Firmware.Rule) (header : rule ∈ [.version, .opcode, .flags, .reserved, .timeout]) :
    rule.violated { input.descriptor sourceDma destinationDma with commandId } = false := by
  simp only [SubmitInput.wellFormed, decide_eq_true_eq, same, setWidth_inj] at formed
  obtain ⟨-, -, -, timeout, -, clear, onlyCrc, expected⟩ := formed
  have flags := flags_cases clear
  simp only [List.mem_cons, List.not_mem_nil, or_false] at header
  rcases header with rfl | rfl | rfl | rfl | rfl
  · rfl
  · change decide ((input.opcode.setWidth 8 : U8) ∉ Firmware.knownOpcodes) = false
    rw [same, setWidth_setWidth]
    simpa using known
  · change decide ((if (input.opcode.setWidth 8 : U8) = opCrc32 then 1 else 0) < (input.flags.setWidth 8 : U8).toNat) = false
    rw [same, setWidth_setWidth]
    rcases flags with zero | one
    · simp [zero]
    · simp [one, onlyCrc.resolve_right (by simp [one])]
  · change decide ((((input.opcode.setWidth 8 : U8) ≠ opCrc32 ∨ (input.flags.setWidth 8 : U8) &&& subFVerifyCrc = 0) ∧
      input.expectedCrc ≠ 0) ∨ (0 : U32) ≠ 0 ∨ (0 : U64) ≠ 0 ∨ (0 : U64) ≠ 0) = false
    rw [same, setWidth_setWidth]
    rcases expected with ⟨some, crc⟩ | zero
    · rw [crc, flags.resolve_left some]
      simp [subFVerifyCrc]
    · simp [zero]
  · exact decide_eq_false (not_lt.mpr timeout)

theorem inRange_of_located {required handle : U32} {offset : U64} {length : U32} {side : Option Nat × U64}
    (some : required ≠ 0) (located : Located possible file required handle offset length side) :
    side.2.toNat ≠ 0 ∧ side.2.toNat + length.toNat < 2 ^ 64 := by
  rw [Located, if_neg some] at located
  obtain ⟨_, record, _, -, -, -, -, found⟩ := located
  obtain ⟨-, -, nonzero, -, -, fits⟩ := Mapping.range_eq_ok found
  exact ⟨mt (Firmware.toNat_eq_zero_iff _).mp nonzero, fits⟩

/-- What the switch over the opcode lets through. -/
theorem access_cases (admitted : input.access = some access) :
    (input.opcode = opNop.setWidth 16 ∧ input.length = 0 ∧ access = {}) ∨
    (input.opcode = opMemCopy.setWidth 16 ∧ input.length ≠ 0 ∧
      access = { source := bufferRead, destination := bufferWrite, sourceLength := input.length }) ∨
    (input.opcode = opMemFill.setWidth 16 ∧ input.length ≠ 0 ∧
      access = { source := bufferRead, destination := bufferWrite, sourceLength := 1 }) ∨
    (input.opcode = opCrc32.setWidth 16 ∧ input.length ≠ 0 ∧
      access = { source := bufferRead, sourceLength := input.length }) ∨
    (input.opcode = opVectorAdd.setWidth 16 ∧ (4 ≤ input.length ∧ input.length &&& 3 = 0) ∧
      access = { source := bufferRead, destination := bufferRead ||| bufferWrite, sourceLength := input.length }) := by
  unfold SubmitInput.access at admitted
  split at admitted
  · next nop =>
      split at admitted
      · next empty => exact .inl ⟨nop, empty.2.2.2.2, (Option.some.inj admitted).symm⟩
      · cases admitted
  split at admitted
  · next copy =>
      split at admitted
      · next some => exact .inr (.inl ⟨copy, some.1, (Option.some.inj admitted).symm⟩)
      · cases admitted
  split at admitted
  · next fill =>
      split at admitted
      · next some => exact .inr (.inr (.inl ⟨fill, some.1, (Option.some.inj admitted).symm⟩))
      · cases admitted
  split at admitted
  · next crc =>
      split at admitted
      · next some => exact .inr (.inr (.inr (.inl ⟨crc, some.1, (Option.some.inj admitted).symm⟩)))
      · cases admitted
  split at admitted
  · next add =>
      split at admitted
      · next some => exact .inr (.inr (.inr (.inr ⟨add, ⟨some.1, some.2.1⟩, (Option.some.inj admitted).symm⟩)))
      · cases admitted
  · cases admitted

/-- The rules on the length and on the addresses, apart from the alignment. -/
def RangesKept (submission : Submission) : Prop :=
  Firmware.Rule.violated submission .length = false ∧ Firmware.badAddresses submission = false ∧
    Firmware.Rule.violated submission .overflow = false ∧ Firmware.Rule.violated submission .overlap = false

theorem nop_kept (nop : input.opcode = opNop.setWidth 16) (empty : input.length = 0) (commandId : U32) :
    RangesKept { input.descriptor 0 0 with commandId } := by
  simp [RangesKept, Firmware.Rule.violated, Firmware.badAddresses, Firmware.usedRanges, SubmitInput.descriptor, nop,
    empty, opNop, opMemCopy, opVectorAdd]

section Ranges
variable {sourceDma destinationDma : U64} (short : input.length.toNat ≤ 2 ^ 24) (commandId : U32)
include short

theorem fill_kept (fill : input.opcode = opMemFill.setWidth 16) (some : input.length ≠ 0)
    (sourceIn : sourceDma.toNat ≠ 0 ∧ sourceDma.toNat + 1 < 2 ^ 64)
    (destinationIn : destinationDma.toNat ≠ 0 ∧ destinationDma.toNat + input.length.toNat < 2 ^ 64) :
    RangesKept { input.descriptor sourceDma destinationDma with commandId } := by
  have legal : Firmware.LegalLength input.length := ⟨by bv_omega, short⟩
  have source : ¬sourceDma = 0#64 := by bv_omega
  have destination : ¬destinationDma = 0#64 := by bv_omega
  have sourceFits : sourceDma.toNat < 18446744073709551616 := sourceDma.isLt
  have destinationFits : destinationDma.toNat + input.length.toNat ≤ 18446744073709551616 := le_of_lt destinationIn.2
  simp [RangesKept, Firmware.Rule.violated, Firmware.badAddresses, Firmware.usedRanges, SubmitInput.descriptor, fill,
    legal, source, destination, sourceFits, destinationFits, opNop, opMemCopy, opMemFill, opCrc32, opVectorAdd]

theorem crc_kept (crc : input.opcode = opCrc32.setWidth 16) (some : input.length ≠ 0)
    (sourceIn : sourceDma.toNat ≠ 0 ∧ sourceDma.toNat + input.length.toNat < 2 ^ 64) :
    RangesKept { input.descriptor sourceDma 0 with commandId } := by
  have legal : Firmware.LegalLength input.length := ⟨by bv_omega, short⟩
  have source : ¬sourceDma = 0#64 := by bv_omega
  have sourceFits : sourceDma.toNat + input.length.toNat ≤ 18446744073709551616 := le_of_lt sourceIn.2
  simp [RangesKept, Firmware.Rule.violated, Firmware.badAddresses, Firmware.usedRanges, SubmitInput.descriptor, crc,
    legal, source, sourceFits, opNop, opMemCopy, opMemFill, opCrc32, opVectorAdd]

section Pair
variable (sourceIn : sourceDma.toNat ≠ 0 ∧ sourceDma.toNat + input.length.toNat < 2 ^ 64)
  (destinationIn : destinationDma.toNat ≠ 0 ∧ destinationDma.toNat + input.length.toNat < 2 ^ 64)
  (apart : input.overlaps sourceDma destinationDma = false)
include sourceIn destinationIn apart

omit short in
/-- Both ranges end below the last address, so the sums of the driver do not wrap around. -/
theorem pair_apart (pair : input.opcode ≠ opMemFill.setWidth 16) :
    sourceDma.toNat < destinationDma.toNat + input.length.toNat →
      sourceDma.toNat + input.length.toNat ≤ destinationDma.toNat := by
  have source : ¬sourceDma = 0 := by bv_omega
  have destination : ¬destinationDma = 0 := by bv_omega
  simp only [SubmitInput.overlaps, ne_eq, source, destination, pair, not_false_eq_true, true_and,
    decide_eq_false_iff_not] at apart
  bv_omega

theorem copy_kept (copy : input.opcode = opMemCopy.setWidth 16) (some : input.length ≠ 0) :
    RangesKept { input.descriptor sourceDma destinationDma with commandId } := by
  have legal : Firmware.LegalLength input.length := ⟨by bv_omega, short⟩
  have source : ¬sourceDma = 0#64 := by bv_omega
  have destination : ¬destinationDma = 0#64 := by bv_omega
  have sourceFits : sourceDma.toNat + input.length.toNat ≤ 18446744073709551616 := le_of_lt sourceIn.2
  have destinationFits : destinationDma.toNat + input.length.toNat ≤ 18446744073709551616 := le_of_lt destinationIn.2
  have disjoint := pair_apart sourceIn destinationIn apart (by simp [copy, opMemCopy, opMemFill])
  simpa [RangesKept, Firmware.Rule.violated, Firmware.badAddresses, Firmware.usedRanges, SubmitInput.descriptor, copy,
    legal, source, destination, sourceFits, destinationFits, opNop, opMemCopy, opMemFill, opCrc32, opVectorAdd]
    using disjoint

theorem add_kept (add : input.opcode = opVectorAdd.setWidth 16) (words : 4 ≤ input.length ∧ input.length &&& 3 = 0) :
    RangesKept { input.descriptor sourceDma destinationDma with commandId } := by
  have legal : Firmware.LegalLength input.length := ⟨by bv_omega, short⟩
  have whole : 4 ∣ input.length.toNat := (Firmware.low_bits_iff _ (by decide)).mp words.2
  have source : ¬sourceDma = 0#64 := by bv_omega
  have destination : ¬destinationDma = 0#64 := by bv_omega
  have sourceFits : sourceDma.toNat + input.length.toNat ≤ 18446744073709551616 := le_of_lt sourceIn.2
  have destinationFits : destinationDma.toNat + input.length.toNat ≤ 18446744073709551616 := le_of_lt destinationIn.2
  have disjoint := pair_apart sourceIn destinationIn apart (by simp [add, opVectorAdd, opMemFill])
  simpa [RangesKept, Firmware.Rule.violated, Firmware.badAddresses, Firmware.usedRanges, SubmitInput.descriptor, add,
    legal, whole, source, destination, sourceFits, destinationFits, opNop, opMemCopy, opMemFill, opCrc32, opVectorAdd]
    using disjoint

end Pair
end Ranges

/-- A well-formed call asks for a known operation, and the ranges of its descriptor are legal. -/
theorem admitted_kept (admits : Admits possible file input access source destination) (commandId : U32) :
    (∃ opcode ∈ Firmware.knownOpcodes, input.opcode = opcode.setWidth 16) ∧
      RangesKept { input.descriptor source.2 destination.2 with commandId } := by
  have short : input.length.toNat ≤ 2 ^ 24 := by
    have formed := admits.wellFormed
    simp only [SubmitInput.wellFormed, decide_eq_true_eq] at formed
    have bound := formed.2.2.2.2.1
    unfold maxTransfer at bound
    bv_omega
  have located := admits.located
  have located' := admits.located'
  have read : bufferRead ≠ 0 := by decide
  have write : bufferWrite ≠ 0 := by decide
  have both : bufferRead ||| bufferWrite ≠ 0 := by decide
  rcases access_cases admits.opcode with ⟨nop, empty, rfl⟩ | ⟨copy, some, rfl⟩ | ⟨fill, some, rfl⟩ | ⟨crc, some, rfl⟩ |
    ⟨add, words, rfl⟩
  · obtain rfl : source = (none, 0) := located
    obtain rfl : destination = (none, 0) := located'
    exact ⟨⟨_, by decide, nop⟩, nop_kept nop empty commandId⟩
  · exact ⟨⟨_, by decide, copy⟩, copy_kept short commandId (inRange_of_located read located)
      (inRange_of_located write located') admits.apart copy some⟩
  · exact ⟨⟨_, by decide, fill⟩, fill_kept short commandId fill some (inRange_of_located read located)
      (inRange_of_located write located')⟩
  · obtain rfl : destination = (none, 0) := located'
    exact ⟨⟨_, by decide, crc⟩, crc_kept short commandId crc some (inRange_of_located read located)⟩
  · exact ⟨⟨_, by decide, add⟩, add_kept short commandId (inRange_of_located read located)
      (inRange_of_located both located') admits.apart add words⟩

theorem validateCommand_of_admits (admits : Admits possible file input access source destination) (commandId : U32) :
    let submission := { input.descriptor source.2 destination.2 with commandId }
    Firmware.validateCommand submission =
      if Firmware.misaligned submission then errInvalidAlignment else errNone := by
  obtain ⟨⟨opcode, known, same⟩, length, bad, overflow, overlap⟩ := admitted_kept admits commandId
  refine Firmware.validateCommand_eq_misaligned (fun rule _ other => ?_) bad
  have header := header_kept admits.wellFormed known same source.2 destination.2 commandId
  cases rule with
  | length => exact length
  | address => exact (other rfl).elim
  | overflow => exact overflow
  | overlap => exact overlap
  | _ => exact header _ (by simp)

end Descriptor

/-- The firmware accepts every descriptor that SUBMIT publishes, up to the alignment of a vector sum. -/
theorem validateCommand_of_published {δ : Type} (hw : Hardware δ) (file : Nat) (input : SubmitInput) (slot : U32)
    (submission : Submission)
    (published : (ioctlSubmit file input).Performs (exec hw) (fun _ => True) (.storeSubmission slot submission)) :
    Firmware.validateCommand submission =
      if Firmware.misaligned submission then errInvalidAlignment else errNone := by
  let accepted (submission : Submission) : Prop :=
    Firmware.validateCommand submission = if Firmware.misaligned submission then errInvalidAlignment else errNone
  have stores : Stores (fun _ _ => True) accepted (fun _ => True) (ioctlSubmit file input) :=
    ioctlSubmit_stores file input fun access source destination commandId admits =>
      validateCommand_of_admits admits commandId
  exact stores.performed (fun _ _ _ _ _ _ _ _ _ => trivial) published

/-- A vector sum whose source starts two bytes into its mapping. -/
def vectorSum : SubmitInput where
  size := 64
  version := 1
  opcode := 4
  flags := 0
  sourceHandle := 1
  destinationHandle := 2
  length := 8
  timeoutMs := 0
  sourceOffset := 2
  destinationOffset := 0
  userCookie := 7
  expectedCrc := 0
  commandId := 0

def twoMappings : Shared Unit where
  hardware := ()
  fields := { queuesReady := true }
  tables := Function.update (fun _ => Table.empty) (.mappings 0) ((Table.empty.insert 1 0).insert 2 1)
  mappings := fun mapping => { dmaAddr := 0x1000 * BitVec.ofNat 64 (mapping + 1), length := 0x100, flags := 3 }
  files := fun _ => { opened := true }

def vectorSumDescriptor : Submission :=
  { version := 1, opcode := opVectorAdd, commandId := 1, sourceDma := 0x1002, destinationDma := 0x2000, length := 8,
    userCookie := 7 }

theorem vectorSum_published : vectorSumDescriptor.opcode = opVectorAdd ∧
    Firmware.validateCommand vectorSumDescriptor =
      if Firmware.misaligned vectorSumDescriptor then errInvalidAlignment else errNone :=
  ⟨rfl, validateCommand_of_published zeroHardware 0 vectorSum 0 vectorSumDescriptor
    (performs_of_mem_trace (List.replicate 40 {}) twoMappings {} (by decide +kernel))⟩

end VamsSoc.Driver
