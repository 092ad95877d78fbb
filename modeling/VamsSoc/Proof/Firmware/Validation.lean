/-
This file has the legal descriptors and the proof that the command check of the firmware accepts exactly those.
-/

import Mathlib
import VamsSoc.Construction.Firmware.Command
import VamsSoc.Library.Checks

namespace VamsSoc.Firmware
open Library Abi

section Checks
variable (submission : Submission)

/-- The checks that do not depend on the operation, up to the timeout. -/
def headerChecks : List (Bool × U16) :=
  let opcode := submission.opcode
  [(submission.version ≠ descVersion1, errUnsupportedVersion),
    (opcode ≠ opNop ∧ opcode ≠ opMemCopy ∧ opcode ≠ opMemFill ∧ opcode ≠ opCrc32 ∧ opcode ≠ opVectorAdd,
      errInvalidOpcode),
    ((opcode = opCrc32 ∧ clearBits submission.flags subFVerifyCrc ≠ 0) ∨ (opcode ≠ opCrc32 ∧ submission.flags ≠ 0),
      errInvalidFlags),
    ((opcode ≠ opCrc32 ∨ submission.flags &&& subFVerifyCrc = 0) ∧ submission.expectedCrc ≠ 0, errReservedNonzero),
    (submission.reserved0 ≠ 0 ∨ submission.reserved1 ≠ 0 ∨ submission.reserved2 ≠ 0, errReservedNonzero),
    (maxTimeoutMs < submission.timeoutMs, errInvalidTimeout)]

def nopChecks : List (Bool × U16) :=
  [(submission.length ≠ 0, errInvalidLength),
    (submission.sourceDma ≠ 0 ∨ submission.destinationDma ≠ 0, errInvalidAddress)]

def copyChecks : List (Bool × U16) :=
  let length := submission.length
  let source := submission.sourceDma
  let destination := submission.destinationDma
  [(length = 0 ∨ maxTransferSize < length, errInvalidLength),
    (rangeOverflows source length || rangeOverflows destination length, errAddressOverflow),
    (source = 0 ∨ destination = 0 ∨ rangesOverlap source destination length, errInvalidAddress)]

def fillChecks : List (Bool × U16) :=
  [(submission.length = 0 ∨ maxTransferSize < submission.length, errInvalidLength),
    (rangeOverflows submission.destinationDma submission.length, errAddressOverflow),
    (submission.sourceDma = 0 ∨ submission.destinationDma = 0, errInvalidAddress)]

def crcChecks : List (Bool × U16) :=
  [(submission.length = 0 ∨ maxTransferSize < submission.length, errInvalidLength),
    (rangeOverflows submission.sourceDma submission.length, errAddressOverflow),
    (submission.sourceDma = 0 ∨ submission.destinationDma ≠ 0, errInvalidAddress)]

def addChecks : List (Bool × U16) :=
  let length := submission.length
  let source := submission.sourceDma
  let destination := submission.destinationDma
  [(length < 4 ∨ maxTransferSize < length ∨ length &&& 3 ≠ 0, errInvalidLength),
    (source = 0 ∨ destination = 0, errInvalidAddress), ((source ||| destination) &&& 3 ≠ 0, errInvalidAlignment),
    (rangeOverflows source length || rangeOverflows destination length, errAddressOverflow),
    (rangesOverlap source destination length, errInvalidAddress)]

/-- The checks of one operation, in the order in which the source makes them. -/
def operationChecks : List (Bool × U16) :=
  if submission.opcode = opNop then nopChecks submission
  else if submission.opcode = opMemCopy then copyChecks submission
  else if submission.opcode = opMemFill then fillChecks submission
  else if submission.opcode = opCrc32 then crcChecks submission
  else if submission.opcode = opVectorAdd then addChecks submission
  else []

def knownOpcodes : List U8 := [opNop, opMemCopy, opMemFill, opCrc32, opVectorAdd]

end Checks

section Opcodes
variable {submission : Submission}

theorem operationChecks_nop (nop : submission.opcode = opNop) : operationChecks submission = nopChecks submission := by
  rw [operationChecks, if_pos nop]

theorem operationChecks_copy (copy : submission.opcode = opMemCopy) :
    operationChecks submission = copyChecks submission := by
  simp [operationChecks, copy, opNop, opMemCopy]

theorem operationChecks_fill (fill : submission.opcode = opMemFill) :
    operationChecks submission = fillChecks submission := by
  simp [operationChecks, fill, opNop, opMemCopy, opMemFill]

theorem operationChecks_crc (crc : submission.opcode = opCrc32) :
    operationChecks submission = crcChecks submission := by
  simp [operationChecks, crc, opNop, opMemCopy, opMemFill, opCrc32]

theorem operationChecks_add (add : submission.opcode = opVectorAdd) :
    operationChecks submission = addChecks submission := by
  simp [operationChecks, add, opNop, opMemCopy, opMemFill, opCrc32, opVectorAdd]

theorem known_cases (known : submission.opcode ∈ knownOpcodes) :
    submission.opcode = opNop ∨ submission.opcode = opMemCopy ∨ submission.opcode = opMemFill ∨
      submission.opcode = opCrc32 ∨ submission.opcode = opVectorAdd := by
  simpa only [knownOpcodes, List.mem_cons, List.not_mem_nil, or_false] using known

theorem not_known_iff :
    submission.opcode ∉ knownOpcodes ↔ submission.opcode ≠ opNop ∧ submission.opcode ≠ opMemCopy ∧
      submission.opcode ≠ opMemFill ∧ submission.opcode ≠ opCrc32 ∧ submission.opcode ≠ opVectorAdd := by
  simp only [knownOpcodes, List.mem_cons, List.not_mem_nil, or_false, not_or, ne_eq]

/-- The source tests the opcode again before each check, so its checks are those of one operation. -/
theorem validateCommand_eq_firstError :
    validateCommand submission = firstError errNone (headerChecks submission ++ operationChecks submission) := by
  unfold validateCommand
  simp only [headerChecks, List.cons_append, List.nil_append, firstError, decide_eq_true_eq]
  congr 6
  by_cases known : submission.opcode ∈ knownOpcodes
  · rcases known_cases known with nop | copy | fill | crc | add
    · simp [operationChecks_nop nop, nopChecks, nop, firstError, opNop, opMemCopy, opMemFill, opCrc32, opVectorAdd]
    · simp [operationChecks_copy copy, copyChecks, copy, firstError, opNop, opMemCopy, opMemFill, opCrc32, opVectorAdd]
    · simp [operationChecks_fill fill, fillChecks, fill, firstError, opNop, opMemCopy, opMemFill, opCrc32, opVectorAdd]
    · simp [operationChecks_crc crc, crcChecks, crc, firstError, opNop, opMemCopy, opMemFill, opCrc32, opVectorAdd]
    · simp [operationChecks_add add, addChecks, add, firstError, opNop, opMemCopy, opMemFill, opCrc32, opVectorAdd]
  · obtain ⟨nop, copy, fill, crc, add⟩ := not_known_iff.mp known
    simp [operationChecks, nop, copy, fill, crc, add, firstError]

end Opcodes

/-- The addresses of a range, without a bound on integers. -/
def span (address : U64) (length : U32) : Set Nat := Set.Ico address.toNat (address.toNat + length.toNat)

def addressSpace : Set Nat := Set.Iio (2 ^ 64)

def LegalLength (length : U32) : Prop := 1 ≤ length.toNat ∧ length.toNat ≤ 2 ^ 24

instance (length : U32) : Decidable (LegalLength length) := inferInstanceAs (Decidable (_ ∧ _))

section Legal
variable (submission : Submission)

structure LegalNop : Prop where
  length : submission.length.toNat = 0
  source : submission.sourceDma.toNat = 0
  destination : submission.destinationDma.toNat = 0

structure LegalCopy : Prop where
  length : LegalLength submission.length
  source : submission.sourceDma.toNat ≠ 0
  destination : submission.destinationDma.toNat ≠ 0
  sourceInside : span submission.sourceDma submission.length ⊆ addressSpace
  destinationInside : span submission.destinationDma submission.length ⊆ addressSpace
  apart : Disjoint (span submission.sourceDma submission.length) (span submission.destinationDma submission.length)

/-- The source address of a fill has the value and not a range. -/
structure LegalFill : Prop where
  length : LegalLength submission.length
  source : submission.sourceDma.toNat ≠ 0
  destination : submission.destinationDma.toNat ≠ 0
  destinationInside : span submission.destinationDma submission.length ⊆ addressSpace

structure LegalCrc : Prop where
  length : LegalLength submission.length
  source : submission.sourceDma.toNat ≠ 0
  destination : submission.destinationDma.toNat = 0
  sourceInside : span submission.sourceDma submission.length ⊆ addressSpace

/-- A vector sum is a copy of whole words between aligned addresses. -/
structure LegalAdd : Prop extends LegalCopy submission where
  words : 4 ∣ submission.length.toNat
  sourceAligned : 4 ∣ submission.sourceDma.toNat
  destinationAligned : 4 ∣ submission.destinationDma.toNat

/-- What each operation asks of its length and of its addresses. -/
def LegalOperation : Prop :=
  (submission.opcode = opNop ∧ LegalNop submission) ∨ (submission.opcode = opMemCopy ∧ LegalCopy submission) ∨
    (submission.opcode = opMemFill ∧ LegalFill submission) ∨ (submission.opcode = opCrc32 ∧ LegalCrc submission) ∨
    (submission.opcode = opVectorAdd ∧ LegalAdd submission)

/-- A descriptor of version 1 whose fields are legal for its operation. -/
structure Legal : Prop where
  version : submission.version.toNat = 1
  opcode : submission.opcode ∈ knownOpcodes
  flags : submission.flags.toNat ≤ if submission.opcode = opCrc32 then 1 else 0
  expectedCrc : submission.opcode ≠ opCrc32 ∨ submission.flags.toNat = 0 → submission.expectedCrc.toNat = 0
  reserved : submission.reserved0.toNat = 0 ∧ submission.reserved1.toNat = 0 ∧ submission.reserved2.toNat = 0
  timeout : submission.timeoutMs.toNat ≤ 60000
  operation : LegalOperation submission

end Legal

section Ranges
variable {address first second : U64} {length : U32}

theorem legalLength_iff : LegalLength length ↔ ¬(length = 0 ∨ maxTransferSize < length) := by
  unfold LegalLength maxTransferSize
  bv_omega

theorem span_inside_iff (legal : LegalLength length) :
    span address length ⊆ addressSpace ↔ address.toNat + length.toNat ≤ 2 ^ 64 := by
  have positive := legal.1
  constructor
  · intro inside
    have last : address.toNat + length.toNat - 1 ∈ span address length := by
      rw [span, Set.mem_Ico]
      omega
    have bound : address.toNat + length.toNat - 1 < 2 ^ 64 := inside last
    omega
  · intro fits number member
    exact Nat.lt_of_lt_of_le member.2 fits

/-- The wrapping test of the source decides whether the last byte is in the address space. -/
theorem rangeOverflows_eq (legal : LegalLength length) :
    rangeOverflows address length = decide (2 ^ 64 < address.toNat + length.toNat) := by
  obtain ⟨positive, bound⟩ := legal
  have last : (BitVec.allOnes 64 - (length.setWidth 64 - 1)).toNat = 2 ^ 64 - length.toNat := by
    have whole : (BitVec.allOnes 64).toNat = 2 ^ 64 - 1 := rfl
    have pred : (length.setWidth 64 - 1).toNat = length.toNat - 1 := by bv_omega
    rw [BitVec.toNat_sub, whole, pred]
    omega
  rw [rangeOverflows, decide_eq_decide, BitVec.lt_def, last]
  omega

theorem rangeOverflows_iff (legal : LegalLength length) :
    rangeOverflows address length = false ↔ address.toNat + length.toNat ≤ 2 ^ 64 := by
  rw [rangeOverflows_eq legal, decide_eq_false_iff_not, not_lt]

theorem span_disjoint_iff (legal : LegalLength length) :
    Disjoint (span first length) (span second length) ↔
      first.toNat + length.toNat ≤ second.toNat ∨ second.toNat + length.toNat ≤ first.toNat := by
  rw [span, span, Set.Ico_disjoint_Ico]
  have positive := legal.1
  omega

/-- The wrapping test of the source decides whether two ranges inside of the address space meet. -/
theorem rangesOverlap_eq (legal : LegalLength length) (firstInside : first.toNat + length.toNat ≤ 2 ^ 64)
    (secondInside : second.toNat + length.toNat ≤ 2 ^ 64) :
    rangesOverlap first second length =
      decide (first.toNat < second.toNat + length.toNat ∧ second.toNat < first.toNat + length.toNat) := by
  have positive := legal.1
  have last (address : U64) (fits : address.toNat + length.toNat ≤ 2 ^ 64) :
      (address + length.setWidth 64 - 1).toNat = address.toNat + length.toNat - 1 := by bv_omega
  rw [rangesOverlap, ← Bool.decide_and, decide_eq_decide, BitVec.le_def, BitVec.le_def, last first firstInside,
    last second secondInside]
  omega

theorem rangesOverlap_iff (legal : LegalLength length) (firstInside : first.toNat + length.toNat ≤ 2 ^ 64)
    (secondInside : second.toNat + length.toNat ≤ 2 ^ 64) :
    rangesOverlap first second length = false ↔
      first.toNat + length.toNat ≤ second.toNat ∨ second.toNat + length.toNat ≤ first.toNat := by
  rw [rangesOverlap_eq legal firstInside secondInside, decide_eq_false_iff_not]
  omega

theorem low_bits_iff {width : Nat} (word : BitVec width) (wide : 2 ≤ width) : word &&& 3 = 0 ↔ 4 ∣ word.toNat := by
  have three : (3 : BitVec width).toNat = 2 ^ 2 - 1 := by
    have bound : 2 ^ 2 ≤ 2 ^ width := Nat.pow_le_pow_right (by decide) wide
    exact Nat.mod_eq_of_lt (Nat.lt_of_lt_of_le (by decide) bound)
  rw [← BitVec.toNat_inj, BitVec.toNat_and, three, Nat.and_two_pow_sub_one_eq_mod]
  exact Nat.dvd_iff_mod_eq_zero.symm

theorem low_bits_or_iff : (first ||| second) &&& 3 = 0 ↔ 4 ∣ first.toNat ∧ 4 ∣ second.toNat := by
  rw [low_bits_iff _ (by decide), BitVec.toNat_or, Nat.dvd_iff_mod_eq_zero, Nat.dvd_iff_mod_eq_zero,
    Nat.dvd_iff_mod_eq_zero]
  have split : (first.toNat ||| second.toNat) % 2 ^ 2 = (first.toNat % 2 ^ 2 ||| second.toNat % 2 ^ 2) :=
    Nat.or_mod_two_pow
  change (first.toNat ||| second.toNat) % 2 ^ 2 = 0 ↔ first.toNat % 2 ^ 2 = 0 ∧ second.toNat % 2 ^ 2 = 0
  rw [split, Nat.or_eq_zero_iff]

end Ranges

section Soundness
variable {submission : Submission}

theorem headerChecks_real : ∀ check ∈ headerChecks submission, check.2 ≠ errNone := by
  simp [headerChecks, errNone, errUnsupportedVersion, errInvalidOpcode, errInvalidFlags, errReservedNonzero,
    errInvalidTimeout]

theorem operationChecks_real : ∀ check ∈ operationChecks submission, check.2 ≠ errNone := by
  unfold operationChecks
  split_ifs <;>
    simp [nopChecks, copyChecks, fillChecks, crcChecks, addChecks, errNone, errInvalidLength, errInvalidAddress,
      errAddressOverflow, errInvalidAlignment]

theorem toNat_eq_zero_iff {width : Nat} (word : BitVec width) : word.toNat = 0 ↔ word = 0 := by
  rw [← BitVec.toNat_inj]
  rfl

theorem toNat_ne_zero_iff {width : Nat} (word : BitVec width) : word.toNat ≠ 0 ↔ ¬word = 0 :=
  not_congr (toNat_eq_zero_iff word)

theorem nopChecks_pass_iff : (∀ check ∈ nopChecks submission, check.1 = false) ↔ LegalNop submission := by
  simp only [nopChecks, List.forall_mem_cons, decide_eq_false_iff_not, not_or, not_not, ne_eq]
  constructor
  · rintro ⟨length, ⟨source, destination⟩, -⟩
    exact ⟨congrArg BitVec.toNat length, congrArg BitVec.toNat source, congrArg BitVec.toNat destination⟩
  · rintro ⟨length, source, destination⟩
    rw [toNat_eq_zero_iff] at length source destination
    exact ⟨length, ⟨source, destination⟩, nofun⟩

theorem copyChecks_pass_iff : (∀ check ∈ copyChecks submission, check.1 = false) ↔ LegalCopy submission := by
  simp only [copyChecks, List.forall_mem_cons, decide_eq_false_iff_not, ← legalLength_iff, Bool.or_eq_false_iff]
  simp only [not_or, Bool.not_eq_true, ← toNat_ne_zero_iff]
  constructor
  · rintro ⟨length, ⟨sourceFits, destinationFits⟩, ⟨source, destination, apart⟩, -⟩
    rw [rangeOverflows_iff length] at sourceFits destinationFits
    rw [rangesOverlap_iff length sourceFits destinationFits] at apart
    exact ⟨length, source, destination, (span_inside_iff length).mpr sourceFits,
      (span_inside_iff length).mpr destinationFits, (span_disjoint_iff length).mpr apart⟩
  · rintro ⟨length, source, destination, sourceInside, destinationInside, apart⟩
    rw [span_inside_iff length] at sourceInside destinationInside
    rw [span_disjoint_iff length] at apart
    rw [rangeOverflows_iff length, rangeOverflows_iff length, rangesOverlap_iff length sourceInside destinationInside]
    exact ⟨length, ⟨sourceInside, destinationInside⟩, ⟨source, destination, apart⟩, nofun⟩

theorem fillChecks_pass_iff : (∀ check ∈ fillChecks submission, check.1 = false) ↔ LegalFill submission := by
  simp only [fillChecks, List.forall_mem_cons, decide_eq_false_iff_not, ← legalLength_iff]
  simp only [not_or, ← toNat_ne_zero_iff]
  constructor
  · rintro ⟨length, fits, ⟨source, destination⟩, -⟩
    exact ⟨length, source, destination, (span_inside_iff length).mpr ((rangeOverflows_iff length).mp fits)⟩
  · rintro ⟨length, source, destination, inside⟩
    exact ⟨length, (rangeOverflows_iff length).mpr ((span_inside_iff length).mp inside), ⟨source, destination⟩, nofun⟩

theorem crcChecks_pass_iff : (∀ check ∈ crcChecks submission, check.1 = false) ↔ LegalCrc submission := by
  simp only [crcChecks, List.forall_mem_cons, decide_eq_false_iff_not, ← legalLength_iff]
  simp only [not_or, not_not, ← toNat_eq_zero_iff]
  constructor
  · rintro ⟨length, fits, ⟨source, destination⟩, -⟩
    exact ⟨length, source, destination, (span_inside_iff length).mpr ((rangeOverflows_iff length).mp fits)⟩
  · rintro ⟨length, source, destination, inside⟩
    exact ⟨length, (rangeOverflows_iff length).mpr ((span_inside_iff length).mp inside), ⟨source, destination⟩, nofun⟩

theorem vectorLength_iff {length : U32} :
    ¬(length < 4 ∨ maxTransferSize < length ∨ length &&& 3 ≠ 0) ↔ LegalLength length ∧ 4 ∣ length.toNat := by
  rw [ne_eq, low_bits_iff _ (by decide)]
  unfold LegalLength maxTransferSize
  bv_omega

theorem addChecks_pass_iff : (∀ check ∈ addChecks submission, check.1 = false) ↔ LegalAdd submission := by
  simp only [addChecks, List.forall_mem_cons, decide_eq_false_iff_not, vectorLength_iff, Bool.or_eq_false_iff]
  simp only [not_or, not_not, ne_eq, ← toNat_ne_zero_iff, low_bits_or_iff]
  constructor
  · rintro ⟨⟨length, words⟩, ⟨source, destination⟩, ⟨sourceAligned, destinationAligned⟩, ⟨sourceFits, destinationFits⟩,
      apart, -⟩
    rw [rangeOverflows_iff length] at sourceFits destinationFits
    rw [rangesOverlap_iff length sourceFits destinationFits] at apart
    exact ⟨⟨length, source, destination, (span_inside_iff length).mpr sourceFits,
      (span_inside_iff length).mpr destinationFits, (span_disjoint_iff length).mpr apart⟩, words, sourceAligned,
      destinationAligned⟩
  · rintro ⟨⟨length, source, destination, sourceInside, destinationInside, apart⟩, words, sourceAligned,
      destinationAligned⟩
    rw [span_inside_iff length] at sourceInside destinationInside
    rw [span_disjoint_iff length] at apart
    rw [rangeOverflows_iff length, rangeOverflows_iff length, rangesOverlap_iff length sourceInside destinationInside]
    exact ⟨⟨length, words⟩, ⟨source, destination⟩, ⟨sourceAligned, destinationAligned⟩,
      ⟨sourceInside, destinationInside⟩, apart, nofun⟩

/-- The checks of the operation pass exactly when its length and its addresses are legal. -/
theorem operationChecks_pass_iff (known : submission.opcode ∈ knownOpcodes) :
    (∀ check ∈ operationChecks submission, check.1 = false) ↔ LegalOperation submission := by
  rcases known_cases known with nop | copy | fill | crc | add
  · rw [operationChecks_nop nop, nopChecks_pass_iff]
    simp [LegalOperation, nop, opNop, opMemCopy, opMemFill, opCrc32, opVectorAdd]
  · rw [operationChecks_copy copy, copyChecks_pass_iff]
    simp [LegalOperation, copy, opNop, opMemCopy, opMemFill, opCrc32, opVectorAdd]
  · rw [operationChecks_fill fill, fillChecks_pass_iff]
    simp [LegalOperation, fill, opNop, opMemCopy, opMemFill, opCrc32, opVectorAdd]
  · rw [operationChecks_crc crc, crcChecks_pass_iff]
    simp [LegalOperation, crc, opNop, opMemCopy, opMemFill, opCrc32, opVectorAdd]
  · rw [operationChecks_add add, addChecks_pass_iff]
    simp [LegalOperation, add, opNop, opMemCopy, opMemFill, opCrc32, opVectorAdd]

theorem verifyFlag_iff : ∀ flags : U8, clearBits flags subFVerifyCrc = 0 ↔ flags.toNat ≤ 1 := by decide

theorem verifyFlag_clear_iff : ∀ flags : U8, flags.toNat ≤ 1 → (flags &&& subFVerifyCrc = 0 ↔ flags = 0) := by decide

/-- The checks of the flags and of the expected CRC allow `VERIFY_CRC` and its operand for one operation only. -/
theorem flagChecks_pass_iff :
    (¬((submission.opcode = opCrc32 ∧ clearBits submission.flags subFVerifyCrc ≠ 0) ∨
        (submission.opcode ≠ opCrc32 ∧ submission.flags ≠ 0)) ∧
      ¬((submission.opcode ≠ opCrc32 ∨ submission.flags &&& subFVerifyCrc = 0) ∧ submission.expectedCrc ≠ 0)) ↔
      submission.flags.toNat ≤ (if submission.opcode = opCrc32 then 1 else 0) ∧
      (submission.opcode ≠ opCrc32 ∨ submission.flags.toNat = 0 → submission.expectedCrc.toNat = 0) := by
  rw [toNat_eq_zero_iff, toNat_eq_zero_iff]
  by_cases crc : submission.opcode = opCrc32
  · simp only [crc, true_and, ne_eq, not_true_eq_false, false_and, or_false, false_or, not_not, if_true, not_and]
    rw [verifyFlag_iff]
    exact and_congr_right fun legal => by rw [verifyFlag_clear_iff _ legal]
  · simp only [crc, false_and, ne_eq, not_false_eq_true, true_and, false_or, true_or, not_not, if_false, forall_const,
      Nat.le_zero, toNat_eq_zero_iff]

theorem headerChecks_pass_iff :
    (∀ check ∈ headerChecks submission, check.1 = false) ↔
      submission.version.toNat = 1 ∧ submission.opcode ∈ knownOpcodes ∧
      (submission.flags.toNat ≤ (if submission.opcode = opCrc32 then 1 else 0) ∧
      (submission.opcode ≠ opCrc32 ∨ submission.flags.toNat = 0 → submission.expectedCrc.toNat = 0)) ∧
      (submission.reserved0.toNat = 0 ∧ submission.reserved1.toNat = 0 ∧ submission.reserved2.toNat = 0) ∧
      submission.timeoutMs.toNat ≤ 60000 := by
  have version : ¬submission.version ≠ descVersion1 ↔ submission.version.toNat = 1 :=
    not_not.trans BitVec.toNat_inj.symm
  have known : ¬(submission.opcode ≠ opNop ∧ submission.opcode ≠ opMemCopy ∧ submission.opcode ≠ opMemFill ∧
      submission.opcode ≠ opCrc32 ∧ submission.opcode ≠ opVectorAdd) ↔
      submission.opcode ∈ knownOpcodes := by
    rw [← not_known_iff, not_not]
  have reserved : ¬(submission.reserved0 ≠ 0 ∨ submission.reserved1 ≠ 0 ∨ submission.reserved2 ≠ 0) ↔
      submission.reserved0.toNat = 0 ∧ submission.reserved1.toNat = 0 ∧ submission.reserved2.toNat = 0 := by
    simp only [toNat_eq_zero_iff, not_or, not_not]
  have timeout : ¬maxTimeoutMs < submission.timeoutMs ↔ submission.timeoutMs.toNat ≤ 60000 := by
    rw [BitVec.not_lt, BitVec.le_def]
    rfl
  simp only [headerChecks, List.forall_mem_cons, decide_eq_false_iff_not]
  rw [version, known, reserved, timeout, ← flagChecks_pass_iff]
  simp only [and_assoc, List.not_mem_nil, false_implies, implies_true, and_true]

/-- The firmware accepts exactly the legal descriptors. -/
theorem validateCommand_eq_none_iff_legal (submission : Submission) :
    validateCommand submission = errNone ↔ Legal submission := by
  rw [validateCommand_eq_firstError, firstError_eq_accepted, List.forall_mem_append, headerChecks_pass_iff]
  · constructor
    · rintro ⟨⟨version, opcode, ⟨flags, expectedCrc⟩, reserved, timeout⟩, passes⟩
      exact ⟨version, opcode, flags, expectedCrc, reserved, timeout, (operationChecks_pass_iff opcode).mp passes⟩
    · rintro ⟨version, opcode, flags, expectedCrc, reserved, timeout, operation⟩
      exact ⟨⟨version, opcode, ⟨flags, expectedCrc⟩, reserved, timeout⟩, (operationChecks_pass_iff opcode).mpr operation⟩
  · exact List.forall_mem_append.mpr ⟨headerChecks_real, operationChecks_real⟩

end Soundness
end VamsSoc.Firmware
