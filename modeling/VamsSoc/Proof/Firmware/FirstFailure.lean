/-
This file has the normative order of the descriptor rules and where the command check of the firmware departs from it.
-/

import VamsSoc.Proof.Firmware.Validation

namespace VamsSoc.Firmware
open Library Abi

/-- The rules of the descriptor format. -/
inductive Rule where
  | version | opcode | flags | reserved | timeout | length | address | overflow | overlap
  deriving DecidableEq, Repr

/-- The format fixes the order of its rules; two ranges are compared at the end. -/
def Rule.order : List Rule :=
  [.version, .opcode, .flags, .reserved, .timeout, .length, .address, .overflow, .overlap]

/-- A required address is zero, or an unused one is not. -/
def badAddresses (submission : Submission) : Bool :=
  if submission.opcode = opNop then submission.sourceDma ≠ 0 ∨ submission.destinationDma ≠ 0
  else if submission.opcode = opCrc32 then submission.sourceDma = 0 ∨ submission.destinationDma ≠ 0
  else submission.sourceDma = 0 ∨ submission.destinationDma = 0

def misaligned (submission : Submission) : Bool :=
  submission.opcode = opVectorAdd ∧ ¬(4 ∣ submission.sourceDma.toNat ∧ 4 ∣ submission.destinationDma.toNat)

/-- The first address and the length of each range that the operation uses. -/
def usedRanges (submission : Submission) : List (Nat × Nat) :=
  let source := submission.sourceDma.toNat
  let destination := submission.destinationDma.toNat
  let length := submission.length.toNat
  if submission.opcode = opNop then []
  else if submission.opcode = opMemFill then [(source, 1), (destination, length)]
  else if submission.opcode = opCrc32 then [(source, length)]
  else [(source, length), (destination, length)]

def Rule.violated (submission : Submission) : Rule → Bool
  | .version => submission.version ≠ 1
  | .opcode => submission.opcode ∉ knownOpcodes
  | .flags => (if submission.opcode = opCrc32 then 1 else 0) < submission.flags.toNat
  | .reserved =>
      ((submission.opcode ≠ opCrc32 ∨ submission.flags &&& subFVerifyCrc = 0) ∧ submission.expectedCrc ≠ 0) ∨
        submission.reserved0 ≠ 0 ∨ submission.reserved1 ≠ 0 ∨ submission.reserved2 ≠ 0
  | .timeout => 60000 < submission.timeoutMs.toNat
  | .length =>
      if submission.opcode = opNop then submission.length.toNat ≠ 0
      else ¬LegalLength submission.length ∨ (submission.opcode = opVectorAdd ∧ ¬4 ∣ submission.length.toNat)
  | .address => badAddresses submission || misaligned submission
  | .overflow => (usedRanges submission).any fun range => 2 ^ 64 < range.1 + range.2
  | .overlap =>
      (submission.opcode = opMemCopy ∨ submission.opcode = opVectorAdd) ∧
        submission.sourceDma.toNat < submission.destinationDma.toNat + submission.length.toNat ∧
        submission.destinationDma.toNat < submission.sourceDma.toNat + submission.length.toNat

/-- The errors that a violated rule allows; the rule on addresses has one error for each of its parts. -/
def Rule.errors (submission : Submission) : Rule → List U16
  | .version => [errUnsupportedVersion]
  | .opcode => [errInvalidOpcode]
  | .flags => [errInvalidFlags]
  | .reserved => [errReservedNonzero]
  | .timeout => [errInvalidTimeout]
  | .length => [errInvalidLength]
  | .address =>
      (if badAddresses submission then [errInvalidAddress] else []) ++
        if misaligned submission then [errInvalidAlignment] else []
  | .overflow => [errAddressOverflow]
  | .overlap => [errInvalidAddress]

def firstViolated (submission : Submission) : Option Rule := Rule.order.find? fun rule => rule.violated submission

/-- The first violated rule gives the error, and no error is given when there is none. -/
def FirstFailureWins (submission : Submission) : Prop :=
  validateCommand submission ∈ (firstViolated submission).elim [errNone] fun rule => rule.errors submission

instance (submission : Submission) : Decidable (FirstFailureWins submission) :=
  inferInstanceAs (Decidable (_ ∈ _))

section Order
variable {submission : Submission}

/-- The checks up to the timeout follow the rules one by one. -/
theorem firstError_header (rest : List (Bool × U16)) :
    firstError errNone (headerChecks submission ++ rest) =
      if Rule.violated submission .version then errUnsupportedVersion
      else if Rule.violated submission .opcode then errInvalidOpcode
      else if Rule.violated submission .flags then errInvalidFlags
      else if Rule.violated submission .reserved then errReservedNonzero
      else if Rule.violated submission .timeout then errInvalidTimeout
      else firstError errNone rest := by
  have flags : ((submission.opcode = opCrc32 ∧ clearBits submission.flags subFVerifyCrc ≠ 0) ∨
      (submission.opcode ≠ opCrc32 ∧ submission.flags ≠ 0)) ↔
      (if submission.opcode = opCrc32 then 1 else 0) < submission.flags.toNat := by
    by_cases crc : submission.opcode = opCrc32
    · simp only [crc, true_and, ne_eq, not_true_eq_false, false_and, or_false, if_true, verifyFlag_iff, not_le]
    · simp only [crc, false_and, ne_eq, not_false_eq_true, true_and, false_or, if_false, Nat.pos_iff_ne_zero,
        toNat_eq_zero_iff]
  have timeout : maxTimeoutMs < submission.timeoutMs ↔ 60000 < submission.timeoutMs.toNat := Iff.rfl
  have version : Rule.violated submission .version = decide (submission.version ≠ descVersion1) := rfl
  rw [version]
  simp only [headerChecks, List.cons_append, List.nil_append, firstError, decide_eq_true_eq, Rule.violated,
    not_known_iff, ← flags, ← timeout, ite_or]

theorem length_eq (opcode : submission.opcode = opMemCopy ∨ submission.opcode = opMemFill ∨ submission.opcode = opCrc32) :
    Rule.violated submission .length = decide (submission.length = 0 ∨ maxTransferSize < submission.length) := by
  have long : (submission.length = 0 ∨ maxTransferSize < submission.length) ↔ ¬LegalLength submission.length := by
    rw [legalLength_iff, not_not]
  simp only [long]
  rcases opcode with opcode | opcode | opcode <;>
    simp [Rule.violated, opcode, opNop, opMemCopy, opMemFill, opCrc32, opVectorAdd]

theorem length_eq_add (add : submission.opcode = opVectorAdd) :
    Rule.violated submission .length =
      decide (submission.length < 4 ∨ maxTransferSize < submission.length ∨ submission.length &&& 3 ≠ 0) := by
  have long : (submission.length < 4 ∨ maxTransferSize < submission.length ∨ submission.length &&& 3 ≠ 0) ↔
      ¬(LegalLength submission.length ∧ 4 ∣ submission.length.toNat) := by
    rw [← vectorLength_iff, not_not]
  simp only [long, not_and_or]
  simp [Rule.violated, add, opNop, opVectorAdd]

/-- The rule on lengths bounds the length of every operation with ranges. -/
theorem legalLength_of_length (notNop : submission.opcode ≠ opNop) (legal : Rule.violated submission .length = false) :
    LegalLength submission.length := by
  simp only [Rule.violated, notNop, if_false, decide_eq_false_iff_not, not_or, not_not] at legal
  exact legal.1

section Ranges
variable (pair : submission.opcode = opMemCopy ∨ submission.opcode = opVectorAdd)
  (legal : LegalLength submission.length)
include pair legal

theorem overflow_eq_pair :
    Rule.violated submission .overflow =
      (rangeOverflows submission.sourceDma submission.length ||
        rangeOverflows submission.destinationDma submission.length) := by
  rw [rangeOverflows_eq legal, rangeOverflows_eq legal]
  rcases pair with opcode | opcode <;>
    simp [Rule.violated, usedRanges, opcode, opNop, opMemCopy, opMemFill, opCrc32, opVectorAdd]

theorem overlap_eq_pair (fits : Rule.violated submission .overflow = false) :
    Rule.violated submission .overlap =
      rangesOverlap submission.sourceDma submission.destinationDma submission.length := by
  rw [overflow_eq_pair pair legal, Bool.or_eq_false_iff, rangeOverflows_iff legal, rangeOverflows_iff legal] at fits
  rw [rangesOverlap_eq legal fits.1 fits.2]
  simp only [Rule.violated, pair, true_and]

end Ranges

/-- After its length, a vector sum is checked in the normative order, and every other operation for overflow first. -/
def operationError (submission : Submission) : U16 :=
  if Rule.violated submission .length then errInvalidLength
  else if submission.opcode ≠ opVectorAdd ∧ Rule.violated submission .overflow then errAddressOverflow
  else if badAddresses submission then errInvalidAddress
  else if misaligned submission then errInvalidAlignment
  else if Rule.violated submission .overflow then errAddressOverflow
  else if Rule.violated submission .overlap then errInvalidAddress
  else errNone

theorem firstError_nop (nop : submission.opcode = opNop) :
    firstError errNone (nopChecks submission) = operationError submission := by
  simp [nopChecks, firstError, operationError, Rule.violated, badAddresses, misaligned, usedRanges, nop, opNop, opMemCopy,
    opVectorAdd, toNat_eq_zero_iff]

theorem firstError_copy (copy : submission.opcode = opMemCopy) :
    firstError errNone (copyChecks submission) = operationError submission := by
  have other : submission.opcode ≠ opVectorAdd := by simp [copy, opMemCopy, opVectorAdd]
  have aligned : misaligned submission = false := by simp [misaligned, other]
  have bad : badAddresses submission = decide (submission.sourceDma = 0 ∨ submission.destinationDma = 0) := by
    simp [badAddresses, copy, opNop, opMemCopy, opCrc32]
  unfold operationError
  cases length : Rule.violated submission .length with
  | true =>
      rw [length_eq (.inl copy)] at length
      simp only [copyChecks, firstError, length, if_true]
  | false =>
      have legal := legalLength_of_length (by simp [copy, opNop, opMemCopy]) length
      rw [length_eq (.inl copy)] at length
      simp only [copyChecks, firstError, length, ← overflow_eq_pair (.inl copy) legal]
      cases overflow : Rule.violated submission .overflow with
      | true => simp [other]
      | false =>
          rw [overlap_eq_pair (.inl copy) legal overflow]
          simp [aligned, bad, ← or_assoc, ite_or]

theorem firstError_fill (fill : submission.opcode = opMemFill) :
    firstError errNone (fillChecks submission) = operationError submission := by
  have other : submission.opcode ≠ opVectorAdd := by simp [fill, opMemFill, opVectorAdd]
  have aligned : misaligned submission = false := by simp [misaligned, other]
  have bad : badAddresses submission = decide (submission.sourceDma = 0 ∨ submission.destinationDma = 0) := by
    simp [badAddresses, fill, opNop, opMemFill, opCrc32]
  have overlap : Rule.violated submission .overlap = false := by
    simp [Rule.violated, fill, opMemFill, opMemCopy, opVectorAdd]
  unfold operationError
  cases length : Rule.violated submission .length with
  | true =>
      rw [length_eq (.inr (.inl fill))] at length
      simp only [fillChecks, firstError, length, if_true]
  | false =>
      have legal := legalLength_of_length (by simp [fill, opNop, opMemFill]) length
      have ranges : usedRanges submission =
          [(submission.sourceDma.toNat, 1), (submission.destinationDma.toNat, submission.length.toNat)] := by
        simp [usedRanges, fill, opNop, opMemFill]
      have inside : decide (2 ^ 64 < submission.sourceDma.toNat + 1) = false := decide_eq_false (by omega)
      have overflow : Rule.violated submission .overflow =
          rangeOverflows submission.destinationDma submission.length := by
        simp only [Rule.violated, ranges, List.any_cons, List.any_nil, inside, Bool.false_or, Bool.or_false,
          rangeOverflows_eq legal]
      rw [length_eq (.inr (.inl fill))] at length
      simp only [fillChecks, firstError, length, ← overflow, aligned, bad, overlap]
      cases Rule.violated submission .overflow <;> simp [other]

theorem firstError_crc (crc : submission.opcode = opCrc32) :
    firstError errNone (crcChecks submission) = operationError submission := by
  have other : submission.opcode ≠ opVectorAdd := by simp [crc, opCrc32, opVectorAdd]
  have aligned : misaligned submission = false := by simp [misaligned, other]
  have bad : badAddresses submission = decide (submission.sourceDma = 0 ∨ submission.destinationDma ≠ 0) := by
    simp [badAddresses, crc, opNop, opCrc32]
  have overlap : Rule.violated submission .overlap = false := by
    simp [Rule.violated, crc, opCrc32, opMemCopy, opVectorAdd]
  unfold operationError
  cases length : Rule.violated submission .length with
  | true =>
      rw [length_eq (.inr (.inr crc))] at length
      simp only [crcChecks, firstError, length, if_true]
  | false =>
      have legal := legalLength_of_length (by simp [crc, opNop, opCrc32]) length
      have overflow : Rule.violated submission .overflow = rangeOverflows submission.sourceDma submission.length := by
        simp [Rule.violated, usedRanges, crc, opNop, opMemFill, opCrc32, rangeOverflows_eq legal]
      rw [length_eq (.inr (.inr crc))] at length
      simp only [crcChecks, firstError, length, ← overflow, aligned, bad, overlap]
      cases Rule.violated submission .overflow <;> simp [other]

theorem firstError_add (add : submission.opcode = opVectorAdd) :
    firstError errNone (addChecks submission) = operationError submission := by
  have bad : badAddresses submission = decide (submission.sourceDma = 0 ∨ submission.destinationDma = 0) := by
    simp [badAddresses, add, opNop, opCrc32, opVectorAdd]
  have aligned : misaligned submission = decide ((submission.sourceDma ||| submission.destinationDma) &&& 3 ≠ 0) := by
    simp only [misaligned, add, true_and, ← low_bits_or_iff, ne_eq]
  unfold operationError
  cases length : Rule.violated submission .length with
  | true =>
      rw [length_eq_add add] at length
      simp only [addChecks, firstError, length, if_true]
  | false =>
      have legal := legalLength_of_length (by simp [add, opNop, opVectorAdd]) length
      rw [length_eq_add add] at length
      simp only [addChecks, firstError, length, ← overflow_eq_pair (.inr add) legal, ← bad, ← aligned]
      cases overflow : Rule.violated submission .overflow with
      | true => simp [add]
      | false => simp [add, overlap_eq_pair (.inr add) legal overflow]

theorem firstError_operation (known : submission.opcode ∈ knownOpcodes) :
    firstError errNone (operationChecks submission) = operationError submission := by
  rcases known_cases known with nop | copy | fill | crc | add
  · rw [operationChecks_nop nop, firstError_nop nop]
  · rw [operationChecks_copy copy, firstError_copy copy]
  · rw [operationChecks_fill fill, firstError_fill fill]
  · rw [operationChecks_crc crc, firstError_crc crc]
  · rw [operationChecks_add add, firstError_add add]

/-- Alignment is the only rule that is left when no other one is violated. -/
theorem validateCommand_eq_misaligned (others : ∀ rule ∈ Rule.order, rule ≠ .address → rule.violated submission = false)
    (addresses : badAddresses submission = false) :
    validateCommand submission = if misaligned submission then errInvalidAlignment else errNone := by
  simp only [Rule.order, List.forall_mem_cons, ne_eq, reduceCtorEq, not_false_eq_true, forall_const] at others
  obtain ⟨version, opcode, flags, reserved, timeout, length, -, overflow, overlap, -⟩ := others
  have known : submission.opcode ∈ knownOpcodes := by
    simpa only [Rule.violated, decide_eq_false_iff_not, not_not] using opcode
  rw [validateCommand_eq_firstError, firstError_header, firstError_operation known, operationError]
  simp [version, opcode, flags, reserved, timeout, length, overflow, overlap, addresses]

/-- A copy of two bytes from address zero to the last byte of the address space. -/
def edgeCopy : Submission := { version := 1, opcode := opMemCopy, length := 2, destinationDma := 0xffffffffffffffff }

/-- The missing source is the first violated rule, and the overflow is reported. -/
theorem firstFailure_lost :
    firstViolated edgeCopy = some .address ∧ validateCommand edgeCopy = errAddressOverflow ∧
      ¬FirstFailureWins edgeCopy := by decide

/-- The first failure wins unless an operation other than a vector sum has both a bad address and a range that
overflows. -/
theorem firstFailureWins_iff (submission : Submission) :
    FirstFailureWins submission ↔
      ¬(firstViolated submission = some .address ∧ Rule.violated submission .overflow = true ∧
        submission.opcode ≠ opVectorAdd) := by
  unfold FirstFailureWins
  rw [validateCommand_eq_firstError, firstError_header]
  unfold firstViolated Rule.order
  cases version : Rule.violated submission .version with
  | true => simp [version, Rule.errors]
  | false =>
  cases opcode : Rule.violated submission .opcode with
  | true => simp [version, opcode, Rule.errors]
  | false =>
  cases flags : Rule.violated submission .flags with
  | true => simp [version, opcode, flags, Rule.errors]
  | false =>
  cases reserved : Rule.violated submission .reserved with
  | true => simp [version, opcode, flags, reserved, Rule.errors]
  | false =>
  cases timeout : Rule.violated submission .timeout with
  | true => simp [version, opcode, flags, reserved, timeout, Rule.errors]
  | false =>
  have known : submission.opcode ∈ knownOpcodes := by
    simpa only [Rule.violated, decide_eq_false_iff_not, not_not] using opcode
  cases length : Rule.violated submission .length with
  | true => simp [version, opcode, flags, reserved, timeout, length, Rule.errors, firstError_operation known, operationError]
  | false =>
  rw [firstError_operation known, operationError, length]
  have addresses : Rule.violated submission .address = (badAddresses submission || misaligned submission) := rfl
  cases overflow : Rule.violated submission .overflow <;> cases overlap : Rule.violated submission .overlap <;>
    cases bad : badAddresses submission <;> cases unaligned : misaligned submission <;>
    by_cases add : submission.opcode = opVectorAdd <;>
    simp [version, opcode, flags, reserved, timeout, length, addresses, overflow, overlap, bad, unaligned, add,
      Rule.errors, errAddressOverflow, errInvalidAddress, errInvalidAlignment]

end Order
end VamsSoc.Firmware
