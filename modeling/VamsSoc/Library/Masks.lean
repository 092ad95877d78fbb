import Mathlib.Tactic

namespace VamsSoc.Library

/-- The test `word & mask` of the source. -/
def hasBits {width : Nat} (word mask : BitVec width) : Bool := word &&& mask != 0

/-- The source clears bits with `word & ~mask`. -/
def clearBits {width : Nat} (word mask : BitVec width) : BitVec width := word &&& ~~~mask

/-- This is the nonzero test that QEMU calls `is_power_of_2`. -/
def isPowerOf2 {width : Nat} (word : BitVec width) : Bool := word != 0 && word &&& (word - 1) == 0

/-- A saturating counter stays at its last value. -/
def satInc {width : Nat} (value : BitVec width) : BitVec width :=
  if value = BitVec.allOnes width then value else value + 1

/-- The counter counts up to its last value. -/
theorem toNat_satInc (value : BitVec 32) : (satInc value).toNat = min (2 ^ 32 - 1) (value.toNat + 1) := by
  unfold satInc
  split
  · next full =>
      rw [full, BitVec.toNat_allOnes]
      rfl
  · next below =>
      have short : value.toNat ≠ 2 ^ 32 - 1 := fun full => below (BitVec.eq_of_toNat_eq full)
      rw [BitVec.toNat_add]
      have bound := value.isLt
      change (value.toNat + 1) % 2 ^ 32 = _
      omega

/-- A counter that has counted so far counts one more. -/
theorem toNat_satInc_of_eq {value : BitVec 32} {count : Nat} (counted : value.toNat = min count (2 ^ 32 - 1)) :
    (satInc value).toNat = min (count + 1) (2 ^ 32 - 1) := by
  rw [toNat_satInc, counted]
  omega

/-- A ring index stays below a nonzero depth. -/
theorem and_pred_lt (word depth : BitVec 32) (nonzero : depth ≠ 0) : word &&& (depth - 1) < depth := by
  have below : (word &&& (depth - 1)).toNat ≤ (depth - 1).toNat := by
    rw [BitVec.toNat_and]
    exact Nat.and_le_right
  bv_omega

/-- Setting bits outside of a mask does not change what the mask sees. -/
theorem hasBits_or {width : Nat} (word : BitVec width) {bits mask : BitVec width} (apart : bits &&& mask = 0) :
    hasBits (word ||| bits) mask = hasBits word mask := by
  have split : (word ||| bits) &&& mask = word &&& mask ||| bits &&& mask := by
    ext index
    simp [Bool.and_or_distrib_right]
  rw [hasBits, hasBits, split, apart]
  simp

/-- Clearing bits outside of a mask does not change what the mask sees. -/
theorem hasBits_clearBits {width : Nat} (word : BitVec width) {bits mask : BitVec width}
    (apart : bits &&& mask = 0) : hasBits (clearBits word bits) mask = hasBits word mask := by
  have kept : ~~~bits &&& mask = mask := by
    ext index inside
    have bit : (bits[index] && mask[index]) = false := by
      rw [← BitVec.getElem_and, apart]
      simp
    cases seen : mask[index] <;> simp_all
  rw [hasBits, hasBits, clearBits, BitVec.and_assoc, kept]

/-- No bit of a mask is left after it was cleared. -/
theorem hasBits_cleared {width : Nat} (word mask : BitVec width) : hasBits (clearBits word mask) mask = false := by
  simp [hasBits, clearBits, BitVec.and_assoc]

theorem clearBits_cleared {width : Nat} (word mask : BitVec width) :
    clearBits (clearBits word mask) mask = clearBits word mask := by
  simp [clearBits, BitVec.and_assoc]

theorem clearBits_comm {width : Nat} (word first second : BitVec width) :
    clearBits (clearBits word first) second = clearBits (clearBits word second) first := by
  simp only [clearBits, BitVec.and_assoc]
  rw [BitVec.and_comm (~~~first)]

theorem clearBits_set {width : Nat} (word mask : BitVec width) : clearBits (word ||| mask) mask = clearBits word mask := by
  ext index inside
  cases masked : mask[index] <;> simp [clearBits, masked]

theorem hasBits_set {width : Nat} (word : BitVec width) {mask : BitVec width} (some : mask ≠ 0) :
    hasBits (word ||| mask) mask = true := by
  have kept : (word ||| mask) &&& mask = mask := by
    ext index
    simp only [BitVec.getElem_and, BitVec.getElem_or, Bool.and_eq_right_iff_imp, Bool.or_eq_true]
    exact .inr
  rw [hasBits, kept]
  simpa using some

theorem hasBits_or_of_hasBits {width : Nat} {word mask : BitVec width} (set : hasBits word mask = true)
    (bits : BitVec width) : hasBits (word ||| bits) mask = true := by
  by_contra clear
  have none : (word ||| bits) &&& mask = 0 := by simpa [hasBits] using clear
  have part : word &&& mask = word &&& ((word ||| bits) &&& mask) := by
    ext index inside
    simp only [BitVec.getElem_and, BitVec.getElem_or]
    cases word[index] <;> simp
  rw [none] at part
  simp [hasBits, part] at set

/-- A mask of two parts sees what either part sees. -/
theorem hasBits_mask_or {width : Nat} (word first second : BitVec width) :
    hasBits word (first ||| second) = (hasBits word first || hasBits word second) := by
  have split : word &&& (first ||| second) = word &&& first ||| word &&& second := by
    ext index
    simp [Bool.and_or_distrib_left]
  rw [Bool.eq_iff_iff]
  simp only [hasBits, split, bne_iff_ne, Bool.or_eq_true, ne_eq, ← not_and_or]
  exact not_congr BitVec.or_eq_zero_iff

theorem hasBits_masked {width : Nat} (word mask : BitVec width) : hasBits (word &&& mask) mask = hasBits word mask := by
  rw [hasBits, hasBits, BitVec.and_assoc, BitVec.and_self]

theorem hasBits_zero {width : Nat} (mask : BitVec width) : hasBits 0 mask = false := by
  simp [hasBits]

/-- A mask that sees nothing of a word sees nothing of a part of it. -/
theorem hasBits_and {width : Nat} {word mask : BitVec width} (clear : hasBits word mask = false) (bits : BitVec width) :
    hasBits (word &&& bits) mask = false := by
  have none : word &&& mask = 0 := by simpa [hasBits] using clear
  have part : word &&& bits &&& mask = bits &&& (word &&& mask) := by
    rw [BitVec.and_comm word, BitVec.and_assoc]
  rw [hasBits, part, none]
  simp

end VamsSoc.Library
