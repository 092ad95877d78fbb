/-
This file relates a reflected cyclic redundancy register to division of polynomials over two elements.
-/

import Mathlib.Algebra.CharP.Two
import Mathlib.Algebra.Field.ZMod
import Mathlib.RingTheory.AdjoinRoot
import Mathlib.Tactic

namespace VamsSoc.Library
open Polynomial

variable {width : Nat}

/-- A reflected register has the coefficient of the highest power in its lowest bit. -/
noncomputable def reflected (register : BitVec width) : (ZMod 2)[X] :=
  ∑ index ∈ Finset.range width, if register.getLsbD index then X ^ (width - 1 - index) else 0

/-- One shift moves the lowest bit out and reduces the register when that bit is set. -/
def crcShift (taps register : BitVec width) : BitVec width :=
  (register >>> 1) ^^^ (if register.getLsbD 0 then taps else 0)

/-- A byte enters at the low end of the register and goes through eight shifts. -/
def crcByte (taps register : BitVec width) (byte : BitVec 8) : BitVec width :=
  (crcShift taps)^[8] (register ^^^ byte.setWidth width)

def crcBytes (taps register : BitVec width) (bytes : List (BitVec 8)) : BitVec width :=
  bytes.foldl (crcByte taps) register

/-- A shift of the source selects the taps by a mask. -/
theorem crcShift_mask (taps register : BitVec 32) :
    (register >>> 1) ^^^ (taps &&& (0 - (register &&& 1))) = crcShift taps register := by
  have low : register &&& 1 = BitVec.setWidth 32 (BitVec.ofBool (register.getLsbD 0)) :=
    BitVec.and_one_eq_setWidth_ofBool_getLsbD
  rw [crcShift, low]
  cases register.getLsbD 0 with
  | false => exact congrArg _ BitVec.and_zero
  | true => exact congrArg _ BitVec.and_allOnes

/-- The taps are the generator without its leading power. -/
noncomputable def generator (taps : BitVec width) : (ZMod 2)[X] := X ^ width + reflected taps

/-- A message sends the lowest bit of each byte first. -/
noncomputable def message (bytes : List (BitVec 8)) : (ZMod 2)[X] :=
  bytes.foldl (fun sum byte => sum * X ^ 8 + reflected byte) 0

theorem reflected_xor (first second : BitVec width) :
    reflected (first ^^^ second) = reflected first + reflected second := by
  rw [reflected, reflected, reflected, ← Finset.sum_add_distrib]
  apply Finset.sum_congr rfl
  intro index _
  rw [BitVec.getLsbD_xor]
  cases first.getLsbD index <;> cases second.getLsbD index <;> simp [CharTwo.add_self_eq_zero]

theorem reflected_zero : reflected (0 : BitVec width) = 0 := by
  simp [reflected]

/-- A shift of the register multiplies by the variable, except for the power that leaves it. -/
theorem X_mul_reflected (register : BitVec (width + 1)) :
    X * reflected register =
      reflected (register >>> 1) + if register.getLsbD 0 then X ^ (width + 1) else 0 := by
  rw [reflected, reflected, Finset.sum_range_succ', Finset.sum_range_succ, mul_add, Finset.mul_sum]
  have last : (register >>> 1).getLsbD width = false := by
    rw [BitVec.getLsbD_ushiftRight]
    exact BitVec.getLsbD_of_ge _ _ (by omega)
  rw [last, if_neg Bool.false_ne_true, add_zero]
  congr 1
  · apply Finset.sum_congr rfl
    intro index inside
    have below := Finset.mem_range.mp inside
    have shifted : (register >>> 1).getLsbD index = register.getLsbD (index + 1) := by
      rw [BitVec.getLsbD_ushiftRight, Nat.add_comm 1 index]
    have power : width + 1 - 1 - index = width + 1 - 1 - (index + 1) + 1 := by omega
    rw [shifted, mul_ite, mul_zero, power, pow_succ']
  · rw [mul_ite, mul_zero, ← pow_succ']
    rfl

theorem reflected_mem_degreeLT (register : BitVec width) : reflected register ∈ degreeLT (ZMod 2) width := by
  apply Submodule.sum_mem
  intro index inside
  have below := Finset.mem_range.mp inside
  split
  · rw [mem_degreeLT, degree_X_pow]
    exact_mod_cast (by omega : width - 1 - index < width)
  · exact Submodule.zero_mem _

theorem monic_generator (taps : BitVec width) : (generator taps).Monic :=
  monic_X_pow_add (mem_degreeLT.mp (reflected_mem_degreeLT taps))

theorem degree_generator (taps : BitVec width) : (generator taps).degree = width := by
  rw [generator, add_comm, degree_add_eq_right_of_degree_lt]
  · exact degree_X_pow _
  · rw [degree_X_pow]
    exact mem_degreeLT.mp (reflected_mem_degreeLT taps)

/-- Modulo the generator, a shift multiplies by the variable. -/
theorem mk_crcShift (taps register : BitVec (width + 1)) :
    AdjoinRoot.mk (generator taps) (reflected (crcShift taps register)) =
      AdjoinRoot.mk (generator taps) (X * reflected register) := by
  rw [X_mul_reflected, crcShift, reflected_xor, map_add, map_add]
  congr 1
  cases register.getLsbD 0 with
  | false => rw [if_neg Bool.false_ne_true, if_neg Bool.false_ne_true, reflected_zero]
  | true =>
      rw [if_pos rfl, if_pos rfl, AdjoinRoot.mk_eq_mk]
      have same : reflected taps - X ^ (width + 1) = generator taps := by
        rw [generator, CharTwo.sub_eq_add, add_comm]
      rw [same]

theorem mk_crcShift_iterate (taps register : BitVec (width + 1)) (count : Nat) :
    AdjoinRoot.mk (generator taps) (reflected ((crcShift taps)^[count] register)) =
      AdjoinRoot.mk (generator taps) (X ^ count * reflected register) := by
  induction count with
  | zero => rw [Function.iterate_zero, id_eq, pow_zero, one_mul]
  | succ count ih =>
      rw [Function.iterate_succ_apply', mk_crcShift, map_mul, ih, ← map_mul, pow_succ', mul_assoc]

/-- A byte stands at the high powers of the register. -/
theorem reflected_setWidth (byte : BitVec 8) (wide : 8 ≤ width) :
    reflected (byte.setWidth width) = reflected byte * X ^ (width - 8) := by
  obtain ⟨rest, rfl⟩ := Nat.exists_eq_add_of_le wide
  rw [reflected, reflected, Finset.sum_range_add, Finset.sum_mul]
  have high : ∀ index ∈ Finset.range rest, (if (byte.setWidth (8 + rest)).getLsbD (8 + index) then
      (X : (ZMod 2)[X]) ^ (8 + rest - 1 - (8 + index)) else 0) = 0 := by
    intro index _
    rw [BitVec.getLsbD_setWidth, BitVec.getLsbD_of_ge byte _ (by omega), Bool.and_false,
      if_neg Bool.false_ne_true]
  rw [Finset.sum_eq_zero high, add_zero]
  apply Finset.sum_congr rfl
  intro index inside
  have below := Finset.mem_range.mp inside
  have power : 8 + rest - 1 - index = 8 - 1 - index + (8 + rest - 8) := by omega
  have kept : (byte.setWidth (8 + rest)).getLsbD index = byte.getLsbD index := by
    rw [BitVec.getLsbD_setWidth, decide_eq_true (by omega), Bool.true_and]
  rw [kept, ite_mul, zero_mul, power, pow_add]

theorem mk_crcByte (taps register : BitVec (width + 1)) (byte : BitVec 8) (wide : 8 ≤ width + 1) :
    AdjoinRoot.mk (generator taps) (reflected (crcByte taps register byte)) =
      AdjoinRoot.mk (generator taps) (reflected register * X ^ 8 + reflected byte * X ^ (width + 1)) := by
  have power : (X : (ZMod 2)[X]) ^ (width + 1) = X ^ (width + 1 - 8) * X ^ 8 := by
    rw [← pow_add, Nat.sub_add_cancel wide]
  rw [crcByte, mk_crcShift_iterate, reflected_xor, reflected_setWidth byte wide, power]
  refine congrArg (AdjoinRoot.mk (generator taps)) ?_
  ring

theorem message_append (bytes : List (BitVec 8)) (byte : BitVec 8) :
    message (bytes ++ [byte]) = message bytes * X ^ 8 + reflected byte := by
  rw [message, List.foldl_append]
  rfl

/-- The register is congruent to the message behind the register that it started from. -/
theorem mk_crcBytes (taps register : BitVec (width + 1)) (bytes : List (BitVec 8)) (wide : 8 ≤ width + 1) :
    AdjoinRoot.mk (generator taps) (reflected (crcBytes taps register bytes)) =
      AdjoinRoot.mk (generator taps)
        (reflected register * X ^ (8 * bytes.length) + message bytes * X ^ (width + 1)) := by
  induction bytes using List.reverseRecOn with
  | nil => simp [crcBytes, message]
  | append_singleton bytes byte ih =>
      have last : crcBytes taps register (bytes ++ [byte]) = crcByte taps (crcBytes taps register bytes) byte := by
        rw [crcBytes, List.foldl_append]
        rfl
      rw [last, mk_crcByte taps _ byte wide, map_add, map_mul, ih, ← map_mul, ← map_add, message_append,
        List.length_append, List.length_singleton, Nat.mul_add, pow_add]
      refine congrArg (AdjoinRoot.mk (generator taps)) ?_
      ring

/-- The register is the remainder of the division by the generator. -/
theorem reflected_crcBytes (taps register : BitVec (width + 1)) (bytes : List (BitVec 8)) (wide : 8 ≤ width + 1) :
    reflected (crcBytes taps register bytes) =
      (reflected register * X ^ (8 * bytes.length) + message bytes * X ^ (width + 1)) %ₘ generator taps := by
  have monic := monic_generator taps
  have small : (reflected (crcBytes taps register bytes)).degree < (generator taps).degree := by
    rw [degree_generator]
    exact mem_degreeLT.mp (reflected_mem_degreeLT _)
  calc reflected (crcBytes taps register bytes)
      = reflected (crcBytes taps register bytes) %ₘ generator taps := ((modByMonic_eq_self_iff monic).mpr small).symm
    _ = _ := modByMonic_eq_of_dvd_sub monic (AdjoinRoot.mk_eq_mk.mp (mk_crcBytes taps register bytes wide))

/-- The generator of IEEE 802.3. -/
noncomputable def ieeeGenerator : (ZMod 2)[X] :=
  X ^ 32 + X ^ 26 + X ^ 23 + X ^ 22 + X ^ 16 + X ^ 12 + X ^ 11 + X ^ 10 + X ^ 8 + X ^ 7 + X ^ 5 + X ^ 4 + X ^ 2 + X + 1

theorem generator_ieee : generator (0xedb88320 : BitVec 32) = ieeeGenerator := by
  have taps : reflected (0xedb88320 : BitVec 32) =
      X ^ 26 + X ^ 23 + X ^ 22 + X ^ 16 + X ^ 12 + X ^ 11 + X ^ 10 + X ^ 8 + X ^ 7 + X ^ 5 + X ^ 4 + X ^ 2 + X + 1 := by
    simp [reflected, Finset.sum_range_succ]
  rw [generator, ieeeGenerator, taps]
  ring

/-- The complement of an IEEE checksum is the remainder of the message behind a register of ones. -/
def IsIeeeCrc32 (bytes : List (BitVec 8)) (checksum : BitVec 32) : Prop :=
  reflected (~~~checksum) =
    (reflected (BitVec.allOnes 32) * X ^ (8 * bytes.length) + message bytes * X ^ 32) %ₘ ieeeGenerator

theorem coeff_reflected (register : BitVec width) {index : Nat} (inside : index < width) :
    (reflected register).coeff (width - 1 - index) = if register.getLsbD index then 1 else 0 := by
  rw [reflected, finsetSum_coeff, Finset.sum_eq_single index]
  · split <;> simp
  · intro other listed differs
    have below := Finset.mem_range.mp listed
    split
    · rw [coeff_X_pow, if_neg (by omega)]
    · exact coeff_zero _
  · intro outside
    exact absurd (Finset.mem_range.mpr inside) outside

/-- A register is known from its polynomial. -/
theorem reflected_inj {first second : BitVec width} (same : reflected first = reflected second) : first = second := by
  apply BitVec.eq_of_getLsbD_eq
  intro index inside
  have bit := congrArg (coeff · (width - 1 - index)) same
  simp only [coeff_reflected _ inside] at bit
  revert bit
  cases first.getLsbD index <;> cases second.getLsbD index <;> simp

/-- A message has one checksum. -/
theorem IsIeeeCrc32.unique {bytes : List (BitVec 8)} {first second : BitVec 32} (one : IsIeeeCrc32 bytes first)
    (other : IsIeeeCrc32 bytes second) : first = second :=
  BitVec.not_inj.mp (reflected_inj (one.trans other.symm))

theorem isIeeeCrc32_complement (bytes : List (BitVec 8)) :
    IsIeeeCrc32 bytes (~~~crcBytes 0xedb88320 (BitVec.allOnes 32) bytes) := by
  rw [IsIeeeCrc32, BitVec.not_not, reflected_crcBytes _ _ _ (by decide), generator_ieee]

end VamsSoc.Library
