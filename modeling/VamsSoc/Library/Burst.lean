/-
This file shows that a reflected cyclic redundancy register finds every burst that is not wider than the register.
-/

import VamsSoc.Library.Crc
import VamsSoc.Library.LittleEndian

namespace VamsSoc.Library

variable {width : Nat}

theorem crcShift_xor (taps first second : BitVec width) :
    crcShift taps (first ^^^ second) = crcShift taps first ^^^ crcShift taps second := by
  have low : (first ^^^ second).getLsbD 0 = (first.getLsbD 0 ^^ second.getLsbD 0) := BitVec.getLsbD_xor
  rw [crcShift, crcShift, crcShift, low, BitVec.ushiftRight_xor_distrib]
  ext index inside
  simp only [BitVec.getElem_xor]
  cases first.getLsbD 0 <;> cases second.getLsbD 0 <;> cases (first >>> 1)[index] <;>
    cases (second >>> 1)[index] <;> cases taps[index] <;> simp

theorem crcShift_iterate_xor (taps : BitVec width) (count : Nat) (first second : BitVec width) :
    (crcShift taps)^[count] (first ^^^ second) = (crcShift taps)^[count] first ^^^ (crcShift taps)^[count] second := by
  induction count with
  | zero => rfl
  | succ count ih => rw [Function.iterate_succ_apply', Function.iterate_succ_apply', Function.iterate_succ_apply', ih,
      crcShift_xor]

/-- The highest tap shows the bit that was shifted out, so no two registers have the same shift. -/
theorem crcShift_injective (taps : BitVec (width + 1)) (highest : taps.getLsbD width = true) :
    Function.Injective (crcShift taps) := by
  intro first second same
  have top (register : BitVec (width + 1)) : (crcShift taps register).getLsbD width = register.getLsbD 0 := by
    have shifted : (register >>> 1).getLsbD width = false := by
      rw [BitVec.getLsbD_ushiftRight]
      exact BitVec.getLsbD_of_ge _ _ (by omega)
    rw [crcShift, BitVec.getLsbD_xor, shifted, Bool.false_xor]
    cases register.getLsbD 0 with
    | false => simp
    | true => simpa using highest
  have low : first.getLsbD 0 = second.getLsbD 0 := by rw [← top first, same, top]
  have high : first >>> 1 = second >>> 1 := by
    rw [crcShift, crcShift, low] at same
    exact (BitVec.xor_left_inj _).mp same
  apply BitVec.eq_of_getLsbD_eq
  intro index inside
  cases index with
  | zero => exact low
  | succ index =>
      have bit := congrArg (fun register => register.getLsbD index) high
      simpa [BitVec.getLsbD_ushiftRight, Nat.add_comm] using bit

/-- A value above the low end only moves down while its zeros are shifted out. -/
theorem crcShift_iterate_shiftLeft (taps value : BitVec width) {count : Nat} (room : value.toNat < 2 ^ (width - count))
    (inside : count ≤ width) : (crcShift taps)^[count] (value <<< count) = value := by
  induction count with
  | zero => simp
  | succ count ih =>
      have below : value.toNat < 2 ^ (width - count) :=
        lt_of_lt_of_le room (Nat.pow_le_pow_right (by decide) (by omega))
      have first : crcShift taps (value <<< (count + 1)) = value <<< count := by
        apply BitVec.eq_of_getLsbD_eq
        intro index bound
        have low : (value <<< (count + 1)).getLsbD 0 = false := by simp
        rw [crcShift, low, if_neg Bool.false_ne_true]
        change (value <<< (count + 1) >>> 1 ^^^ BitVec.ofNat width 0).getLsbD index = _
        rw [BitVec.xor_zero, BitVec.getLsbD_ushiftRight,
          BitVec.getLsbD_shiftLeft, BitVec.getLsbD_shiftLeft]
        by_cases last : 1 + index < width
        · have same : 1 + index - (count + 1) = index - count := by omega
          simp only [last, bound, same]
          congr 2
          simp
          omega
        · -- The bit that would come from outside of the register is zero in the value.
          have clear : value.getLsbD (index - count) = false := by
            rw [BitVec.getLsbD]
            apply Nat.testBit_lt_two_pow
            have exponent : width - (count + 1) ≤ index - count := by omega
            exact lt_of_lt_of_le room (Nat.pow_le_pow_right (by decide) exponent)
          simp [last, clear]
      rw [Function.iterate_succ_apply, first]
      exact ih below (by omega)

/-- A byte and the value above it make one value. -/
theorem setWidth_xor_shiftLeft (byte : BitVec 8) (value : Nat) :
    byte.setWidth width ^^^ BitVec.ofNat width value <<< 8 = BitVec.ofNat width (byte.toNat + 256 * value) := by
  apply BitVec.eq_of_getLsbD_eq
  intro index inside
  have split : byte.toNat + 256 * value = 2 ^ 8 * value + byte.toNat := Nat.add_comm _ _
  have bits := Nat.testBit_two_pow_mul_add value byte.isLt index
  rw [BitVec.getLsbD_xor, BitVec.getLsbD_setWidth, BitVec.getLsbD_shiftLeft, BitVec.getLsbD_ofNat, BitVec.getLsbD_ofNat,
    split, bits]
  by_cases low : index < 8
  · simp [low, inside, BitVec.getLsbD]
  · have above : byte.getLsbD index = false := BitVec.getLsbD_of_ge _ _ (by omega)
    have bound : index - 8 < width := by omega
    simp [low, inside, above, bound]

/-- Bytes that fit into the register enter it like one word. -/
theorem crcBytes_eq_word (taps register : BitVec width) (bytes : List (BitVec 8)) (fits : 8 * bytes.length ≤ width) :
    crcBytes taps register bytes =
      (crcShift taps)^[8 * bytes.length] (register ^^^ BitVec.ofNat width (leValue bytes)) := by
  induction bytes generalizing register with
  | nil => simp [crcBytes, leValue]
  | cons byte rest ih =>
      rw [List.length_cons] at fits
      have small : leValue rest < 2 ^ (width - 8) := by
        have bound := leValue_lt rest
        rw [show (256 : Nat) = 2 ^ 8 from rfl, ← Nat.pow_mul] at bound
        exact lt_of_lt_of_le bound (Nat.pow_le_pow_right (by decide) (by omega))
      have whole : 2 ^ (width - 8) ≤ 2 ^ width := Nat.pow_le_pow_right (by decide) (by omega)
      have value : (BitVec.ofNat width (leValue rest)).toNat = leValue rest := by
        rw [BitVec.toNat_ofNat, Nat.mod_eq_of_lt (by omega)]
      have lowered : (crcShift taps)^[8] (BitVec.ofNat width (leValue rest) <<< 8) = BitVec.ofNat width (leValue rest) :=
        crcShift_iterate_shiftLeft taps _ (by rwa [value]) (by omega)
      have word : byte.setWidth width ^^^ BitVec.ofNat width (leValue rest) <<< 8 =
          BitVec.ofNat width (leValue (byte :: rest)) := setWidth_xor_shiftLeft byte (leValue rest)
      have next : crcBytes taps register (byte :: rest) = crcBytes taps (crcByte taps register byte) rest := rfl
      rw [next, ih _ (by omega), crcByte]
      nth_rewrite 1 [← lowered]
      rw [← crcShift_iterate_xor, ← Function.iterate_add_apply, BitVec.xor_assoc, word, List.length_cons]
      congr 1

theorem crcBytes_append (taps register : BitVec width) (first second : List (BitVec 8)) :
    crcBytes taps register (first ++ second) = crcBytes taps (crcBytes taps register first) second :=
  List.foldl_append

/-- Bytes of one length are known from their value. -/
theorem eq_of_leValue_eq {first second : List (BitVec 8)} (length : first.length = second.length)
    (value : leValue first = leValue second) : first = second := by
  rw [← range_leValue first, length, value, range_leValue]

section Burst

variable {taps : BitVec (width + 1)} (highest : taps.getLsbD width = true)
include highest

theorem crcBytes_register_injective (bytes : List (BitVec 8)) :
    Function.Injective fun register => crcBytes taps register bytes := by
  induction bytes with
  | nil => exact Function.injective_id
  | cons byte rest ih =>
      intro first second same
      have entered := (crcShift_injective taps highest).iterate 8 (ih same)
      exact (BitVec.xor_left_inj _).mp entered

/-- Different bytes that fit into the register leave different registers behind. -/
theorem eq_of_crcBytes_eq_short {register : BitVec (width + 1)} {first second : List (BitVec 8)}
    (length : first.length = second.length) (fits : 8 * first.length ≤ width + 1)
    (same : crcBytes taps register first = crcBytes taps register second) : first = second := by
  rw [crcBytes_eq_word taps register first fits, crcBytes_eq_word taps register second (by omega), length] at same
  have words := (BitVec.xor_right_inj _).mp ((crcShift_injective taps highest).iterate _ same)
  have small {bytes : List (BitVec 8)} (short : 8 * bytes.length ≤ width + 1) : leValue bytes < 2 ^ (width + 1) := by
    have bound := leValue_lt bytes
    rw [show (256 : Nat) = 2 ^ 8 from rfl, ← Nat.pow_mul] at bound
    exact lt_of_lt_of_le bound (Nat.pow_le_pow_right (by decide) short)
  apply eq_of_leValue_eq length
  have values := congrArg BitVec.toNat words
  rwa [BitVec.toNat_ofNat, BitVec.toNat_ofNat, Nat.mod_eq_of_lt (small fits),
    Nat.mod_eq_of_lt (small (by omega))] at values

/-- Messages that differ in a burst no wider than the register have different registers. -/
theorem eq_of_crcBytes_eq {register : BitVec (width + 1)} {first second : List (BitVec 8)} {start count : Nat}
    (length : first.length = second.length) (fits : 8 * count ≤ width + 1)
    (outside : ∀ index, index < start ∨ start + count ≤ index → first[index]? = second[index]?)
    (same : crcBytes taps register first = crcBytes taps register second) : first = second := by
  have front : first.take start = second.take start := by
    apply List.ext_getElem?
    intro index
    rw [List.getElem?_take, List.getElem?_take]
    split
    · next before => exact outside index (.inl before)
    · rfl
  have back : (first.drop start).drop count = (second.drop start).drop count := by
    apply List.ext_getElem?
    intro index
    rw [List.drop_drop, List.drop_drop, List.getElem?_drop, List.getElem?_drop]
    exact outside _ (.inr (by omega))
  have split (bytes : List (BitVec 8)) :
      bytes = bytes.take start ++ ((bytes.drop start).take count ++ (bytes.drop start).drop count) := by
    rw [List.take_append_drop, List.take_append_drop]
  have burst : (first.drop start).take count = (second.drop start).take count := by
    rw [split first, split second, front, back, crcBytes_append, crcBytes_append, crcBytes_append,
      crcBytes_append] at same
    apply eq_of_crcBytes_eq_short highest _ _ (crcBytes_register_injective highest _ same)
    · simp [length]
    · have short : ((first.drop start).take count).length ≤ count := List.length_take_le _ _
      omega
  rw [split first, split second, front, burst, back]

end Burst
end VamsSoc.Library
