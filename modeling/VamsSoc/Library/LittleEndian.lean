import Mathlib.Tactic

namespace VamsSoc.Library

/-- The bytes of a word start with the least significant one. -/
def leBytes {width : Nat} (count : Nat) (word : BitVec width) : List (BitVec 8) :=
  (List.range count).map fun index => BitVec.ofNat 8 (word.toNat / 256 ^ index)

/-- This value reads bytes in little-endian order. -/
def leValue : List (BitVec 8) → Nat
  | [] => 0
  | byte :: rest => byte.toNat + 256 * leValue rest

/-- A word is read from a byte at an offset. -/
def leWord (width : Nat) (bytes : List (BitVec 8)) (offset : Nat) : BitVec width :=
  BitVec.ofNat width (leValue ((bytes.drop offset).take (width / 8)))

@[simp] theorem length_leBytes {width : Nat} (count : Nat) (word : BitVec width) :
    (leBytes count word).length = count := by simp [leBytes]

theorem leValue_range (count value : Nat) :
    leValue ((List.range count).map fun index => BitVec.ofNat 8 (value / 256 ^ index)) =
      value % 256 ^ count := by
  induction count generalizing value with
  | zero => simp [leValue, Nat.mod_one]
  | succ count ih =>
      have shifted : (fun index => BitVec.ofNat 8 (value / 256 ^ index)) ∘ Nat.succ =
          fun index => BitVec.ofNat 8 (value / 256 / 256 ^ index) := by
        funext index
        simp [Nat.pow_succ', Nat.div_div_eq_div_mul]
      rw [List.range_succ_eq_map, List.map_cons, List.map_map, shifted, leValue, ih]
      simp only [pow_zero, Nat.div_one, BitVec.toNat_ofNat]
      exact (Nat.mod_mul (a := 256) (b := 256 ^ count)).symm.trans (by rw [Nat.pow_succ'])

/-- The bytes of a word keep its value. -/
theorem leValue_leBytes {width : Nat} (count : Nat) (word : BitVec width)
    (fits : width ≤ 8 * count) : leValue (leBytes count word) = word.toNat := by
  rw [leBytes, leValue_range]
  apply Nat.mod_eq_of_lt
  calc
    word.toNat < 2 ^ width := word.isLt
    _ ≤ 2 ^ (8 * count) := Nat.pow_le_pow_right (by decide) fits
    _ = 256 ^ count := by rw [Nat.pow_mul]

/-- A word read where its bytes stand is the word. -/
theorem leWord_leBytes_append {width : Nat} (count : Nat) (word : BitVec width) (rest : List (BitVec 8))
    (exact_width : 8 * count = width) : leWord width (leBytes count word ++ rest) 0 = word := by
  have bytes : width / 8 = count := by omega
  rw [leWord, List.drop_zero, bytes, List.take_left' (by simp), leValue_leBytes _ _ (by omega),
    BitVec.ofNat_toNat, BitVec.setWidth_eq]

theorem leWord_leBytes {width : Nat} (count : Nat) (word : BitVec width)
    (exact_width : 8 * count = width) : leWord width (leBytes count word) 0 = word := by
  simpa using leWord_leBytes_append count word [] exact_width

/-- A word that stands after another one is read from the bytes after it. -/
theorem leWord_skip {width other : Nat} (count offset : Nat) (word : BitVec other)
    (rest : List (BitVec 8)) (after : count ≤ offset) :
    leWord width (leBytes count word ++ rest) offset = leWord width rest (offset - count) := by
  rw [leWord, leWord, List.drop_append, List.drop_eq_nil_of_le (by simpa using after), List.nil_append,
    length_leBytes]

theorem leValue_lt (bytes : List (BitVec 8)) : leValue bytes < 256 ^ bytes.length := by
  induction bytes with
  | nil => simp [leValue]
  | cons byte rest ih =>
      have small : byte.toNat < 256 := byte.isLt
      rw [leValue, List.length_cons, Nat.pow_succ']
      omega

/-- The value of some bytes has those bytes. -/
theorem range_leValue (bytes : List (BitVec 8)) :
    ((List.range bytes.length).map fun index => BitVec.ofNat 8 (leValue bytes / 256 ^ index)) = bytes := by
  induction bytes with
  | nil => rfl
  | cons byte rest ih =>
      have small : byte.toNat < 256 := byte.isLt
      have shifted : (fun index => BitVec.ofNat 8 (leValue (byte :: rest) / 256 ^ index)) ∘ Nat.succ =
          fun index => BitVec.ofNat 8 (leValue rest / 256 ^ index) := by
        funext index
        have tail : (byte.toNat + 256 * leValue rest) / 256 = leValue rest := by omega
        simp only [Function.comp_apply, Nat.succ_eq_add_one, Nat.pow_succ', ← Nat.div_div_eq_div_mul, leValue, tail]
      rw [List.length_cons, List.range_succ_eq_map, List.map_cons, List.map_map, shifted, ih]
      congr 1
      apply BitVec.eq_of_toNat_eq
      simp only [leValue, pow_zero, Nat.div_one, BitVec.toNat_ofNat]
      omega

/-- The bytes of a word that was read are the bytes where it stands. -/
theorem leBytes_leWord {bytes : List (BitVec 8)} {width count offset : Nat} (exact_width : 8 * count = width)
    (inside : offset + count ≤ bytes.length) :
    leBytes count (leWord width bytes offset) = (bytes.drop offset).take count := by
  have piece : ((bytes.drop offset).take count).length = count := by simp; omega
  have fits : leValue ((bytes.drop offset).take count) < 2 ^ width := by
    have small := leValue_lt ((bytes.drop offset).take count)
    rwa [piece, show (256 : Nat) = 2 ^ 8 from rfl, ← Nat.pow_mul, exact_width] at small
  have whole := range_leValue ((bytes.drop offset).take count)
  rw [piece] at whole
  have bytes8 : width / 8 = count := by omega
  rw [leBytes, leWord, bytes8, BitVec.toNat_ofNat, Nat.mod_eq_of_lt fits, whole]

/-- Records of one size stand at the multiples of that size. -/
theorem getElem?_flatMap_range {α : Type} (record : Nat → List α) {size : Nat} (positive : 0 < size)
    (uniform : ∀ index, (record index).length = size) {count position : Nat} (inside : position < size * count) :
    ((List.range count).flatMap record)[position]? = (record (position / size))[position % size]? := by
  induction count with
  | zero => omega
  | succ count ih =>
      have length : ((List.range count).flatMap record).length = size * count := by
        simp [List.length_flatMap, uniform, Nat.mul_comm]
      rw [List.range_succ, List.flatMap_append, List.flatMap_singleton]
      by_cases before : position < size * count
      · rw [List.getElem?_append_left (by omega), ih before]
      · have last : position - size * count < size := by
          rw [Nat.mul_succ] at inside
          omega
        have split : position = position - size * count + size * count := by omega
        have quotient : position / size = count := by
          rw [split, Nat.add_mul_div_left _ _ positive, Nat.div_eq_of_lt last, Nat.zero_add]
        have remainder : position % size = position - size * count := by
          rw [split, Nat.add_mul_mod_self_left, Nat.add_sub_cancel, Nat.mod_eq_of_lt last]
        rw [List.getElem?_append_right (by omega), length, quotient, remainder]

end VamsSoc.Library
