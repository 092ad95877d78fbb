/-
This file has the index arithmetic of rings whose depth is a power of two.
-/

import VamsSoc.Library.Masks

namespace VamsSoc.Library

/-- Two neighbors share their highest bit unless the larger one is a power of two. -/
theorem exists_pow_of_and_pred {value : Nat} (nonzero : value ≠ 0) (apart : value &&& (value - 1) = 0) :
    ∃ exponent, value = 2 ^ exponent := by
  refine ⟨value.log2, ?_⟩
  have low : 2 ^ value.log2 ≤ value := Nat.log2_self_le nonzero
  have high : value < 2 ^ (value.log2 + 1) := Nat.lt_log2_self
  by_contra different
  have below : 2 ^ value.log2 ≤ value - 1 := by omega
  have top {word : Nat} (atLeast : 2 ^ value.log2 ≤ word) (atMost : word < 2 ^ (value.log2 + 1)) :
      word.testBit value.log2 = true := by
    rw [Nat.testBit_eq_decide_div_mod_eq, decide_eq_true_eq]
    have half : word / 2 ^ value.log2 = 1 := by
      rw [Nat.div_eq_iff (by positivity)]
      rw [pow_succ] at atMost
      omega
    rw [half]
  have shared : (value &&& (value - 1)).testBit value.log2 = true := by
    rw [Nat.testBit_and, top low high, top below (by omega)]
    rfl
  rw [apart, Nat.zero_testBit] at shared
  exact Bool.false_ne_true shared

/-- The steps from one index forward to another, written without a remainder. -/
theorem distance_eq {depth first second : Nat} (firstInside : first < depth) (secondInside : second < depth) :
    (depth - first + second) % depth = if first ≤ second then second - first else depth - first + second := by
  split
  next ordered =>
    have wrapped : depth - first + second = second - first + depth := by omega
    rw [wrapped, Nat.add_mod_right, Nat.mod_eq_of_lt (by omega)]
  · exact Nat.mod_eq_of_lt (by omega)

theorem next_eq {depth index : Nat} (inside : index < depth) :
    (index + 1) % depth = if index + 1 = depth then 0 else index + 1 := by
  split
  next last => rw [last, Nat.mod_self]
  · exact Nat.mod_eq_of_lt (by omega)

section Rings
variable {width : Nat} {depth : BitVec width}

theorem toNat_ne_zero (nonzero : depth ≠ 0) : depth.toNat ≠ 0 := by
  intro zero
  exact nonzero (BitVec.eq_of_toNat_eq (by simpa using zero))

theorem toNat_one_of_ne (nonzero : depth ≠ 0) : (1 : BitVec width).toNat = 1 := by
  have positive := toNat_ne_zero nonzero
  have bound := depth.isLt
  refine BitVec.toNat_one (Nat.pos_of_ne_zero ?_)
  rintro rfl
  omega

theorem toNat_pred (nonzero : depth ≠ 0) : (depth - 1).toNat = depth.toNat - 1 := by
  have positive := toNat_ne_zero nonzero
  have one := toNat_one_of_ne nonzero
  rw [BitVec.toNat_sub_of_le (BitVec.le_def.mpr (by omega)), one]

theorem ne_zero_of_isPowerOf2 (power : isPowerOf2 depth = true) : depth ≠ 0 := by
  simp only [isPowerOf2, Bool.and_eq_true, bne_iff_ne] at power
  exact power.1

theorem exists_pow_of_isPowerOf2 (power : isPowerOf2 depth = true) : ∃ exponent, depth.toNat = 2 ^ exponent := by
  have nonzero := ne_zero_of_isPowerOf2 power
  simp only [isPowerOf2, Bool.and_eq_true, beq_iff_eq] at power
  have words := congrArg BitVec.toNat power.2
  rw [BitVec.toNat_and, toNat_pred nonzero] at words
  exact exists_pow_of_and_pred (toNat_ne_zero nonzero) words

/-- The mask of a ring takes the remainder. -/
theorem toNat_and_pred (power : isPowerOf2 depth = true) (word : BitVec width) :
    (word &&& (depth - 1)).toNat = word.toNat % depth.toNat := by
  obtain ⟨exponent, value⟩ := exists_pow_of_isPowerOf2 power
  rw [BitVec.toNat_and, toNat_pred (ne_zero_of_isPowerOf2 power), value, Nat.and_two_pow_sub_one_eq_mod]

/-- The words wrap around the ring a whole number of times. -/
theorem depth_dvd (power : isPowerOf2 depth = true) : depth.toNat ∣ 2 ^ width := by
  obtain ⟨exponent, value⟩ := exists_pow_of_isPowerOf2 power
  rw [value]
  refine pow_dvd_pow 2 (Nat.le_of_lt ?_)
  exact (Nat.pow_lt_pow_iff_right Nat.one_lt_two).mp (value ▸ depth.isLt)

theorem toNat_next (power : isPowerOf2 depth = true) (word : BitVec width) :
    ((word + 1) &&& (depth - 1)).toNat = (word.toNat + 1) % depth.toNat := by
  rw [toNat_and_pred power, BitVec.toNat_add, Nat.mod_mod_of_dvd _ (depth_dvd power)]
  rw [toNat_one_of_ne (ne_zero_of_isPowerOf2 power)]

/-- The mask counts the steps from one index forward to another. -/
theorem toNat_distance (power : isPowerOf2 depth = true) {first : BitVec width} (inside : first < depth)
    (second : BitVec width) :
    ((second - first) &&& (depth - 1)).toNat = (depth.toNat - first.toNat + second.toNat) % depth.toNat := by
  rw [toNat_and_pred power, BitVec.toNat_sub, Nat.mod_mod_of_dvd _ (depth_dvd power)]
  obtain ⟨turns, whole⟩ := depth_dvd power
  have below : first.toNat < depth.toNat := inside
  have once : 0 < turns := by
    by_contra none
    have bound := depth.isLt
    have zero : turns = 0 := by omega
    rw [whole, zero, Nat.mul_zero] at bound
    omega
  obtain ⟨more, rfl⟩ : ∃ more, turns = more + 1 := ⟨turns - 1, by omega⟩
  rw [whole, Nat.mul_succ]
  have regroup : depth.toNat * more + depth.toNat - first.toNat + second.toNat =
      depth.toNat - first.toNat + second.toNat + depth.toNat * more := by omega
  rw [regroup, Nat.add_mul_mod_self_left]

/-- A consumer that stays behind the producer does not fill a ring that has room. -/
theorem room_of_consumed (power : isPowerOf2 depth = true) {head tail value : BitVec width} (headInside : head < depth)
    (tailInside : tail < depth) (valueInside : value < depth) (room : (tail + 1) &&& (depth - 1) ≠ head)
    (behind : (value - head) &&& (depth - 1) ≤ (tail - head) &&& (depth - 1)) :
    (tail + 1) &&& (depth - 1) ≠ value := by
  intro full
  have steps := BitVec.le_def.mp behind
  have last : (tail.toNat + 1) % depth.toNat = value.toNat := by rw [← toNat_next power, full]
  have free : (tail.toNat + 1) % depth.toNat ≠ head.toNat := by
    rw [← toNat_next power]
    exact fun same => room (BitVec.eq_of_toNat_eq same)
  rw [toNat_distance power headInside, toNat_distance power headInside,
    distance_eq (BitVec.lt_def.mp headInside) (BitVec.lt_def.mp valueInside),
    distance_eq (BitVec.lt_def.mp headInside) (BitVec.lt_def.mp tailInside)] at steps
  rw [next_eq (BitVec.lt_def.mp tailInside)] at last free
  have bounds := BitVec.lt_def.mp headInside
  split_ifs at steps last free <;> omega

/-- The producer writes outside of the slots that its consumer has not passed. -/
theorem tail_ne_of_unconsumed (power : isPowerOf2 depth = true) {head tail : BitVec width} (headInside : head < depth)
    (tailInside : tail < depth) {index : Nat} (unconsumed : index < ((tail - head) &&& (depth - 1)).toNat) :
    (head + BitVec.ofNat width index) &&& (depth - 1) ≠ tail := by
  intro same
  have below := BitVec.lt_def.mp headInside
  have inside := BitVec.lt_def.mp tailInside
  have values := congrArg BitVec.toNat same
  rw [toNat_and_pred power, BitVec.toNat_add, Nat.mod_mod_of_dvd _ (depth_dvd power), BitVec.toNat_ofNat,
    Nat.add_mod, Nat.mod_mod_of_dvd _ (depth_dvd power), ← Nat.add_mod] at values
  rw [toNat_distance power headInside, distance_eq below inside] at unconsumed
  by_cases wraps : head.toNat + index < depth.toNat
  · rw [Nat.mod_eq_of_lt wraps] at values
    split_ifs at unconsumed <;> omega
  · have turned : head.toNat + index = head.toNat + index - depth.toNat + depth.toNat := by omega
    rw [turned, Nat.add_mod_right, Nat.mod_eq_of_lt (by split_ifs at unconsumed <;> omega)] at values
    split_ifs at unconsumed <;> omega

/-- A consumer that advances has one entry less before it. -/
theorem distance_next (power : isPowerOf2 depth = true) {head tail : BitVec width} (headInside : head < depth)
    (tailInside : tail < depth) (waiting : head ≠ tail) :
    ((tail - ((head + 1) &&& (depth - 1))) &&& (depth - 1)).toNat + 1 = ((tail - head) &&& (depth - 1)).toNat := by
  have below := BitVec.lt_def.mp headInside
  have inside := BitVec.lt_def.mp tailInside
  have different : head.toNat ≠ tail.toNat := fun same => waiting (BitVec.eq_of_toNat_eq same)
  have next := toNat_next power head
  have nextInside : (head + 1) &&& (depth - 1) < depth := by
    rw [BitVec.lt_def, next]
    exact Nat.mod_lt _ (by omega)
  rw [toNat_distance power nextInside, toNat_distance power headInside, distance_eq (BitVec.lt_def.mp nextInside) inside,
    distance_eq below inside, next, next_eq below]
  split_ifs <;> omega

/-- A producer that advances has one entry more behind it, unless the ring was full. -/
theorem distance_produced (power : isPowerOf2 depth = true) {head tail : BitVec width} (headInside : head < depth)
    (tailInside : tail < depth) (room : ((tail - head) &&& (depth - 1)).toNat + 1 < depth.toNat) :
    ((((tail + 1) &&& (depth - 1)) - head) &&& (depth - 1)).toNat = ((tail - head) &&& (depth - 1)).toNat + 1 := by
  have below := BitVec.lt_def.mp headInside
  have inside := BitVec.lt_def.mp tailInside
  have next := toNat_next power tail
  have nextInside : ((tail + 1) &&& (depth - 1)).toNat < depth.toNat := by
    rw [next]
    exact Nat.mod_lt _ (by omega)
  rw [toNat_distance power headInside, distance_eq below inside] at room
  rw [toNat_distance power headInside, toNat_distance power headInside, distance_eq below nextInside,
    distance_eq below inside, next, next_eq inside]
  split_ifs at room ⊢ <;> omega

/-- What the consumer takes is no longer between the indices. -/
theorem distance_consumed (power : isPowerOf2 depth = true) {head tail value : BitVec width} (headInside : head < depth)
    (tailInside : tail < depth) (valueInside : value < depth)
    (behind : (value - head) &&& (depth - 1) ≤ (tail - head) &&& (depth - 1)) :
    ((tail - value) &&& (depth - 1)).toNat =
      ((tail - head) &&& (depth - 1)).toNat - ((value - head) &&& (depth - 1)).toNat := by
  have below := BitVec.lt_def.mp headInside
  have inside := BitVec.lt_def.mp tailInside
  have within := BitVec.lt_def.mp valueInside
  have steps := BitVec.le_def.mp behind
  rw [toNat_distance power headInside, toNat_distance power headInside, distance_eq below within,
    distance_eq below inside] at steps
  rw [toNat_distance power valueInside, toNat_distance power headInside, toNat_distance power headInside,
    distance_eq within inside, distance_eq below inside, distance_eq below within]
  split_ifs at steps ⊢ <;> omega

theorem eq_of_distance_zero (power : isPowerOf2 depth = true) {head tail : BitVec width} (headInside : head < depth)
    (tailInside : tail < depth) (none : ((tail - head) &&& (depth - 1)).toNat = 0) : head = tail := by
  have below := BitVec.lt_def.mp headInside
  have inside := BitVec.lt_def.mp tailInside
  rw [toNat_distance power headInside, distance_eq below inside] at none
  apply BitVec.eq_of_toNat_eq
  split_ifs at none <;> omega

theorem distance_lt (power : isPowerOf2 depth = true) (head tail : BitVec width) :
    ((tail - head) &&& (depth - 1)).toNat < depth.toNat := by
  rw [toNat_and_pred power]
  exact Nat.mod_lt _ (Nat.pos_of_ne_zero (toNat_ne_zero (ne_zero_of_isPowerOf2 power)))

end Rings
end VamsSoc.Library
