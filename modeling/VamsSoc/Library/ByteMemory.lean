/-
This file has a byte memory with modular addresses, and the range that a sequence of stores has rewritten so far.
-/

import Mathlib.Data.BitVec
import Mathlib.Data.List.GetD
import Mathlib.Tactic

namespace VamsSoc.Library

variable {width : Nat}

/-- The bytes from an address on. -/
def loadBytes (memory : BitVec width → BitVec 8) (address : BitVec width) (count : Nat) : List (BitVec 8) :=
  (List.range count).map fun index => memory (address + BitVec.ofNat width index)

/-- A store changes the cells from its address on and no other one. -/
def storeBytes (memory : BitVec width → BitVec 8) (address : BitVec width) (bytes : List (BitVec 8)) :
    BitVec width → BitVec 8 :=
  fun cell => bytes.getD (cell - address).toNat (memory cell)

/-- The first cells of a range have new values. -/
def rewritten (memory : BitVec width → BitVec 8) (address : BitVec width) (values : Nat → BitVec 8) (count : Nat) :
    BitVec width → BitVec 8 :=
  fun cell => if (cell - address).toNat < count then values (cell - address).toNat else memory cell

@[simp] theorem length_loadBytes (memory : BitVec width → BitVec 8) (address : BitVec width) (count : Nat) :
    (loadBytes memory address count).length = count := by
  rw [loadBytes, List.length_map, List.length_range]

theorem getElem_loadBytes (memory : BitVec width → BitVec 8) (address : BitVec width) {count index : Nat}
    (inside : index < (loadBytes memory address count).length) :
    (loadBytes memory address count)[index] = memory (address + BitVec.ofNat width index) := by
  simp [loadBytes]

theorem loadBytes_add (memory : BitVec width → BitVec 8) (address : BitVec width) (first second : Nat) :
    loadBytes memory address (first + second) =
      loadBytes memory address first ++ loadBytes memory (address + BitVec.ofNat width first) second := by
  rw [loadBytes, List.range_add, List.map_append, List.map_map]
  congr 1
  apply List.map_congr_left
  intro index _
  rw [Function.comp_apply, BitVec.ofNat_add, BitVec.add_assoc]

theorem loadBytes_congr {first second : BitVec width → BitVec 8} {address : BitVec width} {count : Nat}
    (same : ∀ index < count, first (address + BitVec.ofNat width index) = second (address + BitVec.ofNat width index)) :
    loadBytes first address count = loadBytes second address count := by
  apply List.map_congr_left
  intro index inside
  exact same index (List.mem_range.mp inside)

/-- A cell of a range is as far from its start as its index says. -/
theorem toNat_sub_of_index {address : BitVec width} {index : Nat} (inside : index < 2 ^ width) :
    (address + BitVec.ofNat width index - address).toNat = index := by
  rw [BitVec.add_comm, BitVec.add_sub_cancel, BitVec.toNat_ofNat, Nat.mod_eq_of_lt inside]

theorem rewritten_inside {memory : BitVec width → BitVec 8} {address : BitVec width} {values : Nat → BitVec 8}
    {count index : Nat} (inside : index < count) (fits : count ≤ 2 ^ width) :
    rewritten memory address values count (address + BitVec.ofNat width index) = values index := by
  rw [rewritten, toNat_sub_of_index (by omega), if_pos inside]

theorem rewritten_outside {memory : BitVec width → BitVec 8} {address cell : BitVec width} {values : Nat → BitVec 8}
    {count : Nat} (outside : count ≤ (cell - address).toNat) :
    rewritten memory address values count cell = memory cell := by
  rw [rewritten, if_neg (by omega)]

theorem rewritten_zero (memory : BitVec width → BitVec 8) (address : BitVec width) (values : Nat → BitVec 8) :
    rewritten memory address values 0 = memory := by
  funext cell
  rw [rewritten, if_neg (Nat.not_lt_zero _)]

/-- The distance from a later start of a range is what is left, or goes around the address space. -/
theorem toNat_sub_of_offset (cell address : BitVec width) {offset : Nat} (small : offset < 2 ^ width) :
    (cell - (address + BitVec.ofNat width offset)).toNat =
      if offset ≤ (cell - address).toNat then (cell - address).toNat - offset
      else 2 ^ width + (cell - address).toNat - offset := by
  have bound := (cell - address).isLt
  rw [sub_add_eq_sub_sub, BitVec.toNat_sub, BitVec.toNat_ofNat, Nat.mod_eq_of_lt small]
  split
  · next after =>
      have regrouped : 2 ^ width - offset + (cell - address).toNat = (cell - address).toNat - offset + 2 ^ width := by
        omega
      rw [regrouped, Nat.add_mod_right, Nat.mod_eq_of_lt (by omega)]
  · next before =>
      rw [Nat.mod_eq_of_lt (by omega)]
      omega

/-- The next store of a range rewrites the cells after those that are rewritten already. -/
theorem storeBytes_rewritten (memory : BitVec width → BitVec 8) (address : BitVec width) {values : Nat → BitVec 8}
    {count : Nat} {bytes : List (BitVec 8)} (small : count < 2 ^ width) (fits : count + bytes.length ≤ 2 ^ width)
    (agree : ∀ index (inside : index < bytes.length), bytes[index] = values (count + index)) :
    storeBytes (rewritten memory address values count) (address + BitVec.ofNat width count) bytes =
      rewritten memory address values (count + bytes.length) := by
  funext cell
  have distance := toNat_sub_of_offset cell address small
  rw [storeBytes, rewritten, rewritten, distance]
  generalize (cell - address).toNat = position
  by_cases before : position < count
  · -- The cell was rewritten earlier and lies before the store.
    rw [if_neg (by omega), List.getD_eq_default _ _ (by omega), if_pos before, if_pos (by omega)]
  · rw [if_pos (by omega)]
    by_cases inside : position - count < bytes.length
    · rw [List.getD_eq_getElem _ _ inside, agree _ inside, if_pos (by omega)]
      congr 1
      omega
    · rw [List.getD_eq_default _ _ (by omega), if_neg before, if_neg (by omega)]

end VamsSoc.Library
