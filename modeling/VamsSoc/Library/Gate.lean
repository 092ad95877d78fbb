/-
This file has a gate with two marks. It closes when the level reaches the upper mark and opens when the level has fallen
to the lower one.
-/

import VamsSoc.Library.EventMachine

namespace VamsSoc.Library

structure Gate where
  level : Nat := 0
  closed : Bool := false
  closings : Nat := 0
  highest : Nat := 0
  deriving DecidableEq, Repr

namespace Gate

inductive Move where
  | pass
  | rise
  | fall (count : Nat)
  deriving DecidableEq, Repr

/-- Between the marks, the gate stays as it is. -/
def set (low high : Nat) (gate : Gate) (level : Nat) : Gate where
  level := level
  closed := if high ≤ level then true else if level ≤ low then false else gate.closed
  closings := if high ≤ level ∧ gate.closed = false then gate.closings + 1 else gate.closings
  highest := max gate.highest level

/-- Nothing passes a closed gate, and the level falls by no more than it is. -/
def move (low high : Nat) : EventMachine Gate Move
  | gate, .pass => if gate.closed then none else some gate
  | gate, .rise => some (gate.set low high (gate.level + 1))
  | gate, .fall count => if count ≤ gate.level then some (gate.set low high (gate.level - count)) else none

/-- The level has not passed the upper mark, and the gate is as the level says. -/
structure Steady (low high : Nat) (gate : Gate) : Prop where
  bounded : gate.level ≤ high
  opened : gate.closed = false → gate.level < high
  shut : gate.closed = true → low < gate.level
  highest : gate.level ≤ gate.highest

variable {low high : Nat} {gate : Gate}

theorem Steady.set (ordered : low < high) {level : Nat} (bounded : level ≤ high) :
    Steady low high (gate.set low high level) := by
  constructor
  · exact bounded
  · intro opened
    by_contra reached
    have full : high ≤ level := by
      simp only [Gate.set] at reached
      omega
    simp [Gate.set, full] at opened
  · intro shut
    by_contra fallen
    have few : level ≤ low := by
      simp only [Gate.set] at fallen
      omega
    have below : ¬high ≤ level := by omega
    simp [Gate.set, few, below] at shut
  · exact Nat.le_max_right _ _

/-- An open gate takes one more. -/
theorem Steady.rise (steady : Steady low high gate) (ordered : low < high) (opened : gate.closed = false) :
    Steady low high (gate.set low high (gate.level + 1)) :=
  Steady.set ordered (steady.opened opened)

theorem Steady.fall (steady : Steady low high gate) (ordered : low < high) (count : Nat) :
    Steady low high (gate.set low high (gate.level - count)) :=
  Steady.set ordered (Nat.le_trans (Nat.sub_le _ _) steady.bounded)

/-- An open gate stays open while the level falls. -/
theorem Steady.open_of_fall (steady : Steady low high gate) (opened : gate.closed = false) (count : Nat) :
    (gate.set low high (gate.level - count)).closed = false := by
  have below := steady.opened opened
  have under : ¬high ≤ gate.level - count := by omega
  simp [Gate.set, under, opened]

/-- A steady gate does not change when its level is set again. -/
theorem Steady.set_level (steady : Steady low high gate) : gate.set low high gate.level = gate := by
  obtain ⟨level, closed, closings, highest⟩ := gate
  obtain ⟨-, opened, shut, top⟩ := steady
  have peak : max highest level = highest := Nat.max_eq_left top
  cases closed with
  | false =>
      have below : ¬high ≤ level := Nat.not_le.mpr (opened rfl)
      simp [Gate.set, below, peak]
  | true =>
      have above : ¬level ≤ low := Nat.not_le.mpr (shut rfl)
      simp [Gate.set, above, peak]

end Gate
end VamsSoc.Library
