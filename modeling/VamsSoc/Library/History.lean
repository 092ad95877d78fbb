/-
This file has a ring that remembers the last entries of a history.
-/

import Mathlib.Data.Fin.Basic
import Mathlib.Tactic

namespace VamsSoc.Library

variable {α : Type} {size : Nat} [NeZero size]

/-- The entries of a ring whose next free cell is the head, the oldest one first. -/
def oldestFirst (cells : Vector α size) (head count : Nat) : List α :=
  (List.range count).map fun index => cells.get (Fin.ofNat size (head + size - count + index))

/-- Each entry that is not older than the ring is large stands in the cell of its number. -/
def Remembers (cells : Vector α size) (history : List α) : Prop :=
  ∀ index, history.length ≤ index + size → ∀ entry, history[index]? = some entry →
    cells.get (Fin.ofNat size index) = entry

omit [NeZero size] in
/-- Entries that are less than a ring apart have cells of their own. -/
theorem mod_ne_of_lt {first second : Nat} (ordered : first < second) (near : second < first + size) :
    first % size ≠ second % size := by
  intro same
  have apart : (second - first) % size = 0 := by
    rw [← Nat.sub_mod_eq_zero_of_mod_eq same.symm]
  rw [Nat.mod_eq_of_lt (by omega)] at apart
  omega

theorem Remembers.nil (cells : Vector α size) : Remembers cells [] := by
  intro index _ entry listed
  simp at listed

/-- A new entry overwrites the oldest one. -/
theorem Remembers.push {cells : Vector α size} {history : List α} (remembers : Remembers cells history) (entry : α)
    {head : Nat} (placed : head = history.length % size) :
    Remembers (cells.setIfInBounds head entry) (history ++ [entry]) := by
  intro index near found listed
  rw [List.length_append, List.length_singleton] at near
  have cell : (cells.setIfInBounds head entry).get (Fin.ofNat size index) =
      if head = index % size then entry else cells.get (Fin.ofNat size index) :=
    Vector.getElem_setIfInBounds (Nat.mod_lt _ (NeZero.pos size))
  rw [cell]
  rcases Nat.lt_trichotomy index history.length with before | rfl | after
  · rw [List.getElem?_append_left before] at listed
    rw [if_neg (by rw [placed]; exact (mod_ne_of_lt before (by omega)).symm)]
    exact remembers index (by omega) found listed
  · rw [if_pos placed]
    simpa using listed
  · rw [List.getElem?_eq_none (by simp; omega)] at listed
    cases listed

/-- The ring reads back the end of the history. -/
theorem Remembers.oldestFirst_eq {cells : Vector α size} {history : List α} (remembers : Remembers cells history)
    {head count : Nat} (placed : head = history.length % size) (counted : count = min history.length size) :
    oldestFirst cells head count = history.drop (history.length - count) := by
  apply List.ext_getElem
  · simp only [oldestFirst, List.length_map, List.length_range, List.length_drop]
    omega
  · intro index left right
    have bound : index < count := by simpa [oldestFirst] using left
    have inside : history.length - count + index < history.length := by omega
    have cell : Fin.ofNat size (head + size - count + index) = Fin.ofNat size (history.length - count + index) := by
      apply Fin.ext
      have whole := Nat.div_add_mod history.length size
      change (head + size - count + index) % size = (history.length - count + index) % size
      rw [← placed] at whole
      by_cases short : history.length < size
      · -- The ring is not full yet, so the first entry stands in the first cell.
        have zero : head = history.length := by rw [placed, Nat.mod_eq_of_lt short]
        have regrouped : head + size - count + index = history.length - count + index + size := by omega
        rw [regrouped, Nat.add_mod_right]
      · have full : count = size := by omega
        have first : head + size - count + index + size * (history.length / size) = history.length - count + index + size := by
          omega
        rw [← Nat.add_mul_mod_self_left (head + size - count + index) size (history.length / size), first,
          Nat.add_mod_right]
    simp only [oldestFirst, List.getElem_map, List.getElem_range, List.getElem_drop, cell]
    exact remembers _ (by omega) _ (List.getElem?_eq_getElem inside)

end VamsSoc.Library
