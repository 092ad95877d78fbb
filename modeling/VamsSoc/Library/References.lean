/-
This file has the reference counts of objects: who owns each reference, and when an object is freed.
-/

import Mathlib.Data.Multiset.AddSub
import Mathlib.Data.Multiset.Count
import Mathlib.Tactic

namespace VamsSoc.Library

/-- Each object has a reference count from its allocation on, and a count of how often it was freed. -/
structure RefBook (Object : Type) where
  refs : Object → Nat
  freed : Object → Nat
  allocated : Object → Bool

namespace RefBook
variable {Object : Type} [DecidableEq Object]

def empty : RefBook Object := ⟨fun _ => 0, fun _ => 0, fun _ => false⟩

/-- A new object has one reference. -/
@[simps] def allocate (book : RefBook Object) (object : Object) : RefBook Object :=
  { book with
    refs := Function.update book.refs object 1
    allocated := Function.update book.allocated object true }

@[simps] def get (book : RefBook Object) (object : Object) : RefBook Object :=
  { book with refs := Function.update book.refs object (book.refs object + 1) }

@[simps] def put (book : RefBook Object) (object : Object) : RefBook Object :=
  { book with refs := Function.update book.refs object (book.refs object - 1) }

@[simps] def free (book : RefBook Object) (object : Object) : RefBook Object :=
  { book with freed := Function.update book.freed object (book.freed object + 1) }

theorem put_get (book : RefBook Object) (object : Object) : (book.get object).put object = book := by
  simp [get, put]

/-- Numbered objects are allocated in the order of their numbers. -/
theorem allocated_next {book : RefBook Object} {make : Nat → Object} {count : Nat} (injective : Function.Injective make)
    (numbers : ∀ number, book.allocated (make number) = decide (number < count)) (number : Nat) :
    (book.allocate (make count)).allocated (make number) = decide (number < count + 1) := by
  rw [allocate_allocated, Function.update_apply, numbers]
  by_cases same : number = count
  · simp [same]
  · rw [if_neg (injective.ne same), decide_eq_decide]
    omega

end RefBook

section Ledger
variable {Object : Type} [DecidableEq Object]

/-- Every reference has an owner in memory or a holder, and an object without references is freed once. -/
structure Balanced (book : RefBook Object) (owners : Object → Nat) (held dying : Multiset Object) : Prop where
  counted : ∀ object, book.refs object = owners object + held.count object
  once : ∀ object, dying.count object + book.freed object =
    if book.allocated object ∧ book.refs object = 0 then 1 else 0
  blank : ∀ object, book.allocated object = false → book.refs object = 0

namespace Balanced
variable {book : RefBook Object} {owners : Object → Nat} {held dying : Multiset Object} {object : Object}

theorem empty : Balanced (RefBook.empty : RefBook Object) (fun _ => 0) 0 0 :=
  ⟨fun _ => rfl, fun _ => rfl, fun _ _ => rfl⟩

theorem live_of_held (balanced : Balanced book owners held dying) (member : object ∈ held) :
    0 < book.refs object := by
  have present := Multiset.count_pos.mpr member
  have counted := balanced.counted object
  omega

theorem live_of_owned (balanced : Balanced book owners held dying) (owned : 0 < owners object) :
    0 < book.refs object := by
  have counted := balanced.counted object
  omega

/-- An object with a reference is not freed. -/
theorem not_freed (balanced : Balanced book owners held dying) (live : 0 < book.refs object) :
    book.freed object = 0 := by
  have once := balanced.once object
  rw [if_neg (by omega)] at once
  omega

/-- An object is not freed before the holder of its end frees it. -/
theorem not_freed_of_dying (balanced : Balanced book owners held dying) (member : object ∈ dying) :
    book.freed object = 0 := by
  have present := Multiset.count_pos.mpr member
  have once := balanced.once object
  split at once <;> omega

theorem freed_le (balanced : Balanced book owners held dying) :
    book.freed object ≤ if book.allocated object ∧ book.refs object = 0 then 1 else 0 := by
  have once := balanced.once object
  omega

theorem allocated_of_live (balanced : Balanced book owners held dying) (live : 0 < book.refs object) :
    book.allocated object = true := by
  by_contra absent
  have none := balanced.blank object (by simpa using absent)
  omega

theorem owners_eq_zero (balanced : Balanced book owners held dying) (absent : book.allocated object = false) :
    owners object = 0 := by
  have counted := balanced.counted object
  have none := balanced.blank object absent
  omega

/-- A reference moves from its holder to an owner in memory. -/
theorem give (balanced : Balanced book owners (object ::ₘ held) dying) {later : Object → Nat}
    (moved : ∀ other, later other = owners other + if other = object then 1 else 0) :
    Balanced book later held dying where
  counted other := by
    have counted := balanced.counted other
    rw [Multiset.count_cons] at counted
    rw [moved other]
    omega
  once := balanced.once
  blank := balanced.blank

/-- References move from their holder to owners in memory. -/
theorem giveAll {objects : List Object} (balanced : Balanced book owners (objects + held) dying) {later : Object → Nat}
    (moved : ∀ other, later other = owners other + objects.count other) : Balanced book later held dying where
  counted other := by
    have counted := balanced.counted other
    rw [Multiset.count_add, Multiset.coe_count] at counted
    rw [moved other]
    omega
  once := balanced.once
  blank := balanced.blank

/-- A reference moves from its owner in memory to a holder. -/
theorem take (balanced : Balanced book owners held dying) {later : Object → Nat}
    (moved : ∀ other, owners other = later other + if other = object then 1 else 0) :
    Balanced book later (object ::ₘ held) dying where
  counted other := by
    have counted := balanced.counted other
    have before := moved other
    rw [Multiset.count_cons]
    omega
  once := balanced.once
  blank := balanced.blank

/-- Who owns a reference does not depend on how the owners are counted. -/
theorem congr (balanced : Balanced book owners held dying) {later : Object → Nat}
    (same : ∀ other, later other = owners other) : Balanced book later held dying where
  counted other := by rw [same other, balanced.counted other]
  once := balanced.once
  blank := balanced.blank

theorem get (balanced : Balanced book owners held dying) (live : 0 < book.refs object) :
    Balanced (book.get object) owners (object ::ₘ held) dying where
  counted other := by
    have counted := balanced.counted other
    rw [RefBook.get_refs, Multiset.count_cons, Function.update_apply]
    split
    · next same =>
        subst same
        omega
    · omega
  once other := by
    have once := balanced.once other
    rw [RefBook.get_freed, RefBook.get_allocated, RefBook.get_refs, Function.update_apply]
    split_ifs at once ⊢ with same <;> simp_all
  blank other absent := by
    have none := balanced.blank other absent
    have differs : other ≠ object := by
      rintro rfl
      omega
    rw [RefBook.get_refs, Function.update_of_ne differs]
    exact none

/-- The holder of the last reference gets the end of the object. -/
theorem put (balanced : Balanced book owners (object ::ₘ held) dying) :
    Balanced (book.put object) owners held (if book.refs object = 1 then object ::ₘ dying else dying) where
  counted other := by
    have counted := balanced.counted other
    rw [Multiset.count_cons] at counted
    rw [RefBook.put_refs, Function.update_apply]
    split_ifs at counted ⊢ with same
    · subst same
      omega
    · omega
  once other := by
    have live := balanced.live_of_held (Multiset.mem_cons_self object held)
    have allocated := balanced.allocated_of_live live
    have once := balanced.once other
    rw [RefBook.put_freed, RefBook.put_allocated, RefBook.put_refs]
    by_cases same : other = object
    · subst same
      rw [if_neg (by omega)] at once
      rw [Function.update_self]
      by_cases last : book.refs other = 1
      · rw [if_pos last, if_pos ⟨allocated, by omega⟩, Multiset.count_cons_self]
        omega
      · rw [if_neg last, if_neg (by omega)]
        exact once
    · rw [Function.update_of_ne same]
      split
      · rw [Multiset.count_cons_of_ne same]
        exact once
      · exact once
  blank other absent := by
    have none := balanced.blank other absent
    rw [RefBook.put_refs, Function.update_apply]
    split
    · next same =>
        subst same
        omega
    · exact none

theorem allocate (balanced : Balanced book owners held dying) (fresh : book.allocated object = false) :
    Balanced (book.allocate object) owners (object ::ₘ held) dying where
  counted other := by
    have counted := balanced.counted other
    rw [RefBook.allocate_refs, Multiset.count_cons, Function.update_apply]
    split
    · next same =>
        subst same
        have none := balanced.blank other fresh
        omega
    · omega
  once other := by
    have once := balanced.once other
    rw [RefBook.allocate_freed, RefBook.allocate_allocated, RefBook.allocate_refs]
    by_cases same : other = object
    · subst same
      rw [fresh] at once
      rw [Function.update_self, Function.update_self]
      simpa using once
    · rw [Function.update_of_ne same, Function.update_of_ne same]
      exact once
  blank other absent := by
    rw [RefBook.allocate_allocated, Function.update_apply] at absent
    have differs : other ≠ object := by
      rintro rfl
      simp at absent
    rw [if_neg differs] at absent
    rw [RefBook.allocate_refs, Function.update_of_ne differs]
    exact balanced.blank other absent

theorem free (balanced : Balanced book owners held (object ::ₘ dying)) :
    Balanced (book.free object) owners held dying where
  counted := balanced.counted
  once other := by
    have once := balanced.once other
    rw [Multiset.count_cons] at once
    rw [RefBook.free_freed, RefBook.free_allocated, RefBook.free_refs, Function.update_apply, ← once]
    split
    · next same =>
        subst same
        omega
    · omega
  blank := balanced.blank

end Balanced
end Ledger
end VamsSoc.Library
