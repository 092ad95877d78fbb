/-
This file has tables with distinct keys, and how often their entries refer to a value.
-/

import Mathlib.Data.List.MinMax
import Mathlib.Data.List.Nodup
import Mathlib.Tactic

namespace VamsSoc.Library

/-- No key has two entries. -/
@[ext]
structure Table (Key Value : Type) where
  entries : List (Key × Value)
  distinct : (entries.map Prod.fst).Nodup

namespace Table
variable {Key Value : Type}

def empty : Table Key Value := ⟨[], List.nodup_nil⟩

def size (table : Table Key Value) : Nat := table.entries.length

/-- The entry of the lowest rank that is not below the bound. -/
def next (table : Table Key Value) (rank : Key → Nat) (bound : Nat) : Option (Key × Value) :=
  (table.entries.filter fun entry => bound ≤ rank entry.1).argmin fun entry => rank entry.1

section Keys
variable [DecidableEq Key]

def lookup (table : Table Key Value) (key : Key) : Option Value :=
  (table.entries.find? fun entry => entry.1 = key).map Prod.snd

/-- A key that has an entry keeps it. -/
def insert (table : Table Key Value) (key : Key) (value : Value) : Table Key Value :=
  if present : key ∈ table.entries.map Prod.fst then table
  else ⟨(key, value) :: table.entries, List.nodup_cons.mpr ⟨present, table.distinct⟩⟩

def erase (table : Table Key Value) (key : Key) : Table Key Value :=
  ⟨table.entries.filter fun entry => entry.1 ≠ key,
    (List.filter_sublist.map Prod.fst).nodup table.distinct⟩

variable {table : Table Key Value} {key other : Key} {value : Value}

theorem lookup_eq_some : table.lookup key = some value ↔ (key, value) ∈ table.entries := by
  unfold lookup
  constructor
  · intro found
    obtain ⟨entry, listed, rfl⟩ := Option.map_eq_some_iff.mp found
    have named : entry.1 = key := by simpa using List.find?_some listed
    have member := List.mem_of_find?_eq_some listed
    rw [← named]
    exact member
  · intro member
    have present : (table.entries.find? fun entry => entry.1 = key).isSome :=
      List.find?_isSome.mpr ⟨_, member, by simp⟩
    obtain ⟨entry, listed⟩ := Option.isSome_iff_exists.mp present
    have named : entry.1 = key := by simpa using List.find?_some listed
    have same : entry = (key, value) :=
      List.inj_on_of_nodup_map table.distinct (List.mem_of_find?_eq_some listed) member named
    rw [listed, same]
    rfl

theorem lookup_eq_none : table.lookup key = none ↔ key ∉ table.entries.map Prod.fst := by
  constructor
  · intro absent member
    obtain ⟨⟨name, value⟩, listed, rfl⟩ := List.mem_map.mp member
    rw [lookup_eq_some.mpr listed] at absent
    cases absent
  · intro absent
    cases found : table.lookup key with
    | none => rfl
    | some value => exact absurd (List.mem_map_of_mem (lookup_eq_some.mp found)) absent

@[simp] theorem lookup_empty : (empty : Table Key Value).lookup key = none := rfl

theorem insert_absent (absent : table.lookup key = none) :
    (table.insert key value).entries = (key, value) :: table.entries := by
  rw [insert, dif_neg (lookup_eq_none.mp absent)]

theorem size_insert (absent : table.lookup key = none) : (table.insert key value).size = table.size + 1 := by
  rw [size, insert_absent absent, List.length_cons, size]

theorem lookup_insert (absent : table.lookup key = none) : (table.insert key value).lookup key = some value := by
  rw [lookup_eq_some, insert_absent absent]
  exact .head _

/-- An entry of the new table is the new one or an old one. -/
theorem lookup_of_lookup_insert (absent : table.lookup key = none) {found : Value}
    (stands : (table.insert key value).lookup other = some found) :
    (other = key ∧ found = value) ∨ table.lookup other = some found := by
  rw [lookup_eq_some, insert_absent absent, List.mem_cons] at stands
  exact stands.imp Prod.mk.inj lookup_eq_some.mpr

theorem lookup_insert_of_some (absent : table.lookup key = none) {found : Value}
    (stands : table.lookup other = some found) : (table.insert key value).lookup other = some found := by
  rw [lookup_eq_some, insert_absent absent]
  exact .tail _ (lookup_eq_some.mp stands)

/-- The entries of a table are one entry and those that stay when it is erased. -/
theorem perm_erase (present : table.lookup key = some value) :
    List.Perm table.entries ((key, value) :: (table.erase key).entries) := by
  have member := lookup_eq_some.mp present
  have others : ∀ entry ∈ table.entries, entry.1 ≠ key ↔ entry ≠ (key, value) := by
    intro entry listed
    refine not_congr ⟨fun named => ?_, fun same => congrArg Prod.fst same⟩
    exact List.inj_on_of_nodup_map table.distinct listed member named
  classical
  have kept : (table.erase key).entries = table.entries.erase (key, value) := by
    rw [(List.Nodup.of_map _ table.distinct).erase_eq_filter]
    apply List.filter_congr
    intro entry listed
    rw [Bool.eq_iff_iff, decide_eq_true_iff, bne_iff_ne]
    exact others entry listed
  rw [kept]
  exact List.perm_cons_erase member

theorem size_erase (present : table.lookup key = some value) : (table.erase key).size + 1 = table.size :=
  (perm_erase present).length_eq.symm

/-- A new entry that is erased again leaves the table as it was. -/
theorem erase_insert (absent : table.lookup key = none) : (table.insert key value).erase key = table := by
  have kept : table.entries.filter (fun entry => entry.1 ≠ key) = table.entries := by
    apply List.filter_eq_self.mpr
    intro entry listed
    rw [decide_eq_true_iff]
    rintro rfl
    exact lookup_eq_none.mp absent (List.mem_map_of_mem listed)
  ext1
  change (table.insert key value).entries.filter (fun entry => entry.1 ≠ key) = table.entries
  rw [insert_absent absent, List.filter_cons_of_neg (by simp), kept]

theorem lookup_of_lookup_erase (found : (table.erase key).lookup other = some value) : table.lookup other = some value :=
  lookup_eq_some.mpr (List.mem_of_mem_filter (lookup_eq_some.mp found))

end Keys

section Counting
variable [DecidableEq Value] {table : Table Key Value}

/-- The number of entries with this value. -/
def count (table : Table Key Value) (value : Value) : Nat := (table.entries.map Prod.snd).count value

@[simp] theorem count_empty (value : Value) : (empty : Table Key Value).count value = 0 := rfl

variable [DecidableEq Key] {key : Key} {value : Value}

theorem count_insert (absent : table.lookup key = none) (counted : Value) :
    (table.insert key value).count counted = table.count counted + if counted = value then 1 else 0 := by
  rw [count, insert_absent absent, List.map_cons, List.count_cons, count]
  simp only [beq_iff_eq, eq_comm (a := value)]

theorem count_erase (present : table.lookup key = some value) (counted : Value) :
    table.count counted = (table.erase key).count counted + if counted = value then 1 else 0 := by
  have same := ((perm_erase present).map Prod.snd).count_eq counted
  rw [List.map_cons, List.count_cons] at same
  rw [count, count, same]
  simp only [beq_iff_eq, eq_comm (a := value)]

theorem count_pos : 0 < table.count value ↔ ∃ key, table.lookup key = some value := by
  rw [count, List.count_pos_iff]
  simp [lookup_eq_some]

end Counting
end Table
end VamsSoc.Library
