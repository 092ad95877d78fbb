/-
This file has the references that tables, requests, and open files own, and how each change moves them.
-/

import VamsSoc.Construction.Driver.Machine
import Mathlib.Algebra.BigOperators.Group.Finset.Basic

namespace VamsSoc.Driver
open Library Abi

variable {δ : Type}

/-- The objects that a request refers to. -/
def Request.links (request : Request) : List Object :=
  request.source.toList.map .mapping ++ request.destination.toList.map .mapping ++ request.owner.toList.map .file

/-- The entries for a request in the table of its file. -/
def Shared.fileEntries (s : Shared δ) (request : Nat) : Nat :=
  match (s.requests request).owner with
  | some file => (s.tables (.requests file)).count request
  | none => 0

/-- The entries for an object in the tables; an open descriptor counts as one for its file. -/
def Shared.entries (s : Shared δ) : Object → Nat
  | .request request => (s.tables .device).count request + s.fileEntries request
  | .mapping mapping => (s.tables (.mappings (s.mappings mapping).file)).count mapping
  | .file file => if (s.files file).opened then 1 else 0

/-- The references that requests have to an object. -/
def Shared.linksTo (s : Shared δ) (object : Object) : Nat :=
  ∑ request ∈ Finset.range s.requestCount, (s.requests request).links.count object

def Shared.owners (s : Shared δ) (object : Object) : Nat := s.entries object + s.linksTo object

/-- An entry of a file is for a request or a mapping of that file. -/
def Shared.Belongs (s : Shared δ) : Index → Nat → Prop
  | .device, _ => True
  | .requests file, request => (s.requests request).owner = some file
  | .mappings file, mapping => (s.mappings mapping).file = file

section Links
variable {s : Shared δ} {request : Nat} {record : Request}

theorem setRequest_apply (other : Nat) :
    (s.setRequest request record).requests other = if other = request then record else s.requests other :=
  Function.update_apply ..

theorem setRequest_self : (s.setRequest request record).requests request = record := by
  rw [setRequest_apply, if_pos rfl]

/-- A new record of a request replaces its links. -/
theorem linksTo_setRequest (record : Request) (inside : request < s.requestCount) (object : Object) :
    (s.setRequest request record).linksTo object + (s.requests request).links.count object =
      s.linksTo object + record.links.count object := by
  have member : request ∈ Finset.range s.requestCount := Finset.mem_range.mpr inside
  have before := Finset.add_sum_erase _ (fun other => (s.requests other).links.count object) member
  have after := Finset.add_sum_erase _ (fun other => ((s.setRequest request record).requests other).links.count object) member
  have others : ∑ other ∈ (Finset.range s.requestCount).erase request,
      ((s.setRequest request record).requests other).links.count object =
      ∑ other ∈ (Finset.range s.requestCount).erase request, (s.requests other).links.count object := by
    apply Finset.sum_congr rfl
    intro other outside
    rw [setRequest_apply, if_neg (Finset.ne_of_mem_erase outside)]
  simp only [setRequest_self] at after
  change ∑ other ∈ Finset.range s.requestCount, _ + _ = ∑ other ∈ Finset.range s.requestCount, _ + _
  omega

theorem linksTo_pos (request : Nat) (inside : request < s.requestCount) {object : Object}
    (member : object ∈ (s.requests request).links) : 0 < s.linksTo object := by
  have part := Finset.single_le_sum (f := fun other => (s.requests other).links.count object)
    (fun _ _ => Nat.zero_le _) (Finset.mem_range.mpr inside)
  have present := List.count_pos_iff.mpr member
  change 0 < ∑ other ∈ Finset.range s.requestCount, _
  omega

theorem mem_links_owner {file : Nat} (owned : record.owner = some file) : .file file ∈ record.links := by
  simp [Request.links, owned]

theorem mem_links_mapping {mapping : Nat} :
    .mapping mapping ∈ record.links ↔ record.source = some mapping ∨ record.destination = some mapping := by
  simp [Request.links]

end Links

section Owners
variable {s : Shared δ} {index : Index} {key : U32} {value : Nat}

theorem setTable_apply (table : Table U32 Nat) (other : Index) :
    (s.setTable index table).tables other = if other = index then table else s.tables other :=
  Function.update_apply ..

/-- A table that changes its entries for one value changes what is owned by as much. -/
theorem entries_setTable {table : Table U32 Nat} {more fewer : Nat} (belongs : s.Belongs index value)
    (changed : ∀ counted, table.count counted + (if counted = value then fewer else 0) =
      (s.tables index).count counted + if counted = value then more else 0) (object : Object) :
    (s.setTable index table).entries object + (if object = index.object value then fewer else 0) =
      s.entries object + if object = index.object value then more else 0 := by
  cases object with
  | request number =>
      have count := changed number
      cases index with
      | device =>
          simp only [Shared.entries, Shared.fileEntries, setTable_apply, Index.object, Object.request.injEq, reduceIte,
            reduceCtorEq]
          change _ + s.fileEntries number + _ = _ + s.fileEntries number + _
          omega
      | requests file =>
          have same : (s.setTable (.requests file) table).requests = s.requests := rfl
          simp only [Shared.entries, Shared.fileEntries, setTable_apply, Index.object, Object.request.injEq, reduceIte,
            reduceCtorEq, same, Index.requests.injEq]
          cases owned : (s.requests number).owner with
          | none =>
              have differs : number ≠ value := by
                rintro rfl
                cases owned.symm.trans belongs
              simp [differs]
          | some owner =>
              dsimp only
              split
              · next here =>
                  subst here
                  omega
              · next elsewhere =>
                  have differs : number ≠ value := by
                    rintro rfl
                    exact elsewhere (Option.some.inj (owned.symm.trans belongs))
                  simp [differs]
      | mappings file => simp [Shared.entries, Shared.fileEntries, Index.object, Shared.setTable]
  | mapping number =>
      have count := changed number
      cases index with
      | mappings file =>
          have same : (s.setTable (.mappings file) table).mappings = s.mappings := rfl
          simp only [Shared.entries, setTable_apply, Index.object, Object.mapping.injEq, same, Index.mappings.injEq]
          split
          · next here =>
              rw [here]
              omega
          · next elsewhere =>
              have differs : number ≠ value := by
                rintro rfl
                exact elsewhere belongs
              simp [differs]
      | device => simp [Shared.entries, Index.object, Shared.setTable]
      | requests file => simp [Shared.entries, Index.object, Shared.setTable]
  | file number => cases index <;> rfl

/-- What owns references: the tables, the links of requests, the files of mappings, and the open descriptors. -/
structure SameOwners (s later : Shared δ) : Prop where
  tables : later.tables = s.tables
  links : ∀ request, (later.requests request).links = (s.requests request).links
  owner : ∀ request, (later.requests request).owner = (s.requests request).owner
  mappings : later.mappings = s.mappings
  opened : ∀ file, (later.files file).opened = (s.files file).opened
  requestCount : later.requestCount = s.requestCount

theorem SameOwners.fileEntries {later : Shared δ} (same : SameOwners s later) (request : Nat) :
    later.fileEntries request = s.fileEntries request := by
  rw [Shared.fileEntries, Shared.fileEntries, same.owner, same.tables]

theorem SameOwners.linksTo {later : Shared δ} (same : SameOwners s later) (object : Object) :
    later.linksTo object = s.linksTo object := by
  rw [Shared.linksTo, Shared.linksTo, same.requestCount]
  apply Finset.sum_congr rfl
  intro request _
  rw [same.links]

theorem SameOwners.entries {later : Shared δ} (same : SameOwners s later) (object : Object) :
    later.entries object = s.entries object := by
  cases object with
  | request number => rw [Shared.entries, Shared.entries, same.tables, same.fileEntries]
  | mapping number => rw [Shared.entries, Shared.entries, same.tables, same.mappings]
  | file number => rw [Shared.entries, Shared.entries, same.opened]

theorem SameOwners.owners {later : Shared δ} (same : SameOwners s later) (object : Object) :
    later.owners object = s.owners object := by
  rw [Shared.owners, Shared.owners, same.entries, same.linksTo]

/-- A record that keeps its links owns what it owned. -/
theorem sameOwners_setRequest {request : Nat} {record : Request} (links : record.links = (s.requests request).links)
    (owner : record.owner = (s.requests request).owner) : SameOwners s (s.setRequest request record) where
  tables := rfl
  links other := by
    rw [setRequest_apply]
    split
    · next same => rw [same, links]
    · rfl
  owner other := by
    rw [setRequest_apply]
    split
    · next same => rw [same, owner]
    · rfl
  mappings := rfl
  opened _ := rfl
  requestCount := rfl

theorem sameOwners_insertEntry :
    SameOwners (s.setTable index ((s.tables index).insert key value)) (s.insertEntry index key value) := by
  unfold Shared.insertEntry
  split
  · exact sameOwners_setRequest rfl rfl
  · exact ⟨rfl, fun _ => rfl, fun _ => rfl, rfl, fun _ => rfl, rfl⟩

theorem sameOwners_eraseEntry :
    SameOwners (s.setTable index ((s.tables index).erase key)) (s.eraseEntry index key value) := by
  unfold Shared.eraseEntry
  split <;> exact ⟨rfl, fun _ => rfl, fun _ => rfl, rfl, fun _ => rfl, rfl⟩

theorem owners_insertEntry (absent : (s.tables index).lookup key = none) (belongs : s.Belongs index value)
    (object : Object) :
    (s.insertEntry index key value).owners object =
      s.owners object + if object = index.object value then 1 else 0 := by
  have changed : ∀ counted, ((s.tables index).insert key value).count counted + (if counted = value then 0 else 0) =
      (s.tables index).count counted + if counted = value then 1 else 0 := by
    intro counted
    rw [Table.count_insert absent, ite_self]
    rfl
  have entries := entries_setTable belongs changed object
  rw [ite_self] at entries
  have links : (s.setTable index ((s.tables index).insert key value)).linksTo object = s.linksTo object := rfl
  rw [sameOwners_insertEntry.owners, Shared.owners, Shared.owners, links]
  omega

theorem owners_eraseEntry (present : (s.tables index).lookup key = some value) (belongs : s.Belongs index value)
    (object : Object) :
    s.owners object = (s.eraseEntry index key value).owners object +
      if object = index.object value then 1 else 0 := by
  have changed : ∀ counted, ((s.tables index).erase key).count counted + (if counted = value then 1 else 0) =
      (s.tables index).count counted + if counted = value then 0 else 0 := by
    intro counted
    rw [Table.count_erase present counted, ite_self]
    rfl
  have entries := entries_setTable belongs changed object
  rw [ite_self] at entries
  have links : (s.setTable index ((s.tables index).erase key)).linksTo object = s.linksTo object := rfl
  rw [sameOwners_eraseEntry.owners, Shared.owners, Shared.owners, links]
  omega

end Owners
end VamsSoc.Driver
