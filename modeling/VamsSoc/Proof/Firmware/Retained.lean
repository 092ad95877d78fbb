/-
This file has the history of the retained record, the damage that its checksum finds, and the index that it does not
check.
-/

import VamsSoc.Construction.Firmware.Retained
import VamsSoc.Library.Burst
import VamsSoc.Library.History

namespace VamsSoc.Firmware
open Library

@[simp] theorem RetainedEvent.length_toBytes (event : RetainedEvent) : event.toBytes.length = 16 := by
  simp [toBytes]

theorem RetainedEvent.ofBytes_append (event : RetainedEvent) (rest : List U8) :
    ofBytes (event.toBytes ++ rest) = event := by
  simp [ofBytes, toBytes, leWord_leBytes_append, leWord_skip]

theorem RetainedEvent.ofBytes_toBytes (event : RetainedEvent) : ofBytes event.toBytes = event := by
  simpa using event.ofBytes_append []

namespace RetainedRecord

@[simp] theorem length_front (record : RetainedRecord) : record.front.length = 8 := by simp [front]

@[simp] theorem length_counters (record : RetainedRecord) : record.counters.length = 44 := by simp [counters]

@[simp] theorem length_back (record : RetainedRecord) : record.back.length = 108 := by
  simp [back, List.length_flatMap]

@[simp] theorem length_toBytes (record : RetainedRecord) : record.toBytes.length = retainedSize := by
  simp [toBytes, retainedSize]

theorem event_toBytes (record : RetainedRecord) (index : Fin 4) :
    RetainedEvent.ofBytes (record.toBytes.drop (56 + 16 * index.val)) = record.events.get index := by
  have entries : record.toBytes.drop 56 = (List.finRange 4).flatMap fun index => (record.events.get index).toBytes := by
    rw [toBytes, back, ← List.append_assoc, ← List.append_assoc]
    exact List.drop_left' (by simp)
  rw [← List.drop_drop, entries, show List.finRange 4 = [0, 1, 2, 3] from rfl]
  fin_cases index <;> simp [List.drop_append, List.drop_eq_nil_of_le, RetainedEvent.ofBytes_append,
    RetainedEvent.ofBytes_toBytes]

/-- A record is read back from its bytes. -/
theorem ofBytes_toBytes (record : RetainedRecord) : ofBytes record.toBytes = record := by
  have events : Vector.ofFn (fun index : Fin 4 => RetainedEvent.ofBytes (record.toBytes.drop (56 + 16 * index.val))) =
      record.events := by
    ext index inside
    rw [Vector.getElem_ofFn]
    rw [record.event_toBytes ⟨index, inside⟩]
    rfl
  rw [ofBytes, events]
  obtain ⟨⟩ := record
  simp [toBytes, front, back, counters, leWord_leBytes_append, leWord_skip]

theorem toBytes_injective : Function.Injective toBytes :=
  Function.LeftInverse.injective ofBytes_toBytes

end RetainedRecord

/-! ### The checksum -/

theorem crc32Byte_crcByte (crc : U32) (value : U8) : crc32Byte crc value = crcByte 0xedb88320 crc value := by
  rw [crc32Byte, crcByte]
  simp only [crcShift_mask]
  rw [List.foldl_const, List.length_range]

/-- The bytes that the checksum is computed from. -/
def RetainedRecord.covered (record : RetainedRecord) : List U8 :=
  record.front ++ (List.replicate 4 0 ++ record.back)

@[simp] theorem RetainedRecord.length_covered (record : RetainedRecord) : record.covered.length = retainedSize := by
  simp [covered, retainedSize]

/-- The covered bytes are those of the record, with zeros in place of the checksum. -/
theorem RetainedRecord.getElem?_covered (record : RetainedRecord) (index : Nat) :
    record.covered[index]? = if IsCrcByte index then some 0 else record.toBytes[index]? := by
  simp only [covered, toBytes, List.getElem?_append, length_front, List.length_replicate, length_leBytes, IsCrcByte,
    retainedCrcOffset]
  by_cases before : index < 8
  · simp only [before, if_true]
    rw [if_neg (by omega)]
  · by_cases field : index - 8 < 4
    · simp only [before, field, if_true, if_false]
      rw [if_pos (by omega), List.getElem?_replicate, if_pos field]
    · simp only [before, field, if_false]
      rw [if_neg (by omega)]

theorem retainedCrc32_covered (record : RetainedRecord) :
    retainedCrc32 record = ~~~crcBytes 0xedb88320 (BitVec.allOnes 32) record.covered := by
  have bytes : record.covered = (List.range retainedSize).map fun index =>
      if IsCrcByte index then 0 else record.toBytes.getD index 0 := by
    apply List.ext_getElem?
    intro index
    rw [RetainedRecord.getElem?_covered, List.getElem?_map]
    by_cases inside : index < retainedSize
    · rw [List.getElem?_range inside, List.getElem?_eq_getElem (by simpa using inside), Option.map_some,
        List.getD_eq_getElem?_getD, List.getElem?_eq_getElem (by simpa using inside), Option.getD_some, apply_ite some]
    · rw [List.getElem?_eq_none (by simpa using inside), List.getElem?_eq_none (by simpa using inside)]
      have outside : ¬IsCrcByte index := by
        have size : ¬index < 120 := inside
        simp only [IsCrcByte, retainedCrcOffset]
        omega
      rw [if_neg outside]
      rfl
  rw [bytes, crcBytes, List.foldl_map, retainedCrc32]
  simp only [crc32Byte_crcByte]

/-- The checksum is not part of what it covers. -/
theorem retainedCrc32_sealed (record : RetainedRecord) : retainedCrc32 record.sealed = retainedCrc32 record := by
  rw [retainedCrc32_covered, retainedCrc32_covered]
  rfl

/-- The header of the record is the one that the firmware writes. -/
structure RetainedRecord.Headed (record : RetainedRecord) : Prop where
  magic : record.magic = retainedMagic
  version : record.version = retainedVersion
  length : record.length = BitVec.ofNat 16 retainedSize

theorem retainedValidate_iff (record : RetainedRecord) :
    retainedValidate record = true ↔ record.Headed ∧ record.crc32 = retainedCrc32 record := by
  simp only [retainedValidate, Bool.and_eq_true, beq_iff_eq]
  constructor
  · rintro ⟨⟨⟨magic, version⟩, length⟩, checksum⟩
    exact ⟨⟨magic, version, length⟩, checksum⟩
  · rintro ⟨⟨magic, version, length⟩, checksum⟩
    exact ⟨⟨⟨magic, version⟩, length⟩, checksum⟩

theorem RetainedRecord.Headed.sealed {record : RetainedRecord} (headed : record.Headed) :
    retainedValidate record.sealed = true := by
  rw [retainedValidate_iff, retainedCrc32_sealed]
  exact ⟨⟨headed.magic, headed.version, headed.length⟩, rfl⟩

theorem retainedValidate_format (resetReason generation : U32) :
    retainedValidate (retainedFormat resetReason generation) = true := by
  apply RetainedRecord.Headed.sealed
  constructor <;> rfl

/-- A record is known from its checksum and from what the checksum covers. -/
theorem RetainedRecord.eq_of_covered {first second : RetainedRecord} (checksum : first.crc32 = second.crc32)
    (covered : first.covered = second.covered) : first = second := by
  obtain ⟨front, rest⟩ := List.append_inj covered (by simp)
  have back := List.append_cancel_left rest
  apply toBytes_injective
  rw [toBytes, toBytes, front, checksum, back]

theorem RetainedRecord.covered_eq {first second : RetainedRecord}
    (same : ∀ index, ¬IsCrcByte index → first.toBytes[index]? = second.toBytes[index]?) :
    first.covered = second.covered := by
  apply List.ext_getElem?
  intro index
  rw [getElem?_covered, getElem?_covered]
  split
  · rfl
  · next outside => exact same index outside

theorem RetainedRecord.crc32_eq {first second : RetainedRecord}
    (same : ∀ index, IsCrcByte index → first.toBytes[index]? = second.toBytes[index]?) :
    first.crc32 = second.crc32 := by
  have field : (first.toBytes.drop 8).take 4 = (second.toBytes.drop 8).take 4 := by
    apply List.ext_getElem?
    intro index
    rw [List.getElem?_take, List.getElem?_take, List.getElem?_drop, List.getElem?_drop]
    split
    · next inside => exact same _ ⟨Nat.le_add_right 8 index, Nat.add_lt_add_left inside 8⟩
    · rfl
  have read (record : RetainedRecord) : record.crc32 = BitVec.ofNat 32 (leValue ((record.toBytes.drop 8).take 4)) :=
    congrArg crc32 (ofBytes_toBytes record).symm
  rw [read, read, field]

/-- A burst of four bytes that stays on one side of the border of the checksum does not pass the check. -/
theorem retainedValidate_burst (record damaged : RetainedRecord) (valid : retainedValidate record = true)
    (different : damaged ≠ record) (start : Nat)
    (side : (∀ index, start ≤ index → index < start + 4 → ¬IsCrcByte index) ∨
      (∀ index, start ≤ index → index < start + 4 → IsCrcByte index))
    (burst : ∀ index < retainedSize, damaged.toBytes[index]? ≠ record.toBytes[index]? →
      start ≤ index ∧ index < start + 4) :
    retainedValidate damaged = false := by
  rw [← Bool.not_eq_true]
  intro accepted
  have checksum := ((retainedValidate_iff record).mp valid).2
  have claimed := ((retainedValidate_iff damaged).mp accepted).2
  rw [retainedCrc32_covered] at checksum claimed
  have near (index : Nat) (far : index < start ∨ start + 4 ≤ index) :
      damaged.toBytes[index]? = record.toBytes[index]? := by
    by_contra differs
    by_cases inside : index < retainedSize
    · have place := burst index inside differs
      omega
    · apply differs
      rw [List.getElem?_eq_none (by simpa using inside), List.getElem?_eq_none (by simpa using inside)]
  apply different
  rcases side with outside | inside
  · -- The burst is in the covered bytes, and the register of the checksum is as wide as the burst.
    have field : damaged.crc32 = record.crc32 := by
      apply RetainedRecord.crc32_eq
      intro index field
      apply near
      by_contra close
      exact outside index (by omega) (by omega) field
    apply RetainedRecord.eq_of_covered field
    have highest : (0xedb88320 : BitVec (31 + 1)).getLsbD 31 = true := by decide
    have unchanged (index : Nat) (far : index < start ∨ start + 4 ≤ index) :
        damaged.covered[index]? = record.covered[index]? := by
      rw [RetainedRecord.getElem?_covered, RetainedRecord.getElem?_covered, near index far]
    rw [claimed, checksum, BitVec.not_inj] at field
    exact eq_of_crcBytes_eq highest (by simp) (by decide) unchanged field
  · -- The burst is in the checksum, and what it covers has not changed.
    have covered : damaged.covered = record.covered := by
      apply RetainedRecord.covered_eq
      intro index outside
      apply near
      by_contra close
      exact outside (inside index (by omega) (by omega))
    apply RetainedRecord.eq_of_covered _ covered
    rw [claimed, checksum, covered]

/-- One flipped bit in the boot count of a fresh record. -/
theorem retainedValidate_flipped :
    retainedValidate (retainedFormat 0 0) = true ∧
      retainedValidate { retainedFormat 0 0 with bootCount := 3 } = false := by
  have valid := retainedValidate_format 0 0
  refine ⟨valid, retainedValidate_burst (retainedFormat 0 0) _ valid ?_ 12 (.inl ?_) ?_⟩
  · intro same
    have counts : (3 : U32) = 1 := congrArg RetainedRecord.bootCount same
    exact absurd counts (by decide)
  · intro index first _ field
    have after : index < 8 + 4 := field.2
    omega
  · decide +kernel

/-! ### The window -/

theorem getElem?_foldl_set {size : Nat} (word : Nat → U32) (window : Vector U32 size) (count : Nat) {index : Nat}
    (inside : index < size) :
    ((List.range count).foldl (fun window index => window.setIfInBounds index (word index)) window)[index]? =
      if index < count then some (word index) else window[index]? := by
  induction count with
  | zero => rfl
  | succ count ih =>
      rw [List.range_succ, List.foldl_append, List.foldl_cons, List.foldl_nil, Vector.getElem?_setIfInBounds]
      by_cases last : count = index
      · rw [if_pos last, if_pos (by omega), if_pos (by omega), last]
      · rw [if_neg last, ih]
        simp only [show index < count + 1 ↔ index < count by omega]

theorem flatMap_take_drop {α : Type} (list : List α) (size count : Nat) :
    ((List.range count).flatMap fun index => (list.drop (size * index)).take size) = list.take (size * count) := by
  induction count with
  | zero => simp
  | succ count ih => rw [List.range_succ, List.flatMap_append, ih, List.flatMap_singleton, Nat.mul_succ, List.take_add]

/-- A boot reads the record that was committed last. -/
theorem retentionRead_retentionWrite (window : Retention) (record : RetainedRecord) :
    retentionRead (retentionWrite window record) = record := by
  have words : ((List.range (retainedSize / 4)).flatMap fun index =>
      leBytes 4 ((retentionWrite window record)[index]?.getD 0)) =
      (List.range (retainedSize / 4)).flatMap fun index => (record.toBytes.drop (4 * index)).take 4 := by
    apply List.flatMap_congr
    intro index listed
    have inside : index < 30 := List.mem_range.mp listed
    rw [retentionWrite, getElem?_foldl_set (fun index => leWord 32 record.toBytes (4 * index)) window _ (by omega),
      if_pos (List.mem_range.mp listed), Option.getD_some]
    apply leBytes_leWord (by decide)
    simp [retainedSize]
    omega
  rw [retentionRead, words, flatMap_take_drop, List.take_of_length_le (by simp [retainedSize])]
  exact RetainedRecord.ofBytes_toBytes record

/-! ### The history -/

def RetainedOp.boots : RetainedOp → Nat
  | .boot .. => 1
  | _ => 0

def RetainedOp.noted : RetainedOp → List RetainedEvent
  | .noteEvent event => [event]
  | _ => []

/-- The events in the ring, the oldest one first. -/
def RetainedRecord.ring (record : RetainedRecord) : List RetainedEvent :=
  oldestFirst record.events record.eventHead.toNat record.eventCount.toNat

/-- The window holds the record of the memory, and that record passes the check. -/
structure Retained.Stored (s : Retained) : Prop where
  device : s.device = true
  window : retentionRead s.window = s.record
  valid : retainedValidate s.record = true

/-- The record tells how often the firmware has booted and what was noted last. -/
structure RetainedRecord.Tells (record : RetainedRecord) (boots : Nat) (history : List RetainedEvent) : Prop where
  boots : record.bootCount.toNat = min boots (2 ^ 32 - 1)
  head : record.eventHead.toNat = history.length % 4
  count : record.eventCount.toNat = min history.length 4
  events : Remembers record.events history

theorem Retained.Stored.headed {s : Retained} (stored : s.Stored) : s.record.Headed :=
  ((retainedValidate_iff _).mp stored.valid).1

@[simp] theorem Retained.commit_window (s : Retained) (record : RetainedRecord) :
    (s.commit record).window = retentionWrite s.window record.sealed := rfl

@[simp] theorem Retained.commit_record (s : Retained) (record : RetainedRecord) :
    (s.commit record).record = record.sealed := rfl

@[simp] theorem Retained.commit_device (s : Retained) (record : RetainedRecord) :
    (s.commit record).device = s.device := by
  simp only [commit]

@[simp] theorem Retained.commit_answers (s : Retained) (record : RetainedRecord) :
    (s.commit record).answers = s.answers := by
  simp only [commit]

theorem Retained.stored_commit {s : Retained} (device : s.device = true) {record : RetainedRecord}
    (headed : record.Headed) : (s.commit record).Stored := by
  constructor
  · rw [commit_device, device]
  · rw [commit_window, commit_record, retentionRead_retentionWrite]
  · rw [commit_record, headed.sealed]

theorem RetainedRecord.tells_format (resetReason generation : U32) :
    (retainedFormat resetReason generation).Tells 1 [] where
  boots := by rfl
  head := by rfl
  count := by rfl
  events := Remembers.nil _

/-- What an operation changes in a record that is stored. -/
def RetainedOp.update (record : RetainedRecord) : RetainedOp → RetainedRecord
  | .boot resetReason generation =>
      { record with bootCount := satInc record.bootCount, resetReason, resetGeneration := generation }
  | .noteHealth stuckTask failures => { record with lastStuckTask := stuckTask, healthFailureCount := failures }
  | .noteCommand commandId generation =>
      { record with lastCommandId := commandId, lastCommandGeneration := generation }
  | .clearCommand => { record with lastCommandId := 0, lastCommandGeneration := 0 }
  | .noteEvent event => record.pushEvent event

theorem RetainedRecord.Headed.update {record : RetainedRecord} (headed : record.Headed) (op : RetainedOp) :
    (op.update record).Headed := by
  cases op <;> exact ⟨headed.magic, headed.version, headed.length⟩

/-- An operation on a stored record stores the changed record, as long as its head is inside of the ring. -/
theorem Retained.step_stored {s : Retained} (stored : s.Stored) (inside : s.record.eventHead.toNat < 4)
    (op : RetainedOp) :
    ∃ next, retainedStep s op = some next ∧ next.Stored ∧ next.record = (op.update s.record).sealed ∧
      next.answers = List.replicate op.boots true ++ s.answers := by
  have headed := stored.headed.update op
  have changed : ∃ before : Retained, before.device = true ∧
      before.answers = List.replicate op.boots true ++ s.answers ∧
      retainedStep s op = some (before.commit (op.update s.record)) := by
    cases op with
    | boot resetReason generation =>
        refine ⟨{ s with record := {}, device := true, answers := true :: s.answers }, rfl, rfl, ?_⟩
        simp only [retainedStep, boot, stored.window, stored.valid, if_true, RetainedOp.update]
    | noteEvent event =>
        refine ⟨s, stored.device, rfl, ?_⟩
        rw [retainedStep, if_pos stored.device, noteEvent, if_pos inside, RetainedOp.update]
    | _ =>
        refine ⟨s, stored.device, rfl, ?_⟩
        rw [retainedStep, if_pos stored.device]
        simp only [RetainedOp.update, noteHealth, noteCommand, clearCommand]
  obtain ⟨before, device, answers, stepped⟩ := changed
  exact ⟨_, stepped, stored_commit device headed, before.commit_record _, (before.commit_answers _).trans answers⟩

/-- A new event goes to the head of the ring. -/
theorem RetainedRecord.Tells.pushEvent {record : RetainedRecord} {boots : Nat} {history : List RetainedEvent}
    (tells : record.Tells boots history) (event : RetainedEvent) :
    (record.pushEvent event).Tells boots (history ++ [event]) := by
  have length : (history ++ [event]).length = history.length + 1 := by simp
  have head := tells.head
  have count := tells.count
  refine ⟨tells.boots, ?_, ?_, tells.events.push event head⟩
  · change ((record.eventHead + 1) % retainedEventCount).toNat = _
    rw [BitVec.toNat_umod, BitVec.toNat_add, length]
    change (record.eventHead.toNat + 1) % 2 ^ 32 % 4 = _
    omega
  · change (if record.eventCount < retainedEventCount then record.eventCount + 1 else record.eventCount).toNat = _
    rw [length]
    split
    · next room =>
        have below : record.eventCount.toNat < 4 := room
        rw [BitVec.toNat_add]
        change (record.eventCount.toNat + 1) % 2 ^ 32 = _
        omega
    · next full =>
        have above : ¬record.eventCount.toNat < 4 := full
        omega

theorem RetainedRecord.Tells.update {record : RetainedRecord} {boots : Nat} {history : List RetainedEvent}
    (tells : record.Tells boots history) (op : RetainedOp) :
    (op.update record).Tells (boots + op.boots) (history ++ op.noted) := by
  cases op with
  | boot resetReason generation =>
      change Tells _ (boots + 1) (history ++ [])
      rw [List.append_nil]
      exact ⟨toNat_satInc_of_eq tells.boots, tells.head, tells.count, tells.events⟩
  | noteEvent event => exact tells.pushEvent event
  | _ =>
      change Tells _ boots (history ++ [])
      rw [List.append_nil]
      exact ⟨tells.boots, tells.head, tells.count, tells.events⟩

theorem RetainedRecord.Tells.inside {record : RetainedRecord} {boots : Nat} {history : List RetainedEvent}
    (tells : record.Tells boots history) : record.eventHead.toNat < 4 := by
  rw [tells.head]
  exact Nat.mod_lt _ (by decide)

def bootsOf (ops : List RetainedOp) : Nat := (ops.map RetainedOp.boots).sum

def notedBy (ops : List RetainedOp) : List RetainedEvent := ops.flatMap RetainedOp.noted

/-- A run never stops, and the record tells all of it. -/
theorem Retained.run_tells {s : Retained} (stored : s.Stored) {boots : Nat} {history : List RetainedEvent}
    (tells : s.record.Tells boots history) (ops : List RetainedOp) :
    ∃ final, retainedStep.run s ops = some final ∧ final.Stored ∧
      final.record.Tells (boots + bootsOf ops) (history ++ notedBy ops) ∧
      final.answers = List.replicate (bootsOf ops) true ++ s.answers := by
  induction ops generalizing s boots history with
  | nil => exact ⟨s, rfl, stored, by simpa [bootsOf, notedBy] using tells, rfl⟩
  | cons op rest ih =>
      obtain ⟨next, stepped, kept, changed, answers⟩ := step_stored stored tells.inside op
      have told : next.record.Tells (boots + op.boots) (history ++ op.noted) := by
        have updated := tells.update op
        rw [changed]
        exact ⟨updated.boots, updated.head, updated.count, updated.events⟩
      obtain ⟨final, ran, finalStored, finalTells, finalAnswers⟩ := ih kept told
      refine ⟨final, ?_, finalStored, ?_, ?_⟩
      · rw [EventMachine.run_cons, stepped, Option.bind_some, ran]
      · simpa [bootsOf, notedBy, Nat.add_assoc] using finalTells
      · have total : bootsOf (op :: rest) = bootsOf rest + op.boots := by simp [bootsOf, Nat.add_comm]
        rw [finalAnswers, answers, total, ← List.append_assoc, List.replicate_append_replicate]

/-- A window that fails the check is formatted by the first boot. -/
theorem Retained.boot_damaged {window : Retention} (damaged : retainedValidate (retentionRead window) = false)
    (resetReason generation : U32) :
    retainedStep { window } (.boot resetReason generation) = some {
      window := retentionWrite window (retainedFormat resetReason generation)
      record := retainedFormat resetReason generation
      device := true
      answers := [false] } := by
  simp only [retainedStep, boot, damaged, Bool.false_eq_true, if_false]

theorem Retained.stored_format (window : Retention) (resetReason generation : U32) :
    Retained.Stored {
      window := retentionWrite window (retainedFormat resetReason generation)
      record := retainedFormat resetReason generation
      device := true
      answers := [false] } := by
  constructor
  · rfl
  · rw [retentionRead_retentionWrite]
  · rw [retainedValidate_format]

/-- From a damaged window on, the record in the window is the one in memory and tells the whole history. -/
theorem retained_history (window : Retention) (damaged : retainedValidate (retentionRead window) = false)
    (resetReason generation : U32) (ops : List RetainedOp) :
    let all := .boot resetReason generation :: ops
    ∃ s, retainedStep.run { window } all = some s ∧
      retainedValidate (retentionRead s.window) = true ∧ retentionRead s.window = s.record ∧
      s.record.eventHead.toNat < 4 ∧
      s.record.ring = (notedBy all).drop ((notedBy all).length - min (notedBy all).length 4) ∧
      s.record.bootCount.toNat = min (bootsOf all) (2 ^ 32 - 1) ∧
      s.answers = List.replicate (bootsOf all - 1) true ++ [false] := by
  intro all
  obtain ⟨s, ran, stored, tells, answers⟩ := Retained.run_tells
    (Retained.stored_format window resetReason generation) (RetainedRecord.tells_format resetReason generation) ops
  have boots : bootsOf all = 1 + bootsOf ops := by simp [all, bootsOf, RetainedOp.boots]
  have events : notedBy all = notedBy ops := by simp [all, notedBy, RetainedOp.noted]
  rw [List.nil_append, ← events, ← boots] at tells
  refine ⟨s, ?_, ?_, stored.window, tells.inside, ?_, tells.boots, ?_⟩
  · rw [EventMachine.run_cons, Retained.boot_damaged damaged, Option.bind_some, ran]
  · rw [stored.window, stored.valid]
  · rw [RetainedRecord.ring, tells.events.oldestFirst_eq tells.head tells.count, tells.count]
  · rw [answers, boots, Nat.add_sub_cancel_left]

/-- The history of an empty window after two boots and an event between them. -/
theorem retained_history_reboot :
    let ops : List RetainedOp := [.noteEvent { eventId := 7 }, .boot 4 1]
    retainedValidate (retentionRead (Vector.replicate 32 0)) = false ∧
    ∃ s, retainedStep.run { window := Vector.replicate 32 0 } (.boot 0 0 :: ops) = some s ∧
      s.record.bootCount.toNat = 2 ∧ s.answers = [true, false] := by
  have damaged : retainedValidate (retentionRead (Vector.replicate 32 0)) = false := by decide +kernel
  obtain ⟨s, ran, _, _, _, _, boots, answers⟩ :=
    retained_history (Vector.replicate 32 0) damaged 0 0 [.noteEvent { eventId := 7 }, .boot 4 1]
  exact ⟨damaged, s, ran, boots, answers⟩

/-! ### The index that is not checked -/

/-- Once the head is inside of the ring, no operation leaves it, and a count that fits keeps fitting. -/
theorem RetainedRecord.update_inside {record : RetainedRecord} (inside : record.eventHead.toNat < 4) (op : RetainedOp) :
    (op.update record).eventHead.toNat < 4 ∧
      (record.eventCount.toNat ≤ 4 → (op.update record).eventCount.toNat ≤ 4) := by
  cases op with
  | noteEvent event =>
      constructor
      · change ((record.eventHead + 1) % retainedEventCount).toNat < 4
        rw [BitVec.toNat_umod]
        exact Nat.mod_lt _ (by decide)
      · intro fits
        change (if record.eventCount < retainedEventCount then record.eventCount + 1 else record.eventCount).toNat ≤ 4
        split
        · next room =>
            have below : record.eventCount.toNat < 4 := room
            rw [BitVec.toNat_add]
            change (record.eventCount.toNat + 1) % 2 ^ 32 ≤ 4
            omega
        · exact fits
  | _ => exact ⟨inside, id⟩

theorem Retained.run_inside {s : Retained} (stored : s.Stored) (inside : s.record.eventHead.toNat < 4)
    (ops : List RetainedOp) :
    ∃ final, retainedStep.run s ops = some final ∧ final.record.eventHead.toNat < 4 ∧
      (s.record.eventCount.toNat ≤ 4 → final.record.eventCount.toNat ≤ 4) := by
  induction ops generalizing s with
  | nil => exact ⟨s, rfl, inside, id⟩
  | cons op rest ih =>
      obtain ⟨next, stepped, kept, changed, _⟩ := step_stored stored inside op
      have bounds := RetainedRecord.update_inside inside op
      have nextInside : next.record.eventHead.toNat < 4 := by
        rw [changed]
        exact bounds.1
      have nextFits (fits : s.record.eventCount.toNat ≤ 4) : next.record.eventCount.toNat ≤ 4 := by
        rw [changed]
        exact bounds.2 fits
      obtain ⟨final, ran, finalInside, finalFits⟩ := ih kept nextInside
      refine ⟨final, ?_, finalInside, fun fits => finalFits (nextFits fits)⟩
      rw [EventMachine.run_cons, stepped, Option.bind_some, ran]

/-- A boot takes over the head and the count of a record that passes the check, and resets them otherwise. -/
theorem Retained.boot_index (window : Retention) (resetReason generation : U32) :
    ∃ s, retainedStep { window } (.boot resetReason generation) = some s ∧ s.Stored ∧
      s.record.eventHead = (if retainedValidate (retentionRead window) then (retentionRead window).eventHead else 0) ∧
      s.record.eventCount =
        (if retainedValidate (retentionRead window) then (retentionRead window).eventCount else 0) := by
  cases valid : retainedValidate (retentionRead window) with
  | false => exact ⟨_, boot_damaged valid resetReason generation, stored_format window resetReason generation, rfl, rfl⟩
  | true =>
      have headed := ((retainedValidate_iff _).mp valid).1
      have booted : retainedStep { window } (.boot resetReason generation) =
          some (({ window, device := true, answers := [true] } : Retained).commit
            ((RetainedOp.boot resetReason generation).update (retentionRead window))) := by
        simp only [retainedStep, boot, valid, if_true, RetainedOp.update]
      exact ⟨_, booted, stored_commit rfl (headed.update _), rfl, rfl⟩

/-- After a boot every event is stored inside of the ring exactly when an accepted record has its head there, and the
head and the count stay in range exactly when an accepted record has them in range. -/
theorem retained_stores_inside (window : Retention) (resetReason generation : U32) :
    ((∀ ops, ∃ s, retainedStep.run { window } (.boot resetReason generation :: ops) = some s) ↔
      (retainedValidate (retentionRead window) = true → (retentionRead window).eventHead.toNat < 4)) ∧
    ((∀ ops s, retainedStep.run { window } (.boot resetReason generation :: ops) = some s →
        s.record.eventHead.toNat < 4 ∧ s.record.eventCount.toNat ≤ 4) ↔
      (retainedValidate (retentionRead window) = true →
        (retentionRead window).eventHead.toNat < 4 ∧ (retentionRead window).eventCount.toNat ≤ 4)) := by
  obtain ⟨booted, stepped, stored, head, count⟩ := Retained.boot_index window resetReason generation
  have runs (ops : List RetainedOp) :
      retainedStep.run { window } (.boot resetReason generation :: ops) = retainedStep.run booted ops := by
    rw [EventMachine.run_cons, stepped, Option.bind_some]
  have headInside (accepted : retainedValidate (retentionRead window) = true →
      (retentionRead window).eventHead.toNat < 4) : booted.record.eventHead.toNat < 4 := by
    rw [head]
    split
    · next valid => exact accepted valid
    · decide
  have countInside (accepted : retainedValidate (retentionRead window) = true →
      (retentionRead window).eventCount.toNat ≤ 4) : booted.record.eventCount.toNat ≤ 4 := by
    rw [count]
    split
    · next valid => exact accepted valid
    · decide
  simp only [runs]
  refine ⟨⟨?_, ?_⟩, ⟨?_, ?_⟩⟩
  · intro runsOn valid
    rw [if_pos valid] at head
    by_contra outside
    obtain ⟨s, ran⟩ := runsOn [.noteEvent {}]
    rw [← head] at outside
    simp only [EventMachine.run_cons, retainedStep, stored.device, if_true, Retained.noteEvent, outside, if_false,
      Option.bind_none, reduceCtorEq] at ran
  · intro accepted ops
    obtain ⟨final, ran, _⟩ := Retained.run_inside stored (headInside accepted) ops
    exact ⟨final, ran⟩
  · intro bounded valid
    have now := bounded [] booted rfl
    rwa [head, count, if_pos valid, if_pos valid] at now
  · intro accepted ops s ran
    obtain ⟨final, ranFinal, finalInside, finalFits⟩ :=
      Retained.run_inside stored (headInside fun valid => (accepted valid).1) ops
    obtain rfl : s = final := Option.some.inj (ran.symm.trans ranFinal)
    exact ⟨finalInside, finalFits (countInside fun valid => (accepted valid).2)⟩

/-- A record that passes the check although its head is behind the ring. -/
def strayRecord : RetainedRecord :=
  RetainedRecord.sealed {
    magic := retainedMagic, version := retainedVersion, length := BitVec.ofNat 16 retainedSize, eventHead := 4 }

theorem stray_event :
    retainedValidate (retentionRead (retentionWrite (Vector.replicate 32 0) strayRecord)) = true ∧
    retainedStep.run { window := retentionWrite (Vector.replicate 32 0) strayRecord } [.boot 4 1, .noteEvent {}] =
      none := by
  have valid : retainedValidate strayRecord = true := by
    apply RetainedRecord.Headed.sealed
    constructor <;> rfl
  obtain ⟨booted, stepped, stored, head, _⟩ :=
    Retained.boot_index (retentionWrite (Vector.replicate 32 0) strayRecord) 4 1
  rw [retentionRead_retentionWrite, if_pos valid] at head
  have outside : ¬booted.record.eventHead.toNat < 4 := by
    rw [head]
    decide
  constructor
  · rw [retentionRead_retentionWrite, valid]
  · rw [EventMachine.run_cons, stepped, Option.bind_some, EventMachine.run_cons, retainedStep, if_pos stored.device,
      Retained.noteEvent, if_neg outside, Option.bind_none]

end VamsSoc.Firmware
