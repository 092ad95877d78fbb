/-
This file compares the chunked payload engine with the operations on whole ranges of the memory of the host.
-/

import VamsSoc.Library.Crc
import VamsSoc.Proof.Endpoint.Transfers
import VamsSoc.Proof.Endpoint.View

namespace VamsSoc.Pcie
open Library Abi

variable {σ : Type}

/-- The host has a memory. A successful transfer moves its bytes, and a failed one changes at most its own range. -/
structure MemoryBus (host : Host σ) (view : σ → U64 → U8) : Prop where
  loads : ∀ memory address count bytes, (host.read memory address count).1 = some bytes →
    bytes = loadBytes (view memory) address count
  read : ∀ memory address count, view (host.read memory address count).2 = view memory
  stores : ∀ memory address bytes, (host.write memory address bytes).1 = true →
    view (host.write memory address bytes).2 = storeBytes (view memory) address bytes
  write : ∀ memory address bytes cell, bytes.length ≤ (cell - address).toNat →
    view (host.write memory address bytes).2 cell = view memory cell
  allocate : ∀ memory size, view (host.allocate memory size).2 = view memory

/-- The little-endian word at an address. -/
def wordAt (memory : U64 → U8) (address : U64) : U32 := leWord 32 (loadBytes memory address 4) 0

/-- The byte of the destination that the operation on the whole range gives. -/
def resultByte (memory : U64 → U8) (submission : Submission) (index : Nat) : U8 :=
  if submission.opcode = opMemFill then memory submission.sourceDma
  else if submission.opcode = opVectorAdd then
    let offset := BitVec.ofNat 64 (4 * (index / 4))
    (leBytes 4 (wordAt memory (submission.sourceDma + offset) +
      wordAt memory (submission.destinationDma + offset))).getD (index % 4) 0
  else memory (submission.sourceDma + BitVec.ofNat 64 index)

/-- The loop has done this much of the command. -/
structure Progress (memory : U64 → U8) (submission : Submission) (offset : Nat) (now : U64 → U8) (crc : U32) : Prop where
  stored : submission.opcode ≠ opCrc32 →
    now = rewritten memory submission.destinationDma (resultByte memory submission) offset
  kept : submission.opcode = opCrc32 → now = memory
  register : submission.opcode = opCrc32 →
    crc = crc32Update (BitVec.allOnes 32) (loadBytes memory submission.sourceDma offset)

section Bus

variable {host : Host σ} {view : σ → U64 → U8} {s : State σ}

theorem MemoryBus.payloadRead (bus : MemoryBus host view) {address : U64} {count : Nat} {bytes : List U8}
    (good : (payloadRead host s address count).1 = .ok bytes) : bytes = loadBytes (view s.memory) address count := by
  unfold Pcie.payloadRead at good
  dsimp only at good
  split at good
  · nomatch good
  · split at good
    · nomatch good
    next loaded read =>
      obtain rfl := Except.ok.inj good
      exact bus.loads _ _ _ _ read

theorem MemoryBus.view_payloadRead (bus : MemoryBus host view) (address : U64) (count : Nat) :
    view (Pcie.payloadRead host s address count).2.memory = view s.memory := by
  unfold Pcie.payloadRead
  dsimp only
  split
  · rfl
  · split <;> exact bus.read _ _ _

theorem MemoryBus.payloadWrite (bus : MemoryBus host view) {address : U64} {bytes : List U8}
    (good : (payloadWrite host s address bytes).1 = .ok ()) :
    view (Pcie.payloadWrite host s address bytes).2.memory = storeBytes (view s.memory) address bytes := by
  unfold Pcie.payloadWrite at good ⊢
  dsimp only at good ⊢
  split at good
  · nomatch good
  next untriggered =>
    rw [if_neg untriggered]
    split at good
    next written =>
      rw [if_pos written]
      exact bus.stores _ _ _ written
    · nomatch good

/-- A write, whether it fails or not, changes only its own range. -/
theorem MemoryBus.view_payloadWrite (bus : MemoryBus host view) {address cell : U64} {bytes : List U8}
    (outside : bytes.length ≤ (cell - address).toNat) :
    view (Pcie.payloadWrite host s address bytes).2.memory cell = view s.memory cell := by
  unfold Pcie.payloadWrite
  dsimp only
  split
  · rfl
  · split <;> exact bus.write _ _ _ _ outside

/-- The cells that a command may write. -/
def Destination (submission : Submission) (cell : U64) : Prop :=
  submission.opcode ≠ opCrc32 ∧ (cell - submission.destinationDma).toNat < submission.length.toNat

theorem MemoryBus.view_attempt (bus : MemoryBus host view) {submission : Submission} {next : Attempt}
    (inside : next.Inside submission) {cell : U64} (outside : ¬Destination submission cell) :
    view (attempt host s next).2.memory cell = view s.memory cell := by
  cases next with
  | allocate size => exact congrFun (bus.allocate _ _) cell
  | read address count => exact congrFun (bus.view_payloadRead address count) cell
  | write address bytes =>
      obtain ⟨stores, offset, fits, rfl⟩ := inside
      have bound := submission.length.isLt
      have far : submission.length.toNat ≤ (cell - submission.destinationDma).toNat := by
        by_contra near
        exact outside ⟨stores, by omega⟩
      apply bus.view_payloadWrite
      rw [toNat_sub_of_offset cell submission.destinationDma (by omega), if_pos (by omega)]
      omega

theorem MemoryBus.view_performs (bus : MemoryBus host view) {submission : Submission} {attempts : List Attempt}
    {t : State σ} (performs : Performs host s attempts t) (inside : ∀ next ∈ attempts, next.Inside submission)
    {cell : U64} (outside : ¬Destination submission cell) : view t.memory cell = view s.memory cell := by
  induction attempts generalizing s with
  | nil =>
      obtain rfl : t = s := performs
      rfl
  | cons next rest ih =>
      have later := ih performs.2 fun other listed => inside other (.tail _ listed)
      exact later.trans (bus.view_attempt (inside next (.head _)) outside)

/-- Whatever fails, the engine changes no cell outside the destination of the command. -/
theorem MemoryBus.view_runs (bus : MemoryBus host view) {submission : Submission} {α : Type}
    {outcome : Except U16 α × State σ} (runs : Runs host (Attempt.Inside submission) s outcome)
    {cell : U64} (outside : ¬Destination submission cell) : view outcome.2.memory cell = view s.memory cell := by
  cases runs with
  | done attempts inside value t performs => exact bus.view_performs performs inside outside
  | failed attempts inside t performs failing last fails =>
      exact (bus.view_attempt last outside).trans (bus.view_performs performs inside outside)

end Bus

section Chunks

variable {host : Host σ} {view : σ → U64 → U8} {submission : Submission} {memory : U64 → U8}

theorem wordAt_load (memory : U64 → U8) (address : U64) {count index : Nat} (inside : 4 * index + 4 ≤ count) :
    leWord 32 (loadBytes memory address count) (4 * index) = wordAt memory (address + BitVec.ofNat 64 (4 * index)) := by
  obtain ⟨rest, rfl⟩ := Nat.exists_eq_add_of_le inside
  rw [Nat.add_assoc, loadBytes_add, loadBytes_add, wordAt, leWord, leWord, List.drop_left' (by simp),
    List.take_left' (by simp), List.drop_zero, List.take_of_length_le (by simp)]

/-- The bytes of a sum stand where the whole range has them. -/
theorem getElem_addWords (source destination : List U8) {chunkSize index : Nat} (whole : 4 ∣ chunkSize)
    (inside : index < (addWords source destination chunkSize).length) :
    (addWords source destination chunkSize)[index] =
      (leBytes 4 (leWord 32 source (4 * (index / 4)) + leWord 32 destination (4 * (index / 4)))).getD (index % 4) 0 := by
  have short : index < 4 * (chunkSize / 4) := by
    rw [length_addWords _ _ whole] at inside
    omega
  have listed := getElem?_flatMap_range
    (fun index => leBytes 4 (leWord 32 source (4 * index) + leWord 32 destination (4 * index))) (by decide)
    (fun _ => length_leBytes 4 _) short
  rw [List.getD_eq_getElem?_getD, ← listed, ← List.getD_eq_getElem?_getD]
  exact List.getElem_eq_getD 0

/-- The register of the source takes a byte through eight reflected shifts. -/
theorem crc32Byte_eq (crc : U32) (byte : U8) : crc32Byte crc byte = crcByte 0xedb88320 crc byte := by
  rw [crc32Byte, crcByte]
  simp only [crcShift_mask]
  rw [List.foldl_const, List.length_range]

theorem crc32Update_eq (crc : U32) (bytes : List U8) : crc32Update crc bytes = crcBytes 0xedb88320 crc bytes := by
  rw [crc32Update, crcBytes, funext fun crc => funext fun byte => crc32Byte_eq crc byte]

/-- The check value of the nine digits. -/
example : ~~~crc32Update (BitVec.allOnes 32) [0x31, 0x32, 0x33, 0x34, 0x35, 0x36, 0x37, 0x38, 0x39] = 0xcbf43926 := by
  decide +kernel

theorem crc32Update_append (crc : U32) (first second : List U8) :
    crc32Update crc (first ++ second) = crc32Update (crc32Update crc first) second := by
  rw [crc32Update, List.foldl_append]
  rfl

/-- What a chunk reads from a range that is not rewritten yet is what the memory had. -/
theorem load_unwritten {destination address : U64} {values : Nat → U8} {done count : Nat}
    (far : ∀ index < count, done ≤ (address + BitVec.ofNat 64 index - destination).toNat) :
    loadBytes (rewritten memory destination values done) address count = loadBytes memory address count :=
  loadBytes_congr fun index inside => rewritten_outside (far index inside)

variable {s : State σ} {offset chunkSize : Nat} {crc next : U32} {fill : U8}

/-- A chunk that stores its part of the result moves the progress on. -/
theorem Progress.store (bus : MemoryBus host view)
    (progress : Progress memory submission offset (view s.memory) crc) (stores : submission.opcode ≠ opCrc32)
    {bytes : List U8} (size : bytes.length = chunkSize) (inside : offset + chunkSize ≤ submission.length.toNat)
    (agree : ∀ index (below : index < bytes.length), bytes[index] = resultByte memory submission (offset + index))
    (good : (payloadWrite host s (submission.destinationDma + BitVec.ofNat 64 offset) bytes).1 = .ok ()) :
    Progress memory submission (offset + chunkSize)
      (view (payloadWrite host s (submission.destinationDma + BitVec.ofNat 64 offset) bytes).2.memory) next where
  stored _ := by
    have bound := submission.length.isLt
    rw [bus.payloadWrite good, progress.stored stores, storeBytes_rewritten _ _ (by omega) (by omega) agree, size]
  kept checks := absurd checks stores
  register checks := absurd checks stores

theorem ok_of_map {result : Except U16 Unit} (good : (result.map fun _ => crc) = .ok next) : result = .ok () := by
  cases result with
  | ok _ => rfl
  | error error => nomatch good

/-- The chunk of a copy reads from a source that nothing has rewritten. -/
theorem source_unwritten (validated : Validated submission)
    (moves : submission.opcode = opMemCopy ∨ submission.opcode = opVectorAdd)
    (inside : offset + chunkSize ≤ submission.length.toNat) (values : Nat → U8) :
    loadBytes (rewritten memory submission.destinationDma values offset)
        (submission.sourceDma + BitVec.ofNat 64 offset) chunkSize =
      loadBytes memory (submission.sourceDma + BitVec.ofNat 64 offset) chunkSize := by
  apply load_unwritten
  intro index below
  have far := validated.apart moves (offset + index) (by omega)
  rw [BitVec.ofNat_add, ← BitVec.add_assoc] at far
  omega

/-- The chunk of a sum reads the part of its destination that nothing has rewritten yet. -/
theorem destination_unwritten (inside : offset + chunkSize ≤ submission.length.toNat) (values : Nat → U8) :
    loadBytes (rewritten memory submission.destinationDma values offset)
        (submission.destinationDma + BitVec.ofNat 64 offset) chunkSize =
      loadBytes memory (submission.destinationDma + BitVec.ofNat 64 offset) chunkSize := by
  apply load_unwritten
  intro index below
  have bound := submission.length.isLt
  rw [BitVec.add_assoc, ← BitVec.ofNat_add, toNat_sub_of_index (by omega)]
  exact Nat.le_add_right offset index

/-- The sums of a chunk are the sums of the whole range at the same words. -/
theorem sum_of_chunk (source destination : U64) (aligned : 4 ∣ offset) (whole : 4 ∣ chunkSize) {index : Nat}
    (below : index < (addWords (loadBytes memory (source + BitVec.ofNat 64 offset) chunkSize)
      (loadBytes memory (destination + BitVec.ofNat 64 offset) chunkSize) chunkSize).length) :
    (addWords (loadBytes memory (source + BitVec.ofNat 64 offset) chunkSize)
      (loadBytes memory (destination + BitVec.ofNat 64 offset) chunkSize) chunkSize)[index] =
      (leBytes 4 (wordAt memory (source + BitVec.ofNat 64 (4 * ((offset + index) / 4))) +
        wordAt memory (destination + BitVec.ofNat 64 (4 * ((offset + index) / 4))))).getD ((offset + index) % 4) 0 := by
  have short : index < chunkSize := by rwa [length_addWords _ _ whole] at below
  have place : 4 * ((offset + index) / 4) = offset + 4 * (index / 4) := by omega
  have byte : (offset + index) % 4 = index % 4 := by omega
  rw [getElem_addWords _ _ whole, wordAt_load _ _ (by omega), wordAt_load _ _ (by omega), place, byte,
    BitVec.ofNat_add, BitVec.add_assoc, BitVec.add_assoc]

theorem Progress.chunk (bus : MemoryBus host view) (validated : Validated submission)
    (payload : isPayloadOpcode submission.opcode = true)
    (progress : Progress memory submission offset (view s.memory) crc)
    (filled : submission.opcode = opMemFill → fill = memory submission.sourceDma)
    (inside : offset + chunkSize ≤ submission.length.toNat)
    (aligned : submission.opcode = opVectorAdd → 4 ∣ offset) (words : submission.opcode = opVectorAdd → 4 ∣ chunkSize)
    (good : (payloadChunk host submission fill s offset chunkSize crc).1 = .ok next) :
    Progress memory submission (offset + chunkSize)
      (view (payloadChunk host submission fill s offset chunkSize crc).2.memory) next := by
  unfold payloadChunk at good ⊢
  dsimp only at good ⊢
  by_cases fills : submission.opcode = opMemFill
  · have stores : submission.opcode ≠ opCrc32 := fills ▸ by decide
    rw [if_pos fills] at good ⊢
    refine progress.store bus stores (by simp) inside (fun index below => ?_) (ok_of_map good)
    rw [List.getElem_replicate, filled fills, resultByte, if_pos fills]
  rw [if_neg fills] at good ⊢
  cases read : (payloadRead host s (submission.sourceDma + BitVec.ofNat 64 offset) chunkSize).1 with
  | error error =>
      rw [read] at good
      nomatch good
  | ok buffer =>
      rw [read] at good
      dsimp only at good ⊢
      have loaded := bus.payloadRead read
      have kept := bus.view_payloadRead (s := s) (submission.sourceDma + BitVec.ofNat 64 offset) chunkSize
      generalize (payloadRead host s (submission.sourceDma + BitVec.ofNat 64 offset) chunkSize).2 = t at good kept ⊢
      rw [← kept] at progress loaded
      by_cases checks : submission.opcode = opCrc32
      · rw [if_pos checks] at good ⊢
        refine ⟨fun stores => absurd checks stores, fun _ => progress.kept checks, fun _ => ?_⟩
        rw [← Except.ok.inj good, loadBytes_add, crc32Update_append, ← progress.register checks, loaded,
          progress.kept checks]
      rw [if_neg checks] at good ⊢
      rw [progress.stored checks] at loaded
      by_cases adds : submission.opcode = opVectorAdd
      · rw [if_pos adds] at good ⊢
        rw [source_unwritten validated (.inr adds) inside] at loaded
        cases second : (payloadRead host t (submission.destinationDma + BitVec.ofNat 64 offset) chunkSize).1 with
        | error error =>
            rw [second] at good
            nomatch good
        | ok target =>
            rw [second] at good
            dsimp only at good ⊢
            have fetched := bus.payloadRead second
            rw [progress.stored checks, destination_unwritten inside] at fetched
            have still := bus.view_payloadRead (s := t) (submission.destinationDma + BitVec.ofNat 64 offset) chunkSize
            generalize (payloadRead host t (submission.destinationDma + BitVec.ofNat 64 offset) chunkSize).2 = u
              at good still ⊢
            rw [← still] at progress
            refine progress.store bus checks (length_addWords _ _ (words adds)) inside (fun index below => ?_)
              (ok_of_map good)
            subst loaded fetched
            rw [sum_of_chunk _ _ (aligned adds) (words adds), resultByte, if_neg fills, if_pos adds]
      · rw [if_neg adds] at good ⊢
        have copies : submission.opcode = opMemCopy := by
          simpa [isPayloadOpcode, fills, checks, adds] using payload
        rw [source_unwritten validated (.inl copies) inside] at loaded
        refine progress.store bus checks (by simp [loaded]) inside (fun index below => ?_) (ok_of_map good)
        subst loaded
        rw [getElem_loadBytes, resultByte, if_neg fills, if_neg adds, BitVec.ofNat_add, BitVec.add_assoc]

/-- The loop ends with the whole length, since its fuel covers it. -/
theorem Progress.loop (bus : MemoryBus host view) (validated : Validated submission)
    (payload : isPayloadOpcode submission.opcode = true) {fuel : Nat}
    (progress : Progress memory submission offset (view s.memory) crc)
    (filled : submission.opcode = opMemFill → fill = memory submission.sourceDma)
    (inside : offset ≤ submission.length.toNat) (aligned : submission.opcode = opVectorAdd → 4 ∣ offset)
    (enough : submission.length.toNat ≤ offset + fuel * dmaChunkSize)
    (good : (payloadLoop host submission fill fuel s offset crc).1 = .ok next) :
    Progress memory submission submission.length.toNat
      (view (payloadLoop host submission fill fuel s offset crc).2.memory) next := by
  induction fuel generalizing s offset crc with
  | zero =>
      obtain rfl := Except.ok.inj good
      obtain rfl : offset = submission.length.toNat := by omega
      exact progress
  | succ fuel ih =>
      unfold payloadLoop at good ⊢
      dsimp only at good ⊢
      by_cases more : offset < submission.length.toNat
      · rw [if_pos more] at good ⊢
        have chunk (adds : submission.opcode = opVectorAdd) :
            4 ∣ min (submission.length.toNat - offset) dmaChunkSize := by
          have whole := validated.words adds
          have start := aligned adds
          have buffer : dmaChunkSize = 65536 := rfl
          omega
        cases moved : (payloadChunk host submission fill s offset
            (min (submission.length.toNat - offset) dmaChunkSize) crc).1 with
        | error error =>
            rw [moved] at good
            cases good
        | ok register =>
            rw [moved] at good
            have later := progress.chunk bus validated payload filled (by omega) aligned chunk moved
            refine ih later (by omega) (fun adds => Nat.dvd_add (aligned adds) (chunk adds)) ?_ good
            rw [Nat.succ_mul] at enough
            omega
      · rw [if_neg more] at good ⊢
        obtain rfl := Except.ok.inj good
        obtain rfl : offset = submission.length.toNat := by omega
        exact progress

/-- The fill byte is read before anything is written. -/
theorem MemoryBus.payloadPrepare (bus : MemoryBus host view)
    (good : (payloadPrepare host submission s).1 = .ok fill) :
    (submission.opcode = opMemFill → fill = view s.memory submission.sourceDma) ∧
      view (payloadPrepare host submission s).2.memory = view s.memory := by
  unfold Pcie.payloadPrepare at good ⊢
  dsimp only at good ⊢
  by_cases fills : submission.opcode = opMemFill
  · rw [if_pos fills] at good ⊢
    refine ⟨fun _ => ?_, bus.view_payloadRead _ _⟩
    cases read : (Pcie.payloadRead host s submission.sourceDma 1).1 with
    | error error =>
        rw [read] at good
        nomatch good
    | ok bytes =>
        rw [read] at good
        rw [← Except.ok.inj good, bus.payloadRead read]
        simp [loadBytes]
  · rw [if_neg fills] at good ⊢
    refine ⟨fun absent => absurd absent fills, ?_⟩
    split
    · split <;> exact bus.allocate _ _
    · rfl

theorem MemoryBus.payloadOutcome (bus : MemoryBus host view) (validated : Validated submission)
    (payload : isPayloadOpcode submission.opcode = true) (good : (payloadOutcome host s submission).1 = .ok next) :
    Progress (view s.memory) submission submission.length.toNat
      (view (payloadOutcome host s submission).2.memory) next := by
  have buffered := bus.allocate s.memory (min submission.length.toNat dmaChunkSize)
  unfold Pcie.payloadOutcome payloadTransfer at good ⊢
  dsimp only at good ⊢
  split at good
  · nomatch good
  next allocated =>
    rw [if_neg allocated]
    cases prepared : (Pcie.payloadPrepare host submission
        (tryMalloc host s (min submission.length.toNat dmaChunkSize)).2).1 with
    | error error =>
        rw [prepared] at good
        nomatch good
    | ok fill =>
        rw [prepared] at good
        obtain ⟨filled, kept⟩ := bus.payloadPrepare prepared
        have same := kept.trans buffered
        refine Progress.loop bus validated payload ⟨fun _ => ?_, fun _ => same, fun _ => rfl⟩ ?_ (Nat.zero_le _)
          (fun _ => Nat.dvd_zero 4) ?_ good
        · rw [rewritten_zero]
          exact same
        · exact fun fills => (filled fills).trans (congrFun buffered _)
        · have whole := Nat.lt_div_mul_add (a := submission.length.toNat) (b := dmaChunkSize) (by decide)
          rw [Nat.succ_mul]
          omega

end Chunks

/-- The memory after a command, as an operation on whole ranges of the memory before it. -/
structure WholeRange (submission : Submission) (before after : U64 → U8) : Prop where
  copy : submission.opcode = opMemCopy →
    loadBytes after submission.destinationDma submission.length.toNat =
      loadBytes before submission.sourceDma submission.length.toNat
  fill : submission.opcode = opMemFill → ∀ index < submission.length.toNat,
    after (submission.destinationDma + BitVec.ofNat 64 index) = before submission.sourceDma
  add : submission.opcode = opVectorAdd → ∀ index < submission.length.toNat / 4,
    wordAt after (submission.destinationDma + BitVec.ofNat 64 (4 * index)) =
      wordAt before (submission.sourceDma + BitVec.ofNat 64 (4 * index)) +
        wordAt before (submission.destinationDma + BitVec.ofNat 64 (4 * index))
  outside : ∀ cell, ¬Destination submission cell → after cell = before cell

/-- The loop that did the whole length did the operation on the whole range. -/
theorem Progress.wholeRange {submission : Submission} {before after : U64 → U8} {crc : U32}
    (progress : Progress before submission submission.length.toNat after crc) : WholeRange submission before after := by
  have bound := submission.length.isLt
  have stored (stores : submission.opcode ≠ opCrc32) (index : Nat) (inside : index < submission.length.toNat) :
      after (submission.destinationDma + BitVec.ofNat 64 index) = resultByte before submission index := by
    rw [progress.stored stores, rewritten_inside inside (by omega)]
  constructor
  · intro copies
    apply List.map_congr_left
    intro index listed
    rw [stored (copies ▸ by decide) index (List.mem_range.mp listed), resultByte, copies, if_neg (by decide),
      if_neg (by decide)]
  · intro fills index inside
    rw [stored (fills ▸ by decide) index inside, resultByte, if_pos fills]
  · intro adds index inside
    have bytes : loadBytes after (submission.destinationDma + BitVec.ofNat 64 (4 * index)) 4 =
        leBytes 4 (wordAt before (submission.sourceDma + BitVec.ofNat 64 (4 * index)) +
          wordAt before (submission.destinationDma + BitVec.ofNat 64 (4 * index))) := by
      refine List.ext_getElem (by simp) fun byte first second => ?_
      have low : byte < 4 := by simpa using second
      have place : (4 * index + byte) / 4 = index := by omega
      have rest : (4 * index + byte) % 4 = byte := by omega
      rw [getElem_loadBytes, BitVec.add_assoc, ← BitVec.ofNat_add, stored (adds ▸ by decide) _ (by omega), resultByte,
        if_neg (by rw [adds]; decide), if_pos adds, place, rest, List.getD_eq_getElem _ _ second]
    rw [wordAt, bytes]
    exact leWord_leBytes 4 _ rfl
  · intro cell outside
    by_cases checks : submission.opcode = opCrc32
    · rw [progress.kept checks]
    · rw [progress.stored checks]
      apply rewritten_outside
      by_contra near
      exact outside ⟨checks, by omega⟩

/-- After attempts that succeed one fails, and the command ends there with the error of that attempt. -/
def Interrupted (host : Host σ) (s : State σ) (completion : Completion) (result : Completion × State σ) : Prop :=
  ∃ attempts t failing, Performs host s attempts t ∧ (attempt host t failing).1 = false ∧
    result.1 = { completion with
      status := statusFailed, errorCode := failing.error, bytesProcessed := 0, resultCrc := 0 } ∧
    result.2 = (attempt host t failing).2

/-- The expected checksum is given and differs. -/
def Mismatch (submission : Submission) (crc : U32) : Prop :=
  submission.opcode = opCrc32 ∧ hasBits submission.flags subFVerifyCrc = true ∧ crc ≠ submission.expectedCrc

/-- The completion of a command whose attempts all succeeded. -/
structure Concluded (submission : Submission) (before : U64 → U8) (completion result : Completion) : Prop where
  checksum : submission.opcode = opCrc32 →
    IsIeeeCrc32 (loadBytes before submission.sourceDma submission.length.toNat) result.resultCrc
  success : ¬Mismatch submission result.resultCrc →
    result.status = statusSuccess ∧ result.errorCode = completion.errorCode
  processed : result.status = statusSuccess → result.bytesProcessed = submission.length

theorem interrupted_of_error {host : Host σ} {s : State σ} {submission : Submission} {completion : Completion}
    {scope : Attempt → Prop} {outcome : Except U16 U32 × State σ} (runs : Runs host scope s outcome) {error : U16}
    (bad : outcome.1 = .error error) :
    Interrupted host s completion (concludes submission completion outcome.1, outcome.2) := by
  cases runs with
  | done attempts inside value t performs => nomatch bad
  | failed attempts inside t performs failing last fails => exact ⟨attempts, t, failing, performs, fails, rfl, rfl⟩

theorem performs_of_ok {host : Host σ} {s : State σ} {scope : Attempt → Prop} {outcome : Except U16 U32 × State σ}
    (runs : Runs host scope s outcome) {crc : U32} (good : outcome.1 = .ok crc) :
    ∃ attempts, Performs host s attempts outcome.2 := by
  cases runs with
  | done attempts inside value t performs => exact ⟨attempts, performs⟩
  | failed attempts inside t performs failing last fails => nomatch good

theorem payloadSuccess_mismatch {submission : Submission} {completion : Completion} {crc : U32}
    (mismatch : Mismatch submission (payloadSuccess submission completion crc).resultCrc) :
    payloadSuccess submission completion crc = { completion with
      status := statusFailed, errorCode := errCrcMismatch, bytesProcessed := 0
      resultCrc := (payloadSuccess submission completion crc).resultCrc } := by
  obtain ⟨checks, verifies, differs⟩ := mismatch
  unfold payloadSuccess at differs ⊢
  rw [if_pos checks] at differs ⊢
  split at differs
  next both => rw [if_pos both]
  next same =>
    rw [Bool.and_eq_true, bne_iff_ne] at same
    exact absurd ⟨verifies, differs⟩ same

theorem concluded_payloadSuccess {submission : Submission} {completion : Completion} {before : U64 → U8} {crc : U32}
    (status : completion.status = statusSuccess)
    (register : submission.opcode = opCrc32 →
      crc = crc32Update (BitVec.allOnes 32) (loadBytes before submission.sourceDma submission.length.toNat)) :
    Concluded submission before completion (payloadSuccess submission completion crc) := by
  unfold payloadSuccess
  split
  next checks =>
    have checksum : IsIeeeCrc32 (loadBytes before submission.sourceDma submission.length.toNat) (~~~crc) := by
      rw [register checks, crc32Update_eq]
      exact isIeeeCrc32_complement _
    split
    next differs =>
      rw [Bool.and_eq_true, bne_iff_ne] at differs
      exact ⟨fun _ => checksum, fun agrees => absurd ⟨checks, differs⟩ agrees, fun success =>
        absurd success (show ¬statusFailed = statusSuccess by decide)⟩
    · exact ⟨fun _ => checksum, fun _ => ⟨status, rfl⟩, fun _ => rfl⟩
  next other => exact ⟨fun checks => absurd checks other, fun _ => ⟨status, rfl⟩, fun _ => rfl⟩

/-- When every buffer is granted and every transfer succeeds, the chunked engine does what the operation on the whole
range does. -/
theorem executePayload_wholeRange (host : Host σ) (view : σ → U64 → U8) (bus : MemoryBus host view) (s : State σ)
    (submission : Submission) (completion : Completion) (payload : isPayloadOpcode submission.opcode = true)
    (valid : validateCommand submission = errNone) (status : completion.status = statusSuccess)
    (uninterrupted : ¬Interrupted host s completion (executePayload host s submission completion)) :
    WholeRange submission (view s.memory) (view (executePayload host s submission completion).2.memory) ∧
      Concluded submission (view s.memory) completion (executePayload host s submission completion).1 := by
  have validated := validated_of_accepted payload valid
  have runs : Runs host (Attempt.Inside submission) s (payloadOutcome host s submission) :=
    runs_payloadOutcome (covers_inside submission) validated
  rw [executePayload_eq host s payload valid status] at uninterrupted ⊢
  cases outcome : (payloadOutcome host s submission).1 with
  | error error => exact absurd (interrupted_of_error runs outcome) uninterrupted
  | ok crc =>
      have progress := bus.payloadOutcome validated payload outcome
      exact ⟨progress.wholeRange, concluded_payloadSuccess status progress.register⟩

/-- A host whose transfers never fail, or whose memory may only be read. -/
def memoryHost (writable : Bool) : Host (U64 → U8) where
  read memory address count := (some (loadBytes memory address count), memory)
  write memory address bytes := (writable, if writable then storeBytes memory address bytes else memory)
  allocate memory _ := (true, memory)
  fills memory address count bytes loaded := by
    obtain rfl := Option.some.inj loaded
    exact length_loadBytes memory address count

theorem memoryHost_bus (writable : Bool) : MemoryBus (memoryHost writable) id where
  loads _ _ _ _ loaded := (Option.some.inj loaded).symm
  read _ _ _ := rfl
  stores _ _ _ written := if_pos written
  write memory address bytes cell outside := by
    cases writable with
    | false => rfl
    | true => exact List.getD_eq_default _ _ outside
  allocate _ _ := rfl

/-- Without an armed fault nothing fails at a host whose transfers never fail. -/
theorem memoryHost_attempt {s : State (U64 → U8)} (disarmed : s.signals.fault.control = 0) (next : Attempt) :
    (attempt (memoryHost true) s next).1 = true ∧
      (attempt (memoryHost true) s next).2.signals.fault.control = 0 := by
  cases next with
  | allocate size => exact ⟨rfl, disarmed⟩
  | read address count =>
      have quiet := faultTrigger_disarmed disarmed (show faultDmaRead ≠ 0 by decide)
      simp only [attempt, payloadRead, quiet]
      exact ⟨rfl, disarmed⟩
  | write address bytes =>
      have quiet := faultTrigger_disarmed disarmed (show faultDmaWrite ≠ 0 by decide)
      simp only [attempt, payloadWrite, quiet]
      exact ⟨rfl, disarmed⟩

theorem memoryHost_uninterrupted {s : State (U64 → U8)} (disarmed : s.signals.fault.control = 0)
    (completion : Completion) (result : Completion × State (U64 → U8)) :
    ¬Interrupted (memoryHost true) s completion result := by
  rintro ⟨attempts, t, failing, performs, fails, -, -⟩
  have still : t.signals.fault.control = 0 := by
    induction attempts generalizing s with
    | nil =>
        obtain rfl : t = s := performs
        exact disarmed
    | cons next rest ih => exact ih (memoryHost_attempt disarmed next).2 performs.2
  exact absurd fails (by simp [(memoryHost_attempt still failing).1])

/-- The fill byte of this command lies inside its destination. -/
def overlappingFill : Submission :=
  { version := descVersion1, opcode := opMemFill, sourceDma := 0x1002, destinationDma := 0x1000, length := 5 }

/-- The memory of this host has the low byte of each address. -/
def countingMemory (address : U64) : U8 := address.setWidth 8

theorem overlapping_fill_has_original_byte :
    WholeRange overlappingFill countingMemory
        (executePayload (memoryHost true) (powerOn false false countingMemory) overlappingFill {}).2.memory ∧
      Concluded overlappingFill countingMemory {}
        (executePayload (memoryHost true) (powerOn false false countingMemory) overlappingFill {}).1 :=
  executePayload_wholeRange (memoryHost true) id (memoryHost_bus true) (powerOn false false countingMemory)
    overlappingFill {} (by decide) (by decide) (by decide) (memoryHost_uninterrupted rfl _ _)

/-- The engine ends with the first attempt that fails, or reports a checksum that differs; in both cases it has changed
nothing outside the destination of the command. -/
structure FailureContract (host : Host σ) (view : σ → U64 → U8) (s : State σ) (submission : Submission)
    (completion : Completion) (result : Completion × State σ) : Prop where
  ended : Interrupted host s completion result ∨ (∃ attempts, Performs host s attempts result.2) ∧
    (result.1.status = statusSuccess ∨ Mismatch submission result.1.resultCrc)
  checksum : ¬Interrupted host s completion result → submission.opcode = opCrc32 →
    IsIeeeCrc32 (loadBytes (view s.memory) submission.sourceDma submission.length.toNat) result.1.resultCrc
  mismatch : ¬Interrupted host s completion result →
    ∀ crc, IsIeeeCrc32 (loadBytes (view s.memory) submission.sourceDma submission.length.toNat) crc →
      Mismatch submission crc →
        result.1 = { completion with
          status := statusFailed, errorCode := errCrcMismatch, bytesProcessed := 0, resultCrc := crc } ∧
        view result.2.memory = view s.memory
  outside : ∀ cell, ¬Destination submission cell → view result.2.memory cell = view s.memory cell

theorem executePayload_failureContract (host : Host σ) (view : σ → U64 → U8) (bus : MemoryBus host view) (s : State σ)
    (submission : Submission) (completion : Completion) (payload : isPayloadOpcode submission.opcode = true)
    (valid : validateCommand submission = errNone) (status : completion.status = statusSuccess) :
    FailureContract host view s submission completion (executePayload host s submission completion) := by
  have validated := validated_of_accepted payload valid
  have runs : Runs host (Attempt.Inside submission) s (payloadOutcome host s submission) :=
    runs_payloadOutcome (covers_inside submission) validated
  rw [executePayload_eq host s payload valid status]
  cases outcome : (payloadOutcome host s submission).1 with
  | error error =>
      have interrupted : Interrupted host s completion
          (concludes submission completion (.error error), (payloadOutcome host s submission).2) :=
        outcome ▸ interrupted_of_error runs outcome
      exact ⟨.inl interrupted, fun absent => absurd interrupted absent, fun absent => absurd interrupted absent,
        fun cell outside => bus.view_runs runs outside⟩
  | ok crc =>
      have progress := bus.payloadOutcome validated payload outcome
      have concluded : Concluded submission (view s.memory) completion (payloadSuccess submission completion crc) :=
        concluded_payloadSuccess status progress.register
      refine ⟨.inr ⟨performs_of_ok runs outcome, ?_⟩, fun _ => concluded.checksum,
        fun _ sum source mismatch => ⟨?_, progress.kept mismatch.1⟩, fun cell outside => bus.view_runs runs outside⟩
      · by_cases mismatch : Mismatch submission (payloadSuccess submission completion crc).resultCrc
        · exact .inr mismatch
        · exact .inl (concluded.success mismatch).1
      · obtain rfl := source.unique (concluded.checksum mismatch.1)
        exact payloadSuccess_mismatch mismatch

theorem refused_write_fails_command :
    (executePayload (memoryHost false) (powerOn false false countingMemory) overlappingFill {}).1.errorCode =
        errDmaWrite ∧
      FailureContract (memoryHost false) id (powerOn false false countingMemory) overlappingFill {}
        (executePayload (memoryHost false) (powerOn false false countingMemory) overlappingFill {}) :=
  ⟨by decide, executePayload_failureContract (memoryHost false) id (memoryHost_bus false)
    (powerOn false false countingMemory) overlappingFill {} (by decide) (by decide) (by decide)⟩

end VamsSoc.Pcie
