/-
This file has the frame rule of the payload engine: its bus accesses are all that it does to the endpoint.
-/

import VamsSoc.Construction.Endpoint.Payload

namespace VamsSoc.Pcie
open Library Abi

variable {σ : Type}

/-- The property survives each bus access, each buffer request, and each injected fault. -/
structure BusStable (host : Host σ) (property : State σ → Prop) : Prop where
  fault : ∀ s fault, fault ≠ 0 → property s → property (faultTrigger s fault).2
  read : ∀ s address count, property s → property (dmaRead host s address count).2
  write : ∀ s address bytes, property s → property (dmaWrite host s address bytes).2
  allocate : ∀ s size, property s → property (tryMalloc host s size).2

namespace BusStable
variable {host : Host σ} {property : State σ → Prop} {s : State σ}

theorem payloadRead (stable : BusStable host property) (holds : property s) (address : U64) (count : Nat) :
    property (payloadRead host s address count).2 := by
  have fault := stable.fault s faultDmaRead (by decide) holds
  unfold Pcie.payloadRead
  dsimp only
  split
  · exact fault
  · split <;> exact stable.read _ address count fault

theorem payloadWrite (stable : BusStable host property) (holds : property s) (address : U64)
    (bytes : List U8) : property (payloadWrite host s address bytes).2 := by
  have fault := stable.fault s faultDmaWrite (by decide) holds
  unfold Pcie.payloadWrite
  dsimp only
  split
  · exact fault
  · split <;> exact stable.write _ address bytes fault

theorem payloadChunk (stable : BusStable host property) (holds : property s) (submission : Submission)
    (fill : U8) (offset chunkSize : Nat) (crc : U32) :
    property (payloadChunk host submission fill s offset chunkSize crc).2 := by
  have read := stable.payloadRead holds (submission.sourceDma + BitVec.ofNat 64 offset) chunkSize
  have target := stable.payloadRead read (submission.destinationDma + BitVec.ofNat 64 offset) chunkSize
  unfold Pcie.payloadChunk
  dsimp only
  split
  · exact stable.payloadWrite holds _ _
  · split
    · exact read
    · split
      · exact read
      · split
        · split
          · exact target
          · exact stable.payloadWrite target _ _
        · exact stable.payloadWrite read _ _

theorem payloadLoop (stable : BusStable host property) (holds : property s) (submission : Submission)
    (fill : U8) (fuel offset : Nat) (crc : U32) :
    property (payloadLoop host submission fill fuel s offset crc).2 := by
  induction fuel generalizing s offset crc with
  | zero => exact holds
  | succ fuel ih =>
      have chunk := stable.payloadChunk holds submission fill offset
      unfold Pcie.payloadLoop
      dsimp only
      split
      · split
        · exact chunk _ _
        · exact ih (chunk _ _) _ _
      · exact holds

theorem payloadPrepare (stable : BusStable host property) (holds : property s) (submission : Submission) :
    property (payloadPrepare host submission s).2 := by
  unfold Pcie.payloadPrepare
  dsimp only
  split_ifs
  · exact stable.payloadRead holds _ _
  · exact stable.allocate _ _ holds
  · exact stable.allocate _ _ holds
  · exact holds

theorem payloadTransfer (stable : BusStable host property) (holds : property s) (submission : Submission) :
    property (payloadTransfer host submission s).2 := by
  have prepared := stable.payloadPrepare holds submission
  unfold Pcie.payloadTransfer
  dsimp only
  split
  · exact prepared
  · exact stable.payloadLoop prepared submission _ _ _ _

/-- The engine keeps whatever its bus accesses keep. -/
theorem executePayload (stable : BusStable host property) (holds : property s) (submission : Submission)
    (completion : Completion) : property (executePayload host s submission completion).2 := by
  have buffer := stable.allocate s (min submission.length.toNat dmaChunkSize) holds
  unfold Pcie.executePayload
  dsimp only
  split_ifs
  · exact holds
  · exact holds
  · exact buffer
  · split <;> exact stable.payloadTransfer buffer submission

end BusStable

/-- The engine fills in a completion and leaves its identity and its timestamp alone. -/
structure Fills (before after : Completion) : Prop where
  identity : after.identity = before.identity
  timestamp : after.deviceTimestamp = before.deviceTimestamp

theorem fills_executePayload (host : Host σ) (s : State σ) (submission : Submission) (completion : Completion) :
    Fills completion (executePayload host s submission completion).1 := by
  unfold executePayload
  dsimp only
  split_ifs
  · exact ⟨rfl, rfl⟩
  · exact ⟨rfl, rfl⟩
  · exact ⟨rfl, rfl⟩
  · split
    · exact ⟨rfl, rfl⟩
    · unfold payloadSuccess
      split_ifs <;> exact ⟨rfl, rfl⟩

end VamsSoc.Pcie
