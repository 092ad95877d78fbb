/-
This file reads the payload engine as a sequence of attempts that ends with the first one that fails.
-/

import VamsSoc.Construction.Endpoint.Payload
import VamsSoc.Library.ByteMemory

namespace VamsSoc.Pcie
open Library Abi

variable {σ α β : Type}

/-- The engine asks for buffers and for transfers. -/
inductive Attempt where
  | allocate (size : Nat)
  | read (address : U64) (count : Nat)
  | write (address : U64) (bytes : List U8)
  deriving DecidableEq, Repr

/-- The error code of a failed attempt tells its direction. -/
def Attempt.error : Attempt → U16
  | .allocate _ => errEngine
  | .read _ _ => errDmaRead
  | .write _ _ => errDmaWrite

/-- An attempt says whether it succeeded; an injected fault makes a transfer fail too. -/
def attempt (host : Host σ) (s : State σ) : Attempt → Bool × State σ
  | .allocate size => tryMalloc host s size
  | .read address count => ((payloadRead host s address count).1.isOk, (payloadRead host s address count).2)
  | .write address bytes => ((payloadWrite host s address bytes).1.isOk, (payloadWrite host s address bytes).2)

/-- All attempts succeed, one after the other. -/
def Performs (host : Host σ) : State σ → List Attempt → State σ → Prop
  | s, [], t => t = s
  | s, next :: rest, t => (attempt host s next).1 = true ∧ Performs host (attempt host s next).2 rest t

theorem Performs.append {host : Host σ} {s t u : State σ} {first second : List Attempt}
    (performs : Performs host s first t) (continues : Performs host t second u) :
    Performs host s (first ++ second) u := by
  induction first generalizing s with
  | nil =>
      obtain rfl : t = s := performs
      exact continues
  | cons next rest ih =>
      obtain ⟨succeeds, later⟩ := performs
      exact ⟨succeeds, ih later⟩

/-- A part of the engine succeeds with its attempts, or ends with the first attempt that fails. -/
inductive Runs (host : Host σ) (scope : Attempt → Prop) (s : State σ) : Except U16 α × State σ → Prop
  | done (attempts : List Attempt) (inside : ∀ next ∈ attempts, scope next) (value : α) (t : State σ)
      (performs : Performs host s attempts t) : Runs host scope s (.ok value, t)
  | failed (attempts : List Attempt) (inside : ∀ next ∈ attempts, scope next) (t : State σ)
      (performs : Performs host s attempts t) (failing : Attempt) (last : scope failing)
      (fails : (attempt host t failing).1 = false) :
      Runs host scope s (.error failing.error, (attempt host t failing).2)

namespace Runs

variable {host : Host σ} {scope : Attempt → Prop} {s : State σ}

theorem pure (value : α) : Runs host scope s (.ok value, s) := .done [] (by simp) value s rfl

/-- A single attempt either succeeds or is the one that fails. -/
theorem single {next : Attempt} (inside : scope next) {outcome : Except U16 α × State σ}
    (state : outcome.2 = (attempt host s next).2)
    (good : ∀ value, outcome.1 = .ok value → (attempt host s next).1 = true)
    (bad : ∀ error, outcome.1 = .error error → (attempt host s next).1 = false ∧ error = next.error) :
    Runs host scope s outcome := by
  obtain ⟨result, t⟩ := outcome
  obtain rfl : t = (attempt host s next).2 := state
  cases result with
  | ok value => exact .done [next] (by simpa using inside) value _ ⟨good value rfl, rfl⟩
  | error error =>
      obtain ⟨fails, rfl⟩ := bad error rfl
      exact .failed [] (by simp) s rfl next inside fails

theorem read {address : U64} {count : Nat} (inside : scope (.read address count)) :
    Runs host scope s (payloadRead host s address count) := by
  refine single inside rfl (fun value good => ?_) (fun error bad => ?_)
  · rw [attempt, good]
    rfl
  · rw [attempt, bad]
    refine ⟨rfl, ?_⟩
    unfold payloadRead at bad
    dsimp only at bad
    split at bad
    · exact (Except.error.inj bad).symm
    · split at bad
      · exact (Except.error.inj bad).symm
      · nomatch bad

theorem write {address : U64} {bytes : List U8} (inside : scope (.write address bytes)) :
    Runs host scope s (payloadWrite host s address bytes) := by
  refine single inside rfl (fun value good => ?_) (fun error bad => ?_)
  · rw [attempt, good]
    rfl
  · rw [attempt, bad]
    refine ⟨rfl, ?_⟩
    unfold payloadWrite at bad
    dsimp only at bad
    split at bad
    · exact (Except.error.inj bad).symm
    · split at bad
      · nomatch bad
      · exact (Except.error.inj bad).symm

theorem granted {size : Nat} (inside : scope (.allocate size)) (succeeds : (tryMalloc host s size).1 = true) (value : α) :
    Runs host scope s (.ok value, (tryMalloc host s size).2) :=
  .done [.allocate size] (by simpa using inside) value _ ⟨succeeds, rfl⟩

theorem refused {size : Nat} (inside : scope (.allocate size)) (fails : (tryMalloc host s size).1 = false) :
    Runs host scope s ((.error errEngine, (tryMalloc host s size).2) : Except U16 α × State σ) :=
  .failed [] (by simp) s rfl (.allocate size) inside fails

/-- The next part runs where the first one succeeded. -/
theorem bind {first : Except U16 α × State σ} (runs : Runs host scope s first) {outcome : Except U16 β × State σ}
    (stops : ∀ error, first.1 = .error error → outcome = (.error error, first.2))
    (continues : ∀ value, first.1 = .ok value → Runs host scope first.2 outcome) : Runs host scope s outcome := by
  cases runs with
  | failed attempts inside t performs failing last fails =>
      obtain rfl := stops _ rfl
      exact .failed attempts inside t performs failing last fails
  | done attempts inside value t performs =>
      cases continues value rfl with
      | done more within result u finishes =>
          refine .done (attempts ++ more) ?_ result u (performs.append finishes)
          intro next listed
          exact (List.mem_append.mp listed).elim (inside next) (within next)
      | failed more within u finishes failing last fails =>
          refine .failed (attempts ++ more) ?_ u (performs.append finishes) failing last fails
          intro next listed
          exact (List.mem_append.mp listed).elim (inside next) (within next)

theorem map {first : Except U16 α × State σ} (runs : Runs host scope s first) (f : α → β) :
    Runs host scope s (first.1.map f, first.2) := by
  cases runs with
  | failed attempts inside t performs failing last fails => exact .failed attempts inside t performs failing last fails
  | done attempts inside value t performs => exact .done attempts inside (f value) t performs

end Runs

/-- The engine reads anywhere and writes only to the destination of the command. -/
def Attempt.Inside (submission : Submission) : Attempt → Prop
  | .allocate _ | .read _ _ => True
  | .write address bytes => submission.opcode ≠ opCrc32 ∧ ∃ offset,
      offset + bytes.length ≤ submission.length.toNat ∧ address = submission.destinationDma + BitVec.ofNat 64 offset

/-- The attempts that an operation may make are in the scope. -/
structure Covers (scope : Attempt → Prop) (submission : Submission) : Prop where
  allocate : ∀ size, scope (.allocate size)
  source : ∀ offset count, offset + count ≤ (if submission.opcode = opMemFill then 1 else submission.length.toNat) →
    scope (.read (submission.sourceDma + BitVec.ofNat 64 offset) count)
  operand : submission.opcode = opVectorAdd → ∀ offset count, offset + count ≤ submission.length.toNat →
    scope (.read (submission.destinationDma + BitVec.ofNat 64 offset) count)
  destination : submission.opcode ≠ opCrc32 → ∀ offset bytes, offset + bytes.length ≤ submission.length.toNat →
    scope (.write (submission.destinationDma + BitVec.ofNat 64 offset) bytes)

theorem covers_inside (submission : Submission) : Covers (Attempt.Inside submission) submission where
  allocate _ := trivial
  source _ _ _ := trivial
  operand _ _ _ _ := trivial
  destination stores offset _ fits := ⟨stores, offset, fits, rfl⟩

theorem length_addWords (source destination : List U8) {chunkSize : Nat} (whole : 4 ∣ chunkSize) :
    (addWords source destination chunkSize).length = chunkSize := by
  obtain ⟨count, rfl⟩ := whole
  simp [addWords, List.length_flatMap, Nat.mul_comm]

section Parts

variable {host : Host σ} {scope : Attempt → Prop} {submission : Submission} {s : State σ}

/-- The size of a read is the size that the host filled. -/
theorem length_payloadRead {address : U64} {count : Nat} {bytes : List U8}
    (good : (payloadRead host s address count).1 = .ok bytes) : bytes.length = count := by
  unfold payloadRead at good
  dsimp only at good
  split at good
  · nomatch good
  · split at good
    · nomatch good
    next read =>
      obtain rfl := Except.ok.inj good
      exact host.fills _ _ _ _ read

section Scope
variable (covers : Covers scope submission)
include covers

theorem runs_payloadChunk {fill : U8} {offset chunkSize : Nat} {crc : U32}
    (inside : offset + chunkSize ≤ submission.length.toNat)
    (words : submission.opcode = opVectorAdd → 4 ∣ chunkSize) :
    Runs host scope s (payloadChunk host submission fill s offset chunkSize crc) := by
  have store (stores : submission.opcode ≠ opCrc32) (t : State σ) (bytes : List U8) (fits : bytes.length = chunkSize) :
      Runs host scope t
        ((payloadWrite host t (submission.destinationDma + BitVec.ofNat 64 offset) bytes).1.map fun _ => crc,
          (payloadWrite host t (submission.destinationDma + BitVec.ofNat 64 offset) bytes).2) :=
    (Runs.write (covers.destination stores offset bytes (by omega))).map _
  unfold payloadChunk
  dsimp only
  split
  next fills => exact store (fun checks => absurd (fills.symm.trans checks) (by decide)) s _ (by simp)
  next other =>
    have loads : Runs host scope s (payloadRead host s (submission.sourceDma + BitVec.ofNat 64 offset) chunkSize) :=
      Runs.read (covers.source offset chunkSize (by rwa [if_neg other]))
    refine loads.bind (fun error bad => ?_) fun buffer read => ?_
    · rw [bad]
    rw [read]
    dsimp only
    split
    · exact .pure _
    next stores =>
      split
      next adds =>
        refine (Runs.read (covers.operand adds offset chunkSize inside)).bind (fun error bad => ?_) fun target loaded => ?_
        · rw [bad]
        rw [loaded]
        exact store stores _ _ (length_addWords _ _ (words adds))
      · exact store stores _ _ (length_payloadRead read)

/-- The words of a vector addition stay whole in every chunk. -/
theorem runs_payloadLoop {fill : U8} (words : submission.opcode = opVectorAdd → 4 ∣ submission.length.toNat)
    {fuel offset : Nat} (aligned : submission.opcode = opVectorAdd → 4 ∣ offset) {crc : U32} :
    Runs host scope s (payloadLoop host submission fill fuel s offset crc) := by
  induction fuel generalizing s offset crc with
  | zero => exact .pure crc
  | succ fuel ih =>
      unfold payloadLoop
      dsimp only
      split
      next more =>
        have chunk (adds : submission.opcode = opVectorAdd) :
            4 ∣ min (submission.length.toNat - offset) dmaChunkSize := by
          have whole := words adds
          have start := aligned adds
          have buffer : dmaChunkSize = 65536 := rfl
          omega
        have runs : Runs host scope s (payloadChunk host submission fill s offset
            (min (submission.length.toNat - offset) dmaChunkSize) crc) := runs_payloadChunk covers (by omega) chunk
        refine runs.bind (fun error bad => ?_) fun crc good => ?_
        · rw [bad]
        rw [good]
        exact ih fun adds => Nat.dvd_add (aligned adds) (chunk adds)
      · exact .pure crc

theorem runs_payloadPrepare :
    Runs host scope s (payloadPrepare host submission s) := by
  unfold payloadPrepare
  dsimp only
  split
  next fills =>
    have first : scope (.read submission.sourceDma 1) := by
      have start := covers.source 0 1 (by simp [fills])
      rwa [BitVec.add_zero] at start
    have reads : Runs host scope s (payloadRead host s submission.sourceDma 1) := .read first
    exact reads.map _
  · split
    · split
      next allocated => exact .granted (covers.allocate _) allocated 0
      next unavailable => exact .refused (covers.allocate _) (Bool.eq_false_iff.mpr unavailable)
    · exact .pure 0

theorem runs_payloadTransfer (words : submission.opcode = opVectorAdd → 4 ∣ submission.length.toNat) :
    Runs host scope s (payloadTransfer host submission s) := by
  unfold payloadTransfer
  dsimp only
  refine (runs_payloadPrepare covers).bind (fun error bad => ?_) fun fill good => ?_
  · rw [bad]
  rw [good]
  exact runs_payloadLoop covers words fun _ => Nat.dvd_zero 4

end Scope
end Parts

/-- A command that passed the endpoint's check has whole words and ranges that do not overlap. -/
structure Validated (submission : Submission) : Prop where
  positive : 0 < submission.length.toNat
  bounded : submission.length.toNat ≤ maxTransfer.toNat
  words : submission.opcode = opVectorAdd → 4 ∣ submission.length.toNat
  apart : submission.opcode = opMemCopy ∨ submission.opcode = opVectorAdd →
    ∀ index < submission.length.toNat,
      submission.length.toNat ≤ (submission.sourceDma + BitVec.ofNat 64 index - submission.destinationDma).toNat

/-- A range that does not overflow ends inside the address space. -/
theorem fits_of_not_overflows {address : U64} {length : U32} (positive : 0 < length.toNat)
    (fits : rangeOverflows address length = false) : address.toNat + length.toNat ≤ 2 ^ 64 := by
  have bound := length.isLt
  have last : (BitVec.allOnes 64 - (length.setWidth 64 - 1)).toNat = 2 ^ 64 - length.toNat := by
    have whole : (BitVec.allOnes 64).toNat = 2 ^ 64 - 1 := rfl
    have wide : (length.setWidth 64).toNat = length.toNat := by
      rw [BitVec.toNat_setWidth, Nat.mod_eq_of_lt (by omega)]
    have pred : (length.setWidth 64 - 1).toNat = length.toNat - 1 := by bv_omega
    rw [BitVec.toNat_sub, whole, pred]
    omega
  rw [rangeOverflows, decide_eq_false_iff_not, BitVec.not_lt, BitVec.le_def, last] at fits
  omega

theorem apart_of_disjoint {source destination : U64} {length : U32} (positive : 0 < length.toNat)
    (sourceFits : rangeOverflows source length = false) (destinationFits : rangeOverflows destination length = false)
    (disjoint : rangesOverlap source destination length = false) (index : Nat) (inside : index < length.toNat) :
    length.toNat ≤ (source + BitVec.ofNat 64 index - destination).toNat := by
  have bound := length.isLt
  have first := fits_of_not_overflows positive sourceFits
  have second := fits_of_not_overflows positive destinationFits
  have last (address : U64) (fits : address.toNat + length.toNat ≤ 2 ^ 64) :
      (address + length.setWidth 64 - 1).toNat = address.toNat + length.toNat - 1 := by bv_omega
  have cell : (source + BitVec.ofNat 64 index).toNat = source.toNat + index := by bv_omega
  simp only [rangesOverlap, Bool.and_eq_false_iff, decide_eq_false_iff_not, BitVec.not_le, BitVec.lt_def,
    last source first, last destination second] at disjoint
  rw [BitVec.toNat_sub, cell]
  omega

theorem positive_of_length {length : U32} (nonzero : length ≠ 0) : 0 < length.toNat :=
  Nat.pos_of_ne_zero fun zero => nonzero (BitVec.eq_of_toNat_eq zero)

/-- The checks that only reject are over when the command is accepted. -/
theorem of_rejects {rejects : Prop} [Decidable rejects] {error rest : U16} (real : error ≠ errNone)
    (accepted : (if rejects then error else rest) = errNone) : ¬rejects ∧ rest = errNone := by
  split at accepted
  · exact absurd accepted real
  next kept => exact ⟨kept, accepted⟩

theorem validated_of_ranges {submission : Submission} (payload : isPayloadOpcode submission.opcode = true)
    (valid : validateRanges submission = errNone) : Validated submission := by
  simp only [isPayloadOpcode, Bool.or_eq_true, beq_iff_eq] at payload
  unfold validateRanges at valid
  dsimp only at valid
  rcases payload with ((copies | fills) | checks) | adds
  · rw [copies, if_neg (by decide), if_pos rfl] at valid
    obtain ⟨lengths, valid⟩ := of_rejects (by decide) valid
    obtain ⟨fits, valid⟩ := of_rejects (by decide) valid
    obtain ⟨places, -⟩ := of_rejects (by decide) valid
    simp only [not_or, Bool.not_eq_true] at lengths fits places
    have positive := positive_of_length lengths.1
    exact ⟨positive, BitVec.le_def.mp (BitVec.not_lt.mp lengths.2), fun adds => absurd (copies.symm.trans adds) (by decide),
      fun _ => apart_of_disjoint positive fits.1 fits.2 places.2.2⟩
  · rw [fills, if_neg (by decide), if_neg (by decide), if_pos rfl] at valid
    obtain ⟨lengths, -⟩ := of_rejects (by decide) valid
    rw [not_or] at lengths
    refine ⟨positive_of_length lengths.1, BitVec.le_def.mp (BitVec.not_lt.mp lengths.2),
      fun adds => absurd (fills.symm.trans adds) (by decide), fun moves => ?_⟩
    rcases moves with copies | adds
    · exact absurd (fills.symm.trans copies) (by decide)
    · exact absurd (fills.symm.trans adds) (by decide)
  · rw [checks, if_neg (by decide), if_neg (by decide), if_neg (by decide), if_pos rfl] at valid
    obtain ⟨lengths, -⟩ := of_rejects (by decide) valid
    rw [not_or] at lengths
    refine ⟨positive_of_length lengths.1, BitVec.le_def.mp (BitVec.not_lt.mp lengths.2),
      fun adds => absurd (checks.symm.trans adds) (by decide), fun moves => ?_⟩
    rcases moves with copies | adds
    · exact absurd (checks.symm.trans copies) (by decide)
    · exact absurd (checks.symm.trans adds) (by decide)
  · rw [adds, if_neg (by decide), if_neg (by decide), if_neg (by decide), if_neg (by decide), if_pos rfl] at valid
    obtain ⟨lengths, valid⟩ := of_rejects (by decide) valid
    obtain ⟨-, valid⟩ := of_rejects (by decide) valid
    obtain ⟨-, valid⟩ := of_rejects (by decide) valid
    obtain ⟨fits, valid⟩ := of_rejects (by decide) valid
    obtain ⟨places, -⟩ := of_rejects (by decide) valid
    simp only [not_or, Bool.not_eq_true, ne_eq, not_not] at lengths fits places
    obtain ⟨some, bounded, aligned⟩ := lengths
    have positive : 0 < submission.length.toNat := by bv_omega
    have words : 4 ∣ submission.length.toNat := by
      have low := congrArg BitVec.toNat aligned
      rw [BitVec.toNat_and] at low
      exact Nat.dvd_of_mod_eq_zero ((Nat.and_two_pow_sub_one_eq_mod _ 2).symm.trans low)
    exact ⟨positive, BitVec.le_def.mp (BitVec.not_lt.mp bounded), fun _ => words,
      fun _ => apart_of_disjoint positive fits.1 fits.2 places⟩

theorem validated_of_accepted {submission : Submission} (payload : isPayloadOpcode submission.opcode = true)
    (valid : validateCommand submission = errNone) : Validated submission := by
  unfold validateCommand at valid
  dsimp only at valid
  obtain ⟨-, valid⟩ := of_rejects (by decide) valid
  obtain ⟨-, valid⟩ := of_rejects (by decide) valid
  obtain ⟨-, valid⟩ := of_rejects (by decide) valid
  obtain ⟨-, valid⟩ := of_rejects (by decide) valid
  obtain ⟨-, valid⟩ := of_rejects (by decide) valid
  obtain ⟨-, valid⟩ := of_rejects (by decide) valid
  exact validated_of_ranges payload valid

/-- The transfers of an accepted command, with the buffer that they need. -/
def payloadOutcome (host : Host σ) (s : State σ) (submission : Submission) : Except U16 U32 × State σ :=
  let buffer := tryMalloc host s (min submission.length.toNat dmaChunkSize)
  if !buffer.1 then (.error errEngine, buffer.2) else payloadTransfer host submission buffer.2

/-- The outcome of the transfers gives the completion. -/
def concludes (submission : Submission) (completion : Completion) : Except U16 U32 → Completion
  | .error error => completeDmaError completion error
  | .ok crc => payloadSuccess submission completion crc

theorem executePayload_eq (host : Host σ) (s : State σ) {submission : Submission} {completion : Completion}
    (payload : isPayloadOpcode submission.opcode = true) (valid : validateCommand submission = errNone)
    (status : completion.status = statusSuccess) :
    executePayload host s submission completion =
      (concludes submission completion (payloadOutcome host s submission).1,
        (payloadOutcome host s submission).2) := by
  unfold executePayload payloadOutcome
  dsimp only
  rw [if_neg (by simp [status, payload]), if_neg (by simp [valid])]
  split
  · rfl
  · split
    next error failed => rw [failed, concludes]
    next crc good => rw [good, concludes]

theorem runs_payloadOutcome {host : Host σ} {s : State σ} {submission : Submission} {scope : Attempt → Prop}
    (covers : Covers scope submission) (validated : Validated submission) :
    Runs host scope s (payloadOutcome host s submission) := by
  unfold payloadOutcome
  dsimp only
  cases buffer : (tryMalloc host s (min submission.length.toNat dmaChunkSize)).1 with
  | false => exact .refused (covers.allocate _) buffer
  | true =>
      have first : Runs host scope s (.ok (), (tryMalloc host s (min submission.length.toNat dmaChunkSize)).2) :=
        .granted (covers.allocate _) buffer ()
      exact first.bind nofun fun _ _ => runs_payloadTransfer covers validated.words

end VamsSoc.Pcie
