/-
This file says that a completion that waits is pending at the host, and that every source that becomes pending and
unmasked is notified.
-/

import VamsSoc.Proof.Endpoint.Configuration

namespace VamsSoc.Pcie
open Library Abi

variable {σ : Type}

/-- These sources share the second vector. -/
def eventSources : U32 := intrError ||| intrFwEvent ||| intrResetDone

/-- The status and the mask that the log shows; both registers start from their reset values. -/
def lastLevel : List MsixEvent → U32 × U32
  | [] => (0, intrDefined)
  | .level status mask :: _ => (status, mask)
  | _ :: older => lastLevel older

/-- The sources that were not pending and unmasked before and are so after. -/
def rises (before after : U32 × U32) : U32 := clearBits (clearBits after.1 after.2) (clearBits before.1 before.2)

/-- The answers have a notification on the vector of each source, or the dropped one of the completion queue. -/
structure Answered (sources : U32) (answers : List MsixEvent) : Prop where
  completion : hasBits sources intrCq = true → .notified 0 ∈ answers ∨ .dropped ∈ answers
  event : hasBits sources eventSources = true → .notified 1 ∈ answers

/-- In the log, newest entry first, every rise is answered before the registers are assigned again. -/
def Notified : List MsixEvent → List MsixEvent → Prop
  | _, [] => True
  | answers, .level status mask :: older => Answered (rises (lastLevel older) (status, mask)) answers ∧ Notified [] older
  | answers, entry :: older => Notified (entry :: answers) older

/-- The log agrees with the registers, and only a triggered fault drops a notification. -/
structure Audited (signals : Signals) : Prop where
  level : lastLevel signals.msix = (signals.intrStatus, signals.intrMask)
  notified : Notified [] signals.msix
  dropped : min (2 ^ 32 - 1) (signals.msix.count .dropped) ≤ signals.fault.count.toNat

/-- The completion queue and the interrupts of an endpoint that has not aborted. -/
structure Interrupting (s : State σ) : Prop where
  pending : s.signals.failed = [] → s.cq.head ≠ s.cq.tail → hasBits s.signals.intrStatus intrCq = true
  audited : Audited s.signals

theorem Answered.mono {sources : U32} {answers more : List MsixEvent} (answered : Answered sources answers)
    (inside : answers ⊆ more) : Answered sources more where
  completion risen := (answered.completion risen).imp (@inside _) (@inside _)
  event risen := inside (answered.event risen)

theorem Notified.mono {answers more log : List MsixEvent} (notified : Notified answers log) (inside : answers ⊆ more) :
    Notified more log := by
  induction log generalizing answers more with
  | nil => trivial
  | cons entry older ih =>
      cases entry with
      | level status mask => exact ⟨notified.1.mono inside, notified.2⟩
      | _ => exact ih notified (List.cons_subset_cons _ inside)

/-- The entries that answer an assignment. -/
def ReplyEntries (entries : List MsixEvent) : Prop := ∀ status mask, .level status mask ∉ entries

theorem lastLevel_entries {entries : List MsixEvent} (replies : ReplyEntries entries) (log : List MsixEvent) :
    lastLevel (entries ++ log) = lastLevel log := by
  induction entries with
  | nil => rfl
  | cons entry rest ih =>
      have kept := ih fun status mask listed => replies status mask (.tail _ listed)
      cases entry with
      | level status mask => exact absurd (.head _) (replies status mask)
      | _ => exact kept

theorem notified_entries {entries answers log : List MsixEvent} (replies : ReplyEntries entries)
    (notified : Notified (entries ++ answers) log) : Notified answers (entries ++ log) := by
  induction entries generalizing answers with
  | nil => exact notified
  | cons entry rest ih =>
      have kept : Notified (entry :: answers) (rest ++ log) := by
        refine ih (fun status mask listed => replies status mask (.tail _ listed)) (notified.mono ?_)
        intro listed member
        simp only [List.mem_append, List.mem_cons, List.cons_append] at member ⊢
        tauto
      cases entry with
      | level status mask => exact absurd (.head _) (replies status mask)
      | _ => exact kept

theorem Audited.clearPending {signals : Signals} (audited : Audited signals) (vector : Nat) :
    Audited (signals.log (.clearedPending vector)) where
  level := audited.level
  notified := audited.notified.mono (List.nil_subset _)
  dropped := by
    change min _ ((.clearedPending vector :: signals.msix).count .dropped) ≤ _
    rw [List.count_cons_of_ne (show MsixEvent.clearedPending vector ≠ .dropped from nofun)]
    exact audited.dropped

theorem rises_raised (status mask sources : U32) :
    rises (status, mask) (status ||| sources, mask) = clearBits (clearBits sources status) mask := by
  simp only [rises, clearBits]
  ext index inside
  simp only [BitVec.getElem_and, BitVec.getElem_or, BitVec.getElem_not]
  cases status[index] <;> cases mask[index] <;> simp

theorem rises_unmasked (status oldMask mask : U32) :
    rises (status, oldMask) (status, mask) = clearBits (status &&& oldMask) mask := by
  simp only [rises, clearBits]
  ext index inside
  simp only [BitVec.getElem_and, BitVec.getElem_not]
  cases status[index] <;> cases mask[index] <;> simp

theorem rises_cleared (status mask bits : U32) : rises (status, mask) (clearBits status bits, mask) = 0 := by
  simp only [rises, clearBits]
  ext index inside
  simp only [BitVec.getElem_and, BitVec.getElem_not]
  cases status[index] <;> cases mask[index] <;> simp

/-- The entries that `vams_pcie_notify` adds. -/
def notifications (deliver : U32) : List MsixEvent :=
  (if hasBits deliver eventSources then [.notified 1] else []) ++ (if hasBits deliver intrCq then [.notified 0] else [])

theorem notify_eq (signals : Signals) (pending : U32) :
    signals.notify pending = { signals with
      msix := notifications (clearBits pending signals.intrMask) ++ signals.msix } := rfl

theorem mem_notifications {deliver : U32} {entry : MsixEvent} (listed : entry ∈ notifications deliver) :
    ∃ vector, entry = .notified vector := by
  unfold notifications at listed
  split_ifs at listed <;> simp at listed <;> grind

theorem entries_notifications (deliver : U32) : ReplyEntries (notifications deliver) := by
  intro status mask listed
  obtain ⟨vector, same⟩ := mem_notifications listed
  nomatch same

theorem count_notifications (deliver : U32) : (notifications deliver).count .dropped = 0 := by
  refine List.count_eq_zero.mpr fun listed => ?_
  obtain ⟨vector, same⟩ := mem_notifications listed
  nomatch same

theorem answered_notifications (deliver : U32) : Answered deliver (notifications deliver) where
  completion risen := .inl (by simp [notifications, risen])
  event risen := by simp [notifications, risen]

/-- An assignment of the registers, the notifications that were dropped, and those that were sent extend the log. -/
theorem Audited.assign {signals next : Signals} (audited : Audited signals) {status mask : U32} (deliver : U32)
    (drops : Nat)
    (log : next.msix =
      notifications deliver ++ (List.replicate drops .dropped ++ .level status mask :: signals.msix))
    (registers : (next.intrStatus, next.intrMask) = (status, mask))
    (answered : Answered (rises (signals.intrStatus, signals.intrMask) (status, mask))
      (notifications deliver ++ List.replicate drops .dropped))
    (counted : min (2 ^ 32 - 1) (signals.msix.count .dropped + drops) ≤ next.fault.count.toNat) : Audited next := by
  have replies : ReplyEntries (notifications deliver ++ List.replicate drops .dropped) := by
    intro status mask listed
    rcases List.mem_append.mp listed with sent | dropped
    · exact entries_notifications deliver status mask sent
    · nomatch (List.mem_replicate.mp dropped).2
  rw [← List.append_assoc] at log
  constructor
  · rw [log, lastLevel_entries replies, registers, lastLevel]
  · rw [log]
    apply notified_entries replies
    rw [List.append_nil]
    exact ⟨audited.level ▸ answered, audited.notified⟩
  · have drop : next.msix.count .dropped = signals.msix.count .dropped + drops := by
      rw [log, List.count_append, List.count_append, count_notifications, List.count_replicate_self,
        List.count_cons_of_ne (show MsixEvent.level status mask ≠ .dropped from nofun)]
      omega
    rw [drop]
    exact counted

/-- Every source that rises is delivered. -/
theorem Audited.deliver {signals next : Signals} (audited : Audited signals) {status mask deliver : U32}
    (log : next.msix = notifications deliver ++ .level status mask :: signals.msix)
    (registers : (next.intrStatus, next.intrMask) = (status, mask))
    (risen : rises (signals.intrStatus, signals.intrMask) (status, mask) = deliver)
    (count : next.fault.count = signals.fault.count) : Audited next := by
  refine audited.assign deliver 0 log registers ?_ (count ▸ audited.dropped)
  rw [risen, List.replicate_zero, List.append_nil]
  exact answered_notifications deliver

/-- A fault that triggers is counted, and the interrupt registers stay. -/
structure Triggers (signals : Signals) (triggered : Bool) (next : Signals) : Prop where
  msix : next.msix = signals.msix
  status : next.intrStatus = signals.intrStatus
  mask : next.intrMask = signals.intrMask
  failed : next.failed = [] → signals.failed = []
  count : next.fault.count = if triggered then satInc signals.fault.count else signals.fault.count

theorem triggers_faultTrigger (signals : Signals) (fault : U32) :
    Triggers signals (signals.faultTrigger fault).1 (signals.faultTrigger fault).2 := by
  have checked (met : Bool) : Triggers signals false (signals.require .faultRemaining met) := by
    cases met
    · exact ⟨rfl, rfl, rfl, nofun, rfl⟩
    · exact ⟨rfl, rfl, rfl, id, rfl⟩
  unfold Signals.faultTrigger
  dsimp only
  split
  · exact ⟨rfl, rfl, rfl, id, rfl⟩
  · split
    · exact { checked _ with }
    · exact { checked _ with count := rfl }

theorem le_count_of_triggers {signals next : Signals} {triggered : Bool} (triggers : Triggers signals triggered next)
    {drops : Nat} (counted : min (2 ^ 32 - 1) drops ≤ signals.fault.count.toNat) :
    min (2 ^ 32 - 1) (drops + triggered.toNat) ≤ next.fault.count.toNat := by
  rw [triggers.count]
  cases triggered with
  | false => exact counted
  | true =>
      rw [if_pos rfl, toNat_satInc, Bool.toNat_true]
      omega

theorem Audited.faultTrigger {signals : Signals} (audited : Audited signals) (fault : U32) :
    Audited (signals.faultTrigger fault).2 := by
  have triggers := triggers_faultTrigger signals fault
  constructor
  · rw [triggers.msix, triggers.status, triggers.mask]
    exact audited.level
  · rw [triggers.msix]
    exact audited.notified
  · rw [triggers.msix]
    exact Nat.le_trans (by omega) (le_count_of_triggers triggers audited.dropped)

/-- What raising sources leaves in the registers, in the log, and in the assertions. -/
structure Raised (signals : Signals) (sources : U32) (next : Signals) : Prop where
  audited : Audited signals → Audited next
  status : next.intrStatus = signals.intrStatus ||| sources
  mask : next.intrMask = signals.intrMask
  failed : next.failed = [] → signals.failed = []

theorem raised_raiseInterrupt (signals : Signals) (sources : U32) :
    Raised signals sources (signals.raiseInterrupt sources) := by
  have risen := rises_raised signals.intrStatus signals.intrMask sources
  have triggers := triggers_faultTrigger (signals.setLevel (signals.intrStatus ||| sources) signals.intrMask)
    faultDropCqInterrupt
  unfold Signals.raiseInterrupt
  dsimp only
  generalize clearBits sources signals.intrStatus = newlyPending at risen ⊢
  generalize (signals.setLevel (signals.intrStatus ||| sources) signals.intrMask).faultTrigger
    faultDropCqInterrupt = outcome at triggers ⊢
  obtain ⟨triggered, next⟩ := outcome
  have level : next.msix = .level (signals.intrStatus ||| sources) signals.intrMask :: signals.msix := triggers.msix
  have registers : (next.intrStatus, next.intrMask) = (signals.intrStatus ||| sources, signals.intrMask) :=
    Prod.ext triggers.status triggers.mask
  split
  · cases triggered with
    | true =>
        refine ⟨fun audited => ?_, triggers.status, triggers.mask, triggers.failed⟩
        refine audited.assign (clearBits (clearBits newlyPending intrCq) signals.intrMask) 1 ?_ registers ?_
          (le_count_of_triggers triggers audited.dropped)
        · rw [if_pos rfl, notify_eq]
          change notifications (clearBits _ next.intrMask) ++ .dropped :: next.msix = _
          rw [level, show next.intrMask = signals.intrMask from triggers.mask]
          rfl
        · -- The dropped notification answers for the completion queue, and the other sources are still delivered.
          refine ⟨fun _ => .inr (by simp), fun event => List.mem_append_left _ ?_⟩
          apply (answered_notifications _).event
          rw [risen] at event
          rw [clearBits_comm, hasBits_clearBits _ (by decide)]
          exact event
    | false =>
        refine ⟨fun audited => ?_, triggers.status, triggers.mask, triggers.failed⟩
        refine audited.deliver ?_ registers risen triggers.count
        rw [if_neg Bool.false_ne_true, notify_eq]
        change notifications (clearBits _ next.intrMask) ++ next.msix = _
        rw [level, show next.intrMask = signals.intrMask from triggers.mask]
  · refine ⟨fun audited => ?_, rfl, rfl, id⟩
    exact audited.deliver rfl rfl risen rfl

theorem Audited.setLevel {signals : Signals} (audited : Audited signals) {status mask : U32}
    (fallen : rises (signals.intrStatus, signals.intrMask) (status, mask) = 0) :
    Audited (signals.setLevel status mask) :=
  audited.deliver rfl rfl fallen rfl

theorem Audited.setMask {signals : Signals} (audited : Audited signals) (mask : U32) :
    Audited (signals.setMask signals.intrMask mask) := by
  refine audited.deliver rfl rfl ?_ rfl
  rw [rises_unmasked]
  exact (clearBits_cleared _ _).symm

theorem rises_zero (before : U32 × U32) (mask : U32) : rises before (0, mask) = 0 := by
  simp [rises, clearBits]

theorem CompletionQueue.ends_updateBackpressure (queue : CompletionQueue) :
    queue.updateBackpressure.head = queue.head ∧ queue.updateBackpressure.tail = queue.tail := by
  unfold updateBackpressure
  dsimp only
  split_ifs <;> exact ⟨rfl, rfl⟩

/-- A queue that meets its assertions has a ring and a tail inside it. -/
theorem CompletionQueue.ring_of_assertions {queue : CompletionQueue} (nonzero : queue.depth ≠ 0)
    (met : ∀ assertion ∈ queue.assertions, assertion.2 = true) :
    isPowerOf2 queue.depth = true ∧ queue.tail < queue.depth := by
  have listed : (.cqDepthPowerOf2, queue.depth &&& (queue.depth - 1) == 0) ∈ queue.assertions ∧
      (.cqTailInside, decide (queue.tail < queue.depth)) ∈ queue.assertions := by
    unfold assertions
    rw [if_neg nonzero]
    split <;> simp
  have power := met _ listed.1
  have inside := met _ listed.2
  refine ⟨?_, by simpa using inside⟩
  rw [isPowerOf2, Bool.and_eq_true]
  exact ⟨bne_iff_ne.mpr nonzero, power⟩

theorem assertions_of_unviolated {s : State σ} (unviolated : violations s = []) :
    ∀ assertion ∈ s.cq.assertions, assertion.2 = true := by
  intro assertion listed
  have kept := List.filter_eq_nil_iff.mp (List.map_eq_nil_iff.mp unviolated) assertion
    (List.mem_append_left _ (List.mem_append_right _ listed))
  simpa using kept

namespace Interrupting

variable {s : State σ}

theorem raiseInterrupt (interrupting : Interrupting s) (sources : U32) : Interrupting (raiseInterrupt s sources) := by
  have raised := raised_raiseInterrupt s.signals sources
  refine ⟨fun clean waiting => ?_, raised.audited interrupting.audited⟩
  have pending := interrupting.pending (raised.failed clean) waiting
  change hasBits (s.signals.raiseInterrupt sources).intrStatus intrCq = true
  rw [raised.status]
  exact hasBits_or_of_hasBits pending sources

theorem setError (interrupting : Interrupting s) (error : U32) : Interrupting (setError s error) :=
  raiseInterrupt (s := s.setSignals { s.signals with errorStatus := s.signals.errorStatus ||| error })
    ⟨interrupting.pending, { interrupting.audited with }⟩ intrError

theorem reportReserved (interrupting : Interrupting s) (value defined : U32) :
    Interrupting (reportReserved s value defined) := by
  unfold Pcie.reportReserved
  split
  · exact interrupting.setError _
  · exact interrupting

/-- A source of the completion queue that was just raised is pending whatever was before. -/
theorem of_raised (audited : Audited s.signals) : Interrupting (Pcie.raiseInterrupt s intrCq) := by
  have raised := raised_raiseInterrupt s.signals intrCq
  refine ⟨fun _ _ => ?_, raised.audited audited⟩
  change hasBits (s.signals.raiseInterrupt intrCq).intrStatus intrCq = true
  rw [raised.status]
  exact hasBits_set _ (by decide)

theorem checkInvariants (interrupting : Interrupting s) : Interrupting (checkInvariants s) :=
  ⟨fun clean => interrupting.pending (List.append_eq_nil_iff.mp clean).2, { interrupting.audited with }⟩

/-- A write that acknowledges the completion queue raises it again while a completion waits. -/
theorem writeIntrStatus (interrupting : Interrupting s) (value : U32) : Interrupting (writeIntrStatus s value) := by
  have audited := interrupting.audited.setLevel
    (rises_cleared s.signals.intrStatus s.signals.intrMask (value &&& intrDefined))
  unfold Pcie.writeIntrStatus
  dsimp only
  split
  · apply of_raised
    unfold Pcie.reportReserved
    split
    · exact (raised_raiseInterrupt _ intrError).audited { audited with }
    · exact audited
  next kept =>
    have cleared : Interrupting (s.setSignals
        (s.signals.setLevel (clearBits s.signals.intrStatus (value &&& intrDefined)) s.signals.intrMask)) := by
      refine ⟨fun clean waiting => ?_, audited⟩
      have pending := interrupting.pending clean waiting
      have apart : value &&& intrDefined &&& intrCq = 0 := by
        have unasked : hasBits value intrCq = false := by
          have differs : s.cq.head ≠ s.cq.tail := waiting
          simpa [differs] using kept
        have none : value &&& intrCq = 0 := by simpa [hasBits] using unasked
        rw [BitVec.and_assoc, BitVec.and_comm intrDefined, ← BitVec.and_assoc, none]
        decide
      change hasBits (clearBits s.signals.intrStatus (value &&& intrDefined)) intrCq = true
      rw [hasBits_clearBits _ apart]
      exact pending
    exact cleared.reportReserved value intrDefined

theorem writeIntrMask (interrupting : Interrupting s) (value : U32) : Interrupting (writeIntrMask s value) := by
  have reported := interrupting.reportReserved value intrDefined
  have mask : (Pcie.reportReserved s value intrDefined).signals.intrMask = s.signals.intrMask := by
    unfold Pcie.reportReserved
    split
    · exact (raised_raiseInterrupt _ intrError).mask
    · rfl
  refine ⟨reported.pending, ?_⟩
  have masked := reported.audited.setMask (value &&& intrDefined)
  rw [mask] at masked
  exact masked

theorem publishCompletion (interrupting : Interrupting s) (host : Host σ) (completion : Completion) :
    Interrupting (publishCompletion host s completion).2 := by
  have checked (met : Bool) : Interrupting (require (Pcie.checkInvariants s) .publishRoom met) := by
    cases met with
    | true => exact interrupting.checkInvariants
    | false => exact ⟨nofun, { interrupting.audited with }⟩
  unfold Pcie.publishCompletion
  dsimp only
  split
  · refine checkInvariants (of_raised ?_)
    exact (checked _).audited
  · refine setError ⟨?_, ?_⟩ _
    · exact (checked _).pending
    · exact (checked _).audited

/-- A ring that has nothing to consume accepts only the head that it has. -/
theorem consume (interrupting : Interrupting s) {value : U32} (inside : value < s.cq.depth)
    (advance : (value - s.cq.head) &&& (s.cq.depth - 1) ≤ (s.cq.tail - s.cq.head) &&& (s.cq.depth - 1)) :
    Interrupting (Pcie.checkInvariants (s.setCq (s.cq.consume value).updateBackpressure)) := by
  refine ⟨fun clean waiting => ?_, { interrupting.audited with }⟩
  obtain ⟨unviolated, unfailed⟩ := List.append_eq_nil_iff.mp clean
  by_cases empty : s.cq.head = s.cq.tail
  · have nonzero : s.cq.depth ≠ 0 := fun zero => by simp [zero] at inside
    obtain ⟨head, tail⟩ := (s.cq.consume value).ends_updateBackpressure
    have ring := CompletionQueue.ring_of_assertions
      ((s.cq.consume value).depth_updateBackpressure.trans_ne nonzero) (assertions_of_unviolated unviolated)
    rw [tail, CompletionQueue.depth_updateBackpressure] at ring
    obtain ⟨power, tailInside⟩ := ring
    have same : s.cq.head = value := by
      refine eq_of_distance_zero power (empty ▸ tailInside) inside ?_
      rw [empty] at advance ⊢
      rw [BitVec.sub_self, BitVec.zero_and] at advance
      have none := BitVec.le_def.mp advance
      exact Nat.le_zero.mp none
    refine absurd ?_ waiting
    change (s.cq.consume value).updateBackpressure.head = (s.cq.consume value).updateBackpressure.tail
    rw [head, tail]
    exact same ▸ empty
  · exact interrupting.pending unfailed empty

end Interrupting

theorem interrupting_stable (host : Host σ) (origin : State σ) : Stable host origin Interrupting where
  inside s next inside interrupting := by
    constructor
    · rw [inside.signals, inside.cq]
      exact interrupting.pending
    · rw [inside.signals]
      exact interrupting.audited
  failed s failed interrupting := by
    refine ⟨fun clean => ?_, { interrupting.audited with }⟩
    exact interrupting.pending (List.append_eq_nil_iff.mp clean).2
  errorStatus s errorStatus interrupting := ⟨interrupting.pending, { interrupting.audited with }⟩
  coalesce s intrCoalesce interrupting := ⟨interrupting.pending, { interrupting.audited with }⟩
  fault s fault kept interrupting := by
    refine ⟨interrupting.pending, { interrupting.audited with dropped := ?_ }⟩
    change _ ≤ fault.count.toNat
    rw [kept]
    exact interrupting.audited.dropped
  trigger s fault interrupting := by
    have triggers := triggers_faultTrigger s.signals fault
    refine ⟨fun clean waiting => ?_, interrupting.audited.faultTrigger fault⟩
    have pending := interrupting.pending (triggers.failed clean) waiting
    rw [← triggers.status] at pending
    exact pending
  raise s sources interrupting := interrupting.raiseInterrupt sources
  acknowledge s value interrupting := interrupting.writeIntrStatus value
  mask s value interrupting := interrupting.writeIntrMask value
  publish s completion interrupting := interrupting.publishCompletion host completion
  send s kind bytes _ _ interrupting := by
    unfold chrWriteAll
    split
    · exact ⟨interrupting.pending, interrupting.audited⟩
    · exact interrupting
  clearQueues s interrupting := by
    refine ⟨fun _ waiting => absurd rfl waiting, ?_⟩
    exact (interrupting.audited.setLevel (rises_cleared _ _ _)).clearPending 0
  clearDevice s interrupting := by
    refine ⟨fun _ waiting => absurd rfl waiting, ?_⟩
    have cleared : Audited { s.signals with
        errorStatus := s.signals.errorStatus &&& errorFatal
        intrCoalesce := 1
        fault := { s.signals.fault with control := 0, arg := 0, remaining := 0 } } := { interrupting.audited with }
    exact ((cleared.setLevel (rises_zero _ intrDefined)).clearPending 0).clearPending 1
  resetDone s _ interrupting := ⟨interrupting.pending, interrupting.audited⟩
  control s control _ interrupting := ⟨interrupting.pending, interrupting.audited⟩
  sqConfigure s sq _ _ _ interrupting := ⟨interrupting.pending, interrupting.audited⟩
  sqEnable s control _ _ _ _ interrupting := by
    unfold updateQueueReady
    split <;> exact ⟨interrupting.pending, interrupting.audited⟩
  cqMark s interrupting := ⟨interrupting.pending, interrupting.audited⟩
  cqConfigure s cq _ _ head tail _ interrupting := by
    refine ⟨fun clean waiting => interrupting.pending clean ?_, interrupting.audited⟩
    rw [← head, ← tail]
    exact waiting
  cqConsume s value inside advance interrupting := interrupting.consume inside advance
  cqEnable s control _ _ _ _ interrupting := by
    have enabled : Interrupting (s.setCq (s.cq.enable control).updateBackpressure) := by
      refine ⟨fun clean waiting => interrupting.pending clean ?_, interrupting.audited⟩
      obtain ⟨head, tail⟩ := (s.cq.enable control).ends_updateBackpressure
      have kept : (s.cq.enable control).head = s.cq.head ∧ (s.cq.enable control).tail = s.cq.tail := by
        unfold CompletionQueue.enable
        dsimp only
        split <;> exact ⟨rfl, rfl⟩
      rw [← kept.1, ← kept.2, ← head, ← tail]
      exact waiting
    unfold updateQueueReady
    split <;> exact ⟨enabled.pending, enabled.audited⟩

theorem Interrupting.step {s next : State σ} (interrupting : Interrupting s) (host : Host σ) {event : Event}
    (stepped : step host s event = some next) : Interrupting next := by
  refine (interrupting_stable host s).always (fun completion t _ held => ?_) (fun t held bridge _ _ => ?_) interrupting
    stepped fun _ t _ held _ => ?_
  · unfold chrWriteAll
    split
    · exact ⟨held.pending, held.audited⟩
    · exact held
  · exact ⟨held.pending, held.audited⟩
  · exact ⟨held.pending, held.audited⟩

theorem interrupting_powerOn (debugEnabled connected : Bool) (memory : σ) :
    Interrupting (powerOn debugEnabled connected memory) where
  pending _ waiting := absurd rfl waiting
  audited := ⟨rfl, trivial, Nat.zero_le _⟩

/-- In every run a completion that waits is pending, and every source that becomes pending and unmasked is notified. -/
theorem interrupting_always (host : Host σ) (debugEnabled connected : Bool) (memory : σ) (events : List Event) :
    (step host).Always Interrupting (powerOn debugEnabled connected memory) events :=
  EventMachine.always_of_step (fun _ _ _ interrupting stepped => interrupting.step host stepped)
    (interrupting_powerOn debugEnabled connected memory) events

end VamsSoc.Pcie
