/-
This file shows that a queue runs only with a valid configuration, and that nothing changes it while it runs.
-/

import VamsSoc.Proof.Endpoint.CommandOwnership
import VamsSoc.Proof.Endpoint.Stability

namespace VamsSoc.Pcie
open Library Abi

variable {σ : Type}

/-- An enabled queue has an aligned base and a depth that is a power of two in range. -/
structure Usable (base : U64) (depth : U32) : Prop where
  placed : base ≠ 0
  aligned : 64 ∣ base.toNat
  minimum : 16 ≤ depth.toNat
  maximum : depth.toNat ≤ 1024
  power : ∃ exponent, depth.toNat = 2 ^ exponent

/-- The device runs only with both queues enabled, and a device that is resetting has nothing in flight. -/
structure Gated (s : State σ) : Prop where
  device : hasBits s.device.control controlEnable = true →
    hasBits s.sq.control queueEnable = true ∧ hasBits s.cq.control queueEnable = true
  sq : hasBits s.sq.control queueEnable = true → Usable s.sq.base s.sq.depth
  cq : hasBits s.cq.control queueEnable = true → Usable s.cq.base s.cq.depth
  ready : hasBits s.device.status statusQueuesReady = true ↔
    hasBits s.sq.control queueEnable = true ∧ hasBits s.cq.control queueEnable = true
  resetting : hasBits s.device.status statusResetting = true →
    hasBits s.sq.control queueEnable = false ∧ hasBits s.cq.control queueEnable = false ∧
      s.bridge.inflight = false ∧ s.engine.inflight = false

/-- A queue that is enabled before and after a step has the same base, depth, and watermark. -/
structure KeepsConfiguration (s next : State σ) : Prop where
  sq : hasBits s.sq.control queueEnable = true → hasBits next.sq.control queueEnable = true →
    next.sq.base = s.sq.base ∧ next.sq.depth = s.sq.depth
  cq : hasBits s.cq.control queueEnable = true → hasBits next.cq.control queueEnable = true →
    next.cq.base = s.cq.base ∧ next.cq.depth = s.cq.depth ∧
      next.cq.watermarkHigh = s.cq.watermarkHigh ∧ next.cq.watermarkLow = s.cq.watermarkLow

/-- What the registers of the device and of the two queues say of each other. -/
structure Gates (device : Device) (sq : SubmissionQueue) (cq : CompletionQueue) : Prop where
  running : hasBits device.control controlEnable = true →
    hasBits sq.control queueEnable = true ∧ hasBits cq.control queueEnable = true
  sqConfigured : Configured sq.base sq.depth
  cqConfigured : Configured cq.base cq.depth
  sqUsable : hasBits sq.control queueEnable = true → sq.base ≠ 0 ∧ validDepth sq.depth = true
  cqUsable : hasBits cq.control queueEnable = true → cq.base ≠ 0 ∧ validDepth cq.depth = true ∧ cq.watermarkHigh ≠ 0
  ready : hasBits device.status statusQueuesReady = true ↔
    hasBits sq.control queueEnable = true ∧ hasBits cq.control queueEnable = true
  timed : hasBits device.status statusResetting = true ↔ device.resetTimer ≠ none
  resetting : hasBits device.status statusResetting = true →
    hasBits sq.control queueEnable = false ∧ hasBits cq.control queueEnable = false

theorem usable_of_configured {base : U64} {depth : U32} (configured : Configured base depth) (some : base ≠ 0)
    (valid : validDepth depth = true) : Usable base depth := by
  have aligned : base &&& 63 = 0 := by simpa [hasBits] using configured.1
  simp only [validDepth, Bool.and_eq_true, decide_eq_true_eq] at valid
  obtain ⟨⟨minimum, maximum⟩, power⟩ := valid
  refine ⟨some, ?_, minimum, maximum, exists_pow_of_isPowerOf2 power⟩
  have masked := congrArg BitVec.toNat aligned
  rw [BitVec.toNat_and] at masked
  have low : base.toNat % 2 ^ 6 = 0 := (Nat.and_two_pow_sub_one_eq_mod _ 6).symm.trans masked
  exact Nat.dvd_of_mod_eq_zero low

namespace Gates

variable {device : Device} {sq : SubmissionQueue} {cq : CompletionQueue}

/-- A part that keeps what the gates read keeps the gates. -/
theorem of_same (gates : Gates device sq cq) {nextDevice : Device} {nextSq : SubmissionQueue} {nextCq : CompletionQueue}
    (control : nextDevice.control = device.control) (timer : nextDevice.resetTimer = device.resetTimer)
    (status : clearBits nextDevice.status statusEngineBusy = clearBits device.status statusEngineBusy)
    (sqBase : nextSq.base = sq.base) (sqDepth : nextSq.depth = sq.depth) (sqControl : nextSq.control = sq.control)
    (cqBase : nextCq.base = cq.base) (cqDepth : nextCq.depth = cq.depth) (cqControl : nextCq.control = cq.control)
    (watermark : nextCq.watermarkHigh = cq.watermarkHigh) : Gates nextDevice nextSq nextCq := by
  have bit (mask : U32) (apart : statusEngineBusy &&& mask = 0) :
      hasBits nextDevice.status mask = hasBits device.status mask := by
    rw [← hasBits_clearBits nextDevice.status apart, status, hasBits_clearBits _ apart]
  have ready := bit statusQueuesReady (by decide)
  have resetting := bit statusResetting (by decide)
  constructor
  · rw [control, sqControl, cqControl]; exact gates.running
  · rw [sqBase, sqDepth]; exact gates.sqConfigured
  · rw [cqBase, cqDepth]; exact gates.cqConfigured
  · rw [sqControl, sqBase, sqDepth]; exact gates.sqUsable
  · rw [cqControl, cqBase, cqDepth, watermark]; exact gates.cqUsable
  · rw [ready, sqControl, cqControl]; exact gates.ready
  · rw [resetting, timer]; exact gates.timed
  · rw [resetting, sqControl, cqControl]; exact gates.resetting

/-- A disabled queue may be set up as long as it stays disabled. -/
theorem configureSq (gates : Gates device sq cq) {next : SubmissionQueue} (disabled : hasBits sq.control queueEnable = false)
    (control : next.control = sq.control) (configured : Configured sq.base sq.depth → Configured next.base next.depth) :
    Gates device next cq where
  running := by rw [control]; exact gates.running
  sqConfigured := configured gates.sqConfigured
  cqConfigured := gates.cqConfigured
  sqUsable enabled := absurd ((control ▸ disabled).symm.trans enabled) Bool.false_ne_true
  cqUsable := gates.cqUsable
  ready := by rw [control]; exact gates.ready
  timed := gates.timed
  resetting := by rw [control]; exact gates.resetting

theorem configureCq (gates : Gates device sq cq) {next : CompletionQueue} (disabled : hasBits cq.control queueEnable = false)
    (control : next.control = cq.control) (configured : Configured cq.base cq.depth → Configured next.base next.depth) :
    Gates device sq next where
  running := by rw [control]; exact gates.running
  sqConfigured := gates.sqConfigured
  cqConfigured := configured gates.cqConfigured
  sqUsable := gates.sqUsable
  cqUsable enabled := absurd ((control ▸ disabled).symm.trans enabled) Bool.false_ne_true
  ready := by rw [control]; exact gates.ready
  timed := gates.timed
  resetting := by rw [control]; exact gates.resetting

theorem reset_queues (gates : Gates device sq cq) {next : Device}
    (control : hasBits next.control controlEnable = false) (timer : next.resetTimer = device.resetTimer)
    (resetting : hasBits next.status statusResetting = hasBits device.status statusResetting)
    (unready : hasBits next.status statusQueuesReady = false) {nextSq : SubmissionQueue} {nextCq : CompletionQueue}
    (sqBase : nextSq.base = sq.base) (sqDepth : nextSq.depth = sq.depth) (sqControl : nextSq.control = 0)
    (cqBase : nextCq.base = cq.base) (cqDepth : nextCq.depth = cq.depth) (cqControl : nextCq.control = 0) :
    Gates next nextSq nextCq := by
  have off : hasBits (0 : U32) queueEnable = false := hasBits_zero _
  constructor
  · intro enabled
    exact absurd (control.symm.trans enabled) Bool.false_ne_true
  · rw [sqBase, sqDepth]; exact gates.sqConfigured
  · rw [cqBase, cqDepth]; exact gates.cqConfigured
  · rw [sqControl, off]; exact nofun
  · rw [cqControl, off]; exact nofun
  · rw [unready, sqControl, off]; simp
  · rw [resetting, timer]; exact gates.timed
  · rw [sqControl, cqControl]; exact fun _ => ⟨off, off⟩

/-- Blank queues are off, so only the status of the device is left to the gates. -/
theorem blank (control : device.control = 0) (sqBlank : sq.base = 0 ∧ sq.depth = 0 ∧ sq.control = 0)
    (cqBlank : cq.base = 0 ∧ cq.depth = 0 ∧ cq.control = 0) (unready : hasBits device.status statusQueuesReady = false)
    (timed : hasBits device.status statusResetting = true ↔ device.resetTimer ≠ none) : Gates device sq cq := by
  obtain ⟨sqBase, sqDepth, sqControl⟩ := sqBlank
  obtain ⟨cqBase, cqDepth, cqControl⟩ := cqBlank
  have unset : Configured 0 0 := ⟨hasBits_zero _, .inl rfl⟩
  constructor
  · rw [control, hasBits_zero]; exact nofun
  · rw [sqBase, sqDepth]; exact unset
  · rw [cqBase, cqDepth]; exact unset
  · rw [sqControl, hasBits_zero]; exact nofun
  · rw [cqControl, hasBits_zero]; exact nofun
  · rw [unready, sqControl, hasBits_zero]; simp
  · exact timed
  · rw [sqControl, cqControl, hasBits_zero]; exact fun _ => ⟨rfl, rfl⟩

/-- The ready bit and the enable bit of the device follow the two queues. -/
theorem updateReady {s : State σ} (configured : Configured s.sq.base s.sq.depth ∧ Configured s.cq.base s.cq.depth)
    (sqUsable : hasBits s.sq.control queueEnable = true → s.sq.base ≠ 0 ∧ validDepth s.sq.depth = true)
    (cqUsable : hasBits s.cq.control queueEnable = true →
      s.cq.base ≠ 0 ∧ validDepth s.cq.depth = true ∧ s.cq.watermarkHigh ≠ 0)
    (idle : hasBits s.device.status statusResetting = false) (timer : s.device.resetTimer = none) :
    Gates (updateQueueReady s).device (updateQueueReady s).sq (updateQueueReady s).cq := by
  unfold updateQueueReady
  split
  · next both =>
      rw [Bool.and_eq_true] at both
      have calm : hasBits (s.device.status ||| statusQueuesReady) statusResetting = false :=
        (hasBits_or _ (by decide)).trans idle
      refine ⟨fun _ => both, configured.1, configured.2, sqUsable, cqUsable, ?_, ?_, ?_⟩
      · exact iff_of_true (hasBits_set _ (by decide)) both
      · exact iff_of_false (fun busy => absurd (calm.symm.trans busy) Bool.false_ne_true) fun armed => armed timer
      · exact fun busy => absurd (calm.symm.trans busy) Bool.false_ne_true
  · next one =>
      rw [Bool.and_eq_true] at one
      have calm : hasBits (clearBits s.device.status statusQueuesReady) statusResetting = false :=
        (hasBits_clearBits _ (by decide)).trans idle
      refine ⟨?_, configured.1, configured.2, sqUsable, cqUsable, ?_, ?_, ?_⟩
      · exact fun enabled => absurd ((hasBits_cleared _ _).symm.trans enabled) Bool.false_ne_true
      · exact iff_of_false (fun ready => absurd ((hasBits_cleared _ _).symm.trans ready) Bool.false_ne_true) one
      · exact iff_of_false (fun busy => absurd (calm.symm.trans busy) Bool.false_ne_true) fun armed => armed timer
      · exact fun busy => absurd (calm.symm.trans busy) Bool.false_ne_true

end Gates

/-- The registers that set up the queue are the same. -/
structure CompletionQueue.SameSetup (queue next : CompletionQueue) : Prop where
  base : next.base = queue.base
  depth : next.depth = queue.depth
  control : next.control = queue.control
  high : next.watermarkHigh = queue.watermarkHigh
  low : next.watermarkLow = queue.watermarkLow

theorem CompletionQueue.sameSetup_updateBackpressure (queue : CompletionQueue) :
    queue.SameSetup queue.updateBackpressure := by
  unfold updateBackpressure
  dsimp only
  split_ifs <;> exact ⟨rfl, rfl, rfl, rfl, rfl⟩

theorem CompletionQueue.SameSetup.updateBackpressure {queue next : CompletionQueue} (same : queue.SameSetup next) :
    queue.SameSetup next.updateBackpressure := by
  have updated := next.sameSetup_updateBackpressure
  exact ⟨updated.base.trans same.base, updated.depth.trans same.depth, updated.control.trans same.control,
    updated.high.trans same.high, updated.low.trans same.low⟩

theorem Gates.sameSetup {device : Device} {sq : SubmissionQueue} {cq next : CompletionQueue} (gates : Gates device sq cq)
    (same : cq.SameSetup next) : Gates device sq next :=
  gates.of_same rfl rfl rfl rfl rfl rfl same.base same.depth same.control same.high

theorem KeepsConfiguration.of_queues {origin s next : State σ} (keeps : KeepsConfiguration origin s)
    (base : next.sq.base = s.sq.base) (depth : next.sq.depth = s.sq.depth) (control : next.sq.control = s.sq.control)
    (cq : s.cq.SameSetup next.cq) : KeepsConfiguration origin next where
  sq before after := by
    rw [base, depth]
    exact keeps.sq before (control ▸ after)
  cq before after := by
    rw [cq.base, cq.depth, cq.high, cq.low]
    exact keeps.cq before (cq.control ▸ after)

/-- A queue that is off keeps no configuration. -/
theorem KeepsConfiguration.of_disabled {origin next : State σ} (sq : hasBits next.sq.control queueEnable = false)
    (cq : hasBits next.cq.control queueEnable = false) : KeepsConfiguration origin next where
  sq _ enabled := absurd (sq.symm.trans enabled) Bool.false_ne_true
  cq _ enabled := absurd (cq.symm.trans enabled) Bool.false_ne_true

/-- This is what a step from the origin keeps. -/
def Configures (origin s : State σ) : Prop := Gates s.device s.sq s.cq ∧ KeepsConfiguration origin s

theorem Configures.of_parts {origin s next : State σ} (configures : Configures origin s) (device : next.device = s.device)
    (sq : next.sq = s.sq) (cq : s.cq.SameSetup next.cq) : Configures origin next := by
  refine ⟨?_, configures.2.of_queues (by rw [sq]) (by rw [sq]) (by rw [sq]) cq⟩
  rw [device, sq]
  exact configures.1.sameSetup cq

theorem CompletionQueue.SameSetup.refl (queue : CompletionQueue) : queue.SameSetup queue := ⟨rfl, rfl, rfl, rfl, rfl⟩

theorem publishCompletion_setup (host : Host σ) (s : State σ) (completion : Completion) :
    (publishCompletion host s completion).2.device = s.device ∧ (publishCompletion host s completion).2.sq = s.sq ∧
      s.cq.SameSetup (publishCompletion host s completion).2.cq := by
  have advanced : s.cq.SameSetup s.cq.advance := ⟨rfl, rfl, rfl, rfl, rfl⟩
  unfold publishCompletion
  dsimp only
  split
  · exact ⟨rfl, rfl, advanced.updateBackpressure⟩
  · exact ⟨rfl, rfl, ⟨rfl, rfl, rfl, rfl, rfl⟩⟩

theorem chrWriteAll_setup (s : State σ) (kind : FrameKind) (bytes : List U8) :
    (chrWriteAll s kind bytes).2.device = s.device ∧ (chrWriteAll s kind bytes).2.sq = s.sq ∧
      (chrWriteAll s kind bytes).2.cq = s.cq := by
  unfold chrWriteAll
  split <;> exact ⟨rfl, rfl, rfl⟩

/-- The interrupt registers are no part of the configuration. -/
theorem writeIntr_setup (s : State σ) (value : U32) :
    ((writeIntrStatus s value).device = s.device ∧ (writeIntrStatus s value).sq = s.sq ∧
      (writeIntrStatus s value).cq = s.cq) ∧
    ((writeIntrMask s value).device = s.device ∧ (writeIntrMask s value).sq = s.sq ∧ (writeIntrMask s value).cq = s.cq) := by
  unfold writeIntrStatus writeIntrMask reportReserved
  dsimp only
  constructor
  · split <;> split <;> exact ⟨rfl, rfl, rfl⟩
  · split <;> exact ⟨rfl, rfl, rfl⟩

theorem Gates.idle_timer {device : Device} {sq : SubmissionQueue} {cq : CompletionQueue} (gates : Gates device sq cq)
    (idle : hasBits device.status statusResetting = false) : device.resetTimer = none := by
  by_contra armed
  exact absurd (idle.symm.trans (gates.timed.mpr armed)) Bool.false_ne_true

theorem updateQueueReady_queues (s : State σ) : (updateQueueReady s).sq = s.sq ∧ (updateQueueReady s).cq = s.cq := by
  unfold updateQueueReady
  split <;> exact ⟨rfl, rfl⟩

theorem validDepth_pred_ne_zero {depth : U32} (valid : validDepth depth = true) : depth - 1 ≠ 0 := by
  simp only [validDepth, Bool.and_eq_true, decide_eq_true_eq, queueMinDepth] at valid
  intro none
  have one : depth = 1 := by
    change depth - 1#32 = 0#32 at none
    change depth = 1#32
    bv_omega
  rw [one] at valid
  exact absurd valid.1.1 (by decide)

/-- Enabling the queue installs a watermark only where there is none. -/
theorem CompletionQueue.enable_setup (queue : CompletionQueue) (control : U32) :
    (queue.enable control).base = queue.base ∧ (queue.enable control).depth = queue.depth ∧
      (queue.enable control).control = control ∧
      (queue.watermarkHigh ≠ 0 → (queue.enable control).watermarkHigh = queue.watermarkHigh ∧
        (queue.enable control).watermarkLow = queue.watermarkLow) ∧
      (control ≠ 0 → queue.watermarkHigh = 0 → (queue.enable control).watermarkHigh = queue.depth - 1) := by
  unfold enable
  dsimp only
  split
  · next installs =>
      simp only [Bool.and_eq_true, bne_iff_ne, beq_iff_eq] at installs
      exact ⟨rfl, rfl, rfl, fun some => absurd installs.2 some, fun _ _ => rfl⟩
  · next kept =>
      simp only [Bool.and_eq_true, bne_iff_ne, beq_iff_eq, not_and] at kept
      exact ⟨rfl, rfl, rfl, fun _ => ⟨rfl, rfl⟩, fun some none => absurd none (kept some)⟩

/-- A queue that may be enabled has a watermark once it is. -/
theorem CompletionQueue.usable_enable {queue : CompletionQueue} {control : U32}
    (usable : hasBits control queueEnable = true → queue.base ≠ 0 ∧ validDepth queue.depth = true)
    (on : hasBits (queue.enable control).control queueEnable = true) :
    (queue.enable control).base ≠ 0 ∧ validDepth (queue.enable control).depth = true ∧
      (queue.enable control).watermarkHigh ≠ 0 := by
  obtain ⟨base, depth, enabled, kept, installed⟩ := queue.enable_setup control
  rw [enabled] at on
  obtain ⟨placed, valid⟩ := usable on
  rw [base, depth]
  refine ⟨placed, valid, ?_⟩
  by_cases bare : queue.watermarkHigh = 0
  · have used : control ≠ 0 := by
      rintro rfl
      exact absurd ((hasBits_zero _).symm.trans on) Bool.false_ne_true
    rw [installed used bare]
    exact validDepth_pred_ne_zero valid
  · rw [(kept bare).1]
    exact bare

namespace Configures
variable {origin s : State σ} (configures : Configures origin s)
include configures

theorem clearQueues : Configures origin (clearQueues s) := by
  have resetting : hasBits (clearBits s.device.status statusQueuesReady) statusResetting =
      hasBits s.device.status statusResetting := hasBits_clearBits _ (by decide)
  refine ⟨?_, .of_disabled (hasBits_zero _) (hasBits_zero _)⟩
  exact configures.1.reset_queues (hasBits_cleared _ _) (by rfl) resetting (hasBits_cleared _ _) rfl rfl rfl rfl rfl rfl

theorem resetDone (armed : s.device.resetTimer ≠ none) :
    Configures origin (s.setDevice { s.device with status := statusReady, resetTimer := none }) := by
  have gates := configures.1
  obtain ⟨sqOff, cqOff⟩ := gates.resetting (gates.timed.mpr armed)
  refine ⟨{ gates with ready := ?_, timed := ?_, resetting := fun _ => ⟨sqOff, cqOff⟩ }, .of_disabled sqOff cqOff⟩
  · exact iff_of_false (show ¬hasBits statusReady statusQueuesReady = true by decide)
      fun both => absurd (sqOff.symm.trans both.1) Bool.false_ne_true
  · exact iff_of_false (show ¬hasBits statusReady statusResetting = true by decide) fun some => some rfl

theorem sqEnable {control : U32} (same : s.sq = origin.sq) (idle : hasBits s.device.status statusResetting = false)
    (usable : hasBits control queueEnable = true → s.sq.base ≠ 0 ∧ validDepth s.sq.depth = true) :
    Configures origin (updateQueueReady (s.setSq { s.sq with control })) := by
  have timer := configures.1.idle_timer idle
  obtain ⟨sq, cq⟩ := updateQueueReady_queues (s.setSq { s.sq with control })
  refine ⟨Gates.updateReady ⟨configures.1.sqConfigured, configures.1.cqConfigured⟩ usable configures.1.cqUsable idle timer,
    ?_, ?_⟩
  · rw [sq, ← same]
    exact fun _ _ => ⟨rfl, rfl⟩
  · rw [cq]
    exact configures.2.cq

/-- A running queue already has its watermark, so enabling it again installs none. -/
theorem cqEnable {control : U32} (same : s.cq = origin.cq) (idle : hasBits s.device.status statusResetting = false)
    (usable : hasBits control queueEnable = true → s.cq.base ≠ 0 ∧ validDepth s.cq.depth = true) :
    Configures origin (updateQueueReady (s.setCq (s.cq.enable control).updateBackpressure)) := by
  have timer := configures.1.idle_timer idle
  obtain ⟨sq, cq⟩ := updateQueueReady_queues (s.setCq (s.cq.enable control).updateBackpressure)
  have updated := (s.cq.enable control).sameSetup_updateBackpressure
  obtain ⟨base, depth, -, kept, -⟩ := s.cq.enable_setup control
  refine ⟨Gates.updateReady ⟨configures.1.sqConfigured, ?_⟩ configures.1.sqUsable ?_ idle timer, ?_, ?_⟩
  · change Configured (s.cq.enable control).updateBackpressure.base (s.cq.enable control).updateBackpressure.depth
    rw [updated.base, updated.depth, base, depth]
    exact configures.1.cqConfigured
  · change hasBits (s.cq.enable control).updateBackpressure.control queueEnable = true →
      (s.cq.enable control).updateBackpressure.base ≠ 0 ∧
        validDepth (s.cq.enable control).updateBackpressure.depth = true ∧
        (s.cq.enable control).updateBackpressure.watermarkHigh ≠ 0
    rw [updated.base, updated.depth, updated.high, updated.control]
    exact CompletionQueue.usable_enable usable
  · rw [sq]
    exact configures.2.sq
  · rw [cq, ← same]
    intro before _
    have some : s.cq.watermarkHigh ≠ 0 := (configures.1.cqUsable before).2.2
    exact ⟨updated.base.trans base, updated.depth.trans depth, updated.high.trans (kept some).1,
      updated.low.trans (kept some).2⟩

end Configures

theorem configures_stable (host : Host σ) (origin : State σ) : Stable host origin (Configures origin) where
  inside s next inside configures := by
    refine ⟨?_, configures.2.of_queues inside.base inside.depth inside.enabled (inside.cq ▸ .refl _)⟩
    rw [inside.cq]
    exact configures.1.of_same inside.control inside.resetTimer inside.status inside.base inside.depth inside.enabled
      rfl rfl rfl rfl
  failed s _ configures := configures.of_parts rfl rfl (.refl _)
  errorStatus s _ configures := configures.of_parts rfl rfl (.refl _)
  coalesce s _ configures := configures.of_parts rfl rfl (.refl _)
  fault s _ _ configures := configures.of_parts rfl rfl (.refl _)
  trigger s _ configures := configures.of_parts rfl rfl (.refl _)
  raise s _ configures := configures.of_parts rfl rfl (.refl _)
  acknowledge s value configures := by
    obtain ⟨⟨device, sq, cq⟩, -⟩ := writeIntr_setup s value
    exact configures.of_parts device sq (cq ▸ .refl _)
  mask s value configures := by
    obtain ⟨-, device, sq, cq⟩ := writeIntr_setup s value
    exact configures.of_parts device sq (cq ▸ .refl _)
  publish s completion configures := by
    obtain ⟨device, sq, cq⟩ := publishCompletion_setup host s completion
    exact configures.of_parts device sq cq
  send s kind bytes _ _ configures := by
    obtain ⟨device, sq, cq⟩ := chrWriteAll_setup s kind bytes
    exact configures.of_parts device sq (cq ▸ .refl _)
  clearQueues _ configures := configures.clearQueues
  clearDevice s _ := by
    refine ⟨.blank rfl ⟨rfl, rfl, rfl⟩ ⟨rfl, rfl, rfl⟩ ?_ ?_, .of_disabled (hasBits_zero _) (hasBits_zero _)⟩
    · exact (by decide : hasBits statusResetting statusQueuesReady = false)
    · exact iff_of_true (show hasBits statusResetting statusResetting = true by decide) (Option.some_ne_none _)
  resetDone _ armed configures := configures.resetDone armed
  control s control both configures := by
    refine ⟨{ configures.1 with running := both }, configures.2.of_queues rfl rfl rfl (.refl _)⟩
  sqConfigure s sq disabled control configured configures := by
    refine ⟨configures.1.configureSq disabled control configured, ?_, configures.2.cq⟩
    exact fun _ enabled => absurd ((control ▸ disabled).symm.trans enabled) Bool.false_ne_true
  sqEnable _ _ same _ idle usable configures := configures.sqEnable same idle usable
  cqMark s configures := configures.of_parts rfl rfl ⟨rfl, rfl, rfl, rfl, rfl⟩
  cqConfigure s cq disabled control _ _ configured configures := by
    refine ⟨configures.1.configureCq disabled control configured, configures.2.sq, ?_⟩
    exact fun _ enabled => absurd ((control ▸ disabled).symm.trans enabled) Bool.false_ne_true
  cqConsume s value _ _ configures := by
    have consumed : s.cq.SameSetup (s.cq.consume value) := ⟨rfl, rfl, rfl, rfl, rfl⟩
    exact configures.of_parts rfl rfl consumed.updateBackpressure
  cqEnable _ _ _ same idle usable configures := configures.cqEnable same idle usable

/-- The gates stand on both sides of every step, and no step changes the setup of a running queue. -/
theorem Gates.step {s next : State σ} {event : Event} (gates : Gates s.device s.sq s.cq) (host : Host σ)
    (stepped : step host s event = some next) : Configures s next := by
  have stable := configures_stable host s
  refine stable.always ?_ ?_ ⟨gates, fun _ _ => ⟨rfl, rfl⟩, fun _ _ => ⟨rfl, rfl, rfl, rfl⟩⟩ stepped ?_
  · intro completion t _ configures
    obtain ⟨device, sq, cq⟩ := chrWriteAll_setup t .resetAcknowledgment completion.toBytes
    exact configures.of_parts device sq (cq ▸ .refl _)
  · exact fun t configures bridge _ _ => configures.of_parts rfl rfl (.refl _)
  · exact fun _ t _ configures _ => configures.of_parts rfl rfl (.refl _)

theorem gates_powerOn (debugEnabled connected : Bool) (memory : σ) :
    Gates (powerOn debugEnabled connected memory).device (powerOn debugEnabled connected memory).sq
      (powerOn debugEnabled connected memory).cq := by
  refine .blank rfl ⟨rfl, rfl, rfl⟩ ⟨rfl, rfl, rfl⟩ ?_ ?_
  · exact (by decide : hasBits statusReady statusQueuesReady = false)
  · exact iff_of_false (show ¬hasBits statusReady statusResetting = true by decide) fun some => some rfl

theorem Gates.gated {s : State σ} (gates : Gates s.device s.sq s.cq) (custody : Custody False s) : Gated s where
  device := gates.running
  sq enabled := usable_of_configured gates.sqConfigured (gates.sqUsable enabled).1 (gates.sqUsable enabled).2
  cq enabled := usable_of_configured gates.cqConfigured (gates.cqUsable enabled).1 (gates.cqUsable enabled).2.1
  ready := gates.ready
  resetting busy := by
    obtain ⟨sqOff, cqOff⟩ := gates.resetting busy
    have free := (custody.resetting (gates.timed.mp busy)).free
    simp only [owed, Bool.or_eq_false_iff] at free
    exact ⟨sqOff, cqOff, free.1.1, free.1.2⟩

/-- Whatever the host writes and the bridge brings, only a valid configuration runs, and it stays as it is. -/
theorem gated_always (host : Host σ) (debugEnabled connected : Bool) (memory : σ) (events : List Event) :
    (step host).Always Gated (powerOn debugEnabled connected memory) events ∧
      (step host).Meets (fun s event => ∀ next, step host s event = some next → KeepsConfiguration s next)
        (powerOn debugEnabled connected memory) events := by
  have keeps : ∀ (s : State σ) (event : Event) (next : State σ), Gates s.device s.sq s.cq ∧ Custody False s →
      step host s event = some next → Gates next.device next.sq next.cq ∧ Custody False next :=
    fun s event next before stepped => ⟨(before.1.step host stepped).1, before.2.step host event nofun stepped⟩
  have always := EventMachine.always_of_step keeps
    ⟨gates_powerOn debugEnabled connected memory, Custody.powerOn False debugEnabled connected memory⟩ events
  refine ⟨always.mono fun s inside => inside.1.gated inside.2, ?_⟩
  refine always.meets fun s event inside => ?_
  exact fun next stepped => (inside.1.step host stepped).2

end VamsSoc.Pcie
