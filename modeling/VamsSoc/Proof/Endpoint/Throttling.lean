/-
This file shows that the watermarks of the completion queue throttle the fetch loop as a gate with two marks does.
-/

import VamsSoc.Library.Gate
import VamsSoc.Proof.Endpoint.EngineReset

namespace VamsSoc.Pcie
open Library Abi

variable {σ : Type}

/-- A fetch passes the gate, and a completion that was written raises its level. -/
def gateMove : CommandEvent → Option Gate.Move
  | .fetched _ _ => some .pass
  | .publish _ _ _ true => some .rise
  | .publish _ _ _ false | .engineStarted _ => none

/-- The history keeps its newest event first. -/
def gateMoves (commands : List CommandEvent) : List Gate.Move := commands.reverse.filterMap gateMove

/-- A doorbell takes the level down before anything else happens in its step. -/
def doorbellMoves (s : State σ) (event : Event) : List Gate.Move :=
  match consumption s event with
  | some value => [.fall ((value - s.cq.head) &&& (s.cq.depth - 1)).toNat]
  | none => []

def stepMoves (s : State σ) (event : Event) (next : State σ) : List Gate.Move :=
  doorbellMoves s event ++
    gateMoves (next.history.commands.take (next.history.commands.length - s.history.commands.length))

/-- What the fetch loop, the bus, and the doorbells did in a run, in order. -/
def runMoves (host : Host σ) : State σ → List Event → List Gate.Move
  | _, [] => []
  | s, event :: rest =>
    match step host s event with
    | some next => stepMoves s event next ++ runMoves host next rest
    | none => []

/-- The registers show the gate; the counter and the highest occupancy go on from where they were. -/
structure Shows (start queue : CompletionQueue) (gate : Gate) : Prop where
  closed : queue.backpressure = gate.closed
  count : queue.backpressureCount.toNat = min (2 ^ 32 - 1) (start.backpressureCount.toNat + gate.closings)
  highest : queue.highWater.toNat = max start.highWater.toNat gate.highest

/-- The queue is a ring with ordered watermarks inside its depth. -/
structure Marked (queue : CompletionQueue) : Prop where
  enabled : hasBits queue.control queueEnable = true
  valid : validDepth queue.depth = true
  head : queue.head < queue.depth
  tail : queue.tail < queue.depth
  ordered : queue.watermarkLow < queue.watermarkHigh
  inside : queue.watermarkHigh < queue.depth

/-- The queue is the gate whose level is its occupancy. -/
structure Tracks (start queue : CompletionQueue) (gate : Gate) : Prop where
  marked : Marked queue
  low : queue.watermarkLow = start.watermarkLow
  high : queue.watermarkHigh = start.watermarkHigh
  level : queue.occupancy.toNat = gate.level
  shows : Shows start queue gate
  steady : gate.Steady start.watermarkLow.toNat start.watermarkHigh.toNat

theorem Marked.power {queue : CompletionQueue} (marked : Marked queue) : isPowerOf2 queue.depth = true := by
  have valid := marked.valid
  simp only [validDepth, Bool.and_eq_true] at valid
  exact valid.2

theorem Marked.occupancy {queue : CompletionQueue} (marked : Marked queue) :
    queue.occupancy = (queue.tail - queue.head) &&& (queue.depth - 1) :=
  if_neg (validDepth_ne_zero marked.valid)

theorem Marked.configured {queue : CompletionQueue} (marked : Marked queue) : queue.watermarkHigh ≠ 0 := by
  have ordered := marked.ordered
  intro zero
  rw [zero] at ordered
  exact absurd ordered (by simp)

/-- An update of the registers is a move of the gate. -/
theorem Shows.update {start queue : CompletionQueue} {gate : Gate} (shows : Shows start queue gate)
    (enabled : hasBits queue.control queueEnable = true) (ordered : queue.watermarkLow < queue.watermarkHigh)
    (configured : queue.watermarkHigh ≠ 0) :
    Shows start queue.updateBackpressure
      (gate.set queue.watermarkLow.toNat queue.watermarkHigh.toNat queue.occupancy.toNat) := by
  obtain ⟨closed, count, highest⟩ := shows
  have marks := BitVec.lt_def.mp ordered
  have on : ¬(!hasBits queue.control queueEnable || queue.watermarkHigh == 0) = true := by
    simpa [enabled] using configured
  have peak : (if queue.highWater < queue.occupancy then queue.occupancy else queue.highWater).toNat =
      max start.highWater.toNat (max gate.highest queue.occupancy.toNat) := by
    split
    next above =>
      have larger := BitVec.lt_def.mp above
      omega
    next below =>
      have smaller := BitVec.le_def.mp (BitVec.not_lt.mp below)
      omega
  unfold CompletionQueue.updateBackpressure Gate.set
  dsimp only
  generalize (if queue.highWater < queue.occupancy then queue.occupancy else queue.highWater) = highWater at peak ⊢
  rw [if_neg on, closed]
  cases gate.closed with
  | false =>
      by_cases full : queue.watermarkHigh ≤ queue.occupancy
      · have reached : queue.watermarkHigh.toNat ≤ queue.occupancy.toNat := full
        have one := toNat_satInc queue.backpressureCount
        rw [if_pos (by simpa using full), if_pos reached, if_pos ⟨reached, rfl⟩]
        exact ⟨rfl, by dsimp only; omega, peak⟩
      · have below : ¬queue.watermarkHigh.toNat ≤ queue.occupancy.toNat := full
        rw [if_neg (by simpa using full), if_neg (by simp), if_neg below, ite_self, if_neg (fun both => below both.1)]
        exact ⟨rfl, count, peak⟩
  | true =>
      by_cases fallen : queue.occupancy ≤ queue.watermarkLow
      · have few : queue.occupancy.toNat ≤ queue.watermarkLow.toNat := fallen
        rw [if_neg (by simp), if_pos (by simpa using fallen), if_neg (by omega), if_pos few, if_neg (by simp)]
        exact ⟨rfl, count, peak⟩
      · have many : ¬queue.occupancy.toNat ≤ queue.watermarkLow.toNat := fallen
        rw [if_neg (by simp), if_neg (by simpa using fallen), if_neg many, ite_self, if_neg (by simp)]
        exact ⟨rfl, count, peak⟩

namespace CompletionQueue
variable (queue : CompletionQueue)

/-- An update keeps the ring and the watermarks. -/
theorem ring_updateBackpressure :
    queue.updateBackpressure.head = queue.head ∧ queue.updateBackpressure.tail = queue.tail ∧
      queue.updateBackpressure.watermarkLow = queue.watermarkLow ∧
      queue.updateBackpressure.watermarkHigh = queue.watermarkHigh := by
  unfold updateBackpressure
  dsimp only
  split_ifs <;> exact ⟨rfl, rfl, rfl, rfl⟩

theorem occupancy_updateBackpressure : queue.updateBackpressure.occupancy = queue.occupancy := by
  obtain ⟨head, tail, -, -⟩ := queue.ring_updateBackpressure
  unfold occupancy
  rw [depth_updateBackpressure, head, tail]

end CompletionQueue

theorem Marked.updateBackpressure {queue : CompletionQueue} (marked : Marked queue) :
    Marked queue.updateBackpressure := by
  obtain ⟨head, tail, low, high⟩ := queue.ring_updateBackpressure
  constructor
  · rw [CompletionQueue.control_updateBackpressure]
    exact marked.enabled
  · rw [CompletionQueue.depth_updateBackpressure]
    exact marked.valid
  · rw [head, CompletionQueue.depth_updateBackpressure]
    exact marked.head
  · rw [tail, CompletionQueue.depth_updateBackpressure]
    exact marked.tail
  · rw [low, high]
    exact marked.ordered
  · rw [high, CompletionQueue.depth_updateBackpressure]
    exact marked.inside

/-- The indices have moved, and the update takes the gate to the new occupancy. -/
theorem Tracks.update {start queue moved : CompletionQueue} {gate : Gate} (tracks : Tracks start queue gate)
    (marked : Marked moved) (low : moved.watermarkLow = queue.watermarkLow)
    (high : moved.watermarkHigh = queue.watermarkHigh) (shows : Shows start moved gate)
    (steady : (gate.set start.watermarkLow.toNat start.watermarkHigh.toNat moved.occupancy.toNat).Steady
      start.watermarkLow.toNat start.watermarkHigh.toNat) :
    Tracks start moved.updateBackpressure
      (gate.set start.watermarkLow.toNat start.watermarkHigh.toNat moved.occupancy.toNat) := by
  have updated := shows.update marked.enabled marked.ordered marked.configured
  rw [low, high, tracks.low, tracks.high] at updated
  obtain ⟨-, -, sameLow, sameHigh⟩ := moved.ring_updateBackpressure
  exact {
    marked := marked.updateBackpressure
    low := by rw [sameLow, low, tracks.low]
    high := by rw [sameHigh, high, tracks.high]
    level := by rw [CompletionQueue.occupancy_updateBackpressure]; rfl
    shows := updated
    steady := steady }

/-- A completion that is written takes the gate one up. -/
theorem Tracks.advance {start queue : CompletionQueue} {gate : Gate} (tracks : Tracks start queue gate)
    (opened : gate.closed = false) :
    Tracks start queue.advance.updateBackpressure
      (gate.set start.watermarkLow.toNat start.watermarkHigh.toNat (gate.level + 1)) := by
  have marked := tracks.marked
  have room := tracks.steady.opened opened
  have inside : start.watermarkHigh.toNat < queue.depth.toNat := tracks.high ▸ BitVec.lt_def.mp marked.inside
  have nonzero := validDepth_ne_zero marked.valid
  have moved : Marked queue.advance :=
    { marked with tail := and_pred_lt _ _ nonzero }
  have level := tracks.level
  rw [marked.occupancy] at level
  have next : queue.advance.occupancy.toNat = gate.level + 1 := by
    rw [moved.occupancy]
    have produced := distance_produced marked.power marked.head marked.tail (by omega)
    rw [level] at produced
    exact produced
  have ordered : start.watermarkLow.toNat < start.watermarkHigh.toNat := by
    rw [← tracks.low, ← tracks.high]
    exact BitVec.lt_def.mp marked.ordered
  have updated := tracks.update moved rfl rfl { tracks.shows with } (by
    rw [next]
    exact tracks.steady.rise ordered opened)
  rwa [next] at updated

/-- A doorbell takes the gate down by what it consumes. -/
theorem Tracks.consume {start queue : CompletionQueue} {gate : Gate} (tracks : Tracks start queue gate) {value : U32}
    (within : value < queue.depth)
    (behind : (value - queue.head) &&& (queue.depth - 1) ≤ (queue.tail - queue.head) &&& (queue.depth - 1)) :
    ((value - queue.head) &&& (queue.depth - 1)).toNat ≤ gate.level ∧
      Tracks start (queue.consume value).updateBackpressure
        (gate.set start.watermarkLow.toNat start.watermarkHigh.toNat
          (gate.level - ((value - queue.head) &&& (queue.depth - 1)).toNat)) := by
  have marked := tracks.marked
  have moved : Marked (queue.consume value) := { marked with head := within }
  have level := tracks.level
  rw [marked.occupancy] at level
  have next : (queue.consume value).occupancy.toNat =
      gate.level - ((value - queue.head) &&& (queue.depth - 1)).toNat := by
    rw [moved.occupancy, ← level]
    exact distance_consumed marked.power marked.head marked.tail within behind
  have ordered : start.watermarkLow.toNat < start.watermarkHigh.toNat := by
    rw [← tracks.low, ← tracks.high]
    exact BitVec.lt_def.mp marked.ordered
  have updated := tracks.update moved rfl rfl { tracks.shows with } (by
    rw [next]
    exact tracks.steady.fall ordered _)
  rw [next] at updated
  exact ⟨level ▸ BitVec.le_def.mp behind, updated⟩

/-- The enable bit without a change of the watermarks takes the gate nowhere. -/
theorem Tracks.enable {start queue : CompletionQueue} {gate : Gate} (tracks : Tracks start queue gate) {control : U32}
    (enabled : hasBits control queueEnable = true) : Tracks start (queue.enable control).updateBackpressure gate := by
  have marked := tracks.marked
  have same : queue.enable control = { queue with control } := by
    unfold CompletionQueue.enable
    rw [if_neg]
    simp only [Bool.and_eq_true, beq_iff_eq, not_and]
    exact fun _ => marked.configured
  have level : ({ queue with control } : CompletionQueue).occupancy.toNat = gate.level := tracks.level
  have still := tracks.steady.set_level
  have configured : Marked { queue with control } := { marked with enabled := enabled }
  have updated := tracks.update configured rfl rfl { tracks.shows with }
    (by rw [level, still]; exact tracks.steady)
  rw [level, still] at updated
  rw [same]
  exact updated

theorem Tracks.markError {start queue : CompletionQueue} {gate : Gate} (tracks : Tracks start queue gate) :
    Tracks start queue.markError gate :=
  { tracks with marked := { tracks.marked with }, shows := { tracks.shows with } }

theorem gateMoves_append (newer older : List CommandEvent) :
    gateMoves (newer ++ older) = gateMoves older ++ gateMoves newer := by
  simp [gateMoves]

theorem gateMoves_started {started : List CommandEvent}
    (only : ∀ event ∈ started, ∃ submission, event = .engineStarted submission) : gateMoves started = [] := by
  apply List.filterMap_eq_nil_iff.mpr
  intro event listed
  obtain ⟨submission, rfl⟩ := only event (List.mem_reverse.mp listed)
  rfl

/-- While the queue is enabled, what happened since the origin has taken the gate along, and it is open for a command. -/
def Throttled (start : CompletionQueue) (origin : State σ) (gate : Gate) (left : Nat) (s : State σ) : Prop :=
  hasBits s.cq.control queueEnable = true → ∃ fresh later,
    s.history.commands = fresh ++ origin.history.commands ∧
      (Gate.move start.watermarkLow.toNat start.watermarkHigh.toNat).run gate (gateMoves fresh) = some later ∧
      Tracks start s.cq later ∧ (0 < left → later.closed = false)

theorem cq_publishCompletion (host : Host σ) (s : State σ) (completion : Completion) :
    (publishCompletion host s completion).2.cq =
      if (host.write s.memory (nextSlot s.cq) completion.toBytes).1 then s.cq.advance.updateBackpressure
      else s.cq.markError := by
  unfold publishCompletion
  dsimp only
  split
  next written =>
    have accepted : (host.write s.memory (nextSlot s.cq) completion.toBytes).1 = true := written
    rw [if_pos accepted]
    simp only [checkInvariants, raiseInterrupt, State.setSignals, State.setCq]
  next refused =>
    have rejected : ¬(host.write s.memory (nextSlot s.cq) completion.toBytes).1 = true := refused
    rw [if_neg rejected]
    simp only [setError, State.setSignals, State.setCq]

/-- A publication uses up the room that the command had. -/
theorem Throttled.publish {start : CompletionQueue} {origin s : State σ} {gate : Gate} {left : Nat}
    (throttled : Throttled start origin gate left s) (held : 0 < left) (host : Host σ) (completion : Completion) :
    Throttled start origin gate 0 (publishCompletion host s completion).2 := by
  intro enabled
  obtain ⟨-, commands, -⟩ := publishCompletion_traces host s completion
  rw [cq_publishCompletion] at enabled ⊢
  rw [commands]
  have control : hasBits s.cq.control queueEnable = true := by
    split at enabled
    · rw [CompletionQueue.control_updateBackpressure] at enabled
      exact enabled
    · exact enabled
  obtain ⟨fresh, later, history, ran, tracks, opened⟩ := throttled control
  have moves (event : CommandEvent) : gateMoves (event :: fresh) = gateMoves fresh ++ gateMoves [event] :=
    gateMoves_append [event] fresh
  split
  next written =>
    rw [written]
    refine ⟨_ :: fresh, _, by rw [history]; rfl, ?_, tracks.advance (opened held), fun held => absurd held (Nat.lt_irrefl 0)⟩
    rw [moves, EventMachine.run_append, ran]
    rfl
  next refused =>
    rw [Bool.not_eq_true] at refused
    rw [refused]
    refine ⟨_ :: fresh, later, by rw [history]; rfl, ?_, tracks.markError, fun held => absurd held (Nat.lt_irrefl 0)⟩
    rw [moves, EventMachine.run_append, ran]
    rfl

theorem throttled_metered (host : Host σ) (start : CompletionQueue) {origin : State σ} (gate : Gate)
    (running : hasBits origin.cq.control queueEnable = true) : Metered host origin (Throttled start origin gate) where
  fewer s j k fewer throttled enabled := by
    obtain ⟨fresh, later, history, ran, tracks, opened⟩ := throttled enabled
    exact ⟨fresh, later, history, ran, tracks, fun held => opened (Nat.lt_of_lt_of_le held fewer)⟩
  beside s next k beside throttled enabled := by
    obtain ⟨started, commands, only⟩ := beside.commands
    obtain ⟨fresh, later, history, ran, tracks, opened⟩ := throttled (beside.cq ▸ enabled)
    refine ⟨started ++ fresh, later, by rw [commands, history, List.append_assoc], ?_, beside.cq ▸ tracks, opened⟩
    rw [gateMoves_append, gateMoves_started only, List.append_nil]
    exact ran
  fetched s submission ready throttled enabled := by
    obtain ⟨fresh, later, history, ran, tracks, -⟩ := throttled enabled
    have opened : later.closed = false := by
      simp only [sqReady, Bool.and_eq_true, Bool.not_eq_true'] at ready
      rw [← tracks.shows.closed]
      exact ready.1.1.1.2
    refine ⟨.fetched s.device.resetGeneration submission :: fresh, later, ?_, ?_, tracks, fun _ => opened⟩
    · rw [List.cons_append, ← history]
      rfl
    rw [← List.singleton_append, gateMoves_append, EventMachine.run_append, ran]
    change (if later.closed then none else some later).bind _ = _
    rw [opened]
    rfl
  published s completion k held throttled := throttled.publish held host completion
  marked s k throttled enabled := by
    obtain ⟨fresh, later, history, ran, tracks, opened⟩ := throttled enabled
    exact ⟨fresh, later, history, ran, tracks.markError, opened⟩
  configured s cq k disabled control throttled enabled := by
    rw [State.setCq_cq, control, disabled] at enabled
    exact absurd enabled Bool.false_ne_true
  enabled s control k same throttled enabled := by
    rw [State.setCq_cq, CompletionQueue.control_updateBackpressure, CompletionQueue.control_enable] at enabled
    obtain ⟨fresh, later, history, ran, tracks, opened⟩ := throttled (same ▸ running)
    exact ⟨fresh, later, history, ran, tracks.enable enabled, opened⟩
  clearQueues s throttled enabled := absurd (enabled.symm.trans (hasBits_zero _)) (by decide)
  clearDevice s throttled enabled := absurd (enabled.symm.trans (hasBits_zero _)) (by decide)

theorem accepts_of_consumption {s : State σ} {event : Event} {value : U32} (rings : consumption s event = some value) :
    acceptsCqDoorbell s value = true := by
  unfold consumption at rings
  split at rings
  next offset written size =>
    split at rings
    next accepted =>
      obtain rfl := Option.some.inj rings
      exact accepted.2.2.2
    next => exact absurd rings nofun
  next => exact absurd rings nofun

/-- A doorbell moves the gate before the rest of its step. -/
theorem throttled_consumed {start : CompletionQueue} {s : State σ} {gate : Gate} {left : Nat}
    (tracks : Tracks start s.cq gate) (opened : 0 < left → gate.closed = false) (event : Event) :
    ∃ later, (Gate.move start.watermarkLow.toNat start.watermarkHigh.toNat).run gate (doorbellMoves s event) = some later ∧
      Throttled start s later left (consumed s event) := by
  unfold doorbellMoves consumed
  cases rings : consumption s event with
  | none => exact ⟨gate, rfl, fun _ => ⟨[], gate, rfl, rfl, tracks, opened⟩⟩
  | some value =>
      have accepts := accepts_of_consumption rings
      simp only [acceptsCqDoorbell, Bool.and_eq_true, decide_eq_true_eq] at accepts
      obtain ⟨fits, next⟩ := tracks.consume accepts.1.2 accepts.2
      refine ⟨_, ?_, fun _ => ⟨[], _, rfl, rfl, next, fun held => tracks.steady.open_of_fall (opened held) _⟩⟩
      simp only [EventMachine.run_cons, Gate.move, fits, if_true]
      rfl

/-- The queue is the gate, which is open for a command on its way. -/
structure Following (start : CompletionQueue) (s : State σ) (gate : Gate) : Prop where
  custody : Custody False s
  tracks : Tracks start s.cq gate
  opened : 0 < stages s → gate.closed = false

theorem Following.step {start : CompletionQueue} {s next : State σ} {gate : Gate} (following : Following start s gate)
    {host : Host σ} {event : Event} (stepped : Pcie.step host s event = some next)
    (enabled : hasBits next.cq.control queueEnable = true) :
    ∃ later, (Gate.move start.watermarkLow.toNat start.watermarkHigh.toNat).run gate (stepMoves s event next) = some later ∧
      Following start next later := by
  obtain ⟨consumer, fell, throttled⟩ := throttled_consumed following.tracks following.opened event
  have metered := throttled_metered host start consumer following.tracks.marked.enabled
  obtain ⟨fresh, later, history, ran, tracks, opened⟩ := metered.step following.custody throttled stepped enabled
  have custody := following.custody.step host event nofun stepped
  refine ⟨later, ?_, custody, tracks, opened⟩
  have recent : next.history.commands.take (next.history.commands.length - s.history.commands.length) = fresh := by
    rw [history, List.length_append, Nat.add_sub_cancel, List.take_left]
  rw [stepMoves, recent, EventMachine.run_append, fell]
  exact ran

theorem Following.run {start : CompletionQueue} {s final : State σ} {gate : Gate} (following : Following start s gate)
    {host : Host σ} {events : List Event} (ran : (Pcie.step host).run s events = some final)
    (enabled : (Pcie.step host).Always (fun t => hasBits t.cq.control queueEnable = true) s events) :
    ∃ later, (Gate.move start.watermarkLow.toNat start.watermarkHigh.toNat).run gate (runMoves host s events) = some later ∧
      Following start final later := by
  induction events generalizing s gate with
  | nil =>
      obtain rfl := Option.some.inj ran
      exact ⟨gate, rfl, following⟩
  | cons event rest ih =>
      obtain ⟨next, stepped, continued⟩ := EventMachine.run_cons_some ran
      have remains := enabled.2 next stepped
      obtain ⟨middle, moved, follows⟩ := following.step stepped remains.start
      obtain ⟨later, moves, reached⟩ := ih follows continued remains
      refine ⟨later, ?_, reached⟩
      rw [runMoves, stepped]
      change (Gate.move _ _).run gate (stepMoves s event next ++ runMoves host next rest) = _
      rw [EventMachine.run_append, moved]
      exact moves

/-- The completion queue is enabled and empty, with its watermarks in order, and no command is on its way. -/
structure FreshQueue (s : State σ) : Prop where
  enabled : hasBits s.cq.control queueEnable = true
  empty : s.cq.head = s.cq.tail
  inside : s.cq.head < s.cq.depth
  ordered : s.cq.watermarkLow < s.cq.watermarkHigh
  fits : s.cq.watermarkHigh < s.cq.depth
  idle : owed s.bridge s.engine s.checkpoint = false

theorem FreshQueue.following {s : State σ} (queue : FreshQueue s) (custody : Custody False s) : Following s.cq s {} := by
  have marked : Marked s.cq :=
    { enabled := queue.enabled
      valid := custody.queues.depth queue.enabled
      head := queue.inside
      tail := queue.empty ▸ queue.inside
      ordered := queue.ordered
      inside := queue.fits }
  have empty : s.cq.occupancy = 0 := by
    rw [marked.occupancy, queue.empty]
    simp
  have opened : s.cq.backpressure = false := by
    rw [Bool.eq_false_iff]
    intro shut
    have above := custody.queues.throttling.above shut
    rw [empty] at above
    exact absurd above (by simp)
  have idle : stages s = 0 := by
    have none := queue.idle
    simp only [owed, Bool.or_eq_false_iff] at none
    simp [stages, stagesLeft, none]
  refine ⟨custody, ⟨marked, rfl, rfl, by rw [empty]; rfl, ⟨opened, ?_, ?_⟩, ⟨?_, ?_, (by rintro ⟨⟩), Nat.le_refl _⟩⟩, ?_⟩
  · change _ = min _ (s.cq.backpressureCount.toNat + 0)
    have := s.cq.backpressureCount.isLt
    omega
  · exact (Nat.max_eq_left (Nat.zero_le _)).symm
  · exact Nat.zero_le _
  · intro _
    have := queue.ordered
    rw [BitVec.lt_def] at this
    exact Nat.lt_of_le_of_lt (Nat.zero_le _) this
  · intro held
    exact absurd (idle ▸ held) (Nat.lt_irrefl 0)

/-- While the completion queue stays enabled, its watermarks throttle the fetch loop: each descriptor passes an open gate,
the occupancy is the gate's level and stays within the upper mark, and the registers show the gate. -/
theorem throttled_while_enabled (host : Host σ) (debugEnabled connected : Bool) (memory : σ)
    (before events : List Event) (start final : State σ)
    (reached : (step host).run (powerOn debugEnabled connected memory) before = some start) (queue : FreshQueue start)
    (ran : (step host).run start events = some final)
    (enabled : (step host).Always (fun s => hasBits s.cq.control queueEnable = true) start events) :
    ∃ gate, (Gate.move start.cq.watermarkLow.toNat start.cq.watermarkHigh.toNat).run {} (runMoves host start events) =
        some gate ∧
      final.cq.occupancy.toNat = gate.level ∧ final.cq.occupancy ≤ start.cq.watermarkHigh ∧
      Shows start.cq final.cq gate := by
  have custody := custody_of_run host debugEnabled connected memory reached
  obtain ⟨gate, moved, follows⟩ := (queue.following custody).run ran enabled
  refine ⟨gate, moved, follows.tracks.level, ?_, follows.tracks.shows⟩
  rw [BitVec.le_def, follows.tracks.level]
  exact follows.tracks.steady.bounded

/-- The host sets the watermarks to one and two before it enables the queues. -/
def markedQueues : List Event :=
  Register.cqDepth.write 16 :: Register.cqWatermark.write 0x20001 :: enableQueues 16 0

/-- Two answers of the firmware close the queue, and the third descriptor waits for a doorbell of the host. -/
def oneEpisode : List Event :=
  [Register.sqDoorbell.write 3, answerFrame, answerFrame, Register.cqDoorbell.write 1]

instance (s : State σ) : Decidable (FreshQueue s) :=
  decidable_of_iff (hasBits s.cq.control queueEnable = true ∧ s.cq.head = s.cq.tail ∧ s.cq.head < s.cq.depth ∧
      s.cq.watermarkLow < s.cq.watermarkHigh ∧ s.cq.watermarkHigh < s.cq.depth ∧
      owed s.bridge s.engine s.checkpoint = false)
    ⟨fun ⟨enabled, empty, inside, ordered, fits, idle⟩ => ⟨enabled, empty, inside, ordered, fits, idle⟩,
      fun queue => ⟨queue.enabled, queue.empty, queue.inside, queue.ordered, queue.fits, queue.idle⟩⟩

/-- The queue closes once in such a run, and its counter shows it. -/
theorem one_episode_throttled :
    ∃ start final gate, (step zeroHost).run (powerOn true true ()) markedQueues = some start ∧
      (step zeroHost).run start oneEpisode = some final ∧
      (Gate.move 1 2).run {} [.pass, .rise, .pass, .rise, .fall 1, .pass] = some gate ∧ gate.closings = 1 ∧
      Shows start.cq final.cq gate := by
  have seen : ((step zeroHost).run (powerOn true true ()) markedQueues).map (fun s => decide
      (FreshQueue s ∧ ((step zeroHost).run s oneEpisode).isSome ∧
        (step zeroHost).Always (fun t => hasBits t.cq.control queueEnable = true) s oneEpisode ∧
        s.cq.watermarkLow.toNat = 1 ∧ s.cq.watermarkHigh.toNat = 2 ∧
        runMoves zeroHost s oneEpisode = [.pass, .rise, .pass, .rise, .fall 1, .pass])) = some true := by
    decide +kernel
  obtain ⟨start, reached, shown⟩ := Option.map_eq_some_iff.mp seen
  obtain ⟨queue, runs, enabled, low, high, moves⟩ := of_decide_eq_true shown
  obtain ⟨final, ran⟩ := Option.isSome_iff_exists.mp runs
  obtain ⟨gate, moved, -, -, shows⟩ :=
    throttled_while_enabled zeroHost true true () markedQueues oneEpisode start final reached queue ran enabled
  rw [low, high, moves] at moved
  refine ⟨start, final, gate, reached, ran, moved, ?_, shows⟩
  obtain rfl := Option.some.inj moved
  rfl

end VamsSoc.Pcie
