/-
This file shows which tasks the health tracker reports, from the samples alone.
-/

import VamsSoc.Construction.Firmware.Health

namespace VamsSoc.Firmware
open Library

/-! ### One update -/

namespace HealthTracker

/-- The misses of a task after the next sample. -/
def nextMissed (tracker : HealthTracker) (epochs : Epochs) (task : Fin 8) : U32 :=
  if epochs task ≠ tracker.lastEpoch task then 0 else satInc (tracker.missed task)

/-- The next sample has the task without progress for too long. -/
def overdue (tracker : HealthTracker) (epochs : Epochs) (task : Fin 8) : Bool :=
  epochs task = tracker.lastEpoch task ∧ tracker.missLimit ≤ satInc (tracker.missed task)

/-- The number of the first overdue task, or zero. -/
def firstOverdue (tracker : HealthTracker) (epochs : Epochs) (tasks : List (Fin 8)) : U32 :=
  (tasks.find? (tracker.overdue epochs)).elim healthTaskNone fun task => BitVec.ofNat 32 (task.val + 1)

theorem taskNumber_ne_none (task : Fin 8) : BitVec.ofNat 32 (task.val + 1) ≠ healthTaskNone := by
  revert task
  decide

theorem scanTask_eq (tracker : HealthTracker) (epochs : Epochs) (found : U32) (task : Fin 8) :
    scanTask epochs (tracker, found) task =
      ({ tracker with
        lastEpoch := Function.update tracker.lastEpoch task (epochs task)
        missed := Function.update tracker.missed task (tracker.nextMissed epochs task) },
        if found = healthTaskNone ∧ tracker.overdue epochs task = true then BitVec.ofNat 32 (task.val + 1)
        else found) := by
  by_cases moved : epochs task ≠ tracker.lastEpoch task
  · simp [scanTask, nextMissed, overdue, moved]
  · have same : epochs task = tracker.lastEpoch task := not_not.mp moved
    simp [scanTask, nextMissed, overdue, same]

/-- The scan handles each of its tasks once and keeps the first overdue one. -/
theorem foldl_scanTask (epochs : Epochs) {tasks : List (Fin 8)} (distinct : tasks.Nodup) (tracker : HealthTracker)
    (found : U32) :
    tasks.foldl (scanTask epochs) (tracker, found) =
      ({ tracker with
        lastEpoch := fun task => if task ∈ tasks then epochs task else tracker.lastEpoch task
        missed := fun task => if task ∈ tasks then tracker.nextMissed epochs task else tracker.missed task },
        if found = healthTaskNone then tracker.firstOverdue epochs tasks else found) := by
  induction tasks generalizing tracker found with
  | nil => simp [firstOverdue]
  | cons task rest ih =>
      obtain ⟨absent, distinct⟩ := List.nodup_cons.mp distinct
      rw [List.foldl_cons, scanTask_eq, ih distinct]
      set scanned : HealthTracker := { tracker with
        lastEpoch := Function.update tracker.lastEpoch task (epochs task)
        missed := Function.update tracker.missed task (tracker.nextMissed epochs task) } with scannedDef
      have other {later : Fin 8} (listed : later ∈ rest) : later ≠ task := fun same => absent (same ▸ listed)
      have missed {later : Fin 8} (listed : later ∈ rest) :
          scanned.nextMissed epochs later = tracker.nextMissed epochs later := by
        simp [scannedDef, nextMissed, Function.update_of_ne (other listed)]
      have overdue : rest.find? (scanned.overdue epochs) = rest.find? (tracker.overdue epochs) := by
        apply List.find?_congr
        intro later listed
        simp [scannedDef, HealthTracker.overdue, Function.update_of_ne (other listed)]
      refine Prod.ext ?_ ?_
      · simp only [scannedDef, HealthTracker.mk.injEq, and_true]
        constructor
        · funext later
          by_cases listed : later ∈ rest
          · simp [listed]
          · by_cases same : later = task
            · simp [same, absent]
            · simp [listed, same]
        · funext later
          by_cases listed : later ∈ rest
          · simp only [List.mem_cons, listed, or_true, if_true]
            exact missed listed
          · by_cases same : later = task
            · simp [same, absent]
            · simp [listed, same]
      · -- A task that was found earlier stays, and the head of the list comes before its rest.
        by_cases none : found = healthTaskNone
        · cases late : tracker.overdue epochs task with
          | true => simp [none, late, firstOverdue, taskNumber_ne_none]
          | false => simp [none, late, firstOverdue, overdue]
        · simp [none]

/-- After its grace the tracker has seen all tasks of the sample. -/
theorem update_settled (tracker : HealthTracker) (epochs : Epochs) (settled : tracker.startupGrace = 0) :
    tracker.update epochs =
      let stuckTask := tracker.firstOverdue epochs (List.finRange 8)
      let failing : Bool := stuckTask ≠ healthTaskNone
      (!failing, { tracker with
        lastEpoch := epochs
        missed := tracker.nextMissed epochs
        stuckTask
        failureLatched := failing
        failureCount := if failing && !tracker.failureLatched then satInc tracker.failureCount
          else tracker.failureCount }) := by
  have scan := foldl_scanTask epochs (List.nodup_finRange 8) tracker healthTaskNone
  simp only [List.mem_finRange, if_true] at scan
  have started : ¬0 < tracker.startupGrace := by rw [settled]; decide
  rw [update, if_neg started, scan]
  by_cases none : tracker.firstOverdue epochs (List.finRange 8) = healthTaskNone
  · simp [none]
  · cases tracker.failureLatched <;> simp [none]

end HealthTracker

/-- The value is the number of the first such task, or zero without one. -/
def Names (stuck : Fin 8 → Prop) (value : U32) : Prop :=
  (∃ task, stuck task ∧ (∀ earlier < task, ¬stuck earlier) ∧ value.toNat = task.val + 1) ∨
    ((∀ task, ¬stuck task) ∧ value = healthTaskNone)

theorem Names.ne_none_iff {stuck : Fin 8 → Prop} {value : U32} (names : Names stuck value) :
    value ≠ healthTaskNone ↔ ∃ task, stuck task := by
  rcases names with ⟨task, found, _, number⟩ | ⟨clear, none⟩
  · constructor
    · exact fun _ => ⟨task, found⟩
    · rintro _ rfl
      cases number
  · simp [none, clear]

theorem HealthTracker.names_firstOverdue (tracker : HealthTracker) (epochs : Epochs) :
    Names (fun task => tracker.overdue epochs task = true) (tracker.firstOverdue epochs (List.finRange 8)) := by
  rw [firstOverdue]
  cases search : (List.finRange 8).find? (tracker.overdue epochs) with
  | none =>
      right
      refine ⟨fun task late => ?_, rfl⟩
      exact List.find?_eq_none.mp search task (List.mem_finRange task) late
  | some task =>
      left
      obtain ⟨late, index, inside, place, before⟩ := List.find?_eq_some_iff_getElem.mp search
      rw [List.getElem_finRange] at place
      refine ⟨task, late, fun earlier less => ?_, ?_⟩
      · have position : earlier.val < index := by
          rw [← place] at less
          exact less
        have clear := before earlier.val position
        rw [List.getElem_finRange] at clear
        simpa using clear
      · have bound := task.isLt
        change (task.val + 1) % 2 ^ 32 = _
        omega

/-! ### The samples -/

/-- For how many updates in a row the task has shown no progress, not counting the first ones. -/
def idleRun (sample : Nat → Epochs) (grace : Nat) (task : Fin 8) : Nat → Nat
  | 0 => 0
  | k + 1 => if grace ≤ k ∧ sample (k + 1) task = sample k task then idleRun sample grace task k + 1 else 0

/-- The task has shown no progress in each of the last updates, all of them after the first ones. -/
def StuckAt (sample : Nat → Epochs) (grace limit : Nat) (k : Nat) (task : Fin 8) : Prop :=
  grace + limit ≤ k ∧ ∀ update, k < update + limit → update ≤ k → sample update task = sample (update - 1) task

theorem idleRun_of_grace (sample : Nat → Epochs) {grace k : Nat} (early : k ≤ grace) (task : Fin 8) :
    idleRun sample grace task k = 0 := by
  cases k with
  | zero => rfl
  | succ k => rw [idleRun, if_neg (by omega)]

theorem le_idleRun_iff {sample : Nat → Epochs} {grace limit : Nat} (positive : 0 < limit) (k : Nat) (task : Fin 8) :
    limit ≤ idleRun sample grace task k ↔ StuckAt sample grace limit k task := by
  induction k generalizing limit with
  | zero =>
      rw [idleRun, StuckAt]
      omega
  | succ k ih =>
      obtain ⟨limit, rfl⟩ := Nat.exists_eq_add_of_lt positive
      rw [idleRun]
      split
      · next idle =>
          obtain ⟨late, same⟩ := idle
          rcases Nat.eq_zero_or_pos limit with rfl | more
          · constructor
            · intro _
              refine ⟨by omega, fun update above below => ?_⟩
              obtain rfl : update = k + 1 := by omega
              exact same
            · omega
          · have earlier := ih more
            constructor
            · intro long
              obtain ⟨room, before⟩ := earlier.mp (by omega)
              refine ⟨by omega, fun update above below => ?_⟩
              by_cases last : update = k + 1
              · rw [last]
                exact same
              · exact before update (by omega) (by omega)
            · rintro ⟨room, before⟩
              have long := earlier.mpr ⟨by omega, fun update above below => before update (by omega) (by omega)⟩
              omega
      · next broken =>
          constructor
          · omega
          · rintro ⟨room, before⟩
            exact absurd ⟨by omega, before (k + 1) (by omega) (le_refl _)⟩ broken

/-- Some task is stuck after this update. -/
def failing (sample : Nat → Epochs) (grace limit k : Nat) : Bool :=
  decide (∃ task : Fin 8, limit ≤ idleRun sample grace task k)

/-- How many of the first updates have started a failure. -/
def failureStarts (sample : Nat → Epochs) (grace limit k : Nat) : Nat :=
  (List.range k).countP fun update => failing sample grace limit (update + 1) && !failing sample grace limit update

/-- The tracker holds what the samples up to this update say. -/
structure Follows (sample : Nat → Epochs) (grace limit : U32) (k : Nat) (tracker : HealthTracker) : Prop where
  last : tracker.lastEpoch = sample k
  left : tracker.startupGrace.toNat = grace.toNat - k
  allowed : tracker.missLimit = limit
  missed : ∀ task, (tracker.missed task).toNat = min (idleRun sample grace.toNat task k) (2 ^ 32 - 1)
  stuck : Names (fun task => limit.toNat ≤ idleRun sample grace.toNat task k) tracker.stuckTask
  latched : tracker.failureLatched = failing sample grace.toNat limit.toNat k
  failures : tracker.failureCount.toNat = min (failureStarts sample grace.toNat limit.toNat k) (2 ^ 32 - 1)

section Follow

variable (sample : Nat → Epochs) {grace limit : U32} (positive : 0 < limit.toNat)
include positive

theorem failing_of_grace {k : Nat} (early : k ≤ grace.toNat) : failing sample grace.toNat limit.toNat k = false := by
  rw [failing, decide_eq_false_iff_not]
  rintro ⟨task, long⟩
  rw [idleRun_of_grace sample early] at long
  omega

theorem names_of_grace {k : Nat} (early : k ≤ grace.toNat) :
    Names (fun task => limit.toNat ≤ idleRun sample grace.toNat task k) healthTaskNone := by
  right
  refine ⟨fun task long => ?_, rfl⟩
  have none := idleRun_of_grace sample early task
  omega

theorem Follows.init : Follows sample grace limit 0 (HealthTracker.init (sample 0) grace limit) where
  last := rfl
  left := rfl
  allowed := rfl
  missed _ := rfl
  stuck := names_of_grace sample positive (Nat.zero_le _)
  latched := (failing_of_grace sample positive (Nat.zero_le _)).symm
  failures := rfl

variable {sample}

/-- The counters of a tracker without grace are those of the next update. -/
theorem Follows.counters {k : Nat} {tracker : HealthTracker} (follows : Follows sample grace limit k tracker)
    (late : grace.toNat ≤ k) (task : Fin 8) :
    (tracker.nextMissed (sample (k + 1)) task).toNat = min (idleRun sample grace.toNat task (k + 1)) (2 ^ 32 - 1) ∧
      (tracker.overdue (sample (k + 1)) task = true ↔ limit.toNat ≤ idleRun sample grace.toNat task (k + 1)) := by
  have missed := follows.missed task
  have counted := toNat_satInc (tracker.missed task)
  have bound := limit.isLt
  rw [HealthTracker.nextMissed, HealthTracker.overdue, decide_eq_true_iff, follows.last, follows.allowed, idleRun]
  by_cases same : sample (k + 1) task = sample k task
  · rw [if_neg (not_not.mpr same), if_pos ⟨late, same⟩, counted]
    constructor
    · omega
    · rw [BitVec.le_def, counted]
      constructor
      · rintro ⟨_, long⟩
        omega
      · intro long
        exact ⟨same, by omega⟩
  · rw [if_pos same, if_neg fun idle => same idle.2]
    constructor
    · rfl
    · constructor
      · rintro ⟨equal, _⟩
        exact absurd equal same
      · omega

/-- One more sample, and the answer to it. -/
theorem Follows.update {k : Nat} {tracker : HealthTracker} (follows : Follows sample grace limit k tracker) :
    (tracker.update (sample (k + 1))).1 = !failing sample grace.toNat limit.toNat (k + 1) ∧
      Follows sample grace limit (k + 1) (tracker.update (sample (k + 1))).2 := by
  have left := follows.left
  have starts : failureStarts sample grace.toNat limit.toNat (k + 1) = failureStarts sample grace.toNat limit.toNat k +
      if failing sample grace.toNat limit.toNat (k + 1) && !failing sample grace.toNat limit.toNat k then 1 else 0 := by
    rw [failureStarts, List.range_succ, List.countP_append, List.countP_singleton, failureStarts]
  by_cases early : k < grace.toNat
  · have counting : 0 < tracker.startupGrace := by
      rw [BitVec.lt_def, left]
      exact Nat.sub_pos_of_lt early
    have healthy := failing_of_grace sample positive (Nat.succ_le_of_lt early)
    have before := failing_of_grace sample positive (Nat.le_of_lt early)
    rw [HealthTracker.update, if_pos counting, healthy]
    refine ⟨rfl, rfl, ?_, follows.allowed, fun task => ?_, ?_, ?_, ?_⟩
    · have pred : (tracker.startupGrace - 1).toNat = tracker.startupGrace.toNat - 1 := by
        rw [BitVec.toNat_sub_of_le]
        · rfl
        · rw [BitVec.le_def, left]
          change 1 ≤ _
          omega
      change (tracker.startupGrace - 1).toNat = _
      omega
    · have missed := follows.missed task
      rw [idleRun_of_grace sample (by omega)] at missed ⊢
      exact missed
    · have stuck : tracker.stuckTask = healthTaskNone := by
        by_contra some
        obtain ⟨task, long⟩ := follows.stuck.ne_none_iff.mp some
        rw [idleRun_of_grace sample (by omega)] at long
        omega
      change Names _ tracker.stuckTask
      rw [stuck]
      exact names_of_grace sample positive (by omega)
    · rw [healthy, ← before]
      exact follows.latched
    · rw [starts, healthy]
      exact follows.failures
  · have settled : tracker.startupGrace = 0 := by
      apply BitVec.eq_of_toNat_eq
      rw [left]
      exact Nat.sub_eq_zero_of_le (by omega)
    have counters (task : Fin 8) := follows.counters positive (by omega) task
    have names : Names (fun task => limit.toNat ≤ idleRun sample grace.toNat task (k + 1))
        (tracker.firstOverdue (sample (k + 1)) (List.finRange 8)) := by
      have named := tracker.names_firstOverdue (sample (k + 1))
      simpa only [fun task => (counters task).2] using named
    have answer : decide (tracker.firstOverdue (sample (k + 1)) (List.finRange 8) ≠ healthTaskNone) =
        failing sample grace.toNat limit.toNat (k + 1) := by
      rw [failing]
      exact decide_eq_decide.mpr names.ne_none_iff
    rw [tracker.update_settled _ settled]
    dsimp only
    rw [answer]
    refine ⟨rfl, rfl, left.trans (by omega), follows.allowed, fun task => (counters task).1, names, rfl, ?_⟩
    have failures := follows.failures
    change (if failing sample grace.toNat limit.toNat (k + 1) && !tracker.failureLatched then
      satInc tracker.failureCount else tracker.failureCount).toNat = _
    rw [follows.latched, starts]
    split
    · exact toNat_satInc_of_eq failures
    · rw [Nat.add_zero, failures]

end Follow

/-! ### Whole sequences -/

namespace HealthTracker

theorem after_append (tracker : HealthTracker) (samples : List Epochs) (epochs : Epochs) :
    tracker.after (samples ++ [epochs]) = ((tracker.after samples).update epochs).2 := by
  rw [after, List.foldl_append]
  rfl

theorem answers_append (tracker : HealthTracker) (samples : List Epochs) (epochs : Epochs) :
    tracker.answers (samples ++ [epochs]) = tracker.answers samples ++ [((tracker.after samples).update epochs).1] := by
  induction samples generalizing tracker with
  | nil => rfl
  | cons first rest ih =>
      rw [List.cons_append, answers, answers, ih, List.cons_append]
      rfl

theorem take_answers (tracker : HealthTracker) (samples : List Epochs) (k : Nat) :
    (tracker.answers samples).take k = tracker.answers (samples.take k) := by
  induction samples generalizing tracker k with
  | nil => simp [answers]
  | cons first rest ih =>
      cases k with
      | zero => rfl
      | succ k => rw [answers, List.take_succ_cons, List.take_succ_cons, answers, ih]

end HealthTracker

/-- The first samples of a stream, after the initial one. -/
def firstSamples (sample : Nat → Epochs) (k : Nat) : List Epochs := (List.range k).map fun update => sample (update + 1)

theorem firstSamples_succ (sample : Nat → Epochs) (k : Nat) :
    firstSamples sample (k + 1) = firstSamples sample k ++ [sample (k + 1)] := by
  rw [firstSamples, List.range_succ, List.map_append]
  rfl

theorem follows_after (grace : U32) {limit : U32} (positive : 0 < limit.toNat) (sample : Nat → Epochs) (k : Nat) :
    Follows sample grace limit k ((HealthTracker.init (sample 0) grace limit).after (firstSamples sample k)) ∧
      (HealthTracker.init (sample 0) grace limit).answers (firstSamples sample k) =
        (List.range k).map fun update => !failing sample grace.toNat limit.toNat (update + 1) := by
  induction k with
  | zero => exact ⟨Follows.init sample positive, rfl⟩
  | succ k ih =>
      obtain ⟨answer, follows⟩ := ih.1.update positive
      rw [firstSamples_succ, HealthTracker.after_append, HealthTracker.answers_append, ih.2, answer, List.range_succ,
        List.map_append]
      exact ⟨follows, rfl⟩

/-- The sample before the first update is the initial one. -/
def sampleOf (initial : Epochs) (samples : List Epochs) (k : Nat) : Epochs := (initial :: samples).getD k initial

theorem take_samples (initial : Epochs) {samples : List Epochs} {k : Nat} (inside : k ≤ samples.length) :
    samples.take k = firstSamples (sampleOf initial samples) k := by
  apply List.ext_getElem
  · simp [firstSamples, inside]
  · intro index left right
    have bound : index < samples.length := by
      rw [List.length_take] at left
      omega
    simp [firstSamples, sampleOf, List.getElem?_eq_getElem bound]

/-- The number of maximal runs of false answers, each counted where it begins. -/
def failureRuns (answers : List Bool) : Nat :=
  (List.range answers.length).countP fun index =>
    answers[index]? == some false && (index == 0 || answers[index - 1]? == some true)

theorem failureRuns_eq (sample : Nat → Epochs) (grace : Nat) {limit : Nat} (positive : 0 < limit) (k : Nat) :
    failureRuns ((List.range k).map fun update => !failing sample grace limit (update + 1)) =
      failureStarts sample grace limit k := by
  rw [failureRuns, failureStarts, List.length_map, List.length_range]
  apply List.countP_congr
  intro index listed
  have inside := List.mem_range.mp listed
  cases index with
  | zero =>
      have start : failing sample grace limit 0 = false := by
        simp [failing, idleRun]
        omega
      simp [inside, start]
  | succ index => simp [inside, Nat.lt_of_succ_lt inside]

/-- After each update the tracker reports the first task that has missed the limit, and counts the failures. -/
theorem health_reports (initial : Epochs) (grace limit : U32) (positive : 1 ≤ limit.toNat) (samples : List Epochs)
    (k : Nat) (first : 1 ≤ k) (inside : k ≤ samples.length) :
    let tracker := HealthTracker.init initial grace limit
    let stuck := StuckAt (sampleOf initial samples) grace.toNat limit.toNat k
    ((tracker.answers samples)[k - 1]? = some false ↔ grace.toNat < k ∧ ∃ task, stuck task) ∧
      Names stuck (tracker.after (samples.take k)).stuckTask ∧
      (tracker.after (samples.take k)).failureCount.toNat =
        min (failureRuns ((tracker.answers samples).take k)) (2 ^ 32 - 1) := by
  intro tracker stuck
  obtain ⟨follows, answers⟩ := follows_after grace positive (sampleOf initial samples) k
  have same : (fun task => limit.toNat ≤ idleRun (sampleOf initial samples) grace.toNat task k) = stuck := by
    funext task
    exact propext (le_idleRun_iff positive k task)
  rw [← take_samples initial inside] at follows answers
  change tracker.answers (samples.take k) = _ at answers
  refine ⟨?_, ?_, ?_⟩
  · have listed : (tracker.answers samples)[k - 1]? = ((tracker.answers samples).take k)[k - 1]? := by
      rw [List.getElem?_take, if_pos (by omega)]
    rw [listed, tracker.take_answers, answers, List.getElem?_map, List.getElem?_range (by omega), Option.map_some,
      Option.some.injEq, Bool.not_eq_false', Nat.sub_add_cancel first, failing, decide_eq_true_iff]
    constructor
    · rintro ⟨task, long⟩
      have found := (le_idleRun_iff positive k task).mp long
      have room := found.1
      exact ⟨by omega, task, found⟩
    · rintro ⟨_, task, found⟩
      exact ⟨task, (le_idleRun_iff positive k task).mpr found⟩
  · rw [← same]
    exact follows.stuck
  · rw [tracker.take_answers, answers, failureRuns_eq _ _ positive]
    exact follows.failures

/-- The last task stops after the grace of one sample, and the second miss is reported. -/
theorem health_reports_second_miss :
    let moving : Nat → Epochs := fun k task => if task = 7 then 0 else BitVec.ofNat 32 k
    let samples := [moving 1, moving 2, moving 3]
    1 ≤ (2 : U32).toNat ∧ 1 ≤ 3 ∧ 3 ≤ samples.length ∧
      ((HealthTracker.init (moving 0) 1 2).answers samples)[2]? = some false := by
  intro moving samples
  refine ⟨by decide, by decide, by decide, ?_⟩
  apply (health_reports (moving 0) 1 2 (by decide) samples 3 (by decide) (by decide)).1.mpr
  refine ⟨by decide, 7, by decide, ?_⟩
  intro update above below
  obtain rfl | rfl : update = 2 ∨ update = 3 := by
    change 3 < update + 2 at above
    omega
  · rfl
  · rfl

end VamsSoc.Firmware
