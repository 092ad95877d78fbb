/-
This file has what the probe and the removal need and leave.
-/

import VamsSoc.Construction.Driver.Probe
import VamsSoc.Proof.Driver.CallRules

namespace VamsSoc.Driver
open Library Abi

variable {δ : Type} {hw : Hardware δ} {share : Share}

section QuietParts

theorem quiet_allocQueues : Quiet allocQueues := by
  refine .op rfl fun sq _ => ?_
  cases sq with
  | none => trivial
  | some sqDma =>
      refine .op rfl fun _ _ => .op rfl fun _ _ => .op rfl fun cq _ => ?_
      cases cq with
      | none => exact .op rfl fun _ _ => .op rfl fun _ _ => trivial
      | some cqDma =>
          refine .op rfl fun _ _ => .op rfl fun _ _ => ?_
          split
          · exact .op rfl fun _ _ => .op rfl fun _ _ => .op rfl fun _ _ => .op rfl fun _ _ => trivial
          · trivial

theorem quiet_freeQueues : Quiet freeQueues := by
  have ends : Quiet (do
      if (← call .fields).sq then call (.release .sqRing)
      call (.assign (.cq false))
      call (.assign (.sq false))) := by
    refine .op rfl fun fields _ => ?_
    dsimp only
    split
    · exact .op rfl fun _ _ => .op rfl fun _ _ => .op rfl fun _ _ => trivial
    · exact .op rfl fun _ _ => .op rfl fun _ _ => trivial
  refine .op rfl fun fields _ => ?_
  dsimp only
  split
  · exact .op rfl fun _ _ => ends
  · exact ends

theorem quiet_validateEndpoint : Quiet validateEndpoint := by
  refine .op rfl fun deviceId _ => ?_
  split
  · trivial
  refine .op rfl fun version _ => .op rfl fun _ _ => .op rfl fun fields _ => ?_
  split
  · trivial
  refine .op rfl fun descriptor _ => ?_
  split
  · trivial
  refine .op rfl fun capabilities _ => .op rfl fun _ _ => .op rfl fun fields _ => ?_
  split
  · trivial
  refine .op rfl fun status _ => ?_
  split
  · trivial
  · exact .op rfl fun _ _ => .op rfl fun _ _ => .op rfl fun _ _ => .op rfl fun _ _ => trivial

theorem quiet_setDmaMask : Quiet setDmaMask := by
  refine .op rfl fun wide _ => ?_
  split
  · trivial
  refine .op rfl fun narrow _ => ?_
  split <;> trivial

theorem quiet_registerChardev : Quiet registerChardev := by
  refine .op rfl fun number _ => ?_
  cases number with
  | some error => trivial
  | none =>
      refine .op rfl fun _ _ => .op rfl fun name _ => ?_
      cases name with
      | some error => exact .op rfl fun _ _ => .op rfl fun _ _ => trivial
      | none =>
          refine .op rfl fun _ _ => .op rfl fun misc _ => ?_
          cases misc with
          | some error => exact .op rfl fun _ _ => .op rfl fun _ _ => .op rfl fun _ _ => .op rfl fun _ _ => trivial
          | none => trivial

theorem quiet_forceInterrupt (test : Test) (source : U32) : Quiet (forceInterrupt test source) :=
  .op rfl fun _ _ => .op rfl fun _ _ => .op rfl fun _ _ => ⟨rfl, fun _ _ => trivial⟩

theorem quiet_irqSelftest (config : Config) : Quiet (irqSelftest config) := by
  unfold irqSelftest
  split
  · trivial
  refine (quiet_forceInterrupt .cq _).seq fun cq => ?_
  split
  · trivial
  refine (quiet_forceInterrupt .async _).seq fun async => ?_
  split <;> trivial

theorem quiet_nopSelftest (config : Config) : Quiet (nopSelftest config) := by
  unfold nopSelftest
  split
  · trivial
  refine .op rfl fun fields _ => ?_
  split
  · trivial
  refine .op rfl fun fields _ => .op rfl fun _ _ => .op rfl fun _ _ => .op rfl fun _ _ => .op rfl fun _ _ => ?_
  refine .op rfl fun _ _ => .op rfl fun _ _ => .op rfl fun _ _ => .op rfl fun finished _ => ?_
  split
  · exact .op rfl fun _ _ => trivial
  refine .op rfl fun fields _ => ?_
  dsimp only
  split <;> trivial

theorem quiet_errIounmap : Quiet errIounmap :=
  .op rfl fun _ _ => .op rfl fun _ _ => .op rfl fun _ _ => quiet_devicePut

theorem quiet_errFreeQueues : Quiet errFreeQueues := quiet_freeQueues.seq fun _ => quiet_errIounmap

theorem quiet_errFreeVectors : Quiet errFreeVectors := .op rfl fun _ _ => quiet_errFreeQueues

theorem quiet_probeEndpoint (config : Config) : Quiet (probeEndpoint config) := by
  refine quiet_maskInterrupts.seq fun _ => .op rfl fun _ _ => quiet_validateEndpoint.seq fun valid => ?_
  cases valid with
  | some error => trivial
  | none =>
      refine quiet_setDmaMask.seq fun mask => ?_
      cases mask with
      | some error => trivial
      | none =>
          dsimp only
          split
          · trivial
          refine .op rfl fun fields _ => ?_
          split
          · exact quiet_allocQueues
          · trivial

end QuietParts

section Freeing

/-- A thread that releases the interrupt of the completion queue may cancel requests without a lock. -/
theorem safe_free_cqIrq {post : Unit → Share → Prop} (tears : ∃ task ∈ share.tasks, task.tearsDown = true)
    (next : post () (share.push .frees)) : Safe hw post share (call (.release .cqIrq)) := by
  apply safe_op
  intro choice s own rest reply s' own' agrees ledger executed
  simp only [exec] at executed
  split at executed
  · cases executed
    have released : Ledger (Shared.setResource hw s .cqIrq false) (share + rest) := ledger.setResource .cqIrq false
    refine ⟨_, ?_, ?_, next⟩
    · refine agrees.setRefs agrees.refs rfl rfl ⟨agrees.proper.uncounted, ?_, agrees.proper.polls, fun _ => tears⟩
      intro _
      exact .inr (.inr (Nat.succ_pos _))
    · rw [Share.push_add]
      exact { released with freed := fun _ => List.mem_cons_self .. }
  · cases executed

/-- A thread that has settled its requests is like the others again. -/
theorem weakens_unfree (proper : share.Proper) : Weakens δ (share.push .frees) share := by
  intro own s rest agrees ledger
  change Ledger s (share.push .frees + rest) at ledger
  rw [Share.push_add] at ledger
  constructor
  · exact Agrees.setRefs agrees agrees.refs rfl rfl proper
  · exact { ledger with freed := fun some => ledger.freed (Nat.lt_succ_of_lt some) }

theorem settles_frees (share : Share) : (share.push .frees).Settles := .inr (.inr (Nat.succ_pos _))

end Freeing

section Probe

theorem safe_runPollSelftest {request : Nat} {post : Option Errno → Share → Prop} (submitter : share.Submitter)
    (next : ∀ result, post result (share.push (.ref (.request request)))) :
    Safe hw post ((share.push (.draft ⟨request, none, 0⟩)).push (.fresh request)) (runPollSelftest request) := by
  refine .bind (safe_submitNop submitter ?_ ?_)
  · intro error
    exact .done (next _)
  have guards := guards_ref share request
  refine .bind (safe_waitForCompletion guards ?_ ?_)
  · refine .weaken (weakens_drop trivial) (.bind (safe_readRequest guards fun record => ?_))
    split
    · exact .done (next _)
    split
    · exact .done (next _)
    · exact .done (next _)
  · intro error
    exact .done (next _)

theorem safe_pollSelftest {config : Config} {post : Option Errno → Share → Prop} (submitter : share.Submitter)
    (next : ∀ result, post result share) : Safe hw post share (pollSelftest config) := by
  unfold pollSelftest
  split
  · exact .done (next _)
  refine .bind (safe_allocRequest nofun (.done (next _)) fun request => ?_)
  refine .weaken (weakens_drop trivial) (.bind (safe_neutral rfl fun _ => .bind (safe_neutral rfl fun _ => ?_)))
  refine .bind (safe_runPollSelftest submitter fun result => ?_)
  refine .bind (safe_neutral rfl fun _ => .bind (safe_neutral rfl fun _ => ?_))
  exact .bind (safe_neutral rfl fun _ => .bind (safe_requestPut (.done (next _))))

/-- The removal is announced before the poll work is cancelled. -/
theorem safe_stopPolling {code : Code Unit} {post : Unit → Share → Prop} (safe : Safe hw post share code) :
    Safe hw post share (do
      call (.lock .submit)
      call (.assign .removing)
      call (.unlock .submit)
      call (.release .miscDevice)
      call (.cancelSync .cqPoll)
      code) := by
  refine safe_proper fun proper => .bind (safe_lock (.bind (safe_assign_removing ?_)))
  rw [Share.push_comm]
  refine .bind (safe_unlock ?_ (.bind (safe_neutral rfl fun _ => .bind (safe_cancel_poll ?_))))
  · exact proper.of_le (Multiset.Subset.refl _) rfl rfl le_rfl le_rfl le_rfl
  · exact .weaken (weakens_drop trivial) safe

/-- The part of the start after the queues are configured. -/
def selftests (config : Config) : Code (Option Errno) := do
  call (.writel .intrMask 0)
  let _ ← call (.readl .intrMask)
  match ← irqSelftest config with
  | some error => return some error
  | none =>
      match ← nopSelftest config with
      | some error => return some error
      | none =>
          match ← pollSelftest config with
          | some error => return some error
          | none => registerChardev

theorem safe_selftests {config : Config} {post : Option Errno → Share → Prop} (submitter : share.Submitter)
    (next : ∀ result, post result share) : Safe hw post share (selftests config) := by
  refine .bind (safe_neutral rfl fun _ => .bind (safe_neutral rfl fun _ => ?_))
  refine .bind (safe_quiet (quiet_irqSelftest config) fun interrupts => ?_)
  cases interrupts with
  | some error => exact .done (next _)
  | none =>
      refine .bind (safe_quiet (quiet_nopSelftest config) fun nop => ?_)
      cases nop with
      | some error => exact .done (next _)
      | none =>
          refine .bind (safe_pollSelftest submitter fun poll => ?_)
          cases poll with
          | some error => exact .done (next _)
          | none => exact safe_quiet quiet_registerChardev next

theorem safe_startDevice {config : Config} {post : Option Errno → Share → Prop} (submitter : share.Submitter)
    (next : ∀ result, post result share) : Safe hw post share (startDevice config) := by
  have start : Safe hw post share (selftests config) := safe_selftests submitter next
  refine .bind (safe_neutral rfl fun fields => ?_)
  dsimp only
  split
  · refine .bind (safe_quiet quiet_configureQueues fun configured => ?_)
    cases configured with
    | some error => exact .done (next _)
    | none => exact start
  · exact start

theorem quiet_errReleaseRegion : Quiet errReleaseRegion := .op rfl fun _ _ => .op rfl fun _ _ => quiet_devicePut

theorem quiet_errDisableDevice : Quiet errDisableDevice := .op rfl fun _ _ => quiet_devicePut

end Probe

section Teardown
variable (tears : ∃ task ∈ share.tasks, task.tearsDown = true)
include tears

theorem safe_errFreeCqIrq {post : Unit → Share → Prop} (next : post () share) :
    Safe hw post share errFreeCqIrq := by
  refine safe_proper fun proper => .bind (safe_free_cqIrq tears (.bind (safe_neutral rfl fun _ => ?_)))
  refine .bind (safe_cancelRequests (settles_frees share) (.weaken (weakens_unfree proper) ?_))
  exact safe_quiet quiet_errFreeVectors fun _ => next

theorem safe_errFreeAsyncIrq {post : Unit → Share → Prop} (next : post () share) :
    Safe hw post share errFreeAsyncIrq :=
  .bind (safe_neutral rfl fun _ => safe_errFreeCqIrq tears next)

theorem safe_errClearMaster {post : Unit → Share → Prop} (next : post () share) :
    Safe hw post share errClearMaster := by
  refine .bind (safe_quiet quiet_maskInterrupts fun _ => .bind (safe_quiet quiet_disableQueues fun _ => ?_))
  exact .bind (safe_neutral rfl fun _ => .bind (safe_neutral rfl fun _ => safe_errFreeAsyncIrq tears next))

theorem safe_errDeregisterMisc {post : Unit → Share → Prop} (next : post () share) :
    Safe hw post share errDeregisterMisc :=
  safe_stopPolling (safe_errClearMaster tears next)

theorem safe_remove {post : Unit → Share → Prop} (next : post () share) :
    Safe hw post share remove := by
  refine safe_stopPolling (.bind (safe_quiet quiet_maskInterrupts fun _ => .bind (safe_neutral rfl fun _ => ?_)))
  refine .bind (safe_quiet quiet_disableQueues fun _ => .bind (safe_neutral rfl fun _ => ?_))
  refine .bind (safe_neutral rfl fun _ => ?_)
  refine safe_proper fun proper => .bind (safe_free_cqIrq tears (.bind (safe_neutral rfl fun _ => ?_)))
  refine .bind (safe_cancelRequests (settles_frees share) (.weaken (weakens_unfree proper) ?_))
  refine .bind (safe_neutral rfl fun _ => ?_)
  refine .bind (safe_quiet quiet_freeQueues fun _ => .bind (safe_neutral rfl fun _ => .bind (safe_neutral rfl fun _ => ?_)))
  exact .bind (safe_neutral rfl fun _ => .bind (safe_neutral rfl fun _ => safe_quiet quiet_devicePut fun _ => next))

end Teardown

section Start
variable (probes : .probe ∈ share.tasks)
include probes

theorem tears_of_probes : ∃ task ∈ share.tasks, task.tearsDown = true := ⟨_, probes, rfl⟩

theorem safe_probeStarted {config : Config} {post : Option Errno → Share → Prop}
    (next : ∀ result, post result share) : Safe hw post share (probeStarted config) := by
  refine .bind (safe_neutral rfl fun _ => .bind (safe_neutral rfl fun _ => ?_))
  refine .bind (safe_startDevice ⟨_, probes, rfl⟩ fun started => ?_)
  cases started with
  | some error => exact .bind (safe_errClearMaster (tears_of_probes probes) (.done (next _)))
  | none =>
      dsimp only
      split
      · exact .bind (safe_errDeregisterMisc (tears_of_probes probes) (.done (next _)))
      · exact .bind (safe_neutral rfl fun _ => .done (next _))

theorem safe_probeInterrupts {config : Config} {post : Option Errno → Share → Prop}
    (next : ∀ result, post result share) : Safe hw post share (probeInterrupts config) := by
  refine .bind (safe_neutral rfl fun cq => ?_)
  cases cq with
  | some error => exact .bind (safe_quiet quiet_errFreeVectors fun _ => .done (next _))
  | none =>
      dsimp only
      split
      · exact .bind (safe_errFreeCqIrq (tears_of_probes probes) (.done (next _)))
      refine .bind (safe_neutral rfl fun async => ?_)
      cases async with
      | some error => exact .bind (safe_errFreeCqIrq (tears_of_probes probes) (.done (next _)))
      | none =>
          dsimp only
          split
          · exact .bind (safe_errFreeAsyncIrq (tears_of_probes probes) (.done (next _)))
          · exact safe_probeStarted probes next

theorem safe_probeVectors {config : Config} {post : Option Errno → Share → Prop}
    (next : ∀ result, post result share) : Safe hw post share (probeVectors config) := by
  unfold probeVectors
  split
  · exact .bind (safe_quiet quiet_errFreeQueues fun _ => .done (next _))
  refine .bind (safe_neutral rfl fun vectors => ?_)
  cases vectors with
  | some error => exact .bind (safe_quiet quiet_errFreeQueues fun _ => .done (next _))
  | none =>
      refine .bind (safe_neutral rfl fun enough => ?_)
      split
      · exact .bind (safe_quiet quiet_errFreeVectors fun _ => .done (next _))
      split
      · exact .bind (safe_quiet quiet_errFreeVectors fun _ => .done (next _))
      · exact safe_probeInterrupts probes next

theorem safe_probeMapped {config : Config} {post : Option Errno → Share → Prop}
    (next : ∀ result, post result share) : Safe hw post share (probeMapped config) := by
  unfold probeMapped
  split
  · exact .bind (safe_quiet quiet_errIounmap fun _ => .done (next _))
  refine .bind (safe_quiet (quiet_probeEndpoint config) fun valid => ?_)
  cases valid with
  | some error => exact .bind (safe_quiet quiet_errIounmap fun _ => .done (next _))
  | none => exact safe_probeVectors probes next

theorem safe_probeRegion {config : Config} {post : Option Errno → Share → Prop}
    (next : ∀ result, post result share) : Safe hw post share (probeRegion config) := by
  unfold probeRegion
  split
  · exact .bind (safe_quiet quiet_errReleaseRegion fun _ => .done (next _))
  refine .bind (safe_neutral rfl fun bar => ?_)
  cases bar with
  | some error => exact .bind (safe_quiet quiet_errReleaseRegion fun _ => .done (next _))
  | none => exact safe_probeMapped probes next

theorem safe_probeEnabled {config : Config} {post : Option Errno → Share → Prop}
    (next : ∀ result, post result share) : Safe hw post share (probeEnabled config) := by
  have failed : ∀ error, Safe hw post share (errDisableDevice >>= fun _ => pure (some error)) :=
    fun error => .bind (safe_quiet quiet_errDisableDevice fun _ => .done (next _))
  unfold probeEnabled
  split
  · exact failed _
  refine .bind (safe_neutral rfl fun bar => ?_)
  split
  · exact failed _
  refine .bind (safe_neutral rfl fun region => ?_)
  cases region with
  | some error => exact failed _
  | none => exact safe_probeRegion probes next

/-- The probe leaves nothing behind but what its interrupts and its work may still hold. -/
theorem safe_probe {config : Config} {post : Option Errno → Share → Prop}
    (next : ∀ result, post result share) : Safe hw post share (probe config) := by
  refine .bind (safe_neutral rfl fun allocated => ?_)
  split
  · exact .done (next _)
  refine .bind (safe_neutral rfl fun _ => .bind (safe_neutral rfl fun memory => ?_))
  cases memory with
  | some error => exact .bind (safe_quiet quiet_devicePut fun _ => .done (next _))
  | none => exact safe_probeEnabled probes next

end Start
end VamsSoc.Driver
