/-
This file shows which completions of the firmware the portal accepts.
-/

import VamsSoc.Construction.Firmware.PortalDriver
import VamsSoc.Proof.Portal.Exchange

namespace VamsSoc.Firmware
open Library Abi

/-- The bridge brings bytes and changes its connection. -/
def ofBridge : Mgmt.Event → Bool
  | .receive _ _ | .link _ _ | .tick _ => true
  | _ => false

/-- The traffic comes from the bridge alone. -/
def Bridged (traffic : Traffic) : Prop :=
  ∀ index portal, ∃ events : List Mgmt.Event, (∀ event ∈ events, ofBridge event = true) ∧
    Mgmt.step.run portal events = some (traffic index portal)

/-- The portal has counted the completion, and has latched its bytes or sent them on the bridge. -/
def Accepted (portal after : Mgmt.State) (completion : Completion) : Prop :=
  after.command.completeCount = satInc portal.command.completeCount ∧
    ((completionPending after = true ∧ after.command.completion = completion.toBytes) ∨
      after.link.tx = portal.link.tx ++ [⟨.answer, portal.command.completionFetch, completion.toBytes⟩])

instance (portal after : Mgmt.State) (completion : Completion) : Decidable (Accepted portal after completion) :=
  inferInstanceAs (Decidable (_ ∧ _))

/-- No management reset is pending, and the completion window is free. -/
structure Open (portal : Mgmt.State) : Prop where
  working : portal.reset.pending = false
  silent : portal.reset.ackExpected = false
  free : completionPending portal = false

/-- The parts of the portal that a completion changes. -/
structure SameWindow (portal later : Mgmt.State) : Prop where
  completion : later.command.completion = portal.command.completion
  completeCount : later.command.completeCount = portal.command.completeCount
  completionFetch : later.command.completionFetch = portal.command.completionFetch
  tx : later.link.tx = portal.link.tx

theorem SameWindow.trans {portal later last : Mgmt.State} (first : SameWindow portal later)
    (second : SameWindow later last) : SameWindow portal last :=
  ⟨second.completion.trans first.completion, second.completeCount.trans first.completeCount,
    second.completionFetch.trans first.completionFetch, second.tx.trans first.tx⟩

/-- The bridge keeps an open portal open and leaves its window alone. -/
def Quiet (portal later : Mgmt.State) : Prop := Open later ∧ SameWindow portal later

theorem require_eq (portal : Mgmt.State) (assertion : Mgmt.Assertion) (holds : Bool) :
    ∃ failed, Mgmt.require portal assertion holds = { portal with failed } := by
  cases holds with
  | true => exact ⟨portal.failed, rfl⟩
  | false => exact ⟨assertion :: portal.failed, rfl⟩

theorem quiet_receive {portal : Mgmt.State} (opened : Open portal) (bytes : List U8) (fetch : Nat) :
    Quiet portal (Mgmt.receive portal bytes fetch) := by
  obtain ⟨working, silent, free⟩ := opened
  have raised (bits : U32) (apart : bits &&& Mgmt.commandF2hPending = 0) :
      hasBits (portal.command.status ||| bits) Mgmt.commandF2hPending = false := by
    rw [hasBits_or _ apart]
    exact free
  unfold Mgmt.receive
  dsimp only
  obtain ⟨failed, checked⟩ := require_eq portal .receiveRoom
    (decide ((portal.command.rx ++ bytes).length ≤ Mgmt.expectedSize portal))
  rw [checked]
  split
  · exact ⟨⟨working, silent, free⟩, ⟨rfl, rfl, rfl, rfl⟩⟩
  split
  · next acknowledged => exact (Bool.false_ne_true (silent.symm.trans acknowledged)).elim
  split
  · unfold Mgmt.receiveResult
    split
    · exact ⟨⟨working, silent, free⟩, ⟨rfl, rfl, rfl, rfl⟩⟩
    · exact ⟨⟨working, silent, raised _ (by decide)⟩, ⟨rfl, rfl, rfl, rfl⟩⟩
  · exact ⟨⟨working, silent, raised _ (by decide)⟩, ⟨rfl, rfl, rfl, rfl⟩⟩

theorem quiet_traffic {traffic : Traffic} (bridged : Bridged traffic) (index : Nat) {portal : Mgmt.State}
    (opened : Open portal) : Quiet portal (traffic index portal) := by
  obtain ⟨events, fromBridge, ran⟩ := bridged index portal
  have kept : Mgmt.step.Meets (fun _ event => ofBridge event = true) portal events :=
    EventMachine.meets_of_forall (fun _ event member => fromBridge event member) portal
  have keeps : ∀ middle event next, Quiet portal middle → ofBridge event = true → Mgmt.step middle event = some next →
      Quiet portal next := by
    intro middle event next quiet bridge stepped
    cases event with
    | receive bytes fetch =>
        obtain ⟨-, rfl⟩ := EventMachine.guarded stepped
        have received := quiet_receive quiet.1 bytes fetch
        exact ⟨received.1, quiet.2.trans received.2⟩
    | link connected writable =>
        obtain rfl := Option.some.inj stepped
        exact ⟨⟨quiet.1.working, quiet.1.silent, quiet.1.free⟩, quiet.2.trans ⟨rfl, rfl, rfl, rfl⟩⟩
    | tick nowNs =>
        obtain ⟨-, rfl⟩ := EventMachine.guarded stepped
        exact ⟨⟨quiet.1.working, quiet.1.silent, quiet.1.free⟩, quiet.2.trans ⟨rfl, rfl, rfl, rfl⟩⟩
    | _ => exact (Bool.false_ne_true bridge).elim
  exact EventMachine.run_invariant keeps ⟨opened, ⟨rfl, rfl, rfl, rfl⟩⟩ kept ran

/-- The portal is open, its window has these bytes, and nothing has been completed or sent since. -/
def Holds (portal later : Mgmt.State) (bytes : List U8) : Prop :=
  Open later ∧ SameWindow (portal.setCommand { portal.command with completion := bytes }) later

section Fill
variable {traffic : Traffic} (bridged : Bridged traffic) {portal : Mgmt.State} (opened : Open portal)
include bridged opened

theorem holds_words (record : Completion) (words : Nat) (inside : words ≤ completionSize / 4) :
    Holds portal ((List.range words).foldl (fun portal index =>
      Mgmt.commandWrite (traffic index portal) (.completion index) (leWord 32 record.toBytes (4 * index))) portal)
      (Mgmt.partlyCopied portal.command.completion record.toBytes words) := by
  induction words with
  | zero => exact ⟨opened, ⟨by simp [Mgmt.partlyCopied], rfl, rfl, rfl⟩⟩
  | succ words ih =>
      obtain ⟨before, same⟩ := ih (by omega)
      obtain ⟨now, still⟩ := quiet_traffic bridged words before
      have size : 4 * words + 4 ≤ record.toBytes.length := by
        rw [Completion.length_toBytes]
        change words + 1 ≤ 8 at inside
        change 4 * words + 4 ≤ 32
        omega
      rw [List.range_succ, List.foldl_append, List.foldl_cons, List.foldl_nil,
        Mgmt.writeCompletion_open now.working now.free]
      have whole := same.trans still
      refine ⟨⟨now.working, now.silent, now.free⟩, ⟨?_, whole.completeCount, whole.completionFetch, whole.tx⟩⟩
      change Mgmt.setWord _ words _ = _
      rw [whole.completion]
      exact Mgmt.setWord_partlyCopied size

theorem holds_fillWindow (sized : portal.command.completion.length = completionSize) (record : Completion) :
    Holds portal (fillWindow traffic portal record) record.toBytes := by
  obtain ⟨before, same⟩ := holds_words bridged opened record (completionSize / 4) le_rfl
  obtain ⟨now, still⟩ := quiet_traffic bridged (completionSize / 4) before
  have whole : Mgmt.partlyCopied portal.command.completion record.toBytes (completionSize / 4) = record.toBytes := by
    have written : record.toBytes.length ≤ 4 * (completionSize / 4) := by
      rw [Completion.length_toBytes]
      decide
    have rest : portal.command.completion.length ≤ 4 * (completionSize / 4) := by
      rw [sized]
      decide
    rw [Mgmt.partlyCopied, List.take_of_length_le written, List.drop_eq_nil_of_le rest, List.append_nil]
  rw [whole] at same
  exact ⟨now, same.trans still⟩

end Fill

theorem busy_eq {portal : Mgmt.State} (opened : Open portal) :
    hasBits portal.command.status (Mgmt.commandH2fPending ||| Mgmt.commandF2hPending) = pending portal := by
  have free : hasBits portal.command.status Mgmt.commandF2hPending = false := opened.free
  rw [hasBits_mask_or, free, Bool.or_false]
  rfl

/-- Only a waiting submission makes an open portal refuse the completion in its window. -/
theorem fwComplete_refused {portal : Mgmt.State} (opened : Open portal) (waiting : pending portal = true) :
    Mgmt.commandWrite portal .fwComplete 1 = portal.setCommand (portal.command.setBits Mgmt.commandF2hOverflow) := by
  simp [Mgmt.commandWrite, opened.working, Mgmt.fwComplete, busy_eq opened, waiting]

theorem fwComplete_accepted {portal : Mgmt.State} (opened : Open portal) (taken : pending portal = false) :
    (Mgmt.commandWrite portal .fwComplete 1).command.completeCount = satInc portal.command.completeCount ∧
      ((completionPending (Mgmt.commandWrite portal .fwComplete 1) = true ∧
        (Mgmt.commandWrite portal .fwComplete 1).command.completion = portal.command.completion) ∨
      (Mgmt.commandWrite portal .fwComplete 1).link.tx =
        portal.link.tx ++ [⟨.answer, portal.command.completionFetch, portal.command.completion⟩]) := by
  have entered : Mgmt.commandWrite portal .fwComplete 1 = Mgmt.fwComplete portal 1 := by
    simp [Mgmt.commandWrite, opened.working]
  have latched : hasBits (portal.command.status ||| Mgmt.commandF2hPending) Mgmt.commandF2hPending = true :=
    hasBits_set _ (by decide)
  rw [entered, Mgmt.fwComplete, if_neg (by simp [busy_eq opened, taken])]
  dsimp only
  split
  · exact ⟨rfl, .inl ⟨latched, rfl⟩⟩
  next linked =>
    have connected : portal.link.connected = true := by simpa using linked
    cases up : portal.link.writable with
    | true =>
        obtain ⟨active, answered⟩ := Mgmt.Command.answered_eq { portal.command with
          status := portal.command.status ||| Mgmt.commandF2hPending
          completeCount := satInc portal.command.completeCount }
        rw [Mgmt.chrWriteAll_up (by exact connected) (by exact up), if_pos rfl]
        refine ⟨?_, .inr rfl⟩
        simp only [Mgmt.State.setCommand_command, Mgmt.State.setLink_command, answered]
        rfl
    | false =>
        have fails : Mgmt.chrWriteAll (portal.setCommand { portal.command with
            status := portal.command.status ||| Mgmt.commandF2hPending
            completeCount := satInc portal.command.completeCount }) .answer portal.command.completionFetch
            portal.command.completion = (false, _) := if_neg (by simp [up])
        rw [fails, if_neg Bool.false_ne_true]
        exact ⟨rfl, .inl ⟨hasBits_or_of_hasBits latched _, rfl⟩⟩

/-- When the call returns success, the portal has accepted the completion exactly if no submission was waiting at the
write that publishes it. -/
theorem accepted_iff_nothing_waiting (traffic : Traffic) (bridged : Bridged traffic) (portal after : Mgmt.State)
    (working : portal.reset.pending = false ∧ portal.reset.ackExpected = false)
    (sized : portal.command.completion.length = completionSize) (completion : Completion)
    (returned : commandComplete traffic portal completion = some after) :
    Accepted portal after completion ↔ pending (fillWindow traffic portal completion) = false := by
  unfold commandComplete at returned
  split at returned
  · cases returned
  next free =>
  have opened : Open portal := ⟨working.1, working.2, Bool.eq_false_iff.mpr free⟩
  obtain ⟨now, same⟩ := holds_fillWindow bridged opened sized completion
  obtain rfl := Option.some.inj returned
  cases waiting : pending (fillWindow traffic portal completion) with
  | true =>
      rw [fwComplete_refused now waiting]
      refine iff_of_false ?_ nofun
      rintro ⟨-, ⟨latched, -⟩ | sent⟩
      · have refused : completionPending (fillWindow traffic portal completion) = true := by
          rw [← latched]
          exact (hasBits_or _ (by decide)).symm
        exact Bool.false_ne_true (now.free.symm.trans refused)
      · have longer := congrArg List.length (same.tx.symm.trans sent)
        simp at longer
  | false =>
      refine iff_of_true ?_ rfl
      have accepted := fwComplete_accepted now waiting
      rwa [same.completeCount, same.completion, same.completionFetch, same.tx] at accepted

/-- A portal that has brought a first submission to the firmware and has a second one waiting. -/
def waitingPortal : Mgmt.State :=
  let first := Mgmt.receive (Mgmt.powerOn false true) (List.replicate submissionSize 0) 0
  Mgmt.receive (Mgmt.commandWrite first .fwAck 1) (List.replicate submissionSize 0) 1

/-- The call returns success, and the portal has dropped the completion. -/
theorem completion_dropped :
    ∃ after, commandComplete noTraffic waitingPortal {} = some after ∧ after.command.completeCount = 0 ∧
      after.link.tx = [] ∧ ¬Accepted waitingPortal after {} :=
  ⟨_, rfl, by decide +kernel⟩

theorem completion_sent :
    Accepted (Mgmt.powerOn false true)
        (Mgmt.commandWrite (fillWindow noTraffic (Mgmt.powerOn false true) {}) .fwComplete 1) {} ↔
      pending (fillWindow noTraffic (Mgmt.powerOn false true) {}) = false :=
  accepted_iff_nothing_waiting noTraffic (fun _ _ => ⟨[], nofun, rfl⟩) _ _ ⟨rfl, rfl⟩ rfl {} rfl

end VamsSoc.Firmware
