/-
This file shows that the word writes of the firmware put a whole record into the completion window.
-/

import VamsSoc.Construction.Firmware.Threads

namespace VamsSoc.Mgmt
open Library Abi

/-- The first words of the window are already those of the record. -/
def partlyCopied (window record : List U8) (words : Nat) : List U8 :=
  record.take (4 * words) ++ window.drop (4 * words)

/-- The next word write extends the copied part by four bytes. -/
theorem setWord_partlyCopied {window record : List U8} {words : Nat} (inside : 4 * words + 4 ≤ record.length) :
    setWord (partlyCopied window record words) words (leWord 32 record (4 * words)) =
      partlyCopied window record (words + 1) := by
  have copied : (record.take (4 * words)).length = 4 * words := by simp; omega
  have next : record.take (4 * (words + 1)) = record.take (4 * words) ++ (record.drop (4 * words)).take 4 := by
    rw [Nat.mul_add, Nat.mul_one, List.take_add]
  have skipped : (record.take (4 * words) ++ window.drop (4 * words)).drop (4 * words + 4) =
      window.drop (4 * (words + 1)) := by
    rw [List.drop_append, List.drop_eq_nil_of_le (by omega), List.nil_append, copied, List.drop_drop]
    congr 1
    omega
  rw [setWord, partlyCopied, partlyCopied, leBytes_leWord (by decide) inside, List.take_left' copied, skipped, next]

theorem writeCompletion_open {s : State} (working : s.reset.pending = false)
    (idle : hasBits s.command.status commandF2hPending = false) (index : Nat) (word : U32) :
    commandWrite s (.completion index) word =
      s.setCommand { s.command with completion := setWord s.command.completion index word } := by
  simp [commandWrite, working, writeCompletion, idle]

/-- A portal that is neither busy nor resetting takes the whole record. -/
theorem copyCompletion_open {s : State} (working : s.reset.pending = false)
    (idle : hasBits s.command.status commandF2hPending = false)
    (size : s.command.completion.length = completionSize) (completion : Completion) :
    copyCompletion s completion = s.setCommand { s.command with completion := completion.toBytes } := by
  -- The induction is on the number of words that have been written.
  have copies : ∀ words, words ≤ 8 →
      (List.range words).foldl (fun s index =>
        commandWrite s (.completion index) (leWord 32 completion.toBytes (4 * index))) s =
      s.setCommand { s.command with
        completion := partlyCopied s.command.completion completion.toBytes words } := by
    intro words
    induction words with
    | zero => intro _; simp [partlyCopied, State.setCommand]
    | succ words ih =>
        intro bound
        have inside : 4 * words + 4 ≤ completion.toBytes.length := by
          rw [Completion.length_toBytes]
          simp only [completionSize]
          omega
        rw [List.range_succ, List.foldl_append, ih (by omega), List.foldl_cons, List.foldl_nil,
          writeCompletion_open (by exact working) (by exact idle)]
        simp only [State.setCommand_command]
        rw [setWord_partlyCopied inside]
        rfl
  have all := copies 8 le_rfl
  have whole : partlyCopied s.command.completion completion.toBytes 8 = completion.toBytes := by
    have written : completion.toBytes.length ≤ 4 * 8 := by rw [Completion.length_toBytes]; decide
    have rest : s.command.completion.length ≤ 4 * 8 := by rw [size]; decide
    rw [partlyCopied, List.take_of_length_le written, List.drop_eq_nil_of_le rest, List.append_nil]
  rw [whole] at all
  exact all

end VamsSoc.Mgmt
