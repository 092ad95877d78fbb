import Mathlib.Tactic

namespace VamsSoc.Library

/-- A stream loses the boundaries of its frames; the reader has taken part of the first one. -/
structure FrameStream (Frame : Type) where
  frames : List Frame
  taken : Nat
  deriving DecidableEq, Repr

namespace FrameStream
variable {Frame Byte : Type}

/-- These are the bytes that the reader has not taken yet. -/
def pending (bytes : Frame → List Byte) (stream : FrameStream Frame) : List Byte :=
  (stream.frames.flatMap bytes).drop stream.taken

/-- Frames that are wholly behind the reader leave the stream. -/
def advance (bytes : Frame → List Byte) : List Frame → Nat → FrameStream Frame
  | [], _ => ⟨[], 0⟩
  | frame :: rest, count =>
      if (bytes frame).length ≤ count then advance bytes rest (count - (bytes frame).length)
      else ⟨frame :: rest, count⟩

/-- The reader takes some bytes, whatever frames they belong to. -/
def take (bytes : Frame → List Byte) (stream : FrameStream Frame) (count : Nat) : FrameStream Frame :=
  advance bytes stream.frames (stream.taken + count)

/-- This is the frame of the last byte that the reader is about to take. -/
def last? (bytes : Frame → List Byte) : List Frame → Nat → Option Frame
  | [], _ => none
  | frame :: rest, count =>
      if count ≤ (bytes frame).length then some frame else last? bytes rest (count - (bytes frame).length)

theorem advance_zero {bytes : Frame → List Byte} {frames : List Frame}
    (nonempty : ∀ frame ∈ frames, bytes frame ≠ []) : advance bytes frames 0 = ⟨frames, 0⟩ := by
  cases frames with
  | nil => rfl
  | cons frame rest =>
      have long : ¬(bytes frame).length ≤ 0 := by
        rw [Nat.le_zero, List.length_eq_zero_iff]
        exact nonempty frame List.mem_cons_self
      rw [advance, if_neg long]

/-- A reader at a boundary that takes a whole frame stays at a boundary. -/
theorem take_frame {bytes : Frame → List Byte} {frame : Frame} {rest : List Frame} {count : Nat}
    (width : (bytes frame).length = count) (nonempty : ∀ other ∈ rest, bytes other ≠ []) :
    (⟨frame :: rest, 0⟩ : FrameStream Frame).take bytes count = ⟨rest, 0⟩ := by
  rw [take, Nat.zero_add, advance, if_pos width.le, width, Nat.sub_self, advance_zero nonempty]

end FrameStream
end VamsSoc.Library
