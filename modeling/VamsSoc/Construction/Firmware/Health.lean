/-
This file has the tracker that finds a task without progress.
-/

import VamsSoc.Construction.Abi.Records
import VamsSoc.Library.Masks

namespace VamsSoc.Firmware
open Library

def healthTaskNone : U32 := 0

/-- One progress counter for each of the eight tasks. -/
abbrev Epochs := Fin 8 → U32

structure HealthTracker where
  lastEpoch : Epochs
  missed : Epochs := fun _ => 0
  failureCount : U32 := 0
  stuckTask : U32 := 0
  startupGrace : U32
  missLimit : U32
  failureLatched : Bool := false

namespace HealthTracker

def init (epochs : Epochs) (startupGrace missLimit : U32) : HealthTracker :=
  { lastEpoch := epochs, startupGrace, missLimit }

/-- One turn of the loop, with the task that the loop has found so far. -/
def scanTask (epochs : Epochs) (scan : HealthTracker × U32) (index : Fin 8) : HealthTracker × U32 :=
  let tracker := scan.1
  if epochs index ≠ tracker.lastEpoch index then
    ({ tracker with
      lastEpoch := Function.update tracker.lastEpoch index (epochs index)
      missed := Function.update tracker.missed index 0 }, scan.2)
  else
    let missed := satInc (tracker.missed index)
    ({ tracker with missed := Function.update tracker.missed index missed },
      if scan.2 = healthTaskNone ∧ tracker.missLimit ≤ missed then BitVec.ofNat 32 (index.val + 1) else scan.2)

/-- The answer is false while a task is stuck, and a failure is counted when it starts. -/
def update (tracker : HealthTracker) (epochs : Epochs) : Bool × HealthTracker :=
  if 0 < tracker.startupGrace then
    (true, { tracker with startupGrace := tracker.startupGrace - 1, lastEpoch := epochs })
  else
    let scan := (List.finRange 8).foldl (scanTask epochs) (tracker, healthTaskNone)
    let scanned := { scan.1 with stuckTask := scan.2 }
    if scan.2 = healthTaskNone then (true, { scanned with failureLatched := false })
    else if scanned.failureLatched then (false, scanned)
    else (false, { scanned with failureCount := satInc scanned.failureCount, failureLatched := true })

/-- The tracker after a sequence of samples. -/
def after (tracker : HealthTracker) (samples : List Epochs) : HealthTracker :=
  samples.foldl (fun tracker epochs => (tracker.update epochs).2) tracker

/-- The answers to a sequence of samples, in order. -/
def answers (tracker : HealthTracker) : List Epochs → List Bool
  | [] => []
  | epochs :: rest => (tracker.update epochs).1 :: answers (tracker.update epochs).2 rest

end HealthTracker
end VamsSoc.Firmware
