/-
This file has the firmware on its own. The portal may be in any state at each step of a thread.
-/

import VamsSoc.Construction.Firmware.Threads
import VamsSoc.Library.EventMachine

namespace VamsSoc.Firmware
open Library

/-- The uptime is a signed 64-bit count of milliseconds, with room for the deadlines of the publisher and of a capture. -/
def uptimeLimitMs : Nat := 2 ^ 63 - 2 ^ 33

inductive Thread where
  | receiver | validator | scheduler | recovery | completer
  deriving DecidableEq, Repr

def threadStep (firmware : State) (portal : Mgmt.State) : Thread → Option (State × Mgmt.State)
  | .receiver => receiverStep firmware portal
  | .validator => (validatorStep firmware).map fun next => (next, portal)
  | .scheduler => schedulerStep firmware portal
  | .recovery => recoveryStep firmware portal
  | .completer => completerStep firmware portal

/-- A thread runs against a portal of any content, the clock moves on, or the firmware starts again. -/
inductive Event where
  | thread (thread : Thread) (portal : Mgmt.State)
  | uptime (nowMs : Nat)
  | boot (portal : Mgmt.State)

/-- An assertion that has failed is recorded, and the run goes on. -/
def step : EventMachine State Event
  | s, .thread thread portal => (threadStep s portal thread).map Prod.fst
  | s, .uptime nowMs =>
    if s.uptimeMs ≤ nowMs ∧ nowMs < uptimeLimitMs then some { s with uptimeMs := nowMs } else none
  | s, .boot portal => some (boot s portal)

end VamsSoc.Firmware
