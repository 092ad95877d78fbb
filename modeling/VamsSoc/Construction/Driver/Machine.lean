/-
This file has the threads of the driver and the events that start and run them.
-/

import VamsSoc.Construction.Driver.Calls
import VamsSoc.Construction.Driver.Probe
import VamsSoc.Library.EventMachine

namespace VamsSoc.Driver
open Library Abi

variable {δ ε : Type}

abbrev DriverThread := Thread Op Reply Own Unit

/-- The threads are numbered in the order in which they were started. -/
structure State (δ : Type) where
  shared : Shared δ
  threads : List DriverThread := []
  probed : Bool := false

/-- The events of a driver: its surroundings start a function, or a thread performs its next operation. -/
inductive Event (ε : Type) where
  | probe (config : Config)
  | run (thread : Nat) (choice : Choice)
  | hardware (event : ε)
  | interrupt (vector : Vector) (victim : Option Nat)
  | work (item : WorkItem)
  | openFile
  | call (file : Nat) (call : Call)
  | close (file : Nat)
  | remove
  deriving DecidableEq, Repr

def State.start (s : State δ) (shared : Shared δ) (own : Own) (code : Code Unit) : State δ :=
  { s with shared, threads := s.threads ++ [⟨own, code⟩] }

/-- A thread waits on its processor while a handler that interrupted it has not returned. -/
def State.interrupted (s : State δ) (thread : Nat) : Bool :=
  s.threads.any fun other => other.own.interrupted = some thread && !other.program.isDone

/-- An interrupt finds its processor idle, or a thread with interrupts on. -/
def State.interruptible (s : State δ) : Option Nat → Bool
  | none => true
  | some thread =>
      (s.threads[thread]?.any fun victim => victim.own.context = .process && !victim.own.irqsOff) &&
        !s.interrupted thread

def Vector.code : Vector → Code Unit
  | .cq => cqIrq
  | .async => asyncIrq

def handler (vector : Vector) : Code Unit := do
  vector.code
  call (.irqReturn vector)

def WorkItem.code : WorkItem → Code Unit
  | .cqPoll => cqPollWork
  | .reset => resetWork

def worker (item : WorkItem) : Code Unit := do
  item.code
  call (.finishWork item)

def caller (file : Nat) (request : Call) : Code Unit := do
  request.code file
  call (.leave file)

def opener : Code Unit := do
  let _ ← fileOpen

def prober (config : Config) : Code Unit := do
  let _ ← probe config

/-- A request still refers to a mapping of the file. -/
def Shared.hasRequest (s : Shared δ) (file : Nat) : Bool :=
  (List.range s.requestCount).any fun request =>
    (s.requests request).source.any (fun mapping => (s.mappings mapping).file = file) ||
      (s.requests request).destination.any fun mapping => (s.mappings mapping).file = file

def Shared.closeFile (s : Shared δ) (file : Nat) : Shared δ :=
  let closed := s.setFile file { s.files file with opened := false }
  if s.hasRequest file then closed.setHistory { s.history with earlyCloses := file :: s.history.earlyCloses }
  else closed

/-- A handler and a work item run one at a time. A file is closed when no call runs on it. -/
def step (hw : Hardware δ) (advance : EventMachine δ ε) : EventMachine (State δ) (Event ε)
  | s, .probe config =>
      if s.probed then none else some { s.start s.shared { task := .probe } (prober config) with probed := true }
  | s, .run thread choice =>
      match s.threads[thread]? with
      | some ⟨own, .perform op next⟩ =>
          if s.interrupted thread then none
          else
            (exec hw choice s.shared own op).map fun (reply, shared, own) =>
              { s with shared, threads := s.threads.set thread ⟨own, next reply⟩ }
      | _ => none
  | s, .hardware event =>
      (advance s.shared.hardware event).map fun hardware => { s with shared := { s.shared with hardware } }
  | s, .interrupt vector victim =>
      if (s.shared.irq vector).registered && !(s.shared.irq vector).running && s.interruptible victim then
        (hw.deliver s.shared.hardware vector).map fun hardware =>
          let shared := { s.shared with hardware }
          s.start (shared.setIrq vector { s.shared.irq vector with running := true })
            { task := .interrupt vector, context := .interrupt, interrupted := victim, irqsOff := true } (handler vector)
      else none
  | s, .work item =>
      if (s.shared.work item).pending && !(s.shared.work item).running then
        some (s.start (s.shared.setWork item { running := true }) { task := .work item } (worker item))
      else none
  | s, .openFile => if s.shared.misc then some (s.start s.shared {} opener) else none
  | s, .call file request =>
      let record := s.shared.files file
      if record.opened then
        some (s.start (s.shared.setFile file { record with users := record.users + 1 }) { task := request.task }
          (caller file request))
      else none
  | s, .close file =>
      if (s.shared.files file).opened && (s.shared.files file).users = 0 then
        some (s.start (s.shared.closeFile file) { refs := {.file file} } (fileRelease file))
      else none
  | s, .remove =>
      if s.shared.bound then some (s.start { s.shared with bound := false } { task := .remove } Driver.remove) else none

/-- The module is loaded and nothing has happened yet. -/
def initial (hardware : δ) : State δ := { shared := { hardware } }

/-- No function of the driver is running. -/
def State.idle (s : State δ) : Bool := s.threads.all fun thread => thread.program.isDone

end VamsSoc.Driver
