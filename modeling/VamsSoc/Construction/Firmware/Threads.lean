/-
This file has the five command threads of the firmware. A step runs a thread from one access of a shared queue
or of the portal to the next.
-/

import VamsSoc.Construction.Firmware.Command
import VamsSoc.Construction.Portal.Control

namespace VamsSoc.Firmware
open Library Abi

def commandPoolSize : Nat := 8
def abortAckTimeoutMs : Nat := 100
def completionPublishTimeoutMs : Nat := 100

/-- The slab holds the command objects, and the threads pass their slots on. -/
abbrev Slot := Fin 8

inductive Assertion where
  | queuePut | transition | capture | runs | published
  deriving DecidableEq, Repr

inductive Receiver where
  | idle
  | allocated (slot : Slot)
  deriving DecidableEq, Repr

inductive Validator where
  | idle
  | holding (slot : Slot)
  deriving DecidableEq, Repr

/-- The scheduler fills its ready array before it chooses from it. -/
inductive Scheduler where
  | collecting
  | choosing
  | selected (slot : Slot)
  | publishing (slot : Slot) (deadlineMs : Nat)
  | ringing (slot : Slot)
  | handing (slot : Slot)
  | finishing (slot : Slot)
  | parked (slot : Slot)
  deriving DecidableEq, Repr

inductive Recovery where
  | idle
  | polling (slot : Slot)
  | aborting (slot : Slot)
  | requesting (slot : Slot)
  | ringing (slot : Slot)
  | awaiting (slot : Slot) (deadlineMs : Nat)
  | draining (slot : Slot)
  | applying (slot : Slot) (result : Completion)
  | ending (slot : Slot)
  deriving DecidableEq, Repr

/-- The completer remembers the state in which it has taken its object. -/
inductive Completer where
  | idle
  | publishing (slot : Slot) (terminalState : CommandState) (deadlineMs : Nat)
  | ringing (slot : Slot) (terminalState : CommandState)
  | finishing (slot : Slot) (terminalState : CommandState)
  | parked (slot : Slot)
  deriving DecidableEq, Repr

/-- One answer of `vams_validate_command` is recorded with the descriptor that it was about. -/
structure Verdict where
  fetch : Nat
  submission : Submission
  error : U16
  deriving DecidableEq, Repr

/-- The scheduler module reports every transition and every publication. What is sent to the portal is recorded
as well, each time with the object as it was. -/
inductive Activity where
  | transition (command : CommandObject) (next : CommandState)
  | published (command : CommandObject)
  | sent (command : CommandObject)
  deriving DecidableEq, Repr

structure State where
  objects : Slot → CommandObject := fun _ => {}
  free : List Slot := List.finRange 8
  validationQueue : List Slot := []
  readyQueue : List Slot := []
  runningQueue : List Slot := []
  completionQueue : List Slot := []
  ready : List Slot := []
  receiver : Receiver := .idle
  validator : Validator := .idle
  scheduler : Scheduler := .collecting
  recovery : Recovery := .idle
  completer : Completer := .idle
  commandGeneration : U32 := 0
  commandSequence : U32 := 0
  uptimeMs : Nat := 0
  verdicts : List Verdict := []
  activity : List (Slot × Activity) := []
  failed : List Assertion := []

namespace State

def setObject (s : State) (slot : Slot) (object : CommandObject) : State :=
  { s with objects := Function.update s.objects slot object }

def require (s : State) (assertion : Assertion) (holds : Bool) : State :=
  { s with failed := bif holds then s.failed else assertion :: s.failed }

def note (s : State) (slot : Slot) (activity : Activity) : State :=
  { s with activity := (slot, activity) :: s.activity }

/-- A checked transition stores the object whether its assertion holds or not. -/
def store (s : State) (slot : Slot) (assertion : Assertion) (changed : Bool × CommandObject) : State :=
  ((s.note slot (.transition (s.objects slot) changed.2.state)).require assertion changed.1).setObject slot changed.2

/-- A put never waits, and the callers assert that it succeeds. -/
def putValidation (s : State) (slot : Slot) : State :=
  if s.validationQueue.length < commandPoolSize then
    { s with validationQueue := s.validationQueue ++ [slot] }
  else s.require .queuePut false

def putReady (s : State) (slot : Slot) : State :=
  if s.readyQueue.length < commandPoolSize then { s with readyQueue := s.readyQueue ++ [slot] }
  else s.require .queuePut false

def putRunning (s : State) (slot : Slot) : State :=
  if s.runningQueue.length < 1 then { s with runningQueue := s.runningQueue ++ [slot] }
  else s.require .queuePut false

def putCompletion (s : State) (slot : Slot) : State :=
  if s.completionQueue.length < commandPoolSize then
    { s with completionQueue := s.completionQueue ++ [slot] }
  else s.require .queuePut false

end State

def pending (portal : Mgmt.State) : Bool := hasBits portal.command.status Mgmt.commandH2fPending
def resultPending (portal : Mgmt.State) : Bool := hasBits portal.command.status Mgmt.commandResultPending
def completionPending (portal : Mgmt.State) : Bool := hasBits portal.command.status Mgmt.commandF2hPending

/-- The receiver allocates only for a pending command, and frees the object if the command has gone. -/
def receiverStep (s : State) (portal : Mgmt.State) : Option (State × Mgmt.State) :=
  match s.receiver with
  | .idle =>
    match s.free with
    | slot :: rest =>
      if pending portal then
        some ({ s with free := rest, receiver := .allocated slot }.setObject slot {}, portal)
      else none
    | [] => none
  | .allocated slot =>
    if pending portal then
      let object : CommandObject := {
        submission := Submission.ofBytes portal.command.submission, fetch := portal.command.submissionFetch }
      let counted := { s with receiver := .idle, commandSequence := s.commandSequence + 1 }
      let captured := (counted.setObject slot object).store slot .capture
        (object.capture s.commandGeneration (s.commandSequence + 1) s.uptimeMs)
      some (captured.putValidation slot, Mgmt.commandWrite portal .fwAck 1)
    else some ({ s with receiver := .idle, free := slot :: s.free }, portal)

/-- The verdict decides between the completion queue and the ready queue. -/
def validate (s : State) (slot : Slot) : State :=
  let command := s.objects slot
  let validating := command.transition .submitted .validating
  let completion := commandExecute command.submission s.uptimeMs
  let executed := { validating.2 with completion }
  let judged := { s.store slot .transition validating with
    verdicts := ⟨command.fetch, command.submission, validateCommand command.submission⟩ :: s.verdicts }
  if completion.status ≠ statusSuccess then
    (judged.store slot .transition (executed.transition .validating .completedError)).putCompletion slot
  else (judged.store slot .transition (executed.transition .validating .queued)).putReady slot

def validatorStep (s : State) : Option State :=
  match s.validator with
  | .idle =>
    match s.validationQueue with
    | slot :: rest => some { s with validationQueue := rest, validator := .holding slot }
    | [] => none
  | .holding slot => some (validate { s with validator := .idle } slot)

/-- The scan keeps the first of the commands that no other one precedes. -/
def schedulerSelect (objects : Slot → CommandObject) (ready : List Slot) : Nat :=
  (List.range' 1 (ready.length - 1)).foldl
    (fun selected index =>
      if (objects (ready.getD index 0)).precedes (objects (ready.getD selected 0)) then index else selected) 0

/-- The slot that the scheduler is about to choose. -/
def chosen (s : State) : Slot := s.ready.getD (schedulerSelect s.objects s.ready) 0

/-- The last entry of the array takes the place of the selected one. -/
def swapRemove (ready : List Slot) (selected : Nat) : List Slot :=
  (ready.set selected (ready.getD (ready.length - 1) 0)).dropLast

/-- A stale or late command is answered at once, and a payload first needs its authorization. -/
def dispatch (s : State) (slot : Slot) : State :=
  let command := s.objects slot
  if command.generation ≠ s.commandGeneration then
    { s.store slot .transition (command.cancel s.uptimeMs) with scheduler := .finishing slot }
  else if command.deadlineExpired s.uptimeMs then
    let aborting := command.transition .queued .aborting
    { (s.store slot .transition aborting).store slot .transition (aborting.2.timeout s.uptimeMs) with
      scheduler := .finishing slot }
  else
    let running := command.transition .queued .running
    if isPayloadOpcode command.submission.opcode then
      { s.store slot .transition running with
        scheduler := .publishing slot (s.uptimeMs + completionPublishTimeoutMs) }
    else
      { (s.store slot .transition running).store slot .transition
          (running.2.transition .running .completed) with
        scheduler := .finishing slot }

/-- The record of a command goes to the completion window, together with its fetch number. -/
def copyToPortal (portal : Mgmt.State) (command : CommandObject) : Mgmt.State :=
  let copied := Mgmt.copyCompletion portal command.completion
  copied.setCommand { copied.command with completionFetch := command.fetch }

/-- A portal that stays busy is reset, and the thread waits for that. -/
def requestOverloadReset (portal : Mgmt.State) : Mgmt.State :=
  Mgmt.controlWrite portal .resetRequest Mgmt.resetRequestMgmt

def schedulerStep (s : State) (portal : Mgmt.State) : Option (State × Mgmt.State) :=
  match s.scheduler with
  | .collecting =>
    match s.readyQueue with
    | slot :: rest =>
      if s.ready.length < commandPoolSize then
        some ({ s with readyQueue := rest, ready := s.ready ++ [slot] }, portal)
      else some ({ s with scheduler := .choosing }, portal)
    | [] => if s.ready = [] then none else some ({ s with scheduler := .choosing }, portal)
  | .choosing =>
    let selected := schedulerSelect s.objects s.ready
    some ({ s with
      ready := swapRemove s.ready selected
      scheduler := .selected (s.ready.getD selected 0) }, portal)
  | .selected slot => some (dispatch s slot, portal)
  | .publishing slot deadlineMs =>
    if completionPending portal then
      if deadlineMs ≤ s.uptimeMs then
        some ({ s with scheduler := .parked slot }, requestOverloadReset portal)
      else none
    else
      some ({ s with scheduler := .ringing slot }.note slot (.sent (s.objects slot)),
        copyToPortal portal (s.objects slot))
  | .ringing slot =>
    some ({ s with scheduler := .handing slot }, Mgmt.commandWrite portal .fwComplete 1)
  | .handing slot => some ({ s with scheduler := .collecting }.putRunning slot, portal)
  | .finishing slot => some ({ s with scheduler := .collecting }.putCompletion slot, portal)
  | .parked _ => none

/-- The result is read from its window and acknowledged. -/
def takeResult (portal : Mgmt.State) : Completion × Mgmt.State :=
  (Completion.ofBytes portal.command.result, Mgmt.commandWrite portal .resultAck 1)

def escalated (s : State) (slot : Slot) : State :=
  { s.store slot .runs ((s.objects slot).escalate s.uptimeMs) with recovery := .ending slot }

/-- The abort request goes to the completion window, unless a result has come in the meantime. -/
def requestAbort (s : State) (slot : Slot) (portal : Mgmt.State) : State × Mgmt.State :=
  if resultPending portal then ({ s with recovery := .draining slot }, portal)
  else
    ({ s with recovery := .ringing slot }.note slot (.sent (s.objects slot)),
      copyToPortal portal (s.objects slot))

def applyOrEscalate (s : State) (slot : Slot) (result : Completion) : State :=
  match (s.objects slot).applyResult result with
  | some command =>
    { s.store slot .runs ((s.objects slot).runs, command) with recovery := .ending slot }
  | none => escalated (s.require .runs (s.objects slot).runs) slot

def recoveryStep (s : State) (portal : Mgmt.State) : Option (State × Mgmt.State) :=
  match s.recovery with
  | .idle =>
    match s.runningQueue with
    | slot :: rest => some ({ s with runningQueue := rest, recovery := .polling slot }, portal)
    | [] => none
  | .polling slot =>
    if resultPending portal then
      let taken := takeResult portal
      some ({ s with recovery := .applying slot taken.1 }, taken.2)
    else if (s.objects slot).deadlineMs ≤ s.uptimeMs then
      some ({ s with recovery := .aborting slot }, portal)
    else none
  | .aborting slot =>
    some ({ s.store slot .transition ((s.objects slot).beginAbort s.uptimeMs) with
      recovery := .requesting slot }, portal)
  | .requesting slot => some (requestAbort s slot portal)
  | .ringing slot =>
    some ({ s with recovery := .awaiting slot (s.uptimeMs + abortAckTimeoutMs) },
      Mgmt.commandWrite portal .fwAbort 1)
  | .awaiting slot deadlineMs =>
    if resultPending portal then
      let taken := takeResult portal
      some ({ s with recovery := .applying slot taken.1 }, taken.2)
    else if deadlineMs ≤ s.uptimeMs then some (escalated s slot, portal)
    else none
  | .draining slot =>
    if resultPending portal then
      let taken := takeResult portal
      some ({ s with recovery := .applying slot taken.1 }, taken.2)
    else some (escalated s slot, portal)
  | .applying slot result => some (applyOrEscalate s slot result, portal)
  | .ending slot => some ({ s with recovery := .idle }.putCompletion slot, portal)

/-- The published object is marked and goes back to the slab empty. -/
def retire (s : State) (slot : Slot) (terminalState : CommandState) : State :=
  let command := s.objects slot
  let published := command.markPublished
  let marked := ((s.require .published published.1).note slot (.published command)).setObject slot published.2
  let freed := marked.store slot .transition (published.2.transition terminalState .free)
  { freed.setObject slot {} with completer := .idle, free := slot :: s.free }

def completerStep (s : State) (portal : Mgmt.State) : Option (State × Mgmt.State) :=
  match s.completer with
  | .idle =>
    match s.completionQueue with
    | slot :: rest =>
      some ({ s with
        completionQueue := rest
        completer := .publishing slot (s.objects slot).state (s.uptimeMs + completionPublishTimeoutMs) }, portal)
    | [] => none
  | .publishing slot terminalState deadlineMs =>
    if completionPending portal then
      if deadlineMs ≤ s.uptimeMs then
        some ({ s with completer := .parked slot }, requestOverloadReset portal)
      else none
    else
      some ({ s with completer := .ringing slot terminalState }.note slot (.sent (s.objects slot)),
        copyToPortal portal (s.objects slot))
  | .ringing slot terminalState =>
    some ({ s with completer := .finishing slot terminalState }, Mgmt.commandWrite portal .fwComplete 1)
  | .finishing slot terminalState => some (retire s slot terminalState, portal)
  | .parked _ => none

/-- A reboot forgets everything but the recorded verdicts, and takes its generation from the portal. -/
def boot (s : State) (portal : Mgmt.State) : State :=
  { commandGeneration := portal.reset.generation, verdicts := s.verdicts, failed := s.failed }

end VamsSoc.Firmware
