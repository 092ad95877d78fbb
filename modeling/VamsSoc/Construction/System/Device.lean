/-
This file attaches the endpoint to the driver: registers, rings in host memory, and interrupts.
-/

import VamsSoc.Construction.Driver.Machine
import VamsSoc.Construction.Endpoint.Machine
import VamsSoc.Library.ByteMemory

namespace VamsSoc.System
open Library Abi Driver

abbrev Ram := U64 → U8

/-- The host memory takes every access. -/
def ram : Pcie.Host Ram where
  read memory address count := (some (loadBytes memory address count), memory)
  write memory address bytes := (true, storeBytes memory address bytes)
  allocate memory _ := (true, memory)
  fills memory address count bytes read := by
    obtain rfl := Option.some.inj read
    exact length_loadBytes memory address count

/-- The device counts the interrupts that the processors have taken. -/
structure Device where
  endpoint : Pcie.State Ram
  taken : Vector → Nat := fun _ => 0

namespace Device

def vectorNumber : Vector → Nat
  | .cq => 0
  | .async => 1

/-- The messages that the endpoint has sent and no processor has taken yet. -/
def inFlight (device : Device) (vector : Vector) : Nat :=
  device.endpoint.signals.msix.count (.notified (vectorNumber vector)) - device.taken vector

def take (device : Device) (vector : Vector) : Device :=
  { device with taken := Function.update device.taken vector (device.taken vector + 1) }

def read (device : Device) (register : Pcie.Register) : U32 × Device :=
  let value := Pcie.bar0Read device.endpoint register.offset 4
  (value.1.setWidth 32, { device with endpoint := value.2 })

def write (device : Device) (register : Pcie.Register) (value : U32) : Device :=
  { device with endpoint := Pcie.bar0Write ram device.endpoint register.offset value 4 }

def hardware : Hardware Device where
  read := read
  write := write
  loadCompletion device address := Completion.ofBytes (loadBytes device.endpoint.memory address completionSize)
  storeSubmission device address submission :=
    { device with
      endpoint := device.endpoint.setMemory (storeBytes device.endpoint.memory address submission.toBytes) }
  busMaster device enabled := { device with endpoint := { device.endpoint with busMaster := enabled } }
  deliver device vector := if 0 < device.inFlight vector then some (device.take vector) else none

/-- Besides the driver, a tool of the host may reset the device, its queues, and its engine, and set faults and
checkpoints. -/
def toolWrites : Pcie.Register → U32 → Bool
  | .deviceControl, value => value = Pcie.controlReset
  | .sqControl, value | .cqControl, value => value = Pcie.queueResetBit
  | .resetRequest, _ | .faultControl, _ | .faultArg, _ | .debugLock, _ | .checkpointControl, _
  | .checkpointRelease, _ => true
  | _, _ => false

/-- What happens without the driver; two messages of one vector may arrive as one. -/
inductive Event where
  | endpoint (event : Pcie.Event)
  | tool (register : Pcie.Register) (value : U32)
  | merge (vector : Vector)
  deriving DecidableEq, Repr

/-- The timers and the command bridge move the endpoint by themselves. -/
def spontaneous : Pcie.Event → Bool
  | .write _ _ _ | .read _ _ | .busMaster _ => false
  | _ => true

def advance : EventMachine Device Event
  | device, .endpoint event =>
      if spontaneous event then
        (Pcie.step ram device.endpoint event).map fun endpoint => { device with endpoint }
      else none
  | device, .tool register value => if toolWrites register value then some (device.write register value) else none
  | device, .merge vector => if 1 < device.inFlight vector then some (device.take vector) else none

/-- The endpoint is powered on with empty memory. -/
def powerOn (debugEnabled connected : Bool) : Device where
  endpoint := Pcie.powerOn debugEnabled connected fun _ => 0

end Device

/-- The driver with its device. -/
abbrev HostState := Driver.State Device
abbrev HostEvent := Driver.Event Device.Event

def hostStep : EventMachine HostState HostEvent := Driver.step Device.hardware Device.advance

def hostStart (debugEnabled connected : Bool) : HostState := Driver.initial (Device.powerOn debugEnabled connected)

/-- A thread performs some operations, and nothing that can fail does. -/
def performs (thread count : Nat) : List HostEvent := List.replicate count (.run thread {})

/-- The probe binds the device with its rings at two pages of memory. -/
def bringUp : List HostEvent :=
  .probe {} :: performs 0 24 ++ .run 0 { address := 0x1000 } :: performs 0 2 ++ .run 0 { address := 0x2000 } ::
    performs 0 34

end VamsSoc.System
