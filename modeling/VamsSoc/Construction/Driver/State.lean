/-
This file has the memory of the driver, and the operations by which its functions reach it.
-/

import VamsSoc.Construction.Endpoint.Registers
import VamsSoc.Library.Program
import VamsSoc.Library.References
import VamsSoc.Library.Table

namespace VamsSoc.Driver
open Library Abi

def queueDepth : U32 := 16
def bufferRead : U32 := 1
def bufferWrite : U32 := 2

inductive Errno where
  | efault | einval | enodev | enomem | enoent | ebusy | eacces | erange | eoverflow | eio | eagain | eopnotsupp
  | enospc | etimedout | ealready | ecanceled | erestartsys | eproto | eprotonosupport
  deriving DecidableEq, Repr

/-- The driver frees these objects when their reference count reaches zero; the device has a count of its own. -/
inductive Object where
  | request (number : Nat)
  | mapping (number : Nat)
  | file (number : Nat)
  deriving DecidableEq, Repr

/-- These are the xarrays: the requests of the device, and the requests and mappings of each file. -/
inductive Index where
  | device
  | requests (file : Nat)
  | mappings (file : Nat)
  deriving DecidableEq, Repr

/-- The `xa` lock is the one inside the xarray of the device. -/
inductive Lock where
  | submit | cq | reset | xa
  | file (number : Nat)
  deriving DecidableEq, Repr

/-- A request keeps its links until the references behind them are put. The last two fields remember whether it was in
the device table and whether `completed_requests` has counted it. -/
structure Request where
  owner : Option Nat := none
  source : Option Nat := none
  destination : Option Nat := none
  done : Bool := false
  result : Completion := {}
  driverStatus : Option Errno := none
  commandId : U32 := 0
  resetGeneration : U32 := 0
  tracked : Bool := false
  counted : Bool := false
  deriving DecidableEq, Repr

structure Mapping where
  file : Nat := 0
  dmaAddr : U64 := 0
  userAddress : U64 := 0
  length : U64 := 0
  flags : U32 := 0
  deriving DecidableEq, Repr

/-- An open file has a descriptor and the calls that are running on it. Its counter of completed requests has no bound here,
where the source has 32 bits. -/
structure File where
  completed : Nat := 0
  closing : Bool := false
  opened : Bool := false
  users : Nat := 0
  deriving DecidableEq, Repr

/-- The plain fields of `struct vams_device`; a pointer is kept as whether it is set. -/
structure Fields where
  hwIfVersion : U32 := 0
  fwVersion : U32 := 0
  capabilities : U32 := 0
  resetGeneration : U32 := 0
  resetReason : U32 := 0
  sq : Bool := false
  sqDma : U64 := 0
  cq : Bool := false
  cqDma : U64 := 0
  sqTail : U32 := 0
  cqHead : U32 := 0
  queuesReady : Bool := false
  removing : Bool := false
  cqTest : Bool := false
  asyncTest : Bool := false
  nopTest : Bool := false
  nopTestResult : Completion := {}
  nopTestCommandId : U32 := 0
  nopTestPending : Bool := false
  instanceNumber : Bool := false
  miscName : Bool := false
  deriving DecidableEq, Repr

structure Work where
  pending : Bool := false
  running : Bool := false
  deriving DecidableEq, Repr

structure Interrupt where
  registered : Bool := false
  running : Bool := false
  deriving DecidableEq, Repr

/-- What `vams_probe` acquires. -/
inductive Resource where
  | pciDevice | memory | region | bar0 | sqRing | cqRing | vectors | cqIrq | asyncIrq | driverData | busMaster
  | instanceNumber | miscName | miscDevice
  deriving DecidableEq, Repr

/-- What a run leaves behind: the requests that were touched after they were freed, the answers of WAIT, the releases of
mappings with whether they could not sleep there, the erased requests that nothing had counted, the files that were
closed under a request, and what the probe acquired and released. -/
structure History where
  touched : List (Nat × Bool) := []
  waits : List (Nat × Option Errno) := []
  releases : List (Nat × Bool) := []
  earlyReaps : List Nat := []
  earlyCloses : List Nat := []
  resources : List (Resource × Bool) := []
  deriving DecidableEq, Repr

/-- The memory that the threads of the driver share, with the device behind the registers. The counters of references and
of pending requests have no bound here, where the source has 32 bits. -/
structure Shared (δ : Type) where
  hardware : δ
  fields : Fields := {}
  tables : Index → Table U32 Nat := fun _ => Table.empty
  nextCommandId : U32 := 0
  pendingRequests : Int := 0
  cqPollWork : Work := {}
  resetWork : Work := {}
  cqIrq : Interrupt := {}
  asyncIrq : Interrupt := {}
  misc : Bool := false
  bound : Bool := false
  deviceRefs : Nat := 0
  deviceFreed : Bool := false
  locked : Lock → Bool := fun _ => false
  book : RefBook Object := RefBook.empty
  requestCount : Nat := 0
  mappingCount : Nat := 0
  fileCount : Nat := 0
  requests : Nat → Request := fun _ => {}
  mappings : Nat → Mapping := fun _ => {}
  files : Nat → File := fun _ => {}
  history : History := {}

inductive Vector where
  | cq | async
  deriving DecidableEq, Repr

/-- The driver reaches the device through its registers and the two rings in memory; the device sends it interrupts. -/
structure Hardware (δ : Type) where
  read : δ → Pcie.Register → U32 × δ
  write : δ → Pcie.Register → U32 → δ
  loadCompletion : δ → U64 → Completion
  storeSubmission : δ → U64 → Submission → δ
  busMaster : δ → Bool → δ
  deliver : δ → Vector → Option δ

inductive Context where
  | process | interrupt
  deriving DecidableEq, Repr

inductive WorkItem where
  | cqPoll | reset
  deriving DecidableEq, Repr

/-- What a thread was started for; `submission` is a call that sends a request to the device, and `file` is an open, a
close, or another call. -/
inductive Task where
  | probe | remove | submission | file
  | interrupt (vector : Vector)
  | work (item : WorkItem)
  deriving DecidableEq, Repr

/-- What a thread has of its own: its task, the context that it runs in, the locks that it holds, and its references. -/
structure Own where
  task : Task := .file
  context : Context := .process
  interrupted : Option Nat := none
  irqsOff : Bool := false
  locks : Multiset Lock := 0
  refs : Multiset Object := 0

/-- The surroundings decide which allocations and copies fail, and what a wait or a mapping gives. -/
structure Choice where
  error : Option Errno := none
  address : U64 := 0
  handle : U32 := 0
  deriving DecidableEq, Repr

namespace Shared
variable {δ : Type}

def setFields (s : Shared δ) (fields : Fields) : Shared δ := { s with fields }

def setRequest (s : Shared δ) (request : Nat) (record : Request) : Shared δ :=
  { s with requests := Function.update s.requests request record }

def setFile (s : Shared δ) (file : Nat) (record : File) : Shared δ :=
  { s with files := Function.update s.files file record }

def setTable (s : Shared δ) (index : Index) (table : Table U32 Nat) : Shared δ :=
  { s with tables := Function.update s.tables index table }

def setLocked (s : Shared δ) (lock : Lock) (locked : Bool) : Shared δ :=
  { s with locked := Function.update s.locked lock locked }

def setHistory (s : Shared δ) (history : History) : Shared δ := { s with history }

end Shared

/-- The object that an entry refers to. -/
def Index.object : Index → Nat → Object
  | .device, value => .request value
  | .requests _, value => .request value
  | .mappings _, value => .mapping value

end VamsSoc.Driver
