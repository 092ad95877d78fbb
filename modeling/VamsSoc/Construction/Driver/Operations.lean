/-
This file has the operations by which the functions of the driver reach shared memory and the kernel.
-/

import VamsSoc.Construction.Driver.State

namespace VamsSoc.Driver
open Library Abi

/-- One plain field of the device gets a value; `removing` is never cleared. -/
inductive Assignment where
  | hwIfVersion (version : U32)
  | fwVersion (version : U32)
  | capabilities (bits : U32)
  | resetReason (reason : U32)
  | resetGeneration (generation : U32)
  | sq (given : Bool)
  | sqDma (address : U64)
  | cq (given : Bool)
  | cqDma (address : U64)
  | sqTail (tail : U32)
  | cqHead (head : U32)
  | queuesReady (ready : Bool)
  | removing
  | cqTest (completed : Bool)
  | asyncTest (completed : Bool)
  | nopTest (completed : Bool)
  | nopTestResult (result : Completion)
  | nopTestCommandId (commandId : U32)
  | nopTestPending (pending : Bool)
  | instanceNumber (given : Bool)
  | miscName (given : Bool)
  deriving DecidableEq, Repr

def Fields.assign (fields : Fields) : Assignment → Fields
  | .hwIfVersion hwIfVersion => { fields with hwIfVersion }
  | .fwVersion fwVersion => { fields with fwVersion }
  | .capabilities capabilities => { fields with capabilities }
  | .resetReason resetReason => { fields with resetReason }
  | .resetGeneration resetGeneration => { fields with resetGeneration }
  | .sq sq => { fields with sq }
  | .sqDma sqDma => { fields with sqDma }
  | .cq cq => { fields with cq }
  | .cqDma cqDma => { fields with cqDma }
  | .sqTail sqTail => { fields with sqTail }
  | .cqHead cqHead => { fields with cqHead }
  | .queuesReady queuesReady => { fields with queuesReady }
  | .removing => { fields with removing := true }
  | .cqTest cqTest => { fields with cqTest }
  | .asyncTest asyncTest => { fields with asyncTest }
  | .nopTest nopTest => { fields with nopTest }
  | .nopTestResult nopTestResult => { fields with nopTestResult }
  | .nopTestCommandId nopTestCommandId => { fields with nopTestCommandId }
  | .nopTestPending nopTestPending => { fields with nopTestPending }
  | .instanceNumber instanceNumber => { fields with instanceNumber }
  | .miscName miscName => { fields with miscName }

/-- A field of a request that says nothing about who owns it. -/
inductive RequestField where
  | commandId (id : U32)
  | resetGeneration (generation : U32)
  | result (completion : Completion)
  | driverStatus (status : Option Errno)
  deriving DecidableEq, Repr

def Request.assign (request : Request) : RequestField → Request
  | .commandId commandId => { request with commandId }
  | .resetGeneration resetGeneration => { request with resetGeneration }
  | .result result => { request with result }
  | .driverStatus driverStatus => { request with driverStatus }

/-- A request owns these references to other objects. -/
inductive Reference where
  | source (request : Nat)
  | destination (request : Nat)
  | owner (request : Nat)
  deriving DecidableEq, Repr

inductive Test where
  | cq | async | nop
  deriving DecidableEq, Repr

/-- This is what WAIT copies to user space. -/
structure WaitOutput where
  driverStatus : Option Errno
  status : U16
  errorCode : U16
  bytesProcessed : U32
  resultCrc : U32
  userCookie : U64
  deviceTimestamp : U64
  deriving DecidableEq, Repr

structure NopOutput where
  commandId : U32
  status : U16
  errorCode : U16
  bytesProcessed : U32
  resultCrc : U32
  deviceTimestamp : U64
  deriving DecidableEq, Repr

structure InfoOutput where
  hwIfVersion : U32
  fwVersion : U32
  capabilities : U32
  queueDepth : U32
  resetGeneration : U32
  deriving DecidableEq, Repr

inductive UserRecord where
  | info (output : InfoOutput)
  | nop (output : NopOutput)
  | handle (handle : U32)
  | commandId (commandId : U32)
  | wait (output : WaitOutput)
  deriving DecidableEq, Repr

/-- Each operation is one access to memory that other threads can reach, or one call into the kernel. -/
inductive Op where
  | readl (register : Pcie.Register)
  | writel (register : Pcie.Register) (value : U32)
  | loadCompletion (slot : U32)
  | storeSubmission (slot : U32) (submission : Submission)
  | fields
  | assign (assignment : Assignment)
  | lock (lock : Lock)
  | unlock (lock : Lock)
  | insert (index : Index) (key : U32) (value : Nat)
  | alloc (index : Index) (value : Nat)
  | erase (index : Index) (key : U32)
  | load (index : Index) (key : U32)
  | next (index : Index) (bound : Nat)
  | get (object : Object)
  | put (object : Object)
  | putReference (reference : Reference)
  | free (object : Object)
  | discard (object : Object)
  | allocRequest (owner : Option Nat)
  | setMappings (request : Nat) (source destination : Option Nat)
  | setRequest (request : Nat) (field : RequestField)
  | readRequest (request : Nat)
  | readGeneration (request : Nat)
  | completeAll (request : Nat)
  | completionDone (request : Nat)
  | waitForCompletion (request : Nat)
  | ownerOpen (request : Nat)
  | incCompleted (request : Nat)
  | decCompleted (file : Nat)
  | readCompleted (file : Nat)
  | mapPages (file : Nat) (userAddress length : U64) (flags : U32)
  | readMapping (mapping : Nat)
  | readRefs (object : Object)
  | allocFile
  | publishFile (file : Nat)
  | setClosing (file : Nat)
  | readClosing (file : Nat)
  | leave (file : Nat)
  | incNextCommandId
  | incPending
  | decPending
  | readPending
  | schedule (work : WorkItem)
  | cancelSync (work : WorkItem)
  | finishWork (work : WorkItem)
  | irqReturn (vector : Vector)
  | allocDevice
  | getDevice
  | putDevice
  | freeDevice
  | bind
  | acquire (resource : Resource)
  | hold (resource : Resource)
  | release (resource : Resource)
  | allocCoherent (resource : Resource)
  | inspect
  | waitForTest (test : Test)
  | copyFromUser
  | copyToUser (record : UserRecord)
  | answerWait (request : Nat) (result : Option Errno)
  deriving DecidableEq, Repr

abbrev Reply : Op → Type
  | .readl _ => U32
  | .loadCompletion _ => Completion
  | .fields => Fields
  | .insert _ _ _ => Option Errno
  | .alloc _ _ => Except Errno U32
  | .erase _ _ => Option Nat
  | .load _ _ => Option Nat
  | .next _ _ => Option (U32 × Nat)
  | .put _ => Bool
  | .putReference _ => Option Object
  | .allocRequest _ => Option Nat
  | .readRequest _ => Request
  | .readGeneration _ => U32
  | .completionDone _ => Bool
  | .waitForCompletion _ => Option Errno
  | .ownerOpen _ => Bool
  | .readCompleted _ => Nat
  | .mapPages _ _ _ _ => Except Errno Nat
  | .readMapping _ => Mapping
  | .readRefs _ => Nat
  | .allocFile => Option Nat
  | .readClosing _ => Bool
  | .incNextCommandId => U32
  | .readPending => Int
  | .allocDevice => Bool
  | .putDevice => Bool
  | .acquire _ => Option Errno
  | .inspect => Bool
  | .allocCoherent _ => Option U64
  | .waitForTest _ => Bool
  | .copyFromUser => Bool
  | .copyToUser _ => Bool
  | _ => Unit

/-- The request that an operation reads or writes, and whether its thread never took a reference to it. -/
def Op.touches : Op → Option (Nat × Bool)
  | .get (.request request) | .put (.request request) | .free (.request request)
  | .putReference (.source request) | .putReference (.destination request) | .putReference (.owner request)
  | .setMappings request _ _ | .setRequest request _ | .readRequest request | .completeAll request
  | .completionDone request | .waitForCompletion request | .ownerOpen request | .incCompleted request =>
      some (request, false)
  | .readGeneration request => some (request, true)
  | _ => none

section Effects
variable {δ : Type}

/-- A request that is touched after it was freed is recorded. -/
def Shared.touch (s : Shared δ) (op : Op) : Shared δ :=
  match op.touches with
  | none => s
  | some access =>
      if s.book.freed (.request access.1) = 0 then s
      else s.setHistory { s.history with touched := access :: s.history.touched }

def Own.take (own : Own) (object : Object) : Own := { own with refs := object ::ₘ own.refs }
def Own.give (own : Own) (object : Object) : Own := { own with refs := own.refs.erase object }

/-- The thread can not sleep in an interrupt or under the completion queue lock. -/
def Own.atomic (own : Own) : Bool := own.context = .interrupt ∨ .cq ∈ own.locks

def Own.acquire (own : Own) (lock : Lock) : Own :=
  { own with locks := lock ::ₘ own.locks, irqsOff := own.irqsOff || lock = .reset }

/-- The flags that `spin_lock_irqsave` saved are the ones of the context. -/
def Own.release (own : Own) (lock : Lock) : Own :=
  { own with
    locks := own.locks.erase lock
    irqsOff := if lock = .reset then own.context = .interrupt else own.irqsOff }

def Shared.log (s : Shared δ) (resource : Resource) (acquired : Bool) : Shared δ :=
  s.setHistory { s.history with resources := (resource, acquired) :: s.history.resources }

def Shared.insertEntry (s : Shared δ) (index : Index) (key : U32) (value : Nat) : Shared δ :=
  let inserted := s.setTable index ((s.tables index).insert key value)
  if index = .device then inserted.setRequest value { s.requests value with tracked := true } else inserted

/-- A request leaves the table of an open file before `completed_requests` has counted it. -/
def Shared.earlyReap (s : Shared δ) (index : Index) (request : Nat) : Bool :=
  match index with
  | .requests file => (s.requests request).tracked && !(s.requests request).counted && !(s.files file).closing
  | _ => false

def Shared.eraseEntry (s : Shared δ) (index : Index) (key : U32) (value : Nat) : Shared δ :=
  let erased := s.setTable index ((s.tables index).erase key)
  if s.earlyReap index value then
    erased.setHistory { s.history with earlyReaps := value :: s.history.earlyReaps }
  else erased

/-- The object behind a reference, and the record without that reference. -/
def Shared.referent (s : Shared δ) : Reference → Option Object
  | .source request => (s.requests request).source.map .mapping
  | .destination request => (s.requests request).destination.map .mapping
  | .owner request => (s.requests request).owner.map .file

def Shared.dropReference (s : Shared δ) : Reference → Shared δ
  | .source request => s.setRequest request { s.requests request with source := none }
  | .destination request => s.setRequest request { s.requests request with destination := none }
  | .owner request => s.setRequest request { s.requests request with owner := none }

/-- Freeing a mapping unmaps and unpins its pages. -/
def Shared.freeObject (s : Shared δ) (own : Own) (object : Object) : Shared δ :=
  let freed := { s with book := s.book.free object }
  match object with
  | .mapping mapping =>
      freed.setHistory { s.history with releases := (mapping, own.atomic) :: s.history.releases }
  | _ => freed

/-- A new request refers to its owner. -/
def Shared.newRequest (s : Shared δ) (owner : Option Nat) : Shared δ :=
  let book := s.book.allocate (.request s.requestCount)
  { s.setRequest s.requestCount { owner } with
    requestCount := s.requestCount + 1
    book := match owner with
      | some file => book.get (.file file)
      | none => book }

def Shared.newMapping (s : Shared δ) (mapping : Mapping) : Shared δ :=
  { s with
    mappings := Function.update s.mappings s.mappingCount mapping
    mappingCount := s.mappingCount + 1
    book := s.book.allocate (.mapping s.mappingCount) }

def Shared.newFile (s : Shared δ) : Shared δ :=
  { s.setFile s.fileCount {} with
    fileCount := s.fileCount + 1
    book := s.book.allocate (.file s.fileCount) }

def Shared.work (s : Shared δ) : WorkItem → Work
  | .cqPoll => s.cqPollWork
  | .reset => s.resetWork

def Shared.setWork (s : Shared δ) (item : WorkItem) (work : Work) : Shared δ :=
  match item with
  | .cqPoll => { s with cqPollWork := work }
  | .reset => { s with resetWork := work }

def Shared.irq (s : Shared δ) : Vector → Interrupt
  | .cq => s.cqIrq
  | .async => s.asyncIrq

def Shared.setIrq (s : Shared δ) (vector : Vector) (irq : Interrupt) : Shared δ :=
  match vector with
  | .cq => { s with cqIrq := irq }
  | .async => { s with asyncIrq := irq }

/-- An interrupt line and a character device work from their registration to their removal. -/
def Shared.setResource (hw : Hardware δ) (s : Shared δ) (resource : Resource) (acquired : Bool) : Shared δ :=
  let logged := s.log resource acquired
  match resource with
  | .busMaster => { logged with hardware := hw.busMaster s.hardware acquired }
  | .cqIrq => logged.setIrq .cq { s.cqIrq with registered := acquired }
  | .asyncIrq => logged.setIrq .async { s.asyncIrq with registered := acquired }
  | .miscDevice => { logged with misc := acquired }
  | _ => logged

/-- Removing an interrupt handler waits until it returns. -/
def Shared.releasable (s : Shared δ) : Resource → Bool
  | .cqIrq => !s.cqIrq.running
  | .asyncIrq => !s.asyncIrq.running
  | _ => true

def Fields.test (fields : Fields) : Test → Bool
  | .cq => fields.cqTest
  | .async => fields.asyncTest
  | .nop => fields.nopTest

def Test.completed (completed : Bool) : Test → Assignment
  | .cq => .cqTest completed
  | .async => .asyncTest completed
  | .nop => .nopTest completed

/-- The thread gives a mapping to a request. -/
def Own.giveMapping (own : Own) : Option Nat → Own
  | some mapping => own.give (.mapping mapping)
  | none => own

/-- The owner of the request counts it. -/
def Shared.countCompleted (s : Shared δ) (request : Nat) : Shared δ :=
  match (s.requests request).owner with
  | none => s
  | some file =>
      (s.setFile file { s.files file with completed := (s.files file).completed + 1 }).setRequest request
        { s.requests request with counted := true }

def Shared.ownerOpen (s : Shared δ) (request : Nat) : Bool :=
  (s.requests request).owner.any fun file => !(s.files file).closing

/-- A blocked operation has no outcome. The surroundings choose which allocation, copy, or wait fails.
A table has a free handle, so `alloc` fails for want of memory only. -/
def exec (hw : Hardware δ) : Semantics Op Reply Choice (Shared δ) Own
  | _, s, own, .readl register =>
      some ((hw.read s.hardware register).1, { s with hardware := (hw.read s.hardware register).2 }, own)
  | _, s, own, .writel register value => some ((), { s with hardware := hw.write s.hardware register value }, own)
  | _, s, own, .loadCompletion slot =>
      some (hw.loadCompletion s.hardware (s.fields.cqDma + 32 * slot.setWidth 64), s, own)
  | _, s, own, .storeSubmission slot submission =>
      let address := s.fields.sqDma + 64 * slot.setWidth 64
      some ((), { s with hardware := hw.storeSubmission s.hardware address submission }, own)
  | _, s, own, .fields => some (s.fields, s, own)
  | _, s, own, .assign assignment => some ((), s.setFields (s.fields.assign assignment), own)
  | _, s, own, .lock lock => if s.locked lock then none else some ((), s.setLocked lock true, own.acquire lock)
  | _, s, own, .unlock lock => some ((), s.setLocked lock false, own.release lock)
  | choice, s, own, .insert index key value =>
      if (s.tables index).lookup key ≠ none then some (some .ebusy, s, own)
      else if choice.error.isSome then some (some .enomem, s, own)
      else some (none, s.insertEntry index key value, own.give (index.object value))
  | choice, s, own, .alloc index value =>
      if choice.error.isSome then some (.error .enomem, s, own)
      else if choice.handle ≠ 0 ∧ (s.tables index).lookup choice.handle = none then
        some (.ok choice.handle, s.insertEntry index choice.handle value, own.give (index.object value))
      else none
  | _, s, own, .erase index key =>
      match (s.tables index).lookup key with
      | none => some (none, s, own)
      | some value => some (some value, s.eraseEntry index key value, own.take (index.object value))
  | _, s, own, .load index key => some ((s.tables index).lookup key, s, own)
  | _, s, own, .next index bound => some ((s.tables index).next BitVec.toNat bound, s, own)
  | _, s, own, .get object =>
      let s := s.touch (.get object)
      some ((), { s with book := s.book.get object }, own.take object)
  | _, s, own, .put object =>
      let s := s.touch (.put object)
      some (s.book.refs object = 1, { s with book := s.book.put object }, own.give object)
  | _, s, own, .putReference reference =>
      let s := s.touch (.putReference reference)
      match s.referent reference with
      | none => some (none, s, own)
      | some object =>
          some (if s.book.refs object = 1 then some object else none,
            { s.dropReference reference with book := s.book.put object }, own)
  | _, s, own, .free object => some ((), (s.touch (.free object)).freeObject own object, own)
  | _, s, own, .discard object => some ((), { s with book := (s.book.put object).free object }, own.give object)
  | choice, s, own, .allocRequest owner =>
      if choice.error.isSome then some (none, s, own)
      else some (some s.requestCount, s.newRequest owner, own.take (.request s.requestCount))
  | _, s, own, .setMappings request source destination =>
      let s := s.touch (.setMappings request source destination)
      some ((), s.setRequest request { s.requests request with source, destination },
        (own.giveMapping source).giveMapping destination)
  | _, s, own, .setRequest request field =>
      let s := s.touch (.setRequest request field)
      some ((), s.setRequest request ((s.requests request).assign field), own)
  | _, s, own, .readRequest request => some (s.requests request, s.touch (.readRequest request), own)
  | _, s, own, .readGeneration request =>
      some ((s.requests request).resetGeneration, s.touch (.readGeneration request), own)
  | _, s, own, .completeAll request =>
      let s := s.touch (.completeAll request)
      some ((), s.setRequest request { s.requests request with done := true }, own)
  | _, s, own, .completionDone request => some ((s.requests request).done, s.touch (.completionDone request), own)
  | choice, s, own, .waitForCompletion request =>
      let s := s.touch (.waitForCompletion request)
      if (s.requests request).done then some (none, s, own)
      else if choice.error = some .etimedout ∨ choice.error = some .erestartsys then some (choice.error, s, own)
      else none
  | _, s, own, .ownerOpen request => some (s.ownerOpen request, s.touch (.ownerOpen request), own)
  | _, s, own, .incCompleted request => some ((), (s.touch (.incCompleted request)).countCompleted request, own)
  | _, s, own, .decCompleted file =>
      some ((), s.setFile file { s.files file with completed := (s.files file).completed - 1 }, own)
  | _, s, own, .readCompleted file => some ((s.files file).completed, s, own)
  | choice, s, own, .mapPages file userAddress length flags =>
      match choice.error with
      | some error => some (.error error, s, own)
      | none =>
          some (.ok s.mappingCount, s.newMapping { file, dmaAddr := choice.address, userAddress, length, flags },
            own.take (.mapping s.mappingCount))
  | _, s, own, .readMapping mapping => some (s.mappings mapping, s, own)
  | _, s, own, .readRefs object => some (s.book.refs object, s, own)
  | choice, s, own, .allocFile =>
      if choice.error.isSome then some (none, s, own)
      else some (some s.fileCount, s.newFile, own.take (.file s.fileCount))
  | _, s, own, .publishFile file =>
      some ((), s.setFile file { s.files file with opened := true }, own.give (.file file))
  | _, s, own, .setClosing file => some ((), s.setFile file { s.files file with closing := true }, own)
  | _, s, own, .readClosing file => some ((s.files file).closing, s, own)
  | _, s, own, .leave file => some ((), s.setFile file { s.files file with users := (s.files file).users - 1 }, own)
  | _, s, own, .incNextCommandId =>
      some (s.nextCommandId + 1, { s with nextCommandId := s.nextCommandId + 1 }, own)
  | _, s, own, .incPending => some ((), { s with pendingRequests := s.pendingRequests + 1 }, own)
  | _, s, own, .decPending => some ((), { s with pendingRequests := s.pendingRequests - 1 }, own)
  | _, s, own, .readPending => some (s.pendingRequests, s, own)
  | _, s, own, .schedule item => some ((), s.setWork item { s.work item with pending := true }, own)
  | _, s, own, .cancelSync item => if (s.work item).running then none else some ((), s.setWork item {}, own)
  | _, s, own, .finishWork item => some ((), s.setWork item { s.work item with running := false }, own)
  | _, s, own, .irqReturn vector => some ((), s.setIrq vector { s.irq vector with running := false }, own)
  | choice, s, own, .allocDevice =>
      if choice.error.isSome then some (false, s, own) else some (true, { s with deviceRefs := 1 }, own)
  | _, s, own, .getDevice => some ((), { s with deviceRefs := s.deviceRefs + 1 }, own)
  | _, s, own, .putDevice => some (s.deviceRefs = 1, { s with deviceRefs := s.deviceRefs - 1 }, own)
  | _, s, own, .freeDevice => some ((), { s with deviceFreed := true }, own)
  | _, s, own, .bind => some ((), { s with bound := true }, own)
  | choice, s, own, .acquire resource =>
      match choice.error with
      | some error => some (some error, s, own)
      | none => some (none, Shared.setResource hw s resource true, own)
  | _, s, own, .hold resource => some ((), Shared.setResource hw s resource true, own)
  | _, s, own, .release resource =>
      if s.releasable resource then some ((), Shared.setResource hw s resource false, own) else none
  | choice, s, own, .allocCoherent resource =>
      if choice.error.isSome then some (none, s, own)
      else some (some choice.address, Shared.setResource hw s resource true, own)
  | choice, s, own, .inspect => some (choice.error.isNone, s, own)
  | choice, s, own, .waitForTest test =>
      if s.fields.test test then some (true, s.setFields (s.fields.assign (test.completed false)), own)
      else if choice.error.isSome then some (false, s, own)
      else none
  | choice, s, own, .copyFromUser => some (choice.error.isNone, s, own)
  | choice, s, own, .copyToUser _ => some (choice.error.isNone, s, own)
  | _, s, own, .answerWait request result =>
      some ((), s.setHistory { s.history with waits := (request, result) :: s.history.waits }, own)

end Effects

/-- Every register of this hardware reads as zero. -/
def zeroHardware : Hardware Unit where
  read _ _ := (0, ())
  write _ _ _ := ()
  loadCompletion _ _ := {}
  storeSubmission _ _ _ := ()
  busMaster _ _ := ()
  deliver _ _ := none

end VamsSoc.Driver
