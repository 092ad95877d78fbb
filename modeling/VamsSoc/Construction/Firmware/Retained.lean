/-
This file has the retained record of the firmware and the window of the portal that keeps it across warm resets.
-/

import VamsSoc.Construction.Abi.Records
import VamsSoc.Library.EventMachine
import VamsSoc.Library.Masks

namespace VamsSoc.Firmware
open Library

def retainedMagic : U32 := 0x56414d52
def retainedVersion : U16 := 1
def retainedEventCount : U32 := 4
def retainedSize : Nat := 120
def retainedCrcOffset : Nat := 8

structure RetainedEvent where
  eventId : U32 := 0
  commandId : U32 := 0
  generation : U32 := 0
  timestampMs : U32 := 0
  deriving DecidableEq, Repr, Inhabited

/-- The record has no padding, so its bytes are those of its fields. -/
structure RetainedRecord where
  magic : U32 := 0
  version : U16 := 0
  length : U16 := 0
  crc32 : U32 := 0
  bootCount : U32 := 0
  resetReason : U32 := 0
  resetGeneration : U32 := 0
  lastStuckTask : U32 := 0
  healthFailureCount : U32 := 0
  lastCommandId : U32 := 0
  lastCommandGeneration : U32 := 0
  lastAssertion : U32 := 0
  stackFailure : U32 := 0
  eventHead : U32 := 0
  eventCount : U32 := 0
  events : Vector RetainedEvent 4 := Vector.replicate 4 {}
  deriving DecidableEq, Repr

def RetainedEvent.toBytes (event : RetainedEvent) : List U8 :=
  leBytes 4 event.eventId ++ leBytes 4 event.commandId ++ leBytes 4 event.generation ++ leBytes 4 event.timestampMs

def RetainedEvent.ofBytes (bytes : List U8) : RetainedEvent where
  eventId := leWord 32 bytes 0
  commandId := leWord 32 bytes 4
  generation := leWord 32 bytes 8
  timestampMs := leWord 32 bytes 12

namespace RetainedRecord

/-- The bytes in front of the checksum. -/
def front (record : RetainedRecord) : List U8 :=
  leBytes 4 record.magic ++ leBytes 2 record.version ++ leBytes 2 record.length

def counters (record : RetainedRecord) : List U8 :=
  leBytes 4 record.bootCount ++ leBytes 4 record.resetReason ++ leBytes 4 record.resetGeneration ++
    leBytes 4 record.lastStuckTask ++ leBytes 4 record.healthFailureCount ++ leBytes 4 record.lastCommandId ++
    leBytes 4 record.lastCommandGeneration ++ leBytes 4 record.lastAssertion ++ leBytes 4 record.stackFailure ++
    leBytes 4 record.eventHead ++ leBytes 4 record.eventCount

/-- The bytes behind the checksum. -/
def back (record : RetainedRecord) : List U8 :=
  record.counters ++ (List.finRange 4).flatMap fun index => (record.events.get index).toBytes

def toBytes (record : RetainedRecord) : List U8 := record.front ++ (leBytes 4 record.crc32 ++ record.back)

def ofBytes (bytes : List U8) : RetainedRecord where
  magic := leWord 32 bytes 0
  version := leWord 16 bytes 4
  length := leWord 16 bytes 6
  crc32 := leWord 32 bytes 8
  bootCount := leWord 32 bytes 12
  resetReason := leWord 32 bytes 16
  resetGeneration := leWord 32 bytes 20
  lastStuckTask := leWord 32 bytes 24
  healthFailureCount := leWord 32 bytes 28
  lastCommandId := leWord 32 bytes 32
  lastCommandGeneration := leWord 32 bytes 36
  lastAssertion := leWord 32 bytes 40
  stackFailure := leWord 32 bytes 44
  eventHead := leWord 32 bytes 48
  eventCount := leWord 32 bytes 52
  events := Vector.ofFn fun index => RetainedEvent.ofBytes (bytes.drop (56 + 16 * index.val))

end RetainedRecord

def crc32Byte (crc : U32) (value : U8) : U32 :=
  (List.range 8).foldl (fun crc _ => (crc >>> 1) ^^^ (0xedb88320 &&& (0 - (crc &&& 1)))) (crc ^^^ value.setWidth 32)

abbrev IsCrcByte (index : Nat) : Prop := retainedCrcOffset ≤ index ∧ index < retainedCrcOffset + 4

/-- The loop goes over all bytes of the record and takes those of the checksum as zero. -/
def retainedCrc32 (record : RetainedRecord) : U32 :=
  ~~~(List.range retainedSize).foldl
    (fun crc index => crc32Byte crc (if IsCrcByte index then 0 else record.toBytes.getD index 0)) (BitVec.allOnes 32)

def retainedValidate (record : RetainedRecord) : Bool :=
  record.magic == retainedMagic && record.version == retainedVersion &&
    record.length == BitVec.ofNat 16 retainedSize && record.crc32 == retainedCrc32 record

/-- The checksum is computed anew. -/
def RetainedRecord.sealed (record : RetainedRecord) : RetainedRecord := { record with crc32 := retainedCrc32 record }

def retainedFormat (resetReason generation : U32) : RetainedRecord :=
  RetainedRecord.sealed {
    magic := retainedMagic
    version := retainedVersion
    length := BitVec.ofNat 16 retainedSize
    bootCount := 1
    resetReason
    resetGeneration := generation }

/-- The event goes to the head, which moves on around the ring. -/
def RetainedRecord.pushEvent (record : RetainedRecord) (event : RetainedEvent) : RetainedRecord :=
  { record with
    events := record.events.setIfInBounds record.eventHead.toNat event
    eventHead := (record.eventHead + 1) % retainedEventCount
    eventCount := if record.eventCount < retainedEventCount then record.eventCount + 1 else record.eventCount }

/-- The retention words of the portal; a warm reset leaves them alone. -/
abbrev Retention := Vector U32 32

/-- The record is read word by word from the front of the window. -/
def retentionRead (window : Retention) : RetainedRecord :=
  RetainedRecord.ofBytes ((List.range (retainedSize / 4)).flatMap fun index => leBytes 4 (window[index]?.getD 0))

def retentionWrite (window : Retention) (record : RetainedRecord) : Retention :=
  (List.range (retainedSize / 4)).foldl
    (fun window index => window.setIfInBounds index (leWord 32 record.toBytes (4 * index))) window

/-- The window outlives the firmware, and the copy in memory and its device are set at each boot. The answers of the
boots are recorded, the last one first. -/
structure Retained where
  window : Retention
  record : RetainedRecord := {}
  device : Bool := false
  answers : List Bool := []
  deriving DecidableEq, Repr

namespace Retained

def commit (s : Retained) (record : RetainedRecord) : Retained :=
  { s with record := record.sealed, window := retentionWrite s.window record.sealed }

def boot (s : Retained) (resetReason generation : U32) : Retained :=
  let record := retentionRead s.window
  if retainedValidate record then
    { s with device := true, answers := true :: s.answers }.commit
      { record with bootCount := satInc record.bootCount, resetReason, resetGeneration := generation }
  else
    let record := retainedFormat resetReason generation
    { window := retentionWrite s.window record, record, device := true, answers := false :: s.answers }

def noteHealth (s : Retained) (stuckTask failures : U32) : Retained :=
  s.commit { s.record with lastStuckTask := stuckTask, healthFailureCount := failures }

def noteCommand (s : Retained) (commandId generation : U32) : Retained :=
  s.commit { s.record with lastCommandId := commandId, lastCommandGeneration := generation }

def clearCommand (s : Retained) : Retained :=
  s.commit { s.record with lastCommandId := 0, lastCommandGeneration := 0 }

/-- The head is used as an index without a check; a store behind the four entries has no meaning here. -/
def noteEvent (s : Retained) (event : RetainedEvent) : Option Retained :=
  if s.record.eventHead.toNat < 4 then some (s.commit (s.record.pushEvent event)) else none

end Retained

inductive RetainedOp where
  | boot (resetReason generation : U32)
  | noteHealth (stuckTask failures : U32)
  | noteCommand (commandId generation : U32)
  | clearCommand
  | noteEvent (event : RetainedEvent)
  deriving DecidableEq, Repr

/-- Before the first boot there is no device to write to. A boot comes after a warm reset, which loses the copy. -/
def retainedStep : EventMachine Retained RetainedOp
  | s, .boot resetReason generation => some ({ s with record := {} }.boot resetReason generation)
  | s, .noteHealth stuckTask failures => if s.device then some (s.noteHealth stuckTask failures) else none
  | s, .noteCommand commandId generation => if s.device then some (s.noteCommand commandId generation) else none
  | s, .clearCommand => if s.device then some s.clearCommand else none
  | s, .noteEvent event => if s.device then s.noteEvent event else none

end VamsSoc.Firmware
