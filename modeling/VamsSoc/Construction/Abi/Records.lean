/-
This file has the wire records and codes that the endpoint, the portal, the firmware, and the driver share.
-/

import VamsSoc.Library.LittleEndian

namespace VamsSoc

abbrev U8 := BitVec 8
abbrev U16 := BitVec 16
abbrev U32 := BitVec 32
abbrev U64 := BitVec 64

namespace Abi
open Library

def descVersion1 : U16 := 1

def opNop : U8 := 0
def opMemCopy : U8 := 1
def opMemFill : U8 := 2
def opCrc32 : U8 := 3
def opVectorAdd : U8 := 4

def subFVerifyCrc : U8 := 1

def statusSuccess : U16 := 0
def statusInvalid : U16 := 1
def statusFailed : U16 := 2
def statusTimedOut : U16 := 3
def statusReset : U16 := 5

def errNone : U16 := 0x00
def errUnsupportedVersion : U16 := 0x01
def errInvalidOpcode : U16 := 0x02
def errInvalidFlags : U16 := 0x03
def errReservedNonzero : U16 := 0x04
def errInvalidLength : U16 := 0x06
def errInvalidAlignment : U16 := 0x07
def errAddressOverflow : U16 := 0x08
def errInvalidAddress : U16 := 0x09
def errInvalidTimeout : U16 := 0x0a
def errDmaRead : U16 := 0x10
def errDmaWrite : U16 := 0x11
def errEngine : U16 := 0x12
def errTimeout : U16 := 0x13
def errCrcMismatch : U16 := 0x14
def errReset : U16 := 0x15
def errQueueReset : U16 := 0x16

def submissionSize : Nat := 64
def completionSize : Nat := 32

/-- This is the packed `vams_submission` record, with its fields in processor order. -/
structure Submission where
  version : U16 := 0
  opcode : U8 := 0
  flags : U8 := 0
  commandId : U32 := 0
  sourceDma : U64 := 0
  destinationDma : U64 := 0
  length : U32 := 0
  timeoutMs : U32 := 0
  userCookie : U64 := 0
  expectedCrc : U32 := 0
  reserved0 : U32 := 0
  reserved1 : U64 := 0
  reserved2 : U64 := 0
  deriving DecidableEq, Repr, Inhabited

/-- This is the packed `vams_completion` record, with its fields in processor order. -/
structure Completion where
  commandId : U32 := 0
  status : U16 := 0
  errorCode : U16 := 0
  bytesProcessed : U32 := 0
  resultCrc : U32 := 0
  userCookie : U64 := 0
  deviceTimestamp : U64 := 0
  deriving DecidableEq, Repr, Inhabited

/-- The host names a command by its ID and its cookie. -/
def Submission.identity (submission : Submission) : U32 × U64 :=
  (submission.commandId, submission.userCookie)

def Completion.identity (completion : Completion) : U32 × U64 :=
  (completion.commandId, completion.userCookie)

def Submission.toBytes (submission : Submission) : List U8 :=
  leBytes 2 submission.version ++ leBytes 1 submission.opcode ++ leBytes 1 submission.flags ++
    leBytes 4 submission.commandId ++ leBytes 8 submission.sourceDma ++
    leBytes 8 submission.destinationDma ++ leBytes 4 submission.length ++
    leBytes 4 submission.timeoutMs ++ leBytes 8 submission.userCookie ++
    leBytes 4 submission.expectedCrc ++ leBytes 4 submission.reserved0 ++
    leBytes 8 submission.reserved1 ++ leBytes 8 submission.reserved2

/-- A cast of the received bytes to the record reads missing bytes as zero. -/
def Submission.ofBytes (bytes : List U8) : Submission where
  version := leWord 16 bytes 0
  opcode := leWord 8 bytes 2
  flags := leWord 8 bytes 3
  commandId := leWord 32 bytes 4
  sourceDma := leWord 64 bytes 8
  destinationDma := leWord 64 bytes 16
  length := leWord 32 bytes 24
  timeoutMs := leWord 32 bytes 28
  userCookie := leWord 64 bytes 32
  expectedCrc := leWord 32 bytes 40
  reserved0 := leWord 32 bytes 44
  reserved1 := leWord 64 bytes 48
  reserved2 := leWord 64 bytes 56

def Completion.toBytes (completion : Completion) : List U8 :=
  leBytes 4 completion.commandId ++ leBytes 2 completion.status ++
    leBytes 2 completion.errorCode ++ leBytes 4 completion.bytesProcessed ++
    leBytes 4 completion.resultCrc ++ leBytes 8 completion.userCookie ++
    leBytes 8 completion.deviceTimestamp

def Completion.ofBytes (bytes : List U8) : Completion where
  commandId := leWord 32 bytes 0
  status := leWord 16 bytes 4
  errorCode := leWord 16 bytes 6
  bytesProcessed := leWord 32 bytes 8
  resultCrc := leWord 32 bytes 12
  userCookie := leWord 64 bytes 16
  deviceTimestamp := leWord 64 bytes 24

@[simp] theorem Submission.length_toBytes (submission : Submission) :
    submission.toBytes.length = submissionSize := by simp [toBytes, submissionSize]

@[simp] theorem Completion.length_toBytes (completion : Completion) :
    completion.toBytes.length = completionSize := by simp [toBytes, completionSize]

/-- The receiver of a whole submission reads the record that was sent. -/
@[simp] theorem Submission.ofBytes_toBytes (submission : Submission) :
    ofBytes submission.toBytes = submission := by
  simp [ofBytes, toBytes, leWord_leBytes, leWord_leBytes_append, leWord_skip]

/-- The receiver of a whole completion reads the record that was sent. -/
@[simp] theorem Completion.ofBytes_toBytes (completion : Completion) :
    ofBytes completion.toBytes = completion := by
  simp [ofBytes, toBytes, leWord_leBytes, leWord_leBytes_append, leWord_skip]

/-- The first three kinds of frame go to the portal, and the last three come from it. -/
inductive FrameKind where
  | submission | engineResult | resetAcknowledgment | answer | abort | resetNotice
  deriving DecidableEq, Repr

/-- A frame remembers its kind and the number of the fetch that it is about; only its bytes cross the bridge. -/
structure Frame where
  kind : FrameKind
  fetch : Nat
  bytes : List U8
  deriving DecidableEq, Repr

/-- One direction of the bridge holds the frames that its reader has not taken yet. -/
structure Link where
  connected : Bool := true
  writable : Bool := true
  tx : List Frame := []
  deriving DecidableEq, Repr

end Abi
end VamsSoc
