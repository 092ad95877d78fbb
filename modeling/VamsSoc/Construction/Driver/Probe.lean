/-
This file has the probe with its self-tests and its error labels, and the removal of the device.
-/

import VamsSoc.Construction.Driver.Functions

namespace VamsSoc.Driver
open Library Abi

/-- The steps after which the test build of the driver can fail the probe. -/
inductive ProbeStep where
  | afterEnable | afterRegion | afterIomap | afterDmaMask | afterRings | afterVectors | afterCqIrq | afterAsyncIrq
  | afterChardev
  deriving DecidableEq, Repr

/-- The parameters of the module; a build without tests has the defaults. -/
structure Config where
  failStep : Option ProbeStep := none
  irqSelftest : Bool := false
  nopSelftest : Bool := false
  pollSelftest : Bool := false
  deriving DecidableEq, Repr

def Config.maybeFail (config : Config) (step : ProbeStep) : Option Errno :=
  if config.failStep = some step then some .eio else none

def allocQueues : Code (Option Errno) := do
  match ← call (.allocCoherent .sqRing) with
  | none => return some .enomem
  | some sqDma =>
      call (.assign (.sqDma sqDma))
      call (.assign (.sq true))
      match ← call (.allocCoherent .cqRing) with
      | none =>
          call (.release .sqRing)
          call (.assign (.sq false))
          return some .enomem
      | some cqDma =>
          call (.assign (.cqDma cqDma))
          call (.assign (.cq true))
          if hasBits sqDma 63 || hasBits cqDma 63 then
            call (.release .cqRing)
            call (.release .sqRing)
            call (.assign (.cq false))
            call (.assign (.sq false))
            return some .efault
          else return none

def freeQueues : Code Unit := do
  if (← call .fields).cq then call (.release .cqRing)
  if (← call .fields).sq then call (.release .sqRing)
  call (.assign (.cq false))
  call (.assign (.sq false))

def validateEndpoint : Code (Option Errno) := do
  if (← call (.readl .deviceId)) ≠ 0x11001b36 then return some .enodev
  else
    call (.assign (.hwIfVersion (← call (.readl .hwIfVersion))))
    if (← call .fields).hwIfVersion >>> 16 ≠ 1 then return some .eprotonosupport
    else if (← call (.readl .descVersion)) ≠ 1 then return some .eprotonosupport
    else
      call (.assign (.capabilities (← call (.readl .capabilities))))
      if !hasBits (← call .fields).capabilities capMsix then return some .enodev
      else
        let status ← call (.readl .deviceStatus)
        if !hasBits status Pcie.statusReady || hasBits status (Pcie.statusResetting ||| statusFatal) then
          return some .ebusy
        else
          call (.assign (.fwVersion (← call (.readl .fwVersion))))
          call (.assign (.resetGeneration (← call (.readl .resetGeneration))))
          return none

def setDmaMask : Code (Option Errno) := do
  if ← call .inspect then return none
  else if ← call .inspect then return none
  else return some .eio

def registerChardev : Code (Option Errno) := do
  match ← call (.acquire .instanceNumber) with
  | some error => return some error
  | none =>
      call (.assign (.instanceNumber true))
      match ← call (.acquire .miscName) with
      | some _ =>
          call (.release .instanceNumber)
          call (.assign (.instanceNumber false))
          return some .enomem
      | none =>
          call (.assign (.miscName true))
          match ← call (.acquire .miscDevice) with
          | some error =>
              call (.release .miscName)
              call (.assign (.miscName false))
              call (.release .instanceNumber)
              call (.assign (.instanceNumber false))
              return some error
          | none => return none

def forceInterrupt (test : Test) (source : U32) : Code Bool := do
  call (.assign (test.completed false))
  call (.writel .intrForce source)
  let _ ← call (.readl .intrStatus)
  call (.waitForTest test)

def irqSelftest (config : Config) : Code (Option Errno) := do
  if !config.irqSelftest then return none
  else if !(← forceInterrupt .cq Pcie.intrCq) then return some .etimedout
  else if !(← forceInterrupt .async Pcie.intrFwEvent) then return some .etimedout
  else return none

def nopTestCommand : U32 := 0x56414d53
def nopTestCookie : U64 := 0x1122334455667788
def pollTestCookie : U64 := 0x504f4c4c5f4e4f50

def runNopSelftest : Code (Option Errno) := do
  let slot := (← call .fields).sqTail
  call (.storeSubmission slot
    { version := descVersion1, opcode := opNop, commandId := nopTestCommand, userCookie := nopTestCookie })
  call (.assign (.nopTest false))
  call (.assign (.nopTestCommandId nopTestCommand))
  call (.assign (.nopTestPending true))
  call (.assign (.sqTail ((slot + 1) &&& (queueDepth - 1))))
  call (.writel .sqDoorbell (← call .fields).sqTail)
  if !(← call (.waitForTest .nop)) then
    call (.assign (.nopTestPending false))
    return some .etimedout
  else
    let result := (← call .fields).nopTestResult
    if result.commandId ≠ nopTestCommand ∨ result.status ≠ statusSuccess ∨ result.errorCode ≠ errNone ∨
        result.bytesProcessed ≠ 0 ∨ result.userCookie ≠ nopTestCookie then return some .eproto
    else return none

def nopSelftest (config : Config) : Code (Option Errno) := do
  if !config.nopSelftest then return none
  else if !(← call .fields).queuesReady then return some .eopnotsupp
  else runNopSelftest

def runPollSelftest (request : Nat) : Code (Option Errno) := do
  match ← submitNop request pollTestCookie 0 with
  | some error => return some error
  | none =>
      match ← call (.waitForCompletion request) with
      | some _ => return some .etimedout
      | none =>
          let record ← call (.readRequest request)
          if record.driverStatus ≠ none then return record.driverStatus
          else if record.result.status ≠ statusSuccess ∨ record.result.errorCode ≠ errNone ∨
              record.result.userCookie ≠ pollTestCookie then return some .eproto
          else return none

def pollSelftest (config : Config) : Code (Option Errno) := do
  if !config.pollSelftest then return none
  else
    match ← call (.allocRequest none) with
    | none => return some .enomem
    | some request =>
        call (.writel .intrMask Pcie.intrCq)
        let _ ← call (.readl .intrMask)
        let result ← runPollSelftest request
        call (.writel .intrStatus Pcie.intrCq)
        call (.writel .intrMask 0)
        let _ ← call (.readl .intrMask)
        requestPut request
        return result

/-- Each error label of the probe releases one resource and falls through to the next label. -/
def errFreeDevice : Code Unit := devicePut

def errDisableDevice : Code Unit := do
  call (.release .memory)
  errFreeDevice

def errReleaseRegion : Code Unit := do
  call (.release .region)
  errDisableDevice

def errIounmap : Code Unit := do
  call (.release .bar0)
  errReleaseRegion

def errFreeQueues : Code Unit := do
  freeQueues
  errIounmap

def errFreeVectors : Code Unit := do
  call (.release .vectors)
  errFreeQueues

def errFreeCqIrq : Code Unit := do
  call (.release .cqIrq)
  call (.cancelSync .reset)
  cancelRequests .enodev false
  errFreeVectors

def errFreeAsyncIrq : Code Unit := do
  call (.release .asyncIrq)
  errFreeCqIrq

def errClearMaster : Code Unit := do
  maskInterrupts
  disableQueues
  call (.release .busMaster)
  call (.release .driverData)
  errFreeAsyncIrq

def errDeregisterMisc : Code Unit := do
  call (.lock .submit)
  call (.assign .removing)
  call (.unlock .submit)
  call (.release .miscDevice)
  call (.cancelSync .cqPoll)
  errClearMaster

/-- The part of the probe between the interrupt handlers and the character device. -/
def startDevice (config : Config) : Code (Option Errno) := do
  let configured ← if hasBits (← call .fields).capabilities capDma then configureQueues else pure none
  match configured with
  | some error => return some error
  | none =>
      call (.writel .intrMask 0)
      let _ ← call (.readl .intrMask)
      match ← irqSelftest config with
      | some error => return some error
      | none =>
          match ← nopSelftest config with
          | some error => return some error
          | none =>
              match ← pollSelftest config with
              | some error => return some error
              | none => registerChardev

def probeStarted (config : Config) : Code (Option Errno) := do
  call (.hold .driverData)
  call (.hold .busMaster)
  match ← startDevice config with
  | some error =>
      errClearMaster
      return some error
  | none =>
      match config.maybeFail .afterChardev with
      | some error =>
          errDeregisterMisc
          return some error
      | none =>
          call .bind
          return none

def probeInterrupts (config : Config) : Code (Option Errno) := do
  match ← call (.acquire .cqIrq) with
  | some error =>
      errFreeVectors
      return some error
  | none =>
      match config.maybeFail .afterCqIrq with
      | some error =>
          errFreeCqIrq
          return some error
      | none =>
          match ← call (.acquire .asyncIrq) with
          | some error =>
              errFreeCqIrq
              return some error
          | none =>
              match config.maybeFail .afterAsyncIrq with
              | some error =>
                  errFreeAsyncIrq
                  return some error
              | none => probeStarted config

def probeVectors (config : Config) : Code (Option Errno) := do
  match config.maybeFail .afterRings with
  | some error =>
      errFreeQueues
      return some error
  | none =>
      match ← call (.acquire .vectors) with
      | some error =>
          errFreeQueues
          return some error
      | none =>
          if !(← call .inspect) then
            errFreeVectors
            return some .enospc
          else
            match config.maybeFail .afterVectors with
            | some error =>
                errFreeVectors
                return some error
            | none => probeInterrupts config

/-- The checks of the endpoint, the mask, and the rings all unmap the registers when they fail. -/
def probeEndpoint (config : Config) : Code (Option Errno) := do
  maskInterrupts
  call (.writel .intrStatus intrAll)
  match ← validateEndpoint with
  | some error => return some error
  | none =>
      match ← setDmaMask with
      | some error => return some error
      | none =>
          match config.maybeFail .afterDmaMask with
          | some error => return some error
          | none => if hasBits (← call .fields).capabilities capDma then allocQueues else return none

def probeMapped (config : Config) : Code (Option Errno) := do
  match config.maybeFail .afterIomap with
  | some error =>
      errIounmap
      return some error
  | none =>
      match ← probeEndpoint config with
      | some error =>
          errIounmap
          return some error
      | none => probeVectors config

def probeRegion (config : Config) : Code (Option Errno) := do
  match config.maybeFail .afterRegion with
  | some error =>
      errReleaseRegion
      return some error
  | none =>
      match ← call (.acquire .bar0) with
      | some _ =>
          errReleaseRegion
          return some .enomem
      | none => probeMapped config

def probeEnabled (config : Config) : Code (Option Errno) := do
  match config.maybeFail .afterEnable with
  | some error =>
      errDisableDevice
      return some error
  | none =>
      if !(← call .inspect) then
        errDisableDevice
        return some .enodev
      else
        match ← call (.acquire .region) with
        | some error =>
            errDisableDevice
            return some error
        | none => probeRegion config

def probe (config : Config) : Code (Option Errno) := do
  if !(← call .allocDevice) then return some .enomem
  else
    call (.hold .pciDevice)
    match ← call (.acquire .memory) with
    | some error =>
        errFreeDevice
        return some error
    | none => probeEnabled config

def remove : Code Unit := do
  call (.lock .submit)
  call (.assign .removing)
  call (.unlock .submit)
  call (.release .miscDevice)
  call (.cancelSync .cqPoll)
  maskInterrupts
  call (.writel .intrStatus intrAll)
  disableQueues
  call (.release .busMaster)
  call (.release .asyncIrq)
  call (.release .cqIrq)
  call (.cancelSync .reset)
  cancelRequests .enodev false
  call (.release .vectors)
  freeQueues
  call (.release .bar0)
  call (.release .region)
  call (.release .memory)
  call (.release .driverData)
  devicePut

end VamsSoc.Driver
