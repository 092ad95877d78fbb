import VamsSoc.Construction.Abi.Records
import VamsSoc.Construction.Endpoint.Bridge
import VamsSoc.Construction.Endpoint.Command
import VamsSoc.Construction.Endpoint.Machine
import VamsSoc.Construction.Endpoint.Payload
import VamsSoc.Construction.Endpoint.Primitives
import VamsSoc.Construction.Endpoint.Registers
import VamsSoc.Construction.Endpoint.State
import VamsSoc.Library.EventMachine
import VamsSoc.Library.LittleEndian
import VamsSoc.Library.Masks
import VamsSoc.Library.Ring
import VamsSoc.Proof.Endpoint.Geometry
import VamsSoc.Construction.Portal.Command
import VamsSoc.Construction.Portal.Control
import VamsSoc.Construction.Firmware.Command
import VamsSoc.Construction.Firmware.Threads
import VamsSoc.Construction.System.Machine
import VamsSoc.Proof.System.Ownership
import VamsSoc.Proof.Endpoint.View
import VamsSoc.Proof.Endpoint.Quiet
import VamsSoc.Proof.Firmware.Place
import VamsSoc.Proof.Firmware.Recovery
import VamsSoc.Proof.Firmware.Completer
import VamsSoc.Proof.Firmware.Scheduler
import VamsSoc.Proof.Portal.Window
import VamsSoc.Proof.System.Coupling
import VamsSoc.Proof.Firmware.Answers
import VamsSoc.Proof.Endpoint.Turns
import VamsSoc.Proof.Endpoint.Replies
import VamsSoc.Proof.Portal.Exchange
import VamsSoc.Proof.System.Linked
import VamsSoc.Proof.System.EndpointSide
import VamsSoc.Proof.System.FirmwareSide
import VamsSoc.Proof.System.PortalSide
import VamsSoc.Proof.System.Runs
import VamsSoc.Proof.System.StaleAnswers
import VamsSoc.Proof.Endpoint.Custody
import VamsSoc.Proof.Endpoint.CommandOwnership
import VamsSoc.Proof.Endpoint.Publication
import VamsSoc.Proof.Endpoint.WorkConservation
import VamsSoc.Proof.Firmware.Pool
import VamsSoc.Proof.Firmware.Lifecycle
import VamsSoc.Construction.Portal.Machine
import VamsSoc.Proof.Portal.Serializer
import VamsSoc.Proof.Endpoint.Stability
import VamsSoc.Proof.Endpoint.Configuration
import VamsSoc.Proof.Endpoint.ResetHandover
import VamsSoc.Proof.Endpoint.Interrupts
import VamsSoc.Proof.Endpoint.Rejection
import VamsSoc.Proof.Endpoint.Stages
import VamsSoc.Proof.Endpoint.EngineReset
import VamsSoc.Proof.Endpoint.Throttling
import VamsSoc.Library.ByteMemory
import VamsSoc.Library.Checks
import VamsSoc.Library.Crc
import VamsSoc.Proof.Endpoint.Transfers
import VamsSoc.Proof.Endpoint.PayloadEffect
import VamsSoc.Library.Program
import VamsSoc.Library.Solo
import VamsSoc.Library.References
import VamsSoc.Library.Table
import VamsSoc.Construction.Driver.State
import VamsSoc.Construction.Driver.Operations
import VamsSoc.Construction.Driver.Functions
import VamsSoc.Construction.Driver.Calls
import VamsSoc.Construction.Driver.Probe
import VamsSoc.Construction.Driver.Machine
import VamsSoc.Proof.Driver.Owners
import VamsSoc.Proof.Driver.Ledger
import VamsSoc.Proof.Driver.Upkeep
import VamsSoc.Proof.Driver.Tables
import VamsSoc.Proof.Driver.Objects
import VamsSoc.Proof.Firmware.Validation
import VamsSoc.Proof.Firmware.FirstFailure
import VamsSoc.Proof.Driver.Publishing
import VamsSoc.Proof.Driver.Submission
import VamsSoc.Proof.System.Admission
import VamsSoc.Proof.System.Containment
import VamsSoc.Construction.Firmware.PortalDriver
import VamsSoc.Proof.Portal.Acceptance
import VamsSoc.Proof.Portal.ResultIsolation
import VamsSoc.Library.Gate
import VamsSoc.Library.Burst
import VamsSoc.Library.History
import VamsSoc.Construction.Firmware.Retained
import VamsSoc.Proof.Firmware.Retained
import VamsSoc.Construction.Firmware.Health
import VamsSoc.Proof.Firmware.Health
import VamsSoc.Proof.Firmware.Dispatch
import VamsSoc.Construction.Firmware.Capture
import VamsSoc.Proof.Portal.Capture
import VamsSoc.Proof.Driver.Accounts
import VamsSoc.Proof.Driver.Rules
import VamsSoc.Proof.Driver.RequestRules
import VamsSoc.Proof.Driver.TableRules
import VamsSoc.Proof.Driver.Routines
import VamsSoc.Proof.Driver.Submitting
import VamsSoc.Proof.Driver.CallRules
import VamsSoc.Proof.Driver.ProbeRules
import VamsSoc.Proof.Driver.Threads
import VamsSoc.Construction.System.Device
import VamsSoc.Proof.Driver.Polling
import VamsSoc.Proof.Driver.Lifetimes
import VamsSoc.Proof.Driver.Reaping
