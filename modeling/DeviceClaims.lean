import DeviceClaims.Api.Claim
import DeviceClaims.Api.Device
import DeviceClaims.Api.DeviceSpec
import DeviceClaims.Api.Forms
import DeviceClaims.Api.Inventory
import DeviceClaims.Api.Meta
import DeviceClaims.Api.NodeRecord
import DeviceClaims.Api.Parameters
import DeviceClaims.Cluster
import DeviceClaims.Config
import DeviceClaims.Controller.Allocator
import DeviceClaims.Controller.Basic
import DeviceClaims.Controller.Error
import DeviceClaims.Controller.Locks
import DeviceClaims.Controller.Parameters
import DeviceClaims.Controller.Registry
import DeviceClaims.Controller.Service
import DeviceClaims.Disk
import DeviceClaims.Double.Basic
import DeviceClaims.Double.Shortest
import DeviceClaims.Ending
import DeviceClaims.Ident
import DeviceClaims.Instances
import DeviceClaims.Json.Access
import DeviceClaims.Json.Basic
import DeviceClaims.Json.Decode
import DeviceClaims.Json.Encode
import DeviceClaims.Json.Fault
import DeviceClaims.Json.Number
import DeviceClaims.Json.Printer
import DeviceClaims.Json.Reading
import DeviceClaims.Json.Token
import DeviceClaims.Keystream
import DeviceClaims.Launch
import DeviceClaims.LogFilter
import DeviceClaims.Node.Claim
import DeviceClaims.Node.DeviceState
import DeviceClaims.Node.Emulator
import DeviceClaims.Node.Error
import DeviceClaims.Node.Plugin
import DeviceClaims.Node.Service
import DeviceClaims.Pending
import DeviceClaims.Pending.Visit
import DeviceClaims.Process
import DeviceClaims.Program
import DeviceClaims.Retry
import DeviceClaims.Site
import DeviceClaims.SortedMap
import DeviceClaims.SpecDir
import DeviceClaims.StatusCommand
import DeviceClaims.Store.Access
import DeviceClaims.Store.Address
import DeviceClaims.Store.Backend
import DeviceClaims.Store.Client
import DeviceClaims.Store.Edit
import DeviceClaims.Store.Faulty
import DeviceClaims.Store.Memory
import DeviceClaims.Store.Table
import DeviceClaims.Text.Abridged
import DeviceClaims.Text.Decimal
import DeviceClaims.Text.Hex
import DeviceClaims.Text.Letter
import DeviceClaims.Text.Pattern
import DeviceClaims.Text.Pattern.Class
import DeviceClaims.Text.Pattern.Item
import DeviceClaims.Text.Percent
import DeviceClaims.Text.Place
import DeviceClaims.Text.Printable
import DeviceClaims.Text.Quoted
import DeviceClaims.Text.Terminal
import DeviceClaims.Text.Utf8
import DeviceClaims.Uuid
import DeviceClaims.Wire.Codec
import DeviceClaims.Wire.Convert
import DeviceClaims.Wire.Delivery
import DeviceClaims.Wire.Limit
import DeviceClaims.Wire.Message
import DeviceClaims.Wire.Record
import DeviceClaims.Wire.Status
import DeviceClaims.Wire.Varint
import DeviceClaims.Main
import DeviceClaims.Proofs.World
import DeviceClaims.Proofs.Machine
import DeviceClaims.Proofs.Machine.Play
import DeviceClaims.Proofs.Discipline
import DeviceClaims.Proofs.Discipline.Soundness
import DeviceClaims.Proofs.Change
import DeviceClaims.Proofs.Footprint
import DeviceClaims.Proofs.Footprint.Calls
import DeviceClaims.Proofs.LostUpdates
import DeviceClaims.Proofs.Picking
import DeviceClaims.Proofs.Holdings
import DeviceClaims.Proofs.Gathering
import DeviceClaims.Proofs.Exclusion
import DeviceClaims.Proofs.Prepared
import DeviceClaims.Proofs.Custody
import DeviceClaims.Proofs.Custody.Calls
import DeviceClaims.Proofs.Preparation
import DeviceClaims.Proofs.Machine.Calls
import DeviceClaims.Proofs.Course
import DeviceClaims.Proofs.Course.Calls
import DeviceClaims.Proofs.Course.Alone
import DeviceClaims.Proofs.Allocation
import DeviceClaims.Proofs.Filtering
import DeviceClaims.Proofs.Conflicts
import DeviceClaims.Proofs.Conflicts.Calls
import DeviceClaims.Proofs.Generation
import DeviceClaims.Proofs.Drawing
import DeviceClaims.Proofs.Upkeep
import DeviceClaims.Proofs.Upkeep.Calls
import DeviceClaims.Proofs.Upkeep.Conditions
import DeviceClaims.Proofs.Naming
import DeviceClaims.Proofs.Restarts
import DeviceClaims.Proofs.Json.Spelling
import DeviceClaims.Proofs.Json.Reading
import DeviceClaims.Proofs.Json.Decoding
import DeviceClaims.Proofs.Identifiers
import DeviceClaims.Proofs.StoredForm
import DeviceClaims.Proofs.ClaimForm
import DeviceClaims.Proofs.Ledger
import DeviceClaims.Proofs.Course.Plugins
import DeviceClaims.Proofs.Handles
import DeviceClaims.Proofs.Versions
import DeviceClaims.Proofs.Forgetting
import DeviceClaims.Proofs.Verdicts
import DeviceClaims.Proofs.Remnants
import DeviceClaims.Proofs.Remnants.Calls
import DeviceClaims.Proofs.Unpreparation
import DeviceClaims.Proofs.Json.FreeForm
import DeviceClaims.Proofs.Wire.Record
import DeviceClaims.Proofs.Wire.Codec
import DeviceClaims.Proofs.Wire.Message
import DeviceClaims.Proofs.Machine.Run
import DeviceClaims.Proofs.Readiness
import DeviceClaims.Proofs.Readiness.Calls
import DeviceClaims.Proofs.Starting
import DeviceClaims.Proofs.Publication
import DeviceClaims.Proofs.Course.Solo
import DeviceClaims.Proofs.Tenancy
import DeviceClaims.Proofs.Tenancy.Calls
import DeviceClaims.Proofs.Tenancy.Runs
import DeviceClaims.Proofs.Course.Controller
import DeviceClaims.Proofs.Deallocation
import DeviceClaims.Proofs.Proposal
import DeviceClaims.Proofs.Structured
import DeviceClaims.Proofs.Agreement
import DeviceClaims.Proofs.Reservations
import DeviceClaims.Proofs.Outcome
import DeviceClaims.Proofs.Expansion
import DeviceClaims.Proofs.Json.Nesting
import DeviceClaims.Proofs.NormalForm
import DeviceClaims.Proofs.Visits
import DeviceClaims.Proofs.Identifiers.Grammar
import DeviceClaims.Proofs.Identifiers.Spelling
import DeviceClaims.Proofs.Generated
import DeviceClaims.Proofs.Quotation
import DeviceClaims.Proofs.Batches.Refusals
import DeviceClaims.Proofs.Batches
import DeviceClaims.Proofs.Batches.Calls
