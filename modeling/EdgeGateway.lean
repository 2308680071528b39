import EdgeGateway.Inspection
import EdgeGateway.Level
import EdgeGateway.Main
import EdgeGateway.Channel.Validation
import EdgeGateway.Manifest.Json
import EdgeGateway.Rehearsal.Basic
import EdgeGateway.Proofs.Channel.Grammar
import EdgeGateway.Proofs.Router.Table
import EdgeGateway.Proofs.Outbox.Queue
import EdgeGateway.Proofs.Schedule.Depot
import EdgeGateway.Proofs.Schedule.Event
import EdgeGateway.Proofs.Schedule.System
import EdgeGateway.Proofs.Schedule.Key
import EdgeGateway.Proofs.Schedule.Pass
import EdgeGateway.Proofs.Schedule.View
import EdgeGateway.Proofs.Schedule.Batch
import EdgeGateway.Proofs.Schedule.Fifo
import EdgeGateway.Proofs.Schedule.Slot
import EdgeGateway.Proofs.Json.Written
import EdgeGateway.Proofs.Telemetry.Entry
import EdgeGateway.Proofs.Backlog.EntryKey
import EdgeGateway.Proofs.Backlog.Mirror
import EdgeGateway.Proofs.Backlog.Refinement
import EdgeGateway.Proofs.Schedule.Remaining
import EdgeGateway.Proofs.Schedule.Wakeup
import EdgeGateway.Proofs.Backlog.Shelf
import EdgeGateway.Proofs.Session.Reference
import EdgeGateway.Proofs.Drain.Gate
import EdgeGateway.Proofs.Channel.Opening
import EdgeGateway.Proofs.Exchange.Departure
import EdgeGateway.Proofs.Exchange.Basic
import EdgeGateway.Proofs.Exchange.Grammar
import EdgeGateway.Proofs.Exchange.Loop
import EdgeGateway.Proofs.Exchange.Leave
import EdgeGateway.Proofs.Exchange.Shutdown
import EdgeGateway.Proofs.CommandLine.Process
import EdgeGateway.Proofs.Channel.Textual
import EdgeGateway.Proofs.CommandLine.Given
import EdgeGateway.Proofs.CommandLine.Printed
import EdgeGateway.Proofs.CommandLine.Publishable
import EdgeGateway.Proofs.CommandLine.Account
import EdgeGateway.Proofs.CommandLine.Closing
import EdgeGateway.Proofs.CommandLine.Outcome
import EdgeGateway.Proofs.CommandLine.Turns
import EdgeGateway.Proofs.Backlog.Scan
import EdgeGateway.Proofs.Console.Stream
import EdgeGateway.Proofs.Backlog.Queued
import EdgeGateway.Proofs.Drain.Batch
import EdgeGateway.Proofs.Drain.Round
import EdgeGateway.Proofs.Drain.Course
import EdgeGateway.Proofs.Drain.ClosedForm
import EdgeGateway.Proofs.Drain.Salvage
import EdgeGateway.Proofs.Channel.Readdress
import EdgeGateway.Proofs.Exchange.Authority
import EdgeGateway.Proofs.Backlog.Isolation
import EdgeGateway.Proofs.Channel.Key
import EdgeGateway.Proofs.Outbound.Address
import EdgeGateway.Proofs.Decimal.Layout
import EdgeGateway.Proofs.Json.Grammar
import EdgeGateway.Proofs.Json.Reading
import EdgeGateway.Proofs.Json.Number
import EdgeGateway.Proofs.Json.Worth
import EdgeGateway.Proofs.Payload.Batch
import EdgeGateway.Proofs.Payload.Command
import EdgeGateway.Proofs.Backlog.Contents
import EdgeGateway.Proofs.Payload.Configuration
import EdgeGateway.Proofs.Router.Validity
import EdgeGateway.Proofs.Exchange.Separation
import EdgeGateway.Proofs.Schedule.PassStep
import EdgeGateway.Proofs.Schedule.Arrival
import EdgeGateway.Proofs.Schedule.Refusal
import EdgeGateway.Proofs.Schedule.Polling
