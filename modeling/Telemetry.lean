import Telemetry.Catalog
import Telemetry.CommandLine
import Telemetry.CommandLine.Words
import Telemetry.Config
import Telemetry.Decimal.Dyadic
import Telemetry.Decimal.Layout
import Telemetry.Decimal.Reading
import Telemetry.Decimal.Shortest
import Telemetry.Device
import Telemetry.Device.Loop
import Telemetry.Document
import Telemetry.Document.Device
import Telemetry.Document.Fields
import Telemetry.Document.Schema
import Telemetry.Error
import Telemetry.Filter
import Telemetry.Fixtures
import Telemetry.Gateway
import Telemetry.Gateway.Config
import Telemetry.Gateway.Example
import Telemetry.Json
import Telemetry.Keyed
import Telemetry.Main
import Telemetry.Proofs.Queue
import Telemetry.Proofs.Store.Run
import Telemetry.Queue
import Telemetry.Register
import Telemetry.Roster
import Telemetry.Signal
import Telemetry.Simulator
import Telemetry.Site
import Telemetry.Site.Reading
import Telemetry.Site.Task
import Telemetry.Store
import Telemetry.Text.Blank
import Telemetry.Text.Numbered
import Telemetry.Text.Quoted
import Telemetry.Timestamp
import Telemetry.Toml
import Telemetry.Toml.Scalar
import Telemetry.Toml.Table
import Telemetry.Toml.Text
import Telemetry.Value
import Telemetry.Proofs.Store.Ledger
import Telemetry.Proofs.Store.Client
import Telemetry.Proofs.Store.Barrier
import Telemetry.Proofs.Desk
import Telemetry.Proofs.Desk.Registry
import Telemetry.Proofs.Desk.Conveyance
import Telemetry.Proofs.Store.Watch
import Telemetry.Proofs.Store.Delivery
import Telemetry.Proofs.Store.Subscription
import Telemetry.Proofs.Catalog.Delivery
import Telemetry.Proofs.Catalog.Index
import Telemetry.Proofs.Catalog.Announcement
import Telemetry.Proofs.Keyed
import Telemetry.Proofs.Value
import Telemetry.Proofs.Store.State
import Telemetry.Proofs.Store.Mirror
import Telemetry.Proofs.Store.Command
import Telemetry.Proofs.Config
import Telemetry.Proofs.Store.Progress
import Telemetry.Proofs.Store.Snapshot
import Telemetry.Proofs.Capacity
import Telemetry.Proofs.Store.Outcome
import Telemetry.Proofs.Device
import Telemetry.Proofs.Catalog.Roll
import Telemetry.Proofs.Catalog.Sequence
import Telemetry.Proofs.Desk.Listing
import Telemetry.Proofs.Store.Listing
import Telemetry.Proofs.Catalog.Listing
import Telemetry.Proofs.Catalog.Progress
import Telemetry.Proofs.Listing
import Telemetry.Proofs.Store.Abandonment
import Telemetry.Proofs.Store.Isolation
import Telemetry.Proofs.Device.Control
import Telemetry.Proofs.Signal
import Telemetry.Proofs.Store.Shutdown
import Telemetry.Proofs.Desk.Settlement
import Telemetry.Proofs.Store.Cancellation
import Telemetry.Proofs.Catalog.Cancellation
import Telemetry.Proofs.Cancellation
import Telemetry.Proofs.Site
import Telemetry.Proofs.Site.Run
import Telemetry.Proofs.Catalog.Errand
import Telemetry.Proofs.Desk.Attendance
import Telemetry.Proofs.Site.Holding
import Telemetry.Proofs.Store.Errand
import Telemetry.Proofs.Gateway.Crew
import Telemetry.Proofs.Gateway.Store
import Telemetry.Proofs.Gateway.Catalog
import Telemetry.Proofs.Gateway.Parts
import Telemetry.Proofs.Gateway.Duty
import Telemetry.Proofs.Gateway.Run
import Telemetry.Proofs.Gateway.Course
import Telemetry.Proofs.Gateway.Progress
import Telemetry.Proofs.Gateway.Setup
import Telemetry.Proofs.Gateway.Forwarding
import Telemetry.Proofs.Store.Counters
import Telemetry.Proofs.Catalog.Contents
import Telemetry.Proofs.Decimal
import Telemetry.Proofs.Gateway.Validation
import Telemetry.Proofs.Document.Integer
import Telemetry.Proofs.Json.Scanning
import Telemetry.Proofs.Json.Writing
import Telemetry.Proofs.Document.Fields
import Telemetry.Proofs.Document.Rearrangement
import Telemetry.Proofs.Document.Schema
import Telemetry.Proofs.Selection
import Telemetry.Proofs.Filter
import Telemetry.Proofs.Store.Publication
import Telemetry.Proofs.Device.Steady
import Telemetry.Proofs.Store.Portion
import Telemetry.Proofs.Device.Feed
import Telemetry.Proofs.Text.Bytes
import Telemetry.Proofs.Register
import Telemetry.Proofs.Device.Sample
import Telemetry.Proofs.Fleet
import Telemetry.Proofs.Store.Breakdown
