import RequestBridge.App
import RequestBridge.Bridge.Basic
import RequestBridge.Bridge.History
import RequestBridge.Bridge.Requests
import RequestBridge.Bridge.Routers
import RequestBridge.Bridge.Servers
import RequestBridge.Bridge.Tasks
import RequestBridge.Chain.Act
import RequestBridge.Chain.Handlers
import RequestBridge.Chain.Pipeline
import RequestBridge.Chain.Stages
import RequestBridge.Client.Answer
import RequestBridge.Client.Exchange
import RequestBridge.Client.Waiting
import RequestBridge.Config.Basic
import RequestBridge.Config.Loader
import RequestBridge.Config.Record
import RequestBridge.Config.Schema
import RequestBridge.Decimal.Shortest
import RequestBridge.Decimal.Text
import RequestBridge.Dispatch.Cancellation
import RequestBridge.Dispatch.Completion
import RequestBridge.Dispatch.Contest
import RequestBridge.Dispatch.Desk
import RequestBridge.Dispatch.Settlement
import RequestBridge.Document
import RequestBridge.Engine.Basic
import RequestBridge.Engine.View
import RequestBridge.Failure
import RequestBridge.Frame.Basic
import RequestBridge.Frame.Request
import RequestBridge.Frame.Response
import RequestBridge.Json.Number
import RequestBridge.Json.Reader
import RequestBridge.Json.Writer
import RequestBridge.Log.Event
import RequestBridge.Log.Filter
import RequestBridge.Log.Settings
import RequestBridge.Method
import RequestBridge.Metrics.Basic
import RequestBridge.Metrics.Exposition
import RequestBridge.Path
import RequestBridge.Request
import RequestBridge.Response
import RequestBridge.Routing.Group
import RequestBridge.Routing.Registry
import RequestBridge.Routing.Router
import RequestBridge.Text.Alphanumeric
import RequestBridge.Text.Cut
import RequestBridge.Text.Printable
import RequestBridge.Text.Quoted
import RequestBridge.Text.Utf8
import RequestBridge.Toml.Reader
import RequestBridge.Toml.Scalar
import RequestBridge.Toml.Table
import RequestBridge.Toml.Text
import RequestBridge.Workers.Launch
import RequestBridge.Workers.Shared
import RequestBridge.Proofs.Frame.RoundTrip
import RequestBridge.Proofs.Text.Spelling
import RequestBridge.Proofs.Frame.Exact
import RequestBridge.Proofs.Bridge.Traffic
import RequestBridge.Proofs.Engine.Journal
import RequestBridge.Proofs.Bridge.Step
import RequestBridge.Proofs.Bridge.Trace
import RequestBridge.Proofs.Bridge.Conservation
import RequestBridge.Proofs.Bridge.Flags
import RequestBridge.Proofs.Bridge.Drive
import RequestBridge.Proofs.Bridge.Alike
import RequestBridge.Proofs.Bridge.Endings
import RequestBridge.Proofs.Bridge.Independence
import RequestBridge.Proofs.Bridge.Answers
import RequestBridge.Proofs.Bridge.Standing
import RequestBridge.Proofs.Bridge.Transparency
import RequestBridge.Proofs.Routing.Series
import RequestBridge.Proofs.Routing.Phases
import RequestBridge.Proofs.Routing.Agreement
import RequestBridge.Proofs.Bridge.Holdings
import RequestBridge.Proofs.Bridge.Routine
import RequestBridge.Proofs.Bridge.Turns
import RequestBridge.Proofs.Bridge.Lifecycle
import RequestBridge.Proofs.Bridge.Seat
import RequestBridge.Proofs.Bridge.Starts
import RequestBridge.Proofs.Bridge.Calm
import RequestBridge.Proofs.Bridge.Retry
import RequestBridge.Proofs.Bridge.Decision
import RequestBridge.Proofs.Bridge.Tally
import RequestBridge.Proofs.Bridge.Handovers
import RequestBridge.Proofs.Bridge.Sights
import RequestBridge.Proofs.Bridge.Schedules
import RequestBridge.Proofs.Path.Normal
import RequestBridge.Proofs.Routing.Trees
import RequestBridge.Proofs.Engine.Custody
import RequestBridge.Proofs.Bridge.Estate
import RequestBridge.Proofs.Bridge.Owners
import RequestBridge.Proofs.Bridge.Releases
import RequestBridge.Proofs.Bridge.Callback
import RequestBridge.Proofs.Bridge.Listings
import RequestBridge.Proofs.Bridge.Lookups
import RequestBridge.Proofs.Chain.Steps
import RequestBridge.Proofs.Chain.Passage
import RequestBridge.Proofs.Chain.Onion
import RequestBridge.Proofs.Chain.Composition
import RequestBridge.Proofs.Chain.Insertion
import RequestBridge.Proofs.Chain.Logging
import RequestBridge.Proofs.Frame.Cursor
import RequestBridge.Proofs.Frame.Diagnosis
import RequestBridge.Proofs.Frame.Replies
import RequestBridge.Proofs.Path.Monoid
import RequestBridge.Proofs.Bridge.Resolution
import RequestBridge.Proofs.Dispatch.Contest
import RequestBridge.Proofs.Config.FrameLimit
import RequestBridge.Proofs.Config.Forms
import RequestBridge.Proofs.Config.Sources
import RequestBridge.Proofs.Config.Denotation
import RequestBridge.Proofs.Client.Waiting
import RequestBridge.Proofs.Workers.Shared
