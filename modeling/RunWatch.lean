import RunWatch.Activity
import RunWatch.Api.Dialogue
import RunWatch.Api.Endpoint
import RunWatch.Api.Fault
import RunWatch.Api.Request
import RunWatch.Api.Route
import RunWatch.Api.Settings
import RunWatch.Api.Transmission
import RunWatch.Binary64.Basic
import RunWatch.Binary64.Decimal
import RunWatch.Binary64.Shortest
import RunWatch.Cache.Cache
import RunWatch.Cache.Catalog
import RunWatch.Cache.Fault
import RunWatch.Cache.Listing
import RunWatch.Cache.Published
import RunWatch.Cache.RunBoard
import RunWatch.Cache.SchedulePlan
import RunWatch.Cache.Search
import RunWatch.Cache.TicketDesk
import RunWatch.Cache.Work
import RunWatch.Calendar.Date
import RunWatch.Calendar.Instant
import RunWatch.Calendar.Stamp
import RunWatch.Environment
import RunWatch.Http.Credentials
import RunWatch.Http.DomainName
import RunWatch.Http.DomainName.Mapping
import RunWatch.Http.Failure
import RunWatch.Http.Host
import RunWatch.Http.Message
import RunWatch.Http.Percent
import RunWatch.Http.Url
import RunWatch.Json.Codec
import RunWatch.Json.Reader
import RunWatch.Json.Shape
import RunWatch.Json.Tree
import RunWatch.Json.Value
import RunWatch.Json.Writer
import RunWatch.Log
import RunWatch.Log.Filter
import RunWatch.Main
import RunWatch.Platform.Agent
import RunWatch.Platform.Component
import RunWatch.Platform.Event
import RunWatch.Platform.Kind
import RunWatch.Platform.Measurement
import RunWatch.Platform.Page
import RunWatch.Platform.Profile
import RunWatch.Platform.Project
import RunWatch.Platform.Record
import RunWatch.Platform.Run
import RunWatch.Platform.Schedule
import RunWatch.Platform.Status
import RunWatch.Platform.TestOutcome
import RunWatch.Proofs.Api.Addresses
import RunWatch.Proofs.Api.Answers
import RunWatch.Proofs.Api.Bodies
import RunWatch.Proofs.Api.Exchanges
import RunWatch.Proofs.Api.Finding
import RunWatch.Proofs.Api.Queries
import RunWatch.Proofs.Api.Roots
import RunWatch.Proofs.Binary64.Decimal
import RunWatch.Proofs.Binary64.Rounding
import RunWatch.Proofs.Binary64.Shortest
import RunWatch.Proofs.Cache.Catalog.Halves
import RunWatch.Proofs.Cache.Catalog.Moves
import RunWatch.Proofs.Cache.Catalog.Searches
import RunWatch.Proofs.Cache.Catalog.Update
import RunWatch.Proofs.Cache.Channel
import RunWatch.Proofs.Cache.Failures
import RunWatch.Proofs.Cache.Listing
import RunWatch.Proofs.Cache.Overlap
import RunWatch.Proofs.Cache.OwnRecord
import RunWatch.Proofs.Cache.Renewal
import RunWatch.Proofs.Cache.RunBoard.Graphs
import RunWatch.Proofs.Cache.RunBoard.Refresh
import RunWatch.Proofs.Cache.RunBoard.Renewal
import RunWatch.Proofs.Cache.SchedulePlan
import RunWatch.Proofs.Cache.SchedulePlan.Needs
import RunWatch.Proofs.Cache.Search
import RunWatch.Proofs.Cache.SingleChanges
import RunWatch.Proofs.Cache.Tickets
import RunWatch.Proofs.Cache.Tickets.Histories
import RunWatch.Proofs.Cache.Work
import RunWatch.Proofs.Calendar.Order
import RunWatch.Proofs.Calendar.Stamp
import RunWatch.Proofs.Ensemble
import RunWatch.Proofs.Ensemble.Alone
import RunWatch.Proofs.Ensemble.Conversation
import RunWatch.Proofs.Ensemble.Ending
import RunWatch.Proofs.Ensemble.Likeness
import RunWatch.Proofs.Ensemble.Outdated
import RunWatch.Proofs.Ensemble.Parts
import RunWatch.Proofs.Ensemble.Renewal
import RunWatch.Proofs.Ensemble.Requests
import RunWatch.Proofs.Ensemble.Splits
import RunWatch.Proofs.Json.Floats
import RunWatch.Proofs.Json.Lawful
import RunWatch.Proofs.Json.Legible
import RunWatch.Proofs.Json.Reading
import RunWatch.Proofs.Json.Trees
import RunWatch.Proofs.Past
import RunWatch.Proofs.Platform.Project
import RunWatch.Proofs.Platform.Records
import RunWatch.Proofs.Rollup.Alerts
import RunWatch.Proofs.Rollup.Dataset
import RunWatch.Proofs.Rollup.Groups
import RunWatch.Proofs.Rollup.Overview
import RunWatch.Proofs.Rollup.Severity
import RunWatch.Proofs.Rollup.Tally
import RunWatch.Proofs.Selection.Agreement
import RunWatch.Proofs.Selection.Calls
import RunWatch.Proofs.Selection.Interruption
import RunWatch.Proofs.Selection.Keeper
import RunWatch.Proofs.Selection.Keeping
import RunWatch.Proofs.Selection.Mirror
import RunWatch.Proofs.Selection.Recovery
import RunWatch.Proofs.Selection.Restart
import RunWatch.Proofs.TaskGraph.Acyclic
import RunWatch.Proofs.TaskGraph.Clock
import RunWatch.Proofs.TaskGraph.Covering
import RunWatch.Proofs.TaskGraph.Links
import RunWatch.Proofs.TaskGraph.Places
import RunWatch.Proofs.TaskGraph.Reachability
import RunWatch.Proofs.Uuid
import RunWatch.Proofs.Watch.Chains
import RunWatch.Proofs.Watch.Cycles
import RunWatch.Proofs.Watch.Histories
import RunWatch.Proofs.Watch.Stages
import RunWatch.Proofs.Watch.Startup
import RunWatch.Proofs.Watch.Surveys
import RunWatch.Proofs.Watch.Transitions
import RunWatch.Rehearsal
import RunWatch.Rollup.Alerts
import RunWatch.Rollup.Overview
import RunWatch.Rollup.Severity
import RunWatch.Rollup.Tally
import RunWatch.Selection.Disk
import RunWatch.Selection.FileTree
import RunWatch.Selection.Keeper
import RunWatch.Selection.Projects
import RunWatch.Selection.Session
import RunWatch.Selection.StateFile
import RunWatch.Selection.Storage
import RunWatch.TaskGraph
import RunWatch.Text.Alphanumeric
import RunWatch.Text.Blank
import RunWatch.Text.CodeTable
import RunWatch.Text.Described
import RunWatch.Text.Direction
import RunWatch.Text.Joining
import RunWatch.Text.Lossy
import RunWatch.Text.Mark
import RunWatch.Text.Normal
import RunWatch.Text.Normal.CombiningClass
import RunWatch.Text.Normal.Decomposition
import RunWatch.Text.Numeral
import RunWatch.Text.Punycode
import RunWatch.Text.Upper
import RunWatch.Uuid
import RunWatch.Watch.Cadence
import RunWatch.Watch.Settings
import RunWatch.Watch.Startup
import RunWatch.Watch.Transition
import RunWatch.Watch.Watcher
